import DotScript.Proofs.Run.Keeping

/-!
# Computations that break off

A computation on the machine breaks off if it halts unfinished, an operation on the world if it
panics.  A sequence breaks off in its first part or after it, and of the operations on the world only
those break off that sort many items whose comparisons contradict each other: `contradict_of_call`
says so of built-ins, `contradict_of_invoke` of methods.
-/

namespace DotScript

/-! ## Operations that break off -/

namespace HostM

variable {α β : Type}

/-- The operation breaks off in a world. -/
def BreaksOff (operation : HostM α) (host : Host) : Prop :=
  (operation.run.run host).1 = .error .panic

/-- The operation breaks off in no world. -/
def NeverBreaksOff (operation : HostM α) : Prop :=
  ∀ host, ¬ operation.BreaksOff host

/-- A sequence breaks off in its first part or after it. -/
theorem BreaksOff.of_bind {first : HostM α} {next : α → HostM β} {host : Host}
    (off : (first >>= next).BreaksOff host) :
    first.BreaksOff host ∨
      ∃ value after, first.run.run host = (.ok value, after) ∧ (next value).BreaksOff after := by
  rw [BreaksOff, run_bind] at off
  cases result : first.run.run host with
  | mk outcome after =>
      rw [result] at off
      cases outcome with
      | error failure =>
          have panics : Except.error failure = (.error .panic : Except Failure β) := off
          cases panics
          exact .inl (congrArg Prod.fst result)
      | ok value => exact .inr ⟨value, after, rfl, off⟩

namespace NeverBreaksOff

theorem pure (value : α) : NeverBreaksOff (pure value : HostM α) := nofun

theorem get : NeverBreaksOff (get : HostM Host) := nofun

theorem print (text : String) : NeverBreaksOff (print text) := nofun

theorem keepDisk (disk : Disk) : NeverBreaksOff (keepDisk disk) := nofun

theorem fault (cause : Fault) : NeverBreaksOff (fault cause : HostM α) := nofun

theorem ofExcept (result : Except Fault α) : NeverBreaksOff (ofExcept result) := by
  cases result with
  | ok value => exact .pure value
  | error cause => exact .fault cause

theorem bind {first : HostM α} {next : α → HostM β} (never : NeverBreaksOff first)
    (later : ∀ value, NeverBreaksOff (next value)) : NeverBreaksOff (first >>= next) := by
  intro host off
  rcases off.of_bind with off | ⟨value, after, _, off⟩
  · exact never host off
  · exact later value after off

theorem readLine : NeverBreaksOff readLine := by
  rintro ⟨output, input, disk, echo, sorter⟩ off
  cases input with
  | closed => cases off
  | lines lines => cases lines <;> cases off
  | stream bytes =>
      rw [BreaksOff, readLine_run_stream] at off
      cases line : (streamLine bytes).1 with
      | ok line? =>
          rw [line] at off
          cases off
      | error error =>
          rw [line] at off
          cases off

end NeverBreaksOff

/-- Nothing but contradicting comparisons of many items lets a sort break off. -/
theorem contradict_of_sort {function : String} {items : List Value} {host : Host}
    (off : (sort function items).BreaksOff host) : Value.Contradict items := by
  rw [BreaksOff, sort_run] at off
  exact Value.contradict_of_sort off

end HostM

namespace Builtin

open HostM

theorem readInput_neverBreaksOff : readInput.NeverBreaksOff :=
  .bind .readLine fun _ => .pure _

theorem fileText_neverBreaksOff (function : String) (path : Value) :
    (fileText function path).NeverBreaksOff := by
  refine .bind (.ofExcept _) fun path => .bind .get fun host => ?_
  split
  · exact .pure _
  · exact .fault _

theorem writeFile_neverBreaksOff (path data : Value) (mode : Option Value) :
    (writeFile path data mode).NeverBreaksOff := by
  refine .bind (.ofExcept _) fun path => .bind (.ofExcept _) fun append => .bind .get fun host => ?_
  split
  · exact .bind (.keepDisk _) fun _ => .pure _
  · exact .fault _

theorem contradict_of_sortedItems {collection : Value} {descending : Bool} {host : Host}
    (off : (sortedItems collection descending).BreaksOff host) :
    ∃ items, collection.expectItems "sorted" = .ok items ∧ Value.Contradict items := by
  unfold sortedItems at off
  cases expected : collection.expectItems "sorted" with
  | error cause =>
      rw [expected] at off
      cases off
  | ok items =>
      rw [expected] at off
      rcases off.of_bind with off | ⟨_, _, ⟨⟩, off⟩
      · cases off
      rcases off.of_bind with off | ⟨ascending, _, _, off⟩
      · exact ⟨items, rfl, contradict_of_sort off⟩
      · exact absurd off (NeverBreaksOff.pure _ _)

/-- The only built-in that breaks off is the one that sorts. -/
theorem contradict_of_call {builtin : Builtin} {args : List Value} {host : Host}
    (off : (builtin.call args).BreaksOff host) :
    builtin = .sorted ∧ ∃ collection rest items, args = collection :: rest ∧
      collection.expectItems "sorted" = .ok items ∧ Value.Contradict items := by
  have never {operation : HostM Value} (never : operation.NeverBreaksOff)
      (off : operation.BreaksOff host) {goal : Prop} : goal := absurd off (never host)
  unfold call at off
  split at off
  · exact never (.bind (.print _) fun _ => .pure _) off
  · exact never (.bind (.print _) fun _ => .pure _) off
  · exact never readInput_neverBreaksOff off
  · exact never (.bind (.print _) fun _ => readInput_neverBreaksOff) off
  · exact never (.bind (fileText_neverBreaksOff _ _) fun _ => .pure _) off
  · exact never (.bind (fileText_neverBreaksOff _ _) fun _ => .pure _) off
  · exact never (writeFile_neverBreaksOff _ _ _) off
  · exact never (writeFile_neverBreaksOff _ _ _) off
  · obtain ⟨items, found⟩ := contradict_of_sortedItems off
    exact ⟨rfl, _, _, items, rfl, found⟩
  · obtain ⟨items, found⟩ := contradict_of_sortedItems off
    exact ⟨rfl, _, _, items, rfl, found⟩
  · exact never (.ofExcept _) off

end Builtin

/-- The only method that breaks off is the one that sorts. -/
theorem Value.contradict_of_invoke {receiver : Value} {name : String} {args : List Value}
    {host : Host} (off : (receiver.invoke name args).BreaksOff host) :
    ∃ items, receiver.toSort? name args = some items ∧ Contradict items := by
  unfold invoke at off
  split at off
  next items to_sort =>
    rcases off.of_bind with off | ⟨ascending, _, _, off⟩
    · exact ⟨items, to_sort, HostM.contradict_of_sort off⟩
    · exact absurd off (HostM.NeverBreaksOff.pure _ _)
  next => exact absurd off (HostM.NeverBreaksOff.ofExcept _ _)

namespace Run

/-! ## Runs that break off -/

/-- The computation breaks off and is left unfinished. -/
def BreaksOff {α : Type} (computation : Run α) (machine : Machine) (cause : OpenEnd) : Prop :=
  (computation.on machine).1 = .error (.unfinished cause)

/-- The computation never breaks off. -/
def NeverBreaksOff {α : Type} (computation : Run α) : Prop :=
  ∀ machine cause, ¬ BreaksOff computation machine cause

section Parts

variable {α β : Type}

/-- A sequence breaks off in its first part or after it. -/
theorem BreaksOff.of_bind {first : Run α} {next : α → Run β} {machine : Machine} {cause : OpenEnd}
    (out : BreaksOff (first >>= next) machine cause) :
    BreaksOff first machine cause ∨
      ∃ value after, first.on machine = (.ok value, after) ∧ BreaksOff (next value) after cause := by
  cases result : (first >>= next).on machine with
  | mk outcome after =>
      rw [BreaksOff, result] at out
      obtain rfl : outcome = .error (.unfinished cause) := out
      rcases on_bind_eq_error result with halted | ⟨value, middle, ended, halted⟩
      · exact .inl (congrArg Prod.fst halted)
      · exact .inr ⟨value, middle, ended, congrArg Prod.fst halted⟩

/-- What follows a part that never breaks off is what does. -/
theorem BreaksOff.of_bind_next {first : Run α} {next : α → Run β} {machine : Machine}
    {cause : OpenEnd} (never : NeverBreaksOff first) (out : BreaksOff (first >>= next) machine cause) :
    ∃ value after, first.on machine = (.ok value, after) ∧ BreaksOff (next value) after cause :=
  out.of_bind.resolve_left (never machine cause)

/-- What comes before a part that never breaks off is what does. -/
theorem BreaksOff.of_bind_first {first : Run α} {next : α → Run β} {machine : Machine}
    {cause : OpenEnd} (out : BreaksOff (first >>= next) machine cause)
    (never : ∀ value, NeverBreaksOff (next value)) : BreaksOff first machine cause := by
  rcases out.of_bind with out | ⟨value, after, _, out⟩
  · exact out
  · exact absurd out (never value after cause)

namespace NeverBreaksOff

theorem pure (value : α) : NeverBreaksOff (pure value : Run α) := nofun

theorem get : NeverBreaksOff (get : Run Machine) := nofun

theorem modify (change : Machine → Machine) : NeverBreaksOff (modify change : Run Unit) := nofun

theorem fault (span : Span) (cause : Fault) : NeverBreaksOff (fault span cause : Run α) := nofun

theorem bind {first : Run α} {next : α → Run β} (never : NeverBreaksOff first)
    (later : ∀ value, NeverBreaksOff (next value)) : NeverBreaksOff (first >>= next) :=
  fun machine cause out => never machine cause (out.of_bind_first later)

theorem ofExcept (span : Span) (result : Except Fault α) : NeverBreaksOff (ofExcept span result) := by
  cases result with
  | ok value => exact .pure value
  | error cause => exact .fault span cause

theorem readName (name : String) (span : Span) : NeverBreaksOff (readName name span) := by
  refine .bind .get fun machine => ?_
  split
  · exact .pure _
  · exact .fault _ _

theorem assign (name : String) (value : Value) (span : Span) :
    NeverBreaksOff (assign name value span) := by
  refine .bind .get fun machine => ?_
  split
  · exact .modify _
  · exact .fault _ _

theorem assignValue (name : String) (op : Option BinaryOp) (value : Value) (span : Span) :
    NeverBreaksOff (assignValue name op value span) := by
  cases op with
  | none => exact .assign name value span
  | some op =>
      exact .bind (.readName _ _) fun old => .bind (.ofExcept _ _) fun value => .assign _ _ _

theorem echo (value : Value) : NeverBreaksOff (echo value) := by
  refine .bind .get fun machine => ?_
  split
  · exact .modify _
  · exact .pure _

end NeverBreaksOff

/-- An operation on the world breaks off as a sort. -/
theorem BreaksOff.of_ofHost {span : Span} {operation : HostM α} {machine : Machine}
    {cause : OpenEnd} (out : BreaksOff (ofHost span operation) machine cause) :
    cause = .sort ∧ operation.BreaksOff machine.host := by
  rw [BreaksOff, on_ofHost] at out
  cases result : (operation.run.run machine.host).1 with
  | ok value =>
      rw [result] at out
      cases out
  | error failure =>
      rw [result] at out
      cases failure with
      | fault found => cases out
      | system error => cases out
      | panic =>
          cases out
          exact ⟨rfl, result⟩

end Parts

end Run
end DotScript
