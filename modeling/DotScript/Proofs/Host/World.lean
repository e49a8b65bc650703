import DotScript.Builtin.Call
import DotScript.Method.Call

/-!
# What becomes of the world

An operation on the world may print, read and write files.  What was printed before stays as it was,
input is read from its front, and nothing changes whether values are echoed or what sorts long lists.
`Host.LeadsTo` says so of two worlds, `Builtin.call_leads` of every call of a built-in and
`Value.invoke_leads` of every call of a method.
-/

namespace DotScript

/-- A line and what follows it make up the stream. -/
theorem splitLine_append (bytes : List UInt8) :
    (splitLine bytes).1 ++ (splitLine bytes).2 = bytes := by
  induction bytes with
  | nil => rfl
  | cons byte rest ih =>
      rw [splitLine]
      split
      · rfl
      · rw [List.cons_append, ih]

theorem streamLine_suffix (bytes : List UInt8) : (streamLine bytes).2 <:+ bytes := by
  rw [streamLine]
  split
  · exact List.nil_suffix
  · exact ⟨_, splitLine_append bytes⟩

/-- Some of the input has been read. -/
inductive Input.LeadsTo : Input → Input → Prop
  | closed : LeadsTo .closed .closed
  | lines {before after : List String} (left : after <:+ before) :
      LeadsTo (.lines before) (.lines after)
  | stream {before after : List UInt8} (left : after <:+ before) :
      LeadsTo (.stream before) (.stream after)

namespace Input.LeadsTo

theorem refl (input : Input) : input.LeadsTo input := by
  cases input with
  | closed => exact .closed
  | lines lines => exact .lines (List.suffix_refl lines)
  | stream bytes => exact .stream (List.suffix_refl bytes)

theorem trans {before middle after : Input} (first : before.LeadsTo middle)
    (next : middle.LeadsTo after) : before.LeadsTo after := by
  cases first with
  | closed => exact next
  | lines left =>
      cases next with
      | lines left' => exact .lines (left'.trans left)
  | stream left =>
      cases next with
      | stream left' => exact .stream (left'.trans left)

end Input.LeadsTo

/-- Operations can make the first world the second one, files apart. -/
structure Host.LeadsTo (before after : Host) : Prop where
  /-- What has been printed stays, and more may have been printed after it. -/
  output : ∃ printed, after.output = before.output ++ printed
  input : before.input.LeadsTo after.input
  echo : after.echo = before.echo
  sorter : after.sorter = before.sorter

namespace Host.LeadsTo

theorem refl (host : Host) : host.LeadsTo host :=
  ⟨⟨"", String.append_empty.symm⟩, .refl _, rfl, rfl⟩

theorem trans {before middle after : Host} (first : before.LeadsTo middle)
    (next : middle.LeadsTo after) : before.LeadsTo after := by
  obtain ⟨printed, output⟩ := first.output
  obtain ⟨printed', output'⟩ := next.output
  refine ⟨⟨printed ++ printed', ?_⟩, first.input.trans next.input, next.echo.trans first.echo,
    next.sorter.trans first.sorter⟩
  rw [output', output, String.append_assoc]

end Host.LeadsTo

namespace HostM

variable {α β : Type}

/-- A sequence goes on in the world that its first part leaves behind, unless that part fails. -/
theorem run_bind (first : HostM α) (next : α → HostM β) (host : Host) :
    (first >>= next).run.run host =
      match first.run.run host with
      | (.ok value, after) => (next value).run.run after
      | (.error failure, after) => (.error failure, after) := by
  simp only [ExceptT.run, StateT.run, bind, ExceptT.bind, ExceptT.mk, StateT.bind]
  cases first host with
  | mk outcome after => cases outcome <;> rfl

/-- The operation leads from every world to the one it leaves behind. -/
def Leads (operation : HostM α) : Prop :=
  ∀ host : Host, host.LeadsTo (operation.run.run host).2

namespace Leads

theorem pure (value : α) : Leads (pure value) :=
  fun host => .refl host

theorem throw (failure : Failure) : Leads (throw failure : HostM α) :=
  fun host => .refl host

theorem fault (cause : Fault) : Leads (fault cause : HostM α) :=
  .throw _

theorem get : Leads (get : HostM Host) :=
  fun host => .refl host

theorem ofExcept (result : Except Fault α) : Leads (ofExcept result) := by
  cases result with
  | ok value => exact .pure value
  | error cause => exact .fault cause

theorem bind {first : HostM α} {next : α → HostM β} (leads : first.Leads)
    (later : ∀ value, (next value).Leads) : (first >>= next).Leads := by
  intro host
  have here := leads host
  rw [run_bind]
  cases result : first.run.run host with
  | mk outcome middle =>
      rw [result] at here
      cases outcome with
      | error failure => exact here
      | ok value => exact here.trans (later value middle)

theorem print (text : String) : (print text).Leads :=
  fun _ => ⟨⟨text, rfl⟩, .refl _, rfl, rfl⟩

theorem keepDisk (disk : Disk) : (keepDisk disk).Leads :=
  fun _ => ⟨⟨"", String.append_empty.symm⟩, .refl _, rfl, rfl⟩

theorem sort (function : String) (items : List Value) : (sort function items).Leads := by
  intro host
  rw [sort_run]
  exact .refl host

theorem readLine : readLine.Leads := by
  rintro ⟨output, input, disk, echo, sorter⟩
  have unprinted : output = output ++ "" := String.append_empty.symm
  cases input with
  | closed => exact .refl _
  | lines lines =>
      cases lines with
      | nil => exact .refl _
      | cons line rest => exact ⟨⟨"", unprinted⟩, .lines (List.suffix_cons line rest), rfl, rfl⟩
  | stream bytes =>
      rw [readLine_run_stream]
      exact ⟨⟨"", unprinted⟩, .stream (streamLine_suffix bytes), rfl, rfl⟩

end Leads
end HostM

namespace Builtin

open HostM

theorem readInput_leads : readInput.Leads :=
  .bind .readLine fun _ => .pure _

theorem fileText_leads (function : String) (path : Value) : (fileText function path).Leads := by
  refine .bind (.ofExcept _) fun path => .bind .get fun host => ?_
  split
  · exact .pure _
  · exact .fault _

theorem writeFile_leads (path data : Value) (mode : Option Value) :
    (writeFile path data mode).Leads := by
  refine .bind (.ofExcept _) fun path => .bind (.ofExcept _) fun append => .bind .get fun host => ?_
  split
  · exact .bind (.keepDisk _) fun _ => .pure _
  · exact .fault _

theorem sortedItems_leads (collection : Value) (descending : Bool) :
    (sortedItems collection descending).Leads :=
  .bind (.ofExcept _) fun _ => .bind (.sort _ _) fun _ => .pure _

/-- Built-ins print after what was printed before, and read from the front of the input. -/
theorem call_leads (builtin : Builtin) (args : List Value) : (builtin.call args).Leads := by
  unfold call
  split
  · exact .bind (.print _) fun _ => .pure _
  · exact .bind (.print _) fun _ => .pure _
  · exact readInput_leads
  · exact .bind (.print _) fun _ => readInput_leads
  · exact .bind (fileText_leads _ _) fun _ => .pure _
  · exact .bind (fileText_leads _ _) fun _ => .pure _
  · exact writeFile_leads _ _ _
  · exact writeFile_leads _ _ _
  · exact sortedItems_leads _ _
  · exact sortedItems_leads _ _
  · exact .ofExcept _

end Builtin

/-- Methods leave the world alone. -/
theorem Value.invoke_leads (receiver : Value) (name : String) (args : List Value) :
    (receiver.invoke name args).Leads := by
  unfold invoke
  split
  · exact .bind (.sort _ _) fun _ => .pure _
  · exact .ofExcept _
end DotScript
