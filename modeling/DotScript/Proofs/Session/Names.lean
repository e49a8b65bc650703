import DotScript.Proofs.Scope.Names
import DotScript.Proofs.Session.Reset
import Mathlib.Data.String.Basic

/-!
# Names that a session completes

A session completes names from those that are bound outside functions.  Cells bind names there and
never forget one, whether they fail or not, so only a reset makes a name go away; the constants are
bound anew even then.
-/

namespace DotScript
namespace Session

/-- A name is bound outside functions. -/
def Binds (session : Session) (name : String) : Prop :=
  ((session.machine.scopes.bindings Scopes.globalId).get? name).isSome

section Complete

variable (session : Session) (start : String)

/-- The completions are the bound names that start so. -/
theorem mem_complete_iff {name : String} :
    name ∈ session.complete start ↔ start.toList <+: name.toList ∧ session.Binds name := by
  rw [complete, List.mem_mergeSort, List.mem_filter, List.isPrefixOf_iff_prefix, and_comm,
    Scopes.mem_names_iff, Scopes.lookup_globalId, Binds]

/-- The completions are in ascending order, each once. -/
theorem complete_pairwise_lt : (session.complete start).Pairwise (· < ·) := by
  have trans (left middle right : String) (first : decide (left ≤ middle) = true)
      (next : decide (middle ≤ right) = true) : decide (left ≤ right) = true :=
    decide_eq_true (le_trans (of_decide_eq_true first) (of_decide_eq_true next))
  have total (left right : String) : (decide (left ≤ right) || decide (right ≤ left)) = true := by
    rw [Bool.or_eq_true, decide_eq_true_eq, decide_eq_true_eq]
    exact le_total left right
  have ascending := List.pairwise_mergeSort trans total
    ((session.machine.scopes.names Scopes.globalId).filter (start.toList.isPrefixOf ·.toList))
  have distinct : (session.complete start).Nodup :=
    (List.mergeSort_perm _ _).nodup_iff.2
      ((Scopes.nodup_names session.machine.scopes Scopes.globalId).filter _)
  refine ascending.imp₂ (fun left right le different => ?_) distinct
  exact lt_of_le_of_ne (of_decide_eq_true le) different

end Complete

/-- A cell keeps the names that are bound, even if it fails. -/
theorem runSource_keepsNames (turns : Nat) (code : String) :
    Run.Keeps Machine.KeepsNames (runSource turns code) :=
  .bind (Run.load_keepsNames code) fun program =>
    runCell_keeps (Run.executeTop_keepsNames turns) none program

/-- Every step but a reset keeps the names that are bound. -/
theorem binds_step {turns : Nat} {session : Session} {step : Step} (stays : step ≠ .reset)
    {name : String} (bound : session.Binds name) : (session.step turns step).2.Binds name := by
  cases step with
  | execute code =>
      change Binds (session.execute turns code).2 name
      rw [Binds, execute_machine]
      exact (runSource_keepsNames turns code session.machine).bound Scopes.globalId name bound
  | complete start => exact bound
  | count => exact bound
  | reset => exact absurd rfl stays

theorem binds_steps {turns : Nat} {session : Session} {later : List Step} (stays : .reset ∉ later)
    {name : String} (bound : session.Binds name) : (session.steps turns later).2.Binds name := by
  induction later generalizing session with
  | nil => exact bound
  | cons step rest ih =>
      obtain ⟨first, others⟩ := not_or.1 (mt List.mem_cons.2 stays)
      exact ih others (binds_step (Ne.symm first) bound)

/-- The constants are bound, also after a reset. -/
theorem binds_constant (turns : Nat) (input : Input) (disk : Disk) (sorter : Sorter)
    (history : List Step)
    {name : String} (constant : name ∈ constants.map (·.1)) :
    ((start input disk sorter).steps turns history).2.Binds name := by
  have kept (session : Session) (bound : session.Binds name) :
      (session.steps turns history).2.Binds name := by
    induction history generalizing session with
    | nil => exact bound
    | cons step rest ih =>
        refine ih (session.step turns step).2 ?_
        by_cases stays : step = .reset
        · subst stays
          exact Scopes.isSome_get?_install constant
        · exact binds_step stays bound
  exact kept (start input disk sorter) (Scopes.isSome_get?_install constant)

/-- Names, their values and their completions agree.  In all frames that operations and programs
make, no frame is around itself, the listed names are, each once, those that have a value, and this
is the value in the nearest frame that has one.  After any steps of a session the completions are,
in ascending order and each once, the names that are bound outside functions and start so; a name
that is bound there stays bound up to the next reset, and the constants are always bound. -/
theorem names_agree_with_values_and_completions :
    (∀ scopes : Scopes, scopes.Reached →
      (∀ id, ¬ Relation.TransGen (fun child parent => scopes.parent? child = some parent) id id) ∧
      (∀ id, (scopes.names id).Nodup ∧
        ∀ name, name ∈ scopes.names id ↔ (scopes.lookup id name).isSome) ∧
      ∀ id name value, scopes.lookup id name = some value ↔ scopes.Nearest name value id) ∧
    ∀ (turns : Nat) (input : Input) (disk : Disk) (sorter : Sorter) (history : List Step),
      let session := ((start input disk sorter).steps turns history).2
      (∀ start, (session.complete start).Pairwise (· < ·) ∧
        ∀ name, name ∈ session.complete start ↔
          start.toList <+: name.toList ∧ session.Binds name) ∧
      (∀ later, .reset ∉ later → ∀ name, session.Binds name →
        (session.steps turns later).2.Binds name) ∧
      session.Binds "PI" ∧ session.Binds "e" := by
  constructor
  · intro scopes reached
    exact ⟨scopes.not_transGen_parent?,
      fun id => ⟨scopes.nodup_names id, fun name => Scopes.mem_names_iff⟩,
      fun id name value => reached.isTree.lookup_eq_some_iff name value⟩
  · intro turns input disk sorter history session
    exact ⟨fun start => ⟨session.complete_pairwise_lt start, fun name =>
        session.mem_complete_iff start⟩,
      fun later stays name bound => binds_steps stays bound,
      binds_constant turns input disk sorter history (by decide),
      binds_constant turns input disk sorter history (by decide)⟩

/-- In a call, a name of the function hides the one outside, and the other names outside are
visible; the constants are completed after a cell that fails. -/
theorem local_name_hides_global_one :
    let outside := Scopes.empty.install Scopes.globalId
    let scopes := (outside.enter Scopes.globalId [("e", .int 3)]).2
    let session := ((start .closed .empty .strict).steps 1 [.reset, .execute "e of"]).2
    scopes.names 1 = ["e", "PI"] ∧ scopes.Nearest "e" (.int 3) 1 ∧
      "e" ∈ session.complete "e" ∧ (session.steps 1 [.count]).2.Binds "e" := by
  intro outside scopes session
  have reached : scopes.Reached := ((Scopes.Reached.empty.define 0 _ _).define 0 _ _).enter 0 _
  have frames := names_agree_with_values_and_completions.1 scopes reached
  have cells := names_agree_with_values_and_completions.2 1 .closed .empty .strict
    [.reset, .execute "e of"]
  refine ⟨by decide, (frames.2.2 1 "e" (.int 3)).1 rfl, ?_, ?_⟩
  · exact ((cells.1 "e").2 "e").2 ⟨List.prefix_refl _, cells.2.2.2⟩
  · exact cells.2.1 [.count] (by simp) "e" cells.2.2.2

end Session
end DotScript
