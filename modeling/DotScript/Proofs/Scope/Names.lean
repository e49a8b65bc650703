import DotScript.Proofs.Run.Frames
import Mathlib.Logic.Relation

/-!
# Names that can be read from a frame

The frames around a frame are the frame right around it and those around that one: `IsTree`.  Every
operation on frames keeps this, and so reading a name walks from each frame to the one right around
it.  The names that can be read from a frame are then those that a reader finds.
-/

namespace DotScript

namespace Bindings

/-- The bound names are those that have a value. -/
theorem mem_names_iff {bindings : Bindings} {name : String} :
    name ∈ bindings.names ↔ (bindings.get? name).isSome := by
  induction bindings with
  | nil => simp [names, get?]
  | cons binding rest ih =>
      rw [names] at ih
      by_cases same : binding.1 = name
      · simp [names, get?, same]
      · simp [names, get?, same, Ne.symm same, ih]

/-- Binding a name keeps the names that are bound. -/
theorem isSome_get?_set {bindings : Bindings} {name other : String} {value : Value}
    (bound : (bindings.get? name).isSome) : ((bindings.set other value).get? name).isSome := by
  by_cases same : name = other
  · rw [same, get?_set_self]
    rfl
  · rwa [get?_set_of_ne same]

end Bindings

namespace Scopes

variable {scopes : Scopes} {id parent : FrameId} {name : String} {value : Value}

/-! ## The tree of frames -/

/-- The frame right around a frame. -/
def parent? (scopes : Scopes) (id : FrameId) : Option FrameId :=
  (scopes.outer id).head?

/-- The frames around a frame are the one right around it and those around that one. -/
def IsTree (scopes : Scopes) : Prop :=
  ∀ (id parent : FrameId) (rest : List FrameId),
    scopes.outer id = parent :: rest → scopes.outer parent = rest

/-- A value is that of a name in the nearest frame that has one. -/
inductive Nearest (scopes : Scopes) (name : String) (value : Value) : FrameId → Prop
  | here {id : FrameId} :
      (scopes.bindings id).get? name = some value → Nearest scopes name value id
  | around {id parent : FrameId} :
      (scopes.bindings id).get? name = none → scopes.parent? id = some parent →
      Nearest scopes name value parent → Nearest scopes name value id

theorem lt_of_parent?_eq_some (around : scopes.parent? id = some parent) : parent < id := by
  have inside : parent ∈ scopes.outer id := List.mem_of_head? around
  unfold outer at inside
  split at inside
  next frame found => exact scopes.linked id frame found parent inside
  next => cases inside

/-- No frame is around itself, not even through others. -/
theorem not_transGen_parent? (scopes : Scopes) (id : FrameId) :
    ¬ Relation.TransGen (fun child parent => scopes.parent? child = some parent) id id := by
  intro loop
  have descends : ∀ last, Relation.TransGen
      (fun child parent => scopes.parent? child = some parent) id last → last < id := by
    intro last path
    induction path with
    | single step => exact lt_of_parent?_eq_some step
    | tail _ step ih => exact Nat.lt_trans (lt_of_parent?_eq_some step) ih
  exact Nat.lt_irrefl id (descends id loop)

theorem chain_eq (present : id < scopes.frames.size) : scopes.chain id = id :: scopes.outer id := by
  simp only [chain, outer, Array.getElem?_eq_getElem present]

/-- Frames that are not there have no names and nothing around them. -/
theorem chain_cases (scopes : Scopes) (id : FrameId) :
    scopes.chain id = id :: scopes.outer id ∨
      scopes.chain id = [] ∧ scopes.bindings id = [] ∧ scopes.outer id = [] := by
  cases found : scopes.frames[id]? with
  | some frame =>
      left
      simp only [chain, outer, found]
  | none =>
      right
      simp only [chain, bindings, outer, found, and_self]

/-- In a tree, the frames through which a name is read are the frame itself and those through which
it is read from the frame right around it. -/
theorem IsTree.chain_parent (tree : scopes.IsTree) (around : scopes.parent? id = some parent) :
    scopes.chain id = id :: scopes.chain parent := by
  obtain ⟨rest, outer_eq⟩ : ∃ rest, scopes.outer id = parent :: rest :=
    List.head?_eq_some_iff.1 around
  rcases chain_cases scopes id with chain | ⟨-, -, nothing⟩
  · have inside : parent ∈ scopes.chain id := by
      rw [chain, outer_eq]
      exact List.mem_cons_of_mem _ List.mem_cons_self
    rw [chain, chain_eq (lt_size_of_mem_chain inside), outer_eq, tree id parent rest outer_eq]
  · rw [nothing] at outer_eq
    cases outer_eq

/-- Reading a name finds its value in the nearest frame that has one. -/
theorem IsTree.lookup_eq_some_iff (tree : scopes.IsTree) (name : String) (value : Value) :
    scopes.lookup id name = some value ↔ scopes.Nearest name value id := by
  constructor
  · intro found
    induction id using Nat.strongRecOn with
    | ind id ih =>
        rcases chain_cases scopes id with chain | ⟨chain, -⟩
        · rw [lookup, chain, List.findSome?_cons] at found
          cases here : (scopes.bindings id).get? name with
          | some there =>
              rw [here] at found
              exact .here (here.trans found)
          | none =>
              rw [here] at found
              cases around : scopes.parent? id with
              | none =>
                  rw [List.head?_eq_none_iff.1 around] at found
                  cases found
              | some parent =>
                  refine .around here around (ih parent (lt_of_parent?_eq_some around) ?_)
                  rw [tree.chain_parent around] at chain
                  rw [lookup, (List.cons.inj chain).2]
                  exact found
        · rw [lookup, chain] at found
          cases found
  · intro nearest
    induction nearest with
    | @here id here =>
        rcases chain_cases scopes id with chain | ⟨-, nothing, -⟩
        · rw [lookup, chain, List.findSome?_cons, here]
        · rw [nothing] at here
          cases here
    | @around id parent here around _ ih =>
        rw [lookup, tree.chain_parent around, List.findSome?_cons, here]
        exact ih

/-! ## Listed names -/

/-- Names are added once each. -/
theorem addNames_spec {names : List String} (nodup : names.Nodup) (more : List String) :
    (addNames names more).Nodup ∧
      ∀ name, name ∈ addNames names more ↔ name ∈ names ∨ name ∈ more := by
  induction more generalizing names with
  | nil => exact ⟨nodup, fun name => (or_iff_left List.not_mem_nil).symm⟩
  | cons first rest ih =>
      change (addNames (if names.contains first then names else names ++ [first]) rest).Nodup ∧
        ∀ name, name ∈ addNames (if names.contains first then names else names ++ [first]) rest ↔ _
      split
      next known =>
        obtain ⟨distinct, listed⟩ := ih nodup
        have inside : first ∈ names := List.contains_iff_mem.1 known
        refine ⟨distinct, fun name => ?_⟩
        rw [listed, List.mem_cons]
        constructor
        · exact Or.imp_right .inr
        · rintro (earlier | rfl | later)
          · exact .inl earlier
          · exact .inl inside
          · exact .inr later
      next new =>
        have outside : first ∉ names := fun inside => new (List.contains_iff_mem.2 inside)
        have all_distinct : (names ++ [first]).Nodup :=
          List.nodup_append.2 ⟨nodup, List.pairwise_singleton _ first, fun other inside last one => by
            rw [List.mem_singleton.1 one]
            exact fun same => outside (same ▸ inside)⟩
        obtain ⟨distinct, listed⟩ := ih all_distinct
        refine ⟨distinct, fun name => ?_⟩
        rw [listed, List.mem_append, List.mem_singleton, List.mem_cons, or_assoc]

/-- The names of some frames are listed once each. -/
theorem foldl_addNames_spec (scopes : Scopes) {names : List String} (nodup : names.Nodup)
    (ids : List FrameId) :
    (ids.foldl (fun names frame => addNames names (scopes.bindings frame).names) names).Nodup ∧
      ∀ name, name ∈ ids.foldl
        (fun names frame => addNames names (scopes.bindings frame).names) names ↔
          name ∈ names ∨ ∃ id ∈ ids, ((scopes.bindings id).get? name).isSome := by
  induction ids generalizing names with
  | nil => exact ⟨nodup, fun name => by simp⟩
  | cons first rest ih =>
      obtain ⟨distinct, added⟩ := addNames_spec nodup (scopes.bindings first).names
      obtain ⟨all_distinct, listed⟩ := ih distinct
      refine ⟨all_distinct, fun name => ?_⟩
      simp only [List.foldl_cons, listed, added, Bindings.mem_names_iff, List.mem_cons,
        exists_eq_or_imp, or_assoc]

theorem nodup_names (scopes : Scopes) (id : FrameId) : (scopes.names id).Nodup :=
  (foldl_addNames_spec scopes List.nodup_nil (scopes.chain id)).1

/-- A name is listed if and only if reading it finds a value. -/
theorem mem_names_iff : name ∈ scopes.names id ↔ (scopes.lookup id name).isSome := by
  rw [names, (foldl_addNames_spec scopes List.nodup_nil (scopes.chain id)).2 name, lookup,
    List.findSome?_isSome_iff]
  exact or_iff_right List.not_mem_nil

/-! ## What operations keep -/

/-- Names that are bound in a frame stay bound in it, and a tree stays a tree. -/
structure KeepsNames (before after : Scopes) : Prop where
  bound : ∀ id name, ((before.bindings id).get? name).isSome →
    ((after.bindings id).get? name).isSome
  tree : before.IsTree → after.IsTree

theorem KeepsNames.refl (scopes : Scopes) : scopes.KeepsNames scopes :=
  ⟨fun _ _ => id, id⟩

theorem KeepsNames.trans {before middle after : Scopes} (first : before.KeepsNames middle)
    (next : middle.KeepsNames after) : before.KeepsNames after :=
  ⟨fun id name bound => next.bound id name (first.bound id name bound),
    fun tree => next.tree (first.tree tree)⟩

theorem updateBindings_outer (scopes : Scopes) (id : FrameId) (change : Bindings → Bindings)
    (other : FrameId) : (scopes.updateBindings id change).outer other = scopes.outer other := by
  simp only [outer, updateBindings, Array.getElem?_modify]
  by_cases same : id = other
  · cases scopes.frames[other]? <;> simp [same]
  · simp [same]

/-- Frames stay where they are if only their bindings change. -/
theorem IsTree.updateBindings (tree : scopes.IsTree) (id : FrameId)
    (change : Bindings → Bindings) : (scopes.updateBindings id change).IsTree := by
  intro child parent rest around
  rw [updateBindings_outer] at around ⊢
  exact tree child parent rest around

theorem keepsNames_define (scopes : Scopes) (id : FrameId) (name : String) (value : Value) :
    scopes.KeepsNames (scopes.define id name value) where
  bound other found bound := by
    by_cases same : other = id
    · subst same
      by_cases present : other < scopes.frames.size
      · rw [define_bindings scopes present]
        exact Bindings.isSome_get?_set bound
      · rw [bindings, Array.getElem?_eq_none (Nat.le_of_not_lt present)] at bound
        cases bound
    · rwa [bindings_eq_of_frame_eq (define_frame_of_ne scopes same name value)]
  tree tree := tree.updateBindings id _

/-- A new frame goes inside those through which names are read from the frame of the function. -/
theorem IsTree.enter (tree : scopes.IsTree) (home : FrameId) (locals : Bindings) :
    (scopes.enter home locals).2.IsTree := by
  have entered (id : FrameId) : (scopes.enter home locals).2.outer id =
      if id = scopes.frames.size then scopes.chain home else scopes.outer id := by
    simp only [outer, Scopes.enter, Array.getElem?_push]
    by_cases same : id = scopes.frames.size
    · simp only [if_pos same]
    · simp only [if_neg same]
  intro id parent rest around
  have old : parent < scopes.frames.size ∧ scopes.outer parent = rest := by
    rw [entered] at around
    split at around
    · refine ⟨lt_size_of_mem_chain (around ▸ List.mem_cons_self), ?_⟩
      rcases chain_cases scopes home with chain | ⟨chain, -⟩
      · obtain ⟨rfl, rest_eq⟩ := List.cons.inj (chain.symm.trans around)
        exact rest_eq
      · cases chain.symm.trans around
    · refine ⟨?_, tree id parent rest around⟩
      have inside : parent ∈ scopes.chain id := by
        rcases chain_cases scopes id with chain | ⟨-, -, nothing⟩
        · rw [chain, around]
          exact List.mem_cons_of_mem _ List.mem_cons_self
        · cases nothing.symm.trans around
      exact lt_size_of_mem_chain inside
  rw [entered, if_neg (Nat.ne_of_lt old.1), old.2]

theorem keepsNames_enter (scopes : Scopes) (home : FrameId) (locals : Bindings) :
    scopes.KeepsNames (scopes.enter home locals).2 where
  bound id name bound := by
    by_cases present : id < scopes.frames.size
    · rwa [bindings_eq_of_frame_eq (enter_frame_of_lt scopes home locals present)]
    · rw [bindings, Array.getElem?_eq_none (Nat.le_of_not_lt present)] at bound
      cases bound
  tree tree := tree.enter home locals

/-- The constants are bound in the frame outside functions. -/
theorem isSome_get?_install {name : String} (constant : name ∈ constants.map (·.1)) :
    (((empty.install globalId).bindings globalId).get? name).isSome := by
  simp only [constants, List.map_cons, List.map_nil, List.mem_cons, List.not_mem_nil,
    or_false] at constant
  rcases constant with rfl | rfl <;> rfl

/-- No frame is around the one outside functions. -/
theorem lookup_globalId (scopes : Scopes) (name : String) :
    scopes.lookup globalId name = (scopes.bindings globalId).get? name := by
  have alone : scopes.outer globalId = [] := by
    cases around : scopes.outer globalId with
    | nil => rfl
    | cons parent rest =>
        have inner : scopes.parent? globalId = some parent := List.head?_eq_some_iff.2 ⟨rest, around⟩
        exact absurd (lt_of_parent?_eq_some inner) (Nat.not_lt_zero parent)
  rcases chain_cases scopes globalId with chain | ⟨chain, nothing, -⟩
  · rw [lookup, chain, alone, List.findSome?_cons]
    cases (scopes.bindings globalId).get? name <;> rfl
  · rw [lookup, chain, nothing]
    rfl

end Scopes

/-! ## What runs keep -/

/-- A machine binds all names in all frames that the first one binds. -/
def Machine.KeepsNames (before after : Machine) : Prop :=
  before.scopes.KeepsNames after.scopes

instance : IsPreorder Machine Machine.KeepsNames where
  refl machine := .refl machine.scopes
  trans _ _ _ first next := Scopes.KeepsNames.trans first next

namespace Run

theorem bearsBinding_keepsNames (run : BodyRunner)
    (bodies : ∀ body, Keeps Machine.KeepsNames (run body)) :
    BearsBinding Machine.KeepsNames run where
  world machine _ _ := .refl machine.scopes
  call closure args body machine :=
    (machine.scopes.keepsNames_enter closure.home _).trans (bodies body (machine.enter closure args))
  define name value machine := machine.scopes.keepsNames_define machine.current name value

theorem executeTop_keepsNames (turns : Nat) (stmt : Stmt) :
    Keeps Machine.KeepsNames (executeTop turns stmt) :=
  executeTop_keeps bearsBinding_keepsNames turns stmt

theorem load_keepsNames (source : String) : Keeps Machine.KeepsNames (load source) :=
  load_keeps (fun machine _ => .refl machine.scopes) source

theorem evalSource_keepsNames (turns : Nat) (source : String) :
    Keeps Machine.KeepsNames (evalSource turns source) :=
  .bind (load_keepsNames source) fun program =>
    runProgram_keeps (executeTop_keepsNames turns) _ program

end Run

namespace Scopes

/-- Frames that come of any sequence of operations and of whole programs. -/
inductive Reached : Scopes → Prop
  | empty : Reached .empty
  | define {scopes : Scopes} (reached : Reached scopes) (id : FrameId) (name : String)
      (value : Value) : Reached (scopes.define id name value)
  | assign {scopes after : Scopes} (reached : Reached scopes) {id : FrameId} {name : String}
      {value : Value} (assigned : scopes.assign id name value = .ok after) : Reached after
  | clear {scopes : Scopes} (reached : Reached scopes) (id : FrameId) : Reached (scopes.clear id)
  | enter {scopes : Scopes} (reached : Reached scopes) (home : FrameId) (locals : Bindings) :
      Reached (scopes.enter home locals).2
  | run {machine : Machine} (reached : Reached machine.scopes) (turns : Nat) (source : String) :
      Reached ((Run.evalSource turns source).on machine).2.scopes

/-- Operations and programs make trees of frames. -/
theorem Reached.isTree {scopes : Scopes} (reached : scopes.Reached) : scopes.IsTree := by
  induction reached with
  | empty =>
      intro id parent rest around
      cases id with
      | zero => cases around
      | succ id => cases around
  | define _ id name value ih => exact ih.updateBindings id _
  | @assign scopes after _ id name value assigned ih =>
      unfold Scopes.assign at assigned
      split at assigned
      · cases assigned
        exact ih.updateBindings id _
      · cases assigned
  | clear _ id ih => exact ih.updateBindings id _
  | enter _ home locals ih => exact ih.enter home locals
  | @run machine _ turns source ih => exact (Run.evalSource_keepsNames turns source machine).tree ih

end Scopes
end DotScript
