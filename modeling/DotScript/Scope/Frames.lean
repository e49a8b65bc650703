import DotScript.Fault.Diagnostic
import DotScript.Value.Basic

/-!
# Scopes

The names of one frame, and the frames of a program.
-/

namespace DotScript

/-! ## Bindings of names

The bindings of one frame keep the order in which the names were first bound. -/

/-- Names and their values, in the order in which the names were first bound. -/
abbrev Bindings := List (String × Value)

namespace Bindings

/-- The value of a name. -/
def get? (name : String) : Bindings → Option Value
  | [] => none
  | (bound, value) :: rest => if bound = name then some value else get? name rest

/-- Binds a name: in its place if it is bound already, at the end otherwise. -/
def set (name : String) (value : Value) : Bindings → Bindings
  | [] => [(name, value)]
  | (bound, old) :: rest =>
    if bound = name then (name, value) :: rest else (bound, old) :: set name value rest

/-- Binds names one after the other. -/
def ofList (pairs : List (String × Value)) : Bindings :=
  pairs.foldl (fun bindings (name, value) => set name value bindings) []

/-- The bound names. -/
def names (bindings : Bindings) : List String :=
  bindings.map (·.1)

/-- A name that was just bound has its new value. -/
@[simp]
theorem get?_set_self (name : String) (value : Value) (bindings : Bindings) :
    (bindings.set name value).get? name = some value := by
  induction bindings with
  | nil => simp [set, get?]
  | cons binding rest ih =>
      by_cases same : binding.1 = name
      · simp [set, get?, same]
      · simp [set, get?, same, ih]

/-- Binding a name leaves the values of the other names alone. -/
theorem get?_set_of_ne {name other : String} (different : other ≠ name) (value : Value)
    (bindings : Bindings) : (bindings.set name value).get? other = bindings.get? other := by
  induction bindings with
  | nil => simp [set, get?, different.symm]
  | cons binding rest ih =>
      by_cases same : binding.1 = name
      · simp [set, get?, same, different.symm]
      · by_cases found : binding.1 = other
        · simp [set, get?, found, different]
        · simp [set, get?, same, found, ih]

end Bindings

/-! ## Scope frames

There is one frame for the names outside functions and one for every function call.  Each frame
knows the frames around it, from the nearest to the outermost; all of these were made before it.
Reading a name goes through these frames; a name is declared and changed in its own frame only. -/

/-- A frame. -/
structure Frame where
  /-- The frames around this one, the nearest first. -/
  outer : List FrameId
  /-- The names declared in this frame. -/
  bindings : Bindings

/-- The frames around a frame were made before it. -/
def AreLinked (frames : Array Frame) : Prop :=
  ∀ (id : FrameId) (frame : Frame), frames[id]? = some frame → ∀ other ∈ frame.outer, other < id

/-- All frames made so far. -/
structure Scopes where
  /-- The frames by their numbers. -/
  frames : Array Frame
  /-- No frame is around itself, not even through others. -/
  linked : AreLinked frames

theorem areLinked_singleton (bindings : Bindings) : AreLinked #[{ outer := [], bindings }] := by
  intro id frame found
  cases id with
  | zero =>
      cases found
      exact List.forall_mem_nil _
  | succ id => simp at found

/-- Frames stay linked if only their bindings change. -/
theorem AreLinked.modify {frames : Array Frame} (linked : AreLinked frames) (id : FrameId)
    (change : Bindings → Bindings) :
    AreLinked (frames.modify id fun frame => { frame with bindings := change frame.bindings }) := by
  intro place frame found
  rw [Array.getElem?_modify] at found
  split at found
  · obtain ⟨before, there, rfl⟩ := Option.map_eq_some_iff.1 found
    exact linked place before there
  · exact linked place frame found

/-- A frame may be added inside frames that are there. -/
theorem AreLinked.push {frames : Array Frame} (linked : AreLinked frames) {frame : Frame}
    (around : ∀ other ∈ frame.outer, other < frames.size) : AreLinked (frames.push frame) := by
  intro place found there
  rw [Array.getElem?_push] at there
  split at there
  next last =>
    cases there
    rwa [last]
  next => exact linked place found there

namespace Scopes

/-- The frame outside functions, without any names. -/
def empty : Scopes where
  frames := #[{ outer := [], bindings := [] }]
  linked := areLinked_singleton []

/-- The number of the frame outside functions. -/
def globalId : FrameId := 0

/-- The names declared in a frame. -/
def bindings (scopes : Scopes) (id : FrameId) : Bindings :=
  match scopes.frames[id]? with
  | some frame => frame.bindings
  | none => []

/-- The frames around a frame, the nearest first. -/
def outer (scopes : Scopes) (id : FrameId) : List FrameId :=
  match scopes.frames[id]? with
  | some frame => frame.outer
  | none => []

/-- The frames through which a name is read from a frame that is there, the nearest first. -/
def chain (scopes : Scopes) (id : FrameId) : List FrameId :=
  match scopes.frames[id]? with
  | some frame => id :: frame.outer
  | none => []

/-- Names are read through frames that are there. -/
theorem lt_size_of_mem_chain {scopes : Scopes} {id other : FrameId}
    (member : other ∈ scopes.chain id) : other < scopes.frames.size := by
  unfold chain at member
  split at member
  next frame found =>
    have present : id < scopes.frames.size := (Array.getElem?_eq_some_iff.1 found).1
    rcases List.mem_cons.1 member with rfl | around
    · exact present
    · exact Nat.lt_trans (scopes.linked id frame found other around) present
  next => cases member

/-- The value of a name in the nearest frame that declares it. -/
def lookup (scopes : Scopes) (id : FrameId) (name : String) : Option Value :=
  (scopes.chain id).findSome? fun frame => (scopes.bindings frame).get? name

/-- Changes the names declared in a frame. -/
def updateBindings (scopes : Scopes) (id : FrameId) (change : Bindings → Bindings) : Scopes where
  frames := scopes.frames.modify id fun frame => { frame with bindings := change frame.bindings }
  linked := scopes.linked.modify id change

/-- Declares a name in a frame. -/
def define (scopes : Scopes) (id : FrameId) (name : String) (value : Value) : Scopes :=
  scopes.updateBindings id (·.set name value)

/-- Forgets the names declared in a frame. -/
def clear (scopes : Scopes) (id : FrameId) : Scopes :=
  scopes.updateBindings id fun _ => []

/-- The value of a name, which has to be bound. -/
def get (scopes : Scopes) (id : FrameId) (name : String) : Except ScopeFault Value :=
  match scopes.lookup id name with
  | some value => .ok value
  | none => .error (.variable name)

/-- Why a name cannot be changed in a frame; there is no reason if the frame declares it. -/
def assignFault? (scopes : Scopes) (id : FrameId) (name : String) : Option ScopeFault :=
  if ((scopes.bindings id).get? name).isSome then none
  else if (scopes.outer id).isEmpty then some (.assignGlobal name)
  else if (scopes.lookup id name).isSome then some (.assignOuter name)
  else some (.assignLocal name)

/-- Changes a name that is declared in a frame. -/
def assign (scopes : Scopes) (id : FrameId) (name : String) (value : Value) :
    Except ScopeFault Scopes :=
  match scopes.assignFault? id name with
  | none => .ok (scopes.define id name value)
  | some fault => .error fault

/-- Makes a frame for a call of a function that was declared in the frame `home`. -/
def enter (scopes : Scopes) (home : FrameId) (bindings : Bindings) : FrameId × Scopes :=
  (scopes.frames.size,
    { frames := scopes.frames.push { outer := scopes.chain home, bindings }
      linked := scopes.linked.push fun _ => lt_size_of_mem_chain })

/-- Adds the names that are not among the earlier ones. -/
def addNames (names : List String) (more : List String) : List String :=
  more.foldl (fun names name => if names.contains name then names else names ++ [name]) names

/-- The names that can be read from a frame, those of the nearest frame first, each once. -/
def names (scopes : Scopes) (id : FrameId) : List String :=
  (scopes.chain id).foldl (fun names frame => addNames names (scopes.bindings frame).names) []

end Scopes

/-- The constants that every program starts with, each with its double. -/
def constants : List (String × Float) :=
  [("PI", 3.14159265), ("e", 2.7182818)]

/-- Declares the constants in a frame. -/
def Scopes.install (scopes : Scopes) (id : FrameId) : Scopes :=
  constants.foldl (fun scopes (name, value) => scopes.define id name (.float value)) scopes

end DotScript
