import DotScript.Method.Call
import DotScript.Proofs.Host.World
import DotScript.Proofs.Tree.Parts
import DotScript.Proofs.Value.Hereditary

/-!
# Operations keep values sound

A value is well formed if its integers are in their one form, its sets hold no item twice and its
function sets have one function for each number of parameters.  What a run keeps is a little more: a
value is sound if, besides, a property of statements holds throughout the bodies of its functions.
Operators, built-ins and methods make sound values of sound values.
-/

namespace DotScript

/-- An integer that fits into a word is kept in one. -/
def Integer.IsCanonical : Integer → Prop
  | .word _ => True
  | .wide value _ => fitsWord value = false

theorem Integer.isCanonical (integer : Integer) : integer.IsCanonical := by
  cases integer with
  | word value => exact trivial
  | wide value beyond => exact beyond

/-- A function set as declarations build it. -/
structure FunctionSet.IsProper (functions : FunctionSet) : Prop where
  nonempty : functions.overloads ≠ []
  /-- No two functions take the same number of arguments. -/
  arities : functions.overloads.Pairwise fun earlier later =>
    earlier.declaration.arity ≠ later.declaration.arity
  /-- No function has two parameters of one name. -/
  params : ∀ closure ∈ functions.overloads, closure.declaration.params.Nodup

namespace Value

/-- A value in order, apart from the values in it. -/
def IsWellFormed : Value → Prop
  | .int value => value.IsCanonical
  | .set items => items.Pairwise fun earlier later => earlier.looseEq later = false
  | .function functions => functions.IsProper
  | _ => True

/-- A value in order, with functions whose statements have the property, apart from the values in
it. -/
def IsSound (property : Stmt → Prop) : Value → Prop
  | .set items => items.Pairwise fun earlier later => earlier.looseEq later = false
  | .function functions =>
    functions.IsProper ∧ ∀ closure ∈ functions.overloads, EveryBody property closure.declaration.body
  | _ => True

/-- A value that is sound at every depth. -/
def Sound (property : Stmt → Prop) (value : Value) : Prop :=
  value.Every (IsSound property)

end Value

/-- Every result of an operation that does not fail has the property. -/
def Ensures {ε α : Type} (result : Except ε α) (post : α → Prop) : Prop :=
  ∀ value, result = .ok value → post value

namespace Ensures

variable {ε α β : Type} {post : α → Prop}

theorem ok {value : α} (holds : post value) : Ensures (.ok value : Except ε α) post := by
  intro found same
  cases same
  exact holds

theorem error (cause : ε) : Ensures (.error cause : Except ε α) post := nofun

theorem bind {after : β → Prop} {result : Except ε α} {next : α → Except ε β}
    (first : Ensures result post) (later : ∀ value, post value → Ensures (next value) after) :
    Ensures (result >>= next) after := by
  cases result with
  | error cause => exact nofun
  | ok value => exact later value (first value rfl)

theorem map {after : β → Prop} {result : Except ε α} {change : α → β}
    (first : Ensures result fun value => after (change value)) :
    Ensures (result.map change) after := by
  cases result with
  | error cause => exact nofun
  | ok value => exact .ok (first value rfl)

theorem mapError {δ : Type} {result : Except ε α} {change : ε → δ} (ensures : Ensures result post) :
    Ensures (result.mapError change) post := by
  cases result with
  | error cause => exact .error _
  | ok value => exact .ok (ensures value rfl)

theorem any (result : Except ε α) : Ensures result fun _ => True :=
  fun _ _ => trivial

end Ensures

namespace Value

variable {property : Stmt → Prop}

section Parts

@[simp] theorem sound_none : Value.none.Sound property := trivial

@[simp] theorem sound_bool (value : Bool) : (Value.bool value).Sound property := trivial

@[simp] theorem sound_int (value : Integer) : (Value.int value).Sound property := trivial

@[simp] theorem sound_float (value : Float) : (Value.float value).Sound property := trivial

@[simp] theorem sound_string (value : String) : (Value.string value).Sound property := trivial

@[simp] theorem sound_flag (holds : Bool) : (flag holds).Sound property := trivial

@[simp] theorem sound_ofChars (chars : List Char) : (ofChars chars).Sound property := trivial

@[simp]
theorem sound_list (items : List Value) :
    (Value.list items).Sound property ↔ ∀ item ∈ items, item.Sound property := by
  simp [Sound, every_list, IsSound]

theorem sound_set (items : List Value) :
    (Value.set items).Sound property ↔
      (items.Pairwise fun earlier later => earlier.looseEq later = false) ∧
        ∀ item ∈ items, item.Sound property := by
  simp only [Sound, every_set, IsSound]

theorem sound_function (functions : FunctionSet) :
    (Value.function functions).Sound property ↔
      functions.IsProper ∧
        ∀ closure ∈ functions.overloads, EveryBody property closure.declaration.body := by
  rfl

/-- Sound values are well formed. -/
theorem Sound.every_isWellFormed {value : Value} (sound : value.Sound property) :
    value.Every IsWellFormed := by
  induction value using Value.induction with
  | int value => exact value.isCanonical
  | list items ih =>
      rw [sound_list] at sound
      exact (every_list items).2 ⟨trivial, fun item member => ih item member (sound item member)⟩
  | set items ih =>
      rw [sound_set] at sound
      exact (every_set items).2
        ⟨sound.1, fun item member => ih item member (sound.2 item member)⟩
  | function functions => exact sound.1
  | none | bool _ | float _ | string _ => exact trivial

end Parts

/-! ## Collections -/

theorem mem_of_mem_foldl_keep {item : Value} (items kept : List Value)
    (member : item ∈ items.foldl
      (fun kept item => if memberOf item kept then kept else kept ++ [item]) kept) :
    item ∈ kept ∨ item ∈ items := by
  induction items generalizing kept with
  | nil => exact .inl member
  | cons next rest ih =>
      rw [List.foldl_cons] at member
      rcases ih _ member with found | found
      · split at found
        · exact .inl found
        · rcases List.mem_append.1 found with earlier | last
          · exact .inl earlier
          · exact .inr (List.mem_singleton.1 last ▸ List.mem_cons_self)
      · exact .inr (List.mem_cons_of_mem next found)

theorem mem_of_mem_distinct {item : Value} {items : List Value}
    (member : item ∈ distinct items) : item ∈ items := by
  rcases mem_of_mem_foldl_keep items [] member with found | found
  · cases found
  · exact found

theorem foldl_keep_pairwise (items kept : List Value)
    (apart : kept.Pairwise fun earlier later => earlier.looseEq later = false) :
    (items.foldl (fun kept item => if memberOf item kept then kept else kept ++ [item])
      kept).Pairwise fun earlier later => earlier.looseEq later = false := by
  induction items generalizing kept with
  | nil => exact apart
  | cons item rest ih =>
      rw [List.foldl_cons]
      split
      · exact ih kept apart
      · rename_i new
        apply ih
        rw [List.pairwise_append]
        refine ⟨apart, List.pairwise_singleton _ _, fun earlier member later last => ?_⟩
        rw [List.mem_singleton.1 last]
        rw [memberOf, List.any_eq_true] at new
        exact Bool.eq_false_iff.2 fun equal => new ⟨earlier, member, equal⟩

theorem distinct_pairwise (items : List Value) :
    (distinct items).Pairwise fun earlier later => earlier.looseEq later = false :=
  foldl_keep_pairwise items [] .nil

theorem sound_ofSet {items : List Value} (sound : ∀ item ∈ items, item.Sound property) :
    (ofSet items).Sound property := by
  rw [ofSet, sound_set]
  exact ⟨distinct_pairwise items, fun item member => sound item (mem_of_mem_distinct member)⟩

theorem Sound.elements {value : Value} {items : List Value} (sound : value.Sound property)
    (found : value.elements? = some items) : ∀ item ∈ items, item.Sound property := by
  cases value with
  | list parts =>
      cases found
      exact (sound_list _).1 sound
  | set parts =>
      cases found
      exact ((sound_set _).1 sound).2
  | string text =>
      cases found
      intro item member
      obtain ⟨c, -, rfl⟩ := List.mem_map.1 member
      simp
  | _ => cases found

theorem Sound.expectItems {value : Value} (sound : value.Sound property) (function : String) :
    Ensures (value.expectItems function) fun items => ∀ item ∈ items, item.Sound property := by
  cases value with
  | list items => exact .ok ((sound_list items).1 sound)
  | set items => exact .ok ((sound_set items).1 sound).2
  | _ => exact .error _

theorem Sound.expectElements {value : Value} (sound : value.Sound property) (function : String) :
    Ensures (value.expectElements function) fun items => ∀ item ∈ items, item.Sound property := by
  rw [Value.expectElements]
  cases found : value.elements? with
  | none => exact .error _
  | some items => exact .ok (sound.elements found)

theorem mem_place {item other : Value} (items : List Value) (member : other ∈ (place item items).1) :
    other = item ∨ other ∈ items := by
  induction items with
  | nil => simpa [place] using member
  | cons next rest ih =>
      rw [place] at member
      split at member
      · rcases List.mem_cons.1 member with rfl | found
        · exact .inr List.mem_cons_self
        · exact (ih found).imp_right (List.mem_cons_of_mem next)
      · exact List.mem_cons.1 member
      · exact List.mem_cons.1 member

theorem mem_foldl_insert {other : Value} (items : List Value) (sorting : Sorting)
    (member : other ∈ (items.foldl Sorting.insert sorting).descending) :
    other ∈ sorting.descending ∨ other ∈ items := by
  induction items generalizing sorting with
  | nil => exact .inl member
  | cons item rest ih =>
      rw [List.foldl_cons] at member
      rcases ih _ member with found | found
      · rcases mem_place _ found with rfl | earlier
        · exact .inr List.mem_cons_self
        · exact .inl earlier
      · exact .inr (List.mem_cons_of_mem item found)

theorem insertionSort_ensures_subset (function : String) (items : List Value) :
    Ensures (insertionSort function items) fun sorted => sorted ⊆ items := by
  rw [insertionSort]
  split
  · exact .error _
  · refine .ok fun item member => ?_
    rcases mem_foldl_insert items _ (List.mem_reverse.1 member) with found | found
    · cases found
    · exact found

/-- Sorting makes up no items. -/
theorem sort_ensures_subset (sorter : Sorter) (function : String) (items : List Value) :
    Ensures (sort sorter function items) fun sorted => sorted ⊆ items := by
  rw [sort]
  split
  · exact (insertionSort_ensures_subset function items).mapError
  · exact fun sorted arranged => (arrange_perm arranged).subset

theorem extremeFrom_ensures (function : String) (wanted : Ordering) {best : Value}
    {items : List Value} (best_sound : best.Sound property)
    (sound : ∀ item ∈ items, item.Sound property) :
    Ensures (extremeFrom function wanted best items) (Sound property) := by
  induction items generalizing best with
  | nil => exact .ok best_sound
  | cons item rest ih =>
      obtain ⟨first, later⟩ := List.forall_mem_cons.1 sound
      rw [extremeFrom]
      split
      · split
        · exact ih first later
        · exact ih best_sound later
      · exact .error _

theorem extreme_ensures (function : String) (wanted : Ordering) {items : List Value}
    (sound : ∀ item ∈ items, item.Sound property) :
    Ensures (extreme function wanted items) (Sound property) := by
  cases items with
  | nil => exact .error _
  | cons first rest =>
      obtain ⟨first_sound, later⟩ := List.forall_mem_cons.1 sound
      exact extremeFrom_ensures function wanted first_sound later

/-! ## Operators -/

theorem sound_toValue (number : Number) : number.toValue.Sound property := by
  cases number <;> exact trivial

theorem arithmetic_ensures (op : BinaryOp) (left right : Value) :
    Ensures (arithmetic op left right) (Sound property) := by
  rw [arithmetic]
  split
  · split
    · exact .error _
    · exact .map fun number _ => sound_toValue number
  · exact .error _

theorem Sound.add {left right : Value} (left_sound : left.Sound property)
    (right_sound : right.Sound property) : Ensures (left.add right) (Sound property) := by
  rw [Value.add.eq_def]
  split
  · exact .ok trivial
  · split
    · exact .ok trivial
    · exact .error _
  · split
    · exact .ok trivial
    · exact .error _
  · rename_i a b
    refine .ok ((sound_list _).2 fun item member => ?_)
    rcases List.mem_append.1 member with found | found
    · exact (sound_list a).1 left_sound item found
    · exact (sound_list b).1 right_sound item found
  · exact arithmetic_ensures _ _ _

theorem mem_of_mem_repeated {α : Type} {item : α} {items : List α} {times : Nat}
    (member : item ∈ repeated items times) : item ∈ items := by
  rw [repeated] at member
  split at member
  · cases member
  · obtain ⟨part, found, inside⟩ := List.mem_flatten.1 member
    exact (List.mem_replicate.1 found).2 ▸ inside

theorem Sound.multiply {left : Value} (left_sound : left.Sound property) (right : Value) :
    Ensures (left.multiply right) (Sound property) := by
  rw [Value.multiply.eq_def]
  split
  · exact .map fun times _ => trivial
  · exact .map fun times _ => trivial
  · rename_i items count
    refine .map fun times _ => (sound_list _).2 fun item member => ?_
    exact (sound_list items).1 left_sound item (mem_of_mem_repeated member)
  · exact arithmetic_ensures _ _ _

theorem ordered_ensures (op : BinaryOp) (holds : Ordering → Bool) (left right : Value) :
    Ensures (ordered op holds left right) (Sound property) := by
  rw [ordered]
  split
  · exact .ok trivial
  · exact .error _

/-- Operators keep values sound. -/
theorem Sound.binary {left right : Value} (left_sound : left.Sound property)
    (right_sound : right.Sound property) (op : BinaryOp) :
    Ensures (left.binary op right) (Sound property) := by
  cases op with
  | add => exact left_sound.add right_sound
  | mul => exact left_sound.multiply right
  | sub => exact arithmetic_ensures .sub left right
  | div => exact arithmetic_ensures .div left right
  | mod => exact arithmetic_ensures .mod left right
  | pow => exact arithmetic_ensures .pow left right
  | less | lessEqual | greater | greaterEqual => exact ordered_ensures _ _ _ _
  | _ => exact .ok trivial

theorem unary_ensures (op : UnaryOp) (operand : Value) :
    Ensures (operand.unary op) (Sound property) := by
  cases op with
  | negate =>
      rw [unary]
      split
      · exact .ok trivial
      · exact .ok trivial
      · exact .error _
  | not => exact .ok trivial

/-! ## Built-ins -/

theorem length_ensures (value : Value) : Ensures value.length (Sound property) := by
  cases value with
  | string text => exact .ok trivial
  | list items => exact .ok trivial
  | set items => exact .ok trivial
  | _ => exact .error _

theorem Sound.toList {value : Value} (sound : value.Sound property) :
    Ensures value.toList (Sound property) := by
  rw [Value.toList]
  cases found : value.elements? with
  | none => exact .error _
  | some items => exact .ok ((sound_list items).2 (sound.elements found))

theorem Sound.toSet {value : Value} (sound : value.Sound property) :
    Ensures value.toSet (Sound property) := by
  rw [Value.toSet]
  cases found : value.elements? with
  | none => exact .error _
  | some items => exact .ok (sound_ofSet (sound.elements found))

theorem sound_append_singleton {items : List Value} {item : Value}
    (items_sound : ∀ item ∈ items, item.Sound property) (item_sound : item.Sound property) :
    ∀ other ∈ items ++ [item], other.Sound property := by
  intro other member
  rcases List.mem_append.1 member with found | found
  · exact items_sound other found
  · exact List.mem_singleton.1 found ▸ item_sound

theorem Sound.append {collection item : Value} (sound : collection.Sound property)
    (item_sound : item.Sound property) : Ensures (collection.append item) (Sound property) := by
  cases collection with
  | list items =>
      exact .ok ((sound_list _).2 (sound_append_singleton ((sound_list items).1 sound) item_sound))
  | set items =>
      exact .ok (sound_ofSet (sound_append_singleton ((sound_set items).1 sound).2 item_sound))
  | _ => exact .error _

theorem Sound.pop {value : Value} (sound : value.Sound property) :
    Ensures value.pop (Sound property) := by
  cases value with
  | list items =>
      rw [Value.pop]
      cases found : items.getLast? with
      | none => exact .error _
      | some item => exact .ok ((sound_list items).1 sound item (List.mem_of_getLast? found))
  | _ => exact .error _

theorem foldlM_add_ensures {items : List Value} {start : Value} (start_sound : start.Sound property)
    (sound : ∀ item ∈ items, item.Sound property) :
    Ensures (items.foldlM Value.add start) (Sound property) := by
  induction items generalizing start with
  | nil => exact .ok start_sound
  | cons item rest ih =>
      obtain ⟨first, later⟩ := List.forall_mem_cons.1 sound
      rw [List.foldlM_cons]
      exact .bind (start_sound.add first) fun total total_sound => ih total_sound later

theorem Sound.sum {collection start : Value} (sound : collection.Sound property)
    (start_sound : start.Sound property) : Ensures (collection.sum start) (Sound property) :=
  .bind (sound.expectItems _) fun _ items_sound => foldlM_add_ensures start_sound items_sound

theorem Sound.reversed {value : Value} (sound : value.Sound property) :
    Ensures value.reversed (Sound property) := by
  cases value with
  | list items =>
      refine .ok ((sound_list _).2 fun item member => ?_)
      exact (sound_list items).1 sound item (List.mem_reverse.1 member)
  | string text => exact .ok trivial
  | _ => exact .error _

theorem rangeList_ensures (first last : Value) :
    Ensures (first.rangeList last) (Sound property) := by
  refine .bind (.any _) fun _ _ => .bind (.any _) fun _ _ => ?_
  split
  · refine .ok ((sound_list _).2 fun item member => ?_)
    obtain ⟨term, -, rfl⟩ := List.mem_map.1 member
    exact trivial
  · exact .error _

theorem Sound.enumerate {value : Value} (sound : value.Sound property) :
    Ensures value.enumerate (Sound property) := by
  refine .bind (sound.expectElements _) fun items items_sound => .ok ?_
  rw [sound_list]
  intro pair member
  obtain ⟨⟨item, index⟩, found, rfl⟩ := List.mem_map.1 member
  have item_sound := items_sound item (List.fst_mem_of_mem_zipIdx found)
  simpa using item_sound

theorem Sound.zip {left right : Value} (left_sound : left.Sound property)
    (right_sound : right.Sound property) : Ensures (left.zip right) (Sound property) := by
  refine .bind (left_sound.expectElements _) fun lefts lefts_sound => ?_
  refine .bind (right_sound.expectElements _) fun rights rights_sound => .ok ?_
  rw [sound_list]
  intro pair member
  obtain ⟨⟨a, b⟩, found, rfl⟩ := List.mem_map.1 member
  obtain ⟨in_left, in_right⟩ := List.of_mem_zip found
  simpa using ⟨lefts_sound a in_left, rights_sound b in_right⟩

theorem extremeOf_ensures (function : String) (wanted : Ordering) {values : List Value}
    (sound : ∀ value ∈ values, value.Sound property) :
    Ensures (extremeOf function wanted values) (Sound property) := by
  rw [extremeOf.eq_def]
  split
  · rename_i collection
    exact .bind ((sound collection List.mem_cons_self).expectItems _) fun items items_sound =>
      extreme_ensures function wanted items_sound
  · exact extreme_ensures function wanted sound

theorem toInt_ensures (value : Value) : Ensures value.toInt (Sound property) := by
  rw [toInt.eq_def]
  split
  · exact .ok trivial
  · exact .ok trivial
  · split
    · exact .ok trivial
    · exact .error _
  · split
    · exact .ok trivial
    · exact .error _
  · exact .error _

theorem toFloat_ensures (value : Value) : Ensures value.toFloat (Sound property) := by
  rw [toFloat.eq_def]
  split
  · split
    · exact .ok trivial
    · exact .error _
  · split
    · exact .ok trivial
    · exact .error _

theorem absolute_ensures (value : Value) : Ensures value.absolute (Sound property) := by
  refine .bind (.any _) fun number _ => ?_
  cases number <;> exact .ok trivial

theorem rounded_ensures (function : String) (rounding : Rounding) (value : Value) :
    Ensures (value.rounded function rounding) (Sound property) := by
  refine .bind (.any _) fun number _ => ?_
  cases number with
  | int number => exact .ok trivial
  | float number =>
      dsimp only
      split
      · exact .ok trivial
      · exact .error _

end Value

/-- Every result of an operation on the world that does not fail has the property. -/
def HostM.Gives {α : Type} (operation : HostM α) (post : α → Prop) : Prop :=
  ∀ host, Ensures (operation.run.run host).1 post

namespace HostM.Gives

variable {α β : Type} {post : α → Prop}

theorem pure {value : α} (holds : post value) : Gives (pure value) post :=
  fun _ => .ok holds

theorem bind {after : β → Prop} {first : HostM α} {next : α → HostM β}
    (gives : first.Gives post) (later : ∀ value, post value → (next value).Gives after) :
    (first >>= next).Gives after := by
  intro host
  have answer := gives host
  rw [run_bind]
  cases result : first.run.run host with
  | mk outcome changed =>
      rw [result] at answer
      cases outcome with
      | error failure => exact .error _
      | ok value => exact later value (answer value rfl) changed

theorem of_last {after : β → Prop} {first : HostM α} {next : α → HostM β}
    (later : ∀ value, (next value).Gives after) : (first >>= next).Gives after :=
  .bind (fun _ => .any _) fun value _ => later value

theorem fault (cause : Fault) : Gives (HostM.fault cause) post :=
  fun _ => .error _

theorem ofExcept {result : Except Fault α} (ensures : Ensures result post) :
    Gives (HostM.ofExcept result) post := by
  cases result with
  | error cause => exact .fault cause
  | ok value => exact .pure (ensures value rfl)

theorem sort (function : String) (items : List Value) :
    (sort function items).Gives fun sorted => sorted ⊆ items := by
  intro host
  rw [sort_run]
  exact Value.sort_ensures_subset host.sorter function items

end HostM.Gives

namespace Builtin

open Value

variable {property : Stmt → Prop} {args : List Value}

theorem unary_ensures (builtin : Builtin) {answer : Value → Except Fault Value}
    (sound : ∀ value ∈ args, value.Sound property)
    (answers : ∀ value : Value, value.Sound property → Ensures (answer value) (Sound property)) :
    Ensures (builtin.unary args answer) (Sound property) := by
  rw [Builtin.unary.eq_def]
  split
  · exact answers _ (sound _ List.mem_cons_self)
  · exact .error _

theorem binary_ensures (builtin : Builtin) {answer : Value → Value → Except Fault Value}
    (sound : ∀ value ∈ args, value.Sound property)
    (answers : ∀ left right : Value, left.Sound property → right.Sound property →
      Ensures (answer left right) (Sound property)) :
    Ensures (builtin.binary args answer) (Sound property) := by
  rw [Builtin.binary.eq_def]
  split
  · obtain ⟨left_sound, later⟩ := List.forall_mem_cons.1 sound
    exact answers _ _ left_sound (later _ List.mem_cons_self)
  · exact .error _

theorem optional_ensures (builtin : Builtin) {absent : Value} {answer : Value → Except Fault Value}
    (sound : ∀ value ∈ args, value.Sound property) (absent_sound : absent.Sound property)
    (answers : ∀ value : Value, value.Sound property → Ensures (answer value) (Sound property)) :
    Ensures (builtin.optional args absent answer) (Sound property) := by
  rw [Builtin.optional.eq_def]
  split
  · exact .ok absent_sound
  · exact answers _ (sound _ List.mem_cons_self)
  · exact .error _

theorem withDefault_ensures (builtin : Builtin) {absent : Value}
    {answer : Value → Value → Except Fault Value}
    (sound : ∀ value ∈ args, value.Sound property) (absent_sound : absent.Sound property)
    (answers : ∀ left right : Value, left.Sound property → right.Sound property →
      Ensures (answer left right) (Sound property)) :
    Ensures (builtin.withDefault args absent answer) (Sound property) := by
  rw [Builtin.withDefault.eq_def]
  split
  · exact answers _ _ (sound _ List.mem_cons_self) absent_sound
  · obtain ⟨left_sound, later⟩ := List.forall_mem_cons.1 sound
    exact answers _ _ left_sound (later _ List.mem_cons_self)
  · exact .error _

theorem variadic_ensures (builtin : Builtin) {answer : List Value → Except Fault Value}
    (answers : Ensures (answer args) (Sound property)) :
    Ensures (builtin.variadic args answer) (Sound property) := by
  rw [Builtin.variadic]
  split
  · exact .error _
  · exact answers

/-- Built-ins that only compute keep values sound. -/
theorem compute_ensures (builtin : Builtin) (sound : ∀ value ∈ args, value.Sound property) :
    Ensures (builtin.compute args) (Sound property) := by
  have empty : (Value.list []).Sound property ∧ (Value.set []).Sound property :=
    ⟨(sound_list []).2 nofun, (sound_set []).2 ⟨.nil, nofun⟩⟩
  cases builtin with
  | len => exact unary_ensures _ sound fun value _ => length_ensures value
  | list => exact optional_ensures _ sound empty.1 fun value => Sound.toList
  | set => exact optional_ensures _ sound empty.2 fun value => Sound.toSet
  | append => exact binary_ensures _ sound fun left right => Sound.append
  | pop => exact unary_ensures _ sound fun value => Sound.pop
  | sum => exact withDefault_ensures _ sound (sound_int 0) fun left right => Sound.sum
  | reversed => exact unary_ensures _ sound fun value => Sound.reversed
  | all => exact unary_ensures _ sound fun value _ => .bind (.any _) fun _ _ => .ok trivial
  | any => exact unary_ensures _ sound fun value _ => .bind (.any _) fun _ _ => .ok trivial
  | rangeList => exact binary_ensures _ sound fun left right _ _ => rangeList_ensures left right
  | enumerate => exact unary_ensures _ sound fun value => Sound.enumerate
  | zip => exact binary_ensures _ sound fun left right => Sound.zip
  | min => exact variadic_ensures _ (extremeOf_ensures _ _ sound)
  | max => exact variadic_ensures _ (extremeOf_ensures _ _ sound)
  | int => exact unary_ensures _ sound fun value _ => toInt_ensures value
  | float => exact unary_ensures _ sound fun value _ => toFloat_ensures value
  | str | bool | type | repr => exact unary_ensures _ sound fun value _ => .ok trivial
  | isInstance => exact binary_ensures _ sound fun _ _ _ _ => .bind (.any _) fun _ _ => .ok trivial
  | abs => exact unary_ensures _ sound fun value _ => absolute_ensures value
  | ceil | floor | round => exact unary_ensures _ sound fun value _ => rounded_ensures _ _ value
  | pow =>
      exact binary_ensures _ sound fun left right left_sound right_sound =>
        left_sound.binary right_sound .pow
  | real function => exact unary_ensures _ sound fun value _ => .map fun _ _ => trivial
  | print | pprint | input | read | readLine | write | sorted => exact .error _

theorem readInput_gives : readInput.Gives (Sound property) :=
  .of_last fun _ => .pure trivial

theorem writeFile_gives (path data : Value) (mode : Option Value) :
    (writeFile path data mode).Gives (Sound property) := by
  refine .of_last fun path => .of_last fun append => .of_last fun host => ?_
  split
  · exact .of_last fun _ => .pure trivial
  · exact .fault _

theorem sortedItems_gives {collection : Value} (sound : collection.Sound property)
    (descending : Bool) : (sortedItems collection descending).Gives (Sound property) := by
  refine .bind (.ofExcept (sound.expectItems _)) fun items items_sound => ?_
  refine .bind (.sort _ items) fun sorted subset => .pure ?_
  rw [sound_list]
  intro item member
  split at member
  · exact items_sound item (subset (List.mem_reverse.1 member))
  · exact items_sound item (subset member)

/-- Built-ins keep values sound. -/
theorem call_gives (builtin : Builtin) (sound : ∀ value ∈ args, value.Sound property) :
    (builtin.call args).Gives (Sound property) := by
  rw [Builtin.call.eq_def]
  split
  · exact .of_last fun _ => .pure trivial
  · exact .of_last fun _ => .pure trivial
  · exact readInput_gives
  · exact .of_last fun _ => readInput_gives
  · exact .of_last fun _ => .pure trivial
  · refine .of_last fun text => .pure ((sound_list _).2 fun line member => ?_)
    obtain ⟨chars, -, rfl⟩ := List.mem_map.1 member
    exact trivial
  · exact writeFile_gives _ _ _
  · exact writeFile_gives _ _ _
  · exact sortedItems_gives (sound _ List.mem_cons_self) _
  · exact sortedItems_gives (sound _ List.mem_cons_self) _
  · exact .ofExcept (compute_ensures _ sound)

end Builtin

/-! ## Methods -/

namespace Value

variable {property : Stmt → Prop} {args : List Value}

theorem callCommon_ensures (receiver : Value) (name : String) (args : List Value) :
    Ensures (receiver.callCommon name args) (Sound property) := by
  rw [callCommon]
  split
  · rename_i method _
    split
    · cases method with
      | type => exact .ok trivial
      | str => exact .ok trivial
      | len => exact length_ensures receiver
    · exact .error _
  · exact .error _

theorem sound_texts (pieces : List (List Char)) :
    (StringMethod.texts pieces).Sound property := by
  rw [StringMethod.texts, sound_list]
  intro item member
  obtain ⟨chars, -, rfl⟩ := List.mem_map.1 member
  exact trivial

theorem stringMethod_ensures (method : StringMethod) (text : List Char) (args : List Value) :
    Ensures (method.call text args) (Sound property) := by
  rw [StringMethod.call.eq_def]
  split
  case h_9 => exact .ok (sound_texts _)
  case h_10 =>
    refine .bind (.any _) fun separator _ => ?_
    rw [StringMethod.splitAt]
    split
    · exact .error _
    · exact .ok (sound_texts _)
  case h_16 => exact .bind (.any _) fun _ _ => .bind (.any _) fun _ _ => .ok trivial
  case h_17 => exact .bind (.any _) fun _ _ => .bind (.any _) fun _ _ => .ok trivial
  case h_18 => exact .error _
  all_goals first
    | exact .ok trivial
    | exact .bind (.any _) fun _ _ => .ok trivial

theorem listMethod_ensures (method : ListMethod) {items : List Value}
    (sound : ∀ item ∈ items, item.Sound property) (args : List Value) :
    Ensures (method.call items args) (Sound property) := by
  rw [ListMethod.call.eq_def]
  split
  · exact .ok ((sound_list _).2 fun item member => sound item (List.mem_reverse.1 member))
  · exact .ok trivial
  · exact .ok trivial
  · exact .ok trivial
  · exact .error _

theorem setMethod_ensures (method : SetMethod) {items : List Value}
    (sound : ∀ item ∈ items, item.Sound property) (args_sound : ∀ arg ∈ args, arg.Sound property) :
    Ensures (method.call items args) (Sound property) := by
  rw [SetMethod.call.eq_def]
  split
  · exact .ok (sound_ofSet (sound_append_singleton sound (args_sound _ List.mem_cons_self)))
  · rw [SetMethod.without]
    split
    · exact .ok (sound_ofSet fun item member => sound item (List.mem_filter.1 member).1)
    · exact .error _
  · exact .ok trivial
  · exact .error _

/-- Methods keep values sound. -/
theorem Sound.callMethod {receiver : Value} (sound : receiver.Sound property) (name : String)
    (args_sound : ∀ arg ∈ args, arg.Sound property) :
    Ensures (receiver.callMethod name args) (Sound property) := by
  cases receiver with
  | string text =>
      rw [Value.callMethod, callString]
      split
      · exact stringMethod_ensures _ _ _
      · exact callCommon_ensures _ _ _
  | list items =>
      rw [Value.callMethod, callList]
      split
      · exact listMethod_ensures _ ((sound_list items).1 sound) _
      · exact callCommon_ensures _ _ _
  | set items =>
      rw [Value.callMethod, callSet]
      split
      · exact setMethod_ensures _ ((sound_set items).1 sound).2 args_sound
      · exact callCommon_ensures _ _ _
  | _ => exact callCommon_ensures _ _ _

theorem Sound.toSort? {receiver : Value} (sound : receiver.Sound property) {name : String}
    {items : List Value} (to_sort : receiver.toSort? name args = some items) :
    ∀ item ∈ items, item.Sound property := by
  unfold Value.toSort? at to_sort
  split at to_sort
  · split at to_sort
    · cases to_sort
      exact (sound_list _).1 sound
    · cases to_sort
  · cases to_sort

/-- Methods keep values sound, also those that sort. -/
theorem Sound.invoke {receiver : Value} (sound : receiver.Sound property) (name : String)
    (args_sound : ∀ arg ∈ args, arg.Sound property) :
    (receiver.invoke name args).Gives (Sound property) := by
  rw [Value.invoke]
  split
  next items to_sort =>
    have items_sound := sound.toSort? to_sort
    refine .bind (.sort _ items) fun sorted subset => .pure ?_
    exact (sound_list sorted).2 fun item member => items_sound item (subset member)
  next => exact .ofExcept (sound.callMethod name args_sound)

end Value
end DotScript
