import DotScript.Proofs.Tree.Rendering

/-!
# Layout of canonical marks

Every program has canonical tokens: the marks of its statements can be laid out so that a point
touches a name exactly if it stands in front of a method.
-/

namespace DotScript

/-- The text of the tokens for a mark. -/
def Mark.text : Mark → String
  | .name text | .int text | .string text => text
  | .fixed _ | .methodDot => ""

/-- Tokens for marks, one place wide and with gaps between them.  There is no gap after the point in
front of a method. -/
def layOut (place : Nat) : List Mark → List Token
  | [] => []
  | mark :: rest =>
    { kind := mark.kind, text := mark.text, span := ⟨place, place + 1, 1⟩ } ::
      layOut (if mark = .methodDot then place + 1 else place + 2) rest

/-- The canonical tokens of a program. -/
def Program.render (program : Program) : List Token :=
  layOut 0 (blockMarks program)

/-- The tokens before the end of a token list are written for the program. -/
def Program.IsWritten (program : Program) (tokens : List Token) : Prop :=
  Spells (tokens.takeWhile (·.kind ≠ .finish)) (blockMarks program)

/-- Marks that can be laid out: no end comes before the end, and every method has its name. -/
def IsOrderly : List Mark → Prop
  | [] => True
  | .methodDot :: rest => (∃ name more, rest = .name name :: more) ∧ IsOrderly rest
  | mark :: rest => mark.kind ≠ .finish ∧ IsOrderly rest

theorem IsOrderly.tail {mark : Mark} {rest : List Mark} (orderly : IsOrderly (mark :: rest)) :
    IsOrderly rest := by
  cases mark <;> exact orderly.2

theorem takeWhile_layOut {marks : List Mark} (orderly : IsOrderly marks) (place : Nat) :
    (layOut place marks).takeWhile (·.kind ≠ .finish) = layOut place marks := by
  induction marks generalizing place with
  | nil => rfl
  | cons mark rest ih =>
      have not_finish : mark.kind ≠ .finish := by
        cases mark with
        | methodDot => nofun
        | _ => exact orderly.1
      rw [layOut, List.takeWhile_cons_of_pos (by simpa using not_finish), ih orderly.tail]

theorem spells_layOut {marks : List Mark} (orderly : IsOrderly marks) (place : Nat) :
    Spells (layOut place marks) marks := by
  induction marks generalizing place with
  | nil => exact trivial
  | cons mark rest ih =>
      have fits : mark.Fits
          { kind := mark.kind, text := mark.text, span := ⟨place, place + 1, 1⟩ } := by
        cases mark <;> exact ⟨rfl, by first | rfl | trivial⟩
      refine ⟨fits, fun _ => ?_, ih orderly.tail _⟩
      by_cases called : mark = .methodDot
      · subst called
        obtain ⟨⟨name, more, rfl⟩, -⟩ := orderly
        simp [layOut, Token.touches, Mark.kind]
      · cases rest with
        | nil => simp [layOut, Token.touches, called]
        | cons next more => simp [layOut, Token.touches, called]

theorem isOrderly_append {first second : List Mark} (first_orderly : IsOrderly first)
    (second_orderly : IsOrderly second) : IsOrderly (first ++ second) := by
  induction first with
  | nil => exact second_orderly
  | cons mark rest ih =>
      cases mark with
      | methodDot =>
          obtain ⟨⟨name, more, rfl⟩, later⟩ := first_orderly
          exact ⟨⟨name, more ++ second, rfl⟩, ih later⟩
      | _ => exact ⟨first_orderly.1, ih first_orderly.2⟩

theorem isOrderly_enclose {marks : List Mark} (loose : Bool) (orderly : IsOrderly marks) :
    IsOrderly (enclose loose marks) := by
  cases loose with
  | false => exact orderly
  | true => exact ⟨nofun, isOrderly_append orderly ⟨nofun, trivial⟩⟩

theorem isOrderly_flatMap_comma {pieces : List (List Mark)}
    (orderly : ∀ piece ∈ pieces, IsOrderly piece) :
    IsOrderly (pieces.flatMap (.fixed .comma :: ·)) := by
  induction pieces with
  | nil => exact trivial
  | cons piece rest ih =>
      obtain ⟨piece_orderly, rest_orderly⟩ := List.forall_mem_cons.1 orderly
      rw [List.flatMap_cons]
      exact isOrderly_append ⟨nofun, piece_orderly⟩ (ih rest_orderly)

theorem isOrderly_joined {pieces : List (List Mark)}
    (orderly : ∀ piece ∈ pieces, IsOrderly piece) : IsOrderly (joined pieces) := by
  cases pieces with
  | nil => exact trivial
  | cons first rest =>
      obtain ⟨first_orderly, later⟩ := List.forall_mem_cons.1 orderly
      exact isOrderly_append first_orderly (isOrderly_flatMap_comma later)

/-- Items with commas between them and a mark that closes them. -/
theorem isOrderly_items {pieces : List (List Mark)} {close : Token.Kind}
    (orderly : ∀ piece ∈ pieces, IsOrderly piece) (not_finish : close ≠ .finish) :
    IsOrderly (joined pieces ++ [.fixed close]) :=
  isOrderly_append (isOrderly_joined orderly) ⟨not_finish, trivial⟩

mutual

theorem Expr.marks_isOrderly : (expr : Expr) → IsOrderly expr.marks
  | .literal value _ => by
      cases value with
      | bool value => cases value <;> exact ⟨nofun, trivial⟩
      | _ => exact ⟨nofun, trivial⟩
  | .variable _ _ => ⟨nofun, trivial⟩
  | .binary op left right _ => by
      have operator : IsOrderly op.marks := by
        cases op <;> simp [BinaryOp.marks, IsOrderly, Mark.kind]
      exact isOrderly_append (isOrderly_enclose _ left.marks_isOrderly)
        (isOrderly_append operator (isOrderly_enclose _ right.marks_isOrderly))
  | .unary op operand _ => by
      cases op <;> exact ⟨nofun, isOrderly_enclose _ operand.marks_isOrderly⟩
  | .call _ args _ => ⟨nofun, nofun, isOrderly_items (itemPieces_isOrderly args) nofun⟩
  | .method receiver _ args _ =>
      isOrderly_append (isOrderly_enclose _ receiver.marks_isOrderly)
        ⟨⟨_, _, rfl⟩, nofun, nofun, isOrderly_items (itemPieces_isOrderly args) nofun⟩
  | .list items _ | .set items _ => ⟨nofun, isOrderly_items (itemPieces_isOrderly items) nofun⟩

theorem itemPieces_isOrderly : (items : List Expr) → ∀ piece ∈ itemPieces items, IsOrderly piece
  | [] => nofun
  | item :: rest => List.forall_mem_cons.2 ⟨item.marks_isOrderly, itemPieces_isOrderly rest⟩

end

theorem bindingMarks_isOrderly : (binding : String × Option Expr) → IsOrderly (bindingMarks binding)
  | (_, none) => ⟨nofun, trivial⟩
  | (_, some value) => ⟨nofun, nofun, value.marks_isOrderly⟩

theorem isOrderly_inBlock {marks : List Mark} (orderly : IsOrderly marks) :
    IsOrderly (inBlock marks) :=
  ⟨nofun, isOrderly_append orderly ⟨nofun, trivial⟩⟩

/-- An expression in front of the point of a statement. -/
theorem Expr.marks_dot_isOrderly (expr : Expr) : IsOrderly (expr.marks ++ [.fixed .dot]) :=
  isOrderly_append expr.marks_isOrderly ⟨nofun, trivial⟩

mutual

theorem Stmt.marks_isOrderly : (stmt : Stmt) → IsOrderly stmt.marks
  | .var bindings _ => by
      refine ⟨nofun, isOrderly_items ?_ nofun⟩
      exact List.forall_mem_map.2 fun binding _ => bindingMarks_isOrderly binding
  | .letBe _ value _ => ⟨nofun, nofun, nofun, value.marks_dot_isOrderly⟩
  | .assign _ op value _ => by
      refine ⟨nofun, ?_, value.marks_dot_isOrderly⟩
      simp only [Mark.kind]
      unfold assignmentKind
      split <;> nofun
  | .choose arms _ => arms.marks_isOrderly .ifWord
  | .whileLoop condition body _ =>
      ⟨nofun, isOrderly_append condition.marks_isOrderly
        (isOrderly_inBlock (blockMarks_isOrderly body))⟩
  | .forRange _ first last step body _ => by
      have step_orderly : IsOrderly (stepMarks step) := by
        cases step with
        | none => exact trivial
        | some step => exact ⟨nofun, step.marks_isOrderly⟩
      have closing := isOrderly_append step_orderly
        (show IsOrderly (.fixed .parenClose :: inBlock (blockMarks body)) from
          ⟨nofun, isOrderly_inBlock (blockMarks_isOrderly body)⟩)
      exact ⟨nofun, nofun, nofun, nofun, nofun, nofun, isOrderly_append first.marks_isOrderly
        ⟨nofun, isOrderly_append last.marks_isOrderly closing⟩⟩
  | .forIn _ items body _ =>
      ⟨nofun, nofun, nofun, isOrderly_append items.marks_isOrderly
        (isOrderly_inBlock (blockMarks_isOrderly body))⟩
  | .define _ _ params none _ => by
      refine ⟨nofun, nofun, nofun, isOrderly_append (isOrderly_joined ?_) ⟨nofun, nofun, trivial⟩⟩
      exact List.forall_mem_map.2 fun _ _ => ⟨nofun, trivial⟩
  | .define _ _ params (some body) _ => by
      refine ⟨nofun, nofun, nofun, isOrderly_append (isOrderly_joined ?_)
        ⟨nofun, isOrderly_inBlock (blockMarks_isOrderly body)⟩⟩
      exact List.forall_mem_map.2 fun _ _ => ⟨nofun, trivial⟩
  | .expression value _ => value.marks_dot_isOrderly
  | .give none _ => ⟨nofun, nofun, trivial⟩
  | .give (some value) _ => ⟨nofun, value.marks_dot_isOrderly⟩
  | .pass _ => ⟨nofun, nofun, trivial⟩

theorem blockMarks_isOrderly : (body : List Stmt) → IsOrderly (blockMarks body)
  | [] => trivial
  | stmt :: rest => isOrderly_append stmt.marks_isOrderly (blockMarks_isOrderly rest)

theorem Arms.marks_isOrderly (word : Keyword) : (arms : Arms) → IsOrderly (arms.marks word)
  | .arm condition body others =>
      ⟨nofun, isOrderly_append condition.marks_isOrderly
        ⟨nofun, isOrderly_append (blockMarks_isOrderly body) (others.marks_isOrderly .elif)⟩⟩
  | .otherwise body => ⟨nofun, isOrderly_inBlock (blockMarks_isOrderly body)⟩
  | .nothing => ⟨nofun, trivial⟩

end

/-- The canonical tokens of a program are written for it. -/
theorem Program.isWritten_render (program : Program) : program.IsWritten program.render := by
  have orderly := blockMarks_isOrderly program
  rw [IsWritten, render, takeWhile_layOut orderly]
  exact spells_layOut orderly 0

end DotScript
