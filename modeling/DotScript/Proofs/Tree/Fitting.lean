import DotScript.Proofs.Tree.Parts

/-!
# Places and numerals in trees

A tree fits if all places in it and the digits of all its integers are as they should be.  For a
statement this is a matter of its own expressions; `Stmt.Every` takes it to the statements in it.
-/

namespace DotScript

variable (place : Span → Prop) (numeral : String → Prop)

/-- The digits of an integer are as they should be. -/
def Literal.Fits : Literal → Prop
  | .int digits => numeral digits
  | _ => True

mutual

/-- All places in an expression and the digits of its integers are as they should be. -/
def Expr.Fits : Expr → Prop
  | .literal value span => value.Fits numeral ∧ place span
  | .variable _ span => place span
  | .binary _ left right span => left.Fits ∧ right.Fits ∧ place span
  | .unary _ operand span => operand.Fits ∧ place span
  | .call _ args span => AllFit args ∧ place span
  | .method receiver _ args span => receiver.Fits ∧ AllFit args ∧ place span
  | .list items span => AllFit items ∧ place span
  | .set items span => AllFit items ∧ place span

/-- All expressions fit. -/
def AllFit : List Expr → Prop
  | [] => True
  | expr :: rest => expr.Fits ∧ AllFit rest

end

/-- The conditions of a conditional statement fit. -/
def Arms.Fits : Arms → Prop
  | .arm condition _ others => condition.Fits place numeral ∧ others.Fits
  | _ => True

/-- An expression that may be left out fits. -/
def OptionFits (expr : Option Expr) : Prop :=
  ∀ value, expr = some value → value.Fits place numeral

/-- The place of a statement is as it should be and its own expressions fit. -/
def Stmt.Fits : Stmt → Prop
  | .var bindings span =>
    (∀ binding ∈ bindings, OptionFits place numeral binding.2) ∧ place span
  | .letBe _ value span => value.Fits place numeral ∧ place span
  | .assign _ _ value span => value.Fits place numeral ∧ place span
  | .choose arms span => arms.Fits place numeral ∧ place span
  | .whileLoop condition _ span => condition.Fits place numeral ∧ place span
  | .forRange _ first last step _ span =>
    first.Fits place numeral ∧ last.Fits place numeral ∧ OptionFits place numeral step ∧ place span
  | .forIn _ items _ span => items.Fits place numeral ∧ place span
  | .define _ _ _ _ span => place span
  | .expression value span => value.Fits place numeral ∧ place span
  | .give value span => OptionFits place numeral value ∧ place span
  | .pass span => place span

variable {place numeral}

theorem allFit_iff (exprs : List Expr) :
    AllFit place numeral exprs ↔ ∀ expr ∈ exprs, expr.Fits place numeral := by
  induction exprs with
  | nil => simp [AllFit]
  | cons expr rest ih => simp [AllFit, ih]

theorem Expr.Fits.span {expr : Expr} (fits : expr.Fits place numeral) : place expr.span := by
  match expr with
  | .variable _ _ => exact fits
  | .literal _ _ | .unary _ _ _ | .call _ _ _ | .list _ _ | .set _ _ => exact fits.2
  | .binary _ _ _ _ | .method _ _ _ _ => exact fits.2.2

/-- A group takes the place of its parentheses. -/
theorem Expr.Fits.withSpan {expr : Expr} (fits : expr.Fits place numeral) {span : Span}
    (here : place span) : (expr.withSpan span).Fits place numeral := by
  match expr with
  | .variable _ _ => exact here
  | .literal _ _ | .unary _ _ _ | .call _ _ _ | .list _ _ | .set _ _ => exact ⟨fits.1, here⟩
  | .binary _ _ _ _ | .method _ _ _ _ => exact ⟨fits.1, fits.2.1, here⟩

theorem Stmt.Fits.span {stmt : Stmt} (fits : stmt.Fits place numeral) : place stmt.span := by
  cases stmt with
  | define => exact fits
  | pass => exact fits
  | forRange => exact fits.2.2.2
  | _ => exact fits.2

theorem OptionFits.none : OptionFits place numeral none :=
  nofun

theorem OptionFits.some {expr : Expr} (fits : expr.Fits place numeral) :
    OptionFits place numeral (some expr) := by
  intro value same
  cases same
  exact fits

theorem Arms.fits_number : ∀ (arms : Arms) (next : Nat), arms.Fits place numeral →
    (arms.number next).1.Fits place numeral
  | .arm _ _ others, _, fits => ⟨fits.1, others.fits_number _ fits.2⟩
  | .otherwise _, _, _ => trivial
  | .nothing, _, _ => trivial

/-- Labels are no matter of places and numerals. -/
theorem Stmt.fits_number (stmt : Stmt) (next : Nat) (fits : stmt.Fits place numeral) :
    (stmt.number next).1.Fits place numeral := by
  cases stmt with
  | choose arms span => exact ⟨arms.fits_number next fits.1, fits.2⟩
  | _ => exact fits

end DotScript
