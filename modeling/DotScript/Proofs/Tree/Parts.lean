import DotScript.Tree.Basic

/-!
# Statements and the statements in them

`Stmt.Every` says that a property holds for a statement and for all statements in it: those of the
blocks of loops and conditions, and those of the bodies of functions.  Numbering the declarations
keeps it, as long as the property does not depend on labels.
-/

namespace DotScript

theorem length_numberBlock (block : List Stmt) (next : Nat) :
    (numberBlock next block).1.length = block.length := by
  induction block generalizing next with
  | nil => rfl
  | cons stmt rest ih => simp [numberBlock, ih]

mutual

/-- The property holds for the statement and for all statements in it. -/
def Stmt.Every (property : Stmt → Prop) : Stmt → Prop
  | .choose arms span => property (.choose arms span) ∧ arms.Every property
  | .whileLoop condition body span =>
    property (.whileLoop condition body span) ∧ EveryStmt property body
  | .forRange name first last step body span =>
    property (.forRange name first last step body span) ∧ EveryStmt property body
  | .forIn name items body span => property (.forIn name items body span) ∧ EveryStmt property body
  | .define label name params body span =>
    property (.define label name params body span) ∧ EveryBody property body
  | stmt => property stmt

/-- The property holds for all statements of a block and for all statements in them. -/
def EveryStmt (property : Stmt → Prop) : List Stmt → Prop
  | [] => True
  | stmt :: rest => stmt.Every property ∧ EveryStmt property rest

/-- The property holds for all statements of the blocks of a conditional statement. -/
def Arms.Every (property : Stmt → Prop) : Arms → Prop
  | .arm _ body others => EveryStmt property body ∧ others.Every property
  | .otherwise body => EveryStmt property body
  | .nothing => True

/-- The property holds for all statements of a body, if there is one. -/
def EveryBody (property : Stmt → Prop) : Option (List Stmt) → Prop
  | none => True
  | some body => EveryStmt property body

end

section

variable {property : Stmt → Prop}

theorem everyStmt_iff (block : List Stmt) :
    EveryStmt property block ↔ ∀ stmt ∈ block, stmt.Every property := by
  induction block with
  | nil => simp [EveryStmt]
  | cons stmt rest ih => simp [EveryStmt, ih]

/-- What holds for a statement and all in it holds for the statement. -/
theorem Stmt.Every.here {stmt : Stmt} (holds : stmt.Every property) : property stmt := by
  cases stmt with
  | choose => exact holds.1
  | whileLoop => exact holds.1
  | forRange => exact holds.1
  | forIn => exact holds.1
  | define => exact holds.1
  | _ => exact holds

mutual

theorem Stmt.Every.number (stable : ∀ stmt next, property stmt → property (stmt.number next).1) :
    ∀ (stmt : Stmt) (next : Nat), stmt.Every property → (stmt.number next).1.Every property
  | .choose arms span, next, holds => by
      rw [Stmt.Every] at holds
      have here := stable _ next holds.1
      have later := Arms.Every.number stable arms next holds.2
      simp only [Stmt.number] at here ⊢
      exact ⟨here, later⟩
  | .whileLoop condition body span, next, holds => by
      rw [Stmt.Every] at holds
      have here := stable _ next holds.1
      have later := everyStmt_number stable body next holds.2
      simp only [Stmt.number] at here ⊢
      exact ⟨here, later⟩
  | .forRange name first last step body span, next, holds => by
      rw [Stmt.Every] at holds
      have here := stable _ next holds.1
      have later := everyStmt_number stable body next holds.2
      simp only [Stmt.number] at here ⊢
      exact ⟨here, later⟩
  | .forIn name items body span, next, holds => by
      rw [Stmt.Every] at holds
      have here := stable _ next holds.1
      have later := everyStmt_number stable body next holds.2
      simp only [Stmt.number] at here ⊢
      exact ⟨here, later⟩
  | .define label name params body span, next, holds => by
      rw [Stmt.Every] at holds
      have here := stable _ next holds.1
      have later := everyBody_number stable body (next + 1) holds.2
      simp only [Stmt.number] at here ⊢
      exact ⟨here, later⟩
  | .var _ _, _, holds | .letBe _ _ _, _, holds | .assign _ _ _ _, _, holds
  | .expression _ _, _, holds | .give _ _, _, holds | .pass _, _, holds => holds

theorem everyStmt_number (stable : ∀ stmt next, property stmt → property (stmt.number next).1) :
    ∀ (block : List Stmt) (next : Nat), EveryStmt property block →
      EveryStmt property (numberBlock next block).1
  | [], _, holds => holds
  | stmt :: rest, next, holds => by
      rw [EveryStmt] at holds
      have first := Stmt.Every.number stable stmt next holds.1
      have later := everyStmt_number stable rest (stmt.number next).2 holds.2
      simp only [numberBlock]
      exact ⟨first, later⟩

theorem Arms.Every.number (stable : ∀ stmt next, property stmt → property (stmt.number next).1) :
    ∀ (arms : Arms) (next : Nat), arms.Every property → (arms.number next).1.Every property
  | .arm condition body others, next, holds => by
      rw [Arms.Every] at holds
      have first := everyStmt_number stable body next holds.1
      have later := Arms.Every.number stable others (numberBlock next body).2 holds.2
      simp only [Arms.number]
      exact ⟨first, later⟩
  | .otherwise body, next, holds => everyStmt_number stable body next holds
  | .nothing, _, holds => holds

theorem everyBody_number (stable : ∀ stmt next, property stmt → property (stmt.number next).1) :
    ∀ (body : Option (List Stmt)) (next : Nat), EveryBody property body →
      EveryBody property (numberBody next body).1
  | none, _, holds => holds
  | some body, next, holds => everyStmt_number stable body next holds

end

end

section

variable (property : Stmt → Prop) [DecidablePred property]

mutual

/-- What can be decided for one statement can be decided for a statement and all in it. -/
def Stmt.decidableEvery : ∀ stmt : Stmt, Decidable (stmt.Every property)
  | .choose arms _ => @instDecidableAnd _ _ inferInstance (Arms.decidableEvery arms)
  | .whileLoop _ body _ | .forRange _ _ _ _ body _ | .forIn _ _ body _ =>
    @instDecidableAnd _ _ inferInstance (decidableEveryStmt body)
  | .define _ _ _ body _ => @instDecidableAnd _ _ inferInstance (decidableEveryBody body)
  | .var _ _ | .letBe _ _ _ | .assign _ _ _ _ | .expression _ _ | .give _ _ | .pass _ =>
    inferInstanceAs (Decidable (property _))

/-- The property can be decided for all statements of a block and all in them. -/
def decidableEveryStmt : ∀ block : List Stmt, Decidable (EveryStmt property block)
  | [] => .isTrue trivial
  | stmt :: rest => @instDecidableAnd _ _ (Stmt.decidableEvery stmt) (decidableEveryStmt rest)

/-- The property can be decided for all statements of a conditional statement. -/
def Arms.decidableEvery : ∀ arms : Arms, Decidable (arms.Every property)
  | .arm _ body others =>
    @instDecidableAnd _ _ (decidableEveryStmt body) (Arms.decidableEvery others)
  | .otherwise body => decidableEveryStmt body
  | .nothing => .isTrue trivial

/-- The property can be decided for all statements of a body. -/
def decidableEveryBody : ∀ body : Option (List Stmt), Decidable (EveryBody property body)
  | none => .isTrue trivial
  | some body => decidableEveryStmt body

end

instance (block : List Stmt) : Decidable (EveryStmt property block) :=
  decidableEveryStmt property block

end

section

variable {first second : Stmt → Prop}

mutual

theorem Stmt.Every.and : ∀ stmt : Stmt, stmt.Every first → stmt.Every second →
    stmt.Every fun stmt => first stmt ∧ second stmt
  | .choose arms _, holds, holds' => ⟨⟨holds.1, holds'.1⟩, Arms.Every.and arms holds.2 holds'.2⟩
  | .whileLoop _ body _, holds, holds' =>
      ⟨⟨holds.1, holds'.1⟩, everyStmt_and body holds.2 holds'.2⟩
  | .forRange _ _ _ _ body _, holds, holds' =>
      ⟨⟨holds.1, holds'.1⟩, everyStmt_and body holds.2 holds'.2⟩
  | .forIn _ _ body _, holds, holds' =>
      ⟨⟨holds.1, holds'.1⟩, everyStmt_and body holds.2 holds'.2⟩
  | .define _ _ _ body _, holds, holds' =>
      ⟨⟨holds.1, holds'.1⟩, everyBody_and body holds.2 holds'.2⟩
  | .var _ _, holds, holds' | .letBe _ _ _, holds, holds' | .assign _ _ _ _, holds, holds'
  | .expression _ _, holds, holds' | .give _ _, holds, holds' | .pass _, holds, holds' =>
      ⟨holds, holds'⟩

theorem everyStmt_and : ∀ block : List Stmt, EveryStmt first block → EveryStmt second block →
    EveryStmt (fun stmt => first stmt ∧ second stmt) block
  | [], _, _ => trivial
  | stmt :: rest, holds, holds' =>
      ⟨Stmt.Every.and stmt holds.1 holds'.1, everyStmt_and rest holds.2 holds'.2⟩

theorem Arms.Every.and : ∀ arms : Arms, arms.Every first → arms.Every second →
    arms.Every fun stmt => first stmt ∧ second stmt
  | .arm _ body others, holds, holds' =>
      ⟨everyStmt_and body holds.1 holds'.1, Arms.Every.and others holds.2 holds'.2⟩
  | .otherwise body, holds, holds' => everyStmt_and body holds holds'
  | .nothing, _, _ => trivial

theorem everyBody_and : ∀ body : Option (List Stmt), EveryBody first body → EveryBody second body →
    EveryBody (fun stmt => first stmt ∧ second stmt) body
  | none, _, _ => trivial
  | some body, holds, holds' => everyStmt_and body holds holds'

end

end

end DotScript
