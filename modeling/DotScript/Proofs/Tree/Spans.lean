import DotScript.Tree.Basic

/-!
# Trees up to spans

`mapSpan` changes every span of a tree and nothing else.  Two trees are the same up to spans if they
become equal when all spans are forgotten, and a tree that is written further down in a text is the
same tree with its spans shifted.
-/

namespace DotScript

/-- The span without the place. -/
def Span.forget (_ : Span) : Span := default

/-- The span further down in a text. -/
def Span.shift (bytes lines : Nat) (span : Span) : Span where
  start := span.start + bytes
  stop := span.stop + bytes
  line := span.line + lines

theorem Span.shift_to (bytes lines : Nat) (first last : Span) :
    (first.to last).shift bytes lines = (first.shift bytes lines).to (last.shift bytes lines) := by
  simp only [Span.to, Span.shift, Span.mk.injEq, true_and, and_true]
  omega

mutual

/-- Changes the spans of an expression. -/
def Expr.mapSpan (change : Span → Span) : Expr → Expr
  | .literal value span => .literal value (change span)
  | .variable name span => .variable name (change span)
  | .binary op left right span =>
    .binary op (left.mapSpan change) (right.mapSpan change) (change span)
  | .unary op operand span => .unary op (operand.mapSpan change) (change span)
  | .call name args span => .call name (Expr.mapSpans change args) (change span)
  | .method receiver name args span =>
    .method (receiver.mapSpan change) name (Expr.mapSpans change args) (change span)
  | .list items span => .list (Expr.mapSpans change items) (change span)
  | .set items span => .set (Expr.mapSpans change items) (change span)

/-- Changes the spans of some expressions. -/
def Expr.mapSpans (change : Span → Span) : List Expr → List Expr
  | [] => []
  | expr :: rest => expr.mapSpan change :: Expr.mapSpans change rest

end

/-- Changes the spans of the variables of a declaration. -/
def mapBindings (change : Span → Span) (bindings : List (String × Option Expr)) :
    List (String × Option Expr) :=
  bindings.map fun (name, value) => (name, value.map (Expr.mapSpan change))

mutual

/-- Changes the spans of a statement. -/
def Stmt.mapSpan (change : Span → Span) : Stmt → Stmt
  | .var bindings span => .var (mapBindings change bindings) (change span)
  | .letBe name value span => .letBe name (value.mapSpan change) (change span)
  | .assign name op value span => .assign name op (value.mapSpan change) (change span)
  | .choose arms span => .choose (arms.mapSpan change) (change span)
  | .whileLoop condition body span =>
    .whileLoop (condition.mapSpan change) (Stmt.mapSpans change body) (change span)
  | .forRange name first last step body span =>
    .forRange name (first.mapSpan change) (last.mapSpan change) (step.map (Expr.mapSpan change))
      (Stmt.mapSpans change body) (change span)
  | .forIn name items body span =>
    .forIn name (items.mapSpan change) (Stmt.mapSpans change body) (change span)
  | .define label name params body span =>
    .define label name params (Stmt.mapBody change body) (change span)
  | .expression value span => .expression (value.mapSpan change) (change span)
  | .give value span => .give (value.map (Expr.mapSpan change)) (change span)
  | .pass span => .pass (change span)

/-- Changes the spans of a block. -/
def Stmt.mapSpans (change : Span → Span) : List Stmt → List Stmt
  | [] => []
  | stmt :: rest => stmt.mapSpan change :: Stmt.mapSpans change rest

/-- Changes the spans of the arms of a conditional statement. -/
def Arms.mapSpan (change : Span → Span) : Arms → Arms
  | .arm condition body others =>
    .arm (condition.mapSpan change) (Stmt.mapSpans change body) (others.mapSpan change)
  | .otherwise body => .otherwise (Stmt.mapSpans change body)
  | .nothing => .nothing

/-- Changes the spans of a function body. -/
def Stmt.mapBody (change : Span → Span) : Option (List Stmt) → Option (List Stmt)
  | none => none
  | some body => some (Stmt.mapSpans change body)

end

section

variable (change : Span → Span)

theorem Expr.mapSpans_eq_map (exprs : List Expr) :
    Expr.mapSpans change exprs = exprs.map (Expr.mapSpan change) := by
  induction exprs with
  | nil => rfl
  | cons expr rest ih => rw [Expr.mapSpans, ih, List.map_cons]

theorem Stmt.mapSpans_eq_map (block : List Stmt) :
    Stmt.mapSpans change block = block.map (Stmt.mapSpan change) := by
  induction block with
  | nil => rfl
  | cons stmt rest ih => rw [Stmt.mapSpans, ih, List.map_cons]

theorem Stmt.mapBody_eq_map (body : Option (List Stmt)) :
    Stmt.mapBody change body = body.map (Stmt.mapSpans change) := by
  cases body <;> rfl

@[simp] theorem Expr.span_mapSpan (expr : Expr) : (expr.mapSpan change).span = change expr.span := by
  cases expr <;> rfl

/-- Changes the spans of a condition and of the block under it. -/
def mapArm (arm : Expr × List Stmt) : Expr × List Stmt :=
  (arm.1.mapSpan change, Stmt.mapSpans change arm.2)

theorem Arms.mapSpan_foldr (arms : List (Expr × List Stmt)) (last : Arms) :
    (arms.foldr (fun (condition, body) others => .arm condition body others) last).mapSpan change =
      (arms.map (mapArm change)).foldr (fun (condition, body) others => .arm condition body others)
        (last.mapSpan change) := by
  induction arms with
  | nil => rfl
  | cons arm arms ih =>
      rw [List.foldr_cons, List.map_cons, List.foldr_cons, ← ih]
      rfl

@[simp] theorem Expr.mapSpan_withSpan (expr : Expr) (span : Span) :
    (expr.withSpan span).mapSpan change = (expr.mapSpan change).withSpan (change span) := by
  cases expr <;> rfl

end

mutual

theorem Expr.mapSpan_mapSpan (first second : Span → Span) :
    ∀ expr : Expr, (expr.mapSpan first).mapSpan second = expr.mapSpan (second ∘ first)
  | .literal _ _ | .variable _ _ => rfl
  | .binary _ left right _ => by
      simp only [mapSpan, mapSpan_mapSpan first second left, mapSpan_mapSpan first second right,
        Function.comp_apply]
  | .unary _ operand _ => by
      simp only [mapSpan, mapSpan_mapSpan first second operand, Function.comp_apply]
  | .call _ args _ => by
      simp only [mapSpan, mapSpans_mapSpans first second args, Function.comp_apply]
  | .method receiver _ args _ => by
      simp only [mapSpan, mapSpan_mapSpan first second receiver, mapSpans_mapSpans first second args,
        Function.comp_apply]
  | .list items _ => by
      simp only [mapSpan, mapSpans_mapSpans first second items, Function.comp_apply]
  | .set items _ => by
      simp only [mapSpan, mapSpans_mapSpans first second items, Function.comp_apply]

theorem Expr.mapSpans_mapSpans (first second : Span → Span) :
    ∀ exprs : List Expr,
      Expr.mapSpans second (Expr.mapSpans first exprs) = Expr.mapSpans (second ∘ first) exprs
  | [] => rfl
  | expr :: rest => by
      simp only [mapSpans, mapSpan_mapSpan first second expr, mapSpans_mapSpans first second rest]

end

theorem mapBindings_mapBindings (first second : Span → Span) (bindings : List (String × Option Expr)) :
    mapBindings second (mapBindings first bindings) = mapBindings (second ∘ first) bindings := by
  rw [mapBindings, mapBindings, mapBindings, List.map_map]
  apply List.map_congr_left
  rintro ⟨name, value⟩ -
  cases value with
  | none => rfl
  | some expr => simp only [Function.comp_apply, Option.map_some, Expr.mapSpan_mapSpan]

theorem Expr.map_mapSpan_mapSpan (first second : Span → Span) (expr : Option Expr) :
    (expr.map (mapSpan first)).map (mapSpan second) = expr.map (mapSpan (second ∘ first)) := by
  cases expr with
  | none => rfl
  | some expr => simp only [Option.map_some, mapSpan_mapSpan]

mutual

theorem Stmt.mapSpan_mapSpan (first second : Span → Span) :
    ∀ stmt : Stmt, (stmt.mapSpan first).mapSpan second = stmt.mapSpan (second ∘ first)
  | .var _ _ => by simp only [Stmt.mapSpan, mapBindings_mapBindings, Function.comp_apply]
  | .letBe _ _ _ | .assign _ _ _ _ | .expression _ _ => by
      simp only [Stmt.mapSpan, Expr.mapSpan_mapSpan, Function.comp_apply]
  | .choose arms _ => by
      simp only [Stmt.mapSpan, Arms.mapSpan_mapSpan first second arms, Function.comp_apply]
  | .whileLoop _ body _ => by
      simp only [Stmt.mapSpan, Expr.mapSpan_mapSpan, Stmt.mapSpans_mapSpans first second body,
        Function.comp_apply]
  | .forRange _ _ _ _ body _ => by
      simp only [Stmt.mapSpan, Expr.mapSpan_mapSpan, Expr.map_mapSpan_mapSpan,
        Stmt.mapSpans_mapSpans first second body, Function.comp_apply]
  | .forIn _ _ body _ => by
      simp only [Stmt.mapSpan, Expr.mapSpan_mapSpan, Stmt.mapSpans_mapSpans first second body,
        Function.comp_apply]
  | .define _ _ _ body _ => by
      simp only [Stmt.mapSpan, Stmt.mapBody_mapBody first second body, Function.comp_apply]
  | .give _ _ => by simp only [Stmt.mapSpan, Expr.map_mapSpan_mapSpan, Function.comp_apply]
  | .pass _ => rfl

theorem Stmt.mapSpans_mapSpans (first second : Span → Span) :
    ∀ block : List Stmt,
      Stmt.mapSpans second (Stmt.mapSpans first block) = Stmt.mapSpans (second ∘ first) block
  | [] => rfl
  | stmt :: rest => by
      simp only [Stmt.mapSpans, Stmt.mapSpan_mapSpan first second stmt,
        Stmt.mapSpans_mapSpans first second rest]

theorem Arms.mapSpan_mapSpan (first second : Span → Span) :
    ∀ arms : Arms, (arms.mapSpan first).mapSpan second = arms.mapSpan (second ∘ first)
  | .arm _ body others => by
      simp only [Arms.mapSpan, Expr.mapSpan_mapSpan, Stmt.mapSpans_mapSpans first second body,
        Arms.mapSpan_mapSpan first second others]
  | .otherwise body => by simp only [Arms.mapSpan, Stmt.mapSpans_mapSpans first second body]
  | .nothing => rfl

theorem Stmt.mapBody_mapBody (first second : Span → Span) :
    ∀ body : Option (List Stmt),
      Stmt.mapBody second (Stmt.mapBody first body) = Stmt.mapBody (second ∘ first) body
  | none => rfl
  | some body => by simp only [Stmt.mapBody, Stmt.mapSpans_mapSpans first second body]

end

/-! ## Nothing is changed -/

mutual

theorem Expr.mapSpan_id : ∀ expr : Expr, expr.mapSpan id = expr
  | .literal _ _ | .variable _ _ => rfl
  | .binary _ left right _ => by simp only [mapSpan, mapSpan_id left, mapSpan_id right, id]
  | .unary _ operand _ => by simp only [mapSpan, mapSpan_id operand, id]
  | .call _ args _ => by simp only [mapSpan, mapSpans_id args, id]
  | .method receiver _ args _ => by simp only [mapSpan, mapSpan_id receiver, mapSpans_id args, id]
  | .list items _ | .set items _ => by simp only [mapSpan, mapSpans_id items, id]

theorem Expr.mapSpans_id : ∀ exprs : List Expr, Expr.mapSpans id exprs = exprs
  | [] => rfl
  | expr :: rest => by simp only [mapSpans, mapSpan_id expr, mapSpans_id rest]

end

theorem Expr.map_mapSpan_id (expr : Option Expr) : expr.map (mapSpan id) = expr := by
  cases expr with
  | none => rfl
  | some expr => rw [Option.map_some, mapSpan_id]

theorem mapBindings_id (bindings : List (String × Option Expr)) :
    mapBindings id bindings = bindings := by
  simp only [mapBindings, Expr.map_mapSpan_id, List.map_id']

mutual

theorem Stmt.mapSpan_id : ∀ stmt : Stmt, stmt.mapSpan id = stmt
  | .var _ _ => by simp only [Stmt.mapSpan, mapBindings_id, id]
  | .letBe _ _ _ | .assign _ _ _ _ | .expression _ _ => by
      simp only [Stmt.mapSpan, Expr.mapSpan_id, id]
  | .choose arms _ => by simp only [Stmt.mapSpan, Arms.mapSpan_id arms, id]
  | .whileLoop _ body _ | .forIn _ _ body _ => by
      simp only [Stmt.mapSpan, Expr.mapSpan_id, Stmt.mapSpans_id body, id]
  | .forRange _ _ _ _ body _ => by
      simp only [Stmt.mapSpan, Expr.mapSpan_id, Expr.map_mapSpan_id, Stmt.mapSpans_id body, id]
  | .define _ _ _ body _ => by simp only [Stmt.mapSpan, Stmt.mapBody_id body, id]
  | .give _ _ => by simp only [Stmt.mapSpan, Expr.map_mapSpan_id, id]
  | .pass _ => rfl

theorem Stmt.mapSpans_id : ∀ block : List Stmt, Stmt.mapSpans id block = block
  | [] => rfl
  | stmt :: rest => by simp only [Stmt.mapSpans, Stmt.mapSpan_id stmt, Stmt.mapSpans_id rest]

theorem Arms.mapSpan_id : ∀ arms : Arms, arms.mapSpan id = arms
  | .arm _ body others => by
      simp only [Arms.mapSpan, Expr.mapSpan_id, Stmt.mapSpans_id body, Arms.mapSpan_id others]
  | .otherwise body => by simp only [Arms.mapSpan, Stmt.mapSpans_id body]
  | .nothing => rfl

theorem Stmt.mapBody_id : ∀ body : Option (List Stmt), Stmt.mapBody id body = body
  | none => rfl
  | some body => by simp only [Stmt.mapBody, Stmt.mapSpans_id body]

end

/-! ## Numbers of declarations -/

mutual

/-- Declarations are numbered the same wherever they are written. -/
theorem Stmt.number_mapSpan (change : Span → Span) :
    ∀ (next : Nat) (stmt : Stmt), (stmt.mapSpan change).number next =
      ((stmt.number next).1.mapSpan change, (stmt.number next).2)
  | next, .choose arms _ => by
      simp only [Stmt.mapSpan, Stmt.number, Arms.number_mapSpan change next arms]
  | next, .whileLoop _ body _ | next, .forRange _ _ _ _ body _ | next, .forIn _ _ body _ => by
      simp only [Stmt.mapSpan, Stmt.number, numberBlock_mapSpans change next body]
  | next, .define _ _ _ body _ => by
      simp only [Stmt.mapSpan, Stmt.number, numberBody_mapBody change (next + 1) body]
  | _, .var _ _ | _, .letBe _ _ _ | _, .assign _ _ _ _ | _, .expression _ _ | _, .give _ _
  | _, .pass _ => rfl

theorem numberBlock_mapSpans (change : Span → Span) :
    ∀ (next : Nat) (block : List Stmt), numberBlock next (Stmt.mapSpans change block) =
      (Stmt.mapSpans change (numberBlock next block).1, (numberBlock next block).2)
  | _, [] => rfl
  | next, stmt :: rest => by
      simp only [Stmt.mapSpans, numberBlock, Stmt.number_mapSpan change next stmt,
        numberBlock_mapSpans change (stmt.number next).2 rest]

theorem Arms.number_mapSpan (change : Span → Span) :
    ∀ (next : Nat) (arms : Arms), (arms.mapSpan change).number next =
      ((arms.number next).1.mapSpan change, (arms.number next).2)
  | next, .arm _ body others => by
      simp only [Arms.mapSpan, Arms.number, numberBlock_mapSpans change next body,
        Arms.number_mapSpan change (numberBlock next body).2 others]
  | next, .otherwise body => by
      simp only [Arms.mapSpan, Arms.number, numberBlock_mapSpans change next body]
  | _, .nothing => rfl

theorem numberBody_mapBody (change : Span → Span) :
    ∀ (next : Nat) (body : Option (List Stmt)), numberBody next (Stmt.mapBody change body) =
      (Stmt.mapBody change (numberBody next body).1, (numberBody next body).2)
  | _, none => rfl
  | next, some body => by
      simp only [Stmt.mapBody, numberBody, numberBlock_mapSpans change next body]

end

/-- Numbers go on from one part of a program to the next. -/
theorem numberBlock_append (next : Nat) (first second : List Stmt) :
    numberBlock next (first ++ second) =
      ((numberBlock next first).1 ++ (numberBlock (numberBlock next first).2 second).1,
        (numberBlock (numberBlock next first).2 second).2) := by
  induction first generalizing next with
  | nil => rfl
  | cons stmt rest ih => simp only [List.cons_append, numberBlock, ih]

end DotScript
