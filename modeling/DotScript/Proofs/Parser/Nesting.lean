import DotScript.Proofs.Parser.Accounting.Statements
import DotScript.Proofs.Source.Gaps

/-!
# Spans are nested

The tokens of a source come one after the other, and every node of its tree is written with a run of
them.  The span of a node goes from the start of the first token of its run to the end of the last
one, so it contains the spans of the nodes that are written with tokens of the same run, and the
spans of nodes with runs side by side do not meet.
-/

namespace DotScript

/-! ## Runs of tokens -/

/-- Tokens come one after the other, and none ends before it starts. -/
structure Token.InOrder (tokens : List Token) : Prop where
  apart : tokens.Pairwise fun first second => first.span.stop ≤ second.span.start
  forward : ∀ token ∈ tokens, token.span.start ≤ token.span.stop

namespace Token.InOrder

variable {tokens part : List Token} {token first last : Token}

theorem of_infix (order : InOrder tokens) (inside : part <:+: tokens) : InOrder part where
  apart := order.apart.sublist inside.sublist
  forward token member := order.forward token (inside.subset member)

theorem head_le (order : InOrder tokens) (head : tokens.head? = some first)
    (member : token ∈ tokens) : first.span.start ≤ token.span.start := by
  obtain ⟨rest, rfl⟩ := List.head?_eq_some_iff.1 head
  rcases List.mem_cons.1 member with rfl | later
  · exact Nat.le_refl _
  · exact Nat.le_trans (order.forward first List.mem_cons_self)
      ((List.pairwise_cons.1 order.apart).1 token later)

theorem le_last (order : InOrder tokens) (ends : tokens.getLast? = some last)
    (member : token ∈ tokens) : token.span.stop ≤ last.span.stop := by
  obtain ⟨front, rfl⟩ := List.getLast?_eq_some_iff.1 ends
  rcases List.mem_append.1 member with earlier | same
  · have before := (List.pairwise_append.1 order.apart).2.2 token earlier last
      (List.mem_singleton_self last)
    exact Nat.le_trans before (order.forward last (by simp))
  · obtain rfl := List.mem_singleton.1 same
    exact Nat.le_refl _

end Token.InOrder

namespace Span

open Token

/-- The span lies in another one. -/
def Within (inner outer : Span) : Prop :=
  outer.start ≤ inner.start ∧ inner.stop ≤ outer.stop

/-- The span starts where the first of the tokens does, and is on its line. -/
def Begins (span : Span) (tokens : List Token) : Prop :=
  ∃ first, tokens.head? = some first ∧ span.start = first.span.start ∧ span.line = first.span.line

/-- The span ends where the last of the tokens does. -/
def Ends (span : Span) (tokens : List Token) : Prop :=
  ∃ last, tokens.getLast? = some last ∧ span.stop = last.span.stop

/-- The span goes from the first of the tokens to the last one. -/
structure Covers (span : Span) (tokens : List Token) : Prop where
  begins : span.Begins tokens
  ends : span.Ends tokens

variable {span left right : Span} {tokens part more : List Token} {token : Token}

theorem begins_cons (token : Token) (rest : List Token) : token.span.Begins (token :: rest) :=
  ⟨token, rfl, rfl, rfl⟩

theorem Begins.append (begins : span.Begins tokens) (more : List Token) :
    span.Begins (tokens ++ more) := by
  obtain ⟨first, head, same⟩ := begins
  exact ⟨first, by rw [List.head?_append, head]; rfl, same⟩

theorem ends_singleton (token : Token) : token.span.Ends [token] :=
  ⟨token, rfl, rfl⟩

theorem Ends.append (ends : span.Ends more) (tokens : List Token) : span.Ends (tokens ++ more) := by
  obtain ⟨last, found, same⟩ := ends
  exact ⟨last, by rw [List.getLast?_append, found]; rfl, same⟩

theorem Ends.cons (ends : span.Ends more) (token : Token) : span.Ends (token :: more) :=
  ends.append [token]

theorem covers_singleton (token : Token) : token.span.Covers [token] :=
  ⟨begins_cons token [], ends_singleton token⟩

/-- A span from some tokens to the end of those behind. -/
theorem covers_to (order : InOrder (part ++ more)) (front : left.Covers part)
    (ends : right.Ends (part ++ more)) : (left.to right).Covers (part ++ more) := by
  obtain ⟨last, found, stops⟩ := ends
  obtain ⟨begins, last', found', stops'⟩ := front
  have reach : left.stop ≤ right.stop := by
    rw [stops, stops']
    exact order.le_last found (List.mem_append_left _ (List.mem_of_getLast? found'))
  have stop : (left.to right).stop = right.stop := Nat.max_eq_left reach
  exact ⟨begins.append more, last, found, stop.trans stops⟩

/-- A span from a token to the end of those behind. -/
theorem covers_cons (order : InOrder (token :: more)) (ends : right.Ends (token :: more)) :
    (token.span.to right).Covers (token :: more) :=
  covers_to order (covers_singleton token) ends

/-- A span of some of the tokens lies in a span of all of them. -/
theorem Covers.within (inner : left.Covers part) (outer : right.Covers tokens)
    (order : InOrder tokens) (inside : part ⊆ tokens) : left.Within right := by
  obtain ⟨⟨first, head, starts, -⟩, last, ends, stops⟩ := inner
  obtain ⟨⟨first', head', starts', -⟩, last', ends', stops'⟩ := outer
  rw [Within, starts, stops, starts', stops']
  exact ⟨order.head_le head' (inside (List.mem_of_head? head)),
    order.le_last ends' (inside (List.mem_of_getLast? ends))⟩

/-- Spans of tokens in front and of tokens behind do not meet. -/
theorem Covers.stop_le_start (front : left.Covers part) (back : right.Covers more)
    (apart : ∀ first ∈ part, ∀ second ∈ more, first.span.stop ≤ second.span.start) :
    left.stop ≤ right.start := by
  obtain ⟨-, last, ends, stops⟩ := front
  obtain ⟨⟨first, head, starts, -⟩, -⟩ := back
  rw [stops, starts]
  exact apart last (List.mem_of_getLast? ends) first (List.mem_of_head? head)

end Span

open Token
open List (infix_rfl infix_cons infix_append_left infix_append_right infix_append_of_infix_right)

/-! ## Nested nodes -/

/-- The expressions that stand directly in an expression. -/
def Expr.parts : Expr → List Expr
  | .literal _ _ | .variable _ _ => []
  | .binary _ left right _ => [left, right]
  | .unary _ operand _ => [operand]
  | .call _ args _ => args
  | .method receiver _ args _ => receiver :: args
  | .list items _ | .set items _ => items

theorem Expr.sizeOf_lt_of_mem_parts {part : Expr} :
    ∀ {expr : Expr}, part ∈ expr.parts → sizeOf part < sizeOf expr
  | .binary _ _ _ _, member | .unary _ _ _, member => by
      simp only [parts, List.mem_cons, List.not_mem_nil, or_false] at member
      grind
  | .call _ _ _, member | .method _ _ _ _, member | .list _ _, member | .set _ _, member => by
      have smaller := List.sizeOf_lt_of_mem member
      simp only [parts] at smaller
      grind

/-- The expressions that stand directly in a statement. -/
def Stmt.exprs : Stmt → List Expr
  | .var bindings _ => bindings.filterMap (·.2)
  | .letBe _ value _ | .assign _ _ value _ | .expression value _ => [value]
  | .choose arms _ => arms.conditional.map (·.1)
  | .whileLoop condition _ _ => [condition]
  | .forRange _ first last step _ _ => first :: last :: step.toList
  | .forIn _ items _ _ => [items]
  | .give value _ => value.toList
  | .define _ _ _ _ _ | .pass _ => []

/-- The blocks of a conditional statement. -/
def Arms.blocks (arms : Arms) : List (List Stmt) :=
  arms.conditional.map (·.2) ++ arms.otherwise?.toList

/-- The blocks that stand directly in a statement. -/
def Stmt.blocks : Stmt → List (List Stmt)
  | .choose arms _ => arms.blocks
  | .whileLoop _ body _ | .forRange _ _ _ _ body _ | .forIn _ _ body _ => [body]
  | .define _ _ _ body _ => body.toList
  | _ => []

theorem Arms.sizeOf_lt_of_mem_blocks {block : List Stmt} :
    ∀ {arms : Arms}, block ∈ arms.blocks → sizeOf block < sizeOf arms
  | .arm _ _ others, member => by
      rcases List.mem_cons.1 member with rfl | later
      · grind
      · have smaller : sizeOf block < sizeOf others := sizeOf_lt_of_mem_blocks later
        grind
  | .otherwise _, member => by
      rw [List.mem_singleton.1 member]
      grind

theorem Stmt.sizeOf_lt_of_mem_blocks {stmt inner : Stmt} {block : List Stmt}
    (member : block ∈ stmt.blocks) (in_block : inner ∈ block) : sizeOf inner < sizeOf stmt := by
  have smaller := List.sizeOf_lt_of_mem in_block
  cases stmt with
  | choose =>
      have block_smaller := Arms.sizeOf_lt_of_mem_blocks member
      grind
  | _ =>
      simp only [blocks, List.mem_singleton, Option.mem_toList, List.not_mem_nil] at member <;>
        grind

/-- The spans of the expression and of all expressions in it are those of runs of tokens, and each
contains the spans of its parts. -/
inductive Expr.Nests (tokens : List Token) : Expr → Prop
  | intro {expr : Expr} (place : ∃ run, run <:+: tokens ∧ expr.span.Covers run)
      (within : ∀ part ∈ expr.parts, part.span.Within expr.span)
      (parts : ∀ part ∈ expr.parts, Expr.Nests tokens part) : Expr.Nests tokens expr

/-- Of two statements, the first one ends before the second one starts. -/
def Stmt.Precedes (first second : Stmt) : Prop :=
  first.span.stop ≤ second.span.start

/-- The spans of the statement and of all statements and expressions in it are those of runs of
tokens, each contains the spans of its parts, and in every block they come one after the other. -/
inductive Stmt.Nests (tokens : List Token) : Stmt → Prop
  | intro {stmt : Stmt} (place : ∃ run, run <:+: tokens ∧ stmt.span.Covers run)
      (exprs_within : ∀ expr ∈ stmt.exprs, expr.span.Within stmt.span)
      (exprs : ∀ expr ∈ stmt.exprs, Expr.Nests tokens expr)
      (apart : ∀ block ∈ stmt.blocks, block.Pairwise Stmt.Precedes)
      (blocks_within : ∀ block ∈ stmt.blocks, ∀ inner ∈ block, inner.span.Within stmt.span)
      (blocks : ∀ block ∈ stmt.blocks, ∀ inner ∈ block, Stmt.Nests tokens inner) :
      Stmt.Nests tokens stmt

/-! ## Expressions -/

theorem Expr.span_withSpan (expr : Expr) (span : Span) : (expr.withSpan span).span = span := by
  cases expr <;> rfl

theorem Expr.parts_withSpan (expr : Expr) (span : Span) :
    (expr.withSpan span).parts = expr.parts := by
  cases expr <;> rfl

/-- An expression covers the tokens that it is written with. -/
theorem Expr.WrittenAs.covers {expr : Expr} {run : List Token} :
    expr.WrittenAs run → InOrder run → expr.span.Covers run
  | .literal _, _ | .variable _, _ => Span.covers_singleton _
  | .group _ _ _, order => by
      rw [span_withSpan]
      exact Span.covers_cons order (((Span.ends_singleton _).append _).cons _)
  | .call _ _ _ _, order =>
      Span.covers_cons order ((((Span.ends_singleton _).append _).cons _).cons _)
  | .list _ _ _, order | .set _ _ _, order =>
      Span.covers_cons order (((Span.ends_singleton _).append _).cons _)
  | .method written _ _ _ _ _, order => by
      have receiver := written.covers (order.of_infix infix_append_left)
      exact Span.covers_to order receiver
        ((((((Span.ends_singleton _).append _).cons _).cons _).cons _).append _)
  | .methodOf called _ written, order => by
      have first := called.covers (order.of_infix infix_append_left)
      have receiver := written.covers
        (order.of_infix (infix_append_of_infix_right (infix_cons infix_rfl)))
      exact Span.covers_to order first ((receiver.ends.cons _).append _)
  | .unary _ written, order => by
      have operand := written.covers (order.of_infix (infix_cons infix_rfl))
      exact Span.covers_cons order (operand.ends.cons _)
  | .binary left_written _ right_written, order => by
      have left := left_written.covers (order.of_infix infix_append_left)
      have right := right_written.covers
        (order.of_infix (infix_append_of_infix_right infix_append_right))
      exact Span.covers_to order left ((right.ends.append _).append _)

/-- The items of a list are written with runs of their own. -/
theorem Listed.exists_infix {α : Type} {item : α → List Token → Prop} {values : List α}
    {run : List Token} (listed : Listed item values run) :
    ∀ value ∈ values, ∃ piece, piece <:+: run ∧ item value piece := by
  induction listed with
  | nil => exact List.forall_mem_nil _
  | one written => exact List.forall_mem_singleton.2 ⟨_, infix_rfl, written⟩
  | more written _ _ ih =>
      refine List.forall_mem_cons.2 ⟨⟨_, infix_append_left, written⟩, ?_⟩
      intro value member
      obtain ⟨piece, inside, written⟩ := ih value member
      exact ⟨piece, infix_append_of_infix_right (infix_cons inside), written⟩

/-- The items of a list are written with some of the tokens around the list. -/
theorem Listed.exists_infix_of {α : Type} {item : α → List Token → Prop} {values : List α}
    {part run : List Token} (listed : Listed item values part) (inside : part <:+: run) :
    ∀ value ∈ values, ∃ piece, piece <:+: run ∧ item value piece := by
  intro value member
  obtain ⟨piece, within, written⟩ := listed.exists_infix value member
  exact ⟨piece, within.trans inside, written⟩

/-- The parts of an expression are written with some of its tokens. -/
theorem Expr.WrittenAs.parts_written {expr part : Expr} {run : List Token} :
    expr.WrittenAs run → part ∈ expr.parts → ∃ piece, piece <:+: run ∧ part.WrittenAs piece
  | .literal _, member | .variable _, member => absurd member List.not_mem_nil
  | .group _ written _, member => by
      -- parentheses are no node of their own: the expression in them has the span of the group
      rw [Expr.parts_withSpan] at member
      obtain ⟨piece, inside, part_written⟩ := written.parts_written member
      exact ⟨piece, inside.trans (infix_cons infix_append_left), part_written⟩
  | .call _ _ listed _, member =>
      listed.exists_infix_of (infix_cons (infix_cons infix_append_left)) part member
  | .list _ listed _, member | .set _ listed _, member =>
      listed.exists_infix_of (infix_cons infix_append_left) part member
  | .method written _ _ _ listed _, member => by
      rcases List.mem_cons.1 member with rfl | is_arg
      · exact ⟨_, infix_append_left, written⟩
      · exact listed.exists_infix_of
          (infix_append_of_infix_right (infix_cons (infix_cons (infix_cons infix_append_left))))
          part is_arg
  | .methodOf called _ written, member => by
      rcases List.mem_cons.1 member with rfl | is_arg
      · exact ⟨_, infix_append_of_infix_right (infix_cons infix_rfl), written⟩
      · -- the call in front of the receiver is not there any more, only its arguments are
        obtain ⟨piece, inside, part_written⟩ := called.parts_written is_arg
        exact ⟨piece, inside.trans infix_append_left, part_written⟩
  | .unary _ written, member => by
      obtain rfl := List.mem_singleton.1 member
      exact ⟨_, infix_cons infix_rfl, written⟩
  | .binary left_written _ right_written, member => by
      rcases List.mem_pair.1 member with rfl | rfl
      · exact ⟨_, infix_append_left, left_written⟩
      · exact ⟨_, infix_append_of_infix_right infix_append_right, right_written⟩

/-- The nodes of an expression are nested in the tokens around it. -/
theorem Expr.WrittenAs.nests {expr : Expr} {run tokens : List Token} (written : expr.WrittenAs run)
    (inside : run <:+: tokens) (order : InOrder tokens) : expr.Nests tokens := by
  have covers := written.covers (order.of_infix inside)
  refine .intro ⟨run, inside, covers⟩ (fun part member => ?_) fun part member => ?_
  · obtain ⟨piece, within, part_written⟩ := written.parts_written member
    exact (part_written.covers (order.of_infix (within.trans inside))).within covers
      (order.of_infix inside) within.subset
  · obtain ⟨piece, within, part_written⟩ := written.parts_written member
    exact part_written.nests (within.trans inside) order
termination_by sizeOf expr
decreasing_by exact Expr.sizeOf_lt_of_mem_parts member

/-- The expression is written with some of the tokens, or it is a constant that a statement puts at
one of them. -/
inductive Expr.StandsIn (tokens : List Token) : Expr → Prop
  | written {expr : Expr} {part : List Token} (inside : part <:+: tokens)
      (written : expr.WrittenAs part) : Expr.StandsIn tokens expr
  | constant {token : Token} (value : Literal) (member : token ∈ tokens) :
      Expr.StandsIn tokens (.literal value token.span)

namespace Expr.StandsIn

variable {expr : Expr} {part tokens : List Token} {outer : Span}

theorem mono (stands : expr.StandsIn part) (inside : part <:+: tokens) : expr.StandsIn tokens := by
  cases stands with
  | written within written => exact .written (within.trans inside) written
  | constant value member => exact .constant value (inside.subset member)

theorem within (stands : expr.StandsIn tokens) (order : InOrder tokens)
    (whole : outer.Covers tokens) : expr.span.Within outer := by
  cases stands with
  | written inside written =>
      exact (written.covers (order.of_infix inside)).within whole order inside.subset
  | constant value member =>
      exact (Span.covers_singleton _).within whole order
        (List.cons_subset.2 ⟨member, List.nil_subset _⟩)

theorem nests (stands : expr.StandsIn tokens) (order : InOrder tokens) : expr.Nests tokens := by
  cases stands with
  | written inside written => exact written.nests inside order
  | constant value member =>
      obtain ⟨front, back, rfl⟩ := List.append_of_mem member
      exact .intro ⟨_, ⟨front, back, by simp⟩, Span.covers_singleton _⟩
        (List.forall_mem_nil _) (List.forall_mem_nil _)

end Expr.StandsIn

/-! ## Statements -/

/-- A statement covers the tokens that it is written with. -/
theorem Stmt.WrittenAs.covers {stmt : Stmt} {run : List Token} (written : stmt.WrittenAs run)
    (order : InOrder run) : stmt.span.Covers run := by
  cases written with
  | var _ _ ends | give _ _ ends => exact Span.covers_cons order ⟨_, ends, rfl⟩
  | letBe _ _ _ written =>
      have value := written.covers (order.of_infix (infix_cons (infix_cons (infix_cons infix_rfl))))
      exact Span.covers_cons order (((value.ends.cons _).cons _).cons _)
  | assign _ _ _ written =>
      have value := written.covers (order.of_infix (infix_cons (infix_cons infix_rfl)))
      exact Span.covers_cons order ((value.ends.cons _).cons _)
  | stepAfter | stepBefore | choose | whileLoop | forRange | forIn | declare | define =>
      exact Span.covers_cons order ⟨_, by simp [List.getLast?_cons], rfl⟩
  | expression written => exact written.covers order
  | pass => exact Span.covers_singleton _

/-- The bounds of a range stand behind its opening parenthesis or at it. -/
theorem RangeWrittenAs.exprs_stand {start : Token} {first last : Expr} {step : Option Expr}
    {bounds : List Token} (written : RangeWrittenAs start.span (first, last, step) bounds) :
    ∀ expr ∈ first :: last :: step.toList, expr.StandsIn (start :: bounds) := by
  cases written with
  | upTo written =>
      exact List.forall_mem_cons.2 ⟨.constant _ List.mem_cons_self,
        List.forall_mem_singleton.2 (.written (infix_cons infix_rfl) written)⟩
  | between _ first_written _ last_written =>
      exact List.forall_mem_cons.2
        ⟨.written (infix_cons (infix_cons infix_append_left)) first_written,
          List.forall_mem_singleton.2 (.written
            (infix_cons (infix_cons (infix_append_of_infix_right (infix_cons infix_rfl))))
            last_written)⟩
  | stepping _ first_written _ last_written _ step_written =>
      refine List.forall_mem_cons.2
        ⟨.written (infix_cons (infix_cons infix_append_left)) first_written,
          List.forall_mem_cons.2 ⟨.written (infix_cons (infix_cons
            (infix_append_of_infix_right (infix_cons infix_append_left)))) last_written,
            List.forall_mem_singleton.2 ?_⟩⟩
      exact .written (infix_cons (infix_cons (infix_append_of_infix_right (infix_cons
        (infix_append_of_infix_right (infix_cons infix_rfl)))))) step_written

/-- The conditions of the later arms are written with some of their tokens. -/
theorem Arms.WrittenAs.conditions_stand {arms : Arms} {run : List Token}
    (written : arms.WrittenAs run) :
    ∀ condition ∈ arms.conditional.map (·.1), condition.StandsIn run := by
  cases written with
  | arm _ written _ _ others_written =>
      refine List.forall_mem_cons.2 ⟨.written (infix_cons infix_append_left) written, ?_⟩
      intro condition member
      exact (others_written.conditions_stand condition member).mono
        (infix_cons (infix_append_of_infix_right (infix_cons infix_append_right)))
  | otherwise | nothing => exact List.forall_mem_nil _

/-- The expressions of a statement stand in its tokens. -/
theorem Stmt.WrittenAs.exprs_stand {stmt : Stmt} {run : List Token} (written : stmt.WrittenAs run) :
    ∀ expr ∈ stmt.exprs, expr.StandsIn run := by
  cases written with
  | var _ listed _ =>
      intro expr member
      obtain ⟨⟨name, initial⟩, declared, has_value⟩ := List.mem_filterMap.1 member
      obtain ⟨piece, inside, written⟩ := listed.exists_infix _ declared
      cases written with
      | bare => cases has_value
      | initial _ _ written =>
          cases has_value
          exact .written (infix_cons ((infix_cons (infix_cons infix_rfl)).trans inside)) written
  | letBe _ _ _ written =>
      exact List.forall_mem_singleton.2
        (.written (infix_cons (infix_cons (infix_cons infix_rfl))) written)
  | assign _ _ _ written =>
      exact List.forall_mem_singleton.2 (.written (infix_cons (infix_cons infix_rfl)) written)
  | stepAfter =>
      exact List.forall_mem_singleton.2 (.constant _ (List.mem_cons_of_mem _ List.mem_cons_self))
  | stepBefore => exact List.forall_mem_singleton.2 (.constant _ List.mem_cons_self)
  | choose _ written _ _ others_written _ =>
      refine List.forall_mem_cons.2 ⟨.written (infix_cons infix_append_left) written, ?_⟩
      intro condition member
      exact (others_written.conditions_stand condition member).mono
        (infix_cons (infix_append_of_infix_right (infix_cons
          (infix_append_of_infix_right infix_append_left))))
  | whileLoop _ written _ _ _ =>
      exact List.forall_mem_singleton.2 (.written (infix_cons infix_append_left) written)
  | forRange _ _ _ _ _ bounds_written _ _ _ _ =>
      intro expr member
      exact (bounds_written.exprs_stand expr member).mono
        (infix_cons (infix_cons (infix_cons (infix_cons (List.prefix_append _ _).isInfix))))
  | forIn _ _ _ written _ _ _ =>
      exact List.forall_mem_singleton.2
        (.written (infix_cons (infix_cons (infix_cons infix_append_left))) written)
  | expression written => exact List.forall_mem_singleton.2 (.written infix_rfl written)
  | give _ given _ =>
      cases given with
      | nothing | empty => exact List.forall_mem_nil _
      | value written =>
          exact List.forall_mem_singleton.2 (.written (infix_cons infix_rfl) written)
  | declare | define | pass => exact List.forall_mem_nil _

/-- The blocks of the later arms are written with some of their tokens. -/
theorem Arms.WrittenAs.blocks_written {arms : Arms} {run : List Token}
    (written : arms.WrittenAs run) :
    ∀ block ∈ arms.blocks, ∃ piece, piece <:+: run ∧ BlockWrittenAs block piece := by
  cases written with
  | arm _ _ _ inside others_written =>
      refine List.forall_mem_cons.2 ⟨⟨_, infix_cons (infix_append_of_infix_right
        (infix_cons infix_append_left)), inside⟩, ?_⟩
      intro block member
      obtain ⟨piece, within, written⟩ := others_written.blocks_written block member
      exact ⟨piece, infix_cons (infix_append_of_infix_right (infix_cons
        (infix_append_of_infix_right within))), written⟩
  | otherwise _ _ inside =>
      exact List.forall_mem_singleton.2 ⟨_, infix_cons (infix_cons infix_rfl), inside⟩
  | nothing => exact List.forall_mem_nil _

/-- The blocks of a statement are written with some of its tokens. -/
theorem Stmt.WrittenAs.blocks_written {stmt : Stmt} {run : List Token}
    (written : stmt.WrittenAs run) :
    ∀ block ∈ stmt.blocks, ∃ piece, piece <:+: run ∧ BlockWrittenAs block piece := by
  cases written with
  | choose _ _ _ inside others_written _ =>
      refine List.forall_mem_cons.2 ⟨⟨_, infix_cons (infix_append_of_infix_right
        (infix_cons infix_append_left)), inside⟩, ?_⟩
      intro block member
      obtain ⟨piece, within, written⟩ := others_written.blocks_written block member
      exact ⟨piece, infix_cons (infix_append_of_infix_right (infix_cons
        (infix_append_of_infix_right (within.trans infix_append_left)))), written⟩
  | whileLoop _ _ _ inside _ =>
      exact List.forall_mem_singleton.2 ⟨_, infix_cons (infix_append_of_infix_right
        (infix_cons infix_append_left)), inside⟩
  | forRange _ _ _ _ _ _ _ _ inside _ =>
      exact List.forall_mem_singleton.2 ⟨_, infix_cons (infix_cons (infix_cons (infix_cons
        (infix_cons (infix_append_of_infix_right (infix_cons (infix_cons infix_append_left))))))),
        inside⟩
  | forIn _ _ _ _ _ inside _ =>
      exact List.forall_mem_singleton.2 ⟨_, infix_cons (infix_cons (infix_cons
        (infix_append_of_infix_right (infix_cons infix_append_left)))), inside⟩
  | define _ _ _ _ _ _ _ inside _ =>
      exact List.forall_mem_singleton.2 ⟨_, infix_cons (infix_cons (infix_append_of_infix_right
        (infix_cons (infix_append_of_infix_right (infix_cons (infix_cons infix_append_left)))))),
        inside⟩
  | _ => exact List.forall_mem_nil _

/-- The statements of a block are written with runs of their own. -/
theorem BlockWrittenAs.exists_infix {block : List Stmt} {run : List Token}
    (written : BlockWrittenAs block run) :
    ∀ stmt ∈ block, ∃ piece, piece <:+: run ∧ stmt.WrittenAs piece := by
  cases written with
  | nil => exact List.forall_mem_nil _
  | cons written _ rest_written =>
      refine List.forall_mem_cons.2 ⟨⟨_, infix_append_left, written⟩, ?_⟩
      intro stmt member
      obtain ⟨piece, inside, written⟩ := rest_written.exists_infix stmt member
      exact ⟨piece, infix_append_of_infix_right (infix_append_of_infix_right inside), written⟩

/-- The statements of a block come one after the other. -/
theorem BlockWrittenAs.apart {block : List Stmt} {run : List Token} :
    BlockWrittenAs block run → InOrder run → block.Pairwise Stmt.Precedes
  | .nil, _ => .nil
  | .cons written _ rest_written, order => by
      have behind := order.of_infix (infix_append_of_infix_right infix_append_right)
      refine .cons (fun later member => ?_) (rest_written.apart behind)
      obtain ⟨piece, inside, later_written⟩ := rest_written.exists_infix later member
      refine (written.covers (order.of_infix infix_append_left)).stop_le_start
        (later_written.covers (behind.of_infix inside)) fun token in_first token' in_later => ?_
      exact (List.pairwise_append.1 order.apart).2.2 token in_first token'
        (List.mem_append_right _ (inside.subset in_later))

/-- The nodes of a statement are nested in the tokens around it. -/
theorem Stmt.WrittenAs.nests {stmt : Stmt} {run tokens : List Token} (written : stmt.WrittenAs run)
    (inside : run <:+: tokens) (order : InOrder tokens) : stmt.Nests tokens := by
  have run_order := order.of_infix inside
  have covers := written.covers run_order
  refine .intro ⟨run, inside, covers⟩
    (fun expr member => (written.exprs_stand expr member).within run_order covers)
    (fun expr member => ((written.exprs_stand expr member).mono inside).nests order)
    (fun block member => ?_) (fun block member inner in_block => ?_)
    fun block member inner in_block => ?_
  · obtain ⟨piece, within, block_written⟩ := written.blocks_written block member
    exact block_written.apart (run_order.of_infix within)
  · obtain ⟨piece, within, block_written⟩ := written.blocks_written block member
    obtain ⟨part, part_within, inner_written⟩ := block_written.exists_infix inner in_block
    have in_run := part_within.trans within
    exact (inner_written.covers (run_order.of_infix in_run)).within covers run_order in_run.subset
  · obtain ⟨piece, within, block_written⟩ := written.blocks_written block member
    obtain ⟨part, part_within, inner_written⟩ := block_written.exists_infix inner in_block
    exact inner_written.nests ((part_within.trans within).trans inside) order
termination_by sizeOf stmt
decreasing_by exact Stmt.sizeOf_lt_of_mem_blocks member in_block

/-! ## Programs -/

/-- The tokens of a source come one after the other. -/
theorem Token.inOrder_inner (source : String) : InOrder (inner source) where
  apart := by
    have apart : (scan source).Pairwise _ := pairwise_scanRest false .start source.toList
    rw [scan_eq_append] at apart
    exact (List.pairwise_append.1 apart).1
  forward token member := by
    have scanned : token ∈ scan source := by
      rw [scan_eq_append]
      exact List.mem_append_left _ member
    exact (start_lt_stop_of_mem scanned).1

/-- The spans of a program are those of runs of tokens and contain the spans of all that is in
them, and statements side by side have spans that do not meet. -/
theorem Program.parse_nests_spans {source : String} {program : Program}
    (parses : parse source = .ok program) :
    (∀ stmt ∈ program, stmt.Nests (Token.inner source)) ∧ program.Pairwise Stmt.Precedes := by
  have written := blockWrittenAs_of_parse parses
  have order := Token.inOrder_inner source
  refine ⟨fun stmt member => ?_, written.apart order⟩
  obtain ⟨run, inside, stmt_written⟩ := written.exists_infix stmt member
  exact stmt_written.nests inside order

/-- A step, and a method whose receiver is a group behind it: each statement stands on its line. -/
theorem Program.receiver_in_group_is_nested :
    let source := "x++.\nadd(1, 2) of (xs)."
    ∃ program, parse source = .ok program ∧ program.map Stmt.span = [⟨0, 3, 1⟩, ⟨5, 22, 2⟩] ∧
      (∀ stmt ∈ program, stmt.Nests (Token.inner source)) ∧ program.Pairwise Stmt.Precedes := by
  intro source
  have places : (parse source).toOption.map (List.map Stmt.span) =
      some [⟨0, 3, 1⟩, ⟨5, 22, 2⟩] := by decide +kernel
  cases parses : parse source with
  | error diagnostic =>
      rw [parses] at places
      cases places
  | ok program =>
      rw [parses] at places
      exact ⟨program, rfl, Option.some.inj places, parse_nests_spans parses⟩

end DotScript
