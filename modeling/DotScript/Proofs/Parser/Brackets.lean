import DotScript.Proofs.Parser.Accepted
import DotScript.Proofs.Parser.Accounting.Statements

/-!
# The parser swallows no error

Scanning never fails: a character without a use, a string without an end and a bracket without its
partner are tokens like others.  But every token of a program that parses is written for a node of
its tree, and nodes are written with known tokens and with brackets in pairs.  So the parser
complains about all of these.
-/

namespace DotScript

namespace Token

/-! ## Brackets -/

/-- The bracket that closes an opening bracket. -/
def Kind.partner? : Kind → Option Kind
  | .parenOpen => some .parenClose
  | .bracketOpen => some .bracketClose
  | .braceOpen => some .braceClose
  | _ => none

/-- Whether a token closes a bracket. -/
def Kind.isClosing : Kind → Bool
  | .parenClose | .bracketClose | .braceClose => true
  | _ => false

/-- Whether a token is no bracket. -/
def Kind.isOrdinary (kind : Kind) : Bool :=
  kind.partner?.isNone && !kind.isClosing

/-- All brackets are in pairs, which are side by side or in one another. -/
inductive Matched : List Token → Prop
  | nil : Matched []
  | other {token : Token} {rest : List Token} (ordinary : token.kind.isOrdinary = true)
      (later : Matched rest) : Matched (token :: rest)
  | pair {start close : Token} {inside rest : List Token}
      (partners : start.kind.partner? = some close.kind) (within : Matched inside)
      (later : Matched rest) : Matched (start :: (inside ++ close :: rest))

theorem Matched.append {first second : List Token} (matched : Matched first)
    (later : Matched second) : Matched (first ++ second) := by
  induction matched with
  | nil => exact later
  | other ordinary _ ih => exact .other ordinary ih
  | pair partners within _ _ ih =>
      rw [List.cons_append, List.append_assoc]
      exact .pair partners within ih

/-- The brackets that are expected after one more token, the first one first. -/
def expectAfter (expected : List Kind) (token : Token) : Option (List Kind) :=
  match token.kind.partner? with
  | some close => some (close :: expected)
  | none =>
    if token.kind.isClosing then
      match expected with
      | [] => none
      | close :: rest => if token.kind = close then some rest else none
    else some expected

/-- The tokens close the given brackets, with matched ones between them. -/
def ClosesIn : List Kind → List Token → Prop
  | [], tokens => Matched tokens
  | kind :: expected, tokens => ∃ inside close rest,
    tokens = inside ++ close :: rest ∧ Matched inside ∧ close.kind = kind ∧ ClosesIn expected rest

theorem ClosesIn.append {expected : List Kind} {first second : List Token}
    (matched : Matched first) (later : ClosesIn expected second) :
    ClosesIn expected (first ++ second) := by
  cases expected with
  | nil => exact matched.append later
  | cons kind expected =>
      obtain ⟨inside, close, rest, rfl, within, same, ended⟩ := later
      exact ⟨first ++ inside, close, rest, (List.append_assoc _ _ _).symm, matched.append within,
        same, ended⟩

theorem closesIn_of_foldlM {expected : List Kind} {tokens : List Token}
    (closed : tokens.foldlM expectAfter expected = some []) : ClosesIn expected tokens := by
  induction tokens generalizing expected with
  | nil =>
      obtain rfl : expected = [] := Option.some.inj closed
      exact .nil
  | cons token rest ih =>
      rw [List.foldlM_cons] at closed
      obtain ⟨remaining, step, later⟩ := Option.bind_eq_some_iff.1 closed
      unfold expectAfter at step
      split at step
      next close partner =>
        cases step
        obtain ⟨inside, last, more, rfl, within, same, ended⟩ := ih later
        have pair : Matched (token :: (inside ++ [last])) :=
          .pair (partner.trans (congrArg some same.symm)) within .nil
        simpa using ended.append pair
      next no_partner =>
        split at step
        next =>
          split at step
          next => cases step
          next kind expected =>
            split at step
            next same =>
              cases step
              exact ⟨[], token, rest, rfl, .nil, same, ih later⟩
            next => cases step
        next no_closing =>
          cases step
          have ordinary : token.kind.isOrdinary = true := by
            simp [Kind.isOrdinary, no_partner, no_closing]
          exact ClosesIn.append (.other ordinary .nil) (ih later)

theorem Kind.closing_of_partner {kind close : Kind} (partners : kind.partner? = some close) :
    close.partner? = none ∧ close.isClosing = true := by
  unfold partner? at partners
  split at partners <;> cases partners <;> exact ⟨rfl, rfl⟩

theorem Matched.foldlM_eq {tokens : List Token} (matched : Matched tokens)
    (expected : List Kind) : tokens.foldlM expectAfter expected = some expected := by
  induction matched generalizing expected with
  | nil => rfl
  | @other token rest ordinary _ ih =>
      simp only [Kind.isOrdinary, Bool.and_eq_true, Option.isNone_iff_eq_none,
        Bool.not_eq_true'] at ordinary
      have step : expectAfter expected token = some expected := by
        simp [expectAfter, ordinary.1, ordinary.2]
      rw [List.foldlM_cons, step]
      exact ih expected
  | @pair start close inside rest partners _ _ within_ih ih =>
      have closing := Kind.closing_of_partner partners
      have opens : expectAfter expected start = some (close.kind :: expected) := by
        simp [expectAfter, partners]
      have closes : expectAfter (close.kind :: expected) close = some expected := by
        simp [expectAfter, closing.1, closing.2]
      rw [List.foldlM_cons, opens]
      change (inside ++ close :: rest).foldlM expectAfter (close.kind :: expected) = _
      rw [List.foldlM_append, within_ih]
      change (close :: rest).foldlM expectAfter (close.kind :: expected) = _
      rw [List.foldlM_cons, closes]
      exact ih expected

theorem matched_iff_foldlM {tokens : List Token} :
    Matched tokens ↔ tokens.foldlM expectAfter [] = some [] :=
  ⟨fun matched => matched.foldlM_eq [], closesIn_of_foldlM⟩

instance (tokens : List Token) : Decidable (Matched tokens) :=
  decidable_of_iff _ matched_iff_foldlM.symm

/-! ## Tokens of trees -/

/-- Brackets are in pairs, and no character is without a use and no string without an end. -/
structure AreRegular (tokens : List Token) : Prop where
  matched : Matched tokens
  known : ∀ token ∈ tokens, token.kind ≠ .unknown ∧ token.kind ≠ .unterminatedString

/-- Whether a token is no bracket and nothing that belongs to no program. -/
def Kind.isPlain (kind : Kind) : Bool :=
  kind.isOrdinary && kind ≠ .unknown && kind ≠ .unterminatedString

namespace AreRegular

theorem nil : AreRegular [] :=
  ⟨.nil, List.forall_mem_nil _⟩

theorem append {first second : List Token} (regular : AreRegular first)
    (later : AreRegular second) : AreRegular (first ++ second) :=
  ⟨regular.matched.append later.matched, List.forall_mem_append.2 ⟨regular.known, later.known⟩⟩

theorem plain {token : Token} {rest : List Token} {kind : Kind} (same : token.kind = kind)
    (later : AreRegular rest) (is_plain : kind.isPlain = true) :
    AreRegular (token :: rest) := by
  subst same
  simp only [Kind.isPlain, Bool.and_eq_true, decide_eq_true_eq] at is_plain
  exact ⟨.other is_plain.1.1 later.matched,
    List.forall_mem_cons.2 ⟨⟨is_plain.1.2, is_plain.2⟩, later.known⟩⟩

theorem pair {start close : Token} {inside rest : List Token} {opening closing : Kind}
    (opens : start.kind = opening) (within : AreRegular inside) (closes : close.kind = closing)
    (later : AreRegular rest) (partners : opening.partner? = some closing) :
    AreRegular (start :: (inside ++ close :: rest)) := by
  subst opens closes
  have start_known : start.kind ≠ .unknown ∧ start.kind ≠ .unterminatedString := by
    constructor <;> intro same <;> rw [same] at partners <;> cases partners
  have close_known : close.kind ≠ .unknown ∧ close.kind ≠ .unterminatedString := by
    have closing := (Kind.closing_of_partner partners).2
    constructor <;> intro same <;> rw [same] at closing <;> cases closing
  exact ⟨.pair partners within.matched later.matched, List.forall_mem_cons.2 ⟨start_known,
    List.forall_mem_append.2 ⟨within.known, List.forall_mem_cons.2 ⟨close_known, later.known⟩⟩⟩⟩

end AreRegular

end Token

open Token

theorem IsOptional.areRegular {kind : Token.Kind} {tokens : List Token}
    (optional : IsOptional kind tokens) (is_plain : kind.isPlain = true) : AreRegular tokens := by
  cases optional with
  | absent => exact .nil
  | present same => exact .plain same .nil is_plain

theorem Listed.areRegular {α : Type} {item : α → List Token → Prop} {values : List α}
    {tokens : List Token} (listed : Listed item values tokens)
    (items : ∀ value tokens, item value tokens → AreRegular tokens) : AreRegular tokens := by
  induction listed with
  | nil => exact .nil
  | one written => exact items _ _ written
  | more written comma _ ih => exact (items _ _ written).append (.plain comma ih rfl)

theorem Token.isPlain_of_literal? {token : Token} {value : Literal}
    (constant : token.literal? = some value) : token.kind.isPlain = true := by
  unfold literal? at constant
  split at constant <;> rename_i same <;> first | (rw [same]; rfl) | cases constant

theorem UnaryOp.isPlain_kind (op : UnaryOp) : op.mark.kind.isPlain = true := by
  cases op <;> rfl

theorem BinaryOp.isPlain_of_mem_spellings (op : BinaryOp) :
    ∀ kinds ∈ op.spellings, ∀ kind ∈ kinds, kind.isPlain = true := by
  cases op <;> decide

theorem areRegular_of_isPlain {tokens : List Token}
    (all_plain : ∀ token ∈ tokens, token.kind.isPlain = true) : AreRegular tokens := by
  induction tokens with
  | nil => exact .nil
  | cons token rest ih =>
      obtain ⟨first, later⟩ := List.forall_mem_cons.1 all_plain
      exact .plain rfl (ih later) first

theorem isPlain_of_assignmentOperator {kind : Token.Kind} {op : Option BinaryOp}
    (assigns : Parser.assignmentOperator kind = some op) : kind.isPlain = true := by
  unfold Parser.assignmentOperator at assigns
  split at assigns <;> first | rfl | cases assigns

mutual

/-- An expression is written with brackets in pairs. -/
theorem Expr.WrittenAs.areRegular {expr : Expr} {tokens : List Token} :
    expr.WrittenAs tokens → AreRegular tokens
  | .literal constant => .plain rfl .nil (isPlain_of_literal? constant)
  | .variable is_name => .plain is_name .nil rfl
  | .group opens written closes => .pair opens written.areRegular closes .nil rfl
  | .call is_name opens listed closes =>
      .plain is_name (.pair opens (areRegular_of_listed listed) closes .nil rfl) rfl
  | .list opens listed closes => .pair opens (areRegular_of_listed listed) closes .nil rfl
  | .set opens listed closes => .pair opens (areRegular_of_listed listed) closes .nil rfl
  | .method written is_point is_name opens listed closes =>
      written.areRegular.append (.plain is_point (.plain is_name
        (.pair opens (areRegular_of_listed listed) closes .nil rfl) rfl) rfl)
  | .methodOf call is_of written => call.areRegular.append (.plain is_of written.areRegular rfl)
  | .unary spelled written => .plain spelled written.areRegular (UnaryOp.isPlain_kind _)
  | .binary left_written spelled right_written => by
      refine left_written.areRegular.append (.append (areRegular_of_isPlain fun token inside => ?_)
        right_written.areRegular)
      exact BinaryOp.isPlain_of_mem_spellings _ _ spelled _ (List.mem_map_of_mem inside)

theorem areRegular_of_listed {items : List Expr} {tokens : List Token} :
    Listed Expr.WrittenAs items tokens → AreRegular tokens
  | .nil => .nil
  | .one written => written.areRegular
  | .more written comma listed =>
      written.areRegular.append (.plain comma (areRegular_of_listed listed) rfl)

end

theorem ParamWrittenAs.areRegular {param : String} {tokens : List Token}
    (written : ParamWrittenAs param tokens) : AreRegular tokens := by
  cases written with
  | name is_name => exact .plain is_name .nil rfl

theorem BindingWrittenAs.areRegular {binding : String × Option Expr} {tokens : List Token}
    (written : BindingWrittenAs binding tokens) : AreRegular tokens := by
  cases written with
  | bare is_name => exact .plain is_name .nil rfl
  | initial is_name assigns written =>
      exact .plain is_name (.plain assigns written.areRegular rfl) rfl

theorem RangeWrittenAs.areRegular {start : Span} {bounds : Expr × Expr × Option Expr}
    {tokens : List Token} (written : RangeWrittenAs start bounds tokens) : AreRegular tokens := by
  cases written with
  | upTo written => exact written.areRegular
  | between is_from first is_to last =>
      exact .plain is_from (first.areRegular.append (.plain is_to last.areRegular rfl)) rfl
  | stepping is_from first is_to last is_step step =>
      exact .plain is_from (first.areRegular.append (.plain is_to (last.areRegular.append
        (.plain is_step step.areRegular rfl)) rfl)) rfl

theorem GivenWrittenAs.areRegular {value : Option Expr} {tokens : List Token}
    (given : GivenWrittenAs value tokens) : AreRegular tokens := by
  cases given with
  | nothing => exact .nil
  | empty opens closes => exact .pair opens .nil closes .nil rfl
  | value written => exact written.areRegular

mutual

/-- A statement is written with brackets in pairs. -/
theorem Stmt.WrittenAs.areRegular {stmt : Stmt} {tokens : List Token} :
    stmt.WrittenAs tokens → AreRegular tokens
  | .var is_word listed _ =>
      .plain is_word (listed.areRegular fun _ _ => BindingWrittenAs.areRegular) rfl
  | .letBe is_word is_name is_be written =>
      .plain is_word (.plain is_name (.plain is_be written.areRegular rfl) rfl) rfl
  | .assign is_name assigns _ written =>
      .plain is_name (.plain rfl written.areRegular (isPlain_of_assignmentOperator assigns)) rfl
  | .stepAfter is_name assigns _ =>
      .plain is_name (.plain rfl .nil (isPlain_of_assignmentOperator assigns)) rfl
  | .stepBefore is_name assigns _ =>
      .plain rfl (.plain is_name .nil rfl) (isPlain_of_assignmentOperator assigns)
  | .choose is_word written is_colon inside others closes =>
      .plain is_word (written.areRegular.append (.plain is_colon (inside.areRegular.append
        (others.areRegular.append (.plain closes .nil rfl))) rfl)) rfl
  | .whileLoop is_word written is_colon inside closes =>
      .plain is_word (written.areRegular.append (.plain is_colon (inside.areRegular.append
        (.plain closes .nil rfl)) rfl)) rfl
  | .forRange is_word is_name is_in is_range opens bounds stops is_colon inside closes =>
      .plain is_word (.plain is_name (.plain is_in (.plain is_range
        (.pair opens bounds.areRegular stops (.plain is_colon (inside.areRegular.append
          (.plain closes .nil rfl)) rfl) rfl) rfl) rfl) rfl) rfl
  | .forIn is_word is_name is_in written is_colon inside closes =>
      .plain is_word (.plain is_name (.plain is_in (written.areRegular.append
        (.plain is_colon (inside.areRegular.append (.plain closes .nil rfl)) rfl)) rfl) rfl) rfl
  | .declare is_word is_name is_sign opens listed closes =>
      .plain is_word (.plain is_name ((is_sign.areRegular rfl).append
        (.pair opens (listed.areRegular fun _ _ => ParamWrittenAs.areRegular) closes .nil rfl))
          rfl) rfl
  | .define is_word is_name is_sign opens listed stops is_colon inside closes =>
      .plain is_word (.plain is_name ((is_sign.areRegular rfl).append
        (.pair opens (listed.areRegular fun _ _ => ParamWrittenAs.areRegular) stops
          (.plain is_colon (inside.areRegular.append (.plain closes .nil rfl)) rfl) rfl)) rfl) rfl
  | .expression written => written.areRegular
  | .give is_word given _ => .plain is_word given.areRegular rfl
  | .pass is_word => .plain is_word .nil rfl

theorem BlockWrittenAs.areRegular {block : List Stmt} {tokens : List Token} :
    BlockWrittenAs block tokens → AreRegular tokens
  | .nil => .nil
  | .cons written ends rest => written.areRegular.append ((ends.areRegular rfl).append rest.areRegular)

theorem Arms.WrittenAs.areRegular {arms : Arms} {tokens : List Token} :
    arms.WrittenAs tokens → AreRegular tokens
  | .arm is_word written is_colon inside others =>
      .plain is_word (written.areRegular.append (.plain is_colon
        (inside.areRegular.append others.areRegular) rfl)) rfl
  | .otherwise is_word is_colon inside => .plain is_word (.plain is_colon inside.areRegular rfl) rfl
  | .nothing => .nil

end

namespace Program

/-- The tokens of a source that parses are regular. -/
theorem areRegular_of_parse {source : String} {program : Program}
    (parses : parse source = .ok program) : AreRegular (Token.scan source) := by
  rw [Token.scan_eq_append]
  exact (blockWrittenAs_of_parse parses).areRegular.append (.plain rfl .nil rfl)

/-- The parser swallows no error.  A source that it accepts has no character without a use and no
string without an end, its brackets are in pairs, and every function and every assignment in its
tree is in order; so a source in which a character, a string or a bracket is out of order is
rejected for its syntax. -/
theorem parse_swallows_no_error (source : String) :
    (∀ program, parse source = .ok program →
      (∀ token ∈ Token.scan source,
        token.kind ≠ .unknown ∧ token.kind ≠ .unterminatedString) ∧
      Matched (Token.scan source) ∧ EveryStmt Stmt.IsAccepted program) ∧
    ((∃ token ∈ Token.scan source, token.kind = .unknown ∨ token.kind = .unterminatedString) ∨
        ¬ Matched (Token.scan source) →
      ∃ diagnostic, parse source = .error diagnostic ∧ diagnostic.fault.kind = "SyntaxError") := by
  constructor
  · intro program parses
    have regular := areRegular_of_parse parses
    exact ⟨regular.known, regular.matched, everyStmt_of_parse parses⟩
  · intro disorder
    cases parses : parse source with
    | error diagnostic =>
        obtain ⟨fault, malformed⟩ := malformed_of_parse parses
        exact ⟨diagnostic, rfl, by rw [malformed]; rfl⟩
    | ok program =>
        have regular := areRegular_of_parse parses
        rcases disorder with ⟨token, inside, unknown | unterminated⟩ | unmatched
        · exact absurd unknown (regular.known token inside).1
        · exact absurd unterminated (regular.known token inside).2
        · exact absurd regular.matched unmatched

/-- A function whose body has brackets in brackets is accepted, and a parenthesis that a bracket
closes is rejected. -/
theorem crossed_brackets_are_rejected :
    (∃ program, parse "fn f(a, b): a += [(b)]. ;" = .ok program ∧
      Matched (Token.scan "fn f(a, b): a += [(b)]. ;") ∧ EveryStmt Stmt.IsAccepted program) ∧
    ∃ diagnostic, parse "([)]." = .error diagnostic ∧ diagnostic.fault.kind = "SyntaxError" := by
  have accepted : (parse "fn f(a, b): a += [(b)]. ;").isOk = true := by decide +kernel
  refine ⟨?_, (parse_swallows_no_error "([)].").2 (.inr (by decide +kernel))⟩
  cases parses : parse "fn f(a, b): a += [(b)]. ;" with
  | error diagnostic =>
      rw [parses] at accepted
      cases accepted
  | ok program => exact ⟨program, rfl, ((parse_swallows_no_error _).1 program parses).2⟩

end Program
end DotScript
