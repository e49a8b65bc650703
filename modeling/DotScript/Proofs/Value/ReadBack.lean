import DotScript.Proofs.Parser.Statements
import DotScript.Proofs.Run.Moments
import DotScript.Proofs.Source.Numerals
import DotScript.Proofs.Value.Hereditary

/-!
# Written values are read back

A value is written as the canonical text of an expression: scanning the text gives tokens for the
marks of the expression, the parser finds the expression, and evaluating it gives the value.
-/

namespace DotScript

namespace Value

/-- The expression that a number is written as. -/
def ofNumber : Int → Expr
  | .ofNat value => .literal (.int value.repr) default
  | .negSucc value => .unary .negate (.literal (.int (value + 1).repr) default) default

mutual

/-- The expression that a value is written as.  Functions are not written as expressions. -/
def toExpr : Value → Expr
  | .none | .function _ => .literal .none default
  | .bool value => .literal (.bool value) default
  | .int value => ofNumber value.toInt
  | .float value => .literal (.float value) default
  | .string value => .literal (.string value) default
  | .list items => .list (toExprs items) default
  | .set items => .set (toExprs items) default

/-- The expressions that values are written as. -/
def toExprs : List Value → List Expr
  | [] => []
  | item :: rest => item.toExpr :: toExprs rest

end

theorem toExprs_eq_map (items : List Value) : toExprs items = items.map toExpr := by
  induction items with
  | nil => rfl
  | cons item rest ih => simp [toExprs, ih]

theorem toExprs_allExact {items : List Value}
    (is_exact : ∀ item ∈ items, item.toExpr.IsExact) : AllExact (toExprs items) := by
  rw [toExprs_eq_map, Parser.allExact_iff, List.forall_mem_map]
  exact is_exact

theorem toExpr_isExact {value : Value} (plain : value.Every IsPlain) : value.toExpr.IsExact := by
  induction value using Value.induction with
  | float value => exact (plain.1 rfl).elim
  | int value =>
      rw [toExpr]
      cases value.toInt <;> exact trivial
  | list items ih =>
      rw [every_list] at plain
      exact toExprs_allExact fun item member => ih item member (plain.2 item member)
  | set items ih =>
      rw [every_set] at plain
      exact toExprs_allExact fun item member => ih item member (plain.2 item member)
  | none | bool _ | string _ | function _ => exact trivial

theorem itemNesting_toExprs {items : List Value}
    (bound : ∀ item ∈ items, item.toExpr.nesting ≤ item.depth + 1) :
    itemNesting (toExprs items) ≤ itemDepth items + 2 := by
  induction items with
  | nil => exact Nat.zero_le _
  | cons item rest ih =>
      obtain ⟨first, later⟩ := List.forall_mem_cons.1 bound
      have rest := ih later
      simp only [toExprs, itemNesting, itemDepth]
      omega

/-- The sign of a number takes one level more than the lists and sets around it. -/
theorem toExpr_nesting_le (value : Value) : value.toExpr.nesting ≤ value.depth + 1 := by
  induction value using Value.induction with
  | int value =>
      rw [toExpr]
      cases value.toInt <;> simp [ofNumber, Expr.nesting, Expr.level, enclosedNesting, depth]
  | list items ih => exact itemNesting_toExprs ih
  | set items ih => exact itemNesting_toExprs ih
  | none | bool _ | float _ | string _ | function _ => exact Nat.zero_le _

/-! ## Texts of values -/

open Token

theorem renderItems_eq_map (items : List Value) : renderItems items = items.map repr := by
  induction items with
  | nil => rfl
  | cons item rest ih => simp [renderItems, ih, repr]

theorem toList_commaSeparated (first : String) (rest : List String) :
    (commaSeparated (first :: rest)).toList =
      first.toList ++ rest.flatMap (',' :: ' ' :: ·.toList) := by
  rw [commaSeparated]
  induction rest generalizing first with
  | nil => simp
  | cons next rest ih =>
      rw [List.foldl_cons, ih]
      simp

theorem exists_digits (value : Nat) :
    ∃ first rest, value.repr = String.ofList (first :: rest) ∧
      ∀ d ∈ first :: rest, d.isDigit = true := by
  have digits : ∀ d ∈ Nat.toDigits 10 value, d.isDigit = true := fun _ member =>
    Nat.isDigit_of_mem_toDigits (by decide) (by decide) member
  rw [Nat.repr_eq_ofList_toDigits]
  cases written : Nat.toDigits 10 value with
  | nil => exact absurd written Nat.toDigits_ne_nil
  | cons first rest => exact ⟨first, rest, rfl, written ▸ digits⟩

theorem scans_number {more : List Char} (value : Int) (delimits : Delimits more) :
    Scans ((IntegerText.write value).toList ++ more) more (ofNumber value).marks := by
  cases value with
  | ofNat value =>
      obtain ⟨first, rest, written, digits⟩ := exists_digits value
      have number := scans_digits digits delimits
      simpa [IntegerText.write, ofNumber, Expr.marks, Literal.mark, written] using number
  | negSucc value =>
      obtain ⟨first, rest, written, digits⟩ := exists_digits (value + 1)
      have number := scans_digits digits delimits
      have signed := (scans_minus (digits first List.mem_cons_self)).trans number
      simpa [IntegerText.write, ofNumber, Expr.marks, Literal.mark, UnaryOp.mark, enclose,
        Expr.level, written] using signed

/-- An item is followed by a comma or by what comes after all items. -/
theorem delimits_later (items : List Value) {more : List Char} (delimits : Delimits more) :
    Delimits ((items.map repr).flatMap (',' :: ' ' :: ·.toList) ++ more) := by
  cases items with
  | nil => exact delimits
  | cons next rest => exact .inl rfl

theorem scans_later {items : List Value} {more : List Char}
    (scans : ∀ item ∈ items, ∀ {more}, Delimits more →
      Scans (item.repr.toList ++ more) more item.toExpr.marks) (delimits : Delimits more) :
    Scans ((items.map repr).flatMap (',' :: ' ' :: ·.toList) ++ more) more
      ((items.map fun item => item.toExpr.marks).flatMap (.fixed .comma :: ·)) := by
  induction items with
  | nil => exact .refl
  | cons item rest ih =>
      obtain ⟨first, later⟩ := List.forall_mem_cons.1 scans
      have following := delimits_later rest delimits
      simp only [List.map_cons, List.flatMap_cons, List.cons_append, List.append_assoc]
      have written := scans_blank.trans ((first following).trans (ih later))
      exact (scans_mark ',' .comma (fun _ => rfl) nofun nofun).trans written

theorem scans_items {items : List Value} {more : List Char}
    (scans : ∀ item ∈ items, ∀ {more}, Delimits more →
      Scans (item.repr.toList ++ more) more item.toExpr.marks) (delimits : Delimits more) :
    Scans ((commaSeparated (renderItems items)).toList ++ more) more
      (joined (itemPieces (toExprs items))) := by
  rw [renderItems_eq_map, Parser.itemPieces_eq_map, toExprs_eq_map, List.map_map]
  cases items with
  | nil => exact .refl
  | cons item rest =>
      obtain ⟨first, later⟩ := List.forall_mem_cons.1 scans
      have following := delimits_later rest delimits
      rw [List.map_cons, toList_commaSeparated, List.append_assoc]
      exact .trans (first following) (scans_later later delimits)

/-- Items between the marks that open and close a list or a set. -/
theorem scans_enclosed {items : List Value} {more : List Char} {opening closing : Char}
    {start stop : Token.Kind}
    (opens : ∀ rest, Scans (opening :: rest) rest [.fixed start])
    (closes : Scans (closing :: more) more [.fixed stop]) (delimits : Delimits (closing :: more))
    (scans : ∀ item ∈ items, ∀ {more}, Delimits more →
      Scans (item.repr.toList ++ more) more item.toExpr.marks) :
    Scans (opening :: ((commaSeparated (renderItems items)).toList ++ closing :: more)) more
      (.fixed start :: (joined (itemPieces (toExprs items)) ++ [.fixed stop])) := by
  have contents := scans_items scans delimits
  exact (opens _).trans (contents.trans closes)

/-- The text of a value is scanned to the marks of its expression. -/
theorem scans_repr {value : Value} (plain : value.Every IsPlain) {more : List Char}
    (delimits : Delimits more) : Scans (value.repr.toList ++ more) more value.toExpr.marks := by
  induction value using Value.induction generalizing more with
  | none => exact scans_word "None" rfl (fun _ _ => rfl) (by decide) (by decide) delimits
  | bool value =>
      cases value with
      | true => exact scans_word "True" rfl (fun _ _ => rfl) (by decide) (by decide) delimits
      | false => exact scans_word "False" rfl (fun _ _ => rfl) (by decide) (by decide) delimits
  | int value => exact scans_number value.toInt delimits
  | float value => exact (plain.1 rfl).elim
  | string value => exact scans_quote value
  | list items ih =>
      rw [every_list] at plain
      have source : (Value.list items).repr.toList ++ more =
          '[' :: ((commaSeparated (renderItems items)).toList ++ ']' :: more) := by
        simp [repr, render]
      have opens (rest : List Char) : Scans ('[' :: rest) rest [.fixed .bracketOpen] :=
        scans_mark '[' .bracketOpen (fun _ => rfl) (by decide) (by decide)
      have closes : Scans (']' :: more) more [.fixed .bracketClose] :=
        scans_mark ']' .bracketClose (fun _ => rfl) (by decide) (by decide)
      rw [source]
      exact scans_enclosed opens closes (.inr (.inl rfl)) fun item member {_} =>
        ih item member (plain.2 item member)
  | set items ih =>
      rw [every_set] at plain
      have source : (Value.set items).repr.toList ++ more =
          '\x7b' :: ((commaSeparated (renderItems items)).toList ++ '\x7d' :: more) := by
        simp [repr, render]
      have opens (rest : List Char) : Scans ('\x7b' :: rest) rest [.fixed .braceOpen] :=
        scans_mark '\x7b' .braceOpen (fun _ => rfl) (by decide) (by decide)
      have closes : Scans ('\x7d' :: more) more [.fixed .braceClose] :=
        scans_mark '\x7d' .braceClose (fun _ => rfl) (by decide) (by decide)
      rw [source]
      exact scans_enclosed opens closes (.inr (.inr rfl)) fun item member {_} =>
        ih item member (plain.2 item member)
  | function functions => exact (plain.2.1 rfl).elim

/-! ## Values of expressions -/

theorem read_repr (value : Nat) : Integer.read value.repr = .ok (.ofInt value) := by
  have back := Integer.read_write (.ofInt value)
  rwa [Integer.write, Integer.toInt_ofInt] at back

section Evaluate

open Run

variable {run : BodyRunner} {expr : Expr} {machine : Machine}

theorem exists_literal {value : Literal} (same : expr.erase = .literal value default) :
    ∃ span, expr = .literal value span := by
  cases expr with
  | literal found span =>
      simp only [Expr.erase, Expr.literal.injEq] at same
      exact ⟨span, by rw [same.1]⟩
  | _ => simp [Expr.erase] at same

theorem evaluate_literal {literal : Literal} {value : Value}
    (same : expr.erase = .literal literal default) (denotes : literal.value = .ok value) :
    (evaluate run expr).on machine = (.ok value, machine) := by
  obtain ⟨span, rfl⟩ := exists_literal same
  rw [evaluate, denotes]
  rfl

theorem evaluateAll_eq {items : List Value} {exprs : List Expr}
    (evaluates : ∀ item ∈ items, ∀ {expr : Expr}, expr.erase = item.toExpr.erase →
      (evaluate run expr).on machine = (.ok item, machine))
    (same : eraseItems exprs = eraseItems (toExprs items)) :
    (evaluateAll run exprs).on machine = (.ok items, machine) := by
  induction items generalizing exprs with
  | nil =>
      cases exprs with
      | nil => rfl
      | cons expr rest => simp [eraseItems, toExprs] at same
  | cons item rest ih =>
      cases exprs with
      | nil => simp [eraseItems, toExprs] at same
      | cons expr exprs =>
          obtain ⟨first, later⟩ := List.forall_mem_cons.1 evaluates
          simp only [eraseItems, toExprs, List.cons.injEq] at same
          rw [evaluateAll, on_bind_of_ok (first same.1), on_bind_of_ok (ih later same.2)]
          rfl

theorem evaluate_number {value : Int} (same : expr.erase = (ofNumber value).erase) :
    (evaluate run expr).on machine = (.ok (.int (.ofInt value)), machine) := by
  cases value with
  | ofNat value => exact evaluate_literal same (by rw [Literal.value, read_repr]; rfl)
  | negSucc value =>
      cases expr with
      | unary op operand span =>
          simp only [ofNumber, Expr.erase, Expr.unary.injEq] at same
          obtain ⟨rfl, same_operand, -⟩ := same
          have magnitude : (evaluate run operand).on machine =
              (.ok (.int (.ofInt (value + 1 : Nat))), machine) :=
            evaluate_literal same_operand (by rw [Literal.value, read_repr])
          have negated : Integer.neg (.ofInt (value + 1 : Nat)) = .ofInt (.negSucc value) := by
            rw [← Integer.ofInt_toInt (Integer.neg _), Integer.toInt_neg, Integer.toInt_ofInt]
            rfl
          rw [evaluate, on_bind_of_ok magnitude]
          simp only [unary, number?, negated]
          rfl
      | _ => simp [ofNumber, Expr.erase] at same

/-- Every expression that differs from that of a value only by spans has the value. -/
theorem evaluate_eq {value : Value} (plain : value.Every IsPlain)
    (same : expr.erase = value.toExpr.erase) :
    (evaluate run expr).on machine = (.ok value, machine) := by
  induction value using Value.induction generalizing expr with
  | none => exact evaluate_literal same rfl
  | bool value => exact evaluate_literal same rfl
  | int value =>
      rw [toExpr] at same
      rw [← value.ofInt_toInt]
      exact evaluate_number same
  | float value => exact (plain.1 rfl).elim
  | string value => exact evaluate_literal same rfl
  | list items ih =>
      rw [every_list] at plain
      cases expr with
      | list exprs span =>
          simp only [toExpr, Expr.erase, Expr.list.injEq] at same
          have evaluated : (evaluateAll run exprs).on machine = (.ok items, machine) :=
            evaluateAll_eq (fun item member {_} => ih item member (plain.2 item member)) same.1
          rw [evaluate, on_bind_of_ok evaluated]
          rfl
      | _ => simp [toExpr, Expr.erase] at same
  | set items ih =>
      rw [every_set] at plain
      cases expr with
      | set exprs span =>
          simp only [toExpr, Expr.erase, Expr.set.injEq] at same
          have evaluated : (evaluateAll run exprs).on machine = (.ok items, machine) :=
            evaluateAll_eq (fun item member {_} => ih item member (plain.2 item member)) same.1
          rw [evaluate, on_bind_of_ok evaluated]
          simp [ofSet, distinct_eq_self plain.1.2.2]
      | _ => simp [toExpr, Expr.erase] at same
  | function functions => exact (plain.2.1 rfl).elim

end Evaluate

end Value

/-! ## Sources that are one expression -/

namespace Parser

/-- An expression without a point after it is a whole program. -/
theorem statements_reads_expression {value : Expr} {levels : Nat} (is_exact : value.IsExact)
    (fits : value.nesting + 2 ≤ levels) :
    (statements (grammar levels)).Reads value.marks []
      fun parsed => ∃ expr span, parsed = [.expression expr span] ∧ expr.erase = value.erase := by
  obtain ⟨deeper, rfl⟩ : ∃ deeper, levels = deeper + 1 := ⟨levels - 1, by omega⟩
  have whole : [Stmt.expression value default].flatMap (fun _ => value.marks) = value.marks := by
    simp
  rw [← whole]
  refine (statements_reads_flatMap (fun done next rest split => ?_) fun _ _ => ?_).mono ?_
  · obtain ⟨rfl, rfl, rfl⟩ : done = [] ∧ next = .expression value default ∧ rest = [] := by
      cases done <;> simp_all
    exact statement_reads_expression default is_exact (Nat.le_of_succ_le_succ fits) rfl rfl
      terminator_reads_nil
  · intro empty
    have starts := value.marks_opens.first
    rw [empty] at starts
    cases starts
  · intro parsed same
    obtain ⟨stmt, rfl, erased⟩ := List.map_eq_singleton_iff.1 same
    cases stmt with
    | expression expr span =>
        simp only [Stmt.erase, Stmt.expression.injEq] at erased
        exact ⟨expr, span, rfl, erased.1⟩
    | _ => simp [Stmt.erase] at erased

end Parser

/-- A text that is scanned to the marks of an expression is parsed as this expression. -/
theorem Program.exists_parse_eq {value : Expr} {text : String} (is_exact : value.IsExact)
    (fits : value.nesting + 2 ≤ maxNesting) (scans : Token.Scans text.toList [] value.marks) :
    ∃ expr span, Program.parse text = .ok [.expression expr span] ∧ expr.erase = value.erase := by
  obtain ⟨tokens, place, scanned, inner⟩ := Token.exists_scan_eq scans
  have written : (Cursor.ofTokens (Token.scan text)).rest = tokens := by
    rw [scanned, Cursor.ofTokens, Token.takeWhile_of_inner place inner]
  have at_marks : (Cursor.ofTokens (Token.scan text)).At value.marks :=
    ⟨written ▸ Token.spells_of_inner inner, Cursor.finishOf_kind _⟩
  obtain ⟨_, rest, run, ⟨expr, span, rfl, same⟩, _⟩ :=
    Parser.statements_reads_expression is_exact fits _ at_marks
  refine ⟨expr, span, ?_, same⟩
  rw [Program.parse, Program.ofTokens, run]
  rfl

namespace Run

/-- A source that is one expression has the value of the expression. -/
theorem evalSource_expression {source : String} {expr : Expr} {span : Span} {value : Value}
    (parsed : Program.parse source = .ok [.expression expr span])
    (evaluated : ∀ (run : BodyRunner) (machine : Machine),
      (evaluate run expr).on machine = (.ok value, machine)) (turns : Nat) (machine : Machine) :
    ((evalSource turns source).on machine).1 = .ok value := by
  have loaded : (load source).on machine = (.ok [.expression expr span], machine) := by
    rcases load_on source machine with ⟨program, found, result⟩ | ⟨_, failed, _⟩
    · rw [parsed] at found
      cases found
      exact result
    · rw [parsed] at failed
      cases failed
  obtain ⟨printed, echoed⟩ := exists_echo_on value machine
  have executed :
      (executeTop turns (.expression expr span)).on machine = (.ok (.value value), printed) := by
    rw [executeTop, execute, on_bind_of_ok (evaluated _ machine), on_bind_of_ok echoed]
    rfl
  rw [evalSource, on_bind_of_ok loaded, runProgram, on_bind_of_ok executed]
  rfl

/-- Printed values read back: for every value without doubles, functions and sets with an item
twice, whose lists and sets are nested no deeper than 250 levels, the text that shows it is a source
with this value, on every machine.  The text of a string is scanned to one token. -/
theorem written_values_are_read_back :
    (∀ value : Value, value.Every Value.IsPlain → value.depth ≤ 250 →
      ∀ (turns : Nat) (machine : Machine),
        ((evalSource turns value.repr).on machine).1 = .ok value ∧
          value.identical value = true) ∧
    (∀ text : String, ∃ span place, Token.scan (Value.string text).repr =
      [{ kind := .string, text, span }, Token.finishAt place]) := by
  refine ⟨fun value plain shallow turns machine => ⟨?_, Value.identical_self plain⟩,
    fun text => Token.scan_quote text⟩
  have scans : Token.Scans value.repr.toList [] value.toExpr.marks := by
    have delimited := Value.scans_repr plain (show Token.Delimits [] from trivial)
    rwa [List.append_nil] at delimited
  have nesting := value.toExpr_nesting_le
  have fits : value.toExpr.nesting + 2 ≤ maxNesting := by
    rw [maxNesting]
    omega
  obtain ⟨expr, span, parsed, same⟩ :=
    Program.exists_parse_eq (Value.toExpr_isExact plain) fits scans
  exact evalSource_expression parsed (fun run machine => Value.evaluate_eq plain same) turns machine

/-- The least integer of a machine word, quotes, a backslash and an empty set. -/
theorem written_list_is_read_back :
    let value : Value := .list [.int (-9223372036854775808), .string "\"\\#-->", .set [],
      .set [.bool true, .int 0]]
    let machine := Machine.start (.start .closed .empty true .strict)
    value.Every Value.IsPlain ∧ value.depth ≤ 250 ∧
      ((evalSource 1 value.repr).on machine).1 = .ok value := by
  intro value machine
  have plain : value.Every Value.IsPlain := by
    simp [value, Value.Every, Value.EveryItem, Value.IsPlain, Value.kind, Value.HasDistinctItems,
      Value.looseEq, Value.numericEq, Value.number?, Number.compare?]
    decide
  have shallow : value.depth ≤ 250 := by decide
  exact ⟨plain, shallow, (written_values_are_read_back.1 value plain shallow 1 machine).1⟩

end Run
end DotScript
