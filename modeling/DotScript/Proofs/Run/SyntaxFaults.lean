import DotScript.Proofs.Parser.Fitting
import DotScript.Proofs.Run.Faults
import DotScript.Proofs.Run.WellFormed
import DotScript.Proofs.Value.ReadBack

/-!
# Syntax faults come from the parser

An integer in a tree has the digits of a numeral in the source, and so it can be read.  This holds
for every statement the parser lets through, and it stays true of the bodies of functions in the
frames of a machine, which come from sources that were run before.  So nothing that runs is
malformed: `syntax_errors_come_from_parsing`.
-/

namespace DotScript

open Run

/-! ## Integers in trees -/

/-- The digits are those of a numeral, and where they stand in a tree their value is the number they
denote. -/
structure Denotes (written : List Char) (digits : String) : Prop where
  numeral : IsNumeral written
  same : digits = String.ofList (digitsOf written)
  value : ∀ (run : BodyRunner) (span : Span) (machine : Machine),
    (evaluate run (.literal (.int digits) span)).on machine =
      (.ok (.int (.ofInt (Nat.ofDigitChars 10 (digitsOf written) 0 : Int))), machine)

theorem IsNumeral.denotes {written : List Char} (numeral : IsNumeral written) :
    Denotes written (String.ofList (digitsOf written)) where
  numeral := numeral
  same := rfl
  value run span machine := by
    rw [evaluate, Literal.value, numeral.read]
    rfl

/-- Some numeral is written with these digits. -/
def Denoted (digits : String) : Prop :=
  ∃ written, Denotes written digits

/-- A numeral in the source is written with these digits, or it is one that the source leaves out:
the zero that a range starts at, or the one of a step. -/
def DenotedIn (source digits : String) : Prop :=
  ∃ written, Denotes written digits ∧
    (written <:+: source.toList ∨ written = ['0'] ∨ written = ['1'])

theorem readable_denoted : Readable Denoted := by
  rintro digits ⟨written, denotes⟩
  rw [denotes.same, denotes.numeral.read]
  rfl

/-- Every place. -/
def anywhere (_ : Span) : Prop :=
  True

/-- What holds for the places of all tokens of a source and for the digits of all its numerals holds
for the places and integers in its tree. -/
theorem Program.parse_numerals {source : String} {place : Span → Prop} {numeral : String → Prop}
    (reach : ∀ first last, place first → place last → place (first.to last))
    (places : ∀ token ∈ Token.scan source, place token.span)
    (holds : ∀ written, IsNumeral written →
      written <:+: source.toList ∨ written = ['0'] ∨ written = ['1'] →
      numeral (String.ofList (digitsOf written))) :
    (∀ program, Program.parse source = .ok program →
      EveryStmt (Stmt.Fits place numeral) program) ∧
    (∀ diagnostic, Program.parse source = .error diagnostic → diagnostic.Fits place) := by
  have suits : Suits place numeral :=
    { reach
      zero := holds ['0'] ⟨'0', [], rfl, rfl, nofun⟩ (.inr (.inl rfl))
      one := holds ['1'] ⟨'1', [], rfl, rfl, nofun⟩ (.inr (.inr rfl)) }
  refine Program.parse_fits suits fun token member => ?_
  have spelled := Token.spelledIn_of_mem_scan member
  refine ⟨places token member, fun int => ?_, spelled.float⟩
  obtain ⟨written, inside, is_numeral, text⟩ := spelled.int int
  rw [text]
  exact holds written is_numeral (.inl inside)

/-- The integers in a tree are those of its source. -/
theorem Program.parse_denotedIn (source : String) :
    (∀ program, Program.parse source = .ok program →
      EveryStmt (Stmt.Fits anywhere (DenotedIn source)) program) ∧
    (∀ diagnostic, Program.parse source = .error diagnostic → diagnostic.Fits anywhere) :=
  Program.parse_numerals (fun _ _ _ _ => trivial) (fun _ _ => trivial)
    fun written numeral found => ⟨written, numeral.denotes, found⟩

/-! ## Runs of parsed programs -/

/-- The parser accepts the statement, and its integers can be read. -/
def Stmt.IsReadable (stmt : Stmt) : Prop :=
  stmt.IsAccepted ∧ stmt.Fits anywhere Denoted

theorem Program.everyReadable_of_parse {source : String} {program : Program} {label : Nat}
    {stmt : Stmt} (parsed : Program.parse source = .ok program)
    (part : stmt ∈ (program.number label).1) : stmt.Every Stmt.IsReadable := by
  have fits : EveryStmt (Stmt.Fits anywhere Denoted) program :=
    (Program.parse_numerals (fun _ _ _ _ => trivial) (fun _ _ => trivial)
      fun written numeral _ => ⟨written, numeral.denotes⟩).1 program parsed
  have readable : EveryStmt Stmt.IsReadable program :=
    everyStmt_and program (Program.everyStmt_of_parse parsed) fits
  have numbered : EveryStmt Stmt.IsReadable (program.number label).1 := by
    refine everyStmt_number (fun stmt next holds => ?_) program label readable
    exact ⟨stmt.isAccepted_number next holds.1, stmt.fits_number next holds.2⟩
  exact (everyStmt_iff _).1 numbered stmt part

theorem requiresDistinctParams_isReadable : RequiresDistinctParams Stmt.IsReadable :=
  fun _ _ _ _ _ readable => readable.1.1

/-- The functions in the frames of a machine that has run any sources are readable. -/
theorem Machine.Reachable.soundReadable {machine : Machine} (reachable : machine.Reachable) :
    machine.Sound Stmt.IsReadable :=
  reachable.soundFor requiresDistinctParams_isReadable Program.everyReadable_of_parse

namespace Run

variable {source : String} {program : Program}

theorem executeTop_halts_of_parse (turns : Nat) {label : Nat} {stmt : Stmt}
    (parsed : Program.parse source = .ok program) (part : stmt ∈ (program.number label).1) :
    HaltsInRun Stmt.IsReadable anywhere (executeTop turns stmt) :=
  executeTop_halts requiresDistinctParams_isReadable (fun _ readable => readable.2)
    readable_denoted turns (Program.everyReadable_of_parse parsed part)

theorem evalSource_halts_of_parse (turns : Nat) (parsed : Program.parse source = .ok program) :
    HaltsInRun Stmt.IsReadable anywhere (evalSource turns source) := by
  intro machine sound halt after halted
  rcases load_on source machine with ⟨other, found, loaded⟩ | ⟨_, failed, _⟩
  · rw [evalSource, on_bind_of_ok loaded] at halted
    have every : EveryStmt Stmt.IsReadable (other.number machine.nextLabel).1 :=
      (everyStmt_iff _).2 fun stmt part => Program.everyReadable_of_parse found part
    have loaded_sound : Machine.Sound Stmt.IsReadable
        { machine with nextLabel := (other.number machine.nextLabel).2 } := sound
    exact runProgram_halts requiresDistinctParams_isReadable (fun _ readable => readable.2)
      readable_denoted turns every _ loaded_sound halt after halted
  · rw [parsed] at failed
    cases failed

end Run

theorem Fault.kind_ne_of_inRun {fault : Fault} (arises : fault.inRun = true) :
    fault.kind ≠ "SyntaxError" := by
  cases fault with
  | malformed cause => cases arises
  | _ => simp [Fault.kind]

/-- A source that is a numeral has the number of its digits as its value. -/
theorem Run.evalSource_numeral {written : List Char} (numeral : IsNumeral written) (turns : Nat)
    (machine : Machine) : ((evalSource turns (String.ofList written)).on machine).1 =
      .ok (.int (.ofInt (Nat.ofDigitChars 10 (digitsOf written) 0 : Int))) := by
  let literal : Expr := .literal (.int (String.ofList (digitsOf written))) default
  have scans : Token.Scans (String.ofList written).toList [] literal.marks := by
    obtain ⟨first, rest, rfl, digit, continues⟩ := numeral
    have delimited := Token.scans_numeral digit continues (show Token.Delimits [] from trivial)
    rw [List.append_nil] at delimited
    rw [String.toList_ofList]
    exact delimited
  have is_exact : literal.IsExact := trivial
  have fits : literal.nesting + 2 ≤ maxNesting := by simp [literal, Expr.nesting, maxNesting]
  obtain ⟨expr, span, parsed, same⟩ := Program.exists_parse_eq is_exact fits scans
  obtain ⟨place, rfl⟩ := Value.exists_literal same
  exact evalSource_expression parsed (fun run machine => numeral.denotes.value run place machine)
    turns machine

/-- Syntax errors come from the parser alone, whatever sources a machine has run before.  The parser
never complains about the spelling of a number.  A program that it lets through never halts with a
syntax error, neither as a whole nor statement by statement; its integers, and those in the
functions of the machine, are numerals of the source, of any length and with any underscores, and
evaluate to the numbers they denote. -/
theorem syntax_errors_come_from_parsing {machine : Machine} (reachable : machine.Reachable)
    (turns : Nat) (source : String) :
    (∀ diagnostic found, Program.parse source = .error diagnostic →
      diagnostic.fault ≠ .malformed (.expected .wellFormedNumber found)) ∧
    (∀ program, Program.parse source = .ok program →
      (∀ diagnostic after,
        (evalSource turns source).on machine = (.error (.failed diagnostic), after) →
        diagnostic.fault.kind ≠ "SyntaxError") ∧
      (∀ label, ∀ stmt ∈ (program.number label).1, ∀ diagnostic after,
        (executeTop turns stmt).on machine = (.error (.failed diagnostic), after) →
        diagnostic.fault.kind ≠ "SyntaxError") ∧
      EveryStmt (Stmt.Fits anywhere (DenotedIn source)) program) ∧
    machine.Sound Stmt.IsReadable ∧
    (∀ written, IsNumeral written →
      ((evalSource turns (String.ofList written)).on machine).1 =
        .ok (.int (.ofInt (Nat.ofDigitChars 10 (digitsOf written) 0 : Int)))) := by
  have sound := reachable.soundReadable
  refine ⟨?_, ?_, sound, fun written numeral => evalSource_numeral numeral turns machine⟩
  · intro diagnostic found failed
    exact ((Program.parse_denotedIn source).2 diagnostic failed).fault found
  · intro program parsed
    refine ⟨?_, ?_, (Program.parse_denotedIn source).1 program parsed⟩
    · intro diagnostic after halted
      have arises := evalSource_halts_of_parse turns parsed machine sound _ after halted
      exact Fault.kind_ne_of_inRun arises.1
    · intro label stmt part diagnostic after halted
      have arises := executeTop_halts_of_parse turns parsed part machine sound _ after halted
      exact Fault.kind_ne_of_inRun arises.1

/-- A function of an earlier source divides by an integer in its body, and a number that no word
holds is written with underscores. -/
theorem zeros_in_earlier_function_are_read :
    let fresh := Machine.start (.start .closed .empty false .strict)
    let machine := ((evalSource 1 "fn divide(n): give n / 0_0. ;").on fresh).2
    machine.Reachable ∧
      (∃ diagnostic after,
        (evalSource 1 "divide(1_000)").on machine = (.error (.failed diagnostic), after) ∧
        diagnostic.fault.kind ≠ "SyntaxError") ∧
      ((evalSource 1 "9_223_372_036_854_775_808").on machine).1 =
        .ok (.int (.ofInt 9223372036854775808)) := by
  intro fresh machine
  have reachable : machine.Reachable := (Machine.Reachable.start _).evalSource 1 _
  have outcome := syntax_errors_come_from_parsing reachable 1 "divide(1_000)"
  refine ⟨reachable, ?_, ?_⟩
  · have accepted : (Program.parse "divide(1_000)").isOk = true := by decide +kernel
    let diagnostic : Diagnostic := ⟨.zeroDivision .division, ⟨19, 26, 1⟩⟩
    have halted : ((evalSource 1 "divide(1_000)").on machine).1 = .error (.failed diagnostic) :=
      on_eq_error_of_map (by decide +kernel)
    cases parsed : Program.parse "divide(1_000)" with
    | error diagnostic =>
        rw [parsed] at accepted
        cases accepted
    | ok program =>
        cases result : (evalSource 1 "divide(1_000)").on machine with
        | mk answer after =>
            rw [result] at halted
            obtain rfl : answer = .error (.failed diagnostic) := halted
            exact ⟨diagnostic, after, rfl, (outcome.2.1 program parsed).1 diagnostic after result⟩
  · have numeral : IsNumeral "9_223_372_036_854_775_808".toList :=
      ⟨'9', "_223_372_036_854_775_808".toList, rfl, rfl, List.all_eq_true.1 rfl⟩
    have number := outcome.2.2.2 _ numeral
    rw [String.ofList_toList] at number
    exact number

end DotScript
