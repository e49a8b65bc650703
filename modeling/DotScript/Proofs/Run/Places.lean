import DotScript.Proofs.Run.Keeping
import DotScript.Proofs.Run.SyntaxFaults
import DotScript.Proofs.Run.Termination
import DotScript.Proofs.Source.Places

/-!
# Faults are reported in the source

The places in the tree of a source lie in the source, and the functions that a fresh machine calls
come from the tree.  So a fault is reported at a place in the source, whether the parser finds it or
it comes up at any depth of calls: `faults_lie_in_the_source`.
-/

namespace DotScript

open Run

/-- The places in a tree and those of complaints lie in the source, and integers can be read. -/
theorem Program.parse_liesIn (source : String) :
    (∀ program, Program.parse source = .ok program →
      EveryStmt (Stmt.Fits (Span.LiesIn source) Denoted) program) ∧
    (∀ diagnostic, Program.parse source = .error diagnostic →
      diagnostic.Fits (Span.LiesIn source)) :=
  Program.parse_numerals (fun _ _ first last => first.to last)
    (fun _ member => Token.liesIn_of_mem_scan member)
    fun written numeral _ => ⟨written, numeral.denotes⟩

/-- The parser accepts the statement, its own places lie in the source, and its integers can be
read. -/
def Stmt.IsPlacedIn (source : String) (stmt : Stmt) : Prop :=
  stmt.IsAccepted ∧ stmt.Fits (Span.LiesIn source) Denoted

theorem requiresDistinctParams_isPlacedIn (source : String) :
    RequiresDistinctParams (Stmt.IsPlacedIn source) :=
  fun _ _ _ _ _ placed => placed.1.1

/-- Labels do not move the statements of a program out of its source. -/
theorem Program.everyPlacedIn_of_parse {source : String} {program : Program}
    (parsed : Program.parse source = .ok program) (label : Nat) :
    EveryStmt (Stmt.IsPlacedIn source) (program.number label).1 := by
  have placed : EveryStmt (Stmt.IsPlacedIn source) program :=
    everyStmt_and program (Program.everyStmt_of_parse parsed)
      ((Program.parse_liesIn source).1 program parsed)
  refine everyStmt_number (fun stmt next holds => ?_) program label placed
  exact ⟨stmt.isAccepted_number next holds.1, stmt.fits_number next holds.2⟩

namespace Run

/-- A machine whose functions come from a source halts in the source. -/
theorem evalSource_halts_in_source (turns : Nat) (source : String) {machine after : Machine}
    {halt : Halt} (sound : machine.Sound (Stmt.IsPlacedIn source))
    (halted : (evalSource turns source).on machine = (.error halt, after)) :
    (∃ diagnostic, halt = .failed diagnostic ∧ diagnostic.span.LiesIn source) ∨
      (∃ error, halt = .system error ∧ after.host.input.isStream = true) ∨
      ∃ cause, halt = .unfinished cause := by
  rcases load_on source machine with ⟨program, parsed, loaded⟩ | ⟨diagnostic, failed, refused⟩
  · rw [evalSource, on_bind_of_ok loaded] at halted
    have loaded_sound : Machine.Sound (Stmt.IsPlacedIn source)
        { machine with nextLabel := (program.number machine.nextLabel).2 } := sound
    have arises := runProgram_halts (requiresDistinctParams_isPlacedIn source)
      (fun _ placed => placed.2) readable_denoted turns
      (Program.everyPlacedIn_of_parse parsed machine.nextLabel) _ loaded_sound halt after halted
    cases halt with
    | failed diagnostic => exact .inl ⟨diagnostic, rfl, arises.2⟩
    | system error => exact .inr (.inl ⟨error, rfl, arises⟩)
    | unfinished cause => exact .inr (.inr ⟨cause, rfl⟩)
  · rw [evalSource, on_bind_of_error refused] at halted
    cases halted
    exact .inl ⟨diagnostic, rfl, ((Program.parse_liesIn source).2 diagnostic failed).span⟩

/-- A source that fails on a fresh machine without a stream to read from fails with a diagnostic
that lies in the source, found by the parser or at any depth of calls.  The only other ways to halt
are to use up the turns of a loop under a condition or of a loop that counts in doubles, and to break
off in a sort. -/
theorem faults_lie_in_the_source (turns : Nat) (source : String) {host : Host}
    (captured : host.input.isStream = false) {halt : Halt} {after : Machine}
    (halted : (evalSource turns source).on (.start host) = (.error halt, after)) :
    (∃ diagnostic, halt = .failed diagnostic ∧ diagnostic.span.LiesIn source) ∨
      halt = .unfinished .condition ∨ halt = .unfinished .floatRange ∨ halt = .unfinished .sort := by
  have sound : (Machine.start host).Sound (Stmt.IsPlacedIn source) := Machine.sound_start host
  rcases evalSource_halts_in_source turns source sound halted with failed | ⟨_, _, stream⟩ | turned
  · exact .inl failed
  · have leads := (evalSource_leadsTo turns source).of_on_eq halted
    rw [leads.input.isStream_eq] at stream
    exact absurd (stream.symm.trans captured) nofun
  · obtain ⟨cause, rfl⟩ := turned
    match cause with
    | .condition => exact .inr (.inl rfl)
    | .floatRange => exact .inr (.inr (.inl rfl))
    | .sort => exact .inr (.inr (.inr rfl))
    | .calls =>
        have outside : (Machine.start host).depth = 0 := rfl
        have never := evalSource_never_exhausts_calls turns source outside
        exact absurd (congrArg Prod.fst halted) never

/-- A fault in the body of a function, on the second line and behind a character of two bytes. -/
theorem fault_of_called_body_lies_in_source :
    let source := "fn half(n):\n  give \"é\" / n. ;\nhalf(2)."
    let machine := Machine.start (.start .closed .empty false .strict)
    machine.host.input.isStream = false ∧
      ∃ after, (evalSource 1 source).on machine =
          (.error (.failed ⟨.mistyped (.operands .div .string .int), ⟨19, 27, 2⟩⟩), after) ∧
        Span.LiesIn source ⟨19, 27, 2⟩ := by
  intro source machine
  have captured : machine.host.input.isStream = false := rfl
  have halted : ((evalSource 1 source).on machine).1 =
      .error (.failed ⟨.mistyped (.operands .div .string .int), ⟨19, 27, 2⟩⟩) :=
    on_eq_error_of_map (by decide +kernel)
  cases result : (evalSource 1 source).on machine with
  | mk outcome after =>
      rw [result] at halted
      obtain rfl : outcome = .error _ := halted
      obtain ⟨_, ⟨⟩, lies⟩ | ⟨⟨⟩⟩ | ⟨⟨⟩⟩ | ⟨⟨⟩⟩ := faults_lie_in_the_source 1 source captured result
      exact ⟨captured, after, rfl, lies⟩

end Run
end DotScript
