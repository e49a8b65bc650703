import DotScript.Proofs.Parser.Respelling.Statements
import DotScript.Proofs.Parser.Seam.Programs
import DotScript.Proofs.Parser.Statements

/-!
# Programs in two spellings

A program whose products all have a sign is the program without those signs
(`implicit_products_are_products`).  A point before the end of a block or of the list may be left
out (`points_before_ends_matter_to_declarations_only`), unless it is all that says that a function
is declared without a body.
-/

namespace DotScript
namespace Parser

variable {omits : Omissions}

/-! ## Whole lists -/

theorem Respelled.refl (previous : Option Token) (tokens : List Token) :
    Respelled omits previous tokens tokens := by
  induction tokens generalizing previous with
  | nil => exact .done previous
  | cons token rest ih => exact .token (ih (some token))

/-- What is the same in front of two spellings. -/
theorem Respelled.append_left {tokens tokens' : List Token} (front : List Token)
    {previous : Option Token}
    (respelled : Respelled omits (front.getLast?.or previous) tokens tokens') :
    Respelled omits previous (front ++ tokens) (front ++ tokens') := by
  induction front generalizing previous with
  | nil => exact respelled
  | cons token front ih =>
      refine .token (ih ?_)
      rw [List.getLast?_cons] at respelled
      cases last : front.getLast? <;> rwa [last] at respelled

theorem retells_addStatement (levels : Nat) (stmts : List Stmt) :
    Retells omits (Ready omits) (Answered (Ready omits) (Fresh omits))
      (addStatement (grammar levels) stmts) := by
  rintro cursor cursor' (fresh | at_point) value final run
  · have adds : Retells omits (Fresh omits) (Answered (Ready omits) (Fresh omits))
        (addStatement (grammar levels) stmts) := by
      refine .atEnd id (.pure id) (.bind ((retells_grammar omits levels).statement.mono .inl id) ?_)
      exact fun stmt => .pure id
    exact adds _ _ fresh _ _ run
  · have inside : cursor.rest ≠ [] := by
      cases at_point
      exact List.cons_ne_nil _ _
    rw [addStatement_run_cons inside] at run
    have no_point : RefusesPoint (grammar levels).statement := inferInstance
    obtain ⟨diagnostic, refused⟩ := (no_point.bind _).refuses at_point.peek_kind
    rw [refused] at run
    cases run

theorem retells_statements (levels : Nat) :
    Retells omits (Ready omits) (fun _ => Fresh omits) (statements (grammar levels)) := by
  rw [statements_eq]
  refine .bind (.whileSome ⟨retells_addStatement levels, Ready.finishes, ?_⟩ []) fun _ => .pure id
  exact fun run finish => addStatement_shorter run finish

/-- A program is the same in another spelling, unless a point is missed. -/
theorem ofTokens_of_respelled {tokens tokens' : List Token} {program : Program}
    (respelled : Respelled omits none (tokens.takeWhile (·.kind ≠ .finish))
      (tokens'.takeWhile (·.kind ≠ .finish)))
    (accepted : Program.ofTokens tokens = .ok program) :
    Program.ofTokens tokens' = .ok program ∨
      ∃ diagnostic, Excused omits diagnostic ∧ Program.ofTokens tokens' = .error diagnostic := by
  have level : Level omits (.ofTokens tokens) (.ofTokens tokens') :=
    ⟨respelled, rfl, Cursor.finishOf_kind tokens, Cursor.finishOf_kind tokens'⟩
  have ready : Ready omits (.ofTokens tokens) (.ofTokens tokens') :=
    level.cases.resolve_right (by rintro ⟨⟩)
  rw [Program.ofTokens] at accepted ⊢
  cases run : (statements (grammar maxNesting)).run (.ofTokens tokens) with
  | error diagnostic =>
      rw [run] at accepted
      cases accepted
  | ok result =>
      obtain ⟨stmts, final⟩ := result
      rw [run] at accepted
      cases accepted
      have told := retells_statements maxNesting _ _ ready _ _ run
      generalize (statements (grammar maxNesting)).run (.ofTokens tokens') = outcome at told
      cases told with
      | same => exact .inl rfl
      | refused excused => exact .inr ⟨_, excused, rfl⟩

/-! ## Products -/

/-- A token list with a sign in each product that has none.  It comes after a token, if there is
one, and the signs may depend on the tokens that follow them. -/
def spellProducts (sign : List Token → Token) : Option Token → List Token → List Token
  | _, [] => []
  | previous, token :: rest =>
    if previous.any (·.kind.endsFactor) && token.kind.startsFactor then
      sign (token :: rest) :: token :: spellProducts sign (some token) rest
    else token :: spellProducts sign (some token) rest

theorem takeWhile_cons_of_inner {token : Token} (inner : token.kind ≠ .finish) (rest : List Token) :
    (token :: rest).takeWhile (·.kind ≠ .finish) = token :: rest.takeWhile (·.kind ≠ .finish) :=
  List.takeWhile_cons_of_pos (by simpa using inner)

theorem takeWhile_cons_of_finish {token : Token} (ended : token.kind = .finish)
    (rest : List Token) : (token :: rest).takeWhile (·.kind ≠ .finish) = [] :=
  List.takeWhile_cons_of_neg (by simpa using ended)

theorem respelled_spellProducts {sign : List Token → Token}
    (signs : ∀ rest, (sign rest).kind = .star) (previous : Option Token) (tokens : List Token) :
    Respelled omits previous (tokens.takeWhile (·.kind ≠ .finish))
      ((spellProducts sign previous tokens).takeWhile (·.kind ≠ .finish)) := by
  induction tokens generalizing previous with
  | nil => exact .done previous
  | cons token rest ih =>
      rw [spellProducts]
      by_cases ended : token.kind = .finish
      · rw [if_neg (by simp [ended, Token.Kind.startsFactor]), takeWhile_cons_of_finish ended,
          takeWhile_cons_of_finish ended]
        exact .done previous
      · rw [takeWhile_cons_of_inner ended]
        split
        next multiplies =>
          rw [Bool.and_eq_true, Option.any_eq_true] at multiplies
          obtain ⟨⟨first, rfl, ends⟩, starts⟩ := multiplies
          rw [takeWhile_cons_of_inner (by rw [signs]; decide), takeWhile_cons_of_inner ended]
          exact .product ends starts (signs _) (ih (some token))
        next =>
          rw [takeWhile_cons_of_inner ended]
          exact .token (ih (some token))

/-- Implicit products are products: with a sign written in each of them, a program is the same. -/
theorem implicit_products_are_products {tokens : List Token} {program : Program}
    (sign : List Token → Token) (signs : ∀ rest, (sign rest).kind = .star)
    (accepted : Program.ofTokens tokens = .ok program) :
    Program.ofTokens (spellProducts sign none tokens) = .ok program := by
  have respelled : Respelled (fun _ _ => False) none _ _ :=
    respelled_spellProducts signs none tokens
  rcases ofTokens_of_respelled respelled accepted with same | ⟨_, ⟨_, _, _, _, _, missed, _⟩, _⟩
  · exact same
  · exact missed.elim

/-- Two times three in parentheses times `x`, with and without signs. -/
theorem two_times_three_times_x :
    let token (kind : Token.Kind) (text : String) (start : Nat) : Token :=
      ⟨kind, text, ⟨start, start + 1, 1⟩⟩
    let tokens := [token .int "2" 0, token .parenOpen "(" 1, token .int "3" 2,
      token .parenClose ")" 3, token .identifier "x" 4]
    let star := token .star "*" 0
    let six : Expr := .binary .mul (.literal (.int "2") ⟨0, 1, 1⟩)
      (.literal (.int "3") ⟨1, 4, 1⟩) ⟨0, 4, 1⟩
    let program : Program :=
      [.expression (.binary .mul six (.variable "x" ⟨4, 5, 1⟩) ⟨0, 5, 1⟩) ⟨0, 5, 1⟩]
    Program.ofTokens tokens = .ok program ∧
      Program.ofTokens [token .int "2" 0, star, token .parenOpen "(" 1, token .int "3" 2,
        token .parenClose ")" 3, star, token .identifier "x" 4] = .ok program := by
  intro token tokens star six program
  have accepted : Program.ofTokens tokens = .ok program := rfl
  exact ⟨accepted, implicit_products_are_products (fun _ => star) (fun _ => rfl) accepted⟩

/-! ## Points -/

/-- Tokens behind the end of a list are not seen. -/
theorem ofTokens_append_of_finish {front : List Token}
    (ended : ∃ token ∈ front, token.kind = .finish) (back : List Token) :
    Cursor.ofTokens (front ++ back) = Cursor.ofTokens front := by
  have inside :
      (front ++ back).takeWhile (·.kind ≠ .finish) = front.takeWhile (·.kind ≠ .finish) := by
    induction front with
    | nil => simp at ended
    | cons token front ih =>
        rw [List.cons_append]
        by_cases finish : token.kind = .finish
        · rw [takeWhile_cons_of_finish finish, takeWhile_cons_of_finish finish]
        · rw [takeWhile_cons_of_inner finish, takeWhile_cons_of_inner finish, ih]
          simpa [finish] using ended
  have ends : (front.find? (·.kind = .finish)).isSome = true := by simpa using ended
  obtain ⟨finish, found⟩ := Option.isSome_iff_exists.1 ends
  have found' : (front ++ back).find? (·.kind = .finish) = some finish := by
    rw [List.find?_append, found, Option.some_or]
  rw [Cursor.ofTokens, Cursor.ofTokens, inside, Cursor.finishOf, Cursor.finishOf, found, found']

/-- The one point after some tokens that is left out. -/
def onePoint (front : List Token) (point : Token) (back : List Token) : Omissions :=
  fun previous tokens => previous = front.getLast? ∧ tokens = point :: back

theorem respelled_onePoint {front back : List Token} {point : Token} (is_point : point.kind = .dot)
    (ends : ∀ next ∈ back.head?, endsStatement next.kind = true) :
    Respelled (onePoint front point back) none (front ++ point :: back) (front ++ back) := by
  refine .append_left front (.point is_point ⟨?_, rfl⟩ ends (.refl _ back))
  rw [Option.or_none]

/-- Points before the end of a block or of the list matter to declarations without a body only. -/
theorem points_before_ends_matter_to_declarations_only {front back : List Token} {point : Token}
    {program : Program} (is_point : point.kind = .dot)
    (ends : ∀ next ∈ back.head?, endsStatement next.kind = true)
    (accepted : Program.ofTokens (front ++ point :: back) = .ok program) :
    Program.ofTokens (front ++ back) = .ok program ∨
      ∃ earlier close next later, front = earlier ++ [close] ∧ close.kind = .parenClose ∧
        back = next :: later ∧ next.kind ≠ .finish ∧
        Program.ofTokens (front ++ back) = .error
          ⟨.malformed (unexpected (.mark ":" "to open the function body") next), next.span⟩ := by
  by_cases ended : ∃ token ∈ front, token.kind = .finish
  · rw [Program.ofTokens, ofTokens_append_of_finish ended] at accepted
    rw [Program.ofTokens, ofTokens_append_of_finish ended]
    exact .inl accepted
  have inner : ∀ token ∈ front, decide (token.kind ≠ .finish) = true := by simpa using ended
  have respelled : Respelled (onePoint front point (back.takeWhile (·.kind ≠ .finish))) none
      ((front ++ point :: back).takeWhile (·.kind ≠ .finish))
      ((front ++ back).takeWhile (·.kind ≠ .finish)) := by
    rw [List.takeWhile_append_of_pos inner, List.takeWhile_append_of_pos inner,
      takeWhile_cons_of_inner (by rw [is_point]; decide)]
    refine respelled_onePoint is_point fun next first => ends next ?_
    rw [List.head?_takeWhile] at first
    exact (Option.mem_filter_iff.1 first).1
  rcases ofTokens_of_respelled respelled accepted with same | ⟨_, excused, refused⟩
  · exact .inl same
  · obtain ⟨close, point, next, rest, close_kind, ⟨previous, tokens⟩, goes_on, rfl⟩ := excused
    obtain ⟨earlier, rfl⟩ := List.getLast?_eq_some_iff.1 previous.symm
    rw [List.cons.injEq] at tokens
    obtain ⟨later, whole⟩ : next :: rest <+: back := tokens.2 ▸ List.takeWhile_prefix _
    exact .inr ⟨earlier, close, next, rest ++ later, rfl, close_kind, whole.symm, goes_on, refused⟩

/-- The text `if 1: 5. ;` with and without its point. -/
theorem point_after_five_is_optional :
    let token (kind : Token.Kind) (text : String) (start : Nat) : Token :=
      ⟨kind, text, ⟨start, start + text.length, 1⟩⟩
    let front := [token (.keyword .ifWord) "if" 0, token .int "1" 3, token .colon ":" 4,
      token .int "5" 6]
    let point := token .dot "." 7
    let back := [token .semicolon ";" 9]
    let five : Stmt := .expression (.literal (.int "5") ⟨6, 7, 1⟩) ⟨6, 7, 1⟩
    let program : Program :=
      [.choose (.arm (.literal (.int "1") ⟨3, 4, 1⟩) [five] .nothing) ⟨0, 10, 1⟩]
    Program.ofTokens (front ++ point :: back) = .ok program ∧
      Program.ofTokens (front ++ back) = .ok program := by
  intro token front point back five program
  have accepted : Program.ofTokens (front ++ point :: back) = .ok program := rfl
  refine ⟨accepted, ?_⟩
  have ends : ∀ next ∈ back.head?, endsStatement next.kind = true := by
    rintro next ⟨⟩
    rfl
  refine (points_before_ends_matter_to_declarations_only rfl ends accepted).resolve_right ?_
  rintro ⟨earlier, close, next, later, split, close_kind, -⟩
  have last : some (token .int "5" 6) = some close := by
    simpa [front] using congrArg List.getLast? split
  cases last
  cases close_kind

/-- The text `if 1: fn f(a). ;` is refused without its point. -/
theorem declaration_misses_its_point :
    let token (kind : Token.Kind) (text : String) (start : Nat) : Token :=
      ⟨kind, text, ⟨start, start + text.length, 1⟩⟩
    let front := [token (.keyword .ifWord) "if" 0, token .int "1" 3, token .colon ":" 4,
      token (.keyword .function) "fn" 6, token .identifier "f" 9, token .parenOpen "(" 10,
      token .identifier "a" 11, token .parenClose ")" 12]
    let point := token .dot "." 13
    let close := token .semicolon ";" 15
    (Program.ofTokens (front ++ [point, close])).isOk = true ∧
      Program.ofTokens (front ++ [close]) = .error
        ⟨.malformed (.expected (.mark ":" "to open the function body") "`;`"), close.span⟩ := by
  intro token front point close
  exact ⟨rfl, rfl⟩

end Parser
end DotScript
