import DotScript.Proofs.Source.Joining

/-!
# Tokens to go on with

A text is gone on with by tokens that are written with a blank after each of them.  Such a token
carries the proof that it is read back as itself, whatever stands before it, so the tokens that are
read are those that were written: `Filler.exists_scanRest_render`.
-/

namespace DotScript

/-- A text is one token wherever it stands before a blank. -/
def Token.IsPlain (kind : Token.Kind) (text : String) : Prop :=
  ∃ c rest, text.toList = c :: rest ∧ ∀ operand more,
    firstChunk operand c (rest ++ ' ' :: more) =
      { meaning := .token kind text, source := c :: rest, rest := ' ' :: more }

/-- A token that may be written after a text. -/
structure Filler where
  /-- What the token is. -/
  kind : Token.Kind
  /-- How the token is written. -/
  text : String
  plain : Token.IsPlain kind text

/-- What a token is and how it is written, without its place. -/
def Token.word (token : Token) : Token.Kind × String :=
  (token.kind, token.text)

namespace Filler

/-- What a filler is and how it is written. -/
def word (filler : Filler) : Token.Kind × String :=
  (filler.kind, filler.text)

/-- The tokens are the fillers at some places. -/
def Spell (fillers : List Filler) (tokens : List Token) : Prop :=
  tokens.map Token.word = fillers.map word

theorem spell_nil {tokens : List Token} : Spell [] tokens ↔ tokens = [] :=
  List.map_eq_nil_iff

theorem Spell.exists_cons {filler : Filler} {fillers : List Filler} {tokens : List Token}
    (spell : Spell (filler :: fillers) tokens) :
    ∃ token rest, tokens = token :: rest ∧ token.kind = filler.kind ∧ token.text = filler.text ∧
      Spell fillers rest := by
  obtain ⟨token, rest, rfl, same, later⟩ := List.map_eq_cons_iff.1 spell
  rw [Token.word, word, Prod.mk.injEq] at same
  exact ⟨token, rest, rfl, same.1, same.2, later⟩

theorem Spell.exists_append {first second : List Filler} {tokens : List Token}
    (spell : Spell (first ++ second) tokens) :
    ∃ front back, tokens = front ++ back ∧ Spell first front ∧ Spell second back := by
  rw [Spell, List.map_append] at spell
  exact List.map_eq_append_iff.1 spell

theorem kind_ne_finish (filler : Filler) : filler.kind ≠ .finish := by
  obtain ⟨c, rest, _, cut⟩ := filler.plain
  exact Token.kind_ne_finish_of_meaning (congrArg Token.Chunk.meaning (cut false []))

theorem Spell.kind_ne_finish {fillers : List Filler} {tokens : List Token}
    (spell : Spell fillers tokens) : ∀ token ∈ tokens, token.kind ≠ .finish := by
  intro token member
  have spelled : token.word ∈ fillers.map word := spell ▸ List.mem_map_of_mem member
  obtain ⟨filler, _, same⟩ := List.mem_map.1 spelled
  have kind : filler.kind = token.kind := congrArg Prod.fst same
  exact kind ▸ filler.kind_ne_finish

/-- Fillers as they are written, with a blank after each of them. -/
def render (fillers : List Filler) : List Char :=
  fillers.flatMap fun filler => filler.text.toList ++ [' ']

/-- Written fillers are read back. -/
theorem exists_scanRest_render (fillers : List Filler) (operand : Bool) (place : Place) :
    ∃ tokens, Token.scanRest operand place (render fillers) =
      tokens ++ [.finishAt (place.after (render fillers))] ∧ Spell fillers tokens := by
  induction fillers generalizing operand place with
  | nil => exact ⟨[], rfl, rfl⟩
  | cons filler fillers ih =>
      obtain ⟨c, rest, chars, cut⟩ := filler.plain
      have written : render (filler :: fillers) = c :: (rest ++ ' ' :: render fillers) := by
        rw [render, List.flatMap_cons, chars, List.append_assoc]
        rfl
      obtain ⟨tokens, scanned, spell⟩ :=
        ih filler.kind.endsOperand ((place.after (c :: rest)).after [' '])
      have blank : Token.firstChunk filler.kind.endsOperand ' ' (render fillers) =
          .skip [' '] (render fillers) := rfl
      let token : Token :=
        { kind := filler.kind, text := filler.text, span := place.span (place.after (c :: rest)) }
      have whole : place.after (c :: (rest ++ ' ' :: render fillers)) =
          ((place.after (c :: rest)).after [' ']).after (render fillers) := by
        rw [← Place.after_append, ← Place.after_append]
        rfl
      refine ⟨token :: tokens, ?_, ?_⟩
      · rw [written, Token.scanRest_token (cut operand (render fillers)) rfl,
          Token.scanRest_gap blank rfl, whole]
        exact congrArg (token :: ·) scanned
      · rw [Spell, List.map_cons, List.map_cons, spell]
        rfl

end Filler

/-! ## Marks and words -/

namespace Filler

/-- The number zero. -/
def zero : Filler := ⟨.int, "0", '0', [], rfl, fun _ _ => rfl⟩

def parenOpen : Filler := ⟨.parenOpen, "(", '(', [], rfl, fun _ _ => rfl⟩

def parenClose : Filler := ⟨.parenClose, ")", ')', [], rfl, fun _ _ => rfl⟩

def bracketClose : Filler := ⟨.bracketClose, "]", ']', [], rfl, fun _ _ => rfl⟩

def braceClose : Filler := ⟨.braceClose, "\x7d", '\x7d', [], rfl, fun _ _ => rfl⟩

def colon : Filler := ⟨.colon, ":", ':', [], rfl, fun _ _ => rfl⟩

def semicolon : Filler := ⟨.semicolon, ";", ';', [], rfl, fun _ _ => rfl⟩

def dot : Filler := ⟨.dot, ".", '.', [], rfl, fun operand _ => by cases operand <;> rfl⟩

def atSign : Filler := ⟨.at, "@", '@', [], rfl, fun _ _ => rfl⟩

def beWord : Filler := ⟨.keyword .be, "be", 'b', ['e'], rfl, fun _ _ => rfl⟩

def inWord : Filler := ⟨.keyword .inWord, "in", 'i', ['n'], rfl, fun _ _ => rfl⟩

def toWord : Filler := ⟨.keyword .to, "to", 't', ['o'], rfl, fun _ _ => rfl⟩

def passWord : Filler := ⟨.keyword .pass, "pass", 'p', ['a', 's', 's'], rfl, fun _ _ => rfl⟩

/-! ## Names -/

/-- A name that is written with underscores only. -/
def underscores (length : Nat) : String :=
  String.ofList ('_' :: List.replicate length '_')

theorem ofText?_underscores (length : Nat) : Keyword.ofText? (underscores length) = none := by
  apply List.find?_eq_none.2
  intro keyword _ same
  have chars := congrArg (fun text : String => text.toList.head?) (beq_iff_eq.1 same)
  rw [underscores, String.toList_ofList, List.head?_cons] at chars
  cases keyword <;> exact absurd chars (by decide)

theorem isPlain_underscores (length : Nat) : Token.IsPlain .identifier (underscores length) := by
  refine ⟨'_', List.replicate length '_', String.toList_ofList, fun operand more => ?_⟩
  have continues : ∀ c ∈ List.replicate length '_', Token.continuesName c = true := by
    intro c member
    rw [List.eq_of_mem_replicate member]
    decide
  have stops : Token.continuesName ' ' = false := by decide
  have word (text : List Char) : Token.firstChunk operand '_' text = Token.wordChunk '_' text := by
    cases operand <;> rfl
  have kind : Token.Kind.ofWord (underscores length) = .identifier := by
    have other (word : String) (different : word.toList.head? ≠ some '_') :
        underscores length ≠ word := by
      rintro rfl
      exact different (by rw [underscores, String.toList_ofList, List.head?_cons])
    rw [Token.Kind.ofWord, if_neg (other _ (by decide)), if_neg (other _ (by decide)),
      if_neg (other _ (by decide)), ofText?_underscores]
  rw [word, Token.wordChunk, List.takeWhile_append_of_pos continues,
    List.dropWhile_append_of_pos continues, List.takeWhile_cons_of_neg (by simp [stops]),
    List.dropWhile_cons_of_neg (by simp [stops]), List.append_nil]
  rw [underscores] at kind
  simp only [kind]
  rfl

/-- A name other than the given ones: it is longer than all of them. -/
def nameApart (names : List String) : Filler where
  kind := .identifier
  text := underscores (names.foldr (fun name length => name.length + length) 0)
  plain := isPlain_underscores _

theorem text_nameApart_not_mem (names : List String) : (nameApart names).text ∉ names := by
  have bounded (name : String) (member : name ∈ names) :
      name.length ≤ names.foldr (fun name length => name.length + length) 0 := by
    induction names with
    | nil => cases member
    | cons first names ih =>
        rw [List.foldr_cons]
        rcases List.mem_cons.1 member with rfl | later
        · omega
        · have := ih later
          omega
  intro member
  have longer : (nameApart names).text.length =
      names.foldr (fun name length => name.length + length) 0 + 1 := by
    simp only [nameApart, underscores, String.length_ofList, List.length_cons,
      List.length_replicate]
  have := bounded _ member
  omega

end Filler
end DotScript
