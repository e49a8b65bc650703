import DotScript.Text.Classes

/-!
# Pieces of texts

Texts are lists of characters here.  They are trimmed and cut at white space, at line ends, and at
the occurrences of another text.
-/

namespace DotScript

/-! ## Trimming and splitting at white space

Texts are handled as lists of characters.  A line ends at a line feed; one carriage return directly
before the line feed belongs to the line end as well. -/

namespace Text

/-- The text without the longest end of characters that satisfy `p`. -/
def dropWhileEnd (p : Char → Bool) (text : List Char) : List Char :=
  (text.reverse.dropWhile p).reverse

/-- The text without white space at either end. -/
def trim (text : List Char) : List Char :=
  dropWhileEnd isBlank (text.dropWhile isBlank)

/-- Adds a finished word, given in reverse, to the words before it, given in reverse. -/
def pushWord (word : List Char) (words : List (List Char)) : List (List Char) :=
  if word.isEmpty then words else word.reverse :: words

/-- The words of a text, with the current word and the words before it in reverse. -/
def wordsFrom (word : List Char) (words : List (List Char)) : List Char → List (List Char)
  | [] => (pushWord word words).reverse
  | c :: rest =>
    if isBlank c then wordsFrom [] (pushWord word words) rest else wordsFrom (c :: word) words rest

/-- The maximal runs of characters that are not white space. -/
def words (text : List Char) : List (List Char) :=
  wordsFrom [] [] text

/-- A line without the line feed that ended it, given in reverse. -/
def endLine (line : List Char) : List Char :=
  match line with
  | '\r' :: rest => rest.reverse
  | line => line.reverse

/-- The lines of a text, with the current line and the lines before it in reverse. -/
def linesFrom (line : List Char) (lines : List (List Char)) : List Char → List (List Char)
  | [] => if line.isEmpty then lines.reverse else (line.reverse :: lines).reverse
  | c :: rest =>
    if c = '\n' then linesFrom [] (endLine line :: lines) rest else linesFrom (c :: line) lines rest

/-- The lines of a text.  A text that ends in a line feed has no empty last line. -/
def lines (text : List Char) : List (List Char) :=
  linesFrom [] [] text

/-! ## Occurrences of one text in another

`position?` gives the place of the first occurrence, counted in characters.  `pieces` cuts a text at
its occurrences, taken from the left without overlap; an empty separator occurs before every
character and at the end.  Counting and replacing are read off the pieces. -/

/-- The place of the first occurrence of `needle`, counted from `index`. -/
def positionFrom (needle : List Char) (index : Nat) : List Char → Option Nat
  | [] => if needle.isEmpty then some index else none
  | c :: rest =>
    if needle.isPrefixOf (c :: rest) then some index else positionFrom needle (index + 1) rest

/-- The number of characters before the first occurrence of `needle`. -/
def position? (needle text : List Char) : Option Nat :=
  positionFrom needle 0 text

/-- The pieces between the occurrences of a separator that is not empty.  `skip` characters still
belong to the last occurrence, and the current piece and the earlier ones are in reverse. -/
def piecesFrom (separator : List Char) :
    Nat → List Char → List (List Char) → List Char → List (List Char)
  | _, piece, earlier, [] => (piece.reverse :: earlier).reverse
  | skip + 1, piece, earlier, _ :: rest => piecesFrom separator skip piece earlier rest
  | 0, piece, earlier, c :: rest =>
    if separator.isPrefixOf (c :: rest) then
      piecesFrom separator (separator.length - 1) [] (piece.reverse :: earlier) rest
    else
      piecesFrom separator 0 (c :: piece) earlier rest

/-- The pieces of a text between the occurrences of `separator`. -/
def pieces (separator text : List Char) : List (List Char) :=
  if separator.isEmpty then [] :: text.map ([·]) ++ [[]] else piecesFrom separator 0 [] [] text

/-- The number of occurrences of `needle` that do not overlap. -/
def occurrences (needle text : List Char) : Nat :=
  (pieces needle text).length - 1

/-- The text with `replacement` in place of every occurrence of `needle`. -/
def replace (needle replacement text : List Char) : List Char :=
  replacement.intercalate (pieces needle text)

end Text

end DotScript
