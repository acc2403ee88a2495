import CodeGrowth.Text.Blank
import CodeGrowth.Text.Word

/-!
# Phrases

A phrase is a fixed sequence of pieces, such as the word `for`, any white space and an opening
parenthesis. Each piece takes the longest run it can, and no piece that follows a run can begin
inside it, so matching needs no second try: `Phrase.rest?` answers with the text after the one
possible match.
-/
namespace CodeGrowth.Text

/-- The text after `expected`, if it starts with that. -/
def after? : List Char → List Char → Option (List Char)
  | [], cs => some cs
  | _ :: _, [] => none
  | e :: es, c :: cs => if e = c then after? es cs else none

theorem after?_eq_some_iff {expected cs rest : List Char} :
    after? expected cs = some rest ↔ cs = expected ++ rest := by
  induction expected generalizing cs with
  | nil => simp [after?, eq_comm]
  | cons e es ih =>
      cases cs with
      | nil => simp [after?]
      | cons c cs =>
          by_cases h : e = c
          · subst h; simp [after?, ih]
          · simp [after?, h, Ne.symm h]

inductive Piece where
  /-- These characters and no others. -/
  | exactly (expected : List Char)
  /-- White space, possibly none. -/
  | gap
  /-- At least one white-space character. -/
  | blanks
  /-- At least one word character or dot. -/
  | dotted
  /-- Nothing, where no word character follows. -/
  | wordEnd
  deriving Repr

/-- A letter of a qualified name. -/
def isDotted (c : Char) : Bool := isWord c || c == '.'

namespace Piece

/-- The text after the piece, if the text starts with it. -/
def rest? : Piece → List Char → Option (List Char)
  | exactly expected, cs => after? expected cs
  | gap, cs => some (skipBlanks cs)
  | blanks, cs => if cs.head?.any isBlank then some (skipBlanks cs) else none
  | dotted, cs => if cs.head?.any isDotted then some (cs.dropWhile isDotted) else none
  | wordEnd, cs => if cs.head?.any isWord then none else some cs

end Piece

/-- A phrase that begins at the start of a word, or, if not `atWord`, anywhere. -/
structure Phrase where
  atWord : Bool
  pieces : List Piece
  deriving Repr

/-- The text after a sequence of pieces. -/
def afterPieces? : List Piece → List Char → Option (List Char)
  | [], cs => some cs
  | p :: ps, cs => (p.rest? cs).bind (afterPieces? ps)

namespace Phrase

/-- The text after the phrase, if it stands at this spot. -/
def rest? (phrase : Phrase) (spot : Spot) : Option (List Char) :=
  if phrase.atWord && !spot.startsWord then none else afterPieces? phrase.pieces spot.ahead

def standsAt (phrase : Phrase) (spot : Spot) : Bool := (phrase.rest? spot).isSome

def occursIn (phrase : Phrase) (text : List Char) : Bool := (spots text).any phrase.standsAt

/-- The number of spots where the phrase stands. -/
def countIn (phrase : Phrase) (text : List Char) : Nat := (spots text).countP phrase.standsAt

theorem occursIn_iff_countIn_pos (phrase : Phrase) (text : List Char) :
    phrase.occursIn text = true ↔ 0 < phrase.countIn text := by
  simp [occursIn, countIn, List.countP_pos_iff]

end Phrase

end CodeGrowth.Text
