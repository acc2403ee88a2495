import CodeGrowth.Text.Blank

/-!
# Flags of patterns

Flags change how a pattern is read from the place where they are set. Two of them decide what is
well formed: whether a pattern speaks of characters or of bytes, and whether white space and
comments may stand between its parts.
-/
namespace CodeGrowth.Log.Pattern

structure Flags where
  /-- The pattern speaks of characters, not of bytes. -/
  unicode : Bool
  /-- White space and comments mean nothing. -/
  spaced : Bool
  deriving DecidableEq, Repr

namespace Flags

/-- The flags at the start of a pattern. -/
def standard : Flags := ⟨true, false⟩

/-- The text after white space and comments. A comment reaches from a number sign to the end of the
line. -/
def afterSpace (inComment : Bool) : List Char → List Char
  | [] => []
  | c :: cs =>
    if inComment then afterSpace (c != '\n') cs
    else if Text.isBlank c then afterSpace false cs
    else if c = '#' then afterSpace true cs
    else c :: cs

theorem length_afterSpace_le (inComment : Bool) (cs : List Char) :
    (afterSpace inComment cs).length ≤ cs.length := by
  induction cs generalizing inComment with
  | nil => simp [afterSpace]
  | cons c cs ih =>
      rw [afterSpace, List.length_cons]
      split
      · exact Nat.le_succ_of_le (ih _)
      · split
        · exact Nat.le_succ_of_le (ih _)
        · split
          · exact Nat.le_succ_of_le (ih _)
          · exact Nat.le_refl _

/-- The text from the next part of the pattern on. -/
def skip (flags : Flags) (cs : List Char) : List Char :=
  if flags.spaced then afterSpace false cs else cs

theorem length_skip_le (flags : Flags) (cs : List Char) :
    (flags.skip cs).length ≤ cs.length := by
  rw [skip]
  split
  · exact length_afterSpace_le false cs
  · exact Nat.le_refl _

/-- The character that decides what a hyphen before the text means: the first one that is not white
space, a single number sign left out of account. If there is none, white space itself. -/
def peek? (flags : Flags) (cs : List Char) : Option Char :=
  if flags.spaced then
    match Text.skipBlanks cs with
    | '#' :: rest => (Text.skipBlanks rest).head?.or cs.head?
    | rest => rest.head?.or cs.head?
  else cs.head?

/-- The letters of flags are known, given once each, and none is missing behind a hyphen. -/
def areLetters (letters : List Char) : Bool :=
  letters.all "imsUuRx-".toList.contains && letters.eraseDups == letters &&
    letters.getLast? != some '-'

/-- The value of a flag after some letters: those behind a hyphen take it away. -/
def value (letters : List Char) (letter : Char) (before : Bool) : Bool :=
  if (letters.takeWhile (· != '-')).contains letter then true
  else if letters.contains letter then false
  else before

/-- The flags after some letters. -/
def set (flags : Flags) (letters : List Char) : Flags :=
  ⟨value letters 'u' flags.unicode, value letters 'x' flags.spaced⟩

end Flags

end CodeGrowth.Log.Pattern
