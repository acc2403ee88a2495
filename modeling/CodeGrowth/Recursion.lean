import CodeGrowth.Text.Blank
import CodeGrowth.Text.Word

/-!
# Recursion

A definition is a name, a parenthesised part without semicolons and braces, and an opening brace. A
defined name that stands before an opening parenthesis more than once in the whole text counts as
recursive: the definition itself is one such place, and a call from anywhere is another.
-/
namespace CodeGrowth.Recursion
open Text

/-- The text after an opening parenthesis, white space before it allowed. -/
def afterParen? (cs : List Char) : Option (List Char) :=
  match skipBlanks cs with
  | '(' :: rest => some rest
  | _ => none

theorem length_afterParen?_lt {cs rest : List Char} (h : afterParen? cs = some rest) :
    rest.length < cs.length := by
  have := length_skipBlanks_le cs
  unfold afterParen? at h
  split at h
  · next r hr =>
      cases h
      rw [hr, List.length_cons] at this
      exact this
  · simp at h

/-- The characters that cannot stand between a name and the brace of its definition. -/
def endsHeader (c : Char) : Bool := c == ';' || c == '{'

/-- The text after the opening brace of a definition, read from after its first opening
parenthesis. Everything up to the brace belongs to the parameters, if its last character before
white space closes a parenthesis. -/
def afterHeader? (cs : List Char) : Option (List Char) :=
  match cs.dropWhile (!endsHeader ·) with
  | '{' :: rest =>
    if (trimEnd (cs.takeWhile (!endsHeader ·))).getLast? = some ')' then some rest else none
  | _ => none

theorem length_dropWhile_le (p : Char → Bool) (cs : List Char) :
    (cs.dropWhile p).length ≤ cs.length := (List.dropWhile_sublist p).length_le

theorem length_afterHeader?_lt {cs rest : List Char} (h : afterHeader? cs = some rest) :
    rest.length < cs.length := by
  have hle := length_dropWhile_le (!endsHeader ·) cs
  unfold afterHeader? at h
  split at h
  · next r hr =>
      rw [hr, List.length_cons] at hle
      split at h
      · cases h; exact hle
      · simp at h
  · simp at h

/-- The name of a definition at the start of a text, and the text after its opening brace. -/
def definition? (cs : List Char) : Option (List Char × List Char) :=
  if (leadingWord cs).isEmpty then none
  else
    ((afterParen? (afterWord cs)).bind afterHeader?).map fun rest => (leadingWord cs, rest)

theorem length_definition?_lt {cs name rest : List Char}
    (h : definition? cs = some (name, rest)) : rest.length < cs.length := by
  unfold definition? at h
  split at h
  · simp at h
  · obtain ⟨r, hr, heq⟩ := Option.map_eq_some_iff.1 h
    obtain ⟨q, hq, hr⟩ := Option.bind_eq_some_iff.1 hr
    cases heq
    have h1 := length_afterParen?_lt hq
    have h2 := length_afterHeader?_lt hr
    have h3 : (afterWord cs).length ≤ cs.length := length_dropWhile_le isWord cs
    omega

/-- The names of all definitions in order, keywords and repetitions included. The search goes on
after the brace of each one found. A word that is no defined name has no such name at its end
either, so the search goes on after it. -/
def definedNames (text : List Char) : List (List Char) :=
  match _ : definition? text with
  | some (name, rest) => name :: definedNames rest
  | none =>
    match text with
    | [] => []
    | c :: rest => if isWord c then definedNames (afterWord rest) else definedNames rest
termination_by text.length
decreasing_by
  · exact length_definition?_lt ‹definition? _ = some _›
  · exact Nat.lt_succ_of_le (length_dropWhile_le isWord rest)
  · simp

/-- The keywords that look like a defined name. -/
def controlKeywords : List (List Char) :=
  ["if".toList, "for".toList, "while".toList, "switch".toList, "else".toList]

/-- The distinct functions that a text defines, in order of their first definition. -/
def functionsIn (text : List Char) : List (List Char) :=
  ((definedNames text).filter (!controlKeywords.contains ·)).eraseDups

/-- The name called at a spot: a whole word before an opening parenthesis. -/
def siteAt? (spot : Spot) : Option (List Char) :=
  if spot.startsWord && !(leadingWord spot.ahead).isEmpty then
    (afterParen? (afterWord spot.ahead)).map fun _ => leadingWord spot.ahead
  else none

/-- The names at all call sites, definitions included. -/
def callSites (text : List Char) : List (List Char) := (spots text).filterMap siteAt?

/-- The functions of a text and those among them that are called as well. -/
structure Info where
  hasRecursion : Bool
  functions : List String
  recursive : List String
  deriving DecidableEq, Repr

def detect (cleaned : List Char) : Info :=
  let functions := functionsIn cleaned
  let sites := callSites cleaned
  let recursive := functions.filter fun name => 1 < sites.count name
  ⟨!recursive.isEmpty, functions.map String.ofList, recursive.map String.ofList⟩

end CodeGrowth.Recursion
