import CodeGrowth.Json.Token
import CodeGrowth.Log.Pattern.Flags

/-!
# Atoms of patterns

An atom is the least part of a pattern. Most are characters that stand for themselves; the others
are written with a backslash. A pattern that speaks of bytes must not match half a character, so
that a byte from 128 on and the complement of a set are no atoms of it. A pattern that speaks of
characters must not look for the edge of a word, because no machine that reads byte by byte can tell
whether a letter outside ASCII lies ahead.
-/
namespace CodeGrowth.Log.Pattern

inductive Atom where
  | char (c : Char)
  /-- Any of a set of characters. -/
  | set
  /-- A place between two characters. -/
  | edge
  deriving DecidableEq, Repr

namespace Atom

/-- The values of a number of hexadecimal digits, and the text after them. -/
def digits? (flags : Flags) : Nat → List Char → Option (List Nat × List Char)
  | 0, cs => some ([], cs)
  | count + 1, cs =>
    match flags.skip cs with
    | [] => none
    | c :: cs => do
      let value ← Json.hexValue? c
      let (values, rest) ← digits? flags count cs
      return (value :: values, rest)

theorem length_digits?_le {flags : Flags} {count : Nat} {cs rest : List Char}
    {values : List Nat} (h : digits? flags count cs = some (values, rest)) :
    rest.length ≤ cs.length := by
  induction count generalizing cs values rest with
  | zero => simp_all [digits?]
  | succ count ih =>
      have hskip := flags.length_skip_le cs
      rw [digits?] at h
      split at h
      · simp at h
      · next c after heq =>
          rw [heq, List.length_cons] at hskip
          simp only [bind, Option.bind_eq_some_iff, pure] at h
          obtain ⟨value, -, ⟨values, rest⟩, hrest, h⟩ := h
          have := ih hrest
          grind

/-- The character with a code point in hexadecimal digits. Two digits give a byte. -/
def ofCode? (flags : Flags) (count : Nat) (cs : List Char) : Option (Atom × List Char) := do
  let (values, rest) ← digits? flags count cs
  let code := values.foldl (fun code value => code * 16 + value) 0
  if code.isValidChar && (flags.unicode || count != 2 || code < 128) then
    return (.char (Char.ofNat code), rest)
  else none

theorem length_ofCode?_le {flags : Flags} {count : Nat} {cs rest : List Char} {atom : Atom}
    (h : ofCode? flags count cs = some (atom, rest)) : rest.length ≤ cs.length := by
  simp only [ofCode?, bind, Option.bind_eq_some_iff] at h
  obtain ⟨⟨values, after⟩, hafter, h⟩ := h
  split at h
  · cases h
    exact length_digits?_le hafter
  · simp at h

/-- The characters of one of the seven general categories, by its letter. -/
def ofCategory? (flags : Flags) (cs : List Char) : Option (Atom × List Char) :=
  match flags.skip cs with
  | [] => none
  | c :: rest =>
    if flags.unicode && "clmnpsz".toList.contains c.toLower then some (.set, rest) else none

theorem length_ofCategory?_le {flags : Flags} {cs rest : List Char} {atom : Atom}
    (h : ofCategory? flags cs = some (atom, rest)) : rest.length ≤ cs.length := by
  have hskip := flags.length_skip_le cs
  unfold ofCategory? at h
  split at h
  · simp at h
  · next c after heq =>
      rw [heq, List.length_cons] at hskip
      split at h
      · cases h
        exact Nat.le_of_succ_le hskip
      · simp at h

/-- The atom of a single character behind a backslash. -/
def ofLetter? (flags : Flags) (c : Char) : Option Atom :=
  if "dsw".toList.contains c then some .set
  else if "DSW".toList.contains c then if flags.unicode then some .set else none
  else if "Az".toList.contains c then some .edge
  else if "bB<>".toList.contains c then if flags.unicode then none else some .edge
  else
    match ("aftnrv".toList.zip [7, 12, 9, 10, 13, 11]).lookup c with
    | some code => some (.char (Char.ofNat code))
    | none => if c.toNat < 128 && !c.isAlphanum then some (.char c) else none

/-- The atom behind a backslash, and the text after it. -/
def ofEscape? (flags : Flags) : List Char → Option (Atom × List Char)
  | [] => none
  | 'x' :: cs => ofCode? flags 2 cs
  | 'u' :: cs => ofCode? flags 4 cs
  | 'U' :: cs => ofCode? flags 8 cs
  | 'p' :: cs => ofCategory? flags cs
  | 'P' :: cs => ofCategory? flags cs
  | c :: cs => (ofLetter? flags c).map (·, cs)

theorem length_ofEscape?_lt {flags : Flags} {cs rest : List Char} {atom : Atom}
    (h : ofEscape? flags cs = some (atom, rest)) : rest.length < cs.length := by
  unfold ofEscape? at h
  split at h
  · simp at h
  · exact Nat.lt_succ_of_le (length_ofCode?_le h)
  · exact Nat.lt_succ_of_le (length_ofCode?_le h)
  · exact Nat.lt_succ_of_le (length_ofCode?_le h)
  · exact Nat.lt_succ_of_le (length_ofCategory?_le h)
  · exact Nat.lt_succ_of_le (length_ofCategory?_le h)
  · obtain ⟨atom, -, h⟩ := Option.map_eq_some_iff.1 h
    grind

end Atom

end CodeGrowth.Log.Pattern
