import CodeGrowth.Log.Pattern.Atom

/-!
# Brackets in patterns

Brackets hold the items of a set: characters, ranges from one to another, named classes and further
sets in brackets. Two ampersands, hyphens or tildes are an operator on what stands on either side.
What is kept of a set while it is read is how high its tree is, since the height of a pattern is
limited.
-/
namespace CodeGrowth.Log.Pattern

/-- The height of a node over trees of these heights. One tree needs no node, and neither does
none. -/
def joined : List Nat → Nat
  | [] => 0
  | [height] => height
  | heights => heights.foldl max 0 + 1

/-- A set in brackets that are still open: the heights of the items since the last operator, and
the height of all that stands before it. -/
structure OpenSet where
  items : List Nat
  left : Option Nat
  deriving DecidableEq, Repr

namespace OpenSet

def push (set : OpenSet) (height : Nat) : OpenSet := { set with items := height :: set.items }

def height (set : OpenSet) : Nat := joined (joined set.items :: set.left.toList)

/-- The set after an operator. -/
def operate (set : OpenSet) : OpenSet := ⟨[], some set.height⟩

end OpenSet

namespace Flags

/-- The number of hyphens at the start of a text, and the text after them. -/
def leadingHyphens (flags : Flags) (cs : List Char) : Nat × List Char :=
  match cs with
  | '-' :: rest =>
    let (count, rest) := flags.leadingHyphens (flags.skip rest)
    (count + 1, rest)
  | _ => (0, cs)
termination_by cs.length
decreasing_by exact Nat.lt_succ_of_le (flags.length_skip_le _)

theorem length_leadingHyphens_le (flags : Flags) (cs : List Char) :
    (flags.leadingHyphens cs).2.length ≤ cs.length := by
  fun_induction leadingHyphens flags cs with
  | case1 rest count after heq ih =>
      have := flags.length_skip_le rest
      grind
  | case2 => exact Nat.le_refl _

/-- The set behind an opening bracket, with the items that only its start can hold: hyphens, or else
a closing bracket. The complement of a set of bytes would match half a character. -/
def openSet? (flags : Flags) (cs : List Char) : Option (OpenSet × List Char) :=
  let start := flags.skip cs
  let negated := start.head? = some '^'
  let (count, rest) := flags.leadingHyphens (if negated then flags.skip start.tail else start)
  if negated && !flags.unicode then none
  else
    match count, rest with
    | 0, ']' :: rest => some (⟨[0], none⟩, rest)
    | count, rest => some (⟨List.replicate count 0, none⟩, rest)

theorem length_openSet?_le {flags : Flags} {cs rest : List Char} {set : OpenSet}
    (h : flags.openSet? cs = some (set, rest)) : rest.length ≤ cs.length := by
  have h₁ := flags.length_skip_le cs
  have h₂ := flags.length_skip_le (flags.skip cs).tail
  have h₃ := flags.length_leadingHyphens_le (flags.skip cs)
  have h₄ := flags.length_leadingHyphens_le (flags.skip (flags.skip cs).tail)
  grind [openSet?]

/-- The names of classes. -/
def classNames : List String :=
  ["alnum", "alpha", "ascii", "blank", "cntrl", "digit", "graph", "lower", "print", "punct",
    "space", "upper", "word", "xdigit"]

/-- A named class behind an opening bracket: whether its complement is meant, and the text after
it. -/
def namedClass? : List Char → Option (Bool × List Char)
  | ':' :: cs =>
    let negated := cs.head? = some '^'
    let cs := if negated then cs.tail else cs
    match cs.dropWhile (· != ':') with
    | ':' :: ']' :: rest =>
      if classNames.contains (String.ofList (cs.takeWhile (· != ':'))) then some (negated, rest)
      else none
    | _ => none
  | _ => none

theorem length_namedClass?_le {cs rest : List Char} {negated : Bool}
    (h : namedClass? cs = some (negated, rest)) : rest.length ≤ cs.length := by
  unfold namedClass? at h
  split at h
  · next cs =>
      have := (List.dropWhile_sublist (· != ':') (l := cs)).length_le
      have := (List.dropWhile_sublist (· != ':') (l := cs.tail)).length_le
      grind
  · simp at h

/-- The atom at the start of a text in brackets, whether it belongs there or not. -/
def atom? (flags : Flags) : List Char → Option (Atom × List Char)
  | [] => none
  | '\\' :: cs => Atom.ofEscape? flags cs
  | c :: cs => some (.char c, cs)

theorem length_atom?_lt {flags : Flags} {cs rest : List Char} {atom : Atom}
    (h : flags.atom? cs = some (atom, rest)) : rest.length < cs.length := by
  unfold atom? at h
  split at h
  · simp at h
  · exact Nat.lt_succ_of_lt (Atom.length_ofEscape?_lt h)
  · grind

/-- The atom belongs in brackets. Bytes are named by ASCII characters only. -/
def admits (flags : Flags) : Atom → Bool
  | .char c => flags.unicode || c.toNat < 128
  | .set => true
  | .edge => false

/-- The atom at the start of a text in brackets. -/
def setAtom? (flags : Flags) (cs : List Char) : Option (Atom × List Char) :=
  (flags.atom? cs).filter fun (atom, _) => flags.admits atom

theorem length_setAtom?_lt {flags : Flags} {cs rest : List Char} {atom : Atom}
    (h : flags.setAtom? cs = some (atom, rest)) : rest.length < cs.length :=
  length_atom?_lt (Option.eq_some_of_filter_eq_some h)

/-- The text after an item in brackets: an atom, or two characters in order with a hyphen between
them. A hyphen before the closing bracket or before another hyphen makes no range. -/
def afterItem? (flags : Flags) (cs : List Char) : Option (List Char) := do
  let (first, rest) ← flags.setAtom? cs
  match flags.skip rest with
  | '-' :: after =>
    if flags.peek? after = some ']' || flags.peek? after = some '-' then return '-' :: after
    else
      match first, ← flags.setAtom? (flags.skip after) with
      | .char low, (.char high, rest) => if low ≤ high then return rest else none
      | _, _ => none
  | rest => return rest

theorem length_afterItem?_lt {flags : Flags} {cs rest : List Char}
    (h : flags.afterItem? cs = some rest) : rest.length < cs.length := by
  simp only [afterItem?, bind, Option.bind_eq_some_iff] at h
  obtain ⟨⟨first, after⟩, hfirst, h⟩ := h
  have h₁ := length_setAtom?_lt hfirst
  have h₂ := flags.length_skip_le after
  split at h
  · next behind heq =>
      split at h
      · grind
      · obtain ⟨⟨last, rest⟩, hlast, h⟩ := Option.bind_eq_some_iff.1 h
        have h₃ := length_setAtom?_lt hlast
        have h₄ := flags.length_skip_le behind
        grind
  · grind

end Flags

end CodeGrowth.Log.Pattern
