import CodeGrowth.Log.Pattern.Bracket
import CodeGrowth.Text.Letter

/-!
# Patterns

A filter may compare a field with a pattern, that is, a regular expression. Whether an event matches
one is never asked here, but a filter with a malformed pattern cannot be read. So this module
decides which texts are well formed. A machine reads the pattern part by part and keeps a stack of
the groups and brackets that are open.

A pattern in a filter holds no closing brace, because its field ends there. So what an opening brace
starts is never completed, and the brace is refused at once.
-/
namespace CodeGrowth.Log.Pattern

/-- A part of a sequence: the height of its tree, and whether a count may follow it. -/
structure Item where
  height : Nat
  repeatable : Bool
  deriving DecidableEq, Repr

/-- What is unfinished outside a group: the flags there, the items of the sequence before the group,
the last first, and the heights of the alternatives before that sequence. -/
structure Outer where
  flags : Flags
  items : List Item
  branches : List Nat
  deriving DecidableEq, Repr

structure State where
  flags : Flags
  /-- The items of the sequence that is being read, the last first. -/
  items : List Item
  /-- The heights of the alternatives before it in its group. -/
  branches : List Nat
  /-- What the open groups lie in, the innermost first. -/
  groups : List Outer
  /-- The open sets in brackets, the innermost first. -/
  sets : List OpenSet
  /-- The names that groups have. -/
  names : List (List Char)
  deriving DecidableEq, Repr

namespace State

def start : State := ⟨.standard, [], [], [], [], []⟩

def push (state : State) (item : Item) : State := { state with items := item :: state.items }

/-- The height of what is read of the innermost group. -/
def height (state : State) : Nat :=
  joined (joined (state.items.map (·.height)) :: state.branches)

def newBranch (state : State) : State :=
  { state with items := [], branches := joined (state.items.map (·.height)) :: state.branches }

/-- The state in a new group with its own flags. -/
def enter (state : State) (flags : Flags) : State :=
  { state with
    flags, items := [], branches := []
    groups := ⟨state.flags, state.items, state.branches⟩ :: state.groups }

/-- The state after the innermost group, whose flags end with it. -/
def leave? (state : State) : Option State :=
  match state.groups with
  | [] => none
  | outer :: groups =>
    some { state with
      flags := outer.flags, items := ⟨state.height + 1, true⟩ :: outer.items
      branches := outer.branches, groups }

/-- The state after a count of what was read last. -/
def repeat? (state : State) : Option State :=
  match state.items with
  | [] => none
  | item :: items =>
    if item.repeatable then some { state with items := ⟨item.height + 1, true⟩ :: items } else none

/-- A character of a name of a group. -/
def isNameChar (first : Bool) (c : Char) : Bool :=
  Text.isLetter c || c == '_' || (!first && (Text.isNumeral c || ".[]".toList.contains c))

def isName : List Char → Bool
  | [] => false
  | c :: cs => isNameChar true c && cs.all (isNameChar false)

/-- The state after the name of a group, which no other group has. -/
def enterNamed? (state : State) (cs : List Char) : Option (State × List Char) :=
  let name := cs.takeWhile (· != '>')
  match cs.dropWhile (· != '>') with
  | _ :: rest =>
    if isName name && !state.names.contains name then
      some ({ state.enter state.flags with names := name :: state.names }, rest)
    else none
  | [] => none

theorem length_enterNamed?_le {state next : State} {cs rest : List Char}
    (h : state.enterNamed? cs = some (next, rest)) : rest.length ≤ cs.length := by
  have := (List.dropWhile_sublist (· != '>') (l := cs)).length_le
  grind [enterNamed?]

/-- The state after flags: with a colon they are for the group that it starts, and with a closing
parenthesis for the rest of the group around them. -/
def enterFlagged? (state : State) (cs : List Char) : Option (State × List Char) :=
  let letters := cs.takeWhile fun c => c != ':' && c != ')'
  if !Flags.areLetters letters then none
  else
    match cs.dropWhile fun c => c != ':' && c != ')' with
    | ':' :: rest => some (state.enter (state.flags.set letters), rest)
    | ')' :: rest =>
      if letters.isEmpty then none
      else some ({ state.push ⟨0, false⟩ with flags := state.flags.set letters }, rest)
    | _ => none

theorem length_enterFlagged?_le {state next : State} {cs rest : List Char}
    (h : state.enterFlagged? cs = some (next, rest)) : rest.length ≤ cs.length := by
  have := (List.dropWhile_sublist (fun c => c != ':' && c != ')') (l := cs)).length_le
  grind [enterFlagged?]

/-- The state after the start of a group, read from behind its parenthesis. -/
def openGroup? (state : State) (cs : List Char) : Option (State × List Char) :=
  match state.flags.skip cs with
  | '?' :: 'P' :: '<' :: rest => state.enterNamed? rest
  | '?' :: '<' :: rest => state.enterNamed? rest
  | '?' :: rest => state.enterFlagged? rest
  | rest => some (state.enter state.flags, rest)

theorem length_openGroup?_le {state next : State} {cs rest : List Char}
    (h : state.openGroup? cs = some (next, rest)) : rest.length ≤ cs.length := by
  have hskip := state.flags.length_skip_le cs
  unfold openGroup? at h
  split at h
  · next after heq => have := length_enterNamed?_le h; grind
  · next after heq => have := length_enterNamed?_le h; grind
  · next after heq => have := length_enterFlagged?_le h; grind
  · grind

/-- The state after an opening bracket. -/
def openSet? (state : State) (cs : List Char) : Option (State × List Char) :=
  (state.flags.openSet? cs).map fun (set, rest) => ({ state with sets := set :: state.sets }, rest)

theorem length_openSet?_le {state next : State} {cs rest : List Char}
    (h : state.openSet? cs = some (next, rest)) : rest.length ≤ cs.length := by
  obtain ⟨⟨set, after⟩, hset, h⟩ := Option.map_eq_some_iff.1 h
  have := Flags.length_openSet?_le hset
  grind

/-- A step outside brackets. A question mark right behind a count belongs to it. -/
def outside? (state : State) : List Char → Option (State × List Char)
  | '(' :: rest => state.openGroup? rest
  | ')' :: rest => state.leave?.map (·, rest)
  | '|' :: rest => some (state.newBranch, rest)
  | '[' :: rest => state.openSet? rest
  | '\\' :: rest =>
    (Atom.ofEscape? state.flags rest).map fun (_, rest) => (state.push ⟨0, true⟩, rest)
  | c :: rest =>
    if "?*+".toList.contains c then
      state.repeat?.map (·, if rest.head? = some '?' then rest.tail else rest)
    else if c = '\x7b' || (c = '.' && !state.flags.unicode) then none
    else some (state.push ⟨0, true⟩, rest)
  | [] => none

theorem length_outside?_lt {state next : State} {cs rest : List Char}
    (h : state.outside? cs = some (next, rest)) : rest.length < cs.length := by
  unfold outside? at h
  split at h
  · exact Nat.lt_succ_of_le (length_openGroup?_le h)
  · obtain ⟨_, -, h⟩ := Option.map_eq_some_iff.1 h
    grind
  · grind
  · exact Nat.lt_succ_of_le (length_openSet?_le h)
  · obtain ⟨⟨atom, after⟩, hatom, h⟩ := Option.map_eq_some_iff.1 h
    have := Atom.length_ofEscape?_lt hatom
    grind
  · split at h
    · obtain ⟨_, -, h⟩ := Option.map_eq_some_iff.1 h
      grind
    · grind
  · simp at h

/-- The state with other contents of the innermost brackets. -/
def withSet (state : State) (set : OpenSet) (outer : List OpenSet) : State :=
  { state with sets := set :: outer }

/-- The state after the innermost brackets. -/
def closeSet (state : State) (set : OpenSet) : List OpenSet → State
  | [] => { state.push ⟨set.height + 1, true⟩ with sets := [] }
  | next :: outer => state.withSet (next.push (set.height + 1)) outer

/-- A step in brackets. -/
def inside? (state : State) (set : OpenSet) (outer : List OpenSet) :
    List Char → Option (State × List Char)
  | '[' :: rest =>
    match Flags.namedClass? rest with
    | some (negated, rest) =>
      if negated && !state.flags.unicode then none
      else some (state.withSet (set.push 0) outer, rest)
    | none => state.openSet? rest
  | ']' :: rest => some (state.closeSet set outer, rest)
  | '&' :: '&' :: rest => some (state.withSet set.operate outer, rest)
  | '-' :: '-' :: rest => some (state.withSet set.operate outer, rest)
  | '~' :: '~' :: rest => some (state.withSet set.operate outer, rest)
  | cs => (state.flags.afterItem? cs).map (state.withSet (set.push 0) outer, ·)

theorem length_inside?_lt {state next : State} {set : OpenSet} {outer : List OpenSet}
    {cs rest : List Char} (h : state.inside? set outer cs = some (next, rest)) :
    rest.length < cs.length := by
  unfold inside? at h
  split at h
  · split at h
    · next negated after heq =>
        have := Flags.length_namedClass?_le heq
        grind
    · exact Nat.lt_succ_of_le (length_openSet?_le h)
  · grind
  · grind
  · grind
  · grind
  · obtain ⟨after, hafter, h⟩ := Option.map_eq_some_iff.1 h
    have := Flags.length_afterItem?_lt hafter
    grind

/-- The state after the next part of a text, and the text after that. -/
def step? (state : State) (cs : List Char) : Option (State × List Char) :=
  match state.sets with
  | [] => state.outside? cs
  | set :: outer => state.inside? set outer cs

/-- Every step reads some of the text. -/
theorem length_step?_lt {state next : State} {cs rest : List Char}
    (h : state.step? cs = some (next, rest)) : rest.length < cs.length := by
  unfold step? at h
  split at h
  · exact length_outside?_lt h
  · exact length_inside?_lt h

/-- The state after a text. -/
def run? (state : State) (cs : List Char) : Option State :=
  match _ : state.flags.skip cs with
  | [] => some state
  | c :: rest =>
    match _ : state.step? (c :: rest) with
    | none => none
    | some (next, rest) => next.run? rest
termination_by cs.length
decreasing_by
  have hskip := state.flags.length_skip_le cs
  rw [‹state.flags.skip cs = _›] at hskip
  exact Nat.lt_of_lt_of_le (length_step?_lt ‹state.step? _ = _›) hskip

/-- No tree of a pattern is higher. -/
def maxHeight : Nat := 250

/-- A pattern may end here: nothing is open, and its tree is not too high. -/
def isFinal (state : State) : Bool :=
  state.groups.isEmpty && state.sets.isEmpty && state.height ≤ maxHeight

end State

/-- The text is a pattern. -/
def isWellFormed (text : List Char) : Bool := (State.start.run? text).any State.isFinal

end CodeGrowth.Log.Pattern
