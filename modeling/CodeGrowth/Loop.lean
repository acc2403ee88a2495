import CodeGrowth.Literal
import CodeGrowth.Text.Blank
import CodeGrowth.Text.Phrase

/-!
# Loops

A loop shows itself by its keyword, as a word of its own or at least the start of one, followed by
its bracket after any white space, line ends included. Headers are counted outside literals. The
closing condition of a do-while is a while header as well, so the do-while loops are taken off the
while headers, unless there are too few of them for that.

The nesting depth is followed line by line. A line with a loop header and a brace is walked brace by
brace, so that loops written on one line nest. A header without a brace opens a level of its own,
since its body starts on a later line. Any other line counts by its sum of braces only. The depth
never falls below zero.

Three shapes are known by sight to run forever: a while loop whose condition is `1` or `true`, a
for loop with nothing between its semicolons, and a do-while with such a condition. They are looked
for in this order, in literals too.
-/
namespace CodeGrowth.Loop
open Text

def forHeader : Phrase := ⟨true, [.exactly "for".toList, .gap, .exactly "(".toList]⟩

def whileHeader : Phrase := ⟨true, [.exactly "while".toList, .gap, .exactly "(".toList]⟩

def doHeader : Phrase := ⟨true, [.exactly "do".toList, .gap, .exactly "\x7b".toList]⟩

/-- A header of any of the three kinds stands somewhere in the text. -/
def hasHeader (text : List Char) : Bool :=
  forHeader.occursIn text || whileHeader.occursIn text || doHeader.occursIn text

structure Counts where
  forCount : Nat
  whileCount : Nat
  doWhileCount : Nat
  deriving DecidableEq, Repr

namespace Counts

def zero : Counts := ⟨0, 0, 0⟩

def total (counts : Counts) : Nat := counts.forCount + counts.whileCount + counts.doWhileCount

end Counts

/-- The while headers that close no do-while. -/
def ownWhileCount (whileHeaders doHeaders : Nat) : Nat :=
  if doHeaders ≤ whileHeaders then whileHeaders - doHeaders else whileHeaders

/-- The loops of a text without comments. -/
def count (cleaned : List Char) : Counts :=
  let text := Literal.mask cleaned
  let doHeaders := doHeader.countIn text
  ⟨forHeader.countIn text, ownWhileCount (whileHeader.countIn text) doHeaders, doHeaders⟩

/-- The greatest depth on a walk over the braces of a line that starts at `depth`. -/
def inlinePeak (depth : Nat) : List Char → Nat
  | [] => depth
  | '{' :: rest => max depth (inlinePeak (depth + 1) rest)
  | '}' :: rest => max depth (inlinePeak (depth - 1) rest)
  | _ :: rest => inlinePeak depth rest

/-- Where the nesting stands after some lines: the depth there and the greatest one so far. -/
structure Nesting where
  depth : Nat
  peak : Nat
  deriving DecidableEq, Repr

namespace Nesting

/-- The effect of the loop headers of a line. -/
def enter (nesting : Nesting) (line : List Char) : Nesting :=
  if hasHeader line then
    if line.contains '{' then ⟨nesting.depth, max nesting.peak (inlinePeak nesting.depth line)⟩
    else ⟨nesting.depth + 1, max nesting.peak (nesting.depth + 1)⟩
  else nesting

/-- The effect of the braces of a line, taken together. -/
def settle (nesting : Nesting) (line : List Char) : Nesting :=
  let depth := nesting.depth + line.count '{' - line.count '}'
  ⟨depth, max nesting.peak depth⟩

def afterLine (nesting : Nesting) (line : List Char) : Nesting :=
  (nesting.enter line).settle line

def afterLines (nesting : Nesting) (lines : List (List Char)) : Nesting :=
  lines.foldl afterLine nesting

end Nesting

/-- The greatest depth in a text without comments. -/
def nestDepth (cleaned : List Char) : Nat :=
  (Nesting.afterLines ⟨0, 0⟩ (lines (Literal.mask cleaned))).peak

inductive Endless where
  | whileTrue
  | emptyFor
  | doWhileTrue
  deriving DecidableEq, Repr

namespace Endless

/-- How the shape is named in explanations. -/
def describe : Endless → String
  | whileTrue => "while(1)"
  | emptyFor => "for(;;)"
  | doWhileTrue => "do-while(1)"

end Endless

/-- The conditions that always hold. -/
def alwaysTrue : List (List Char) := ["1".toList, "true".toList]

/-- A while keyword, a parenthesised condition and white space between the tokens. -/
def whilePieces (condition : List Char) : List Piece :=
  [.exactly "while".toList, .gap, .exactly "(".toList, .gap, .exactly condition, .gap,
    .exactly ")".toList]

def hasWhileTrue (text : List Char) : Bool :=
  alwaysTrue.any fun condition => (Phrase.mk true (whilePieces condition)).occursIn text

def emptyForHeader : Phrase :=
  ⟨true, [.exactly "for".toList, .gap, .exactly "(".toList, .gap, .exactly ";".toList, .gap,
    .exactly ";".toList, .gap, .exactly ")".toList]⟩

/-- The opening of a do-while. The keyword may be the end of a longer word. -/
def doOpening : Phrase := ⟨false, doHeader.pieces⟩

/-- A closing brace and an always-true condition somewhere in the text. -/
def hasTrueClosing (text : List Char) : Bool :=
  alwaysTrue.any fun condition =>
    (Phrase.mk false (.exactly "\x7d".toList :: .gap :: whilePieces condition)).occursIn text

/-- A closing behind any opening is also behind the first one. -/
def hasDoWhileTrue (text : List Char) : Bool :=
  ((spots text).findSome? doOpening.rest?).any hasTrueClosing

/-- The first shape that a text without comments shows. -/
def findEndless? (cleaned : List Char) : Option Endless :=
  if hasWhileTrue cleaned then some .whileTrue
  else if emptyForHeader.occursIn cleaned then some .emptyFor
  else if hasDoWhileTrue cleaned then some .doWhileTrue
  else none

end CodeGrowth.Loop
