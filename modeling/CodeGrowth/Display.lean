/-!
# What reports are drawn with

A report is printed for a reader with colours, without colours for a pipe, or as a JSON document.

An ink puts its control sequence before a text and the reset sequence after it. A text that holds
the reset sequence itself would end the ink too early, so the ink is taken up again after it.
Padding is part of the text, and so lies inside the control sequences.

A gauge is a bar of cells, filled in proportion to a percentage and rounded down. More than a
hundred per cent fills it and no more, but the figure beside the bar stays as it is.

A grid has a heading and one row under it. Every column is as wide as the longer of its two cells,
which start at its left edge, with one space on either side.
-/
namespace CodeGrowth.Display

inductive Format where
  | human
  | plain
  | json
  deriving DecidableEq, Repr

namespace Format

def name : Format → String
  | human => "human"
  | plain => "plain"
  | json => "json"

def all : List Format := [human, plain, json]

/-- The format when none was chosen: JSON if the environment asks for it, else one that suits where
the output goes. -/
def automatic (jsonWanted terminal : Bool) : Format :=
  if jsonWanted then json else if terminal then human else plain

end Format

/-- A way to print text, named by its control codes. -/
inductive Ink where
  | cyanBold
  | redBold
  | cyan
  | green
  | yellow
  | red
  | dim
  deriving DecidableEq, Repr

namespace Ink

def codes : Ink → String
  | cyanBold => "1;36"
  | redBold => "1;31"
  | cyan => "36"
  | green => "32"
  | yellow => "33"
  | red => "31"
  | dim => "2"

/-- The control sequence that starts the ink. -/
def sequence (ink : Ink) : List Char := "\x1b[".toList ++ ink.codes.toList ++ ['m']

end Ink

def reset : List Char := "\x1b[0m".toList

/-- The text with an ink taken up again after every reset in it. -/
def resumed (ink : Ink) : List Char → List Char
  | [] => []
  | '\x1b' :: '[' :: '0' :: 'm' :: rest => reset ++ ink.sequence ++ resumed ink rest
  | c :: rest => c :: resumed ink rest

/-- The text filled up with spaces to a number of characters. -/
def padded (width : Nat) (text : List Char) : List Char :=
  text ++ List.replicate (width - text.length) ' '

/-- A text in an ink, filled up to a width. -/
def inked (ink : Ink) (width : Nat) (text : List Char) : List Char :=
  ink.sequence ++ padded width (resumed ink text) ++ reset

/-- A text filled up to a width, in an ink if colours are on. -/
def paint (colours : Bool) (ink : Ink) (width : Nat) (text : List Char) : List Char :=
  if colours then inked ink width text else padded width text

@[simp] theorem padded_zero (text : List Char) : padded 0 text = text := by simp [padded]

/-- The number of filled cells of a bar. -/
def filledCells (percent width : Nat) : Nat := min percent 100 * width / 100

theorem filledCells_le (percent width : Nat) : filledCells percent width ≤ width := by
  unfold filledCells
  have h : min percent 100 * width ≤ 100 * width := Nat.mul_le_mul_right _ (Nat.min_le_right _ _)
  omega

/-- A run of filled cells and a run of empty ones. -/
def bar (filled empty : Char) (percent width : Nat) : List Char :=
  List.replicate (filledCells percent width) filled ++
    List.replicate (width - filledCells percent width) empty

/-- The ink of a bar by its percentage. -/
def gaugeInk (percent : Nat) : Ink :=
  if percent ≤ 25 then .cyan else if percent ≤ 50 then .green else if percent ≤ 75 then .yellow
  else .red

/-- The bar between its edges, and the percentage. -/
def framed (bar : List Char) (percent : Nat) : List Char :=
  ['│'] ++ bar ++ ['│', ' '] ++ Nat.toDigits 10 percent ++ ['%']

/-- The characters of a horizontal rule: its ends, its line, and where it meets a column border. -/
structure Rule where
  left : Char
  line : Char
  joint : Char
  right : Char
  deriving DecidableEq, Repr

/-- The characters that a table is drawn with. -/
structure Frame where
  top : Rule
  middle : Rule
  bottom : Rule
  edge : Char
  border : Char
  deriving DecidableEq, Repr

namespace Frame

/-- Line-drawing characters. -/
def drawn : Frame :=
  ⟨⟨'┌', '─', '┬', '┐'⟩, ⟨'╞', '═', '╪', '╡'⟩, ⟨'└', '─', '┴', '┘'⟩, '│', '┆'⟩

/-- Characters that every terminal has. -/
def typed : Frame :=
  ⟨⟨'+', '-', '+', '+'⟩, ⟨'+', '=', '=', '+'⟩, ⟨'+', '-', '+', '+'⟩, '|', '|'⟩

end Frame

/-- A heading and the cell below it. -/
structure Column where
  heading : List Char
  cell : List Char
  deriving DecidableEq, Repr

namespace Column

def width (column : Column) : Nat := max column.heading.length column.cell.length

end Column

def Rule.draw (rule : Rule) (columns : List Column) : List Char :=
  [rule.left] ++
    [rule.joint].intercalate (columns.map fun column =>
      List.replicate (column.width + 2) rule.line) ++ [rule.right]

/-- A line of cells, one of each column. -/
def cellLine (frame : Frame) (cell : Column → List Char) (columns : List Column) : List Char :=
  [frame.edge] ++
    [frame.border].intercalate (columns.map fun column =>
      [' '] ++ cell column ++ List.replicate (column.width - (cell column).length) ' ' ++ [' ']) ++
    [frame.edge]

/-- The lines of the table. -/
def gridLines (frame : Frame) (columns : List Column) : List (List Char) :=
  [frame.top.draw columns, cellLine frame Column.heading columns, frame.middle.draw columns,
    cellLine frame Column.cell columns, frame.bottom.draw columns]

/-- The table, without a final line end. -/
def grid (frame : Frame) (columns : List Column) : List Char :=
  ['\n'].intercalate (gridLines frame columns)

end CodeGrowth.Display
