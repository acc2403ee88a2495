/-!
# White space and lines

`isBlank` is the Unicode property White_Space, twenty-five characters in all. It decides what a
text is trimmed of and what may stand between the tokens of a phrase. The two trimming functions
remove whole runs and nothing else.

There are two ways to cut a text into lines. `lines` cuts at every line feed and keeps the last
piece even when it is empty; the pieces joined by line feeds are the text again. `listing` is the
form for printing: a carriage return before a line feed belongs to the line end, and a final line
feed opens no further line.
-/
namespace CodeGrowth.Text

/-- The characters of the Unicode property White_Space. -/
def isBlank (c : Char) : Bool :=
  let n := c.toNat
  (9 ≤ n && n ≤ 13) || n == 0x20 || n == 0x85 || n == 0xA0 || n == 0x1680 ||
    (0x2000 ≤ n && n ≤ 0x200A) || n == 0x2028 || n == 0x2029 || n == 0x202F ||
    n == 0x205F || n == 0x3000

/-- The text after its leading white space. -/
def skipBlanks (cs : List Char) : List Char := cs.dropWhile isBlank

/-- The text before its trailing white space. -/
def trimEnd (cs : List Char) : List Char := (cs.reverse.dropWhile isBlank).reverse

/-- The text without white space at either end. -/
def trim (cs : List Char) : List Char := trimEnd (skipBlanks cs)

@[simp] theorem skipBlanks_nil : skipBlanks [] = [] := rfl

@[simp] theorem skipBlanks_cons (c : Char) (cs : List Char) :
    skipBlanks (c :: cs) = if isBlank c then skipBlanks cs else c :: cs := by
  cases h : isBlank c <;> simp [skipBlanks, h]

theorem length_skipBlanks_le (cs : List Char) : (skipBlanks cs).length ≤ cs.length := by
  induction cs with
  | nil => simp
  | cons c cs ih =>
      rw [skipBlanks_cons]
      split
      · exact Nat.le_succ_of_le ih
      · exact Nat.le_refl _

/-- The pieces of a text between its line feeds. -/
def lines (text : List Char) : List (List Char) := text.splitOn '\n'

@[simp] theorem intercalate_lines (text : List Char) : ['\n'].intercalate (lines text) = text :=
  List.intercalate_splitOn '\n'

/-- A line without the carriage return that its line end may begin with. -/
def dropReturn (line : List Char) : List Char :=
  if line.getLast? = some '\r' then line.dropLast else line

/-- The lines of pieces cut at line feeds: the last piece has no line end, and is no line if it
holds nothing. -/
def listed : List (List Char) → List (List Char)
  | [] => []
  | [last] => if last.isEmpty then [] else [last]
  | l :: m :: ls => dropReturn l :: listed (m :: ls)

def listing (text : List Char) : List (List Char) := listed (lines text)

end CodeGrowth.Text
