/-!
# Comments

Comments are removed in two passes over the text, block comments first. Neither pass knows string
literals, so a marker inside one counts. A block comment ends at the first close after its opening
marker; an opening marker that is never closed is no comment. A line comment runs to the end of its
line and leaves the line end in place.
-/
namespace CodeGrowth.Comment

/-- The text after the first closing marker of a block comment. -/
def afterClose? : List Char → Option (List Char)
  | [] => none
  | '*' :: '/' :: rest => some rest
  | _ :: rest => afterClose? rest

theorem length_afterClose?_lt {cs rest : List Char} (h : afterClose? cs = some rest) :
    rest.length < cs.length := by
  fun_induction afterClose? cs with
  | case1 => simp at h
  | case2 r => cases h; simp only [List.length_cons]; omega
  | case3 _ r _ ih => have := ih h; simp only [List.length_cons]; omega

/-- The text without its block comments. Where an opening marker is never closed, none of those
after it is, and the rest of the text stays. -/
def removeBlocks (text : List Char) : List Char :=
  match text with
  | [] => []
  | '/' :: '*' :: rest =>
    match _ : afterClose? rest with
    | some rest => removeBlocks rest
    | none => '/' :: '*' :: rest
  | c :: rest => c :: removeBlocks rest
termination_by text.length
decreasing_by
  · have := length_afterClose?_lt ‹afterClose? _ = some _›; simp only [List.length_cons]; omega
  · simp

/-- The characters that end a line comment. -/
def endsLine (c : Char) : Bool := c == '\n' || c == '\r'

/-- The text without its line comments, read from inside one if `inside`. -/
def removeLinesFrom (inside : Bool) : List Char → List Char
  | [] => []
  | c :: rest =>
    if inside then
      if endsLine c then c :: removeLinesFrom false rest else removeLinesFrom true rest
    else if c = '/' ∧ rest.head? = some '/' then removeLinesFrom true rest
    else c :: removeLinesFrom false rest

def removeLines (text : List Char) : List Char := removeLinesFrom false text

/-- The text without comments. -/
def strip (text : List Char) : List Char := removeLines (removeBlocks text)

end CodeGrowth.Comment
