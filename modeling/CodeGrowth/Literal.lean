/-!
# String and character literals

A literal is closed by the first quote of its own kind that no backslash escapes. It may span
lines, but a backslash at the end of a line, or at the end of the text, leaves it without a close.
A quote that opens no complete literal is an ordinary character, and the search goes on right after
it.
-/
namespace CodeGrowth.Literal

def isQuote (c : Char) : Bool := c == '"' || c == '\''

/-- The text after the literal whose opening quote stands just before `cs`, if the literal closes.
A backslash takes the character after it along, unless that is a line feed. -/
def afterBody? (quote : Char) : List Char → Option (List Char)
  | [] => none
  | c :: rest =>
    if c = quote then some rest
    else if c = '\\' then
      match rest with
      | [] => none
      | e :: rest => if e = '\n' then none else afterBody? quote rest
    else afterBody? quote rest

theorem length_afterBody?_lt {quote : Char} {cs rest : List Char}
    (h : afterBody? quote cs = some rest) : rest.length < cs.length := by
  fun_induction afterBody? quote cs with
  | case1 => simp at h
  | case2 => cases h; simp
  | case3 => simp at h
  | case4 => simp at h
  | case5 _ _ _ _ ih => have := ih h; simp only [List.length_cons]; omega
  | case6 _ _ _ _ ih => have := ih h; simp only [List.length_cons]; omega

/-- The text without its literals. -/
def mask : List Char → List Char
  | [] => []
  | c :: rest =>
    if isQuote c then
      match _ : afterBody? c rest with
      | some rest => mask rest
      | none => c :: mask rest
    else c :: mask rest
termination_by text => text.length
decreasing_by
  · have := length_afterBody?_lt ‹afterBody? _ _ = some _›; simp only [List.length_cons]; omega
  · simp
  · simp

end CodeGrowth.Literal
