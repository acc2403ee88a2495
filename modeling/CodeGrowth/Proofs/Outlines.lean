import CodeGrowth.Proofs.Nesting
import CodeGrowth.Proofs.Printed

/-!
# The nesting depth of outlines

An outline is a text laid out as a tree of lines. A block opens with a brace at the end of its head
line and closes with a brace on a line of its own, or with one that a further head follows, as in
`} else {`. Heads may be anything on one line without quotes and braces, loop headers and others;
between them stand statements, which open no loop. Lines may be indented in any way.

A line moves the depth by its braces alone, whether its head is a loop header or not, and a whole
block gives back the depth it started from. So the depth of the text is the height of the
tree, and the depth is never cut off at zero on the way.
-/
namespace CodeGrowth.Outlines
open Text Loop

/-- A text on one line, without quotes and braces. -/
structure Plain where
  text : List Char
  no_lineFeed : '\n' ∉ text
  no_quote : ∀ c ∈ text, Literal.isQuote c = false
  braceFree : BraceFree text

/-- A fixed text as a plain one. -/
def Plain.ofString (text : String)
    (h : '\n' ∉ text.toList ∧ text.toList.all (!Literal.isQuote ·) = true ∧ BraceFree text.toList) :
    Plain :=
  ⟨text.toList, h.1, forall_eq_false_of_all h.2.1, h.2.2⟩

lemma Plain.no_quote_append (head : Plain) {d : Char} (hd : Literal.isQuote d = false) :
    ∀ c ∈ head.text ++ [d], Literal.isQuote c = false := by
  intro c hc
  rw [List.mem_append, List.mem_singleton] at hc
  rcases hc with hc | rfl
  · exact head.no_quote c hc
  · exact hd

/-- A text on one line, possibly blank, that opens no loop and no block. -/
structure Statement extends Plain where
  no_header : hasHeader text = false

inductive Line where
  | statement (statement : Statement)
  | opening (head : Plain)
  | closing
  /-- A line that closes a block and opens the next one. -/
  | reopening (head : Plain)

namespace Line

def text : Line → List Char
  | .statement s => s.text
  | .opening head => head.text ++ ['{']
  | .closing => ['}']
  | .reopening head => '}' :: (head.text ++ ['{'])

lemma no_lineFeed (line : Line) : '\n' ∉ line.text := by
  cases line with
  | statement s => exact s.no_lineFeed
  | opening head => simp [text, head.no_lineFeed]
  | closing => simp [text]
  | reopening head => simp [text, head.no_lineFeed]

lemma no_quote (line : Line) : ∀ c ∈ line.text, Literal.isQuote c = false := by
  have hopening : ∀ head : Plain, ∀ c ∈ head.text ++ ['{'], Literal.isQuote c = false :=
    fun head => head.no_quote_append (by decide)
  cases line with
  | statement s => exact s.no_quote
  | opening head => exact hopening head
  | closing => simp [text, Literal.isQuote]
  | reopening head => exact List.forall_mem_cons.2 ⟨by decide, hopening head⟩

end Line

mutual
/-- A sequence of statements and blocks. -/
inductive Outline where
  | done
  | statement (statement : Statement) (next : Outline)
  | block (head : Plain) (body : Outline) (close : Close)
/-- What follows the body of a block, from its closing brace on. -/
inductive Close where
  | last (next : Outline)
  | further (head : Plain) (body : Outline) (close : Close)
end

mutual
def Outline.lines : Outline → List Line
  | .done => []
  | .statement s next => .statement s :: next.lines
  | .block head body close => .opening head :: (body.lines ++ close.lines)
def Close.lines : Close → List Line
  | .last next => .closing :: next.lines
  | .further head body close => .reopening head :: (body.lines ++ close.lines)
end

mutual
/-- The greatest number of blocks that are open at once. -/
def Outline.height : Outline → Nat
  | .done => 0
  | .statement _ next => next.height
  | .block _ body close => max (body.height + 1) close.height
/-- The same for what follows a body, the block of that body not counted. -/
def Close.height : Close → Nat
  | .last next => next.height
  | .further _ body close => max (body.height + 1) close.height
end

/-- White space at an end of a line. -/
structure Margin where
  text : List Char
  allBlank : AllBlank text
  no_lineFeed : '\n' ∉ text

/-- The white space at both ends of every line. -/
structure Margins where
  left : Nat → Margin
  right : Nat → Margin

def Margins.around (margins : Margins) (i : Nat) (line : Line) : List Char :=
  (margins.left i).text ++ line.text ++ (margins.right i).text

def Outline.rendered (margins : Margins) (outline : Outline) : List (List Char) :=
  outline.lines.mapIdx margins.around

/-- The text of an outline. -/
def render (margins : Margins) (outline : Outline) : List Char :=
  ['\n'].intercalate (outline.rendered margins)

example :
    let indent : Margin := ⟨"  ".toList, by decide, by decide⟩
    let flush : Margin := ⟨[], by decide, by decide⟩
    let test : Plain := .ofString "if (x) " (by decide)
    let otherwise : Plain := .ofString " else " (by decide)
    let call : Statement := ⟨.ofString "f();" (by decide), by decide⟩
    render ⟨fun i => if i = 1 then indent else flush, fun _ => flush⟩
        (.block test (.statement call .done) (.further otherwise .done (.last .done))) =
      "if (x) \x7b\n  f();\n\x7d else \x7b\n\x7d".toList := by decide

section Lines
variable {depth peak : Nat}

lemma afterLine_statement (h : depth ≤ peak) (s : Statement) :
    Nesting.afterLine ⟨depth, peak⟩ s.text = ⟨depth, peak⟩ := by
  refine Nesting.afterLine_of_settle h ?_ ?_ ?_
  · simp only [Nesting.settle, s.braceFree.count_open, s.braceFree.count_close, Nesting.mk.injEq]
    omega
  · simp [s.no_header]
  · rw [inlinePeak_of_braceFree s.braceFree]
    exact Nat.le_max_left _ _

lemma afterLine_opening (h : depth ≤ peak) (head : Plain) :
    Nesting.afterLine ⟨depth, peak⟩ (head.text ++ ['{']) = ⟨depth + 1, max peak (depth + 1)⟩ := by
  refine Nesting.afterLine_of_settle h ?_ ?_ ?_
  · simp [Nesting.settle, head.braceFree.count_open, head.braceFree.count_close]
  · simp
  · rw [inlinePeak_braceFree_append head.braceFree, inlinePeak_open, inlinePeak]

lemma afterLine_closing (h : depth + 1 ≤ peak) :
    Nesting.afterLine ⟨depth + 1, peak⟩ ['}'] = ⟨depth, peak⟩ := by
  have hheader : hasHeader ['}'] = false := by decide
  have hopen : ['}'].count '{' = 0 := by decide
  have hclose : ['}'].count '}' = 1 := by decide
  refine Nesting.afterLine_of_settle h ?_ ?_ ?_
  · simp only [Nesting.settle, hopen, hclose, Nesting.mk.injEq]
    omega
  · simp [hheader]
  · rw [inlinePeak_close, inlinePeak]
    omega

/-- A block that is closed and one that is opened instead. -/
lemma afterLine_reopening (h : depth + 1 ≤ peak) (head : Plain) :
    Nesting.afterLine ⟨depth + 1, peak⟩ ('}' :: (head.text ++ ['{'])) = ⟨depth + 1, peak⟩ := by
  refine Nesting.afterLine_of_settle h ?_ ?_ ?_
  · simp [Nesting.settle, head.braceFree.count_open, head.braceFree.count_close, h]
  · simp
  · -- in order, the braces lead out of one block and into the next, never deeper than before
    rw [inlinePeak_close, inlinePeak_braceFree_append head.braceFree, inlinePeak_open, inlinePeak]
    dsimp only
    omega

end Lines

mutual
/-- An outline leaves the depth as it is and has been as deep as its height. -/
theorem Outline.afterLines_lines {depth peak : Nat} (h : depth ≤ peak) (outline : Outline) :
    Nesting.afterLines ⟨depth, peak⟩ (outline.lines.map Line.text) =
      ⟨depth, max peak (depth + outline.height)⟩ := by
  match outline with
  | .done =>
    rw [Outline.lines, Outline.height, Nat.add_zero, Nat.max_eq_left h]
    rfl
  | .statement s next =>
    rw [Outline.lines, Outline.height, List.map_cons, Nesting.afterLines_cons, Line.text,
      afterLine_statement h, next.afterLines_lines h]
  | .block head body close =>
    rw [Outline.lines, Outline.height, List.map_cons, Nesting.afterLines_cons, Line.text,
      afterLine_opening h, List.map_append, Nesting.afterLines_append,
      body.afterLines_lines (Nat.le_max_right _ _), close.afterLines_lines (by omega),
      Nesting.mk.injEq]
    omega
/-- Within a block, what follows its body closes it. -/
theorem Close.afterLines_lines {depth peak : Nat} (h : depth + 1 ≤ peak) (close : Close) :
    Nesting.afterLines ⟨depth + 1, peak⟩ (close.lines.map Line.text) =
      ⟨depth, max peak (depth + close.height)⟩ := by
  match close with
  | .last next =>
    rw [Close.lines, Close.height, List.map_cons, Nesting.afterLines_cons, Line.text,
      afterLine_closing h, next.afterLines_lines (by omega)]
  | .further head body close =>
    rw [Close.lines, Close.height, List.map_cons, Nesting.afterLines_cons, Line.text,
      afterLine_reopening h, List.map_append, Nesting.afterLines_append,
      body.afterLines_lines h, close.afterLines_lines (by omega), Nesting.mk.injEq]
    omega
end

/-- White space around a line has no effect. -/
lemma afterLine_around (margins : Margins) (i : Nat) (line : Line) (nesting : Nesting) :
    nesting.afterLine (margins.around i line) = nesting.afterLine line.text :=
  Nesting.afterLine_relaid
    (relaid_append (margins.left i).allBlank (margins.right i).allBlank line.text) nesting

lemma afterLines_mapIdx {around : Nat → Line → List Char}
    (haround : ∀ i line (nesting : Nesting),
      nesting.afterLine (around i line) = nesting.afterLine line.text)
    (nesting : Nesting) (ls : List Line) :
    nesting.afterLines (ls.mapIdx around) = nesting.afterLines (ls.map Line.text) := by
  induction ls generalizing around nesting with
  | nil => rfl
  | cons line ls ih =>
    rw [List.mapIdx_cons, List.map_cons, Nesting.afterLines_cons, Nesting.afterLines_cons, haround,
      ih fun i => haround (i + 1)]

lemma no_quote_intercalate {ls : List (List Char)}
    (h : ∀ line ∈ ls, ∀ c ∈ line, Literal.isQuote c = false) :
    ∀ c ∈ ['\n'].intercalate ls, Literal.isQuote c = false := by
  intro c hc
  by_contra hquote
  refine Printed.notMem_intercalate ?_ (fun line hline hmem => hquote (h line hline c hmem)) hc
  rintro hfeed
  obtain rfl := List.mem_singleton.1 hfeed
  exact hquote (by decide)

section Rendered
variable (margins : Margins) (outline : Outline)

lemma no_lineFeed_of_mem_rendered : ∀ line ∈ outline.rendered margins, '\n' ∉ line := by
  intro line hline
  obtain ⟨i, hi, rfl⟩ := List.mem_mapIdx.1 hline
  simp [Margins.around, (margins.left i).no_lineFeed, (margins.right i).no_lineFeed,
    Line.no_lineFeed]

lemma no_quote_render : ∀ c ∈ render margins outline, Literal.isQuote c = false := by
  have hmargin : ∀ margin : Margin, ∀ c ∈ margin.text, Literal.isQuote c = false :=
    fun margin c hc => Literal.isQuote_of_isBlank (margin.allBlank c hc)
  refine no_quote_intercalate fun line hline c hc => ?_
  obtain ⟨i, hi, rfl⟩ := List.mem_mapIdx.1 hline
  rw [Margins.around, List.mem_append, List.mem_append] at hc
  rcases hc with (hleft | hline) | hright
  · exact hmargin _ c hleft
  · exact Line.no_quote _ c hline
  · exact hmargin _ c hright

/-- The lines of the text are those of the outline, but that a text has at least one line. -/
lemma lines_render : lines (render margins outline) =
    if outline.rendered margins = [] then [[]] else outline.rendered margins := by
  rw [render, lines]
  split
  · next hnil => rw [hnil]; rfl
  · next hne => exact List.splitOn_intercalate _ (no_lineFeed_of_mem_rendered margins outline) hne

end Rendered

/-- The nesting depth of an outline is its height, however it is indented. -/
theorem nestDepth_render (margins : Margins) (outline : Outline) :
    nestDepth (render margins outline) = outline.height := by
  have hzero : (0 : Nat) ≤ 0 := Nat.le_refl 0
  have hlines : Nesting.afterLines ⟨0, 0⟩ (lines (render margins outline)) =
      Nesting.afterLines ⟨0, 0⟩ (outline.rendered margins) := by
    rw [lines_render]
    split
    · next hnil =>
      rw [hnil]
      exact Nesting.afterLine_nil hzero
    · rfl
  rw [nestDepth, Literal.mask_of_no_quotes (no_quote_render margins outline), hlines,
    Outline.rendered, afterLines_mapIdx (afterLine_around margins), outline.afterLines_lines hzero,
    Nat.zero_add]
  exact Nat.zero_max _

end CodeGrowth.Outlines
