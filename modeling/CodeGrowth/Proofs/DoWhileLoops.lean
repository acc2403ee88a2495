import CodeGrowth.Proofs.OpenLevels

/-!
# The nesting depth of a do-while

The last line of a do-while has the header of a while loop on it and no opening brace, so it counts
as one that opens a level, and nothing closes this level. Up to there a do-while nests like the
while loop with its condition and its body. Its last line is one level deeper than the body is at
its end, and everything behind it starts one level deeper. Whatever follows, the greatest depth is
that of the while loop or one more.
-/
namespace CodeGrowth.Loop
open Text

namespace Nesting

/-- The same place, where some depth was reached before. -/
def atLeast (nesting : Nesting) (peak : Nat) : Nesting := ⟨nesting.depth, max peak nesting.peak⟩

lemma afterLine_atLeast (nesting : Nesting) (peak : Nat) (line : List Char) :
    (nesting.atLeast peak).afterLine line = (nesting.afterLine line).atLeast peak := by
  simp only [afterLine, enter, atLeast]
  split
  · split
    · simp only [settle, Nat.max_assoc]
    · simp only [settle, Nat.max_assoc]
  · simp only [settle, Nat.max_assoc]

/-- What was reached before has no effect on what comes. -/
lemma afterLines_atLeast (nesting : Nesting) (peak : Nat) (ls : List (List Char)) :
    (nesting.atLeast peak).afterLines ls = (nesting.afterLines ls).atLeast peak := by
  induction ls generalizing nesting with
  | nil => rfl
  | cons line ls ih => rw [afterLines_cons, afterLines_cons, afterLine_atLeast, ih]

/-- The greatest depth in a text that starts at some depth. -/
def peakFrom (depth : Nat) (text : List Char) : Nat :=
  (Nesting.afterLines ⟨depth, 0⟩ (lines text)).peak

lemma peak_afterLines (nesting : Nesting) (text : List Char) :
    (nesting.afterLines (lines text)).peak = max nesting.peak (peakFrom nesting.depth text) := by
  have hstart : nesting = atLeast ⟨nesting.depth, 0⟩ nesting.peak := by
    rw [atLeast, Nat.max_zero]
  rw [hstart, afterLines_atLeast]
  simp only [atLeast, peakFrom, Nat.max_zero]

/-- The second place is at least as deep as the first and deeper by at most `k` levels, and so is
its greatest depth. -/
structure Within (k : Nat) (nesting deeper : Nesting) : Prop where
  depth_le : nesting.depth ≤ deeper.depth
  depth_le_add : deeper.depth ≤ nesting.depth + k
  peak_le : nesting.peak ≤ deeper.peak
  peak_le_add : deeper.peak ≤ nesting.peak + k

section Within
variable {k : Nat} {nesting deeper : Nesting}

lemma Within.enter (h : Within k nesting deeper) (line : List Char) :
    Within k (nesting.enter line) (deeper.enter line) := by
  obtain ⟨hdepth, hdepthAdd, hpeak, hpeakAdd⟩ := h
  rw [Nesting.enter, Nesting.enter]
  split
  · split
    · have hmono := inlinePeak_mono hdepth line
      have hadd := (inlinePeak_mono hdepthAdd line).trans (inlinePeak_add_le nesting.depth k line)
      constructor <;> dsimp only <;> omega
    · constructor <;> dsimp only <;> omega
  · exact ⟨hdepth, hdepthAdd, hpeak, hpeakAdd⟩

lemma Within.settle (h : Within k nesting deeper) (line : List Char) :
    Within k (nesting.settle line) (deeper.settle line) := by
  obtain ⟨hdepth, hdepthAdd, hpeak, hpeakAdd⟩ := h
  constructor <;> simp only [Nesting.settle] <;> omega

/-- Places that are close stay close on any lines, also where the depth is cut off at zero. -/
theorem Within.afterLines (h : Within k nesting deeper) (ls : List (List Char)) :
    Within k (nesting.afterLines ls) (deeper.afterLines ls) := by
  induction ls generalizing nesting deeper with
  | nil => exact h
  | cons line ls ih => exact ih ((h.enter line).settle line)

end Within

/-- Where the nesting stands after a text without literals. -/
def after (text : List Char) : Nesting := Nesting.afterLines ⟨0, 0⟩ (lines text)

lemma depth_le_peak_after (text : List Char) : (after text).depth ≤ (after text).peak :=
  depth_le_peak_afterLines (Nat.le_refl 0) (lines text)

lemma after_append_lineFeed (text rest : List Char) :
    after (text ++ '\n' :: rest) = (after text).afterLines (lines rest) := by
  rw [after, lines_append_lineFeed, afterLines_append, after]

/-- Where no brace closes more than is open and all braces are closed, what is left open are the
levels opened without a brace. -/
lemma depth_after_of_balanced {text : List Char} (h : Covered 0 text)
    (hbalanced : text.count '{' = text.count '}') : (after text).depth = openLevels text := by
  have hdepth : (after text).depth + text.count '}' = 0 + openLevels text + text.count '{' :=
    depth_afterLines ⟨0, 0⟩ h
  omega

end Nesting

section Depths
variable {text rest : List Char}

lemma nestDepth_eq_peak_after (h : ∀ c ∈ text, Literal.isQuote c = false) :
    nestDepth text = (Nesting.after text).peak := by
  rw [nestDepth, Literal.mask_of_no_quotes h, Nesting.after]

lemma no_quote_append_lineFeed (h : ∀ c ∈ text, Literal.isQuote c = false)
    (hrest : ∀ c ∈ rest, Literal.isQuote c = false) :
    ∀ c ∈ text ++ '\n' :: rest, Literal.isQuote c = false :=
  List.forall_mem_append.2 ⟨h, List.forall_mem_cons.2 ⟨by decide, hrest⟩⟩

/-- More lines start where the text before them ends. -/
lemma nestDepth_append_lineFeed (h : ∀ c ∈ text, Literal.isQuote c = false)
    (hrest : ∀ c ∈ rest, Literal.isQuote c = false) :
    nestDepth (text ++ '\n' :: rest) =
      max (nestDepth text) (Nesting.peakFrom (Nesting.after text).depth rest) := by
  rw [nestDepth_eq_peak_after (no_quote_append_lineFeed h hrest), nestDepth_eq_peak_after h,
    Nesting.after_append_lineFeed, Nesting.peak_afterLines]

end Depths

end CodeGrowth.Loop

namespace CodeGrowth.Outlines
open Text Loop

/-- Two parts of a line. -/
def Plain.append (first second : Plain) : Plain where
  text := first.text ++ second.text
  no_lineFeed := by simp [first.no_lineFeed, second.no_lineFeed]
  no_quote := List.forall_mem_append.2 ⟨first.no_quote, second.no_quote⟩
  braceFree := by
    have hfirst := first.braceFree
    have hsecond := second.braceFree
    simp [BraceFree, hfirst.1, hfirst.2, hsecond.1, hsecond.2]

/-- The opening line of a do-while, but for its brace. -/
def doWord : Plain := .ofString "do " (by decide)

/-- The opening line of a while loop, but for its brace. -/
def whileWord (condition : Plain) : Plain :=
  .append (.ofString "while (" (by decide)) (condition.append (.ofString ")" (by decide)))

/-- The last line of a do-while, but for its brace. -/
def closingWord (condition : Plain) : Plain :=
  .append (.ofString " while (" (by decide)) (condition.append (.ofString ");" (by decide)))

/-- The while loop with this condition and this body. -/
def whileLoop (condition : Plain) (body : List Char) : List Char := wrap (whileWord condition) body

/-- The do-while with this condition and this body. -/
def doWhile (condition : Plain) (body : List Char) : List Char :=
  "do \x7b\n".toList ++ (body ++ '\n' :: '}' :: (closingWord condition).text)

example : doWhile (.ofString "x > 0" (by decide)) "  x--;".toList =
    "do \x7b\n  x--;\n\x7d while (x > 0);".toList := by decide

/-- A line that closes a block and has a loop header opens a level before it closes the one that is
open. -/
lemma afterLine_headed_closing {word : Plain} (h : hasHeader ('}' :: word.text) = true)
    (depth peak : Nat) :
    Nesting.afterLine ⟨depth + 1, peak⟩ ('}' :: word.text) = ⟨depth + 1, max peak (depth + 2)⟩ := by
  have hcontains : ('}' :: word.text).contains '{' = false := by simp [word.braceFree.1]
  have hopen : ('}' :: word.text).count '{' = 0 := by simp [word.braceFree.count_open]
  have hclose : ('}' :: word.text).count '}' = 1 := by simp [word.braceFree.count_close]
  rw [Nesting.afterLine, Nesting.enter, if_pos h, hcontains, if_neg Bool.false_ne_true,
    Nesting.settle, hopen, hclose]
  simp only [Nesting.mk.injEq]
  omega

section Lines
variable (condition : Plain) {body : List Char}

lemma lines_doWhile (body : List Char) : lines (doWhile condition body) =
    (doWord.text ++ ['{']) :: (lines body ++ ['}' :: (closingWord condition).text]) := by
  have hfirst : '\n' ∉ doWord.text ++ ['{'] := by decide
  have hlast : '\n' ∉ '}' :: (closingWord condition).text :=
    List.not_mem_cons_of_ne_of_not_mem (by decide) (closingWord condition).no_lineFeed
  exact lines_between hfirst hlast body

lemma no_quote_doWhile (h : ∀ c ∈ body, Literal.isQuote c = false) :
    ∀ c ∈ doWhile condition body, Literal.isQuote c = false := by
  have hopening : ∀ c ∈ "do \x7b\n".toList, Literal.isQuote c = false :=
    forall_eq_false_of_all (by decide)
  have hclosing : ∀ c ∈ '}' :: (closingWord condition).text, Literal.isQuote c = false :=
    List.forall_mem_cons.2 ⟨by decide, (closingWord condition).no_quote⟩
  exact List.forall_mem_append.2 ⟨hopening, no_quote_append_lineFeed h hclosing⟩

/-- The condition at the end of a do-while has the header of a while loop. -/
lemma hasHeader_closing : hasHeader ('}' :: (closingWord condition).text) = true :=
  hasHeader_iff.2 ⟨whileHead, List.mem_cons_of_mem _ List.mem_cons_self, ['}', ' '], [' '],
    condition.text ++ ");".toList, by decide, by decide, rfl⟩

end Lines

section Runs
variable (condition : Plain) {body : List Char}

/-- Within the braces of a loop the body is one level deeper. -/
lemma afterLines_body (h : Covered 0 body) (head : Plain) :
    (Nesting.afterLine ⟨0, 0⟩ (head.text ++ ['{'])).afterLines (lines body) =
      (Nesting.after body).raise 1 := by
  rw [afterLine_opening (Nat.le_refl 0)]
  exact Nesting.afterLines_raise ⟨0, 0⟩ h 1

lemma after_whileLoop (h : Covered 0 body) : Nesting.after (whileLoop condition body) =
    ⟨(Nesting.after body).depth, (Nesting.after body).peak + 1⟩ := by
  have hpeak := Nat.succ_le_succ (Nesting.depth_le_peak_after body)
  rw [Nesting.after, whileLoop, lines_wrap, Nesting.afterLines_cons, Nesting.afterLines_append,
    afterLines_body h, Nesting.raise, Nesting.afterLines_cons, afterLine_closing hpeak]
  rfl

lemma after_doWhile (h : Covered 0 body) : Nesting.after (doWhile condition body) =
    ⟨(Nesting.after body).depth + 1,
      max ((Nesting.after body).peak + 1) ((Nesting.after body).depth + 2)⟩ := by
  rw [Nesting.after, lines_doWhile, Nesting.afterLines_cons, Nesting.afterLines_append,
    afterLines_body h, Nesting.raise, Nesting.afterLines_cons,
    afterLine_headed_closing (hasHeader_closing condition)]
  rfl

/-- After the do-while the depth is one level more than after the while loop, and the greatest depth
is no more than that. -/
lemma within_whileLoop_doWhile (h : Covered 0 body) :
    Nesting.Within 1 (Nesting.after (whileLoop condition body))
      (Nesting.after (doWhile condition body)) := by
  have hpeak := Nesting.depth_le_peak_after body
  rw [after_whileLoop condition h, after_doWhile condition h]
  constructor <;> dsimp only <;> omega

end Runs

/-- A do-while is as deep as the while loop with its condition and its body, or as its last line,
which is two levels deeper than what its body leaves open. What follows it starts one level deeper
than it does after the while loop, so both texts together are as deep or differ by one level. -/
theorem nestDepth_doWhile (condition : Plain) {body : List Char}
    (hquote : ∀ c ∈ body, Literal.isQuote c = false) (hcovered : Covered 0 body)
    (hbalanced : body.count '{' = body.count '}') :
    nestDepth (doWhile condition body) =
        max (nestDepth (whileLoop condition body)) (openLevels body + 2) ∧
      (nestDepth (doWhile condition body) = nestDepth (whileLoop condition body) ↔
        openLevels body < nestDepth body) ∧
      ∀ rest, (∀ c ∈ rest, Literal.isQuote c = false) →
        nestDepth (doWhile condition body ++ '\n' :: rest) =
            max (nestDepth (doWhile condition body))
              (Nesting.peakFrom (openLevels body + 1) rest) ∧
          nestDepth (whileLoop condition body ++ '\n' :: rest) =
            max (nestDepth (whileLoop condition body)) (Nesting.peakFrom (openLevels body) rest) ∧
          nestDepth (whileLoop condition body ++ '\n' :: rest) ≤
            nestDepth (doWhile condition body ++ '\n' :: rest) ∧
          nestDepth (doWhile condition body ++ '\n' :: rest) ≤
            nestDepth (whileLoop condition body ++ '\n' :: rest) + 1 := by
  have hwhileQuote : ∀ c ∈ whileLoop condition body, Literal.isQuote c = false :=
    no_quote_wrap (whileWord condition) hquote
  have hdoQuote := no_quote_doWhile condition hquote
  have hopen := Nesting.depth_after_of_balanced hcovered hbalanced
  have hbody := nestDepth_eq_peak_after hquote
  have hwhile : nestDepth (whileLoop condition body) = nestDepth body + 1 := by
    rw [nestDepth_eq_peak_after hwhileQuote, after_whileLoop condition hcovered, hbody]
  have hdo : nestDepth (doWhile condition body) =
      max (nestDepth (whileLoop condition body)) (openLevels body + 2) := by
    rw [nestDepth_eq_peak_after hdoQuote, after_doWhile condition hcovered, hwhile, hbody, hopen]
  refine ⟨hdo, by omega, fun rest hrest => ⟨?_, ?_, ?_⟩⟩
  · rw [nestDepth_append_lineFeed hdoQuote hrest, after_doWhile condition hcovered, hopen]
  · rw [nestDepth_append_lineFeed hwhileQuote hrest, after_whileLoop condition hcovered, hopen]
  · have hwithin := (within_whileLoop_doWhile condition hcovered).afterLines (lines rest)
    rw [nestDepth_eq_peak_after (no_quote_append_lineFeed hwhileQuote hrest),
      nestDepth_eq_peak_after (no_quote_append_lineFeed hdoQuote hrest),
      Nesting.after_append_lineFeed, Nesting.after_append_lineFeed]
    exact ⟨hwithin.peak_le, hwithin.peak_le_add⟩

/-- A condition, and a body with a block and a loop without braces. -/
def scan : Plain × List Char :=
  (.ofString "x[i] > 0" (by decide),
    "  if (y) \x7b f(); \x7d\n  for (;;)\n    g(i++);".toList)

theorem nestDepth_doWhile_scan :
    (∀ c ∈ scan.2, Literal.isQuote c = false) ∧ Covered 0 scan.2 ∧
      scan.2.count '{' = scan.2.count '}' ∧
      nestDepth (doWhile scan.1 scan.2) =
        max (nestDepth (whileLoop scan.1 scan.2)) (openLevels scan.2 + 2) ∧
      nestDepth (doWhile scan.1 scan.2 ++ '\n' :: "while (z)\n  h();".toList) ≤
        nestDepth (whileLoop scan.1 scan.2 ++ '\n' :: "while (z)\n  h();".toList) + 1 :=
  have hquote : ∀ c ∈ scan.2, Literal.isQuote c = false := forall_eq_false_of_all (by decide)
  have hcovered : Covered 0 scan.2 := by decide +kernel
  have hbalanced : scan.2.count '{' = scan.2.count '}' := by decide
  have hrest : ∀ c ∈ "while (z)\n  h();".toList, Literal.isQuote c = false :=
    forall_eq_false_of_all (by decide)
  have hlaw := nestDepth_doWhile scan.1 hquote hcovered hbalanced
  ⟨hquote, hcovered, hbalanced, hlaw.1, (hlaw.2.2 _ hrest).2.2.2⟩

/-- A do-while over one statement is deeper than the while loop. -/
theorem nestDepth_doWhile_ne :
    ¬ ∀ (condition : Plain) (body : List Char), (∀ c ∈ body, Literal.isQuote c = false) →
      Covered 0 body → body.count '{' = body.count '}' →
      nestDepth (doWhile condition body) = nestDepth (whileLoop condition body) := by
  intro h
  have heq := h (.ofString "x > 0" (by decide))
    "  x--;".toList (forall_eq_false_of_all (by decide)) (by decide) (by decide)
  revert heq
  decide +kernel

end CodeGrowth.Outlines
