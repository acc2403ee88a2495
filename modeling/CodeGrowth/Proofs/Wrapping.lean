import CodeGrowth.Proofs.Outlines
import Mathlib.Data.List.Infix

/-!
# The nesting depth of a wrapped text

Where every closing brace closes a block that is open, the depth is never cut off at zero. Then all
that happens to the depth is additive: from a state that is deeper by some levels, any lines lead to
states that are deeper by as many, whether they hold loop headers with and without braces, several
blocks on one line, or blocks that stay open. So a text in a block of its own is deeper by one level
than it is alone.
-/
namespace CodeGrowth.Loop
open Text

/-- From this depth on, no brace closes more than is open. -/
def Covered (depth : Nat) (cs : List Char) : Prop :=
  ∀ pre, pre <+: cs → pre.count '}' ≤ depth + pre.count '{'

instance (depth : Nat) (cs : List Char) : Decidable (Covered depth cs) :=
  decidable_of_iff (∀ pre ∈ cs.inits, pre.count '}' ≤ depth + pre.count '{')
    (forall_congr' fun _ => imp_congr_left (List.mem_inits _ _))

section Covered
variable {depth depth' : Nat} {c : Char} {cs ds : List Char}

lemma Covered.count_le (h : Covered depth cs) : cs.count '}' ≤ depth + cs.count '{' :=
  h cs List.prefix_rfl

lemma Covered.mono (h : Covered depth cs) (hle : depth ≤ depth') : Covered depth' cs := by
  intro pre hpre
  have hcount := h pre hpre
  omega

lemma Covered.left (h : Covered depth (cs ++ ds)) : Covered depth cs :=
  fun pre hpre => h pre (hpre.trans (List.prefix_append cs ds))

lemma Covered.right (h : Covered depth (cs ++ ds)) :
    Covered (depth + cs.count '{' - cs.count '}') ds := by
  intro pre hpre
  have hcount := h (cs ++ pre) ((List.prefix_append_right_inj cs).2 hpre)
  rw [List.count_append, List.count_append] at hcount
  omega

lemma Covered.of_open (h : Covered depth ('{' :: cs)) : Covered (depth + 1) cs :=
  have hsplit : Covered depth (['{'] ++ cs) := h
  hsplit.right

lemma Covered.of_close (h : Covered depth ('}' :: cs)) : 1 ≤ depth ∧ Covered (depth - 1) cs :=
  have hsplit : Covered depth (['}'] ++ cs) := h
  ⟨hsplit.left.count_le, hsplit.right⟩

lemma Covered.of_cons (h : Covered depth (c :: cs)) (hopen : c ≠ '{') (hclose : c ≠ '}') :
    Covered depth cs := by
  intro pre hpre
  have hcount := h (c :: pre) (List.cons_prefix_cons.2 ⟨rfl, hpre⟩)
  rwa [List.count_cons_of_ne hopen, List.count_cons_of_ne hclose] at hcount

lemma inlinePeak_add (h : Covered depth cs) (k : Nat) :
    inlinePeak (depth + k) cs = inlinePeak depth cs + k := by
  fun_induction inlinePeak depth cs with
  | case1 => rfl
  | case2 depth rest ih =>
    have hrest := ih h.of_open
    rw [inlinePeak_open, Nat.add_right_comm, hrest]
    omega
  | case3 depth rest ih =>
    obtain ⟨hdepth, hcovered⟩ := h.of_close
    rw [inlinePeak_close, Nat.sub_add_comm hdepth, ih hcovered]
    omega
  | case4 depth c rest hopen hclose ih =>
    rw [inlinePeak, ih (h.of_cons hopen hclose)]
    · exact hopen
    · exact hclose

end Covered

namespace Nesting
variable {nesting : Nesting} {line rest : List Char}

/-- The same place, some levels deeper. -/
def raise (nesting : Nesting) (k : Nat) : Nesting := ⟨nesting.depth + k, nesting.peak + k⟩

lemma enter_raise (h : Covered nesting.depth line) (k : Nat) :
    (nesting.raise k).enter line = (nesting.enter line).raise k := by
  rw [enter, enter]
  split
  · split
    · simp only [raise, inlinePeak_add h, Nat.add_max_add_right]
    · simp only [raise, Nat.add_right_comm _ k 1, Nat.add_max_add_right]
  · rfl

lemma settle_raise (h : line.count '}' ≤ nesting.depth + line.count '{') (k : Nat) :
    (nesting.raise k).settle line = (nesting.settle line).raise k := by
  have hdepth : nesting.depth + k + line.count '{' - line.count '}' =
      nesting.depth + line.count '{' - line.count '}' + k := by omega
  simp only [settle, raise, hdepth, Nat.add_max_add_right]

/-- A loop header opens a level or none. -/
lemma depth_le_enter (nesting : Nesting) (line : List Char) :
    nesting.depth ≤ (nesting.enter line).depth := by
  rw [enter]
  split
  · split
    · exact Nat.le_refl _
    · exact Nat.le_succ _
  · exact Nat.le_refl _

lemma afterLine_raise (h : Covered nesting.depth line) (k : Nat) :
    (nesting.raise k).afterLine line = (nesting.afterLine line).raise k := by
  rw [afterLine, afterLine, enter_raise h, settle_raise]
  exact (h.mono (nesting.depth_le_enter line)).count_le

lemma covered_afterLine (h : Covered nesting.depth (line ++ '\n' :: rest)) :
    Covered (nesting.afterLine line).depth rest := by
  have hrest : Covered (nesting.enter line).depth (line ++ '\n' :: rest) :=
    h.mono (nesting.depth_le_enter line)
  exact hrest.right.of_cons (by decide) (by decide)

/-- From a deeper place, lines lead to deeper places by as many levels. -/
theorem afterLines_raise (nesting : Nesting) {text : List Char} (h : Covered nesting.depth text)
    (k : Nat) :
    (nesting.raise k).afterLines (lines text) = (nesting.afterLines (lines text)).raise k := by
  induction text using line_induction generalizing nesting with
  | last cs hcs =>
    rw [lines_of_notMem hcs]
    exact afterLine_raise h k
  | line cs ds hcs ih =>
    rw [lines_line_append hcs, afterLines_cons, afterLines_cons, afterLine_raise h.left,
      ih _ (covered_afterLine h)]

lemma depth_le_peak_afterLines (h : nesting.depth ≤ nesting.peak) (ls : List (List Char)) :
    (nesting.afterLines ls).depth ≤ (nesting.afterLines ls).peak := by
  induction ls generalizing nesting with
  | nil => exact h
  | cons line ls ih => exact ih (nesting.depth_le_peak_afterLine line)

end Nesting

end CodeGrowth.Loop

namespace CodeGrowth.Outlines
open Text Loop

/-- The head with a space behind it. -/
def Plain.spaced (head : Plain) : Plain where
  text := head.text ++ [' ']
  no_lineFeed := by simp [head.no_lineFeed]
  no_quote := head.no_quote_append (by decide)
  braceFree := by
    have hfree := head.braceFree
    simp [BraceFree, hfree.1, hfree.2]

/-- A text in a block of its own, from its head line to its closing brace. -/
def wrap (head : Plain) (body : List Char) : List Char :=
  head.text ++ (" \x7b\n".toList ++ (body ++ "\n\x7d".toList))

lemma lines_wrap (head : Plain) (body : List Char) :
    lines (wrap head body) = (head.spaced.text ++ ['{']) :: (lines body ++ [['}']]) := by
  have hfirst : '\n' ∉ head.spaced.text ++ ['{'] := by simp [head.spaced.no_lineFeed]
  have hsplit : wrap head body =
      (head.spaced.text ++ ['{']) ++ '\n' :: (body ++ '\n' :: ['}']) := by
    simp [wrap, Plain.spaced]
  have hlast : '\n' ∉ ['}'] := by decide
  rw [hsplit, lines_between hfirst hlast]

lemma no_quote_wrap (head : Plain) {body : List Char}
    (h : ∀ c ∈ body, Literal.isQuote c = false) :
    ∀ c ∈ wrap head body, Literal.isQuote c = false := by
  have hopen : ∀ c ∈ " \x7b\n".toList, Literal.isQuote c = false :=
    forall_eq_false_of_all (by decide)
  have hclose : ∀ c ∈ "\n\x7d".toList, Literal.isQuote c = false :=
    forall_eq_false_of_all (by decide)
  simp only [wrap, List.forall_mem_append]
  exact ⟨head.no_quote, hopen, h, hclose⟩

/-- A text in a block of its own is deeper by exactly one level, if it closes no block that it does
not open. -/
theorem nestDepth_wrap (head : Plain) {body : List Char}
    (hquote : ∀ c ∈ body, Literal.isQuote c = false) (hcovered : Covered 0 body) :
    nestDepth (wrap head body) = 1 + nestDepth body := by
  have hraise : Nesting.afterLines ⟨0 + 1, 0 + 1⟩ (lines body) =
      (Nesting.afterLines ⟨0, 0⟩ (lines body)).raise 1 := Nesting.afterLines_raise ⟨0, 0⟩ hcovered 1
  have hpeak : (Nesting.afterLines ⟨0, 0⟩ (lines body)).depth ≤
      (Nesting.afterLines ⟨0, 0⟩ (lines body)).peak :=
    Nesting.depth_le_peak_afterLines (Nat.le_refl 0) (lines body)
  have hopening : Nesting.afterLine ⟨0, 0⟩ (head.spaced.text ++ ['{']) = ⟨0 + 1, 0 + 1⟩ :=
    afterLine_opening (Nat.le_refl 0) head.spaced
  rw [nestDepth, nestDepth, Literal.mask_of_no_quotes hquote,
    Literal.mask_of_no_quotes (no_quote_wrap head hquote), lines_wrap, Nesting.afterLines_cons,
    hopening, Nesting.afterLines_append, hraise, Nesting.raise, Nesting.afterLines_cons,
    afterLine_closing (Nat.succ_le_succ hpeak), Nat.add_comm 1]
  rfl

/-- A braceless loop header, two blocks on one line and a block that stays open. -/
def openEnded : List Char :=
  "for (;;)\n  if (a) \x7b f(); \x7d else \x7b while (b) \x7b \x7d \x7d\ndo \x7b".toList

theorem nestDepth_wrap_openEnded :
    let head : Plain :=
      ⟨"while (n)".toList, by decide, forall_eq_false_of_all (by decide), by decide⟩
    (∀ c ∈ openEnded, Literal.isQuote c = false) ∧ Covered 0 openEnded ∧
      nestDepth (wrap head openEnded) = 1 + nestDepth openEnded :=
  have hquote : ∀ c ∈ openEnded, Literal.isQuote c = false := forall_eq_false_of_all (by decide)
  have hcovered : Covered 0 openEnded := by decide +kernel
  ⟨hquote, hcovered, nestDepth_wrap _ hquote hcovered⟩

end CodeGrowth.Outlines
