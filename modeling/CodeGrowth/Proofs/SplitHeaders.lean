import CodeGrowth.Proofs.LooplessText
import CodeGrowth.Proofs.Nesting

/-!
# Loop headers that are split across lines

Loops are counted in the whole text, and the white space between a keyword and its bracket may hold
line feeds. The nesting depth is followed line by line, so that only a header that stands on one
line has an effect on it. Such a header makes the depth at least one, with a brace on its line or
without. Hence a text of depth zero shows loop headers only where a line feed comes between the
keyword and the bracket, and no loops at all if there are no such headers.
-/
namespace CodeGrowth.Text

namespace Header
variable {header : Header} {text before gap after : List Char}

/-- The header stands in the text between these two parts, with this gap before its bracket. -/
structure Stands (header : Header) (text before gap after : List Char) : Prop where
  startsWord : before.getLast?.any isWord = false
  allBlank : AllBlank gap
  text_eq : text = before ++ (header.keyword ++ (gap ++ header.bracket :: after))

theorem occursIn_phrase_iff : header.phrase.occursIn text = true ↔
    ∃ before gap after, header.Stands text before gap after := by
  rw [Phrase.occursIn_iff]
  constructor
  · rintro ⟨before, ahead, -, htext, hstands⟩
    obtain ⟨after, hafter⟩ := Option.isSome_iff_exists.1 hstands
    obtain ⟨hbefore, -⟩ := header.rest?_phrase_eq_some_iff.1 hafter
    obtain ⟨gap, hgap, rfl⟩ := header.exists_of_rest? hafter
    exact ⟨before, gap, after, hbefore, hgap, htext⟩
  · rintro ⟨before, gap, after, hbefore, hgap, htext⟩
    refine ⟨before, _, by simp, htext, Option.isSome_iff_exists.2 ⟨after, ?_⟩⟩
    exact header.rest?_phrase_eq_some_iff.2
      ⟨hbefore, _, rfl, skipBlanks_append_cons hgap header.isBlank_bracket after⟩

lemma no_lineFeed_keyword (header : Header) : '\n' ∉ header.keyword := by
  intro hmem
  exact absurd (header.isWord_keyword _ hmem) (by decide)

lemma bracket_ne_lineFeed (header : Header) : header.bracket ≠ '\n' := by
  intro heq
  have hblank := header.isBlank_bracket
  rw [heq] at hblank
  exact absurd hblank (by decide)

end Header

/-- A stretch without line feed lies on one line, between an end of what is before it and a start of
what is after it. -/
lemma exists_line_of_append {span : List Char} (hspan : '\n' ∉ span) (before after : List Char) :
    ∃ b a, b <:+ before ∧ a <+: after ∧ b ++ (span ++ a) ∈ lines (before ++ (span ++ after)) := by
  induction before using line_induction with
  | last before hbefore =>
    by_cases hafter : '\n' ∈ after
    · obtain ⟨a, rest, rfl, ha⟩ := List.eq_append_cons_of_mem hafter
      refine ⟨before, a, List.suffix_refl before, List.prefix_append a _, ?_⟩
      have hline : '\n' ∉ before ++ (span ++ a) := by simp [hbefore, hspan, ha]
      have hsplit : before ++ (span ++ (a ++ '\n' :: rest)) =
          (before ++ (span ++ a)) ++ '\n' :: rest := by simp
      rw [hsplit, lines_line_append hline]
      exact List.mem_cons_self
    · refine ⟨before, after, List.suffix_refl before, List.prefix_refl after, ?_⟩
      have hline : '\n' ∉ before ++ (span ++ after) := by simp [hbefore, hspan, hafter]
      rw [lines_of_notMem hline]
      exact List.mem_singleton_self _
  | line first rest hfirst ih =>
    obtain ⟨b, a, hb, ha, hmem⟩ := ih
    refine ⟨b, a, hb.trans ⟨first ++ ['\n'], by simp⟩, ha, ?_⟩
    rw [List.append_assoc, List.cons_append, lines_append_lineFeed]
    exact List.mem_append_right _ hmem

/-- No word runs into an end of a text that no word runs out of. -/
lemma getLast?_any_isWord_of_suffix {b before : List Char} (hb : b <:+ before)
    (hbefore : before.getLast?.any isWord = false) : b.getLast?.any isWord = false := by
  obtain ⟨first, rfl⟩ := hb
  rw [List.getLast?_append] at hbefore
  cases hlast : b.getLast? with
  | none => rfl
  | some c => rwa [hlast, Option.some_or] at hbefore

/-- A header without a line feed in its gap stands on a line. -/
lemma Header.Stands.exists_line {header : Header} {text before gap after : List Char}
    (h : header.Stands text before gap after) (hgap : '\n' ∉ gap) :
    ∃ line ∈ lines text, header.phrase.occursIn line = true := by
  have hspan : '\n' ∉ header.keyword ++ (gap ++ [header.bracket]) := by
    simp [header.no_lineFeed_keyword, hgap, header.bracket_ne_lineFeed.symm]
  obtain ⟨b, a, hb, -, hmem⟩ := exists_line_of_append hspan before after
  have htext : text = before ++ (header.keyword ++ (gap ++ [header.bracket]) ++ after) := by
    rw [h.text_eq]
    simp
  rw [← htext] at hmem
  refine ⟨_, hmem, Header.occursIn_phrase_iff.2 ⟨b, gap, a, ?_, h.allBlank, by simp⟩⟩
  exact getLast?_any_isWord_of_suffix hb h.startsWord

end CodeGrowth.Text

namespace CodeGrowth.Loop
open Text
variable {text cleaned : List Char}

/-- The headers of the three kinds of loops. -/
def loopHeads : List Header := [forHead, whileHead, doHead]

lemma hasHeader_iff_exists_occursIn :
    hasHeader text = true ↔ ∃ header ∈ loopHeads, header.phrase.occursIn text = true := by
  have hfor : forHead.phrase = forHeader := rfl
  have hwhile : whileHead.phrase = whileHeader := rfl
  have hdo : doHead.phrase = doHeader := rfl
  simp [loopHeads, hasHeader, hfor, hwhile, hdo, or_assoc]

lemma hasHeader_iff : hasHeader text = true ↔
    ∃ header ∈ loopHeads, ∃ before gap after, header.Stands text before gap after := by
  simp only [hasHeader_iff_exists_occursIn, Header.occursIn_phrase_iff]

/-- No loop header of the text has a line feed between its keyword and its bracket. -/
def Unsplit (text : List Char) : Prop :=
  ∀ header ∈ loopHeads, ∀ before gap after, header.Stands text before gap after → '\n' ∉ gap

/-- Depth zero leaves no line with a loop header. -/
lemma hasHeader_eq_false_of_nestDepth (h : nestDepth cleaned = 0) :
    ∀ line ∈ lines (Literal.mask cleaned), hasHeader line = false := by
  intro line hline
  by_contra hheader
  have hpeak : 1 ≤ nestDepth cleaned :=
    Nesting.one_le_peak_afterLines hline (by simpa using hheader) ⟨0, 0⟩
  omega

/-- Depth zero leaves no loop header on one line. -/
lemma lineFeed_mem_gap_of_nestDepth (h : nestDepth cleaned = 0) {header : Header}
    (hheader : header ∈ loopHeads) {before gap after : List Char}
    (hstands : header.Stands (Literal.mask cleaned) before gap after) : '\n' ∈ gap := by
  by_contra hgap
  obtain ⟨line, hline, hoccurs⟩ := hstands.exists_line hgap
  have hnone := hasHeader_eq_false_of_nestDepth h line hline
  rw [hasHeader_iff_exists_occursIn.2 ⟨header, hheader, hoccurs⟩] at hnone
  contradiction

lemma total_eq_zero_iff_forall : (count cleaned).total = 0 ↔
    ∀ header ∈ loopHeads, ∀ before gap after,
      ¬ header.Stands (Literal.mask cleaned) before gap after := by
  rw [total_eq_zero_iff, ← Bool.not_eq_true, hasHeader_iff]
  simp only [not_exists, not_and]

/-- Of a text whose depth is zero every loop header is split across lines. So the loop count is zero
where the depth is, unless there are such headers, and it is zero just where there are no headers
at all. -/
theorem split_of_nestDepth_eq_zero (cleaned : List Char) :
    (nestDepth cleaned = 0 → ∀ header ∈ loopHeads, ∀ before gap after,
        header.Stands (Literal.mask cleaned) before gap after → '\n' ∈ gap) ∧
      (Unsplit (Literal.mask cleaned) → nestDepth cleaned = 0 → (count cleaned).total = 0) ∧
      ((count cleaned).total = 0 ↔ ∀ header ∈ loopHeads, ∀ before gap after,
        ¬ header.Stands (Literal.mask cleaned) before gap after) := by
  refine ⟨fun hdepth header hheader before gap after hstands =>
    lineFeed_mem_gap_of_nestDepth hdepth hheader hstands, fun hunsplit hdepth => ?_,
    total_eq_zero_iff_forall⟩
  refine total_eq_zero_iff_forall.2 fun header hheader before gap after hstands => ?_
  exact hunsplit header hheader before gap after hstands
    (lineFeed_mem_gap_of_nestDepth hdepth hheader hstands)

/-- A while loop and a do-while whose headers are split, and a header in a string. -/
def splitLoops : List Char :=
  "while \n(x) f(\"for (;;)\"); do\n\n\x7b y(); \x7d while\n\t(z);".toList

/-- A word that ends in a keyword, and a header in a string. -/
def noLoops : List Char := "undo \x7b x(\"do \x7b\"); \x7d".toList

theorem split_of_nestDepth_eq_zero_splitLoops :
    (nestDepth splitLoops = 0 ∧ (count splitLoops).total = 2 ∧
      ∀ header ∈ loopHeads, ∀ before gap after,
        header.Stands (Literal.mask splitLoops) before gap after → '\n' ∈ gap) ∧
      Unsplit (Literal.mask noLoops) ∧ nestDepth noLoops = 0 ∧ (count noLoops).total = 0 := by
  have hsplit : nestDepth splitLoops = 0 := by decide +kernel
  have hnone : nestDepth noLoops = 0 := by decide +kernel
  have htotal : (count noLoops).total = 0 := by decide +kernel
  have hunsplit : Unsplit (Literal.mask noLoops) := by
    intro header hheader before gap after hstands
    exact absurd hstands ((split_of_nestDepth_eq_zero noLoops).2.2.1 htotal header hheader _ _ _)
  exact ⟨⟨hsplit, by decide +kernel, (split_of_nestDepth_eq_zero splitLoops).1 hsplit⟩, hunsplit,
    hnone, (split_of_nestDepth_eq_zero noLoops).2.1 hunsplit hnone⟩

end CodeGrowth.Loop
