import CodeGrowth.Analysis
import CodeGrowth.Proofs.Findings
import CodeGrowth.Proofs.Headers
import CodeGrowth.Proofs.Occurrences
import CodeGrowth.Proofs.StructuredPrograms

/-!
# Texts without loops

A text has no loops exactly if it shows no loop header once its literals are masked: what do-while
loops take off the while loops is never all there is. A text without the keywords shows no header.

The growth of a source without loops and without recursion is still not constant for that. Blocks
count for the nesting depth whether they belong to a loop or not, and from depth two on the depth
alone decides.
-/
namespace CodeGrowth
open Text

namespace Text

/-- A header does not stand where its keyword does not. -/
lemma Header.countIn_eq_zero (header : Header) {text : List Char}
    (h : (wholeWord header.keyword).occursIn text = false) : header.phrase.countIn text = 0 := by
  rw [← Phrase.countIn_eq_zero_iff, Phrase.countIn_eq] at h
  have hend : EndsWord [] := rfl
  have hcount := header.countAfter_append hend h
  rwa [List.append_nil] at hcount

end Text

namespace Loop
variable {cleaned : List Char}

theorem total_eq_zero_iff :
    (count cleaned).total = 0 ↔ hasHeader (Literal.mask cleaned) = false := by
  have hwhile : ∀ whiles dos, ownWhileCount whiles dos + dos = 0 ↔ whiles = 0 ∧ dos = 0 := by
    intro whiles dos
    rw [ownWhileCount]
    split <;> omega
  rw [hasHeader, Bool.or_eq_false_iff, Bool.or_eq_false_iff, ← Phrase.countIn_eq_zero_iff,
    ← Phrase.countIn_eq_zero_iff, ← Phrase.countIn_eq_zero_iff, and_assoc, ← hwhile, count,
    Counts.total]
  dsimp only
  omega

theorem total_eq_zero_of_no_loopWord
    (h : ∀ word ∈ Structured.loopWords, (wholeWord word).occursIn (Literal.mask cleaned) = false) :
    (count cleaned).total = 0 := by
  have hfor := forHead.countIn_eq_zero (h forHead.keyword (by decide))
  have hwhile := whileHead.countIn_eq_zero (h whileHead.keyword (by decide))
  have hdo := doHead.countIn_eq_zero (h doHead.keyword (by decide))
  rw [total_eq_zero_iff, hasHeader, Bool.or_eq_false_iff, Bool.or_eq_false_iff]
  exact ⟨⟨Phrase.countIn_eq_zero_iff.1 hfor, Phrase.countIn_eq_zero_iff.1 hwhile⟩,
    Phrase.countIn_eq_zero_iff.1 hdo⟩

end Loop

namespace Growth

lemma Order.ofShape_of_le_one {nestDepth : Nat} (h : nestDepth ≤ 1) :
    ofShape 0 nestDepth = constant := by
  rw [ofShape, if_neg (by omega), if_neg (by omega), if_neg (by omega)]

lemma Order.ofShape_two (totalLoops : Nat) : ofShape totalLoops 2 = quadratic := rfl

lemma Order.ofShape_of_three_le {nestDepth : Nat} (h : 3 ≤ nestDepth) (totalLoops : Nat) :
    ofShape totalLoops nestDepth = cubic := if_pos h

end Growth

/-- What the order of growth is then. -/
lemma Findings.WellFormed.growth_of_total_eq_zero {findings : Findings} (h : findings.WellFormed)
    (hendless : findings.endlessLoop = false)
    (hrecursion : findings.recursion.hasRecursion = false) (htotal : findings.loops.total = 0) :
    findings.growth =
      some ⟨(Growth.Order.ofShape 0 findings.nestDepth).label,
        (Growth.Order.ofShape 0 findings.nestDepth).message, 0,
        (Growth.Order.ofShape 0 findings.nestDepth).level⟩ := by
  rw [h.endlessLoop_eq] at hendless
  rw [h.growth_eq, if_neg (by simp [hendless])]
  simp [Growth.estimate, hrecursion, htotal]

theorem analyze_eq_report_iff {source : List Char} {findings : Findings} :
    analyze source = .report findings ↔
      ¬ AllBlank source ∧ findings = Findings.ofCleaned (Comment.strip (trim source)) := by
  have hempty : (trim source).isEmpty = true ↔ AllBlank source := by
    rw [List.isEmpty_iff, trim_eq_nil_iff]
  rw [analyze]
  split
  · next h => simp [hempty.1 h]
  · next h =>
    rw [hempty] at h
    simp [h, eq_comm]

/-- A source that is not blank, shows no loop keyword as a word of its own outside comments and
literals, and is reported to have neither an endless loop nor recursion. -/
structure StraightLine (source : List Char) : Prop where
  not_allBlank : ¬ AllBlank source
  no_loopWord : ∀ word ∈ Structured.loopWords,
    (wholeWord word).occursIn (Literal.mask (Comment.strip (trim source))) = false
  not_repeated : ∀ findings, analyze source = .report findings →
    findings.endlessLoop = false ∧ findings.recursion.hasRecursion = false

/-- Without loops the growth follows the nesting depth alone, constant up to depth one. -/
theorem StraightLine.growth_by_depth {source : List Char} (h : StraightLine source) :
    ∃ findings growth, analyze source = .report findings ∧ findings.loops.total = 0 ∧
      findings.growth = some growth ∧ growth.totalLoops = 0 ∧
      (findings.nestDepth ≤ 1 → growth.level = 0 ∧ growth.label = "O(1)") ∧
      (findings.nestDepth = 2 → growth.level = 2 ∧ growth.label = "O(n²)") ∧
      (3 ≤ findings.nestDepth → growth.level = 3 ∧ growth.label = "O(n³) or higher") := by
  have hreport := analyze_eq_report_iff.2 ⟨h.not_allBlank, rfl⟩
  obtain ⟨hendless, hrecursion⟩ := h.not_repeated _ hreport
  have htotal := Loop.total_eq_zero_of_no_loopWord h.no_loopWord
  have hgrowth := (Findings.ofCleaned_wellFormed _).growth_of_total_eq_zero hendless hrecursion
    htotal
  refine ⟨_, _, hreport, htotal, hgrowth, rfl, fun hdepth => ?_, fun hdepth => ?_, fun hdepth => ?_⟩
  · rw [Growth.Order.ofShape_of_le_one hdepth]
    exact ⟨rfl, rfl⟩
  · rw [hdepth, Growth.Order.ofShape_two]
    exact ⟨rfl, rfl⟩
  · rw [Growth.Order.ofShape_of_three_le hdepth]
    exact ⟨rfl, rfl⟩

/-- Two blocks, one in the other, and no loop. -/
def nestedBlocks : List Char := "if (a) \x7b\n  if (b) \x7b\n    c();\n  \x7d\n\x7d".toList

lemma straightLine_nestedBlocks : StraightLine nestedBlocks where
  not_allBlank := by decide
  no_loopWord := by decide +kernel
  not_repeated findings h := by
    obtain ⟨-, rfl⟩ := analyze_eq_report_iff.1 h
    decide +kernel

theorem growth_by_depth_nestedBlocks :
    StraightLine nestedBlocks ∧
      ∃ findings growth, analyze nestedBlocks = .report findings ∧ findings.loops.total = 0 ∧
        findings.growth = some growth ∧ growth.totalLoops = 0 ∧
        (findings.nestDepth ≤ 1 → growth.level = 0 ∧ growth.label = "O(1)") ∧
        (findings.nestDepth = 2 → growth.level = 2 ∧ growth.label = "O(n²)") ∧
        (3 ≤ findings.nestDepth → growth.level = 3 ∧ growth.label = "O(n³) or higher") :=
  ⟨straightLine_nestedBlocks, StraightLine.growth_by_depth straightLine_nestedBlocks⟩

/-- The growth need not be constant: nested blocks are enough. -/
theorem not_constant_of_straightLine :
    ¬ ∀ source, StraightLine source →
      ∃ findings growth, analyze source = .report findings ∧ findings.loops.total = 0 ∧
        findings.growth = some growth ∧ growth.totalLoops = 0 ∧ growth.level = 0 ∧
        growth.label = "O(1)" := by
  intro h
  obtain ⟨findings, growth, hreport, -, hgrowth, -, hlevel, -⟩ := h _ straightLine_nestedBlocks
  obtain ⟨-, rfl⟩ := analyze_eq_report_iff.1 hreport
  have hquadratic : (Findings.ofCleaned (Comment.strip (trim nestedBlocks))).growth.map
      (·.level) = some 2 := by decide +kernel
  rw [hgrowth, Option.map_some, hlevel] at hquadratic
  contradiction

end CodeGrowth
