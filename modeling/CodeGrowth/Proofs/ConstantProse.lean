import CodeGrowth.Proofs.AnalysisStates
import CodeGrowth.Proofs.Traceability

/-!
# Prose that tells of a constant runtime

The prose says that the runtime appears constant if neither loops nor recursion were found. The
headline says so only if the nesting depth is at most one as well, since from depth two on the depth
alone decides the growth. So the two agree up to depth one. A source with deeper blocks and without
loops is given a headline that tells of growth and a prose that denies it.
-/
namespace CodeGrowth
open Text

namespace Growth
variable {order : Order} {totalLoops nestDepth : Nat}

lemma Order.level_eq_zero_iff : order.level = 0 ↔ order = constant := by
  cases order <;> decide

lemma Order.ofShape_eq_constant_iff :
    ofShape totalLoops nestDepth = constant ↔ totalLoops = 0 ∧ nestDepth ≤ 1 := by
  unfold ofShape
  split
  · exact iff_of_false (by decide) (by omega)
  · split
    · exact iff_of_false (by decide) (by omega)
    · split
      · exact iff_of_false (by decide) (by omega)
      · exact iff_of_true rfl (by omega)

/-- The headline of a constant runtime. -/
lemma estimate_constant_iff (loops : Loop.Counts) (recursion : Recursion.Info) (nestDepth : Nat) :
    (estimate loops recursion nestDepth).level = 0 ∧
        (estimate loops recursion nestDepth).label = "O(1)" ↔
      loops.total = 0 ∧ recursion.hasRecursion = false ∧ nestDepth ≤ 1 := by
  have hsuffix : "O(1)" ++ recursionLabel ≠ "O(1)" := by decide
  have hlevel : (estimate loops recursion nestDepth).level = 0 ↔
      loops.total = 0 ∧ nestDepth ≤ 1 := Order.level_eq_zero_iff.trans Order.ofShape_eq_constant_iff
  rw [hlevel]
  constructor
  · rintro ⟨⟨htotal, hdepth⟩, hlabel⟩
    have hconstant := Order.ofShape_eq_constant_iff.2 ⟨htotal, hdepth⟩
    rw [estimate, hconstant] at hlabel
    cases hrecursion : recursion.hasRecursion with
    | false => exact ⟨htotal, rfl, hdepth⟩
    | true =>
      rw [hrecursion] at hlabel
      exact absurd hlabel hsuffix
  · rintro ⟨htotal, hrecursion, hdepth⟩
    have hconstant := Order.ofShape_eq_constant_iff.2 ⟨htotal, hdepth⟩
    refine ⟨⟨htotal, hdepth⟩, ?_⟩
    rw [estimate, hconstant, hrecursion]
    rfl

end Growth

namespace Explanation

lemma head?_intercalate {sep first : String} {parts : List String} (h : first.toList ≠ []) :
    (sep.intercalate (first :: parts)).toList.head? = first.toList.head? := by
  cases parts with
  | nil => simp
  | cons part parts =>
    rw [String.intercalate_cons_of_ne_nil (List.cons_ne_nil part parts), String.toList_append,
      String.toList_append, List.append_assoc, List.head?_append_of_ne_nil _ h]

lemma head?_constantProse : constantProse.toList.head? = some 'N' := by decide +kernel

lemma boundedProse_eq_constantProse_iff (growth : Growth.Estimate) (findings : Findings) :
    boundedProse growth findings = constantProse ↔
      growth.totalLoops = 0 ∧ findings.recursion.hasRecursion = false := by
  constructor
  · intro h
    by_contra hfound
    have hhead := congrArg (·.toList.head?) h
    rw [boundedProse, if_neg hfound, head?_constantProse, List.cons_append, List.cons_append,
      head?_intercalate (by simp)] at hhead
    simp at hhead
  · intro h
    rw [boundedProse, if_pos h]

lemma endlessProse_ne_constantProse {findings : Findings} {kind : Loop.Endless}
    (h : findings.endless = some kind) : endlessProse findings ≠ constantProse := by
  intro heq
  obtain ⟨rest, hprose⟩ := toList_endlessProse h
  have hhead := congrArg (·.toList.head?) heq
  rw [hprose, head?_constantProse] at hhead
  simp at hhead

lemma empty_prose_ne_constantProse : empty.prose ≠ constantProse := by
  intro heq
  have hhead := congrArg (·.toList.head?) heq
  rw [head?_constantProse] at hhead
  simp [empty] at hhead

end Explanation

/-- Findings of neither loops nor recursion, whatever the blocks. -/
def Findings.ShowsNone (findings : Findings) : Prop :=
  findings.endless = none ∧ findings.loops.total = 0 ∧ findings.recursion.hasRecursion = false

/-- The headline of an explanation is that of a constant runtime. -/
def Explanation.HeadsConstant (explanation : Explanation) : Prop :=
  explanation.growthLevel = some 0 ∧ explanation.growth.text = "O(1)"

namespace Findings
variable {findings : Findings}

lemma WellFormed.prose_eq_constantProse_iff (h : findings.WellFormed) :
    (Explanation.ofFindings findings).prose = Explanation.constantProse ↔ findings.ShowsNone := by
  cases hendless : findings.endless with
  | some kind =>
    have hprose : (Explanation.endless findings).prose ≠ Explanation.constantProse :=
      Explanation.endlessProse_ne_constantProse hendless
    rw [Explanation.ofFindings_of_some h hendless, ShowsNone, hendless]
    simpa using hprose
  | none =>
    rw [Explanation.ofFindings_of_none h hendless, ShowsNone, hendless, eq_self, true_and]
    exact Explanation.boundedProse_eq_constantProse_iff _ findings

lemma WellFormed.headsConstant_iff (h : findings.WellFormed) :
    (Explanation.ofFindings findings).HeadsConstant ↔
      findings.ShowsNone ∧ findings.nestDepth ≤ 1 := by
  cases hendless : findings.endless with
  | some kind =>
    rw [Explanation.ofFindings_of_some h hendless, ShowsNone, hendless]
    simp [Explanation.HeadsConstant, Explanation.endless]
  | none =>
    rw [Explanation.ofFindings_of_none h hendless, ShowsNone, hendless, Explanation.HeadsConstant]
    have hconstant :=
      Growth.estimate_constant_iff findings.loops findings.recursion findings.nestDepth
    simpa [Explanation.bounded, and_assoc] using hconstant

end Findings

/-- The prose tells of a constant runtime just if neither loops nor recursion were found, and the
headline does so just if the prose does and the depth is at most one. -/
theorem headsConstant_iff_prose (source : List Char) :
    ((explain (analyze source)).prose = Explanation.constantProse ↔
        ∃ findings, analyze source = .report findings ∧ findings.ShowsNone) ∧
      ((explain (analyze source)).HeadsConstant ↔
        (explain (analyze source)).prose = Explanation.constantProse ∧
          (explain (analyze source)).nestDepth ≤ 1) := by
  cases hanalysis : analyze source with
  | empty =>
    have hprose := Explanation.empty_prose_ne_constantProse
    have hhead : ¬ Explanation.empty.HeadsConstant := fun h => Option.some_ne_none 0 h.1.symm
    simp [explain, hprose, hhead]
  | report findings =>
    obtain ⟨-, rfl⟩ := analyze_eq_report_iff.1 hanalysis
    have hwf := Findings.ofCleaned_wellFormed (Comment.strip (trim source))
    obtain ⟨-, -, -, hdepth, -⟩ :=
      Explanation.ofFindings_shows (Findings.ofCleaned (Comment.strip (trim source)))
    rw [explain, hwf.headsConstant_iff, hwf.prose_eq_constantProse_iff, hdepth]
    simp

/-- Two blocks without a loop have a prose that tells of a constant runtime and a headline that does
not. -/
theorem not_headsConstant_of_constantProse :
    ¬ ∀ source, (explain (analyze source)).prose = Explanation.constantProse →
      (explain (analyze source)).HeadsConstant := by
  intro h
  have hblank : ¬ AllBlank nestedBlocks := by decide
  have hwf := Findings.ofCleaned_wellFormed (Comment.strip (trim nestedBlocks))
  have hnone : (Findings.ofCleaned (Comment.strip (trim nestedBlocks))).ShowsNone := by
    refine ⟨?_, ?_, ?_⟩ <;> decide +kernel
  have hdepth : ¬ (Findings.ofCleaned (Comment.strip (trim nestedBlocks))).nestDepth ≤ 1 := by
    decide +kernel
  have hconstant := h nestedBlocks
  rw [analyze_eq_report_iff.2 ⟨hblank, rfl⟩, explain, hwf.prose_eq_constantProse_iff,
    hwf.headsConstant_iff] at hconstant
  exact hdepth (hconstant hnone).2

end CodeGrowth
