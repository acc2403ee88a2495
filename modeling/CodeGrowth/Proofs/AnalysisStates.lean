import CodeGrowth.Explanation
import CodeGrowth.Proofs.Comments
import CodeGrowth.Proofs.LooplessText
import Mathlib.Data.List.Nodup

/-!
# The three states of an analysis

A source is blank, or an endless loop was found in it, or its growth was estimated. The explanation
shows which of the three it is: by its headline, by the level, which only an estimate has, and by
the gauge. Blank sources apart it also shows what was found about recursion. The functions named
there are distinct, none is a keyword, and the recursive ones are some of them in the same order, so
no recursive function is passed over where no functions are listed.
-/
namespace CodeGrowth
open Text

namespace Recursion

lemma nodup_eraseDups {α : Type} [BEq α] [LawfulBEq α] (xs : List α) : xs.eraseDups.Nodup := by
  match xs with
  | [] =>
    rw [List.eraseDups_nil]
    exact List.nodup_nil
  | x :: xs =>
    rw [List.eraseDups_cons, List.nodup_cons]
    refine ⟨fun hmem => ?_, nodup_eraseDups _⟩
    have hne := (List.mem_filter.1 (List.mem_eraseDups.1 hmem)).2
    simp at hne
termination_by xs.length
decreasing_by exact Nat.lt_succ_of_le (List.length_filter_le _ _)

lemma notMem_controlKeywords {text name : List Char} (h : name ∈ functionsIn text) :
    name ∉ controlKeywords := by
  rw [functionsIn, List.mem_eraseDups, List.mem_filter] at h
  simpa using h.2

/-- What the names in a recursion summary have to do with each other. -/
structure Info.Consistent (info : Info) : Prop where
  nodup : info.functions.Nodup
  no_keyword : ∀ keyword ∈ controlKeywords, String.ofList keyword ∉ info.functions
  sublist : info.recursive.Sublist info.functions
  hasRecursion_iff : info.hasRecursion = true ↔ info.recursive ≠ []

theorem detect_consistent (cleaned : List Char) : (detect cleaned).Consistent where
  nodup := List.Nodup.map (fun _ _ => String.ofList_injective) (nodup_eraseDups _)
  no_keyword := by
    intro keyword hkeyword hmem
    obtain ⟨name, hname, heq⟩ := List.mem_map.1 hmem
    rw [String.ofList_injective heq] at hname
    exact notMem_controlKeywords hname hkeyword
  sublist := List.filter_sublist.map String.ofList
  hasRecursion_iff := by simp [detect]

/-- A recursive function is a function. -/
lemma Info.Consistent.functions_ne_nil {info : Info} (h : info.Consistent)
    (hrecursion : info.hasRecursion = true) : info.functions ≠ [] := by
  intro hnil
  have hsublist := h.sublist
  rw [hnil, List.sublist_nil] at hsublist
  exact h.hasRecursion_iff.1 hrecursion hsublist

end Recursion

namespace Explanation

/-- Which badge the headline on recursion has. -/
structure RecursionBadge (info : Recursion.Info) (badge : Badge) : Prop where
  neutral_iff : badge = .neutral ↔ info.functions = []
  bad_iff : badge = .bad ↔ info.hasRecursion = true
  good_iff : badge = .good ↔ info.functions ≠ [] ∧ info.hasRecursion = false

lemma recursionBadge {info : Recursion.Info} (h : info.Consistent) :
    RecursionBadge info (recursionSummary info).1.badge := by
  have hfunctions := h.functions_ne_nil
  unfold recursionSummary
  split
  · next hempty =>
    have hnil : info.functions = [] := List.isEmpty_iff.1 hempty
    exact ⟨by simp [hnil], by simpa [hnil] using hfunctions, by simp [hnil]⟩
  · next hne =>
    rw [List.isEmpty_iff] at hne
    dsimp only
    split
    · next hrecursion => exact ⟨by simp [hne], by simp [hrecursion], by simp [hrecursion]⟩
    · next hrecursion => exact ⟨by simp [hne], by simp [hrecursion], by simp [hne, hrecursion]⟩

/-- The headline on recursion does not depend on what is shown of the growth. -/
lemma recursion_ofFindings (findings : Findings) :
    (ofFindings findings).recursion = (recursionSummary findings.recursion).1 := by
  unfold ofFindings
  split
  · split <;> rfl
  · rfl

end Explanation

lemma gaugePercent_of_le {level : Nat} (h : level ≤ 3) : gaugePercent level = 25 * (level + 1) := by
  rw [gaugePercent, Growth.maxLevel, Nat.min_eq_left h]
  omega

namespace Growth

/-- The label tells of recursion just if there is some. -/
lemma label_suffix_iff (loops : Loop.Counts) (recursion : Recursion.Info) (nestDepth : Nat) :
    " (with recursion)".toList <:+ (estimate loops recursion nestDepth).label.toList ↔
      recursion.hasRecursion = true := by
  cases hrecursion : recursion.hasRecursion with
  | true => simp [estimate, hrecursion, recursionLabel]
  | false =>
    have hnone : ∀ order : Order, ¬ " (with recursion)".toList <:+ (order.label ++ "").toList := by
      intro order
      cases order <;> decide
    simpa [estimate, hrecursion] using hnone _

end Growth

namespace Analysis

inductive State where
  | empty
  | endless
  | bounded
  deriving DecidableEq, Repr

def state : Analysis → State
  | empty => .empty
  | report findings => if findings.endlessLoop then .endless else .bounded

/-- An endless loop was found, and it is all that is shown of the growth. -/
structure ShowsEndless (findings : Findings) (explanation : Explanation) : Prop where
  endless : findings.endless.isSome = true
  endlessLoop : findings.endlessLoop = true
  growth : findings.growth = none
  headline : explanation.growth = ⟨"Non-terminating (infinite loop)", .bad⟩
  level : explanation.growthLevel = none
  percent : explanation.percent = 100

/-- No endless loop was found, and the estimate of the growth is shown. -/
structure ShowsGrowth (findings : Findings) (estimate : Growth.Estimate)
    (explanation : Explanation) : Prop where
  endless : findings.endless = none
  endlessLoop : findings.endlessLoop = false
  growth : findings.growth = some estimate
  totalLoops : estimate.totalLoops = findings.loops.total
  label_suffix_iff : " (with recursion)".toList <:+ estimate.label.toList ↔
    findings.recursion.hasRecursion = true
  level_le : estimate.level ≤ 3
  headline : explanation.growth = ⟨estimate.label, .ofLevel estimate.level⟩
  level : explanation.growthLevel = some estimate.level
  percent : explanation.percent = 25 * (estimate.level + 1)

/-- A source is analyzed to this state, and the explanation shows it. -/
def State.Holds (source : List Char) (analysis : Analysis) (explanation : Explanation) :
    State → Prop
  | empty => AllBlank source ∧ analysis = .empty ∧ explanation = .empty
  | endless => ∃ findings, analysis = .report findings ∧ ShowsEndless findings explanation
  | bounded => ∃ findings estimate,
    analysis = .report findings ∧ ShowsGrowth findings estimate explanation

variable {source : List Char}

lemma State.Holds.state_eq {analysis : Analysis} {explanation : Explanation} {state : State}
    (h : state.Holds source analysis explanation) : analysis.state = state := by
  cases state with
  | empty =>
    obtain ⟨-, rfl, -⟩ := h
    rfl
  | endless =>
    obtain ⟨findings, rfl, hshows⟩ := h
    exact if_pos hshows.endlessLoop
  | bounded =>
    obtain ⟨findings, estimate, rfl, hshows⟩ := h
    exact if_neg (by simp [hshows.endlessLoop])

end Analysis

namespace Findings
variable {findings : Findings}

lemma WellFormed.showsEndless (h : findings.WellFormed) (hendless : findings.endless.isSome) :
    Analysis.ShowsEndless findings (.ofFindings findings) := by
  have hgrowth : findings.growth = none := by rw [h.growth_eq, if_pos hendless]
  have hexplanation : Explanation.ofFindings findings = .endless findings := by
    rw [Explanation.ofFindings, hgrowth]
  rw [hexplanation]
  exact ⟨hendless, h.endlessLoop_eq.trans hendless, hgrowth, rfl, rfl, rfl⟩

lemma WellFormed.showsGrowth (h : findings.WellFormed) (hendless : findings.endless = none) :
    Analysis.ShowsGrowth findings
      (Growth.estimate findings.loops findings.recursion findings.nestDepth)
      (.ofFindings findings) := by
  have hloop : findings.endlessLoop = false := by
    rw [h.endlessLoop_eq, hendless, Option.isSome_none]
  have hgrowth : findings.growth =
      some (Growth.estimate findings.loops findings.recursion findings.nestDepth) := by
    rw [h.growth_eq, hendless, Option.isSome_none, if_neg Bool.false_ne_true]
  have hexplanation : Explanation.ofFindings findings = .bounded findings
      (Growth.estimate findings.loops findings.recursion findings.nestDepth) := by
    rw [Explanation.ofFindings, hgrowth]
    exact if_neg (by simp [hloop])
  have hlevel : (Growth.estimate findings.loops findings.recursion findings.nestDepth).level ≤ 3 :=
    Growth.level_le_maxLevel _
  rw [hexplanation]
  exact ⟨hendless, hloop, hgrowth, rfl, Growth.label_suffix_iff _ _ _, hlevel, rfl, rfl,
    gaugePercent_of_le hlevel⟩

end Findings

namespace Analysis

/-- Every source is analyzed to exactly one state, and a report shows its recursion. -/
theorem existsUnique_state (source : List Char) :
    (∃! state : State, state.Holds source (analyze source) (explain (analyze source))) ∧
      ∀ findings, analyze source = .report findings → findings.recursion.Consistent ∧
        Explanation.RecursionBadge findings.recursion
          (explain (analyze source)).recursion.badge := by
  refine ⟨?_, fun findings h => ?_⟩
  · refine existsUnique_of_exists_of_unique ?_ fun _ _ h h' => h.state_eq.symm.trans h'.state_eq
    by_cases hblank : AllBlank source
    · have hanalysis : analyze source = .empty := by rw [analyze_eq, if_pos hblank]
      rw [hanalysis]
      exact ⟨.empty, hblank, rfl, rfl⟩
    · rw [analyze_eq_report_iff.2 ⟨hblank, rfl⟩]
      have hwf := Findings.ofCleaned_wellFormed (Comment.strip (trim source))
      cases hendless : (Findings.ofCleaned (Comment.strip (trim source))).endless with
      | some kind =>
        exact ⟨.endless, _, rfl, hwf.showsEndless (by rw [hendless, Option.isSome_some])⟩
      | none => exact ⟨.bounded, _, _, rfl, hwf.showsGrowth hendless⟩
  · obtain ⟨-, rfl⟩ := analyze_eq_report_iff.1 h
    have hconsistent := Recursion.detect_consistent (Comment.strip (trim source))
    rw [h, explain, Explanation.recursion_ofFindings]
    exact ⟨hconsistent, Explanation.recursionBadge hconsistent⟩

end Analysis

end CodeGrowth
