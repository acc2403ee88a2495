import CodeGrowth.Analysis
import Mathlib.Data.List.TakeWhile

/-!
# What holds of all findings

The fields of `Findings` depend on each other when they come from a text. A name is a word, so it
holds no punctuation and no white space. The recursive functions are some of the functions, and
the flag says whether there are any. The flag for endless loops and the growth estimate follow
from the other fields.
-/
namespace CodeGrowth
open Text

namespace Recursion

/-- A function name is a word with at least one character. -/
def IsName (name : List Char) : Prop := name ≠ [] ∧ ∀ c ∈ name, isWord c = true

lemma IsName.notMem {name : List Char} (h : IsName name) {c : Char} (hc : isWord c = false) :
    c ∉ name := by
  intro hmem
  have hword := h.2 c hmem
  rw [hc] at hword
  contradiction

lemma isName_of_definition? {cs name rest : List Char} (h : definition? cs = some (name, rest)) :
    IsName name := by
  unfold definition? at h
  split at h
  · simp at h
  · next hne =>
    obtain ⟨r, -, heq⟩ := Option.map_eq_some_iff.1 h
    cases heq
    exact ⟨by simpa using hne, fun c hc => List.mem_takeWhile_imp hc⟩

lemma isName_of_mem_definedNames {text name : List Char} (h : name ∈ definedNames text) :
    IsName name := by
  fun_induction definedNames text with
  | case1 _ first _ hdef ih =>
    rcases List.mem_cons.1 h with rfl | htail
    · exact isName_of_definition? hdef
    · exact ih htail
  | case2 => contradiction
  | case3 _ _ _ _ ih => exact ih h
  | case4 _ _ _ _ ih => exact ih h

lemma isName_of_mem_functionsIn {text name : List Char} (h : name ∈ functionsIn text) :
    IsName name := by
  rw [functionsIn, List.mem_eraseDups, List.mem_filter] at h
  exact isName_of_mem_definedNames h.1

/-- What a text's recursion summary satisfies, whatever the text. -/
structure Info.WellFormed (info : Info) : Prop where
  hasRecursion_eq : info.hasRecursion = !info.recursive.isEmpty
  recursive_subset : info.recursive ⊆ info.functions
  isName : ∀ name ∈ info.functions, IsName name.toList

theorem detect_wellFormed (cleaned : List Char) : (detect cleaned).WellFormed where
  hasRecursion_eq := by simp [detect]
  recursive_subset := List.map_subset _ List.filter_sublist.subset
  isName := by
    intro name hname
    obtain ⟨cs, hcs, rfl⟩ := List.mem_map.1 hname
    rw [String.toList_ofList]
    exact isName_of_mem_functionsIn hcs

end Recursion

/-- Findings whose fields agree with each other as those of a text do. -/
structure Findings.WellFormed (findings : Findings) : Prop where
  recursion : findings.recursion.WellFormed
  endlessLoop_eq : findings.endlessLoop = findings.endless.isSome
  growth_eq : findings.growth = if findings.endless.isSome then none else
    some (Growth.estimate findings.loops findings.recursion findings.nestDepth)

theorem Findings.ofCleaned_wellFormed (cleaned : List Char) : (ofCleaned cleaned).WellFormed :=
  ⟨Recursion.detect_wellFormed cleaned, rfl, rfl⟩

end CodeGrowth
