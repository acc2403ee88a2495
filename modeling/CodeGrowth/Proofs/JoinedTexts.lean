import CodeGrowth.Proofs.Definitions

/-!
# Recursion in texts joined by a semicolon

A semicolon ends every header and every call site before it, and none begins at it. So the
definitions of two texts with a semicolon between them are those of the one and then those of the
other, and so are the call sites, even if the first text breaks off within a header and the second
one goes on with it. The functions of the second text that the first one has already are listed
once, and the sites of each name add up.

More text therefore never takes away a function or its recursion. It can make a function recursive
that was not: one that has its definition in one text and another site in the other.
-/
namespace CodeGrowth.Recursion
open Text

variable {a b : List Char} {cut : Cut}

lemma definedNames_text_semicolon (hcut : cut.AtFirst (Single endsHeader)) (b : List Char) :
    definedNames (cut.text ++ ';' :: b) = definedNames cut.text ++ definedNames b := by
  induction cut with
  | last stretch =>
    have hstretch := noneBegins_single.1 hcut
    have hundefined : definedBy? (stretch, [';']) = none := by
      rw [definedBy?, if_neg fun h => by simp at h]
    rw [Cut.text, definedNames_append hstretch (by decide), hundefined,
      definedNames_of_forall hstretch]
    rfl
  | part piece stop rest ih =>
    obtain ⟨⟨c, hc, rfl⟩, hpiece, hrest⟩ := hcut
    have hpiece := noneBegins_single.1 hpiece
    rw [Cut.text, List.append_assoc, List.append_assoc, List.singleton_append,
      List.singleton_append, definedNames_append hpiece hc, definedNames_append hpiece hc, ih hrest, List.append_assoc]

theorem definedNames_semicolon (a b : List Char) :
    definedNames (a ++ ';' :: b) = definedNames a ++ definedNames b := by
  have htext := definedNames_text_semicolon (atFirst_cutAt endsHeader a) b
  rwa [text_cutAt] at htext

lemma eraseDups_filter {α : Type} [BEq α] [LawfulBEq α] (p : α → Bool) (xs : List α) :
    (xs.filter p).eraseDups = xs.eraseDups.filter p := by
  match xs with
  | [] => rfl
  | x :: xs =>
    have ih := eraseDups_filter p (xs.filter fun y => !y == x)
    rw [List.eraseDups_cons, List.filter_cons, List.filter_cons, ← ih, List.filter_filter]
    split
    · rw [List.eraseDups_cons, List.filter_filter]
      simp only [Bool.and_comm]
    · next hx =>
      -- the head is left out on both sides, so leaving it out of the tail as well changes nothing
      refine congrArg List.eraseDups (List.filter_congr fun y _ => ?_)
      cases hy : p y with
      | false => rfl
      | true =>
        have hne : y ≠ x := by
          rintro rfl
          exact hx hy
        simp [hne]
termination_by xs.length
decreasing_by exact Nat.lt_succ_of_le (List.length_filter_le _ _)

lemma distinctFunctions_append (xs ys : List (List Char)) :
    distinctFunctions (xs ++ ys) =
      distinctFunctions xs ++ (distinctFunctions ys).filter (· ∉ distinctFunctions xs) := by
  have hinj : Function.Injective String.ofList := fun _ _ => String.ofList_injective
  have hmem : ∀ name, String.ofList name ∈ distinctFunctions xs ↔
      name ∈ xs.filter (!controlKeywords.contains ·) := by
    intro name
    rw [distinctFunctions, List.mem_map_of_injective hinj, List.mem_eraseDups]
  rw [distinctFunctions, List.filter_append, List.eraseDups_append, List.removeAll,
    eraseDups_filter (fun name => !List.elem name (xs.filter (!controlKeywords.contains ·))),
    List.map_append]
  refine congrArg (distinctFunctions xs ++ ·) (Eq.trans ?_ List.filter_map.symm)
  refine congrArg (List.map String.ofList) (List.filter_congr fun name _ => ?_)
  simp only [Function.comp_apply, hmem, List.elem_eq_mem, decide_not]

theorem functions_semicolon (a b : List Char) :
    (detect (a ++ ';' :: b)).functions =
      (detect a).functions ++ (detect b).functions.filter (· ∉ (detect a).functions) := by
  rw [functions_eq, functions_eq, functions_eq, definedNames_semicolon, distinctFunctions_append]

lemma mem_functions_semicolon {name : String} : name ∈ (detect (a ++ ';' :: b)).functions ↔
    name ∈ (detect a).functions ∨ name ∈ (detect b).functions := by
  rw [functions_semicolon, List.mem_append, List.mem_filter, decide_eq_true_eq]
  tauto

theorem siteTable_semicolon (a b : List Char) (name : String) :
    (siteTable (a ++ ';' :: b)).getD name 0 =
      (siteTable a).getD name 0 + (siteTable b).getD name 0 := by
  have hstop : endsHeader ';' = true := by decide
  rw [getD_siteTable, getD_siteTable, getD_siteTable, callSites_append hstop, List.count_append]

lemma mem_recursive_iff {text : List Char} {name : String} : name ∈ (detect text).recursive ↔
    name ∈ (detect text).functions ∧ 2 ≤ (siteTable text).getD name 0 := by
  rw [recursive_eq, List.mem_filter, decide_eq_true_eq, getD_siteTable]
  rfl

lemma one_le_siteTable {text : List Char} {name : String} (h : name ∈ (detect text).functions) :
    1 ≤ (siteTable text).getD name 0 := by
  rw [getD_siteTable]
  exact List.count_pos_iff.2 (mem_callSites_of_mem_definedNames (toList_mem_of_mem_functions h))

/-- A function of either text that has two sites in both together, but not in a text that defines
it. A text that only calls it makes no function of it, however often it does. -/
structure RecursiveAcross (a b : List Char) (name : String) : Prop where
  defined : name ∈ (detect a).functions ∨ name ∈ (detect b).functions
  two_le : 2 ≤ (siteTable a).getD name 0 + (siteTable b).getD name 0
  left : name ∈ (detect a).functions → (siteTable a).getD name 0 < 2
  right : name ∈ (detect b).functions → (siteTable b).getD name 0 < 2

/-- Both texts have a site of it then. -/
lemma RecursiveAcross.one_le {name : String} (h : RecursiveAcross a b name) :
    1 ≤ (siteTable a).getD name 0 ∧ 1 ≤ (siteTable b).getD name 0 := by
  have htwo := h.two_le
  rcases h.defined with ha | hb
  · have hleft := h.left ha
    have hone := one_le_siteTable ha
    omega
  · have hright := h.right hb
    have hone := one_le_siteTable hb
    omega

lemma mem_recursive_semicolon {name : String} : name ∈ (detect (a ++ ';' :: b)).recursive ↔
    name ∈ (detect a).recursive ∨ name ∈ (detect b).recursive ∨ RecursiveAcross a b name := by
  rw [mem_recursive_iff, mem_functions_semicolon, siteTable_semicolon, mem_recursive_iff,
    mem_recursive_iff]
  constructor
  · rintro ⟨hdefined, htwo⟩
    by_cases ha : name ∈ (detect a).functions ∧ 2 ≤ (siteTable a).getD name 0
    · exact .inl ha
    · by_cases hb : name ∈ (detect b).functions ∧ 2 ≤ (siteTable b).getD name 0
      · exact .inr (.inl hb)
      · rw [not_and, Nat.not_le] at ha hb
        exact .inr (.inr ⟨hdefined, htwo, ha, hb⟩)
  · rintro (⟨ha, htwo⟩ | ⟨hb, htwo⟩ | hacross)
    · exact ⟨.inl ha, by omega⟩
    · exact ⟨.inr hb, by omega⟩
    · exact ⟨hacross.defined, hacross.two_le⟩

lemma hasRecursion_mono {s t : List Char} (h : (detect s).recursive ⊆ (detect t).recursive)
    (hs : (detect s).hasRecursion = true) : (detect t).hasRecursion = true := by
  rw [(detect_consistent s).hasRecursion_iff] at hs
  rw [(detect_consistent t).hasRecursion_iff]
  obtain ⟨name, hname⟩ := List.exists_mem_of_ne_nil _ hs
  exact List.ne_nil_of_mem (h hname)

/-- Two texts with a semicolon between them have the functions and the sites of both, and are
recursive where one of them is or a function has sites in both. -/
theorem detect_semicolon (a b : List Char) :
    (detect (a ++ ';' :: b)).functions =
        (detect a).functions ++ (detect b).functions.filter (· ∉ (detect a).functions) ∧
      (∀ name, (siteTable (a ++ ';' :: b)).getD name 0 =
        (siteTable a).getD name 0 + (siteTable b).getD name 0) ∧
      (∀ name, name ∈ (detect (a ++ ';' :: b)).recursive ↔
        name ∈ (detect a).recursive ∨ name ∈ (detect b).recursive ∨ RecursiveAcross a b name) ∧
      (∀ name, RecursiveAcross a b name →
        1 ≤ (siteTable a).getD name 0 ∧ 1 ≤ (siteTable b).getD name 0) ∧
      ∀ part ∈ [a, b], (detect part).functions ⊆ (detect (a ++ ';' :: b)).functions ∧
        ((detect part).hasRecursion = true → (detect (a ++ ';' :: b)).hasRecursion = true) := by
  refine ⟨functions_semicolon a b, siteTable_semicolon a b, fun name => mem_recursive_semicolon,
    fun name hacross => hacross.one_le, ?_⟩
  intro part hpart
  rw [List.mem_cons, List.mem_singleton] at hpart
  rcases hpart with rfl | rfl
  · refine ⟨fun name hname => mem_functions_semicolon.2 (.inl hname), hasRecursion_mono ?_⟩
    exact fun name hname => mem_recursive_semicolon.2 (.inl hname)
  · refine ⟨fun name hname => mem_functions_semicolon.2 (.inr hname), hasRecursion_mono ?_⟩
    exact fun name hname => mem_recursive_semicolon.2 (.inr (.inl hname))

/-- A recursive function, one that is not, and the start of a header. -/
def brokenOff : List Char := "f(n) \x7b f(n); \x7d g(n) \x7b \x7d k(".toList

/-- The rest of that header, and a call. -/
def goneOn : List Char := "n) \x7b g(n); \x7d".toList

theorem detect_semicolon_brokenOff :
    (detect brokenOff).hasRecursion = true ∧ RecursiveAcross brokenOff goneOn "g" ∧
      (detect (brokenOff ++ ';' :: goneOn)).functions = ["f", "g"] ∧
      "g" ∈ (detect (brokenOff ++ ';' :: goneOn)).recursive ∧
      (detect (brokenOff ++ ';' :: goneOn)).hasRecursion = true := by
  have hleft : (detect brokenOff).functions = ["f", "g"] :=
    (functions_eq_cutAt _).trans (by decide +kernel)
  have hright : (detect goneOn).functions = [] := (functions_eq_cutAt _).trans (by decide +kernel)
  have hsites : (siteTable brokenOff).getD "g" 0 = 1 ∧ (siteTable goneOn).getD "g" 0 = 1 ∧
      (siteTable brokenOff).getD "f" 0 = 2 := by
    rw [getD_siteTable, getD_siteTable, getD_siteTable]
    decide +kernel
  have hacross : RecursiveAcross brokenOff goneOn "g" :=
    ⟨.inl (by simp [hleft]), by omega, fun _ => by omega, fun _ => by omega⟩
  have hf : "f" ∈ (detect brokenOff).recursive :=
    mem_recursive_iff.2 ⟨by simp [hleft], by omega⟩
  have hrecursion : (detect brokenOff).hasRecursion = true :=
    (detect_consistent _).hasRecursion_iff.2 (List.ne_nil_of_mem hf)
  have hjoined := detect_semicolon brokenOff goneOn
  refine ⟨hrecursion, hacross, ?_, ?_, ?_⟩
  · rw [hjoined.1, hleft, hright]
    rfl
  · exact (hjoined.2.2.1 "g").2 (.inr (.inr hacross))
  · exact (hjoined.2.2.2.2 brokenOff (by simp)).2 hrecursion

end CodeGrowth.Recursion
