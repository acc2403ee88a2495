import CodeGrowth.Proofs.Findings
import CodeGrowth.Proofs.Printed

/-!
# Traceability

The plain text of an explanation carries the whole analysis: two sources with the same text have
the same analysis. The text is cut into its lines first. The lines then give the language guess,
the loop counts, the depth and the recursion summary one by one; whether the loop is endless shows
in the headline on growth, and which kind it is in the prose. The growth estimate is not read from
the text: it follows from the other fields.
-/
namespace CodeGrowth
open Text Printed Recursion

namespace Explanation

lemma toList_commaList (names : List String) :
    (commaList names).toList = [',', ' '].intercalate (names.map String.toList) := by
  rw [commaList, String.toList_intercalate]
  simp

lemma commaList_inj {xs ys : List String} (hxs : ∀ name ∈ xs, IsName name.toList)
    (hys : ∀ name ∈ ys, IsName name.toList) (h : commaList xs = commaList ys) : xs = ys := by
  have hname : ∀ {zs : List String}, (∀ name ∈ zs, IsName name.toList) →
      ∀ cs ∈ zs.map String.toList, cs ≠ [] ∧ ',' ∉ cs := by
    intro zs hzs cs hcs
    obtain ⟨name, hmem, rfl⟩ := List.mem_map.1 hcs
    exact ⟨(hzs name hmem).1, (hzs name hmem).notMem (by decide)⟩
  have hlist := congrArg String.toList h
  rw [toList_commaList, toList_commaList] at hlist
  exact (List.map_inj_right fun _ _ => String.toList_inj.1).1
    (intercalate_inj (hname hxs) (hname hys) hlist)

lemma notMem_commaList {c : Char} (hc : isWord c = false) (hsep : c ∉ [',', ' '])
    {names : List String} (h : ∀ name ∈ names, IsName name.toList) :
    c ∉ (commaList names).toList := by
  rw [toList_commaList]
  refine notMem_intercalate hsep ?_
  intro cs hcs
  obtain ⟨name, hname, rfl⟩ := List.mem_map.1 hcs
  exact (h name hname).notMem hc

lemma oneLine_commaList {names : List String} (h : ∀ name ∈ names, IsName name.toList) :
    OneLine (commaList names) := notMem_commaList (by decide) (by decide) h

lemma ofFindings_of_none {f : Findings} (hf : f.WellFormed) (h : f.endless = none) :
    ofFindings f = bounded f (Growth.estimate f.loops f.recursion f.nestDepth) := by
  simp [ofFindings, hf.growth_eq, hf.endlessLoop_eq, h]

lemma ofFindings_of_some {f : Findings} (hf : f.WellFormed) {kind : Loop.Endless}
    (h : f.endless = some kind) : ofFindings f = endless f := by
  simp [ofFindings, hf.growth_eq, h]

/-- Both kinds of report show the findings alike, apart from the growth and the prose. -/
lemma ofFindings_shows (f : Findings) :
    (ofFindings f).language = f.language.label.name ∧
      (ofFindings f).scores = some (f.language.scoreC, f.language.scoreJava) ∧
      (ofFindings f).loops = f.loops ∧ (ofFindings f).nestDepth = f.nestDepth ∧
      (ofFindings f).recursion = (recursionSummary f.recursion).1 ∧
      (ofFindings f).recursionDetails = (recursionSummary f.recursion).2 := by
  unfold ofFindings
  split
  · split <;> exact ⟨rfl, rfl, rfl, rfl, rfl, rfl⟩
  · exact ⟨rfl, rfl, rfl, rfl, rfl, rfl⟩

lemma languageLine_ofFindings (f : Findings) :
    (ofFindings f).languageLine = "Detected language: " ++ (f.language.label.name ++
      " (C score: " ++ (f.language.scoreC.repr ++ (", Java score: " ++
        (f.language.scoreJava.repr ++ ")")))) := by
  obtain ⟨hname, hscores, -⟩ := ofFindings_shows f
  unfold languageLine
  simp only [hname, hscores, String.append_assoc]

lemma loopLine_ofFindings (f : Findings) :
    (ofFindings f).loopLine = "Loops: for " ++ (f.loops.forCount.repr ++ (", while " ++
      (f.loops.whileCount.repr ++ (", do-while " ++ (f.loops.doWhileCount.repr ++
        (" (total " ++ (f.loops.total.repr ++ ")"))))))) := by
  obtain ⟨-, -, hloops, -⟩ := ofFindings_shows f
  unfold loopLine
  simp only [hloops, String.append_assoc]

lemma recursionDetails_isEmpty (info : Info) : (recursionSummary info).2.isEmpty = false := by
  by_cases hempty : info.functions.isEmpty
  · rw [recursionSummary, if_pos hempty]
    simp [noFunctionsHint]
  · rw [recursionSummary, if_neg hempty]
    cases info.hasRecursion <;> simp

lemma textLines_ofFindings (f : Findings) :
    (ofFindings f).textLines =
      [(ofFindings f).languageLine, (ofFindings f).loopLine,
        "Nesting depth: " ++ f.nestDepth.repr, (ofFindings f).growthLine,
        (ofFindings f).growthDetails, "Recursion: " ++ (recursionSummary f.recursion).1.text,
        (recursionSummary f.recursion).2, "", (ofFindings f).prose] := by
  obtain ⟨-, -, -, hdepth, hrec, hdetails⟩ := ofFindings_shows f
  rw [textLines, hdepth, hrec, hdetails, recursionDetails_isEmpty]
  simp

lemma oneLine_label (label : Language.Label) : OneLine label.name := by
  cases label <;> exact oneLine_ofList (by decide)

lemma oneLine_growthLabel (loops : Loop.Counts) (recursion : Info) (nestDepth : Nat) :
    OneLine (Growth.estimate loops recursion nestDepth).label := by
  refine oneLine_append.2 ⟨?_, ?_⟩
  · cases Growth.Order.ofShape loops.total nestDepth <;> exact oneLine_ofList (by decide)
  · cases recursion.hasRecursion <;> exact oneLine_ofList (by decide)

lemma oneLine_message (loops : Loop.Counts) (recursion : Info) (nestDepth : Nat) :
    OneLine (Growth.estimate loops recursion nestDepth).message := by
  refine oneLine_append.2 ⟨?_, ?_⟩
  · cases Growth.Order.ofShape loops.total nestDepth <;> exact oneLine_ofList (by decide)
  · cases recursion.hasRecursion
    · exact oneLine_ofList (by decide)
    · exact oneLine_append.2 ⟨oneLine_ofList (by decide), oneLine_ofList (by decide)⟩

lemma oneLine_recursionSummary {info : Info} (h : info.WellFormed) :
    OneLine (recursionSummary info).1.text ∧ OneLine (recursionSummary info).2 := by
  have hfns := oneLine_commaList h.isName
  have hrec := oneLine_commaList fun name hname => h.isName name (h.recursive_subset hname)
  by_cases hempty : info.functions.isEmpty
  · rw [recursionSummary, if_pos hempty]
    exact ⟨oneLine_ofList (by decide), oneLine_ofList (by decide)⟩
  · rw [recursionSummary, if_neg hempty]
    have hdetected : OneLine ("Functions detected: " ++ commaList info.functions) :=
      oneLine_append.2 ⟨oneLine_ofList (by decide), hfns⟩
    cases info.hasRecursion
    · exact ⟨oneLine_ofList (by decide), hdetected⟩
    · refine ⟨oneLine_ofList (by decide), ?_⟩
      simp only [if_true, oneLine_append] at hdetected ⊢
      exact ⟨⟨⟨oneLine_ofList (by decide), hrec⟩, oneLine_ofList (by decide)⟩, hdetected⟩

lemma oneLine_loopBreakdown (loops : Loop.Counts) : OneLine (loopBreakdown loops) := by
  simp only [loopBreakdown, oneLine_append]
  exact ⟨⟨⟨⟨⟨oneLine_ofList (by decide), oneLine_repr _⟩, oneLine_ofList (by decide)⟩,
    oneLine_repr _⟩, oneLine_ofList (by decide)⟩, oneLine_repr _⟩

lemma oneLine_nestingSentence {nestDepth : Nat} {part : String}
    (h : part ∈ nestingSentence nestDepth) : OneLine part := by
  unfold nestingSentence at h
  split at h
  · rw [List.mem_singleton] at h
    subst h
    simp only [oneLine_append]
    exact ⟨⟨⟨oneLine_ofList (by decide), oneLine_repr _⟩, oneLine_ofList (by decide)⟩,
      oneLine_ofList (by decide)⟩
  · split at h
    · rw [List.mem_singleton] at h
      subst h
      exact oneLine_ofList (by decide)
    · contradiction

lemma oneLine_boundedProse {f : Findings} (hf : f.WellFormed) (growth : Growth.Estimate) :
    OneLine (boundedProse growth f) := by
  have hrec := oneLine_commaList fun name hname =>
    hf.recursion.isName name (hf.recursion.recursive_subset hname)
  by_cases hnone : growth.totalLoops = 0 ∧ f.recursion.hasRecursion = false
  · rw [boundedProse, if_pos hnone]
    exact oneLine_append.2 ⟨oneLine_ofList (by decide), oneLine_ofList (by decide)⟩
  · rw [boundedProse, if_neg hnone]
    refine oneLine_intercalate (oneLine_ofList (by decide)) ?_
    intro part hpart
    rw [List.mem_append, List.mem_append, List.mem_singleton] at hpart
    rcases hpart with (rfl | hpart) | hpart
    · simp only [oneLine_append]
      exact ⟨⟨⟨⟨oneLine_ofList (by decide), oneLine_repr _⟩, oneLine_ofList (by decide)⟩,
        oneLine_loopBreakdown _⟩, oneLine_ofList (by decide)⟩
    · exact oneLine_nestingSentence hpart
    · cases hflag : f.recursion.hasRecursion
      · simp [hflag] at hpart
      · rw [hflag, if_pos rfl, List.mem_singleton] at hpart
        subst hpart
        simp only [oneLine_append]
        exact ⟨⟨⟨oneLine_ofList (by decide), hrec⟩, oneLine_ofList (by decide)⟩,
          oneLine_ofList (by decide)⟩

lemma oneLine_endlessProse {f : Findings} (hf : f.WellFormed) : OneLine (endlessProse f) := by
  have hrec := oneLine_commaList fun name hname =>
    hf.recursion.isName name (hf.recursion.recursive_subset hname)
  refine oneLine_intercalate (oneLine_ofList (by decide)) ?_
  intro part hpart
  rw [List.mem_append, List.mem_append, List.mem_append, List.mem_singleton,
    List.mem_singleton] at hpart
  rcases hpart with ((rfl | hpart) | hpart) | rfl
  · refine oneLine_append.2 ⟨oneLine_append.2 ⟨oneLine_ofList (by decide), ?_⟩,
      oneLine_ofList (by decide)⟩
    cases f.endless with
    | none => exact oneLine_ofList (by decide)
    | some kind =>
      refine oneLine_append.2 ⟨oneLine_append.2 ⟨oneLine_ofList (by decide), ?_⟩,
        oneLine_ofList (by decide)⟩
      cases kind <;> exact oneLine_ofList (by decide)
  · split at hpart
    · rw [List.mem_singleton] at hpart
      subst hpart
      exact oneLine_append.2 ⟨oneLine_append.2 ⟨oneLine_ofList (by decide),
        oneLine_loopBreakdown _⟩, oneLine_ofList (by decide)⟩
    · contradiction
  · split at hpart
    · rw [List.mem_singleton] at hpart
      subst hpart
      exact oneLine_append.2 ⟨oneLine_append.2 ⟨oneLine_ofList (by decide), hrec⟩,
        oneLine_ofList (by decide)⟩
    · contradiction
  · exact oneLine_ofList (by decide)

lemma oneLine_textLines {f : Findings} (hf : f.WellFormed) :
    ∀ line ∈ (ofFindings f).textLines, OneLine line := by
  obtain ⟨htext, hdetails⟩ := oneLine_recursionSummary hf.recursion
  have hgrowth : OneLine (ofFindings f).growthLine ∧ OneLine (ofFindings f).growthDetails ∧
      OneLine (ofFindings f).prose := by
    cases he : f.endless with
    | none =>
      rw [ofFindings_of_none hf he]
      refine ⟨?_, oneLine_message _ _ _, oneLine_boundedProse hf _⟩
      simp only [growthLine, bounded, oneLine_append]
      exact ⟨⟨oneLine_ofList (by decide), oneLine_growthLabel _ _ _⟩,
        ⟨oneLine_ofList (by decide), oneLine_repr _⟩, oneLine_ofList (by decide)⟩
    | some kind =>
      rw [ofFindings_of_some hf he]
      refine ⟨?_, ?_, oneLine_endlessProse hf⟩
      · simp only [growthLine, endless, endlessHeadline, oneLine_append]
        exact ⟨⟨oneLine_ofList (by decide), oneLine_ofList (by decide)⟩,
          oneLine_ofList (by decide)⟩
      · exact oneLine_append.2 ⟨oneLine_ofList (by decide), oneLine_ofList (by decide)⟩
  rw [textLines_ofFindings]
  simp only [List.forall_mem_cons, languageLine_ofFindings, loopLine_ofFindings, oneLine_append]
  refine ⟨⟨oneLine_ofList (by decide), ⟨oneLine_label _, oneLine_ofList (by decide)⟩,
      oneLine_repr _, oneLine_ofList (by decide), oneLine_repr _, oneLine_ofList (by decide)⟩,
    ⟨oneLine_ofList (by decide), oneLine_repr _, oneLine_ofList (by decide), oneLine_repr _,
      oneLine_ofList (by decide), oneLine_repr _, oneLine_ofList (by decide), oneLine_repr _,
      oneLine_ofList (by decide)⟩,
    ⟨oneLine_ofList (by decide), oneLine_repr _⟩, hgrowth.1, hgrowth.2.1,
    ⟨oneLine_ofList (by decide), htext⟩, hdetails, oneLine_ofList (by decide), hgrowth.2.2, ?_⟩
  simp

lemma name_injective {l m : Language.Label} (h : l.name = m.name) : l = m := by
  cases l <;> cases m <;> first | rfl | exact absurd h (by simp [Language.Label.name])

/-- No label holds a digit, so the first digit of the line starts the first score. -/
lemma all_label_not_digit (label : Language.Label) :
    ∀ c ∈ label.name.toList ++ " (C score: ".toList, (!c.isDigit) = true := by
  cases label <;> simp [Language.Label.name]

lemma languageLine_inj {f g : Findings}
    (h : (ofFindings f).languageLine = (ofFindings g).languageLine) : f.language = g.language := by
  have hl := congrArg String.toList h
  simp only [languageLine_ofFindings, String.toList_append] at hl
  obtain ⟨hname, hl⟩ := append_inj_of_all (all_label_not_digit _) (all_label_not_digit _)
    (fun c hc => by rw [isDigit_of_mem_head?_repr hc, Bool.not_true])
    (fun c hc => by rw [isDigit_of_mem_head?_repr hc, Bool.not_true])
    (List.append_cancel_left hl)
  obtain ⟨hc, hl⟩ := repr_append_inj (by simp) (by simp) hl
  obtain ⟨hj, -⟩ := repr_append_inj (by simp) (by simp) (List.append_cancel_left hl)
  have hlabel := name_injective (String.toList_inj.1 (List.append_cancel_right hname))
  cases hf : f.language
  cases hg : g.language
  simp_all

lemma loopLine_inj {f g : Findings}
    (h : (ofFindings f).loopLine = (ofFindings g).loopLine) : f.loops = g.loops := by
  have hl := congrArg String.toList h
  simp only [loopLine_ofFindings, String.toList_append] at hl
  obtain ⟨hfor, hl⟩ := repr_append_inj (by simp) (by simp) (List.append_cancel_left hl)
  obtain ⟨hwhile, hl⟩ := repr_append_inj (by simp) (by simp) (List.append_cancel_left hl)
  obtain ⟨hdo, -⟩ := repr_append_inj (by simp) (by simp) (List.append_cancel_left hl)
  cases hf : f.loops
  cases hg : g.loops
  simp_all

lemma depthLine_inj {n m : Nat} (h : "Nesting depth: " ++ n.repr = "Nesting depth: " ++ m.repr) :
    n = m := by
  have hl := congrArg String.toList h
  simp only [String.toList_append, List.append_cancel_left_eq] at hl
  exact (repr_append_inj (r := []) (s := []) (by simp) (by simp) (by simpa using hl)).1

/-- Every estimate starts with the letter O, which the headline for endless loops does not. -/
lemma toList_growthLine {f : Findings} (hf : f.WellFormed) :
    ∃ c rest, (ofFindings f).growthLine.toList = "Complexity: ".toList ++ c :: rest ∧
      (f.endless.isSome = true ↔ c = 'N') := by
  cases he : f.endless with
  | none =>
    rw [ofFindings_of_none hf he]
    simp only [growthLine, bounded, Growth.estimate, String.toList_append, List.append_assoc]
    cases Growth.Order.ofShape f.loops.total f.nestDepth <;> exact ⟨'O', _, rfl, by decide⟩
  | some kind =>
    rw [ofFindings_of_some hf he]
    simp only [growthLine, endless, endlessHeadline, String.toList_append, List.append_assoc]
    exact ⟨'N', _, rfl, by simp⟩

lemma growthLine_inj {f g : Findings} (hf : f.WellFormed) (hg : g.WellFormed)
    (h : (ofFindings f).growthLine = (ofFindings g).growthLine) :
    f.endless.isSome = g.endless.isSome := by
  obtain ⟨c, r, hr, hc⟩ := toList_growthLine hf
  obtain ⟨d, s, hs, hd⟩ := toList_growthLine hg
  have hl := congrArg String.toList h
  rw [hr, hs] at hl
  obtain ⟨rfl, -⟩ := List.cons.inj (List.append_cancel_left hl)
  exact Bool.eq_iff_iff.2 (hc.trans hd.symm)

lemma eq_of_functions_of_recursive {r s : Info} (hr : r.WellFormed) (hs : s.WellFormed)
    (hfns : r.functions = s.functions) (hrec : r.recursive = s.recursive) : r = s := by
  have hflag : r.hasRecursion = s.hasRecursion := by
    rw [hr.hasRecursion_eq, hs.hasRecursion_eq, hrec]
  cases r
  cases s
  simp_all

lemma recursive_eq_nil {info : Info} (h : info.WellFormed)
    (hfns : info.functions = [] ∨ info.hasRecursion = false) : info.recursive = [] := by
  rcases hfns with hfns | hflag
  · exact List.subset_nil.1 (hfns ▸ h.recursive_subset)
  · simpa [h.hasRecursion_eq] using hflag

/-- The three headlines on recursion differ, and the details below them list the names. -/
lemma recursionSummary_cases (info : Info) :
    (info.functions = [] ∧
      (recursionSummary info).1.text = "No functions detected") ∨
    (info.functions ≠ [] ∧ info.hasRecursion = false ∧
      (recursionSummary info).1.text = "No recursion found" ∧
      (recursionSummary info).2 = "Functions detected: " ++ commaList info.functions) ∨
    (info.functions ≠ [] ∧ info.hasRecursion = true ∧
      (recursionSummary info).1.text = "Recursion detected" ∧
      (recursionSummary info).2 = "Recursive functions: " ++ commaList info.recursive ++ ". " ++
        ("Functions detected: " ++ commaList info.functions)) := by
  by_cases hempty : info.functions.isEmpty
  · left
    rw [recursionSummary, if_pos hempty]
    exact ⟨List.isEmpty_iff.1 hempty, rfl⟩
  · have hne : info.functions ≠ [] := fun h => hempty (List.isEmpty_iff.2 h)
    rw [recursionSummary, if_neg hempty]
    cases hflag : info.hasRecursion
    · exact .inr (.inl ⟨hne, rfl, rfl, rfl⟩)
    · exact .inr (.inr ⟨hne, rfl, rfl, rfl⟩)

/-- The summary of a well-formed recursion info, by what it says in its headline. -/
lemma recursionSummary_inj {r s : Info} (hr : r.WellFormed) (hs : s.WellFormed)
    (hhead : (recursionSummary r).1.text = (recursionSummary s).1.text)
    (hdetails : (recursionSummary r).2 = (recursionSummary s).2) : r = s := by
  rcases recursionSummary_cases r with ⟨hrf, hrt⟩ | ⟨-, hrn, hrt, hrd⟩ | ⟨-, -, hrt, hrd⟩ <;>
    rcases recursionSummary_cases s with ⟨hsf, hst⟩ | ⟨-, hsn, hst, hsd⟩ | ⟨-, -, hst, hsd⟩ <;>
    simp [hrt, hst] at hhead
  · apply eq_of_functions_of_recursive hr hs (hrf.trans hsf.symm)
    rw [recursive_eq_nil hr (.inl hrf), recursive_eq_nil hs (.inl hsf)]
  · rw [hrd, hsd, String.append_right_inj] at hdetails
    apply eq_of_functions_of_recursive hr hs (commaList_inj hr.isName hs.isName hdetails)
    rw [recursive_eq_nil hr (.inr hrn), recursive_eq_nil hs (.inr hsn)]
  · have hnames : ∀ {info : Info}, info.WellFormed →
        ∀ name ∈ info.recursive, IsName name.toList :=
      fun h name hname => h.isName name (h.recursive_subset hname)
    have hl := congrArg String.toList (hrd.symm.trans (hdetails.trans hsd))
    simp only [String.toList_append, List.append_assoc, show ". ".toList = ['.', ' '] by simp,
      List.cons_append, List.append_cancel_left_eq] at hl
    obtain ⟨hrec, hl⟩ := append_cons_inj_of_notMem
      (notMem_commaList (by decide) (by decide) (hnames hr))
      (notMem_commaList (by decide) (by decide) (hnames hs)) hl
    simp only [List.cons.injEq, true_and, List.nil_append, List.append_cancel_left_eq] at hl
    exact eq_of_functions_of_recursive hr hs
      (commaList_inj hr.isName hs.isName (String.toList_inj.1 hl))
      (commaList_inj (hnames hr) (hnames hs) (String.toList_inj.1 hrec))

lemma toList_endlessProse {f : Findings} {kind : Loop.Endless} (h : f.endless = some kind) :
    ∃ rest, (endlessProse f).toList =
      "The analyzer found an infinite loop pattern".toList ++ (" (".toList ++
        (kind.describe.toList ++ (")".toList ++ (".".toList ++ rest)))) := by
  unfold endlessProse
  simp only [h, List.append_assoc, List.cons_append]
  rw [String.intercalate_cons_of_ne_nil (by simp)]
  simp only [String.toList_append, List.append_assoc]
  exact ⟨_, rfl⟩

lemma endlessProse_inj {f g : Findings} {kind kind' : Loop.Endless} (hf : f.endless = some kind)
    (hg : g.endless = some kind') (h : endlessProse f = endlessProse g) : kind = kind' := by
  obtain ⟨r, hr⟩ := toList_endlessProse hf
  obtain ⟨s, hs⟩ := toList_endlessProse hg
  have hl := congrArg String.toList h
  rw [hr, hs] at hl
  have hl := List.append_cancel_left (List.append_cancel_left hl)
  cases kind <;> cases kind' <;> first | rfl | exact absurd hl (by simp [Loop.Endless.describe])

lemma endless_inj {f g : Findings} (hf : f.WellFormed) (hg : g.WellFormed)
    (hgrowth : (ofFindings f).growthLine = (ofFindings g).growthLine)
    (hprose : (ofFindings f).prose = (ofFindings g).prose) : f.endless = g.endless := by
  have hsome := growthLine_inj hf hg hgrowth
  cases hfe : f.endless with
  | none =>
    rw [hfe] at hsome
    exact (Option.isSome_eq_false_iff.1 hsome.symm |> Option.isNone_iff_eq_none.1).symm
  | some kind =>
    rw [hfe] at hsome
    obtain ⟨kind', hge⟩ := Option.isSome_iff_exists.1 hsome.symm
    rw [ofFindings_of_some hf hfe, ofFindings_of_some hg hge] at hprose
    rw [hge, endlessProse_inj hfe hge hprose]

/-- Well-formed findings with the same text are the same. The growth estimate and the flag for
endless loops are determined by the fields that the lines give. -/
theorem eq_of_text_eq {f g : Findings} (hf : f.WellFormed) (hg : g.WellFormed)
    (h : (ofFindings f).text = (ofFindings g).text) : f = g := by
  have hlines : (ofFindings f).textLines = (ofFindings g).textLines :=
    lines_inj (oneLine_textLines hf) (oneLine_textLines hg)
      (by rw [textLines_ofFindings]; exact List.cons_ne_nil _ _)
      (by rw [textLines_ofFindings]; exact List.cons_ne_nil _ _) h
  rw [textLines_ofFindings, textLines_ofFindings] at hlines
  simp only [List.cons.injEq] at hlines
  obtain ⟨hlanguage, hloops, hdepth, hgrowth, -, hhead, hdetails, -, hprose, -⟩ := hlines
  have hlanguage := languageLine_inj hlanguage
  have hloops := loopLine_inj hloops
  have hdepth := depthLine_inj hdepth
  have hrecursion := recursionSummary_inj hf.recursion hg.recursion
    (String.append_right_inj _ |>.1 hhead) hdetails
  have hendless := endless_inj hf hg hgrowth hprose
  have hflag := hf.endlessLoop_eq.trans (hendless ▸ hg.endlessLoop_eq.symm)
  have hestimate : f.growth = g.growth := by
    rw [hf.growth_eq, hg.growth_eq, hendless, hloops, hrecursion, hdepth]
  cases f
  cases g
  simp_all

lemma toList_text (e : Explanation) : ∃ rest, e.text.toList = e.languageLine.toList ++ rest := by
  rw [text, textLines, List.cons_append, List.cons_append,
    String.intercalate_cons_of_ne_nil (by simp), String.append_assoc,
    String.toList_append]
  exact ⟨_, rfl⟩

/-- The display before any analysis has a dash where a report names the language. -/
lemma text_empty_ne (f : Findings) : empty.text ≠ (ofFindings f).text := by
  intro h
  have hl := congrArg String.toList h
  obtain ⟨r, hr⟩ := toList_text empty
  obtain ⟨s, hs⟩ := toList_text (ofFindings f)
  have hempty : empty.languageLine = "Detected language: " ++ "–" ++ "" := rfl
  rw [hr, hs, hempty, languageLine_ofFindings] at hl
  simp only [String.toList_append, List.append_assoc, List.append_cancel_left_eq] at hl
  cases hlabel : f.language.label <;> rw [hlabel] at hl <;>
    exact absurd hl (by simp [Language.Label.name])

end Explanation

/-- The text shown for a source determines its analysis as a whole. -/
theorem text_explain_analyze_inj (source source' : List Char) :
    (explain (analyze source)).text = (explain (analyze source')).text ↔
      analyze source = analyze source' := by
  refine ⟨?_, fun h => by rw [h]⟩
  have hanalyze : ∀ s, analyze s = .empty ∨
      ∃ f : Findings, f.WellFormed ∧ analyze s = .report f := by
    intro s
    by_cases hblank : (trim s).isEmpty
    · exact .inl (if_pos hblank)
    · exact .inr ⟨_, Findings.ofCleaned_wellFormed _, if_neg hblank⟩
  intro h
  rcases hanalyze source with he | ⟨f, hf, he⟩ <;>
    rcases hanalyze source' with he' | ⟨g, hg, he'⟩ <;> rw [he, he'] at h ⊢
  · exact absurd h (Explanation.text_empty_ne g)
  · exact absurd h.symm (Explanation.text_empty_ne f)
  · rw [Explanation.eq_of_text_eq hf hg h]

end CodeGrowth
