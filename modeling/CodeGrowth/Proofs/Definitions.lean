import CodeGrowth.Proofs.AnalysisStates
import CodeGrowth.Proofs.CallSites
import CodeGrowth.Proofs.Cuts
import Mathlib.Data.List.Perm.Subperm

/-!
# Definitions piece by piece

Semicolons and opening braces cut a text into pieces, and a definition lies within one of them. A
piece defines a function if a brace ends it and it closes a parenthesis last of all: the function is
the first one called in the piece, and what comes between its name and the brace is taken for
parameters, other headers included. So a brace stands for one definition at most.

A header starts wherever a name does, but the search for headers never starts one within a word: if
the whole word heads no definition, an end of it heads none either. So each defined name is a whole
word and the name of a call site, and a function is recursive if its name has another one.
-/
namespace CodeGrowth.Recursion
open Text

variable {c d : Char} {cs g piece name rest text : List Char} {cut : Cut}

/-- The last character, white space apart, closes a parenthesis. -/
def Closes (piece : List Char) : Prop := (trimEnd piece).getLast? = some ')'

instance (piece : List Char) : Decidable (Closes piece) :=
  inferInstanceAs (Decidable ((trimEnd piece).getLast? = some ')'))

lemma closes_append : Closes (cs ++ piece) ↔ Closes piece ∨ AllBlank piece ∧ Closes cs := by
  simp only [Closes, getLast?_trimEnd, List.filter_append, List.getLast?_append,
    ← filter_not_blank_eq_nil_iff]
  cases h : (piece.filter (!isBlank ·)).getLast? with
  | none => simp [List.getLast?_eq_none_iff.1 h]
  | some last =>
    have hne : piece.filter (!isBlank ·) ≠ [] := by
      intro hnil
      rw [hnil] at h
      contradiction
    simp [hne]

lemma closes_iff : Closes piece ↔ ∃ q g, AllBlank g ∧ piece = q ++ ')' :: g := by
  constructor
  · intro h
    obtain ⟨q, hq⟩ := List.getLast?_eq_some_iff.1 h
    obtain ⟨g, hg, hpiece⟩ := exists_trimEnd_append piece
    rw [hq, List.append_assoc] at hpiece
    exact ⟨q, g, hg, hpiece⟩
  · rintro ⟨q, g, hg, rfl⟩
    have hclose : ¬ AllBlank [')'] := by decide
    rw [Closes, ← List.singleton_append, ← List.append_assoc, trimEnd_append_of_allBlank hg,
      trimEnd_append_of_not_allBlank hclose]
    simp [trimEnd, isBlank]

/-- What stands before an opening parenthesis does not matter. -/
lemma closes_append_paren (cs rest : List Char) : Closes (cs ++ '(' :: rest) ↔ Closes rest := by
  have hopen : ¬ Closes ['('] := by decide
  have hblank : ¬ AllBlank ['('] := by decide
  rw [← List.singleton_append, ← List.append_assoc, closes_append, closes_append]
  simp [hopen, hblank]

lemma afterHeader?_append (hpiece : ∀ d ∈ piece, endsHeader d = false) (hc : endsHeader c = true)
    (rest : List Char) :
    afterHeader? (piece ++ c :: rest) = if c = '{' ∧ Closes piece then some rest else none := by
  have hpiece' : ∀ d ∈ piece, (!endsHeader d) = true := by simpa using hpiece
  have htake : (c :: rest).takeWhile (!endsHeader ·) = [] := by simp [hc]
  have hdrop : (c :: rest).dropWhile (!endsHeader ·) = c :: rest := by simp [hc]
  rw [afterHeader?_eq, List.takeWhile_append_of_pos hpiece', htake, List.append_nil,
    List.dropWhile_append_of_pos hpiece', hdrop, ← getLast?_trimEnd]
  by_cases hbrace : c = '{'
  · simp [hbrace, after?, Closes]
  · simp [hbrace, after?, Ne.symm hbrace]

lemma afterHeader?_eq_some_iff : afterHeader? cs = some rest ↔
    ∃ params, (∀ d ∈ params, endsHeader d = false) ∧ Closes params ∧
      cs = params ++ '{' :: rest := by
  constructor
  · intro h
    obtain ⟨hcloses, hbrace⟩ := Option.ite_none_right_eq_some.1 ((afterHeader?_eq cs).symm.trans h)
    refine ⟨cs.takeWhile (!endsHeader ·), fun d hd => ?_, ?_, ?_⟩
    · simpa using List.mem_takeWhile_imp hd
    · rwa [Closes, getLast?_trimEnd]
    · have hdrop := after?_eq_some_iff.1 hbrace
      rw [List.singleton_append] at hdrop
      rw [← hdrop, List.takeWhile_append_dropWhile]
  · rintro ⟨params, hparams, hcloses, rfl⟩
    rw [afterHeader?_append hparams (by decide), if_pos ⟨rfl, hcloses⟩]

/-- The header of a definition is a name, any white space, and a parenthesised part in which other
parentheses may close and open, with any white space before the brace. -/
lemma definition?_eq_some_iff : definition? cs = some (name, rest) ↔
    IsName name ∧ ∃ g params, AllBlank g ∧ (∀ d ∈ params, endsHeader d = false) ∧ Closes params ∧
      cs = name ++ (g ++ '(' :: (params ++ '{' :: rest)) := by
  constructor
  · intro h
    have hname := isName_of_definition? h
    rw [definition?, Option.ite_none_left_eq_some] at h
    obtain ⟨_, hheader, heq⟩ := Option.map_eq_some_iff.1 h.2
    obtain ⟨rfl, rfl⟩ := Prod.mk.inj heq
    obtain ⟨_, hparen, hheader⟩ := Option.bind_eq_some_iff.1 hheader
    obtain ⟨params, hparams, hcloses, rfl⟩ := afterHeader?_eq_some_iff.1 hheader
    obtain ⟨g, hg, hword⟩ := afterParen?_eq_some_iff.1 hparen
    exact ⟨hname, g, params, hg, hparams, hcloses, by rw [← hword, leadingWord_append_afterWord]⟩
  · rintro ⟨hname, g, params, hg, hparams, hcloses, rfl⟩
    have hend : EndsWord (g ++ '(' :: (params ++ '{' :: rest)) :=
      endsWord_allBlank_append hg (endsWord_cons.2 isWord_paren)
    have hparen :
        afterParen? (g ++ '(' :: (params ++ '{' :: rest)) = some (params ++ '{' :: rest) :=
      afterParen?_eq_some_iff.2 ⟨g, hg, rfl⟩
    have hheader : afterHeader? (params ++ '{' :: rest) = some rest :=
      afterHeader?_eq_some_iff.2 ⟨params, hparams, hcloses, rfl⟩
    simp [definition?, leadingWord_word_append hname.2 hend, afterWord_word_append hname.2 hend,
      hparen, hheader, hname.1]

lemma definedNames_nil : definedNames [] = [] := by
  rw [definedNames]
  rfl

/-- A word that is no defined name has no such name at its end either. -/
lemma definedNames_tail (h : definition? (c :: cs) = none) :
    definedNames (c :: cs) = definedNames cs := by
  rw [definedNames_of_none h]
  split
  · next hc =>
    refine apply_afterWord ?_
    rintro d cs rfl hd
    have htail : definition? (d :: cs) = none := by
      simpa [definition?, leadingWord, afterWord, hc, hd] using h
    rw [definedNames_of_none htail, if_pos hd]
  · rfl

/-- The names that a search finds which tries every place, those inside words too. -/
def searchDefinitions (text : List Char) : List (List Char) :=
  match _ : definition? text with
  | some (name, rest) => name :: searchDefinitions rest
  | none =>
    match text with
    | [] => []
    | _ :: cs => searchDefinitions cs
termination_by text.length
decreasing_by
  · exact length_definition?_lt ‹definition? _ = some _›
  · simp

theorem searchDefinitions_eq (text : List Char) : searchDefinitions text = definedNames text := by
  fun_induction searchDefinitions text with
  | case1 text name rest hdef ih => rw [definedNames_of_some hdef, ih]
  | case2 => exact definedNames_nil.symm
  | case3 c cs hnone ih => rw [definedNames_tail hnone, ih]

/-- Each definition takes a brace of its own. -/
lemma length_definedNames_le (text : List Char) : (definedNames text).length ≤ text.count '{' := by
  rw [← searchDefinitions_eq]
  fun_induction searchDefinitions text with
  | case1 text name rest hdef ih =>
    obtain ⟨-, g, params, -, -, -, rfl⟩ := definition?_eq_some_iff.1 hdef
    have hbrace : ('(' :: (params ++ '{' :: rest)).count '{' =
        params.count '{' + (rest.count '{' + 1) := by
      rw [List.count_cons_of_ne (by decide), List.count_append, List.count_cons_self]
    rw [List.length_cons, List.count_append, List.count_append, hbrace]
    omega
  | case2 => exact Nat.zero_le _
  | case3 c cs hnone ih =>
    rw [List.count_cons]
    omega

/-- The name that a piece with this behind it defines. -/
def definedBy? : List Char × List Char → Option (List Char)
  | (piece, stop) => if stop = ['{'] ∧ Closes piece then (callSites piece).head? else none

/-- Of a piece and what ends it, it depends whether the call site at its start is a definition. -/
lemma definition?_append (hpiece : ∀ d ∈ piece, endsHeader d = false) (hc : endsHeader c = true)
    (rest : List Char) :
    definition? (piece ++ c :: rest) =
      if c = '{' ∧ Closes piece then (siteAt? ⟨none, piece⟩).map (·, rest) else none := by
  have hend : EndsWord (c :: rest) := endsWord_cons.2 (isWord_of_endsHeader hc)
  rw [definition?, leadingWord_append hend, afterWord_append hend, afterParen?_append hc, siteAt?,
    Spot.startsWord]
  by_cases hword : (leadingWord piece).isEmpty = true
  · simp [hword]
  · cases hparen : afterParen? (afterWord piece) with
    | none => simp [hword]
    | some params =>
      obtain ⟨g, -, hafter⟩ := afterParen?_eq_some_iff.1 hparen
      have hsplit : piece = leadingWord piece ++ g ++ '(' :: params := by
        rw [List.append_assoc, ← hafter, leadingWord_append_afterWord]
      have hparams : ∀ d ∈ params, endsHeader d = false := by
        intro d hd
        refine hpiece d ?_
        rw [hsplit]
        exact List.mem_append_right _ (List.mem_cons_of_mem _ hd)
      have hcloses : Closes piece ↔ Closes params := by
        rw [hsplit]
        exact closes_append_paren _ params
      rw [if_neg hword, Option.map_some, Option.bind_some, afterHeader?_append hparams hc]
      simp only [hcloses]
      split <;> simp [hword]

/-- The first character of a piece is passed over if no definition starts there. -/
lemma definedBy?_tail (h : ¬ (c = '{' ∧ Closes (d :: piece)) ∨ siteAt? ⟨none, d :: piece⟩ = none) :
    definedBy? (d :: piece, [c]) = definedBy? (piece, [c]) := by
  have hcons : Closes (d :: piece) ↔ Closes piece ∨ AllBlank piece ∧ Closes [d] := by
    rw [← List.singleton_append, closes_append]
  simp only [definedBy?, List.cons.injEq, and_true]
  by_cases hboth : c = '{' ∧ Closes (d :: piece)
  · have hsite := h.resolve_left (not_not_intro hboth)
    rw [if_pos hboth, callSites_tail hsite]
    obtain hcloses | ⟨hblank, -⟩ := hcons.1 hboth.2
    · rw [if_pos ⟨hboth.1, hcloses⟩]
    · have hnil := callSites_append_of_not_isWord (fun d hd => isWord_of_isBlank (hblank d hd)) []
      rw [List.append_nil] at hnil
      rw [hnil]
      exact (ite_self none).symm
  · rw [if_neg hboth, if_neg fun hrest => hboth ⟨hrest.1, hcons.2 (.inl hrest.2)⟩]

lemma definedNames_append (hpiece : ∀ d ∈ piece, endsHeader d = false) (hc : endsHeader c = true)
    (rest : List Char) :
    definedNames (piece ++ c :: rest) = (definedBy? (piece, [c])).toList ++ definedNames rest := by
  induction piece with
  | nil =>
    have hnil : ¬ Closes [] := by decide
    have hnone := definition?_append hpiece hc rest
    rw [if_neg fun h => hnil h.2] at hnone
    rw [List.nil_append, definedNames_tail hnone, definedBy?, if_neg fun h => hnil h.2]
    rfl
  | cons d piece ih =>
    have hdef := definition?_append hpiece hc rest
    have hrest := ih fun e he => hpiece e (List.mem_cons_of_mem d he)
    rw [List.cons_append] at hdef ⊢
    split_ifs at hdef with hboth
    · cases hsite : siteAt? ⟨none, d :: piece⟩ with
      | some name =>
        rw [hsite, Option.map_some] at hdef
        rw [definedNames_of_some hdef, definedBy?, if_pos ⟨by rw [hboth.1], hboth.2⟩,
          callSites_cons, hsite]
        rfl
      | none =>
        rw [hsite, Option.map_none] at hdef
        rw [definedNames_tail hdef, hrest, definedBy?_tail (.inr hsite)]
    · rw [definedNames_tail hdef, hrest, definedBy?_tail (.inl hboth)]

lemma definedNames_of_forall (h : ∀ d ∈ text, endsHeader d = false) : definedNames text = [] := by
  have hbrace : '{' ∉ text := by
    intro hmem
    have hend := h '{' hmem
    contradiction
  have hlength := length_definedNames_le text
  rw [List.count_eq_zero_of_not_mem hbrace, Nat.le_zero, List.length_eq_zero_iff] at hlength
  exact hlength

theorem definedNames_text (hcut : cut.AtFirst (Single endsHeader)) :
    definedNames cut.text = cut.parts.filterMap definedBy? := by
  induction cut with
  | last stretch => exact definedNames_of_forall (noneBegins_single.1 hcut)
  | part piece stop rest ih =>
    obtain ⟨⟨c, hc, rfl⟩, hpiece, hrest⟩ := hcut
    rw [Cut.text, List.singleton_append, definedNames_append (noneBegins_single.1 hpiece) hc,
      ih hrest, Cut.parts, List.filterMap_cons]
    cases definedBy? (piece, [c]) <;> rfl

theorem callSites_text (hcut : cut.AtFirst (Single endsHeader)) :
    callSites cut.text = cut.parts.flatMap (callSites ·.1) ++ callSites cut.lastStretch := by
  induction cut with
  | last stretch => rfl
  | part piece stop rest ih =>
    obtain ⟨⟨c, hc, rfl⟩, -, hrest⟩ := hcut
    rw [Cut.text, List.singleton_append, callSites_append hc, ih hrest, Cut.parts,
      List.flatMap_cons, List.append_assoc]
    rfl

/-- The header of a definition is a call site. -/
lemma mem_callSites_of_mem_definedNames (h : name ∈ definedNames text) : name ∈ callSites text := by
  have hcut := atFirst_cutAt endsHeader text
  rw [← text_cutAt endsHeader text, definedNames_text hcut] at h
  obtain ⟨⟨piece, stop⟩, hpart, hdefined⟩ := List.mem_filterMap.1 h
  have hfirst := (Option.ite_none_right_eq_some.1 hdefined).2
  rw [← text_cutAt endsHeader text, callSites_text hcut]
  exact List.mem_append_left _ (List.mem_flatMap.2 ⟨_, hpart, List.mem_of_head? hfirst⟩)

/-- The distinct names that are no keywords, in the order of their first occurrences. -/
def distinctFunctions (names : List (List Char)) : List String :=
  ((names.filter (!controlKeywords.contains ·)).eraseDups).map String.ofList

/-- The word is called in the text, and no other word before it. -/
def FirstCalled (name text : List Char) : Prop :=
  ∃ before ahead, text = before ++ ahead ∧ CalledAt name before ahead ∧
    ∀ other before' ahead', text = before' ++ ahead' → CalledAt other before' ahead' →
      before.length ≤ before'.length

lemma definedBy?_eq_some_iff {stop : List Char} : definedBy? (piece, stop) = some name ↔
    stop = ['{'] ∧ (∃ q g, AllBlank g ∧ piece = q ++ ')' :: g) ∧ FirstCalled name piece := by
  rw [definedBy?, Option.ite_none_right_eq_some, head?_callSites_eq_some_iff, closes_iff, and_assoc]
  rfl

lemma functions_eq (text : List Char) :
    (detect text).functions = distinctFunctions (definedNames text) := rfl

lemma functions_eq_cutAt (text : List Char) :
    (detect text).functions =
      distinctFunctions ((cutAt endsHeader text).parts.filterMap definedBy?) := by
  rw [functions_eq, ← definedNames_text (atFirst_cutAt endsHeader text), text_cutAt]

lemma toList_mem_of_mem_functions {name : String} (h : name ∈ (detect text).functions) :
    name.toList ∈ definedNames text := by
  obtain ⟨cs, hcs, rfl⟩ := List.mem_map.1 h
  rw [functionsIn, List.mem_eraseDups, List.mem_filter] at hcs
  rw [String.toList_ofList]
  exact hcs.1

lemma length_functions_le (text : List Char) :
    (detect text).functions.length ≤ (definedNames text).length := by
  rw [functions_eq, distinctFunctions, List.length_map]
  have hsubset : (List.filter (!controlKeywords.contains ·) (definedNames text)).eraseDups ⊆
      List.filter (!controlKeywords.contains ·) (definedNames text) :=
    fun name hname => List.mem_eraseDups.1 hname
  exact (List.subperm_of_subset (nodup_eraseDups _) hsubset).length_le.trans
    (List.length_filter_le _ _)

/-- Pieces decide which functions a text has, though the search for headers tries every place and
goes on behind each header it finds. -/
theorem functions_pieces (text : List Char) :
    (detect text).functions = distinctFunctions (searchDefinitions text) ∧
      (detect text).functions =
        distinctFunctions ((cutAt endsHeader text).parts.filterMap definedBy?) ∧
      (∀ piece stop name, definedBy? (piece, stop) = some name ↔
        stop = ['{'] ∧ (∃ q g, AllBlank g ∧ piece = q ++ ')' :: g) ∧ FirstCalled name piece) ∧
      (detect text).functions.length ≤ text.count '{' ∧
      ∀ name ∈ (detect text).functions, (wholeWord name.toList).occursIn text = true := by
  refine ⟨?_, functions_eq_cutAt text, fun piece stop name => definedBy?_eq_some_iff, ?_, ?_⟩
  · rw [functions_eq, searchDefinitions_eq]
  · exact (length_functions_le text).trans (length_definedNames_le text)
  · intro name hname
    have hmem := toList_mem_of_mem_functions hname
    have hcount := List.count_pos_iff.2 (mem_callSites_of_mem_definedNames hmem)
    rw [Phrase.occursIn_iff_countIn_pos]
    exact hcount.trans_le (count_callSites_le (isName_of_mem_definedNames hmem) text)

/-- A second header before the same brace, a keyword, a semicolon and a missing name. -/
def sharedBrace : List Char := "f (a) g (b) \x7b if (c) \x7b h (d); (e) \x7b f(".toList

theorem functions_pieces_sharedBrace :
    (detect sharedBrace).functions = ["f"] ∧
      (wholeWord "f".toList).occursIn sharedBrace = true := by
  have hfunctions : (detect sharedBrace).functions = ["f"] :=
    (functions_pieces _).2.1.trans (by decide +kernel)
  have hmem : "f" ∈ (detect sharedBrace).functions := by
    rw [hfunctions]
    exact List.mem_singleton_self "f"
  exact ⟨hfunctions, (functions_pieces _).2.2.2.2 "f" hmem⟩

lemma recursive_eq (text : List Char) :
    (detect text).recursive =
      (detect text).functions.filter fun name => 1 < (callSites text).count name.toList := by
  simp only [detect, List.filter_map, Function.comp_def, String.toList_ofList]

/-- The table of call sites has for each name the number of places where it is called, so that
definitions are counted in it as well as calls. -/
theorem detect_siteTable (text : List Char) :
    (∀ name : String, IsName name.toList →
      (siteTable text).getD name 0 = ((List.range text.length).countP fun i =>
        CalledAt name.toList (text.take i) (text.drop i)) ∧
      (siteTable text).getD name 0 = (calling name.toList).searchFrom 0 none text) ∧
      (∀ name ∈ (detect text).functions, 1 ≤ (siteTable text).getD name 0) ∧
      (detect text).recursive =
        (detect text).functions.filter (fun name => 2 ≤ (siteTable text).getD name 0) ∧
      ∀ name, (wholeWord name.toList).countIn text ≤ 1 → name ∉ (detect text).recursive := by
  simp only [getD_siteTable]
  refine ⟨fun name hname => ⟨?_, ?_⟩, ?_, recursive_eq text, ?_⟩
  · exact count_callSites_eq_countP text name.toList
  · exact count_callSites_eq_searchFrom hname text
  · intro name hname
    have hmem := toList_mem_of_mem_functions hname
    exact List.count_pos_iff.2 (mem_callSites_of_mem_definedNames hmem)
  · intro name honce hmem
    rw [recursive_eq, List.mem_filter, decide_eq_true_eq] at hmem
    have hname := isName_of_mem_definedNames (toList_mem_of_mem_functions hmem.1)
    have hle := (count_callSites_le hname text).trans honce
    omega

/-- Calls within the arguments of another one, and a function that is not called. -/
def nestedCalls : List Char := "f(n) \x7b return g(f(f(n))); \x7d h(n) \x7b g(n); \x7d".toList

theorem detect_siteTable_nestedCalls :
    (siteTable nestedCalls).getD "f" 0 = 3 ∧ 1 ≤ (siteTable nestedCalls).getD "h" 0 ∧
      (detect nestedCalls).recursive = ["f"] ∧ "h" ∉ (detect nestedCalls).recursive := by
  have hfunctions : (detect nestedCalls).functions = ["f", "h"] :=
    (functions_eq_cutAt _).trans (by decide +kernel)
  have hf : (siteTable nestedCalls).getD "f" 0 = 3 :=
    ((detect_siteTable _).1 "f" ⟨by decide, List.all_eq_true.1 (by decide)⟩).1.trans
      (by decide +kernel)
  have hh : (siteTable nestedCalls).getD "h" 0 = 1 :=
    ((detect_siteTable _).1 "h" ⟨by decide, List.all_eq_true.1 (by decide)⟩).1.trans
      (by decide +kernel)
  refine ⟨hf, (detect_siteTable _).2.1 "h" (by simp [hfunctions]), ?_,
    (detect_siteTable _).2.2.2 "h" (by decide +kernel)⟩
  rw [(detect_siteTable _).2.2.1, hfunctions]
  simp [hf, hh]

end CodeGrowth.Recursion
