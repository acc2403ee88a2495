import CodeGrowth.Proofs.Findings
import CodeGrowth.Proofs.Headers
import CodeGrowth.Proofs.Layout
import CodeGrowth.Proofs.Occurrences
import Mathlib.Data.List.Count

/-!
# Call sites

A call site is a whole word, any white space, and an opening parenthesis. Two sites share no
character but white space and parentheses of their own, so a search that goes on behind each site it
finds comes to all of them, and a table of what it finds has the same number for a name as a search
for that name alone.

Words are read as a whole: past the end of a word, or past a character outside words, the sites are
those of the text from there. A semicolon or an opening brace comes between the sites on both of its
sides.
-/
namespace CodeGrowth.Text

lemma afterWord_append {rest : List Char} (h : EndsWord rest) (cs : List Char) :
    afterWord (cs ++ rest) = afterWord cs ++ rest := by
  have hsplit := leadingWord_append_afterWord (cs ++ rest)
  have hword : leadingWord cs ++ (afterWord cs ++ rest) = cs ++ rest := by
    rw [← List.append_assoc, leadingWord_append_afterWord]
  rw [leadingWord_append h] at hsplit
  exact List.append_cancel_left (hsplit.trans hword.symm)

/-- What the rest of a word at the start does not change, skipping it does not change. -/
lemma apply_afterWord {α : Type} {f : List Char → α} {cs : List Char}
    (h : ∀ c rest, cs = c :: rest → isWord c = true → f cs = f (afterWord rest)) :
    f (afterWord cs) = f cs := by
  cases cs with
  | nil => rfl
  | cons c rest =>
    cases hc : isWord c with
    | true =>
      rw [h c rest rfl hc, afterWord, List.dropWhile_cons_of_pos hc]
      rfl
    | false => rw [afterWord, List.dropWhile_cons_of_neg (by simp [hc])]

end CodeGrowth.Text

namespace CodeGrowth.Recursion
open Text

variable {before before' : Option Char} {c : Char} {cs g name rest text : List Char}

lemma isWord_paren : isWord '(' = false := by decide

lemma isBlank_paren : isBlank '(' = false := by decide

lemma afterParen?_eq_some_iff :
    afterParen? cs = some rest ↔ ∃ g, AllBlank g ∧ cs = g ++ '(' :: rest := by
  rw [afterParen?_eq, after?_eq_some_iff]
  constructor
  · intro h
    obtain ⟨g, hg, hcs⟩ := exists_append_skipBlanks cs
    rw [h] at hcs
    exact ⟨g, hg, hcs⟩
  · rintro ⟨g, hg, rfl⟩
    exact skipBlanks_append_cons hg isBlank_paren rest

/-- The word that is called at a place, with `before` in front of it and `ahead` behind. -/
def CalledAt (name before ahead : List Char) : Prop :=
  before.getLast?.any isWord = false ∧ IsName name ∧
    ∃ g rest, AllBlank g ∧ ahead = name ++ (g ++ '(' :: rest)

/-- The name at a spot and the text behind its parenthesis. -/
def siteFrom? (spot : Spot) : Option (List Char × List Char) :=
  if spot.startsWord && !(leadingWord spot.ahead).isEmpty then
    (afterParen? (afterWord spot.ahead)).map fun rest => (leadingWord spot.ahead, rest)
  else none

lemma siteAt?_eq (spot : Spot) : siteAt? spot = (siteFrom? spot).map Prod.fst := by
  unfold siteAt? siteFrom?
  split
  · rw [Option.map_map]
    rfl
  · rfl

lemma siteFrom?_eq_some_iff : siteFrom? ⟨before, cs⟩ = some (name, rest) ↔
    before.any isWord = false ∧ IsName name ∧
      ∃ g, AllBlank g ∧ cs = name ++ (g ++ '(' :: rest) := by
  constructor
  · intro h
    obtain ⟨hstart, h⟩ := Option.ite_none_right_eq_some.1 h
    obtain ⟨_, hparen, heq⟩ := Option.map_eq_some_iff.1 h
    obtain ⟨rfl, rfl⟩ := Prod.mk.inj heq
    obtain ⟨g, hg, hword⟩ := afterParen?_eq_some_iff.1 hparen
    rw [Bool.and_eq_true, Spot.startsWord, Bool.not_eq_true', Bool.not_eq_true'] at hstart
    refine ⟨hstart.1, ⟨?_, fun c hc => List.mem_takeWhile_imp hc⟩, g, hg, ?_⟩
    · simpa using hstart.2
    · rw [← hword, leadingWord_append_afterWord]
  · rintro ⟨hbefore, hname, g, hg, rfl⟩
    have hend : EndsWord (g ++ '(' :: rest) :=
      endsWord_allBlank_append hg (endsWord_cons.2 isWord_paren)
    have hparen : afterParen? (g ++ '(' :: rest) = some rest :=
      afterParen?_eq_some_iff.2 ⟨g, hg, rfl⟩
    simp [siteFrom?, Spot.startsWord, hbefore, leadingWord_word_append hname.2 hend,
      afterWord_word_append hname.2 hend, hparen, hname.1]

lemma siteAt?_eq_some_iff : siteAt? ⟨before, cs⟩ = some name ↔
    before.any isWord = false ∧ IsName name ∧
      ∃ g rest, AllBlank g ∧ cs = name ++ (g ++ '(' :: rest) := by
  rw [siteAt?_eq, Option.map_eq_some_iff]
  constructor
  · rintro ⟨⟨_, rest⟩, hsite, rfl⟩
    obtain ⟨hbefore, hname, g, hg, hcs⟩ := siteFrom?_eq_some_iff.1 hsite
    exact ⟨hbefore, hname, g, rest, hg, hcs⟩
  · rintro ⟨hbefore, hname, g, rest, hg, hcs⟩
    exact ⟨(name, rest), siteFrom?_eq_some_iff.2 ⟨hbefore, hname, g, hg, hcs⟩, rfl⟩

instance (name before ahead : List Char) : Decidable (CalledAt name before ahead) :=
  decidable_of_iff (siteAt? ⟨before.getLast?, ahead⟩ = some name) siteAt?_eq_some_iff

/-- Between words there is no site. -/
lemma siteAt?_of_not_isWord (hc : isWord c = false) (before : Option Char) (cs : List Char) :
    siteAt? ⟨before, c :: cs⟩ = none := by
  simp [siteAt?, leadingWord, hc]

/-- Inside a word there is no site either. -/
lemma siteAt?_of_isWord_before (h : before.any isWord = true) (cs : List Char) :
    siteAt? ⟨before, cs⟩ = none := by
  simp [siteAt?, Spot.startsWord, h]

/-- The names at the call sites of a text that follows a character. -/
def sitesAfter (before : Option Char) (text : List Char) : List (List Char) :=
  (spotsAfter before text).filterMap siteAt?

lemma sitesAfter_none (text : List Char) : sitesAfter none text = callSites text := rfl

lemma sitesAfter_cons (before : Option Char) (c : Char) (cs : List Char) :
    sitesAfter before (c :: cs) =
      (siteAt? ⟨before, c :: cs⟩).toList ++ sitesAfter (some c) cs := by
  rw [sitesAfter, spotsAfter, List.filterMap_cons]
  cases siteAt? ⟨before, c :: cs⟩ <;> rfl

/-- Of the character before a text it only matters whether it belongs to a word. -/
lemma sitesAfter_congr (h : before.any isWord = before'.any isWord) (cs : List Char) :
    sitesAfter before cs = sitesAfter before' cs := by
  cases cs with
  | nil => rfl
  | cons c cs => rw [sitesAfter_cons, sitesAfter_cons, siteAt?, siteAt?, Spot.startsWord,
      Spot.startsWord, h]

lemma sitesAfter_of_not_isWord (h : before.any isWord = false) (cs : List Char) :
    sitesAfter before cs = callSites cs := by
  rw [← sitesAfter_none]
  exact sitesAfter_congr (by simpa using h) cs

lemma callSites_cons_of_not_isWord (hc : isWord c = false) (cs : List Char) :
    callSites (c :: cs) = callSites cs := by
  rw [← sitesAfter_none, sitesAfter_cons, siteAt?_of_not_isWord hc, Option.toList_none,
    List.nil_append, sitesAfter_of_not_isWord (by simpa using hc)]

lemma callSites_append_of_not_isWord (hg : ∀ c ∈ g, isWord c = false) (cs : List Char) :
    callSites (g ++ cs) = callSites cs := by
  induction g with
  | nil => rfl
  | cons c g ih =>
    obtain ⟨hc, hg⟩ := List.forall_mem_cons.1 hg
    rw [List.cons_append, callSites_cons_of_not_isWord hc, ih hg]

lemma sitesAfter_of_isWord (h : before.any isWord = true) (cs : List Char) :
    sitesAfter before cs = callSites (afterWord cs) := by
  induction cs generalizing before with
  | nil => rfl
  | cons c cs ih =>
    rw [sitesAfter_cons, siteAt?_of_isWord_before h, Option.toList_none, List.nil_append, afterWord]
    cases hc : isWord c with
    | true => rw [ih (by simpa using hc), List.dropWhile_cons_of_pos hc, afterWord]
    | false =>
      rw [List.dropWhile_cons_of_neg (by simp [hc]), callSites_cons_of_not_isWord hc,
        sitesAfter_of_not_isWord (by simpa using hc)]

/-- A text is read word by word. -/
lemma callSites_cons (c : Char) (cs : List Char) :
    callSites (c :: cs) =
      (siteAt? ⟨none, c :: cs⟩).toList ++ callSites (if isWord c then afterWord cs else cs) := by
  rw [← sitesAfter_none, sitesAfter_cons]
  cases hc : isWord c with
  | true => rw [sitesAfter_of_isWord (by simpa using hc), if_pos rfl]
  | false => rw [sitesAfter_of_not_isWord (by simpa using hc), if_neg (by decide)]

/-- Where a word that is not called starts, no shorter end of it is called either. -/
lemma callSites_tail (h : siteAt? ⟨none, c :: cs⟩ = none) :
    callSites (c :: cs) = callSites cs := by
  rw [callSites_cons, h, Option.toList_none, List.nil_append]
  split
  · next hc =>
    refine apply_afterWord ?_
    rintro d cs rfl hd
    have htail : siteAt? ⟨none, d :: cs⟩ = none := by
      simpa [siteAt?, Spot.startsWord, leadingWord, afterWord, hc, hd] using h
    rw [callSites_cons, htail, if_pos hd]
    rfl
  · rfl

lemma head?_callSites_eq_some_iff : (callSites text).head? = some name ↔
    ∃ before ahead, text = before ++ ahead ∧ CalledAt name before ahead ∧
      ∀ other before' ahead', text = before' ++ ahead' → CalledAt other before' ahead' →
        before.length ≤ before'.length := by
  rw [callSites, spots, List.head?_filterMap, findSome?_spotsAfter_eq_some_iff]
  constructor
  · rintro ⟨pre, ahead, -, rfl, hread, hnone⟩
    rw [Option.or_none] at hread
    refine ⟨pre, ahead, rfl, siteAt?_eq_some_iff.1 hread, ?_⟩
    intro other before' ahead' htext hcalled
    by_contra hlt
    have hnone' := hnone before' ahead' htext (by omega)
    rw [Option.or_none, siteAt?_eq_some_iff.2 hcalled] at hnone'
    contradiction
  · rintro ⟨before, ahead, rfl, hcalled, hfirst⟩
    refine ⟨before, ahead, ?_, rfl, ?_, ?_⟩
    · obtain ⟨-, hname, g, rest, -, rfl⟩ := hcalled
      exact List.append_ne_nil_of_left_ne_nil hname.1 _
    · rw [Option.or_none]
      exact siteAt?_eq_some_iff.2 hcalled
    · intro pre' ahead' htext hlt
      rw [Option.or_none]
      by_contra hne
      obtain ⟨other, hsome⟩ := Option.ne_none_iff_exists'.1 hne
      have hle := hfirst other pre' ahead' htext (siteAt?_eq_some_iff.1 hsome)
      omega

lemma eq_of_endsHeader (hc : endsHeader c = true) : c = ';' ∨ c = '{' := by
  rwa [endsHeader, Bool.or_eq_true, beq_iff_eq, beq_iff_eq] at hc

lemma isWord_of_endsHeader (hc : endsHeader c = true) : isWord c = false := by
  obtain rfl | rfl := eq_of_endsHeader hc
  · decide
  · decide

lemma afterParen?_append (hc : endsHeader c = true) (cs rest : List Char) :
    afterParen? (cs ++ c :: rest) = (afterParen? cs).map (· ++ c :: rest) := by
  have hstop : isBlank c = false ∧ '(' ≠ c := by
    obtain rfl | rfl := eq_of_endsHeader hc
    · decide
    · decide
  rw [afterParen?_eq, afterParen?_eq]
  induction cs with
  | nil => simp [hstop, after?]
  | cons d cs ih =>
    rw [List.cons_append, skipBlanks_cons, skipBlanks_cons]
    split
    · exact ih
    · by_cases hd : '(' = d <;> simp [after?, hd]

lemma siteAt?_append (hc : endsHeader c = true) (before : Option Char) (cs rest : List Char) :
    siteAt? ⟨before, cs ++ c :: rest⟩ = siteAt? ⟨before, cs⟩ := by
  have hend : EndsWord (c :: rest) := endsWord_cons.2 (isWord_of_endsHeader hc)
  rw [siteAt?, siteAt?, Spot.startsWord, Spot.startsWord, leadingWord_append hend,
    afterWord_append hend, afterParen?_append hc, Option.map_map]
  rfl

lemma sitesAfter_append (hc : endsHeader c = true) (before : Option Char) (cs rest : List Char) :
    sitesAfter before (cs ++ c :: rest) = sitesAfter before cs ++ callSites rest := by
  have hword := isWord_of_endsHeader hc
  induction cs generalizing before with
  | nil =>
    rw [List.nil_append, sitesAfter_cons, siteAt?_of_not_isWord hword,
      sitesAfter_of_not_isWord (by simpa using hword)]
    rfl
  | cons d cs ih =>
    rw [List.cons_append, sitesAfter_cons, ih, ← List.cons_append, siteAt?_append hc,
      sitesAfter_cons, List.append_assoc]

theorem callSites_append (hc : endsHeader c = true) (cs rest : List Char) :
    callSites (cs ++ c :: rest) = callSites cs ++ callSites rest :=
  sitesAfter_append hc none cs rest

/-- The names that a search finds which goes on behind the parenthesis of each site. -/
def searchSites (before : Option Char) (text : List Char) : List (List Char) :=
  match _ : siteFrom? ⟨before, text⟩ with
  | some (name, rest) => name :: searchSites (some '(') rest
  | none =>
    match text with
    | [] => []
    | c :: cs => searchSites (some c) cs
termination_by text.length
decreasing_by
  · obtain ⟨-, -, g, -, rfl⟩ := siteFrom?_eq_some_iff.1 ‹siteFrom? _ = some _›
    simp only [List.length_append, List.length_cons]
    omega
  · simp

/-- No site begins between the start of another one and the end of its parenthesis. -/
theorem searchSites_eq (before : Option Char) (text : List Char) :
    searchSites before text = sitesAfter before text := by
  fun_induction searchSites before text with
  | case1 before text name rest hsite ih =>
    obtain ⟨hbefore, hname, g, hg, rfl⟩ := siteFrom?_eq_some_iff.1 hsite
    have hend : EndsWord (g ++ '(' :: rest) :=
      endsWord_allBlank_append hg (endsWord_cons.2 isWord_paren)
    have hfirst : siteAt? ⟨none, name ++ (g ++ '(' :: rest)⟩ = some name :=
      siteAt?_eq_some_iff.2 ⟨rfl, hname, g, rest, hg, rfl⟩
    obtain ⟨c, tail, rfl⟩ := List.exists_cons_of_ne_nil hname.1
    obtain ⟨hc, htail⟩ := List.forall_mem_cons.1 hname.2
    rw [sitesAfter_of_not_isWord hbefore, List.cons_append, callSites_cons, if_pos hc,
      afterWord_word_append htail hend, ← List.cons_append, hfirst,
      callSites_append_of_not_isWord fun c hc => isWord_of_isBlank (hg c hc),
      callSites_cons_of_not_isWord isWord_paren, ih, sitesAfter_of_not_isWord (by decide)]
    rfl
  | case2 => rfl
  | case3 before c cs hnone ih =>
    rw [sitesAfter_cons, siteAt?_eq, hnone, ih]
    rfl

/-- The table with one more site of the name. -/
def addSite (table : Std.HashMap String Nat) (name : String) : Std.HashMap String Nat :=
  table.insert name (table.getD name 0 + 1)

/-- The number of sites of each name, found in one pass. -/
def siteTable (text : List Char) : Std.HashMap String Nat :=
  ((searchSites none text).map String.ofList).foldl addSite ∅

lemma getD_foldl_addSite (names : List String) (table : Std.HashMap String Nat) (name : String) :
    (names.foldl addSite table).getD name 0 = table.getD name 0 + names.count name := by
  induction names generalizing table with
  | nil => rfl
  | cons first names ih =>
    rw [List.foldl_cons, ih, addSite, Std.HashMap.getD_insert, List.count_cons]
    by_cases hsame : first = name
    · subst hsame
      simp only [BEq.rfl, if_true]
      omega
    · simp [hsame]

theorem getD_siteTable (text : List Char) (name : String) :
    (siteTable text).getD name 0 = (callSites text).count name.toList := by
  have hinj : Function.Injective String.ofList := fun _ _ => String.ofList_injective
  have hcount := List.count_map_of_injective (callSites text) String.ofList hinj name.toList
  rw [String.ofList_toList] at hcount
  rw [siteTable, getD_foldl_addSite, Std.HashMap.getD_empty, Nat.zero_add, searchSites_eq,
    sitesAfter_none, hcount]

lemma count_callSites_eq_countP (text name : List Char) :
    (callSites text).count name = (List.range text.length).countP fun i =>
      CalledAt name (text.take i) (text.drop i) := by
  rw [callSites, List.count_filterMap, spots_eq_map, List.countP_map]
  refine List.countP_congr fun i _ => ?_
  rw [Function.comp_apply, beq_iff_eq, decide_eq_true_eq]
  exact siteAt?_eq_some_iff

/-- The name as a word of its own, any white space, and an opening parenthesis. -/
def calling (name : List Char) : Phrase := ⟨true, [.exactly name, .gap, .exactly ['(']]⟩

/-- A name and the parenthesis behind it are a keyword and its bracket. -/
def callHeader (h : IsName name) : Header := ⟨name, '(', h.2, h.1, isWord_paren, isBlank_paren⟩

lemma count_callSites_eq_countIn (h : IsName name) (text : List Char) :
    (callSites text).count name = (calling name).countIn text := by
  rw [callSites, List.count_filterMap, Phrase.countIn]
  refine List.countP_congr fun spot _ => ?_
  obtain ⟨before, cs⟩ := spot
  rw [beq_iff_eq, siteAt?_eq_some_iff]
  constructor
  · rintro ⟨hbefore, -, g, rest, hg, rfl⟩
    have hskip : skipBlanks (g ++ '(' :: rest) = '(' :: rest :=
      skipBlanks_append_cons hg isBlank_paren rest
    exact Option.isSome_iff_exists.2
      ⟨rest, (callHeader h).rest?_phrase_eq_some_iff.2 ⟨hbefore, _, rfl, hskip⟩⟩
  · intro hstands
    obtain ⟨rest, hrest⟩ := Option.isSome_iff_exists.1 hstands
    obtain ⟨hbefore, -⟩ := (callHeader h).rest?_phrase_eq_some_iff.1 hrest
    obtain ⟨g, hg, hcs⟩ := (callHeader h).exists_of_rest? hrest
    exact ⟨hbefore, h, g, rest, hg, hcs⟩

/-- Matches of a pattern for one name do not overlap. -/
theorem count_callSites_eq_searchFrom (h : IsName name) (text : List Char) :
    (callSites text).count name = (calling name).searchFrom 0 none text := by
  rw [count_callSites_eq_countIn h]
  exact ((callHeader h).searchFrom_eq_countAfter none text).symm

/-- Where a name is called, it stands as a word. -/
lemma count_callSites_le (h : IsName name) (text : List Char) :
    (callSites text).count name ≤ (wholeWord name).countIn text := by
  rw [callSites, List.count_filterMap, Phrase.countIn]
  refine List.countP_mono_left fun spot _ hsite => ?_
  obtain ⟨before, cs⟩ := spot
  obtain ⟨hbefore, -, g, rest, hg, rfl⟩ := siteAt?_eq_some_iff.1 (beq_iff_eq.1 hsite)
  have hend : EndsWord (g ++ '(' :: rest) :=
    endsWord_allBlank_append hg (endsWord_cons.2 isWord_paren)
  exact (standsAt_wholeWord_iff h.2).2 ⟨hbefore, leadingWord_word_append h.2 hend⟩

end CodeGrowth.Recursion
