import CodeGrowth.Analysis
import CodeGrowth.Proofs.Literals

/-!
# Findings do not depend on the layout

Every detector finds the same in texts that are respacings of each other. Definitions and calls
are read word by word with gaps between them, and phrases are tight. The nesting depth is followed
line by line, but a line counts only by what is left of it after trimming, and a blank line not at
all.

Literals are masked before loops are counted, and masking is not a matter of layout alone: a
backslash before a line feed leaves a literal open. So the masked texts are asked to be respacings
of each other as well.
-/
namespace CodeGrowth
open Text

namespace Recursion
variable {s t : List Char}

lemma leadingWord_respaced (h : Respaced s t) : leadingWord s = leadingWord t :=
  (respaced_run (fun _ => isWord_of_isBlank) h).1

lemma afterWord_respaced (h : Respaced s t) : Respaced (afterWord s) (afterWord t) :=
  (respaced_run (fun _ => isWord_of_isBlank) h).2

lemma afterParen?_eq (cs : List Char) : afterParen? cs = after? ['('] (skipBlanks cs) := by
  unfold afterParen?
  split
  · next h => simp [h, after?]
  · next h =>
    cases hcs : skipBlanks cs with
    | nil => rfl
    | cons c rest =>
      have hc : '(' ≠ c := by
        rintro rfl
        exact h rest hcs
      simp [after?, hc]

lemma afterParen?_respaced (h : Respaced s t) :
    Option.Rel Respaced (afterParen? s) (afterParen? t) := by
  rw [afterParen?_eq, afterParen?_eq]
  exact respaced_after? (forall_eq_false_of_all (by decide)) (respaced_skipBlanks h)

/-- The header ends at a brace, and the last character before it closes the parameters. -/
lemma afterHeader?_eq (cs : List Char) :
    afterHeader? cs =
      if ((cs.takeWhile (!endsHeader ·)).filter (!isBlank ·)).getLast? = some ')' then
        after? ['{'] (cs.dropWhile (!endsHeader ·))
      else none := by
  unfold afterHeader?
  rw [getLast?_trimEnd]
  cases hcs : cs.dropWhile (!endsHeader ·) with
  | nil => simp [after?]
  | cons c rest =>
    by_cases hc : c = '{'
    · subst hc
      simp [after?]
    · have hnone : after? ['{'] (c :: rest) = none := by simp [after?, Ne.symm hc]
      rw [hnone, ite_self]
      split
      · next heq => exact absurd (List.cons.inj heq).1 hc
      · rfl

lemma afterHeader?_respaced (h : Respaced s t) :
    Option.Rel Respaced (afterHeader? s) (afterHeader? t) := by
  have hblank : ∀ c, isBlank c = true → (!endsHeader c) = true := by
    intro c hc
    simp [endsHeader, ne_of_isBlank hc (d := ';') (by decide),
      ne_of_isBlank hc (d := '{') (by decide)]
  obtain ⟨htake, hdrop⟩ := respaced_stretch hblank h
  rw [afterHeader?_eq, afterHeader?_eq, respaced_filter htake]
  split
  · exact respaced_after? (forall_eq_false_of_all (by decide)) hdrop
  · exact .none

lemma definition?_respaced (h : Respaced s t) :
    Option.Rel (fun x y => x.1 = y.1 ∧ Respaced x.2 y.2) (definition? s) (definition? t) := by
  unfold definition?
  rw [leadingWord_respaced h]
  split
  · exact .none
  · rw [Option.map_eq_bind, Option.map_eq_bind]
    refine optionRel_bind (optionRel_bind (afterParen?_respaced (afterWord_respaced h))
      fun _ _ => afterHeader?_respaced) ?_
    exact fun _ _ hrest => .some ⟨rfl, hrest⟩

lemma exists_definition? {name rest : List Char} (h : Respaced s t)
    (hs : definition? s = some (name, rest)) :
    ∃ rest', definition? t = some (name, rest') ∧ Respaced rest rest' := by
  have hdef := definition?_respaced h
  rw [hs] at hdef
  generalize definition? t = found at hdef
  cases hdef with
  | @some _ b hpair =>
    obtain ⟨name', rest'⟩ := b
    obtain ⟨rfl, hrest⟩ := hpair
    exact ⟨rest', rfl, hrest⟩

lemma definedNames_of_some {cs name rest : List Char} (h : definition? cs = some (name, rest)) :
    definedNames cs = name :: definedNames rest := by
  rw [definedNames]
  split
  · next h' => cases h.symm.trans h'; rfl
  · next h' => rw [h] at h'; contradiction

lemma definedNames_of_none {c : Char} {cs : List Char} (h : definition? (c :: cs) = none) :
    definedNames (c :: cs) = definedNames (if isWord c then afterWord cs else cs) := by
  rw [definedNames]
  split
  · next h' => rw [h] at h'; contradiction
  · dsimp only
    split <;> rfl

lemma definition?_of_isBlank {c : Char} (hc : isBlank c = true) (cs : List Char) :
    definition? (c :: cs) = none := by
  simp [definition?, leadingWord, isWord_of_isBlank hc]

lemma definedNames_skipBlanks (cs : List Char) :
    definedNames (skipBlanks cs) = definedNames cs := by
  induction cs with
  | nil => rfl
  | cons c cs ih =>
    rw [skipBlanks_cons]
    cases hc : isBlank c with
    | true =>
      rw [definedNames_of_none (definition?_of_isBlank hc cs), isWord_of_isBlank hc]
      exact ih
    | false => rfl

theorem definedNames_relaid (h : Relaid s t) : definedNames s = definedNames t := by
  -- on the length, since the search goes on behind a whole definition or word
  induction hn : s.length using Nat.strong_induction_on generalizing s t with
  | _ n ih =>
    have hlen := length_skipBlanks_le s
    rw [← definedNames_skipBlanks s, ← definedNames_skipBlanks t]
    cases hs : skipBlanks s with
    | nil =>
      rw [Relaid, hs] at h
      rw [← skipBlanks_skipBlanks t, skipBlanks_eq_nil_iff.2 h.allBlank_of_nil]
    | cons c s' =>
      have hc := isBlank_of_skipBlanks_eq_cons hs
      rw [hs, List.length_cons] at hlen
      rw [Relaid, hs] at h
      obtain ⟨t', ht, htail⟩ := h.exists_of_cons hc
      rw [ht] at h ⊢
      cases hdef : definition? (c :: s') with
      | none =>
        -- a definition in the other text would be one here, read the other way round
        have hdef' : definition? (c :: t') = none := by
          by_contra hne
          obtain ⟨found, hsome⟩ := Option.ne_none_iff_exists'.1 hne
          obtain ⟨rest, hrest, -⟩ := exists_definition? h.symm hsome
          rw [hdef] at hrest
          contradiction
        rw [definedNames_of_none hdef, definedNames_of_none hdef']
        split
        · have hword := length_dropWhile_le isWord s'
          have hlt : (afterWord s').length < n := by
            rw [afterWord]
            omega
          exact ih _ hlt (afterWord_respaced htail).relaid rfl
        · exact ih s'.length (by omega) htail.relaid rfl
      | some found =>
        obtain ⟨rest, hdef', hrest⟩ := exists_definition? h hdef
        have hlt := length_definition?_lt hdef
        rw [List.length_cons] at hlt
        rw [definedNames_of_some hdef, definedNames_of_some hdef',
          ih found.2.length (by omega) hrest.relaid rfl]

theorem functionsIn_relaid (h : Relaid s t) : functionsIn s = functionsIn t := by
  rw [functionsIn, functionsIn, definedNames_relaid h]

lemma spotReader_siteAt? : SpotReader siteAt? where
  blank before c cs hc := by simp [siteAt?, leadingWord, isWord_of_isBlank hc]
  respaced before before' s t hbefore h := by
    have hparen := afterParen?_respaced (afterWord_respaced h)
    unfold siteAt?
    simp only [Spot.startsWord, hbefore, leadingWord_respaced h]
    generalize afterParen? (afterWord s) = x at hparen
    generalize afterParen? (afterWord t) = y at hparen
    cases hparen <;> rfl

theorem callSites_relaid (h : Relaid s t) : callSites s = callSites t :=
  spotReader_siteAt?.filterMap_spots h

theorem detect_relaid (h : Relaid s t) : detect s = detect t := by
  rw [detect, detect, functionsIn_relaid h, callSites_relaid h]

end Recursion

namespace Loop
variable {s t : List Char}

lemma forHeader_tight : forHeader.tight = true := by decide

lemma whileHeader_tight : whileHeader.tight = true := by decide

lemma doHeader_tight : doHeader.tight = true := by decide

/-- Loop counts of texts whose masked forms are laid out differently. -/
lemma count_relaid (h : Relaid (Literal.mask s) (Literal.mask t)) : count s = count t := by
  simp only [count, Phrase.countIn_relaid forHeader_tight h,
    Phrase.countIn_relaid whileHeader_tight h, Phrase.countIn_relaid doHeader_tight h]

lemma hasHeader_relaid (h : Relaid s t) : hasHeader s = hasHeader t := by
  rw [hasHeader, hasHeader, Phrase.occursIn_relaid forHeader_tight h,
    Phrase.occursIn_relaid whileHeader_tight h, Phrase.occursIn_relaid doHeader_tight h]

lemma any_congr_of_mem {α : Type} {l : List α} {p q : α → Bool} (h : ∀ a ∈ l, p a = q a) :
    l.any p = l.any q := by
  rw [Bool.eq_iff_iff, List.any_eq_true, List.any_eq_true]
  exact exists_congr fun a => and_congr_right fun ha => by rw [h a ha]

lemma hasWhileTrue_relaid (h : Relaid s t) : hasWhileTrue s = hasWhileTrue t := by
  have htight : ∀ condition ∈ alwaysTrue,
      (Phrase.mk true (whilePieces condition)).tight = true := by decide
  exact any_congr_of_mem fun condition hc => Phrase.occursIn_relaid (htight condition hc) h

lemma hasTrueClosing_relaid (h : Relaid s t) : hasTrueClosing s = hasTrueClosing t := by
  have htight : ∀ condition ∈ alwaysTrue,
      (Phrase.mk false (.exactly "\x7d".toList :: .gap :: whilePieces condition)).tight = true := by
    decide
  exact any_congr_of_mem fun condition hc => Phrase.occursIn_relaid (htight condition hc) h

lemma hasDoWhileTrue_relaid (h : Relaid s t) : hasDoWhileTrue s = hasDoWhileTrue t := by
  have htight : doOpening.tight = true := by decide
  have hview : ∀ s t, Respaced s t → hasTrueClosing s = hasTrueClosing t :=
    fun s t hst => hasTrueClosing_relaid hst.relaid
  have hfirst : ∀ cs, hasDoWhileTrue cs =
      ((spots cs).filterMap fun spot => (doOpening.rest? spot).map hasTrueClosing).head?.any
        id := by
    intro cs
    rw [List.head?_filterMap, hasDoWhileTrue, ← Function.comp_def, ← List.map_findSome?,
      Option.any_map]
    rfl
  rw [hfirst, hfirst, (Phrase.spotReader htight hview).filterMap_spots h]

theorem findEndless?_relaid (h : Relaid s t) : findEndless? s = findEndless? t := by
  have htight : emptyForHeader.tight = true := by decide
  rw [findEndless?, findEndless?, hasWhileTrue_relaid h, hasDoWhileTrue_relaid h,
    Phrase.occursIn_relaid htight h]

end Loop

namespace Language
variable {s t : List Char}

lemma firesIn_relaid {signal : Signal} (hsignal : ∀ phrase ∈ signal.phrases, phrase.tight = true)
    (h : Relaid s t) : signal.firesIn s = signal.firesIn t :=
  Loop.any_congr_of_mem fun phrase hphrase => Phrase.occursIn_relaid (hsignal phrase hphrase) h

lemma score_relaid {signals : List Signal}
    (hsignals : ∀ signal ∈ signals, ∀ phrase ∈ signal.phrases, phrase.tight = true)
    (h : Relaid s t) : score signals s = score signals t := by
  have hfilter : signals.filter (·.firesIn s) = signals.filter (·.firesIn t) :=
    List.filter_congr fun signal hsignal => firesIn_relaid (hsignals signal hsignal) h
  rw [score, score, hfilter]

lemma cSignals_tight : ∀ signal ∈ cSignals, ∀ phrase ∈ signal.phrases, phrase.tight = true := by
  decide

lemma javaSignals_tight :
    ∀ signal ∈ javaSignals, ∀ phrase ∈ signal.phrases, phrase.tight = true := by
  decide

theorem classify_relaid (h : Relaid s t) : classify s = classify t := by
  have hcontains : ∀ c, isBlank c = false → s.contains c = t.contains c := by
    intro c hc
    have hmem : ∀ cs : List Char, c ∈ cs.filter (!isBlank ·) ↔ c ∈ cs := by simp [hc]
    rw [Bool.eq_iff_iff, List.contains_iff_mem, List.contains_iff_mem, ← hmem s, ← hmem t,
      relaid_filter h]
  rw [classify, classify, score_relaid cSignals_tight h, score_relaid javaSignals_tight h,
    hcontains ';' (by decide), hcontains '{' (by decide)]

end Language

namespace Text

/-- To show something of a text line by line, from its last line backwards. -/
@[elab_as_elim]
lemma line_induction {motive : List Char → Prop} (last : ∀ cs, '\n' ∉ cs → motive cs)
    (line : ∀ cs ds, '\n' ∉ cs → motive ds → motive (cs ++ '\n' :: ds)) (text : List Char) :
    motive text := by
  induction hn : text.length using Nat.strong_induction_on generalizing text with
  | _ n ih =>
    by_cases hmem : '\n' ∈ text
    · obtain ⟨cs, ds, rfl, hcs⟩ := List.eq_append_cons_of_mem hmem
      rw [List.length_append, List.length_cons] at hn
      exact line cs ds hcs (ih ds.length (by omega) ds rfl)
    · exact last text hmem

lemma lines_append_lineFeed (cs ds : List Char) :
    lines (cs ++ '\n' :: ds) = lines cs ++ lines ds := List.splitOn_append_cons_self ..

lemma lines_of_notMem {cs : List Char} (h : '\n' ∉ cs) : lines cs = [cs] :=
  List.splitOn_eq_singleton h

lemma lines_line_append {l : List Char} (h : '\n' ∉ l) (rest : List Char) :
    lines (l ++ '\n' :: rest) = l :: lines rest := by
  rw [lines_append_lineFeed, lines_of_notMem h, List.singleton_append]

/-- A text with a line before it and one behind it. -/
lemma lines_between {first last : List Char} (hfirst : '\n' ∉ first) (hlast : '\n' ∉ last)
    (body : List Char) :
    lines (first ++ '\n' :: (body ++ '\n' :: last)) = first :: (lines body ++ [last]) := by
  rw [lines_line_append hfirst, lines_append_lineFeed, lines_of_notMem hlast]

/-- What is left of the lines of a text after trimming, blank lines left out. -/
def trimmedLines (text : List Char) : List (List Char) :=
  ((lines text).map trim).filter (!·.isEmpty)

lemma trimmedLines_nil : trimmedLines [] = [] := rfl

lemma trimmedLines_append_lineFeed (cs ds : List Char) :
    trimmedLines (cs ++ '\n' :: ds) = trimmedLines cs ++ trimmedLines ds := by
  rw [trimmedLines, lines_append_lineFeed, List.map_append, List.filter_append]
  rfl

lemma trimmedLines_of_notMem {cs : List Char} (h : '\n' ∉ cs) :
    trimmedLines cs = [trim cs].filter (!·.isEmpty) := by
  rw [trimmedLines, lines_of_notMem h]
  rfl

lemma trimmedLines_append_of_notMem {cs g : List Char} (hcs : '\n' ∉ cs) (hg : AllBlank g) :
    trimmedLines (cs ++ g) = trimmedLines cs := by
  induction g using line_induction generalizing cs with
  | last g hlf =>
    have happend : '\n' ∉ cs ++ g := by simp [hcs, hlf]
    rw [trimmedLines_of_notMem happend, trimmedLines_of_notMem hcs, trim_append_allBlank hg]
  | line g g' hlf ih =>
    obtain ⟨hg, hg'⟩ := allBlank_append.1 hg
    have happend : '\n' ∉ cs ++ g := by simp [hcs, hlf]
    have hrest : trimmedLines ([] ++ g') = trimmedLines [] :=
      ih List.not_mem_nil (allBlank_cons.1 hg').2
    rw [List.nil_append, trimmedLines_nil] at hrest
    rw [← List.append_assoc, trimmedLines_append_lineFeed, hrest, List.append_nil,
      trimmedLines_of_notMem happend, trimmedLines_of_notMem hcs, trim_append_allBlank hg]

lemma trimmedLines_of_allBlank {g : List Char} (hg : AllBlank g) : trimmedLines g = [] := by
  have hnil : trimmedLines ([] ++ g) = trimmedLines [] :=
    trimmedLines_append_of_notMem List.not_mem_nil hg
  rwa [List.nil_append, trimmedLines_nil] at hnil

lemma trimmedLines_append_allBlank {g : List Char} (hg : AllBlank g) (cs : List Char) :
    trimmedLines (cs ++ g) = trimmedLines cs := by
  induction cs using line_induction with
  | last cs hcs => exact trimmedLines_append_of_notMem hcs hg
  | line cs ds _ ih =>
    rw [List.append_assoc, List.cons_append, trimmedLines_append_lineFeed, ih,
      trimmedLines_append_lineFeed]

lemma trimmedLines_allBlank_append {g : List Char} (hg : AllBlank g) (cs : List Char) :
    trimmedLines (g ++ cs) = trimmedLines cs := by
  induction g using line_induction with
  | last g hlf =>
    induction cs using line_induction with
    | last cs hcs =>
      have happend : '\n' ∉ g ++ cs := by simp [hcs, hlf]
      rw [trimmedLines_of_notMem happend, trimmedLines_of_notMem hcs, trim_allBlank_append hg]
    | line cs ds hcs _ =>
      have happend : '\n' ∉ g ++ cs := by simp [hcs, hlf]
      rw [← List.append_assoc, trimmedLines_append_lineFeed, trimmedLines_append_lineFeed,
        trimmedLines_of_notMem happend, trimmedLines_of_notMem hcs, trim_allBlank_append hg]
  | line g g' _ ih =>
    obtain ⟨hg, hg'⟩ := allBlank_append.1 hg
    rw [List.append_assoc, List.cons_append, trimmedLines_append_lineFeed,
      trimmedLines_of_allBlank hg, List.nil_append, ih (allBlank_cons.1 hg').2]

lemma trimmedLines_append_turn {g : List Char} (hg : AllBlank g) (hlf : '\n' ∈ g)
    (cs ds : List Char) :
    trimmedLines (cs ++ (g ++ ds)) = trimmedLines cs ++ trimmedLines ds := by
  obtain ⟨x, y, rfl⟩ := List.append_of_mem hlf
  obtain ⟨hx, hy⟩ := allBlank_append.1 hg
  rw [List.append_assoc, List.cons_append, ← List.append_assoc, trimmedLines_append_lineFeed,
    trimmedLines_append_allBlank hx, trimmedLines_allBlank_append (allBlank_cons.1 hy).2]

lemma trimmedLines_respaced {s t : List Char} (h : Respaced s t) (line : List Char) :
    trimmedLines (line ++ s) = trimmedLines (line ++ t) := by
  induction h generalizing line with
  | ends hg hh => rw [trimmedLines_append_allBlank hg, trimmedLines_append_allBlank hh]
  | keep c _ ih => simpa using ih (line ++ [c])
  | turn hg hh hgn hhn _ ih =>
    rw [trimmedLines_append_turn hg hgn, trimmedLines_append_turn hh hhn]
    exact congrArg (trimmedLines line ++ ·) (ih [])

theorem trimmedLines_relaid {s t : List Char} (h : Relaid s t) :
    trimmedLines s = trimmedLines t := by
  have hskip := apply_skipBlanks (f := trimmedLines)
    fun _ cs hg => trimmedLines_allBlank_append hg cs
  rw [← hskip s, ← hskip t]
  exact trimmedLines_respaced h []

end Text

namespace Loop

lemma inlinePeak_filter (depth : Nat) (cs : List Char) :
    inlinePeak depth (cs.filter (!isBlank ·)) = inlinePeak depth cs := by
  fun_induction inlinePeak depth cs with
  | case1 => rfl
  | case2 depth rest ih =>
    have hbrace : isBlank '{' = false := by decide
    rw [List.filter_cons, hbrace]
    exact congrArg (max depth) ih
  | case3 depth rest ih =>
    have hbrace : isBlank '}' = false := by decide
    rw [List.filter_cons, hbrace]
    exact congrArg (max depth) ih
  | case4 depth c rest hopen hclose ih =>
    rw [List.filter_cons]
    split
    · rw [inlinePeak, ih]
      · exact hopen
      · exact hclose
    · exact ih

namespace Nesting

/-- A line counts by what is in it apart from the white space at its ends. -/
lemma afterLine_relaid {line line' : List Char} (h : Relaid line line') (nesting : Nesting) :
    nesting.afterLine line = nesting.afterLine line' := by
  have hfilter := relaid_filter h
  have hcount : ∀ c, isBlank c = false → line.count c = line'.count c := by
    intro c hc
    rw [← List.count_filter (l := line) (p := (!isBlank ·)) (by simpa using hc), hfilter,
      List.count_filter (by simpa using hc)]
  have hcontains : line.contains '{' = line'.contains '{' := by
    rw [Bool.eq_iff_iff, List.contains_iff_mem, List.contains_iff_mem, ← List.count_pos_iff,
      ← List.count_pos_iff, hcount '{' (by decide)]
  have hpeak : inlinePeak nesting.depth line = inlinePeak nesting.depth line' := by
    rw [← inlinePeak_filter, hfilter, inlinePeak_filter]
  rw [afterLine, afterLine, settle, settle, hcount '{' (by decide), hcount '}' (by decide), enter,
    enter, hasHeader_relaid h, hcontains, hpeak]

lemma afterLine_trim (nesting : Nesting) (line : List Char) :
    nesting.afterLine (trim line) = nesting.afterLine line := by
  obtain ⟨g, h, hg, hh, hline⟩ := exists_append_trim_append line
  have hrelaid := relaid_append hg hh (trim line)
  rw [← hline] at hrelaid
  exact (afterLine_relaid hrelaid nesting).symm

lemma depth_le_peak_afterLine (nesting : Nesting) (line : List Char) :
    (nesting.afterLine line).depth ≤ (nesting.afterLine line).peak := Nat.le_max_right _ _

lemma afterLine_nil {nesting : Nesting} (h : nesting.depth ≤ nesting.peak) :
    nesting.afterLine [] = nesting := by
  obtain ⟨depth, peak⟩ := nesting
  have hmax : max peak depth = peak := Nat.max_eq_left h
  simp [afterLine, enter, settle, hasHeader, Phrase.occursIn, spots, spotsAfter, hmax]

/-- Only the trimmed lines count. The greatest depth so far is never below the present one, which
is why a blank line changes nothing. -/
lemma afterLines_filter_trim {nesting : Nesting} (h : nesting.depth ≤ nesting.peak)
    (ls : List (List Char)) :
    nesting.afterLines ((ls.map trim).filter (!·.isEmpty)) = nesting.afterLines ls := by
  induction ls generalizing nesting with
  | nil => rfl
  | cons line ls ih =>
    have hline := ih (nesting.depth_le_peak_afterLine line)
    rw [List.map_cons, List.filter_cons]
    split
    · rw [afterLines, List.foldl_cons, afterLine_trim]
      exact hline
    · next hempty =>
      have hnil : trim line = [] := by simpa using hempty
      rw [← afterLine_trim, hnil, afterLine_nil h] at hline
      rw [hline, afterLines, afterLines, List.foldl_cons, ← afterLine_trim, hnil, afterLine_nil h]

end Nesting

theorem nestDepth_relaid {s t : List Char} (h : Relaid (Literal.mask s) (Literal.mask t)) :
    nestDepth s = nestDepth t := by
  have hlines : ∀ cs, nestDepth cs =
      (Nesting.afterLines ⟨0, 0⟩ (trimmedLines (Literal.mask cs))).peak := by
    intro cs
    rw [nestDepth, trimmedLines, Nesting.afterLines_filter_trim (Nat.le_refl 0)]
  rw [hlines, hlines, trimmedLines_relaid h]

end Loop

/-- The findings in texts that are laid out differently, and are so after masking as well. -/
theorem Findings.ofCleaned_relaid {s t : List Char} (h : Relaid s t)
    (hmask : Relaid (Literal.mask s) (Literal.mask t)) : ofCleaned s = ofCleaned t := by
  rw [ofCleaned, ofCleaned, Loop.count_relaid hmask, Loop.nestDepth_relaid hmask,
    Recursion.detect_relaid h, Loop.findEndless?_relaid h, Language.classify_relaid h]

/-- White space at the ends of a text is not seen by any detector. -/
theorem Findings.ofCleaned_allBlank_append_append {g h : List Char} (hg : AllBlank g)
    (hh : AllBlank h) (cleaned : List Char) :
    ofCleaned (g ++ cleaned ++ h) = ofCleaned cleaned := by
  refine ofCleaned_relaid (relaid_append hg hh cleaned) ?_
  rw [Literal.mask_allBlank_append_append hg hh]
  exact relaid_append hg hh (Literal.mask cleaned)

end CodeGrowth
