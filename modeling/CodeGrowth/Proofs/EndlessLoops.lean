import CodeGrowth.Proofs.LooplessText
import CodeGrowth.Proofs.SpreadTokens
import CodeGrowth.Proofs.Traceability

/-!
# Endless loops

Each shape of an endless loop is a few tokens with white space between them, but that a do-while has
its body between two such groups of tokens, and any text may be that body.

An endless do-while ends in an endless while, whose keyword stands behind a brace or white space and
so begins a word. Hence there are only two shapes to find: with or without the third one, the search
finds the same loops. As the while comes first in the search, an endless do-while is reported as
that, and explained as that, whatever stands in it and around it.

Both shapes begin with a loop header. Loops are counted with literals masked, but endless loops are
looked for in literals too. So one that is found counts as a loop if it is still found once literals
are masked, and one in a string need not.
-/
namespace CodeGrowth.Loop
open Text

def whileTokens (condition : List Char) : List (List Char) :=
  ["while".toList, "(".toList, condition, ")".toList]

def emptyForTokens : List (List Char) :=
  ["for".toList, "(".toList, ";".toList, ";".toList, ")".toList]

def openingTokens : List (List Char) := ["do".toList, "\x7b".toList]

def closingTokens (condition : List Char) : List (List Char) :=
  "\x7d".toList :: whileTokens condition

/-- A while keyword at the start of a word, with a condition that always holds. -/
def ShowsWhileTrue (text : List Char) : Prop :=
  ∃ condition ∈ alwaysTrue, HoldsSpread (whileTokens condition) text

/-- A for keyword at the start of a word, with nothing between the semicolons. -/
def ShowsEmptyFor (text : List Char) : Prop := HoldsSpread emptyForTokens text

/-- A do with its brace, any body, and a closing brace with a condition that always holds. The
keyword may be the end of a longer word. -/
def ShowsDoWhileTrue (text : List Char) : Prop :=
  ∃ condition ∈ alwaysTrue, ∃ before opening body closing after, Spread openingTokens opening ∧
    Spread (closingTokens condition) closing ∧
    text = before ++ (opening ++ (body ++ (closing ++ after)))

section Shapes
variable {c : Char} {r s t u opening text : List Char}

lemma solid_whileTokens : ∀ condition ∈ alwaysTrue, Solid (whileTokens condition) := by decide

lemma solid_closingTokens : ∀ condition ∈ alwaysTrue, Solid (closingTokens condition) := by decide

lemma hasWhileTrue_iff : hasWhileTrue text = true ↔ ShowsWhileTrue text := by
  rw [hasWhileTrue, List.any_eq_true]
  refine exists_congr fun condition => and_congr_right fun hcondition => ?_
  exact occursIn_iff_holdsSpread (solid_whileTokens condition hcondition) (List.cons_ne_nil _ _)

lemma emptyForHeader_occursIn_iff :
    emptyForHeader.occursIn text = true ↔ ShowsEmptyFor text :=
  have hsolid : Solid emptyForTokens := by decide
  occursIn_iff_holdsSpread hsolid (List.cons_ne_nil _ _)

lemma hasTrueClosing_iff : hasTrueClosing text = true ↔
    ∃ condition ∈ alwaysTrue, ∃ before closing after, Spread (closingTokens condition) closing ∧
      text = before ++ (closing ++ after) := by
  rw [hasTrueClosing, List.any_eq_true]
  refine exists_congr fun condition => and_congr_right fun hcondition => ?_
  refine (occursIn_spreadPieces_iff (solid_closingTokens condition hcondition)
    (List.cons_ne_nil _ _)).trans ?_
  simp only [Bool.false_eq_true, false_implies, true_and]

lemma doOpening_rest?_iff {before : Option Char} : doOpening.rest? ⟨before, s⟩ = some r ↔
    ∃ opening, Spread openingTokens opening ∧ s = opening ++ r := by
  have hsolid : Solid openingTokens := by decide
  refine rest?_eq_some_iff.trans ?_
  simp only [Bool.false_eq_true, false_implies, true_and]
  exact afterPieces?_spreadPieces_iff hsolid (List.cons_ne_nil _ _)

/-- What is behind a character is also behind the first one of its kind. -/
lemma suffix_of_first (hu : c ∉ u) (h : u ++ c :: r = t ++ c :: s) : s <:+ r := by
  obtain ⟨m, rfl, hm⟩ | ⟨m, rfl, hm⟩ := List.append_eq_append_iff.1 h
  · cases m with
    | nil =>
      obtain rfl := (List.cons.inj hm).2
      exact List.suffix_refl r
    | cons d m =>
      rw [(List.cons.inj hm).2]
      exact ⟨m ++ [c], by simp⟩
  · cases m with
    | nil =>
      obtain rfl := (List.cons.inj hm).2
      exact List.suffix_refl s
    | cons d m =>
      obtain ⟨rfl, -⟩ := List.cons.inj hm
      simp at hu

/-- The brace of an opening is the first one from its keyword on. -/
lemma exists_of_openingTokens (h : Spread openingTokens opening) :
    ∃ u, '{' ∉ u ∧ opening = u ++ ['{'] := by
  cases h with
  | @next _ _ g text hg h =>
    cases h with
    | last =>
      have hbrace : '{' ∉ g := fun hmem => absurd (hg _ hmem) (by decide)
      refine ⟨"do".toList ++ g, ?_, by simp⟩
      rw [List.mem_append, not_or]
      exact ⟨by decide, hbrace⟩
    | next _ _ h => cases h

/-- An opening and an end of the text behind it. -/
lemma suffix_of_first_opening {rest first : List Char} {before : List Char}
    (hopening : Spread openingTokens opening) (htext : text = before ++ (opening ++ rest))
    (hfirst : (spots text).findSome? doOpening.rest? = some first) : rest <:+ first := by
  obtain ⟨pre, ahead, -, hsplit, hread, hnone⟩ := findSome?_spotsAfter_eq_some_iff.1 hfirst
  obtain ⟨opening', hopening', rfl⟩ := doOpening_rest?_iff.1 hread
  have hle : pre.length ≤ before.length := by
    by_contra hlt
    have hnone' := hnone before _ htext (Nat.not_le.1 hlt)
    rw [doOpening_rest?_iff.2 ⟨opening, hopening, rfl⟩] at hnone'
    contradiction
  obtain ⟨m, rfl⟩ : pre <+: before := by
    refine List.prefix_of_prefix_length_le ⟨_, hsplit.symm⟩ ⟨_, htext.symm⟩ hle
  obtain ⟨u, hu, rfl⟩ := exists_of_openingTokens hopening'
  obtain ⟨v, -, rfl⟩ := exists_of_openingTokens hopening
  refine suffix_of_first (t := m ++ v) hu ?_
  simp only [hsplit, List.append_assoc, List.singleton_append] at htext
  rw [List.append_assoc]
  exact List.append_cancel_left htext

theorem hasDoWhileTrue_iff : hasDoWhileTrue text = true ↔ ShowsDoWhileTrue text := by
  rw [hasDoWhileTrue, Option.any_eq_true]
  constructor
  · rintro ⟨rest, hfirst, hclosing⟩
    obtain ⟨spot, hspot, hrest⟩ := List.exists_of_findSome?_eq_some hfirst
    obtain ⟨before, ahead, -, rfl, rfl⟩ := mem_spots.1 hspot
    obtain ⟨opening, hopening, rfl⟩ := doOpening_rest?_iff.1 hrest
    obtain ⟨condition, hcondition, body, closing, after, hspread, rfl⟩ :=
      hasTrueClosing_iff.1 hclosing
    exact ⟨condition, hcondition, before, opening, body, closing, after, hopening, hspread, rfl⟩
  · rintro ⟨condition, hcondition, before, opening, body, closing, after, hopening, hclosing, htext⟩
    cases hfirst : (spots text).findSome? doOpening.rest? with
    | none =>
      obtain ⟨u, -, rfl⟩ := exists_of_openingTokens hopening
      have hnone := List.findSome?_eq_none_iff.1 hfirst _
        (mem_spots.2 ⟨before, _, by simp, htext, rfl⟩)
      rw [doOpening_rest?_iff.2 ⟨_, hopening, rfl⟩] at hnone
      contradiction
    | some first =>
      -- the search looks behind the first opening only, and the closing is there as well
      obtain ⟨skipped, rfl⟩ := suffix_of_first_opening hopening htext hfirst
      refine ⟨_, rfl, hasTrueClosing_iff.2 ⟨condition, hcondition, skipped ++ body, closing, after,
        hclosing, ?_⟩⟩
      rw [List.append_assoc]

/-- No word runs from a brace over white space. -/
lemma getLast?_any_isWord_brace {g : List Char} (hg : AllBlank g) (pre : List Char) :
    (pre ++ '}' :: g).getLast?.any isWord = false := by
  induction g using List.reverseRecOn with
  | nil =>
    rw [List.getLast?_concat]
    decide
  | append_singleton g c _ =>
    have hc : isBlank c = true := hg c (by simp)
    rw [← List.cons_append, ← List.append_assoc, List.getLast?_concat, Option.any_some]
    exact isWord_of_isBlank hc

/-- The closing condition of an endless do-while is that of an endless while. -/
theorem ShowsDoWhileTrue.showsWhileTrue (h : ShowsDoWhileTrue text) : ShowsWhileTrue text := by
  obtain ⟨condition, hcondition, before, opening, body, _, after, -, hclosing, rfl⟩ := h
  cases hclosing with
  | @next _ _ g span hg hspan =>
    have hword := getLast?_any_isWord_brace hg (before ++ (opening ++ body))
    exact ⟨condition, hcondition, _, span, after, hword, hspan, by simp⟩

theorem hasWhileTrue_of_hasDoWhileTrue (h : hasDoWhileTrue text = true) :
    hasWhileTrue text = true := by
  rw [hasDoWhileTrue_iff] at h
  rw [hasWhileTrue_iff]
  exact h.showsWhileTrue

/-- What is found, whichever shapes there are. -/
lemma findEndless?_eq (text : List Char) : findEndless? text =
    if hasWhileTrue text then some .whileTrue
    else if emptyForHeader.occursIn text then some .emptyFor
    else none := by
  rw [findEndless?]
  by_cases hwhile : hasWhileTrue text = true
  · rw [if_pos hwhile, if_pos hwhile]
  · have hdo : ¬ hasDoWhileTrue text = true := fun h => hwhile (hasWhileTrue_of_hasDoWhileTrue h)
    rw [if_neg hdo]

theorem findEndless?_isSome_iff : (findEndless? text).isSome = true ↔
    hasWhileTrue text = true ∨ emptyForHeader.occursIn text = true := by
  rw [findEndless?_eq]
  by_cases hwhile : hasWhileTrue text = true
  · simp [hwhile]
  · by_cases hfor : emptyForHeader.occursIn text = true <;> simp [hwhile, hfor]

/-- The shapes in the order in which they are looked for. -/
def shapes : List (Endless × (List Char → Bool)) :=
  [(.whileTrue, hasWhileTrue), (.emptyFor, emptyForHeader.occursIn), (.doWhileTrue, hasDoWhileTrue)]

/-- The first of some shapes that a text shows. -/
def firstOf? (shapes : List (Endless × (List Char → Bool))) (text : List Char) : Option Endless :=
  (shapes.find? (·.2 text)).map (·.1)

/-- The shapes but the do-while. -/
def plainShapes : List (Endless × (List Char → Bool)) := shapes.filter (·.1 ≠ .doWhileTrue)

lemma firstOf?_shapes (text : List Char) : firstOf? shapes text = findEndless? text := by
  rw [findEndless?, firstOf?, shapes]
  cases hwhile : hasWhileTrue text <;> cases hfor : emptyForHeader.occursIn text <;>
    cases hdo : hasDoWhileTrue text <;> simp [hwhile, hfor, hdo]

lemma firstOf?_plainShapes (text : List Char) : firstOf? plainShapes text = findEndless? text := by
  have hplain : plainShapes =
    [(.whileTrue, hasWhileTrue), (.emptyFor, emptyForHeader.occursIn)] := rfl
  rw [findEndless?_eq, firstOf?, hplain]
  cases hwhile : hasWhileTrue text <;> cases hfor : emptyForHeader.occursIn text <;>
    simp [hwhile, hfor]

lemma whileHeader_occursIn_of_hasWhileTrue (h : hasWhileTrue text = true) :
    whileHeader.occursIn text = true := by
  obtain ⟨condition, -, hoccurs⟩ := List.any_eq_true.1 h
  exact Phrase.occursIn_of_append whileHeader.pieces
    [.gap, .exactly condition, .gap, .exactly ")".toList] hoccurs

lemma forHeader_occursIn_of_emptyForHeader (h : emptyForHeader.occursIn text = true) :
    forHeader.occursIn text = true :=
  Phrase.occursIn_of_append forHeader.pieces (emptyForHeader.pieces.drop 3) h

/-- Every shape of an endless loop begins with a loop header. -/
theorem hasHeader_of_findEndless? (h : (findEndless? text).isSome = true) :
    hasHeader text = true := by
  rw [hasHeader, Bool.or_eq_true, Bool.or_eq_true]
  rcases findEndless?_isSome_iff.1 h with hwhile | hfor
  · exact .inl (.inr (whileHeader_occursIn_of_hasWhileTrue hwhile))
  · exact .inl (.inl (forHeader_occursIn_of_emptyForHeader hfor))

end Shapes

end CodeGrowth.Loop

namespace CodeGrowth
open Text Loop

/-- A text has an endless loop just if it shows an endless while or an empty for, since each endless
do-while shows an endless while. The search and the estimate of the growth would be the same if
do-while loops were not looked for. -/
theorem endless_without_doWhile (text : List Char) :
    ((findEndless? text).isSome = true ↔ ShowsWhileTrue text ∨ ShowsEmptyFor text) ∧
      (hasDoWhileTrue text = true ↔ ShowsDoWhileTrue text) ∧
      (ShowsDoWhileTrue text → ShowsWhileTrue text) ∧
      firstOf? shapes text = findEndless? text ∧ firstOf? plainShapes text = findEndless? text ∧
      ∀ source findings, Comment.strip (trim source) = text → analyze source = .report findings →
        findings.growth = if (firstOf? plainShapes text).isSome then none else
          some (Growth.estimate findings.loops findings.recursion findings.nestDepth) := by
  refine ⟨?_, hasDoWhileTrue_iff, ShowsDoWhileTrue.showsWhileTrue, firstOf?_shapes text,
    firstOf?_plainShapes text, ?_⟩
  · rw [findEndless?_isSome_iff, hasWhileTrue_iff, emptyForHeader_occursIn_iff]
  · rintro source findings rfl hreport
    obtain ⟨-, rfl⟩ := analyze_eq_report_iff.1 hreport
    rw [firstOf?_plainShapes]
    rfl

/-- An endless do-while with braces in its body, behind a word that ends in the keyword. -/
def undoLoop : List Char := "undo \x7b if (x) \x7b y(); \x7d \x7d\nwhile ( true );".toList

theorem endless_without_doWhile_undoLoop :
    ShowsDoWhileTrue undoLoop ∧ ShowsWhileTrue undoLoop ∧ (findEndless? undoLoop).isSome = true ∧
      ∃ findings, analyze undoLoop = .report findings ∧ findings.growth = none := by
  have hlaw := endless_without_doWhile undoLoop
  have hdo : ShowsDoWhileTrue undoLoop := hlaw.2.1.1 (by decide +kernel)
  have hwhile : ShowsWhileTrue undoLoop := hlaw.2.2.1 hdo
  have hfound : (findEndless? undoLoop).isSome = true := hlaw.1.2 (.inl hwhile)
  have hblank : ¬ AllBlank undoLoop := by decide
  have hclean : Comment.strip (trim undoLoop) = undoLoop := by decide +kernel
  have hreport := analyze_eq_report_iff.2 ⟨hblank, rfl⟩
  refine ⟨hdo, hwhile, hfound, _, hreport, ?_⟩
  rw [hlaw.2.2.2.2.2 undoLoop _ hclean hreport, hlaw.2.2.2.2.1, if_pos hfound]

/-- A do-while with this condition, and a text before and after it. -/
def doWhileText (before body condition after : List Char) : List Char :=
  before ++ ("do \x7b".toList ++ (body ++ ("\x7d while (".toList ++ (condition ++
    (");".toList ++ after)))))

lemma showsDoWhileTrue_doWhileText {condition : List Char} (h : condition ∈ alwaysTrue)
    (before body after : List Char) :
    ShowsDoWhileTrue (doWhileText before body condition after) := by
  have hspace : AllBlank [' '] := by decide
  refine ⟨condition, h, before, "do \x7b".toList, body,
    "\x7d while (".toList ++ (condition ++ ")".toList), ";".toList ++ after, ?_, ?_, ?_⟩
  · exact .next "do".toList hspace (.last "\x7b".toList)
  · have hcondition : Spread [condition, ")".toList] (condition ++ ")".toList) :=
      .next condition allBlank_nil (.last ")".toList)
    have hparen : Spread ("(".toList :: [condition, ")".toList])
        ("(".toList ++ (condition ++ ")".toList)) :=
      .next "(".toList (g := []) allBlank_nil hcondition
    exact .next "\x7d".toList hspace (.next "while".toList hspace hparen)
  · simp [doWhileText]

lemma findEndless?_ne_doWhileTrue (text : List Char) : findEndless? text ≠ some .doWhileTrue := by
  rw [findEndless?_eq]
  split
  · simp
  · split <;> simp

/-- The first sentence of the prose names the kind of the loop. -/
lemma prefix_prose_of_endless {findings : Findings} {kind : Endless} (hwf : findings.WellFormed)
    (h : findings.endless = some kind) :
    "The analyzer found an infinite loop pattern (".toList ++ kind.describe.toList ++
      ").".toList <+: (explain (.report findings)).prose.toList := by
  obtain ⟨rest, hprose⟩ := Explanation.toList_endlessProse h
  rw [explain, Explanation.ofFindings_of_some hwf h]
  refine ⟨rest, Eq.trans ?_ hprose.symm⟩
  simp

/-- An endless do-while is reported and explained as an endless while, and nothing is reported as an
endless do-while. -/
theorem endless_doWhileText (before body after : List Char) {condition : List Char}
    (h : condition ∈ alwaysTrue) :
    findEndless? (doWhileText before body condition after) = some .whileTrue ∧
      (∀ source, Comment.strip (trim source) = doWhileText before body condition after →
        "The analyzer found an infinite loop pattern (while(1)).".toList <+:
          (explain (analyze source)).prose.toList) ∧
      ∀ source findings, analyze source = .report findings →
        findings.endless ≠ some .doWhileTrue := by
  have hwhile : hasWhileTrue (doWhileText before body condition after) = true :=
    hasWhileTrue_iff.2 (showsDoWhileTrue_doWhileText h before body after).showsWhileTrue
  have hfound : findEndless? (doWhileText before body condition after) = some .whileTrue := by
    rw [findEndless?_eq, if_pos hwhile]
  refine ⟨hfound, fun source hclean => ?_, fun source findings hreport => ?_⟩
  · have hblank : ¬ AllBlank source := by
      intro hblank
      rw [trim_eq_nil_iff.2 hblank] at hclean
      simp [Comment.strip, Comment.removeBlocks, Comment.removeLines, Comment.removeLinesFrom,
        doWhileText] at hclean
    have hprose := prefix_prose_of_endless (Findings.ofCleaned_wellFormed _) hfound
    rw [analyze_eq_report_iff.2 ⟨hblank, rfl⟩, hclean]
    simpa [Endless.describe] using hprose
  · obtain ⟨-, rfl⟩ := analyze_eq_report_iff.1 hreport
    exact findEndless?_ne_doWhileTrue _

theorem endless_doWhileText_true :
    "true".toList ∈ alwaysTrue ∧
      findEndless? (doWhileText "x(); ".toList " if (y) \x7b z(); \x7d ".toList "true".toList
        " w();".toList) = some .whileTrue ∧
      "The analyzer found an infinite loop pattern (while(1)).".toList <+:
        (explain (analyze (doWhileText "x(); ".toList " if (y) \x7b z(); \x7d ".toList
          "true".toList " w();".toList))).prose.toList :=
  have htrue : "true".toList ∈ alwaysTrue := by decide
  have hlaw := endless_doWhileText "x(); ".toList " if (y) \x7b z(); \x7d ".toList
    " w();".toList htrue
  ⟨htrue, hlaw.1, hlaw.2.1 _ (by decide +kernel)⟩

/-- A do-while that stands alone, with nothing in it, is not found as a do-while. -/
theorem doWhileText_not_doWhileTrue :
    ¬ ∀ before body condition after, condition ∈ alwaysTrue →
      AllBlank before ∨ before.getLast?.any isWord = false →
      (∀ part ∈ [before, body, after],
        hasWhileTrue part = false ∧ emptyForHeader.occursIn part = false) →
      findEndless? (doWhileText before body condition after) = some .doWhileTrue ∧
        "The analyzer found an infinite loop pattern (do-while(1)).".toList <+:
          (explain (analyze (doWhileText before body condition after))).prose.toList := by
  intro h
  obtain ⟨hfound, -⟩ := h [] [] "1".toList [] (by decide) (.inl allBlank_nil) (by decide)
  exact findEndless?_ne_doWhileTrue _ hfound

/-- An endless loop that masking leaves in place is one of the loops that are counted. -/
theorem one_le_total_of_endlessLoop {source : List Char} {findings : Findings}
    (h : analyze source = .report findings) (hendless : findings.endlessLoop = true)
    (hmask : (findEndless? (Literal.mask (Comment.strip (trim source)))).isSome =
      findings.endlessLoop) : 1 ≤ findings.loops.total := by
  obtain ⟨-, rfl⟩ := analyze_eq_report_iff.1 h
  have hheader := hasHeader_of_findEndless? (hmask.trans hendless)
  by_contra htotal
  have hnone := total_eq_zero_iff.1 (Nat.lt_one_iff.1 (Nat.not_le.1 htotal))
  rw [hheader] at hnone
  contradiction

/-- A keyword in a string, and behind it an endless do-while. -/
def openLoop : List Char := "f(\"for\"); do \x7b \x7d\nwhile (true);".toList

theorem one_le_total_openLoop :
    ∃ findings, analyze openLoop = .report findings ∧ findings.endlessLoop = true ∧
      (findEndless? (Literal.mask (Comment.strip (trim openLoop)))).isSome =
        findings.endlessLoop ∧ 1 ≤ findings.loops.total := by
  have hblank : ¬ AllBlank openLoop := by decide
  have hreport := analyze_eq_report_iff.2 ⟨hblank, rfl⟩
  have hendless : (Findings.ofCleaned (Comment.strip (trim openLoop))).endlessLoop = true := by
    decide +kernel
  have hmask : (findEndless? (Literal.mask (Comment.strip (trim openLoop)))).isSome =
      (Findings.ofCleaned (Comment.strip (trim openLoop))).endlessLoop := by decide +kernel
  exact ⟨_, hreport, hendless, hmask, one_le_total_of_endlessLoop hreport hendless hmask⟩

/-- An endless loop in a string. -/
def quotedLoop : List Char := "puts(\"while (1)\");".toList

/-- A loop in a string is found to be endless and is not counted. -/
theorem endlessLoop_not_counted :
    ¬ ∀ source findings, analyze source = .report findings → findings.endlessLoop = true →
      1 ≤ findings.loops.total := by
  intro h
  have hblank : ¬ AllBlank quotedLoop := by decide
  have hreport := analyze_eq_report_iff.2 ⟨hblank, rfl⟩
  have htotal := h quotedLoop _ hreport (by decide +kernel)
  revert htotal
  decide +kernel

end CodeGrowth
