import CodeGrowth.Proofs.Cuts
import CodeGrowth.Proofs.StrippedText

/-!
# The spans of comments

A text has exactly one cut at its block comments, each from the first opening marker that is closed
at all to the first closing marker that does not share its star. Stripping joins the stretches of
that cut and then, line by line, keeps what stands before the first marker of a line comment. So it
adds nothing, moves nothing, and leaves all line ends of the joined text in place.
-/
namespace CodeGrowth.Comment
open Text

variable {c : Char} {cs rest line text : List Char} {cut : Cut}

/-- A block comment with its markers: the closing one is the first behind the opening one. -/
def IsBlock (span : List Char) : Prop :=
  ∃ w, ¬ ['*', '/'] <:+: w ∧ span = '/' :: '*' :: (w ++ ['*', '/'])

lemma prefixFree_isBlock : PrefixFree IsBlock where
  ne_nil := by
    rintro _ ⟨w, -, rfl⟩
    exact List.cons_ne_nil _ _
  eq_of_prefix := by
    rintro _ _ ⟨w, hw, rfl⟩ ⟨w', hw', rfl⟩ ⟨rest, heq⟩
    have hclose := afterClose?_append_close hw rest
    have hclose' := afterClose?_append_close hw' []
    simp only [List.cons_append, List.append_assoc, List.nil_append, List.cons.injEq,
      true_and] at heq
    rw [heq, hclose', Option.some.injEq] at hclose
    rw [← hclose] at heq
    rw [heq]

lemma begins_isBlock : Begins IsBlock text ↔
    ∃ cs, text = '/' :: '*' :: cs ∧ ['*', '/'] <:+: cs := by
  constructor
  · rintro ⟨_, rest, ⟨w, -, rfl⟩, rfl⟩
    exact ⟨w ++ '*' :: '/' :: rest, by simp, w, rest, by simp⟩
  · rintro ⟨cs, rfl, hclose⟩
    have hne : afterClose? cs ≠ none := fun hnone => afterClose?_eq_none_iff.1 hnone hclose
    obtain ⟨rest, hsome⟩ := Option.ne_none_iff_exists'.1 hne
    obtain ⟨w, hw, rfl⟩ := exists_of_afterClose? hsome
    exact ⟨_, rest, ⟨w, hw, rfl⟩, by simp⟩

lemma holdsBlock_iff : HoldsBlock text ↔ ∃ a b, text = a ++ b ∧ Begins IsBlock b := by
  constructor
  · rintro ⟨a, w, b, rfl⟩
    exact ⟨a, _, rfl, begins_isBlock.2 ⟨_, rfl, w, b, by simp⟩⟩
  · rintro ⟨a, b, rfl, hbegins⟩
    obtain ⟨cs, rfl, w, b, rfl⟩ := begins_isBlock.1 hbegins
    exact ⟨a, w, b, by simp⟩

lemma noneBegins_isBlock_iff : NoneBegins IsBlock text [] ↔ ¬ HoldsBlock text := by
  rw [holdsBlock_iff]
  constructor
  · rintro h ⟨a, b, hab, hbegins⟩
    refine h a b hab ?_ (by rwa [List.append_nil])
    rintro rfl
    obtain ⟨cs, hcs, -⟩ := begins_isBlock.1 hbegins
    contradiction
  · intro h a b hab _ hbegins
    rw [List.append_nil] at hbegins
    exact h ⟨a, b, hab, hbegins⟩

/-- No block comment begins without its opening marker. -/
lemma noneBegins_of_not_infix {stretch : List Char} (h : ¬ ['/', '*'] <:+: stretch)
    (hrest : rest.head? ≠ some '*') : NoneBegins IsBlock stretch rest := by
  induction stretch with
  | nil => exact noneBegins_nil
  | cons c stretch ih =>
    rw [List.infix_cons_iff, not_or, pair_prefix_cons] at h
    refine noneBegins_cons.2 ⟨fun hbegins => ?_, ih h.2⟩
    obtain ⟨cs, heq, -⟩ := begins_isBlock.1 hbegins
    obtain ⟨rfl, htail⟩ := List.cons.inj heq
    cases stretch with
    | nil => exact hrest (congrArg List.head? htail)
    | cons d stretch => exact h.1 ⟨rfl, congrArg List.head? htail⟩

/-- An opening marker that is never closed is passed over like any other text. -/
lemma removes_removeBlocks : Removes IsBlock removeBlocks where
  nil := removeBlocks_nil
  span := by
    rintro _ ⟨w, hw, rfl⟩ rest
    have hclose := afterClose?_append_close hw rest
    simpa using removeBlocks_of_some hclose
  char := by
    intro c cs h
    by_cases hopen : ['/', '*'] <+: c :: cs
    · obtain ⟨rest, hrest⟩ := hopen
      obtain ⟨rfl, rfl⟩ := List.cons.inj hrest
      have hclose : ¬ ['*', '/'] <:+: rest := fun hclose => h (begins_isBlock.2 ⟨rest, rfl, hclose⟩)
      have hstar : ¬ ['/', '*'] <+: '*' :: rest := by simp
      change removeBlocks ('/' :: '*' :: rest) = '/' :: removeBlocks ('*' :: rest)
      rw [removeBlocks_of_none (afterClose?_eq_none_iff.2 hclose), removeBlocks_cons hstar,
        removeBlocks_of_not_close hclose]
    · exact removeBlocks_cons hopen

/-- What stands in a line before its first marker of a line comment. -/
def code : List Char → List Char
  | [] => []
  | c :: cs => if ['/', '/'] <+: c :: cs then [] else c :: code cs

lemma removeLinesFrom_inside_line (hline : ∀ c ∈ line, endsLine c = false) (rest : List Char) :
    removeLinesFrom true (line ++ rest) = removeLinesFrom true rest := by
  induction line with
  | nil => rfl
  | cons c line ih =>
    obtain ⟨hc, hline⟩ := List.forall_mem_cons.1 hline
    rw [List.cons_append, removeLinesFrom_inside_cons hc, ih hline]

lemma removeLines_end (hc : endsLine c = true) (cs : List Char) :
    removeLines (c :: cs) = c :: removeLines cs := by
  refine removeLinesFrom_cons fun hpair => ?_
  obtain ⟨rfl, -⟩ := pair_prefix_cons.1 hpair
  contradiction

/-- The end of a line ends a line comment in it. -/
lemma removeLines_line (hline : ∀ c ∈ line, endsLine c = false)
    (hrest : rest.head?.all endsLine = true) :
    removeLines (line ++ rest) = code line ++ removeLines rest := by
  induction line with
  | nil => rfl
  | cons c line ih =>
    obtain ⟨-, hline⟩ := List.forall_mem_cons.1 hline
    have hpair : ['/', '/'] <+: c :: (line ++ rest) ↔ ['/', '/'] <+: c :: line := by
      rw [pair_prefix_cons, pair_prefix_cons]
      cases line with
      | nil =>
        have hslash : rest.head? ≠ some '/' := by
          intro hhead
          rw [hhead] at hrest
          contradiction
        simp [hslash]
      | cons d line => rfl
    by_cases hopen : ['/', '/'] <+: c :: line
    · have hinside : removeLinesFrom true rest = removeLines rest := by
        cases rest with
        | nil => rfl
        | cons e rest => rw [removeLinesFrom_inside_end hrest, removeLines_end hrest, removeLines]
      rw [code, if_pos hopen, List.cons_append, removeLines, removeLinesFrom_open (hpair.2 hopen),
        removeLinesFrom_inside_line hline, hinside, List.nil_append]
    · rw [code, if_neg hopen, List.cons_append, removeLines,
        removeLinesFrom_cons (mt hpair.1 hopen), ← removeLines, ih hline, List.cons_append]

/-- The second pass keeps the code of each line. -/
lemma removeLines_text (hcut : cut.AtFirst (Single endsLine)) :
    removeLines cut.text = (cut.map code).text := by
  induction cut with
  | last line =>
    have hnil : removeLines [] = [] := rfl
    have hend : ([] : List Char).head?.all endsLine = true := rfl
    have hline := removeLines_line (noneBegins_single.1 hcut) hend
    rwa [List.append_nil, hnil, List.append_nil] at hline
  | part line span rest ih =>
    obtain ⟨⟨c, hc, rfl⟩, hline, hrest⟩ := hcut
    have hend : ([c] ++ rest.text).head?.all endsLine = true := hc
    rw [Cut.text, removeLines_line (noneBegins_single.1 hline) hend, List.singleton_append,
      removeLines_end hc, ih hrest]
    rfl

/-- What goes of a line comment does not reach the end of its line. -/
lemma filter_endsLine_removeLinesFrom (inside : Bool) (cs : List Char) :
    (removeLinesFrom inside cs).filter endsLine = cs.filter endsLine := by
  fun_induction removeLinesFrom inside cs with
  | case1 => rfl
  | case2 c cs hend ih => rw [List.filter_cons_of_pos hend, List.filter_cons_of_pos hend, ih]
  | case3 c cs hend ih => rw [List.filter_cons_of_neg hend, ih]
  | case4 _ c cs _ hopen ih =>
    rw [List.filter_cons_of_neg (by rw [hopen.1]; decide), ih]
  | case5 _ c cs _ _ ih => rw [List.filter_cons, List.filter_cons, ih]

theorem strip_cut (text : List Char) :
    (∃! cut : Cut, cut.text = text ∧ cut.AtFirst IsBlock) ∧
      (∀ cut : Cut, cut.text = text → cut.AtFirst IsBlock →
        ¬ HoldsBlock cut.lastStretch ∧
          strip text = ((cutAt endsLine cut.kept).map code).text ∧
          (strip text).filter endsLine = cut.kept.filter endsLine) ∧
      ¬ ['/', '/'] <:+: strip text ∧ (strip text).Sublist text ∧
      (¬ ['/', '/'] <:+: text → ¬ ['/', '*'] <:+: text → strip text = text) := by
  refine ⟨existsUnique_cut prefixFree_isBlock text, ?_, not_infix_removeLinesFrom false _, ?_, ?_⟩
  · rintro cut rfl hcut
    have hlines := removeLines_text (atFirst_cutAt endsLine cut.kept)
    rw [text_cutAt] at hlines
    rw [strip, removes_removeBlocks.eq_kept hcut]
    exact ⟨noneBegins_isBlock_iff.1 hcut.noneBegins_lastStretch, hlines,
      filter_endsLine_removeLinesFrom false cut.kept⟩
  · exact (removeLinesFrom_sublist false _).trans (removeBlocks_sublist text)
  · intro hline hblock
    rw [strip, removeBlocks_of_not_infix hblock, removeLines_of_not_infix hline]

/-- A star that both markers would share, a closing marker too many, and what becomes a line comment
once a block comment in it is gone. -/
def gluedMarkers : Cut :=
  .part "a /".toList "/*/ b **/".toList (.last "/ c */\nd".toList)

theorem strip_cut_gluedMarkers :
    gluedMarkers.text = "a //*/ b **// c */\nd".toList ∧ gluedMarkers.AtFirst IsBlock ∧
      (¬ HoldsBlock gluedMarkers.lastStretch ∧
        strip gluedMarkers.text = ((cutAt endsLine gluedMarkers.kept).map code).text ∧
        (strip gluedMarkers.text).filter endsLine = gluedMarkers.kept.filter endsLine) ∧
      strip "a * b / c".toList = "a * b / c".toList := by
  have htext : gluedMarkers.text = "a //*/ b **// c */\nd".toList := by decide
  have hcut : gluedMarkers.AtFirst IsBlock :=
    ⟨⟨"/ b *".toList, by decide, by decide⟩, noneBegins_of_not_infix (by decide) (by decide),
      noneBegins_of_not_infix (by decide) (by decide)⟩
  exact ⟨htext, hcut, (strip_cut _).2.1 gluedMarkers rfl hcut,
    (strip_cut _).2.2.2.2 (by decide) (by decide)⟩

end CodeGrowth.Comment
