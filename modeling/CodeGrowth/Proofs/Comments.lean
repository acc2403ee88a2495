import CodeGrowth.Proofs.Layout
import Mathlib.Data.List.Infix

/-!
# Removal of comments

A block comment goes from an opening marker to the first closing marker behind it, whatever stands
between them. In a text without opening markers nothing is removed, so a block comment put into
such a text leaves it as it was, wherever it is put.

White space at the ends of a text holds no marker and so stays there, except that a line comment
takes what is left of its line along. The detectors do not see white space at the ends, so a
snippet need not be trimmed for its findings.
-/
namespace CodeGrowth
open Text

namespace Comment
variable {c : Char} {cs rest w : List Char}

lemma pair_prefix_cons {x y : Char} : [x, y] <+: c :: cs ↔ x = c ∧ cs.head? = some y := by
  rw [List.cons_prefix_cons]
  cases cs with
  | nil => simp
  | cons d ds => simp [List.cons_prefix_cons, eq_comm]

lemma not_pair_prefix {x y : Char} (h : ∀ rest, c = x → cs = y :: rest → False) :
    ¬ [x, y] <+: c :: cs := by
  intro hpair
  obtain ⟨hx, hhead⟩ := pair_prefix_cons.1 hpair
  obtain ⟨rest, hy⟩ := List.head?_eq_some_iff.1 hhead
  exact h rest hx.symm hy

lemma pair_prefix_append {x y : Char} (h : y ∉ rest) :
    [x, y] <+: c :: (cs ++ rest) ↔ [x, y] <+: c :: cs := by
  rw [pair_prefix_cons, pair_prefix_cons]
  cases cs with
  | nil =>
    have hrest : rest.head? ≠ some y := fun hhead => h (List.mem_of_head? hhead)
    simp [hrest]
  | cons d cs => rfl

lemma afterClose?_close (cs : List Char) : afterClose? ('*' :: '/' :: cs) = some cs := by
  rw [afterClose?]

lemma afterClose?_cons (h : ¬ ['*', '/'] <+: c :: cs) : afterClose? (c :: cs) = afterClose? cs := by
  rw [afterClose?]
  rintro rest rfl rfl
  exact h (List.prefix_append ['*', '/'] rest)

lemma afterClose?_of_notMem (h : '/' ∉ cs) : afterClose? cs = none := by
  induction cs with
  | nil => rfl
  | cons c cs ih =>
    rw [List.mem_cons, not_or] at h
    rw [afterClose?_cons, ih h.2]
    intro hpair
    exact h.2 (List.mem_of_head? (pair_prefix_cons.1 hpair).2)

/-- The first closing marker is the one behind a text without closing markers, even if that ends in
a star. -/
lemma afterClose?_append_close (hw : ¬ ['*', '/'] <:+: w) (rest : List Char) :
    afterClose? (w ++ '*' :: '/' :: rest) = some rest := by
  induction w with
  | nil => exact afterClose?_close rest
  | cons c w ih =>
    rw [List.infix_cons_iff, not_or] at hw
    rw [List.cons_append, afterClose?_cons, ih hw.2]
    intro hpair
    rw [pair_prefix_cons] at hpair
    cases w with
    -- a star at the end of the text has the closing marker's star after it, not its slash
    | nil => simp at hpair
    | cons d w => exact hw.1 (pair_prefix_cons.2 hpair)

lemma afterClose?_append_of_notMem (h : '/' ∉ rest) (cs : List Char) :
    afterClose? (cs ++ rest) = (afterClose? cs).map (· ++ rest) := by
  fun_induction afterClose? cs with
  | case1 => exact afterClose?_of_notMem h
  | case2 cs => exact afterClose?_close _
  | case3 c cs hclose ih =>
    rw [List.cons_append, afterClose?_cons, ih]
    rw [pair_prefix_append h]
    exact not_pair_prefix hclose

lemma removeBlocks_nil : removeBlocks [] = [] := by rw [removeBlocks]

lemma removeBlocks_cons (h : ¬ ['/', '*'] <+: c :: cs) :
    removeBlocks (c :: cs) = c :: removeBlocks cs := by
  rw [removeBlocks]
  rintro rest rfl rfl
  exact h (List.prefix_append ['/', '*'] rest)

lemma removeBlocks_of_some (h : afterClose? cs = some rest) :
    removeBlocks ('/' :: '*' :: cs) = removeBlocks rest := by
  rw [removeBlocks]
  split
  · next h' => rw [h] at h'; cases h'; rfl
  · next h' => rw [h] at h'; contradiction

lemma removeBlocks_of_none (h : afterClose? cs = none) :
    removeBlocks ('/' :: '*' :: cs) = '/' :: '*' :: cs := by
  rw [removeBlocks]
  split
  · next h' => rw [h] at h'; contradiction
  · rfl

lemma removeBlocks_of_not_infix (h : ¬ ['/', '*'] <:+: cs) : removeBlocks cs = cs := by
  induction cs with
  | nil => exact removeBlocks_nil
  | cons c cs ih =>
    rw [List.infix_cons_iff, not_or] at h
    rw [removeBlocks_cons h.1, ih h.2]

/-- A block comment is cut out. The text before it may end in a slash. -/
theorem removeBlocks_append_block {a : List Char} (ha : ¬ ['/', '*'] <:+: a)
    (hw : ¬ ['*', '/'] <:+: w) (b : List Char) :
    removeBlocks (a ++ '/' :: '*' :: (w ++ '*' :: '/' :: b)) = a ++ removeBlocks b := by
  induction a with
  | nil => exact removeBlocks_of_some (afterClose?_append_close hw b)
  | cons c a ih =>
    rw [List.infix_cons_iff, not_or] at ha
    rw [List.cons_append, removeBlocks_cons, ih ha.2, List.cons_append]
    intro hpair
    rw [pair_prefix_cons] at hpair
    cases a with
    | nil => simp at hpair
    | cons d a => exact ha.1 (pair_prefix_cons.2 hpair)

lemma removeBlocks_notMem_append (h : '/' ∉ cs) (rest : List Char) :
    removeBlocks (cs ++ rest) = cs ++ removeBlocks rest := by
  induction cs with
  | nil => rfl
  | cons c cs ih =>
    rw [List.mem_cons, not_or] at h
    rw [List.cons_append, removeBlocks_cons, ih h.2, List.cons_append]
    exact fun hpair => h.1 (pair_prefix_cons.1 hpair).1

lemma removeBlocks_append_of_notMem (hslash : '/' ∉ rest) (hstar : '*' ∉ rest) (cs : List Char) :
    removeBlocks (cs ++ rest) = removeBlocks cs ++ rest := by
  fun_induction removeBlocks cs with
  | case1 =>
    refine removeBlocks_of_not_infix fun hpair => hslash (hpair.subset ?_)
    simp
  | case2 cs after hsome ih =>
    have hafter : afterClose? (cs ++ rest) = some (after ++ rest) := by
      rw [afterClose?_append_of_notMem hslash, hsome, Option.map_some]
    rw [List.cons_append, List.cons_append, removeBlocks_of_some hafter, ih]
  | case3 cs hnone =>
    have hafter : afterClose? (cs ++ rest) = none := by
      rw [afterClose?_append_of_notMem hslash, hnone, Option.map_none]
    exact removeBlocks_of_none hafter
  | case4 c cs hopen ih =>
    rw [List.cons_append, removeBlocks_cons, ih, List.cons_append]
    rw [pair_prefix_append hstar]
    exact not_pair_prefix hopen

lemma removeLinesFrom_inside_end (h : endsLine c = true) (cs : List Char) :
    removeLinesFrom true (c :: cs) = c :: removeLinesFrom false cs := by
  rw [removeLinesFrom, if_pos rfl, if_pos h]

lemma removeLinesFrom_inside_cons (h : endsLine c = false) (cs : List Char) :
    removeLinesFrom true (c :: cs) = removeLinesFrom true cs := by
  rw [removeLinesFrom, if_pos rfl, if_neg (by simp [h])]

lemma removeLinesFrom_open (h : ['/', '/'] <+: c :: cs) :
    removeLinesFrom false (c :: cs) = removeLinesFrom true cs := by
  obtain ⟨hc, hhead⟩ := pair_prefix_cons.1 h
  rw [removeLinesFrom, if_neg (by decide), if_pos ⟨hc.symm, hhead⟩]

lemma removeLinesFrom_cons (h : ¬ ['/', '/'] <+: c :: cs) :
    removeLinesFrom false (c :: cs) = c :: removeLinesFrom false cs := by
  rw [removeLinesFrom, if_neg (by decide), if_neg]
  rintro ⟨hc, hhead⟩
  exact h (pair_prefix_cons.2 ⟨hc.symm, hhead⟩)

lemma removeLinesFrom_sublist (inside : Bool) (cs : List Char) :
    (removeLinesFrom inside cs).Sublist cs := by
  fun_induction removeLinesFrom inside cs with
  | case1 => exact List.Sublist.refl []
  | case2 _ _ _ ih => exact ih.cons_cons _
  | case3 _ _ _ ih => exact ih.cons _
  | case4 _ _ _ _ _ ih => exact ih.cons _
  | case5 _ _ _ _ _ ih => exact ih.cons_cons _

lemma removeLines_notMem_append (h : '/' ∉ cs) (rest : List Char) :
    removeLines (cs ++ rest) = cs ++ removeLines rest := by
  rw [removeLines]
  induction cs with
  | nil => rfl
  | cons c cs ih =>
    rw [List.mem_cons, not_or] at h
    rw [List.cons_append, removeLinesFrom_cons, ih h.2, List.cons_append]
    exact fun hpair => h.1 (pair_prefix_cons.1 hpair).1

/-- Of the white space behind a text, a line comment at its end takes what is on its line. -/
lemma exists_removeLinesFrom_append {g : List Char} (hg : AllBlank g) (inside : Bool)
    (cs : List Char) :
    ∃ g', AllBlank g' ∧ removeLinesFrom inside (cs ++ g) = removeLinesFrom inside cs ++ g' := by
  have hslash : '/' ∉ g := fun hmem => ne_of_isBlank (hg _ hmem) (by decide) rfl
  fun_induction removeLinesFrom inside cs with
  | case1 inside => exact ⟨_, hg.subset (removeLinesFrom_sublist inside g).subset, rfl⟩
  | case2 c cs hend ih =>
    obtain ⟨g', hg', heq⟩ := ih
    refine ⟨g', hg', ?_⟩
    rw [List.cons_append, removeLinesFrom_inside_end hend, heq, List.cons_append]
  | case3 c cs hend ih =>
    rwa [List.cons_append, removeLinesFrom_inside_cons (by simpa using hend)]
  | case4 inside c cs hinside hopen ih =>
    obtain rfl : inside = false := by simpa using hinside
    have hpair : ['/', '/'] <+: c :: (cs ++ g) := by
      rw [pair_prefix_append hslash]
      exact pair_prefix_cons.2 ⟨hopen.1.symm, hopen.2⟩
    rwa [List.cons_append, removeLinesFrom_open hpair]
  | case5 inside c cs hinside hopen ih =>
    obtain rfl : inside = false := by simpa using hinside
    have hpair : ¬ ['/', '/'] <+: c :: (cs ++ g) := by
      rw [pair_prefix_append hslash, pair_prefix_cons]
      exact fun h => hopen ⟨h.1.symm, h.2⟩
    obtain ⟨g', hg', heq⟩ := ih
    refine ⟨g', hg', ?_⟩
    rw [List.cons_append, removeLinesFrom_cons hpair, heq, List.cons_append]

lemma exists_strip_append {g h : List Char} (hg : AllBlank g) (hh : AllBlank h) (cs : List Char) :
    ∃ h', AllBlank h' ∧ strip (g ++ cs ++ h) = g ++ strip cs ++ h' := by
  have hnotMem : ∀ {g : List Char}, AllBlank g → ∀ c, isBlank c = false → c ∉ g := by
    intro g hg c hc hmem
    exact ne_of_isBlank (hg c hmem) hc rfl
  have hslash := hnotMem hg '/' (by decide)
  have hblocks : removeBlocks (g ++ cs ++ h) = g ++ (removeBlocks cs ++ h) := by
    rw [removeBlocks_append_of_notMem (hnotMem hh '/' (by decide)) (hnotMem hh '*' (by decide)),
      removeBlocks_notMem_append hslash, List.append_assoc]
  obtain ⟨h', hh', heq⟩ := exists_removeLinesFrom_append hh false (removeBlocks cs)
  refine ⟨h', hh', ?_⟩
  rw [strip, hblocks, removeLines_notMem_append hslash, removeLines, heq, List.append_assoc]
  rfl

end Comment

/-- White space around a snippet has no effect on its analysis. -/
theorem analyze_allBlank_append_append {g h : List Char} (hg : AllBlank g) (hh : AllBlank h)
    (source : List Char) : analyze (g ++ source ++ h) = analyze source := by
  rw [analyze, trim_append_allBlank hh, trim_allBlank_append hg, analyze]

/-- A snippet that is not blank need not be trimmed for its findings. -/
theorem analyze_eq (source : List Char) :
    analyze source = if AllBlank source then .empty
      else .report (Findings.ofCleaned (Comment.strip source)) := by
  obtain ⟨g, h, hg, hh, hsource⟩ := exists_append_trim_append source
  obtain ⟨h', hh', hstrip⟩ := Comment.exists_strip_append hg hh (trim source)
  rw [← hsource] at hstrip
  rw [analyze, hstrip, Findings.ofCleaned_allBlank_append_append hg hh']
  simp only [List.isEmpty_iff, trim_eq_nil_iff]

/-- A block comment may be put anywhere: inside a word, a literal or a line comment, or at an end of
the snippet. -/
theorem analyze_insert_block_comment {a b w : List Char} (hblank : ¬ AllBlank (a ++ b))
    (hab : ¬ ['/', '*'] <:+: a ++ b) (hw : ¬ ['*', '/'] <:+: w) :
    analyze (a ++ ['/', '*'] ++ w ++ ['*', '/'] ++ b) = analyze (a ++ b) := by
  have ha : ¬ ['/', '*'] <:+: a := fun h => hab (h.trans (List.prefix_append a b).isInfix)
  have hb : ¬ ['/', '*'] <:+: b := fun h => hab (h.trans (List.suffix_append a b).isInfix)
  have htext : a ++ ['/', '*'] ++ w ++ ['*', '/'] ++ b =
      a ++ '/' :: '*' :: (w ++ '*' :: '/' :: b) := by simp
  have hnotBlank : ¬ AllBlank (a ++ '/' :: '*' :: (w ++ '*' :: '/' :: b)) := by
    intro h
    exact ne_of_isBlank (h '/' (by simp)) (by decide) rfl
  have hblocks : Comment.removeBlocks (a ++ '/' :: '*' :: (w ++ '*' :: '/' :: b)) =
      Comment.removeBlocks (a ++ b) := by
    rw [Comment.removeBlocks_append_block ha hw, Comment.removeBlocks_of_not_infix hb,
      Comment.removeBlocks_of_not_infix hab]
  rw [htext, analyze_eq, analyze_eq, if_neg hnotBlank, if_neg hblank, Comment.strip, hblocks]
  rfl

/-- The comment stands inside a keyword and holds a line feed, a quote, markers and a loop. -/
theorem analyze_block_comment_in_keyword :
    ¬ AllBlank ("wh".toList ++ "ile (x) f();".toList) ∧
      ¬ ['/', '*'] <:+: "wh".toList ++ "ile (x) f();".toList ∧
      ¬ ['*', '/'] <:+: "\n' /* // for (;;) *".toList ∧
      analyze ("wh".toList ++ ['/', '*'] ++ "\n' /* // for (;;) *".toList ++ ['*', '/'] ++
        "ile (x) f();".toList) = analyze ("wh".toList ++ "ile (x) f();".toList) := by
  have hblank : ¬ AllBlank ("wh".toList ++ "ile (x) f();".toList) := by decide
  have hab : ¬ ['/', '*'] <:+: "wh".toList ++ "ile (x) f();".toList := by decide
  have hw : ¬ ['*', '/'] <:+: "\n' /* // for (;;) *".toList := by decide
  exact ⟨hblank, hab, hw, analyze_insert_block_comment hblank hab hw⟩

end CodeGrowth
