import CodeGrowth.Proofs.LineComments

/-!
# Stripping a stripped text

A stripped text holds no marker of a line comment, so there is nothing for the second pass to remove
from it. The first pass is another matter: a slash and a star come together where block comments
stood between them, and what they open may be closed further on. Stripping twice equals stripping
once exactly if the stripped text holds no block comment, and wherever no block comments stand right
between a slash and a star it holds none.
-/
namespace CodeGrowth.Comment
variable {c : Char} {cs rest text : List Char}

/-- A block comment stands somewhere in the text. -/
def HoldsBlock (text : List Char) : Prop :=
  ∃ a w b, text = a ++ '/' :: '*' :: (w ++ '*' :: '/' :: b)

lemma holdsBlock_cons : HoldsBlock (c :: cs) ↔
    (['/', '*'] <+: c :: cs ∧ ['*', '/'] <:+: cs.tail) ∨ HoldsBlock cs := by
  constructor
  · rintro ⟨a, w, b, h⟩
    cases a with
    | nil =>
      obtain ⟨rfl, rfl⟩ := List.cons.inj h
      exact .inl ⟨List.prefix_append ['/', '*'] _, w, b, by simp⟩
    | cons d a =>
      obtain ⟨rfl, rfl⟩ := List.cons.inj h
      exact .inr ⟨a, w, b, rfl⟩
  · rintro (⟨⟨rest, hopen⟩, hclose⟩ | ⟨a, w, b, rfl⟩)
    · obtain ⟨rfl, rfl⟩ := List.cons.inj hopen
      obtain ⟨w, b, hrest⟩ := hclose
      exact ⟨[], w, b, by simpa using hrest.symm⟩
    · exact ⟨c :: a, w, b, rfl⟩

lemma HoldsBlock.cons (h : HoldsBlock cs) (c : Char) : HoldsBlock (c :: cs) :=
  holdsBlock_cons.2 (.inr h)

lemma exists_of_afterClose? (h : afterClose? cs = some rest) :
    ∃ w, ¬ ['*', '/'] <:+: w ∧ cs = w ++ '*' :: '/' :: rest := by
  fun_induction afterClose? cs with
  | case1 => contradiction
  | case2 =>
    cases h
    exact ⟨[], by simp, rfl⟩
  | case3 c cs hclose ih =>
    obtain ⟨w, hw, rfl⟩ := ih h
    refine ⟨c :: w, ?_, rfl⟩
    rw [List.infix_cons_iff, not_or]
    refine ⟨?_, hw⟩
    rw [pair_prefix_cons]
    rintro ⟨rfl, hslash⟩
    obtain ⟨w, rfl⟩ := List.head?_eq_some_iff.1 hslash
    exact hclose _ rfl rfl

/-- The first pass leaves a text as it is, or makes it shorter. -/
lemma length_removeBlocks_lt (h : HoldsBlock text) :
    (removeBlocks text).length < text.length := by
  fun_induction removeBlocks text with
  | case1 =>
    obtain ⟨a, w, b, h⟩ := h
    simp at h
  | case2 cs rest hsome ih =>
    have hle := (removeBlocks_sublist rest).length_le
    have hlt := length_afterClose?_lt hsome
    simp only [List.length_cons]
    omega
  | case3 cs hnone =>
    have hclose := afterClose?_eq_none_iff.1 hnone
    obtain ⟨-, h⟩ | h := holdsBlock_cons.1 h
    · exact absurd h hclose
    · obtain ⟨h, -⟩ | ⟨a, w, b, rfl⟩ := holdsBlock_cons.1 h
      · simp at h
      · refine absurd ?_ hclose
        exact ⟨a ++ '/' :: '*' :: w, b, by simp⟩
  | case4 c cs hopen ih =>
    obtain ⟨h, -⟩ | h := holdsBlock_cons.1 h
    · have hpair := not_pair_prefix hopen
      exact absurd h hpair
    · exact Nat.succ_lt_succ (ih h)

lemma removeBlocks_of_not_holdsBlock (h : ¬ HoldsBlock text) : removeBlocks text = text := by
  fun_induction removeBlocks text with
  | case1 => rfl
  | case2 cs rest hsome =>
    obtain ⟨w, -, rfl⟩ := exists_of_afterClose? hsome
    exact absurd ⟨[], w, rest, rfl⟩ h
  | case3 => rfl
  | case4 c cs _ ih => rw [ih fun hcs => h (hcs.cons c)]

lemma endsLine_of_inside (h : removeLinesFrom true cs = c :: rest) : endsLine c = true := by
  induction cs with
  | nil => contradiction
  | cons d cs ih =>
    by_cases hd : endsLine d = true
    · rw [removeLinesFrom_inside_end hd] at h
      obtain ⟨rfl, -⟩ := List.cons.inj h
      exact hd
    · rw [removeLinesFrom_inside_cons (by simpa using hd)] at h
      exact ih h

/-- Only in front of a line end something was removed. -/
lemma removeLinesFrom_eq_cons (hc : endsLine c = false) (h : removeLinesFrom false cs = c :: rest) :
    ∃ cs', cs = c :: cs' ∧ removeLinesFrom false cs' = rest := by
  cases cs with
  | nil => contradiction
  | cons d cs =>
    by_cases hopen : ['/', '/'] <+: d :: cs
    · rw [removeLinesFrom_open hopen] at h
      rw [endsLine_of_inside h] at hc
      contradiction
    · rw [removeLinesFrom_cons hopen] at h
      obtain ⟨rfl, rfl⟩ := List.cons.inj h
      exact ⟨cs, rfl, rfl⟩

lemma pair_prefix_of_removeLinesFrom {x y : Char} (hy : endsLine y = false)
    (h : [x, y] <+: c :: removeLinesFrom false cs) : [x, y] <+: c :: cs := by
  obtain ⟨hx, hhead⟩ := pair_prefix_cons.1 h
  obtain ⟨rest, hrest⟩ := List.head?_eq_some_iff.1 hhead
  obtain ⟨cs', rfl, -⟩ := removeLinesFrom_eq_cons hy hrest
  exact pair_prefix_cons.2 ⟨hx, rfl⟩

lemma infix_of_removeLinesFrom {x y : Char} (hy : endsLine y = false) {inside : Bool}
    (h : [x, y] <:+: removeLinesFrom inside cs) : [x, y] <:+: cs := by
  fun_induction removeLinesFrom inside cs with
  | case1 => exact h
  | case2 c cs _ ih | case5 _ c cs _ _ ih =>
    obtain h | h := List.infix_cons_iff.1 h
    · exact (pair_prefix_of_removeLinesFrom hy h).isInfix
    · exact (ih h).trans (List.suffix_cons c cs).isInfix
  | case3 c cs _ ih | case4 _ c cs _ _ ih => exact (ih h).trans (List.suffix_cons c cs).isInfix

/-- No marker of a line comment is left, and none comes about. -/
lemma not_infix_removeLinesFrom (inside : Bool) (cs : List Char) :
    ¬ ['/', '/'] <:+: removeLinesFrom inside cs := by
  fun_induction removeLinesFrom inside cs with
  | case1 => simp
  | case2 c cs hend ih =>
    rw [List.infix_cons_iff, not_or]
    refine ⟨fun h => ?_, ih⟩
    obtain ⟨rfl, -⟩ := pair_prefix_cons.1 h
    contradiction
  | case3 _ _ _ ih | case4 _ _ _ _ _ ih => exact ih
  | case5 _ c cs _ hopen ih =>
    rw [List.infix_cons_iff, not_or]
    refine ⟨fun h => hopen ?_, ih⟩
    obtain ⟨hc, hhead⟩ := pair_prefix_cons.1 (pair_prefix_of_removeLinesFrom (by decide) h)
    exact ⟨hc.symm, hhead⟩

lemma removeLines_of_not_infix (h : ¬ ['/', '/'] <:+: text) : removeLines text = text := by
  rw [removeLines]
  induction text with
  | nil => rfl
  | cons c cs ih =>
    rw [List.infix_cons_iff, not_or] at h
    rw [removeLinesFrom_cons h.1, ih h.2]

/-- The second pass brings no block comment about. -/
lemma holdsBlock_of_removeLinesFrom {inside : Bool} (h : HoldsBlock (removeLinesFrom inside cs)) :
    HoldsBlock cs := by
  fun_induction removeLinesFrom inside cs with
  | case1 => exact h
  | case2 c cs hend ih =>
    obtain ⟨hopen, -⟩ | h := holdsBlock_cons.1 h
    · obtain ⟨rfl, -⟩ := pair_prefix_cons.1 hopen
      contradiction
    · exact (ih h).cons c
  | case3 c cs _ ih | case4 _ c cs _ _ ih => exact (ih h).cons c
  | case5 _ c cs _ _ ih =>
    obtain ⟨hopen, hclose⟩ | h := holdsBlock_cons.1 h
    · obtain ⟨hc, hstar⟩ := pair_prefix_cons.1 hopen
      obtain ⟨rest, hrest⟩ := List.head?_eq_some_iff.1 hstar
      obtain ⟨cs', rfl, rfl⟩ := removeLinesFrom_eq_cons (by decide) hrest
      rw [hrest] at hclose
      exact holdsBlock_cons.2 (.inl ⟨pair_prefix_cons.2 ⟨hc, rfl⟩,
        infix_of_removeLinesFrom (by decide) hclose⟩)
    · exact (ih h).cons c

/-- One block comment or more, each right behind the one before. -/
inductive Blocks : List Char → Prop
  | single {w : List Char} (hw : ¬ ['*', '/'] <:+: w) : Blocks ('/' :: '*' :: (w ++ ['*', '/']))
  | cons {w blocks : List Char} (hw : ¬ ['*', '/'] <:+: w) (h : Blocks blocks) :
      Blocks ('/' :: '*' :: (w ++ '*' :: '/' :: blocks))

/-- A slash and a star that block comments stand between, and nothing else does. -/
def HasSeam (text : List Char) : Prop :=
  ∃ a blocks b, Blocks blocks ∧ text = a ++ '/' :: (blocks ++ '*' :: b)

/-- A star comes to the front only if the block comments before it go. -/
lemma exists_blocks (hhead : (removeBlocks cs).head? = some '*') (h : cs.head? ≠ some '*') :
    ∃ blocks b, Blocks blocks ∧ cs = blocks ++ '*' :: b := by
  fun_induction removeBlocks cs with
  | case1 => contradiction
  | case2 cs rest hsome ih =>
    obtain ⟨w, hw, rfl⟩ := exists_of_afterClose? hsome
    by_cases hrest : rest.head? = some '*'
    · obtain ⟨b, rfl⟩ := List.head?_eq_some_iff.1 hrest
      exact ⟨_, b, .single hw, by simp⟩
    · obtain ⟨blocks, b, hblocks, rfl⟩ := ih hhead hrest
      exact ⟨_, b, .cons hw hblocks, by simp⟩
  | case3 => simp at hhead
  | case4 => exact absurd hhead h

/-- A block comment in what the first pass leaves has its marker at a seam. -/
lemma hasSeam_of_holdsBlock (h : HoldsBlock (removeBlocks text)) : HasSeam text := by
  fun_induction removeBlocks text with
  | case1 =>
    obtain ⟨a, w, b, h⟩ := h
    simp at h
  | case2 cs rest hsome ih =>
    obtain ⟨w, -, rfl⟩ := exists_of_afterClose? hsome
    obtain ⟨a, blocks, b, hblocks, rfl⟩ := ih h
    exact ⟨'/' :: '*' :: (w ++ '*' :: '/' :: a), blocks, b, hblocks, by simp⟩
  | case3 cs hnone =>
    have hself := length_removeBlocks_lt h
    rw [removeBlocks_of_none hnone] at hself
    exact absurd hself (lt_irrefl _)
  | case4 c cs hopen ih =>
    obtain ⟨hpair, -⟩ | h := holdsBlock_cons.1 h
    · obtain ⟨rfl, hstar⟩ := pair_prefix_cons.1 hpair
      obtain ⟨blocks, b, hblocks, rfl⟩ := exists_blocks hstar fun hhead => by
        obtain ⟨rest, rfl⟩ := List.head?_eq_some_iff.1 hhead
        exact hopen rest rfl rfl
      exact ⟨[], blocks, b, hblocks, rfl⟩
    · obtain ⟨a, blocks, b, hblocks, rfl⟩ := ih h
      exact ⟨c :: a, blocks, b, hblocks, rfl⟩

/-- At a seam a slash stands in front of a marker. -/
lemma not_hasSeam_of_not_infix (h : ¬ ['/', '/', '*'] <:+: text) : ¬ HasSeam text := by
  rintro ⟨a, blocks, b, hblocks, rfl⟩
  obtain ⟨rest, rfl⟩ : ∃ rest, blocks = '/' :: '*' :: rest := by
    cases hblocks with
    | single => exact ⟨_, rfl⟩
    | cons => exact ⟨_, rfl⟩
  exact h ⟨a, rest ++ '*' :: b, by simp⟩

lemma strip_strip_eq_self_iff : strip (strip text) = strip text ↔ ¬ HoldsBlock (strip text) := by
  constructor
  · intro h hblock
    have hlines := (removeLinesFrom_sublist false (removeBlocks (strip text))).length_le
    have hblocks := length_removeBlocks_lt hblock
    have hlength := congrArg List.length h
    rw [strip, removeLines] at hlength
    omega
  · intro h
    rw [strip, removeBlocks_of_not_holdsBlock h]
    exact removeLines_of_not_infix (not_infix_removeLinesFrom false _)

/-- Stripping again changes nothing if no block comment is left, and none is left of a text without
seams. -/
theorem strip_strip (text : List Char) :
    (strip (strip text) = strip text ↔ ¬ HoldsBlock (strip text)) ∧
      (¬ HasSeam text → strip (strip text) = strip text) := by
  refine ⟨strip_strip_eq_self_iff, fun hseam => strip_strip_eq_self_iff.2 fun h => hseam ?_⟩
  exact hasSeam_of_holdsBlock (holdsBlock_of_removeLinesFrom h)

/-- A star right behind one block comment, a slash not far from another. -/
theorem strip_strip_farSlash :
    ¬ HasSeam "/* a */* b // c\n/ /* d **/ e".toList ∧
      strip (strip "/* a */* b // c\n/ /* d **/ e".toList) =
        strip "/* a */* b // c\n/ /* d **/ e".toList := by
  have hseam : ¬ HasSeam "/* a */* b // c\n/ /* d **/ e".toList :=
    not_hasSeam_of_not_infix (by decide)
  exact ⟨hseam, (strip_strip _).2 hseam⟩

/-- With the block comment goes what kept a slash and a star from opening another. -/
theorem strip_strip_ne : ¬ ∀ text, strip (strip text) = strip text := by
  intro h
  have hsame := h "//**/* x */".toList
  revert hsame
  decide +kernel

end CodeGrowth.Comment
