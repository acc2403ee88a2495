import CodeGrowth.Proofs.Nesting
import Mathlib.Data.List.Infix

/-!
# Walks over the braces of a line

A walk follows the depth from character to character, and the peak of a line is the greatest depth
on it. A closing brace at depth zero is lost to the walk, while it still counts in the sum of all
braces. So the walk ends no less deep than the sum says, and a line that was walked for its peak
gains nothing from the sum.
-/
namespace CodeGrowth.Loop
open Text

/-- The depth behind a character. No closing brace takes it below zero. -/
def behind (depth : Nat) (c : Char) : Nat :=
  if c = '{' then depth + 1 else if c = '}' then depth - 1 else depth

/-- The depth behind the last character of a line. -/
def walkEnd (depth : Nat) (line : List Char) : Nat := line.foldl behind depth

section
variable {depth : Nat} {c : Char} {line pre : List Char}

/-- A single character counts as in the sum of the braces. -/
lemma behind_eq (depth : Nat) (c : Char) :
    behind depth c = depth + [c].count '{' - [c].count '}' := by
  by_cases hopen : c = '{'
  · subst hopen
    rfl
  · by_cases hclose : c = '}'
    · subst hclose
      rfl
    · simp [behind, hopen, hclose]

lemma walkEnd_cons (depth : Nat) (c : Char) (line : List Char) :
    walkEnd depth (c :: line) = walkEnd (behind depth c) line := rfl

/-- Where the braces are summed up first, a closing one can also take back what a later one
opens. -/
lemma sum_le_walkEnd (depth : Nat) (line : List Char) :
    depth + line.count '{' - line.count '}' ≤ walkEnd depth line := by
  induction line generalizing depth with
  | nil => exact Nat.le_refl depth
  | cons c line ih =>
    have hstep := behind_eq depth c
    have hrest := ih (behind depth c)
    rw [walkEnd_cons, ← List.singleton_append, List.count_append, List.count_append]
    omega

lemma walkEnd_le_add (depth : Nat) (line : List Char) :
    walkEnd depth line ≤ depth + line.count '{' := by
  induction line generalizing depth with
  | nil => exact Nat.le_refl depth
  | cons c line ih =>
    have hstep := behind_eq depth c
    have hrest := ih (behind depth c)
    rw [walkEnd_cons, ← List.singleton_append, List.count_append]
    omega

lemma inlinePeak_cons (depth : Nat) (c : Char) (line : List Char) :
    inlinePeak depth (c :: line) = max depth (inlinePeak (behind depth c) line) := by
  by_cases hopen : c = '{'
  · subst hopen
    exact inlinePeak_open depth line
  · by_cases hclose : c = '}'
    · subst hclose
      exact inlinePeak_close depth line
    · rw [behind, if_neg hopen, if_neg hclose, Nat.max_eq_right (le_inlinePeak depth line),
        inlinePeak]
      · exact hopen
      · exact hclose

/-- No depth on the walk is greater than the peak. -/
lemma walkEnd_le_inlinePeak (h : pre <+: line) (depth : Nat) :
    walkEnd depth pre ≤ inlinePeak depth line := by
  induction line generalizing depth pre with
  | nil =>
    obtain rfl := List.prefix_nil.1 h
    exact Nat.le_refl depth
  | cons c line ih =>
    cases pre with
    | nil => exact le_inlinePeak depth (c :: line)
    | cons d pre =>
      obtain ⟨rfl, hpre⟩ := List.cons_prefix_cons.1 h
      rw [walkEnd_cons, inlinePeak_cons]
      exact (ih hpre (behind depth d)).trans (Nat.le_max_right _ _)

/-- The peak is one of the depths on the walk. -/
lemma exists_prefix_inlinePeak (depth : Nat) (line : List Char) :
    ∃ pre, pre <+: line ∧ walkEnd depth pre = inlinePeak depth line := by
  induction line generalizing depth with
  | nil => exact ⟨[], List.nil_prefix, rfl⟩
  | cons c line ih =>
    obtain ⟨pre, hpre, hpeak⟩ := ih (behind depth c)
    rw [inlinePeak_cons]
    rcases Nat.le_total (inlinePeak (behind depth c) line) depth with hle | hle
    · exact ⟨[], List.nil_prefix, (Nat.max_eq_left hle).symm⟩
    · exact ⟨c :: pre, List.cons_prefix_cons.2 ⟨rfl, hpre⟩,
        hpeak.trans (Nat.max_eq_right hle).symm⟩

lemma inlinePeak_le_add (depth : Nat) (line : List Char) :
    inlinePeak depth line ≤ depth + line.count '{' := by
  obtain ⟨pre, hpre, hpeak⟩ := exists_prefix_inlinePeak depth line
  rw [← hpeak]
  exact (walkEnd_le_add depth pre).trans
    (Nat.add_le_add_left (hpre.sublist.count_le '{') depth)

end

/-- On a line that was walked, the depth at its end is no greater than the peak of the walk. -/
lemma Nesting.peak_afterLine_of_walked {nesting : Nesting} {line : List Char}
    (hheader : hasHeader line = true) (hbrace : '{' ∈ line) :
    (nesting.afterLine line).peak = (nesting.enter line).peak := by
  have hsum := (sum_le_walkEnd nesting.depth line).trans
    (walkEnd_le_inlinePeak List.prefix_rfl nesting.depth)
  rw [afterLine, enter, if_pos hheader, if_pos (List.contains_iff_mem.2 hbrace), settle]
  dsimp only
  omega

/-- The depth by the sum of the braces, the depth at the end of the walk and the peak of the walk,
in this order, and how the peak depends on the depth at the start. -/
theorem sum_le_walk_le_peak (depth : Nat) (line : List Char) :
    (depth + line.count '{' - line.count '}' ≤ walkEnd depth line ∧
        walkEnd depth line ≤ inlinePeak depth line) ∧
      (depth ≤ inlinePeak depth line ∧ inlinePeak depth line ≤ depth + line.count '{') ∧
      (∀ k, inlinePeak depth line ≤ inlinePeak (depth + k) line ∧
        inlinePeak (depth + k) line ≤ inlinePeak depth line + k) ∧
      (∃ pre, pre <+: line ∧ walkEnd depth pre = inlinePeak depth line) ∧
      (∀ pre, pre <+: line → walkEnd depth pre ≤ inlinePeak depth line) ∧
      ∀ peak, hasHeader line = true → '{' ∈ line →
        ((Nesting.mk depth peak).afterLine line).peak =
          ((Nesting.mk depth peak).enter line).peak := by
  refine ⟨⟨sum_le_walkEnd depth line, walkEnd_le_inlinePeak List.prefix_rfl depth⟩,
    ⟨le_inlinePeak depth line, inlinePeak_le_add depth line⟩, ?_,
    exists_prefix_inlinePeak depth line, ?_, ?_⟩
  · exact fun k => ⟨inlinePeak_mono (Nat.le_add_right depth k) line, inlinePeak_add_le depth k line⟩
  · exact fun pre h => walkEnd_le_inlinePeak h depth
  · exact fun peak => Nesting.peak_afterLine_of_walked

/-- A line whose first brace closes nothing. -/
def lostBrace : List Char := "\x7d for (;;) \x7b while (x) \x7b \x7d".toList

/-- On such a line the three depths differ from one another. -/
theorem sum_le_walk_le_peak_lostBrace :
    0 + lostBrace.count '{' - lostBrace.count '}' = 0 ∧ walkEnd 0 lostBrace = 1 ∧
      inlinePeak 0 lostBrace = 2 ∧ lostBrace.take 12 <+: lostBrace ∧
      hasHeader lostBrace = true ∧ '{' ∈ lostBrace ∧
      (walkEnd 0 lostBrace ≤ inlinePeak 0 lostBrace ∧ inlinePeak 3 lostBrace ≤ 2 + 3) ∧
      walkEnd 0 (lostBrace.take 12) ≤ 2 ∧
      ((Nesting.mk 0 1).afterLine lostBrace).peak = ((Nesting.mk 0 1).enter lostBrace).peak := by
  have hpeak : inlinePeak 0 lostBrace = 2 := by decide
  have hheader : hasHeader lostBrace = true := by decide +kernel
  have hbrace : '{' ∈ lostBrace := by decide
  have hpre : lostBrace.take 12 <+: lostBrace := List.take_prefix 12 lostBrace
  obtain ⟨⟨-, hend⟩, -, hraise, -, hwalk, hwalked⟩ := sum_le_walk_le_peak 0 lostBrace
  have hthree := (hraise 3).2
  have hstretch := hwalk _ hpre
  rw [hpeak] at hthree hstretch
  exact ⟨by decide, by decide, hpeak, hpre, hheader, hbrace, ⟨hend, hthree⟩, hstretch,
    hwalked 1 hheader hbrace⟩

end CodeGrowth.Loop
