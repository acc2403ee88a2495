import CodeGrowth.Proofs.Layout

/-!
# The nesting depth line by line

A walk over the braces of a line passes over everything that is no brace. A line with a loop header
and a brace is walked in order, any other line counts by its sum of braces; the two agree where the
walk leads no deeper than the line is at one of its ends.
-/
namespace CodeGrowth.Loop
open Text

/-- A text in which no block is opened or closed. -/
def BraceFree (cs : List Char) : Prop := '{' ∉ cs ∧ '}' ∉ cs

instance (cs : List Char) : Decidable (BraceFree cs) := inferInstanceAs (Decidable (_ ∧ _))

section Braces
variable {c : Char} {cs : List Char}

lemma braceFree_cons : BraceFree (c :: cs) ↔ c ≠ '{' ∧ c ≠ '}' ∧ BraceFree cs := by
  simp only [BraceFree, List.mem_cons, not_or]
  constructor
  · rintro ⟨⟨hopen, hopens⟩, hclose, hcloses⟩
    exact ⟨Ne.symm hopen, Ne.symm hclose, hopens, hcloses⟩
  · rintro ⟨hopen, hclose, hopens, hcloses⟩
    exact ⟨⟨Ne.symm hopen, hopens⟩, Ne.symm hclose, hcloses⟩

lemma BraceFree.count_open (h : BraceFree cs) : cs.count '{' = 0 := List.count_eq_zero.2 h.1

lemma BraceFree.count_close (h : BraceFree cs) : cs.count '}' = 0 := List.count_eq_zero.2 h.2

lemma inlinePeak_open (depth : Nat) (cs : List Char) :
    inlinePeak depth ('{' :: cs) = max depth (inlinePeak (depth + 1) cs) := by
  rw [inlinePeak]

lemma inlinePeak_close (depth : Nat) (cs : List Char) :
    inlinePeak depth ('}' :: cs) = max depth (inlinePeak (depth - 1) cs) := by
  rw [inlinePeak]

lemma inlinePeak_braceFree_append (h : BraceFree cs) (depth : Nat) (rest : List Char) :
    inlinePeak depth (cs ++ rest) = inlinePeak depth rest := by
  induction cs with
  | nil => rfl
  | cons c cs ih =>
    obtain ⟨hopen, hclose, hcs⟩ := braceFree_cons.1 h
    rw [List.cons_append, inlinePeak, ih hcs]
    · exact hopen
    · exact hclose

lemma inlinePeak_of_braceFree (h : BraceFree cs) (depth : Nat) : inlinePeak depth cs = depth := by
  have hpeak := inlinePeak_braceFree_append h depth []
  rwa [List.append_nil, inlinePeak] at hpeak

lemma le_inlinePeak (depth : Nat) (cs : List Char) : depth ≤ inlinePeak depth cs := by
  fun_induction inlinePeak depth cs with
  | case1 => exact Nat.le_refl _
  | case2 => exact Nat.le_max_left _ _
  | case3 => exact Nat.le_max_left _ _
  | case4 _ _ _ _ _ ih => exact ih

/-- A walk that starts deeper is never less deep. -/
lemma inlinePeak_mono {depth depth' : Nat} (h : depth ≤ depth') (cs : List Char) :
    inlinePeak depth cs ≤ inlinePeak depth' cs := by
  fun_induction inlinePeak depth cs generalizing depth' with
  | case1 => exact h
  | case2 depth rest ih =>
    have hrest := ih (Nat.add_le_add_right h 1)
    rw [inlinePeak_open]
    omega
  | case3 depth rest ih =>
    have hrest := ih (Nat.sub_le_sub_right h 1)
    rw [inlinePeak_close]
    omega
  | case4 depth c rest hopen hclose ih =>
    rw [inlinePeak]
    · exact ih h
    · exact hopen
    · exact hclose

/-- A walk that starts deeper is deeper by no more than that, since the depth is cut off at zero
later at most. -/
lemma inlinePeak_add_le (depth k : Nat) (cs : List Char) :
    inlinePeak (depth + k) cs ≤ inlinePeak depth cs + k := by
  fun_induction inlinePeak depth cs with
  | case1 => exact Nat.le_refl _
  | case2 depth rest ih =>
    rw [inlinePeak_open, Nat.add_right_comm]
    omega
  | case3 depth rest ih =>
    have hcut : depth + k - 1 ≤ depth - 1 + k := by omega
    have hrest := inlinePeak_mono hcut rest
    rw [inlinePeak_close]
    omega
  | case4 depth c rest hopen hclose ih =>
    rw [inlinePeak]
    · exact ih
    · exact hopen
    · exact hclose

/-- A walk that meets an opening brace is somewhere in a block. -/
lemma one_le_inlinePeak (h : '{' ∈ cs) (depth : Nat) : 1 ≤ inlinePeak depth cs := by
  fun_induction inlinePeak depth cs with
  | case1 => contradiction
  | case2 depth rest =>
    have hpeak := le_inlinePeak (depth + 1) rest
    omega
  | case3 depth rest ih =>
    have hrest : '{' ∈ rest := by simpa using h
    have hpeak := ih hrest
    omega
  | case4 depth c rest hopen _ ih =>
    have hrest : '{' ∈ rest := (List.mem_cons.1 h).resolve_left fun heq => hopen heq.symm
    exact ih hrest

end Braces

namespace Nesting

lemma peak_le_enter (nesting : Nesting) (line : List Char) :
    nesting.peak ≤ (nesting.enter line).peak := by
  rw [enter]
  split
  · split
    · exact Nat.le_max_left _ _
    · exact Nat.le_max_left _ _
  · exact Nat.le_refl _

/-- The greatest depth never falls. -/
lemma peak_le_afterLine (nesting : Nesting) (line : List Char) :
    nesting.peak ≤ (nesting.afterLine line).peak :=
  (nesting.peak_le_enter line).trans (Nat.le_max_left _ _)

lemma peak_le_afterLines (nesting : Nesting) (ls : List (List Char)) :
    nesting.peak ≤ (nesting.afterLines ls).peak := by
  induction ls generalizing nesting with
  | nil => exact Nat.le_refl _
  | cons line ls ih => exact (nesting.peak_le_afterLine line).trans (ih _)

/-- A line with a loop header lies in a loop, whether there is a brace on it or not. -/
lemma one_le_peak_afterLine {line : List Char} (h : hasHeader line = true) (nesting : Nesting) :
    1 ≤ (nesting.afterLine line).peak := by
  have henter : 1 ≤ (nesting.enter line).peak := by
    rw [enter, if_pos h]
    split
    · next hbrace =>
      have hpeak := one_le_inlinePeak (List.contains_iff_mem.1 hbrace) nesting.depth
      exact hpeak.trans (Nat.le_max_right _ _)
    · exact (Nat.le_add_left 1 nesting.depth).trans (Nat.le_max_right _ _)
  exact henter.trans (Nat.le_max_left _ _)

lemma one_le_peak_afterLines {line : List Char} {ls : List (List Char)} (hline : line ∈ ls)
    (h : hasHeader line = true) (nesting : Nesting) : 1 ≤ (nesting.afterLines ls).peak := by
  induction ls generalizing nesting with
  | nil => contradiction
  | cons first ls ih =>
    rcases List.mem_cons.1 hline with rfl | hrest
    · exact (one_le_peak_afterLine h nesting).trans (peak_le_afterLines _ ls)
    · exact ih hrest _

lemma afterLines_cons (nesting : Nesting) (line : List Char) (ls : List (List Char)) :
    nesting.afterLines (line :: ls) = (nesting.afterLine line).afterLines ls := rfl

lemma afterLines_append (nesting : Nesting) (ls ms : List (List Char)) :
    nesting.afterLines (ls ++ ms) = (nesting.afterLines ls).afterLines ms := List.foldl_append

/-- Whether a line holds a loop header makes no difference if a header comes with a brace and the
braces in order lead no deeper than the line is at one of its ends. -/
lemma afterLine_of_settle {nesting next : Nesting} {line : List Char}
    (h : nesting.depth ≤ nesting.peak) (hsettle : nesting.settle line = next)
    (hheader : hasHeader line = true → '{' ∈ line)
    (hpeak : inlinePeak nesting.depth line ≤ max nesting.depth next.depth) :
    nesting.afterLine line = next := by
  subst hsettle
  rw [afterLine, enter]
  split
  · next hline =>
    rw [if_pos (List.contains_iff_mem.2 (hheader hline))]
    simp only [settle, Nesting.mk.injEq, true_and] at hpeak ⊢
    omega
  · rfl

end Nesting

end CodeGrowth.Loop
