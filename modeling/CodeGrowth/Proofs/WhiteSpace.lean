import CodeGrowth.Text.Blank
import CodeGrowth.Text.Phrase
import Mathlib.Data.List.Induction
import Mathlib.Data.List.TakeWhile

/-!
# Runs of white space

A run of white space before or behind a text is removed by trimming and skipped by a gap. No white
space belongs to a word. These facts say how the two trimming functions act on a text with such a
run at one of its ends; the searches of the other modules are built on them.
-/
namespace CodeGrowth.Text

/-- A text of white space only, possibly empty. -/
def AllBlank (cs : List Char) : Prop := ∀ c ∈ cs, isBlank c = true

instance (cs : List Char) : Decidable (AllBlank cs) :=
  decidable_of_iff (cs.all isBlank = true) List.all_eq_true

lemma forall_eq_false_of_all {cs : List Char} {p : Char → Bool} (h : cs.all (!p ·) = true) :
    ∀ c ∈ cs, p c = false := by simpa using h

@[simp] theorem allBlank_nil : AllBlank [] := by simp [AllBlank]

@[simp] theorem allBlank_cons {c : Char} {cs : List Char} :
    AllBlank (c :: cs) ↔ isBlank c = true ∧ AllBlank cs := by simp [AllBlank]

@[simp] theorem allBlank_append {cs ds : List Char} :
    AllBlank (cs ++ ds) ↔ AllBlank cs ∧ AllBlank ds := by
  simp [AllBlank, or_imp, forall_and]

lemma AllBlank.subset {cs ds : List Char} (h : AllBlank ds) (hsub : cs ⊆ ds) : AllBlank cs :=
  fun c hc => h c (hsub hc)

/-- The code points of the white-space characters. -/
def blankCodes : List Nat :=
  [9, 10, 11, 12, 13, 0x20, 0x85, 0xA0, 0x1680, 0x2000, 0x2001, 0x2002, 0x2003, 0x2004, 0x2005,
    0x2006, 0x2007, 0x2008, 0x2009, 0x200A, 0x2028, 0x2029, 0x202F, 0x205F, 0x3000]

lemma toNat_mem_blankCodes {c : Char} (h : isBlank c = true) : c.toNat ∈ blankCodes := by
  simp only [isBlank, Bool.or_eq_true, Bool.and_eq_true, decide_eq_true_eq, beq_iff_eq] at h
  simp only [blankCodes, List.mem_cons]
  omega

/-- No white-space character is part of a word. -/
lemma isWord_of_isBlank {c : Char} (h : isBlank c = true) : isWord c = false := by
  have hall : ∀ n ∈ blankCodes, isWord (Char.ofNat n) = false := by decide +kernel
  simpa using hall c.toNat (toNat_mem_blankCodes h)

lemma ne_of_isBlank {c d : Char} (hc : isBlank c = true) (hd : isBlank d = false) : c ≠ d := by
  rintro rfl
  rw [hc] at hd
  contradiction

lemma skipBlanks_eq_nil_iff {cs : List Char} : skipBlanks cs = [] ↔ AllBlank cs :=
  List.dropWhile_eq_nil_iff

lemma skipBlanks_append_of_allBlank {g : List Char} (hg : AllBlank g) (cs : List Char) :
    skipBlanks (g ++ cs) = skipBlanks cs := List.dropWhile_append_of_pos hg

lemma skipBlanks_append_of_not_allBlank {cs : List Char} (h : ¬ AllBlank cs) (ds : List Char) :
    skipBlanks (cs ++ ds) = skipBlanks cs ++ ds := by
  rw [← skipBlanks_eq_nil_iff] at h
  rw [skipBlanks, List.dropWhile_append, if_neg (by rwa [List.isEmpty_iff])]
  rfl

lemma skipBlanks_append_cons {g : List Char} (hg : AllBlank g) {c : Char} (hc : isBlank c = false)
    (cs : List Char) : skipBlanks (g ++ c :: cs) = c :: cs := by
  rw [skipBlanks_append_of_allBlank hg, skipBlanks_cons, if_neg (by simp [hc])]

/-- A text is its leading white space and what is left after skipping it. -/
lemma exists_append_skipBlanks (cs : List Char) : ∃ g, AllBlank g ∧ cs = g ++ skipBlanks cs :=
  ⟨cs.takeWhile isBlank, fun _ hc => List.mem_takeWhile_imp hc,
    List.takeWhile_append_dropWhile.symm⟩

/-- What white space in front does not change, skipping it does not change. -/
lemma apply_skipBlanks {α : Type} {f : List Char → α}
    (h : ∀ g cs, AllBlank g → f (g ++ cs) = f cs) (cs : List Char) : f (skipBlanks cs) = f cs := by
  obtain ⟨g, hg, hcs⟩ := exists_append_skipBlanks cs
  have happend := h g (skipBlanks cs) hg
  rw [← hcs] at happend
  exact happend.symm

lemma isBlank_of_skipBlanks_eq_cons {cs rest : List Char} {c : Char}
    (h : skipBlanks cs = c :: rest) : isBlank c = false := by
  have hhead := List.head?_dropWhile_not isBlank cs
  rw [← skipBlanks, h] at hhead
  exact hhead

@[simp] theorem skipBlanks_skipBlanks (cs : List Char) :
    skipBlanks (skipBlanks cs) = skipBlanks cs := by
  cases h : skipBlanks cs with
  | nil => rfl
  | cons c rest => rw [skipBlanks_cons, isBlank_of_skipBlanks_eq_cons h]; rfl

lemma trimEnd_eq_nil_iff {cs : List Char} : trimEnd cs = [] ↔ AllBlank cs := by
  simp [trimEnd, AllBlank, List.dropWhile_eq_nil_iff]

lemma trimEnd_append_of_allBlank {g : List Char} (hg : AllBlank g) (cs : List Char) :
    trimEnd (cs ++ g) = trimEnd cs := by
  have hrev : ∀ c ∈ g.reverse, isBlank c = true := fun c hc => hg c (List.mem_reverse.1 hc)
  rw [trimEnd, List.reverse_append, List.dropWhile_append_of_pos hrev]
  rfl

lemma trimEnd_append_of_not_allBlank {ds : List Char} (h : ¬ AllBlank ds) (cs : List Char) :
    trimEnd (cs ++ ds) = cs ++ trimEnd ds := by
  have hrev : ds.reverse.dropWhile isBlank ≠ [] := by
    rw [← trimEnd_eq_nil_iff, trimEnd, List.reverse_eq_nil_iff] at h
    exact h
  rw [trimEnd, List.reverse_append, List.dropWhile_append, if_neg (by simpa using hrev),
    List.reverse_append, List.reverse_reverse]
  rfl

lemma exists_trimEnd_append (cs : List Char) : ∃ g, AllBlank g ∧ cs = trimEnd cs ++ g := by
  refine ⟨(cs.reverse.takeWhile isBlank).reverse, ?_, ?_⟩
  · intro c hc
    exact List.mem_takeWhile_imp (List.mem_reverse.1 hc)
  · rw [trimEnd, ← List.reverse_append, List.takeWhile_append_dropWhile, List.reverse_reverse]

lemma trim_eq_nil_iff {cs : List Char} : trim cs = [] ↔ AllBlank cs := by
  obtain ⟨g, hg, hcs⟩ := exists_append_skipBlanks cs
  rw [trim, trimEnd_eq_nil_iff]
  refine ⟨fun h => ?_, fun h => h.subset (List.dropWhile_sublist _).subset⟩
  rw [hcs]
  exact allBlank_append.2 ⟨hg, h⟩

lemma trim_allBlank_append {g : List Char} (hg : AllBlank g) (cs : List Char) :
    trim (g ++ cs) = trim cs := by
  rw [trim, skipBlanks_append_of_allBlank hg, trim]

lemma trim_append_allBlank {g : List Char} (hg : AllBlank g) (cs : List Char) :
    trim (cs ++ g) = trim cs := by
  by_cases h : AllBlank cs
  · rw [trim_eq_nil_iff.2 h, trim_eq_nil_iff.2 (allBlank_append.2 ⟨h, hg⟩)]
  · rw [trim, skipBlanks_append_of_not_allBlank h, trimEnd_append_of_allBlank hg, trim]

/-- Trimming removes a run of white space at either end. -/
lemma exists_append_trim_append (cs : List Char) :
    ∃ g h, AllBlank g ∧ AllBlank h ∧ cs = g ++ trim cs ++ h := by
  obtain ⟨g, hg, hcs⟩ := exists_append_skipBlanks cs
  obtain ⟨h, hh, hskip⟩ := exists_trimEnd_append (skipBlanks cs)
  refine ⟨g, h, hg, hh, ?_⟩
  rw [trim, List.append_assoc, ← hskip, ← hcs]

lemma filter_not_blank_eq_nil_iff {cs : List Char} :
    cs.filter (!isBlank ·) = [] ↔ AllBlank cs := by simp [AllBlank]

lemma filter_not_blank_of_allBlank {g : List Char} (hg : AllBlank g) :
    g.filter (!isBlank ·) = [] := filter_not_blank_eq_nil_iff.2 hg

/-- The last character before the white space at the end. -/
lemma getLast?_trimEnd (cs : List Char) :
    (trimEnd cs).getLast? = (cs.filter (!isBlank ·)).getLast? := by
  induction cs using List.reverseRecOn with
  | nil => rfl
  | append_singleton cs c ih =>
    cases hc : isBlank c with
    | true =>
      rw [trimEnd_append_of_allBlank (by simpa using hc), ih]
      simp [hc]
    | false =>
      rw [trimEnd_append_of_not_allBlank (by simp [hc])]
      simp [trimEnd, hc]

end CodeGrowth.Text
