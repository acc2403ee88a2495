import CodeGrowth.Explanation
import Mathlib.Data.List.TakeWhile

/-!
# Telling printed parts apart

An explanation prints numbers, names and sentences next to each other. A part can be read back
when what follows it starts with a character that the part cannot hold: a decimal number ends at
the first character that is no digit, a name in a list at the comma, a line at its line feed.
-/
namespace CodeGrowth.Printed

/-- Two parts of one kind of character, each followed by a text of another kind, are equal if
the whole texts are, and so are the texts behind them. -/
lemma append_inj_of_all {p : Char → Bool} {a b r s : List Char}
    (ha : ∀ c ∈ a, p c = true) (hb : ∀ c ∈ b, p c = true)
    (hr : ∀ c ∈ r.head?, p c = false) (hs : ∀ c ∈ s.head?, p c = false)
    (h : a ++ r = b ++ s) : a = b ∧ r = s := by
  have htake : ∀ {l t : List Char}, (∀ c ∈ l, p c = true) → (∀ c ∈ t.head?, p c = false) →
      (l ++ t).takeWhile p = l := by
    intro l t hl ht
    rw [List.takeWhile_append_of_pos hl]
    cases t with
    | nil => simp
    | cons c t => simp [ht c rfl]
  have hab : a = b := by rw [← htake ha hr, h, htake hb hs]
  subst hab
  exact ⟨rfl, List.append_cancel_left h⟩

/-- The part before the first occurrence of a character. -/
lemma append_cons_inj_of_notMem {c : Char} {a b r s : List Char} (ha : c ∉ a) (hb : c ∉ b)
    (h : a ++ c :: r = b ++ c :: s) : a = b ∧ r = s := by
  have hne : ∀ {l : List Char}, c ∉ l → ∀ d ∈ l, (d != c) = true := by
    intro l hl d hd
    rw [bne_iff_ne]
    rintro rfl
    exact hl hd
  obtain ⟨hab, hrs⟩ := append_inj_of_all (hne ha) (hne hb) (by simp) (by simp) h
  exact ⟨hab, (List.cons.inj hrs).2⟩

lemma isDigit_of_mem_repr {n : Nat} {c : Char} (h : c ∈ n.repr.toList) : c.isDigit = true := by
  rw [Nat.toList_repr] at h
  exact Nat.isDigit_of_mem_toDigits (by omega) (by omega) h

lemma isDigit_of_mem_head?_repr {n : Nat} {r : List Char} {c : Char}
    (h : c ∈ (n.repr.toList ++ r).head?) : c.isDigit = true := by
  have hne : n.repr.toList ≠ [] := by
    rw [Nat.toList_repr]
    exact Nat.toDigits_ne_nil
  rw [List.head?_append, List.head?_eq_some_head hne, Option.some_or, Option.mem_some_iff] at h
  subst h
  exact isDigit_of_mem_repr (List.head_mem hne)

/-- A decimal number ends where no digit follows. -/
lemma repr_append_inj {n m : Nat} {r s : List Char}
    (hr : ∀ c ∈ r.head?, c.isDigit = false) (hs : ∀ c ∈ s.head?, c.isDigit = false)
    (h : n.repr.toList ++ r = m.repr.toList ++ s) : n = m ∧ r = s := by
  obtain ⟨hnm, hrs⟩ := append_inj_of_all (fun _ => isDigit_of_mem_repr)
    (fun _ => isDigit_of_mem_repr) hr hs h
  refine ⟨?_, hrs⟩
  rw [Nat.toList_repr, Nat.toList_repr] at hnm
  rw [← Nat.ofDigitChars_ten_toDigits (n := n), hnm, Nat.ofDigitChars_ten_toDigits]

lemma notMem_repr {c : Char} (hc : c.isDigit = false) (n : Nat) : c ∉ n.repr.toList := by
  intro h
  have hdigit := isDigit_of_mem_repr h
  rw [hc] at hdigit
  contradiction

lemma notMem_intercalate {c : Char} {sep : List Char} (hsep : c ∉ sep) {xs : List (List Char)}
    (hxs : ∀ x ∈ xs, c ∉ x) : c ∉ sep.intercalate xs := by
  induction xs with
  | nil => simp
  | cons x xs ih =>
    obtain ⟨hx, hxs⟩ := List.forall_mem_cons.1 hxs
    cases xs with
    | nil => simpa using hx
    | cons y ys =>
      rw [List.intercalate_cons_cons, List.mem_append, List.mem_append]
      rintro ((h | h) | h)
      · exact hx h
      · exact hsep h
      · exact ih hxs h

/-- A list can be read back if the separator starts with a character that no item holds. No item
may be empty: an empty list and a list of one empty item print the same. -/
lemma intercalate_inj {c : Char} {sep : List Char} {xs ys : List (List Char)}
    (hxs : ∀ x ∈ xs, x ≠ [] ∧ c ∉ x) (hys : ∀ y ∈ ys, y ≠ [] ∧ c ∉ y)
    (h : (c :: sep).intercalate xs = (c :: sep).intercalate ys) : xs = ys := by
  have hempty : ∀ {z : List Char} {zs : List (List Char)}, z ≠ [] →
      (c :: sep).intercalate (z :: zs) ≠ [] := by
    intro z zs hz
    cases zs with
    | nil => simpa using hz
    | cons w ws => simp [List.intercalate_cons_cons]
  induction xs generalizing ys with
  | nil =>
    cases ys with
    | nil => rfl
    | cons y ys => exact absurd h.symm (hempty (hys y (by simp)).1)
  | cons x xs ih =>
    cases ys with
    | nil => exact absurd h (hempty (hxs x (by simp)).1)
    | cons y ys =>
      obtain ⟨hx, hxs⟩ := List.forall_mem_cons.1 hxs
      obtain ⟨hy, hys⟩ := List.forall_mem_cons.1 hys
      match xs, ys with
      | [], [] => simpa using h
      | [], w :: ws =>
        refine absurd ?_ hx.2
        rw [List.intercalate_singleton] at h
        simp [h, List.intercalate_cons_cons]
      | w :: ws, [] =>
        refine absurd ?_ hy.2
        rw [List.intercalate_singleton] at h
        simp [← h, List.intercalate_cons_cons]
      | v :: vs, w :: ws =>
        rw [List.intercalate_cons_cons, List.intercalate_cons_cons, List.append_assoc,
          List.append_assoc, List.cons_append, List.cons_append] at h
        obtain ⟨rfl, htail⟩ := append_cons_inj_of_notMem hx.2 hy.2 h
        rw [ih hxs hys (List.append_cancel_left htail)]

/-- A text without a line feed in it. -/
def OneLine (text : String) : Prop := '\n' ∉ text.toList

/-- For literals, which the checker reads as lists of characters. -/
lemma oneLine_ofList {cs : List Char} (h : '\n' ∉ cs) : OneLine (String.ofList cs) := by
  rwa [OneLine, String.toList_ofList]

lemma oneLine_append {a b : String} : OneLine (a ++ b) ↔ OneLine a ∧ OneLine b := by
  simp [OneLine]

lemma oneLine_repr (n : Nat) : OneLine n.repr := notMem_repr (by decide) n

lemma oneLine_intercalate {sep : String} (hsep : OneLine sep) {parts : List String}
    (h : ∀ part ∈ parts, OneLine part) : OneLine (sep.intercalate parts) := by
  rw [OneLine, String.toList_intercalate]
  refine notMem_intercalate hsep ?_
  intro cs hcs
  obtain ⟨part, hpart, rfl⟩ := List.mem_map.1 hcs
  exact h part hpart

/-- Lines joined by line feeds can be read back. -/
lemma lines_inj {xs ys : List String} (hxs : ∀ x ∈ xs, OneLine x) (hys : ∀ y ∈ ys, OneLine y)
    (hx : xs ≠ []) (hy : ys ≠ []) (h : "\n".intercalate xs = "\n".intercalate ys) : xs = ys := by
  have hsplit : ∀ {zs : List String}, (∀ z ∈ zs, OneLine z) → zs ≠ [] →
      ("\n".intercalate zs).toList.splitOn '\n' = zs.map String.toList := by
    intro zs hzs hne
    rw [String.toList_intercalate, show "\n".toList = ['\n'] by simp]
    refine List.splitOn_intercalate '\n' ?_ (by simpa using hne)
    intro cs hcs
    obtain ⟨z, hz, rfl⟩ := List.mem_map.1 hcs
    exact hzs z hz
  apply (List.map_inj_right fun _ _ => String.toList_inj.1).1
  rw [← hsplit hxs hx, h, hsplit hys hy]

end CodeGrowth.Printed
