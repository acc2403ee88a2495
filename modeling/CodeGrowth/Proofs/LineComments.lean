import CodeGrowth.Proofs.Comments

/-!
# The text of a line comment

Block comments are removed first, and whether a marker stands in a line comment is not asked then.
So a block comment may open in the text of a line comment and take later lines along. It may even
open at the marker itself, whose second slash goes with a star behind it.

Apart from that the text of a line comment has no effect: the snippet is stripped as its parts
before and behind the line comment are, with the line feed between them.
-/
namespace CodeGrowth.Comment
variable {a b w cs rest after : List Char}

/-- Read from the start of the text, no block comment runs on from it into the text behind it. -/
inductive Within (after : List Char) : List Char → Prop
  | empty : Within after []
  | char {c : Char} {cs : List Char} (hopen : ¬ ['/', '*'] <+: c :: cs) (h : Within after cs) :
      Within after (c :: cs)
  | block {body cs : List Char} (hbody : ¬ ['*', '/'] <:+: body) (h : Within after cs) :
      Within after ('/' :: '*' :: (body ++ '*' :: '/' :: cs))
  | unclosed {cs : List Char} (h : ¬ ['*', '/'] <:+: cs ++ after) : Within after ('/' :: '*' :: cs)

/-- A text behind the marker of a line comment that leaves the lines behind it alone. -/
structure Inert (after w : List Char) : Prop where
  oneLine : ∀ c ∈ w, endsLine c = false
  /-- No block comment opens at the second slash of the marker. -/
  marker : w.head? = some '*' → ¬ ['*', '/'] <:+: w.tail ++ '\n' :: after
  within : Within ('\n' :: after) w

lemma Within.of_noOpening (h : ¬ ['/', '*'] <:+: w) : Within after w := by
  induction w with
  | nil => exact .empty
  | cons c w ih =>
    rw [List.infix_cons_iff, not_or] at h
    exact .char h.1 (ih h.2)

lemma afterClose?_eq_none_iff : afterClose? cs = none ↔ ¬ ['*', '/'] <:+: cs := by
  fun_induction afterClose? cs with
  | case1 => simp
  | case2 cs =>
    have hclose : ['*', '/'] <:+: '*' :: '/' :: cs := (List.prefix_append _ cs).isInfix
    simpa using hclose
  | case3 c cs hclose ih =>
    rw [ih, List.infix_cons_iff, not_or]
    have hpair := not_pair_prefix hclose
    exact (and_iff_right hpair).symm

lemma suffix_of_afterClose? (h : afterClose? cs = some rest) : rest <:+ cs := by
  fun_induction afterClose? cs with
  | case1 => contradiction
  | case2 =>
    cases h
    exact List.suffix_append ['*', '/'] rest
  | case3 c cs _ ih => exact (ih h).trans (List.suffix_cons c cs)

lemma removeBlocks_sublist (cs : List Char) : (removeBlocks cs).Sublist cs := by
  fun_induction removeBlocks cs with
  | case1 => exact List.Sublist.refl []
  | case2 cs rest hsome ih =>
    have hrest := (suffix_of_afterClose? hsome).trans (List.suffix_append ['/', '*'] cs)
    exact ih.trans hrest.sublist
  | case3 => exact List.Sublist.refl _
  | case4 c cs _ ih => exact ih.cons_cons c

lemma removeBlocks_of_not_close (h : ¬ ['*', '/'] <:+: cs) : removeBlocks cs = cs := by
  fun_induction removeBlocks cs with
  | case1 => rfl
  | case2 cs rest hsome ih =>
    have hnone : afterClose? cs = none :=
      afterClose?_eq_none_iff.2 fun hclose =>
        h (hclose.trans (List.suffix_append ['/', '*'] cs).isInfix)
    rw [hnone] at hsome
    contradiction
  | case3 => rfl
  | case4 c cs _ ih =>
    rw [List.infix_cons_iff, not_or] at h
    rw [ih h.2]

/-- The text behind is read afresh. -/
lemma Within.removeBlocks_append (h : Within rest w) (hrest : rest.head? ≠ some '*') :
    removeBlocks (w ++ rest) = removeBlocks w ++ removeBlocks rest := by
  induction h with
  | empty => rw [List.nil_append, removeBlocks_nil, List.nil_append]
  | @char c cs hopen _ ih =>
    have hpair : ¬ ['/', '*'] <+: c :: (cs ++ rest) := by
      rw [pair_prefix_cons] at hopen ⊢
      cases cs with
      | nil => exact fun hpair => hrest hpair.2
      | cons d cs => exact hopen
    rw [List.cons_append, removeBlocks_cons hpair, ih, removeBlocks_cons hopen, List.cons_append]
  | @block body cs hbody _ ih =>
    have hafter := afterClose?_append_close hbody (cs ++ rest)
    rw [← List.cons_append, ← List.cons_append, ← List.append_assoc] at hafter
    rw [List.cons_append, List.cons_append, removeBlocks_of_some hafter, ih,
      removeBlocks_of_some (afterClose?_append_close hbody cs)]
  | @unclosed cs hclose =>
    have hcs : ¬ ['*', '/'] <:+: cs :=
      fun h => hclose (h.trans (List.prefix_append cs rest).isInfix)
    have hafter : ¬ ['*', '/'] <:+: rest :=
      fun h => hclose (h.trans (List.suffix_append cs rest).isInfix)
    rw [List.cons_append, List.cons_append,
      removeBlocks_of_none (afterClose?_eq_none_iff.2 hclose),
      removeBlocks_of_none (afterClose?_eq_none_iff.2 hcs), removeBlocks_of_not_close hafter,
      List.cons_append, List.cons_append]

lemma removeBlocks_not_infix_append (ha : ¬ ['/', '*'] <:+: a) (hrest : rest.head? ≠ some '*') :
    removeBlocks (a ++ rest) = a ++ removeBlocks rest := by
  rw [(Within.of_noOpening ha).removeBlocks_append hrest, removeBlocks_of_not_infix ha]

/-- The line comment is still one when block comments are removed, and the lines behind it lose
their own block comments only. -/
lemma Inert.removeBlocks_marker (h : Inert b w) :
    ∃ w', (∀ c ∈ w', endsLine c = false) ∧ removeBlocks ('/' :: '/' :: (w ++ '\n' :: b)) =
      '/' :: '/' :: (w' ++ '\n' :: removeBlocks b) := by
  have hfirst : ¬ ['/', '*'] <+: '/' :: '/' :: (w ++ '\n' :: b) := by simp
  have hfeed : removeBlocks ('\n' :: b) = '\n' :: removeBlocks b := removeBlocks_cons (by simp)
  rw [removeBlocks_cons hfirst]
  by_cases hstar : w.head? = some '*'
  · -- the marker's slash and the star open nothing that is closed, so all of it stays
    obtain ⟨v, rfl⟩ := List.head?_eq_some_iff.1 hstar
    have hclose : ¬ ['*', '/'] <:+: v ++ '\n' :: b := h.marker rfl
    have hb : ¬ ['*', '/'] <:+: b :=
      fun hb => hclose (hb.trans ((List.suffix_cons '\n' b).trans (List.suffix_append v _)).isInfix)
    refine ⟨'*' :: v, h.oneLine, ?_⟩
    rw [List.cons_append, removeBlocks_of_none (afterClose?_eq_none_iff.2 hclose),
      removeBlocks_of_not_close hb, List.cons_append]
  · refine ⟨removeBlocks w, fun c hc => h.oneLine c ((removeBlocks_sublist w).subset hc), ?_⟩
    have hsecond : ¬ ['/', '*'] <+: '/' :: (w ++ '\n' :: b) := by
      rw [pair_prefix_cons]
      cases w with
      | nil => simp
      | cons c w => exact fun hpair => hstar hpair.2
    rw [removeBlocks_cons hsecond, h.within.removeBlocks_append (by simp), hfeed]

lemma removeLinesFrom_inside_append (hw : ∀ c ∈ w, endsLine c = false) (rest : List Char) :
    removeLinesFrom true (w ++ '\n' :: rest) = '\n' :: removeLines rest := by
  induction w with
  | nil => exact removeLinesFrom_inside_end rfl rest
  | cons c w ih =>
    obtain ⟨hc, hw⟩ := List.forall_mem_cons.1 hw
    rw [List.cons_append, removeLinesFrom_inside_cons hc, ih hw]

/-- A line comment is removed up to the end of its line, also where it stands in another one. -/
lemma removeLinesFrom_append_comment (hw : ∀ c ∈ w, endsLine c = false)
    (ha : a.getLast? ≠ some '/') (inside : Bool) (rest : List Char) :
    removeLinesFrom inside (a ++ '/' :: '/' :: (w ++ '\n' :: rest)) =
      removeLinesFrom inside a ++ '\n' :: removeLines rest := by
  have hmarker : ∀ c ∈ '/' :: '/' :: w, endsLine c = false := by simpa [endsLine] using hw
  have htail : ∀ {c : Char} {cs : List Char}, (c :: cs).getLast? ≠ some '/' →
      cs.getLast? ≠ some '/' := by
    intro c cs h hcs
    exact h (by rw [List.getLast?_cons, hcs]; rfl)
  fun_induction removeLinesFrom inside a with
  | case1 inside =>
    cases inside with
    | true => exact removeLinesFrom_inside_append hmarker rest
    | false =>
      have hpair : ['/', '/'] <+: '/' :: '/' :: (w ++ '\n' :: rest) :=
        List.prefix_append ['/', '/'] _
      rw [List.nil_append, removeLinesFrom_open hpair]
      exact removeLinesFrom_inside_append (List.forall_mem_cons.1 hmarker).2 rest
  | case2 c cs hend ih =>
    rw [List.cons_append, removeLinesFrom_inside_end hend, ih (htail ha), List.cons_append]
  | case3 c cs hend ih =>
    rw [List.cons_append, removeLinesFrom_inside_cons (by simpa using hend), ih (htail ha)]
  | case4 inside c cs hinside hopen ih =>
    obtain rfl : inside = false := by simpa using hinside
    obtain ⟨d, hd⟩ := List.head?_eq_some_iff.1 hopen.2
    have hpair : ['/', '/'] <+: c :: (cs ++ '/' :: '/' :: (w ++ '\n' :: rest)) := by
      rw [pair_prefix_cons, hd]
      exact ⟨hopen.1.symm, rfl⟩
    rw [List.cons_append, removeLinesFrom_open hpair, ih (htail ha)]
  | case5 inside c cs hinside hopen ih =>
    obtain rfl : inside = false := by simpa using hinside
    have hpair : ¬ ['/', '/'] <+: c :: (cs ++ '/' :: '/' :: (w ++ '\n' :: rest)) := by
      rw [pair_prefix_cons]
      rintro ⟨rfl, hhead⟩
      cases cs with
      | nil => exact ha rfl
      | cons d cs => exact hopen ⟨rfl, hhead⟩
    rw [List.cons_append, removeLinesFrom_cons hpair, ih (htail ha), List.cons_append]

theorem strip_append_comment (ha : ¬ ['/', '*'] <:+: a) (hend : a.getLast? ≠ some '/')
    (h : Inert b w) :
    strip (a ++ '/' :: '/' :: (w ++ '\n' :: b)) = strip a ++ '\n' :: strip b := by
  obtain ⟨w', hw', hblocks⟩ := h.removeBlocks_marker
  rw [strip, removeBlocks_not_infix_append ha (by simp), hblocks, removeLines,
    removeLinesFrom_append_comment hw' hend, strip, removeBlocks_of_not_infix ha]
  rfl

/-- One inert text does as well as another. -/
theorem strip_exchange_comment {w₁ w₂ : List Char} (ha : ¬ ['/', '*'] <:+: a)
    (hend : a.getLast? ≠ some '/') (h₁ : Inert b w₁) (h₂ : Inert b w₂) :
    strip (a ++ ['/', '/'] ++ w₁ ++ ['\n'] ++ b) = strip a ++ '\n' :: strip b ∧
      strip (a ++ ['/', '/'] ++ w₁ ++ ['\n'] ++ b) =
        strip (a ++ ['/', '/'] ++ w₂ ++ ['\n'] ++ b) := by
  have htext : ∀ w, a ++ ['/', '/'] ++ w ++ ['\n'] ++ b = a ++ '/' :: '/' :: (w ++ '\n' :: b) := by
    simp
  rw [htext, htext, strip_append_comment ha hend h₁, strip_append_comment ha hend h₂]
  exact ⟨rfl, rfl⟩

/-- A whole block comment and markers of both kinds in one of the texts, and block comments in the
lines behind. -/
theorem strip_exchange_comment_blocks :
    ¬ ['/', '*'] <:+: "x; ".toList ∧ "x; ".toList.getLast? ≠ some '/' ∧
      Inert "y /* z */; // */".toList "/* old */ see // or */".toList ∧
      Inert "y /* z */; // */".toList [] ∧
      strip ("x; ".toList ++ ['/', '/'] ++ "/* old */ see // or */".toList ++ ['\n'] ++
        "y /* z */; // */".toList) = strip "x; ".toList ++ '\n' :: strip "y /* z */; // */".toList ∧
      strip ("x; ".toList ++ ['/', '/'] ++ "/* old */ see // or */".toList ++ ['\n'] ++
        "y /* z */; // */".toList) =
        strip ("x; ".toList ++ ['/', '/'] ++ [] ++ ['\n'] ++ "y /* z */; // */".toList) := by
  have ha : ¬ ['/', '*'] <:+: "x; ".toList := by decide
  have hend : "x; ".toList.getLast? ≠ some '/' := by decide
  have hold : ¬ ['*', '/'] <:+: " old ".toList := by decide
  have h₁ : Inert "y /* z */; // */".toList "/* old */ see // or */".toList :=
    ⟨Text.forall_eq_false_of_all (by decide), by decide, .block hold (.of_noOpening (by decide))⟩
  have h₂ : Inert "y /* z */; // */".toList [] := ⟨by simp, by simp, .empty⟩
  exact ⟨ha, hend, h₁, h₂, strip_exchange_comment ha hend h₁ h₂⟩

/-- A block comment that opens in a line comment takes the code of the next line along. -/
theorem strip_exchange_comment_ne :
    ¬ ∀ a b w₁ w₂ : List Char, ¬ ['/', '*'] <:+: a → a.getLast? ≠ some '/' →
      (∀ c ∈ w₁, endsLine c = false) → (∀ c ∈ w₂, endsLine c = false) →
      strip (a ++ ['/', '/'] ++ w₁ ++ ['\n'] ++ b) =
        strip (a ++ ['/', '/'] ++ w₂ ++ ['\n'] ++ b) := by
  intro h
  have hopening : ∀ c ∈ " /*".toList, endsLine c = false := Text.forall_eq_false_of_all (by decide)
  have hsame := h [] "x */ y".toList " /*".toList [] (by decide) (by decide) hopening (by simp)
  revert hsame
  decide +kernel

end CodeGrowth.Comment
