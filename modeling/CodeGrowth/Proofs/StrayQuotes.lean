import CodeGrowth.Proofs.StringData

/-!
# Quotes that masking leaves

Without a backslash in the text, a literal ends at the next quote of its kind, and a quote is left
only if there is none. Such a quote is the last of its kind in the text, so no two of a kind are
left, and what is left of the text holds no literal, though it may have come together from stretches
that literals kept apart.
-/
namespace CodeGrowth.Literal
open Text

variable {c quote : Char} {cs text : List Char}

/-- Every quote is the last of its kind. -/
def QuotesLast (text : List Char) : Prop := text.Pairwise fun c d => isQuote c = true → c ≠ d

lemma quotesLast_cons :
    QuotesLast (c :: cs) ↔ (isQuote c = true → c ∉ cs) ∧ QuotesLast cs := by
  rw [QuotesLast, List.pairwise_cons]
  refine and_congr_left fun _ => ⟨fun h hc hmem => h c hmem hc rfl, ?_⟩
  rintro h d hd hc rfl
  exact h hc hd

lemma QuotesLast.mask_eq (h : QuotesLast text) : mask text = text := by
  induction text with
  | nil => exact mask_nil
  | cons c text ih =>
    obtain ⟨hlast, htext⟩ := quotesLast_cons.1 h
    by_cases hc : isQuote c = true
    · rw [mask_cons_of_none hc (afterBody?_of_notMem (hlast hc)), ih htext]
    · rw [mask_cons_of_not_isQuote (by simpa using hc), ih htext]

lemma QuotesLast.count_le_one (h : QuotesLast text) (hquote : isQuote quote = true) :
    text.count quote ≤ 1 := by
  induction text with
  | nil => exact Nat.zero_le 1
  | cons c text ih =>
    obtain ⟨hlast, htext⟩ := quotesLast_cons.1 h
    by_cases hc : c = quote
    · subst hc
      rw [List.count_cons_self, List.count_eq_zero.2 (hlast hquote)]
    · rw [List.count_cons_of_ne hc]
      exact ih htext

lemma mask_sublist (text : List Char) : (mask text).Sublist text := by
  fun_induction mask text with
  | case1 => exact List.Sublist.refl []
  | case2 c cs _ rest hsome ih =>
    obtain ⟨body, -, rfl⟩ := exists_body_of_afterBody? hsome
    exact ((ih.cons c).trans (List.sublist_append_right body (c :: rest))).cons c
  | case3 c cs _ _ ih => exact ih.cons_cons c
  | case4 c cs _ ih => exact ih.cons_cons c

/-- A quote that no literal begins with is the last of its kind. -/
lemma notMem_of_afterBody?_eq_none (hescape : '\\' ∉ cs) (h : afterBody? quote cs = none) :
    quote ∉ cs := by
  fun_induction afterBody? quote cs with
  | case1 => exact List.not_mem_nil
  | case2 => contradiction
  | case3 => simp at hescape
  | case4 => simp at hescape
  | case5 => simp at hescape
  | case6 c cs hc _ ih =>
    rw [List.mem_cons, not_or] at hescape ⊢
    exact ⟨Ne.symm hc, ih hescape.2 h⟩

lemma quotesLast_mask (hescape : '\\' ∉ text) : QuotesLast (mask text) := by
  fun_induction mask text with
  | case1 => exact List.Pairwise.nil
  | case2 c cs _ rest hsome ih =>
    obtain ⟨body, -, rfl⟩ := exists_body_of_afterBody? hsome
    exact ih (by simp_all)
  | case3 c cs _ hnone ih =>
    have hcs := List.not_mem_of_not_mem_cons hescape
    have hlast := notMem_of_afterBody?_eq_none hcs hnone
    exact quotesLast_cons.2 ⟨fun _ hmem => hlast ((mask_sublist cs).subset hmem), ih hcs⟩
  | case4 c cs hc ih =>
    have hcs := List.not_mem_of_not_mem_cons hescape
    exact quotesLast_cons.2 ⟨fun hquote => absurd hquote hc, ih hcs⟩

/-- A quote that is left is the last of its kind in the text, and the parts before it and behind it
are masked as if they stood alone. -/
lemma exists_last_of_mem_mask (hescape : '\\' ∉ text) (hquote : isQuote quote = true)
    (h : quote ∈ mask text) :
    ∃ before after, text = before ++ quote :: after ∧ quote ∉ after ∧
      mask text = mask before ++ quote :: mask after := by
  fun_induction mask text with
  | case1 => contradiction
  | case2 c cs hc rest hsome ih =>
    obtain ⟨body, hbody, rfl⟩ := exists_body_of_afterBody? hsome
    obtain ⟨before, after, rfl, hafter, hmask⟩ := ih (by simp_all) h
    refine ⟨c :: (body ++ c :: before), after, by simp, hafter, ?_⟩
    rw [mask_literal_append hc hbody, hmask]
  | case3 c cs hc hnone ih =>
    have hcs := List.not_mem_of_not_mem_cons hescape
    have hlast := notMem_of_afterBody?_eq_none hcs hnone
    rcases List.mem_cons.1 h with rfl | hmem
    · exact ⟨[], cs, rfl, hlast, by rw [mask_nil, List.nil_append]⟩
    · obtain ⟨before, after, rfl, hafter, hmask⟩ := ih hcs hmem
      -- the quote stays open in front of fewer characters too
      have hopen : c ∉ before := fun hmem => hlast (List.mem_append_left _ hmem)
      refine ⟨c :: before, after, rfl, hafter, ?_⟩
      rw [mask_cons_of_none hc (afterBody?_of_notMem hopen), hmask, List.cons_append]
  | case4 c cs hc ih =>
    have hcs := List.not_mem_of_not_mem_cons hescape
    have hne : quote ≠ c := by
      rintro rfl
      exact hc hquote
    obtain ⟨before, after, rfl, hafter, hmask⟩ := ih hcs ((List.mem_cons.1 h).resolve_left hne)
    refine ⟨c :: before, after, rfl, hafter, ?_⟩
    rw [mask_cons_of_not_isQuote (by simpa using hc), hmask, List.cons_append]

/-- Without escapes, masking leaves at most the last quote of each kind, and nothing to mask. -/
theorem mask_strayQuotes (hescape : '\\' ∉ text) :
    (∀ quote, isQuote quote = true → (mask text).count quote ≤ 1) ∧
      (∀ quote, isQuote quote = true → quote ∈ mask text →
        ∃ before after, text = before ++ quote :: after ∧ quote ∉ after ∧
          mask text = mask before ++ quote :: mask after) ∧
      mask (mask text) = mask text :=
  ⟨fun _ hquote => (quotesLast_mask hescape).count_le_one hquote,
    fun _ hquote hmem => exists_last_of_mem_mask hescape hquote hmem,
    (quotesLast_mask hescape).mask_eq⟩

/-- A literal with a quote of the other kind in it, and a quote of either kind that stays. -/
def apostrophes : List Char := "\"don't\" can't \"say".toList

theorem mask_strayQuotes_apostrophes :
    '\\' ∉ apostrophes ∧ isQuote '\'' = true ∧ '\'' ∈ mask apostrophes ∧ isQuote '"' = true ∧
      '"' ∈ mask apostrophes ∧ mask apostrophes = " can't \"say".toList ∧
      (mask apostrophes).count '\'' ≤ 1 ∧
      (∃ before after, apostrophes = before ++ '"' :: after ∧ '"' ∉ after ∧
        mask apostrophes = mask before ++ '"' :: mask after) ∧
      mask (mask apostrophes) = mask apostrophes := by
  have hescape : '\\' ∉ apostrophes := by decide
  have hmask : mask apostrophes = " can't \"say".toList := by decide +kernel
  have hsingle : '\'' ∈ mask apostrophes := by
    rw [hmask]
    decide
  have hdouble : '"' ∈ mask apostrophes := by
    rw [hmask]
    decide
  obtain ⟨hcount, hlast, hagain⟩ := mask_strayQuotes hescape
  exact ⟨hescape, by decide, hsingle, by decide, hdouble, hmask, hcount _ (by decide),
    hlast _ (by decide) hdouble, hagain⟩

/-- A quote may be left in front of another one of its kind if that one is escaped. -/
example : mask "\"\\\"".toList = "\"\\\"".toList := by decide +kernel

end CodeGrowth.Literal
