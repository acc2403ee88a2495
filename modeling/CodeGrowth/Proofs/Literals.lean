import CodeGrowth.Literal
import CodeGrowth.Proofs.Respacing

/-!
# Masking of literals

Masking removes a literal where it closes and keeps every other character, so a stretch without
quotes before or behind a text stays as it is. A stretch behind a text cannot close a literal that
the text leaves open: without the quote, the search for a close runs to the end.
-/
namespace CodeGrowth.Literal
open Text

variable {c quote : Char} {cs rest : List Char}

lemma isBlank_of_isQuote (h : isQuote c = true) : isBlank c = false := by
  rw [isQuote, Bool.or_eq_true, beq_iff_eq, beq_iff_eq] at h
  rcases h with rfl | rfl
  · decide
  · decide

lemma isQuote_of_isBlank (h : isBlank c = true) : isQuote c = false := by
  by_contra hquote
  rw [isBlank_of_isQuote (by simpa using hquote)] at h
  contradiction

lemma afterBody?_close (cs : List Char) : afterBody? quote (quote :: cs) = some cs := by
  unfold afterBody?
  rw [if_pos rfl]

lemma afterBody?_cons (hquote : c ≠ quote) (hescape : c ≠ '\\') (cs : List Char) :
    afterBody? quote (c :: cs) = afterBody? quote cs := by
  rw [afterBody?.eq_def]
  dsimp only
  rw [if_neg hquote, if_neg hescape]

lemma afterBody?_escape (hquote : quote ≠ '\\') (hc : c ≠ '\n') (cs : List Char) :
    afterBody? quote ('\\' :: c :: cs) = afterBody? quote cs := by
  simp [afterBody?, hquote.symm, hc]

lemma afterBody?_escape_lineFeed (hquote : quote ≠ '\\') (cs : List Char) :
    afterBody? quote ('\\' :: '\n' :: cs) = none := by
  simp [afterBody?, hquote.symm]

@[simp] theorem mask_nil : mask [] = [] := by rw [mask]

lemma mask_cons_of_not_isQuote (hc : isQuote c = false) (cs : List Char) :
    mask (c :: cs) = c :: mask cs := by
  rw [mask, if_neg (by simp [hc])]

lemma mask_cons_of_some (hc : isQuote c = true) (h : afterBody? c cs = some rest) :
    mask (c :: cs) = mask rest := by
  rw [mask, if_pos hc]
  split
  · next h' => rw [h] at h'; cases h'; rfl
  · next h' => rw [h] at h'; contradiction

lemma mask_cons_of_none (hc : isQuote c = true) (h : afterBody? c cs = none) :
    mask (c :: cs) = c :: mask cs := by
  rw [mask, if_pos hc]
  split
  · next h' => rw [h] at h'; contradiction
  · rfl

lemma afterBody?_of_notMem (h : quote ∉ cs) : afterBody? quote cs = none := by
  fun_induction afterBody? quote cs with
  | case1 => rfl
  | case2 => simp at h
  | case3 => rfl
  | case4 => rfl
  | case5 _ _ _ _ ih => exact ih (by simp_all)
  | case6 _ _ _ _ ih => exact ih (by simp_all)

lemma afterBody?_append_of_notMem (h : quote ∉ rest) (cs : List Char) :
    afterBody? quote (cs ++ rest) = (afterBody? quote cs).map (· ++ rest) := by
  fun_induction afterBody? quote cs with
  | case1 => exact afterBody?_of_notMem h
  | case2 => exact afterBody?_close _
  | case3 hquote =>
    refine afterBody?_of_notMem ?_
    simp [h, Ne.symm hquote]
  | case4 r hquote => simp [afterBody?, hquote]
  | case5 e r he hquote ih => simpa [afterBody?, he, hquote] using ih
  | case6 c r hquote hescape ih =>
    rw [List.cons_append, afterBody?_cons hquote hescape]
    exact ih

lemma mask_no_quotes_append (h : ∀ c ∈ cs, isQuote c = false) (rest : List Char) :
    mask (cs ++ rest) = cs ++ mask rest := by
  induction cs with
  | nil => rfl
  | cons c cs ih =>
    obtain ⟨hc, hcs⟩ := List.forall_mem_cons.1 h
    rw [List.cons_append, mask_cons_of_not_isQuote hc, ih hcs, List.cons_append]

lemma mask_of_no_quotes (h : ∀ c ∈ cs, isQuote c = false) : mask cs = cs := by
  simpa using mask_no_quotes_append h []

lemma mask_append_of_no_quotes (h : ∀ c ∈ rest, isQuote c = false) (cs : List Char) :
    mask (cs ++ rest) = mask cs ++ rest := by
  have hclose : ∀ c, isQuote c = true → c ∉ rest := by
    intro c hc hmem
    rw [h c hmem] at hc
    contradiction
  fun_induction mask cs with
  | case1 => exact mask_of_no_quotes h
  | case2 c cs hc after hsome ih =>
    have hafter : afterBody? c (cs ++ rest) = some (after ++ rest) := by
      rw [afterBody?_append_of_notMem (hclose c hc), hsome, Option.map_some]
    rw [List.cons_append, mask_cons_of_some hc hafter, ih]
  | case3 c cs hc hnone ih =>
    have hafter : afterBody? c (cs ++ rest) = none := by
      rw [afterBody?_append_of_notMem (hclose c hc), hnone, Option.map_none]
    rw [List.cons_append, mask_cons_of_none hc hafter, ih, List.cons_append]
  | case4 c cs hc ih =>
    rw [List.cons_append, mask_cons_of_not_isQuote (by simpa using hc), ih, List.cons_append]

/-- White space at the ends of a text stays there. -/
lemma mask_allBlank_append_append {g h : List Char} (hg : AllBlank g) (hh : AllBlank h)
    (cs : List Char) : mask (g ++ cs ++ h) = g ++ mask cs ++ h := by
  have hquotes : ∀ {g : List Char}, AllBlank g → ∀ c ∈ g, isQuote c = false :=
    fun hg c hc => isQuote_of_isBlank (hg c hc)
  rw [mask_append_of_no_quotes (hquotes hh), mask_no_quotes_append (hquotes hg)]

end CodeGrowth.Literal
