import CodeGrowth.Loop
import CodeGrowth.Proofs.Literals

/-!
# What stands in literals does not count

A literal is a quote, a body and the same quote again. The body is read character by character, and
a backslash takes the next one along, so the first quote that closes the literal is the one behind
its body, whatever stands in the body: other quotes, braces, loop headers, line feeds.

A text in which each quote belongs to such a literal leaves nothing open, so masking starts afresh
behind it. Loop counts and nesting depth read masked text only, so that of two bodies in the same
place they cannot tell one from the other.
-/
namespace CodeGrowth
open Text

namespace Literal
variable {c quote : Char} {cs rest body u : List Char}

/-- What can stand between the two quotes of a literal. -/
inductive Body (quote : Char) : List Char → Prop
  | empty : Body quote []
  | char {c : Char} {cs : List Char} (hquote : c ≠ quote) (hescape : c ≠ '\\')
      (h : Body quote cs) : Body quote (c :: cs)
  | escape {c : Char} {cs : List Char} (hc : c ≠ '\n') (h : Body quote cs) :
      Body quote ('\\' :: c :: cs)

/-- A text whose quotes all belong to literals that are closed in it. -/
inductive Closed : List Char → Prop
  | empty : Closed []
  | char {c : Char} {cs : List Char} (hc : isQuote c = false) (h : Closed cs) : Closed (c :: cs)
  | literal {quote : Char} {body cs : List Char} (hquote : isQuote quote = true)
      (hbody : Body quote body) (h : Closed cs) : Closed (quote :: (body ++ quote :: cs))

lemma ne_backslash_of_isQuote (h : isQuote quote = true) : quote ≠ '\\' := by
  rintro rfl
  contradiction

lemma Body.of_notMem (hquote : quote ∉ body) (hescape : '\\' ∉ body) : Body quote body := by
  induction body with
  | nil => exact .empty
  | cons c body ih =>
    rw [List.mem_cons, not_or] at hquote hescape
    exact .char (Ne.symm hquote.1) (Ne.symm hescape.1) (ih hquote.2 hescape.2)

lemma Body.afterBody?_append (hquote : quote ≠ '\\') (h : Body quote body) (rest : List Char) :
    afterBody? quote (body ++ quote :: rest) = some rest := by
  induction h with
  | empty => exact afterBody?_close rest
  | char hc hescape _ ih => rw [List.cons_append, afterBody?_cons hc hescape, ih]
  | escape hc _ ih => rw [List.cons_append, List.cons_append, afterBody?_escape hquote hc, ih]

lemma exists_body_of_afterBody? (h : afterBody? quote cs = some rest) :
    ∃ body, Body quote body ∧ cs = body ++ quote :: rest := by
  fun_induction afterBody? quote cs with
  | case1 => contradiction
  | case2 cs =>
    cases h
    exact ⟨[], .empty, rfl⟩
  | case3 => contradiction
  | case4 => contradiction
  | case5 e cs he _ ih =>
    obtain ⟨body, hbody, rfl⟩ := ih h
    exact ⟨'\\' :: e :: body, .escape he hbody, rfl⟩
  | case6 c cs hquote hescape ih =>
    obtain ⟨body, hbody, rfl⟩ := ih h
    exact ⟨c :: body, .char hquote hescape hbody, rfl⟩

/-- A literal closes exactly behind its body. -/
theorem afterBody?_eq_some_iff (hquote : quote ≠ '\\') :
    afterBody? quote cs = some rest ↔ ∃ body, Body quote body ∧ cs = body ++ quote :: rest := by
  constructor
  · exact exists_body_of_afterBody?
  · rintro ⟨body, hbody, rfl⟩
    exact hbody.afterBody?_append hquote rest

lemma mask_literal_append (hquote : isQuote quote = true) (hbody : Body quote body)
    (rest : List Char) : mask (quote :: (body ++ quote :: rest)) = mask rest := by
  apply mask_cons_of_some hquote
  exact (afterBody?_eq_some_iff (ne_backslash_of_isQuote hquote)).2 ⟨body, hbody, rfl⟩

/-- Masking starts afresh behind a text without open literals. -/
theorem Closed.mask_append (h : Closed u) (rest : List Char) :
    mask (u ++ rest) = mask u ++ mask rest := by
  induction h with
  | empty => rw [List.nil_append, mask_nil, List.nil_append]
  | char hc _ ih =>
    rw [List.cons_append, mask_cons_of_not_isQuote hc, ih, mask_cons_of_not_isQuote hc,
      List.cons_append]
  | literal hquote hbody _ ih =>
    rw [List.cons_append, List.append_assoc, List.cons_append, mask_literal_append hquote hbody, ih,
      mask_literal_append hquote hbody]

/-- Such are the texts of which masking leaves no quote. -/
theorem closed_iff : Closed u ↔ ∀ c ∈ mask u, isQuote c = false := by
  constructor
  · intro h
    induction h with
    | empty => simp
    | char hc _ ih =>
      rw [mask_cons_of_not_isQuote hc]
      exact List.forall_mem_cons.2 ⟨hc, ih⟩
    | literal hquote hbody _ ih => rwa [mask_literal_append hquote hbody]
  · intro h
    fun_induction mask u with
    | case1 => exact .empty
    | case2 c cs hc rest hsome ih =>
      have hquote := ne_backslash_of_isQuote hc
      obtain ⟨body, hbody, rfl⟩ := (afterBody?_eq_some_iff hquote).1 hsome
      exact .literal hc hbody (ih h)
    | case3 c cs hc hnone ih =>
      -- a quote that opens no literal stays in the text
      rw [(List.forall_mem_cons.1 h).1] at hc
      contradiction
    | case4 c cs hc ih =>
      exact .char (by simpa using hc) (ih (List.forall_mem_cons.1 h).2)

end Literal

namespace Loop
variable {s t : List Char}

lemma count_congr_mask (h : Literal.mask s = Literal.mask t) : count s = count t := by
  rw [count, count, h]

lemma nestDepth_congr_mask (h : Literal.mask s = Literal.mask t) : nestDepth s = nestDepth t := by
  rw [nestDepth, nestDepth, h]

end Loop

namespace Literal
open Loop

/-- A literal is masked as a whole, so its body may be exchanged for any other. -/
theorem mask_exchange_body {u v x y : List Char} {quote : Char} (hu : Closed u)
    (hquote : isQuote quote = true) (hx : Body quote x) (hy : Body quote y) :
    mask (u ++ [quote] ++ x ++ [quote] ++ v) = mask u ++ mask v ∧
      count (u ++ [quote] ++ x ++ [quote] ++ v) = count (u ++ [quote] ++ y ++ [quote] ++ v) ∧
      nestDepth (u ++ [quote] ++ x ++ [quote] ++ v) =
        nestDepth (u ++ [quote] ++ y ++ [quote] ++ v) := by
  have hmask : ∀ {body : List Char}, Body quote body →
      mask (u ++ [quote] ++ body ++ [quote] ++ v) = mask u ++ mask v := by
    intro body hbody
    have htext : u ++ [quote] ++ body ++ [quote] ++ v = u ++ quote :: (body ++ quote :: v) := by
      simp
    rw [htext, hu.mask_append, mask_literal_append hquote hbody]
  have hsame := (hmask hx).trans (hmask hy).symm
  exact ⟨hmask hx, count_congr_mask hsame, nestDepth_congr_mask hsame⟩

/-- The other kind of quote in front, and a loop header, a brace, a line feed and a lone quote of
that kind in one of the bodies. -/
theorem mask_exchange_header :
    Closed "c = '\"'; s = ".toList ∧ isQuote '"' = true ∧
      Body '"' "\nfor (;;) \x7b '".toList ∧ Body '"' "\\\"".toList ∧
      mask ("c = '\"'; s = ".toList ++ ['"'] ++ "\nfor (;;) \x7b '".toList ++ ['"'] ++
          "; while (x) c = 'y".toList) =
        mask "c = '\"'; s = ".toList ++ mask "; while (x) c = 'y".toList ∧
      count ("c = '\"'; s = ".toList ++ ['"'] ++ "\nfor (;;) \x7b '".toList ++ ['"'] ++
          "; while (x) c = 'y".toList) =
        count ("c = '\"'; s = ".toList ++ ['"'] ++ "\\\"".toList ++ ['"'] ++
          "; while (x) c = 'y".toList) ∧
      nestDepth ("c = '\"'; s = ".toList ++ ['"'] ++ "\nfor (;;) \x7b '".toList ++ ['"'] ++
          "; while (x) c = 'y".toList) =
        nestDepth ("c = '\"'; s = ".toList ++ ['"'] ++ "\\\"".toList ++ ['"'] ++
          "; while (x) c = 'y".toList) := by
  have hu : Closed "c = '\"'; s = ".toList :=
    closed_iff.2 (forall_eq_false_of_all (by decide +kernel))
  have hquote : isQuote '"' = true := by decide
  have hx : Body '"' "\nfor (;;) \x7b '".toList := .of_notMem (by decide) (by decide)
  have hy : Body '"' "\\\"".toList := .escape (by decide) .empty
  exact ⟨hu, hquote, hx, hy, mask_exchange_body hu hquote hx hy⟩

end Literal

end CodeGrowth
