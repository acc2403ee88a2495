import CodeGrowth.Proofs.Cuts
import CodeGrowth.Proofs.StringData

/-!
# The spans of literals

A text has exactly one cut at its complete literals, and masking leaves the stretches of that cut.
A quote that opens no complete literal, because it is never closed or a backslash before a line feed
keeps it from being closed, is part of a stretch, and literals behind it are found like any others.

The stretches are not searched again once they are joined, and a literal may come about where two of
them meet.
-/
namespace CodeGrowth.Literal
open Text

variable {c : Char} {cs : List Char}

/-- A complete literal: a quote, a body, and the quote that closes it. -/
def IsLiteral (span : List Char) : Prop :=
  ∃ quote body, isQuote quote = true ∧ Body quote body ∧ span = quote :: (body ++ [quote])

/-- A literal begins at a quote from which the search for a close succeeds. -/
lemma begins_isLiteral : Begins IsLiteral (c :: cs) ↔
    isQuote c = true ∧ (afterBody? c cs).isSome = true := by
  rw [Option.isSome_iff_exists]
  constructor
  · rintro ⟨_, rest, ⟨quote, body, hquote, hbody, rfl⟩, heq⟩
    obtain ⟨rfl, rfl⟩ := List.cons.inj heq
    have hclose := hbody.afterBody?_append (ne_backslash_of_isQuote hquote) rest
    exact ⟨hquote, rest, by simpa using hclose⟩
  · rintro ⟨hquote, rest, hsome⟩
    obtain ⟨body, hbody, rfl⟩ := exists_body_of_afterBody? hsome
    exact ⟨_, rest, ⟨c, body, hquote, hbody, rfl⟩, by simp⟩

lemma prefixFree_isLiteral : PrefixFree IsLiteral where
  ne_nil := by
    rintro _ ⟨quote, body, -, -, rfl⟩
    exact List.cons_ne_nil _ _
  eq_of_prefix := by
    rintro _ _ ⟨quote, body, hquote, hbody, rfl⟩ ⟨quote', body', -, hbody', rfl⟩ ⟨rest, heq⟩
    rw [List.cons_append, List.append_assoc, List.singleton_append, List.cons.injEq] at heq
    obtain ⟨rfl, heq⟩ := heq
    -- both bodies are closed where the search for a close ends
    have hescape := ne_backslash_of_isQuote hquote
    have hclose := hbody.afterBody?_append hescape rest
    have hclose' := hbody'.afterBody?_append hescape []
    rw [heq, hclose', Option.some.injEq] at hclose
    rw [← heq, ← hclose]

lemma removes_mask : Removes IsLiteral mask where
  nil := mask_nil
  span := by
    rintro _ ⟨quote, body, hquote, hbody, rfl⟩ rest
    have hmask := mask_literal_append hquote hbody rest
    simpa using hmask
  char := by
    intro c cs h
    rw [begins_isLiteral, not_and, Option.not_isSome_iff_eq_none] at h
    by_cases hc : isQuote c = true
    · exact mask_cons_of_none hc (h hc)
    · exact mask_cons_of_not_isQuote (by simpa using hc) cs

/-- A text is masked by one pass over it, which no stray quote ends. -/
theorem mask_cut (text : List Char) :
    (∃! cut : Cut, cut.text = text ∧ cut.AtFirst IsLiteral) ∧
      (∀ cut : Cut, cut.text = text → cut.AtFirst IsLiteral → mask text = cut.kept) ∧
      (∀ stretch rest, NoneBegins IsLiteral stretch rest →
        mask (stretch ++ rest) = stretch ++ mask rest) ∧
      ((∀ c ∈ text, isQuote c = false) → mask text = text) := by
  refine ⟨existsUnique_cut prefixFree_isLiteral text, ?_, fun _ _ => removes_mask.append,
    mask_of_no_quotes⟩
  rintro cut rfl hcut
  exact removes_mask.eq_kept hcut

/-- A quote that a backslash at the end of its line keeps open, a literal with an escaped quote, and
a quote that is never closed. -/
def strayQuotes : Cut :=
  .part "'\\\n".toList "\"a\\\"b'\"".toList (.last " \"".toList)

theorem mask_cut_strayQuotes :
    strayQuotes.text = "'\\\n\"a\\\"b'\" \"".toList ∧ strayQuotes.AtFirst IsLiteral ∧
      mask strayQuotes.text = strayQuotes.kept ∧
      mask ("'\\\n".toList ++ "\"a\\\"b'\" \"".toList) =
        "'\\\n".toList ++ mask "\"a\\\"b'\" \"".toList ∧
      mask "for (;;) f();".toList = "for (;;) f();".toList := by
  have hbody : Body '"' "a\\\"b'".toList :=
    .char (by decide) (by decide) (.escape (by decide) (.of_notMem (by decide) (by decide)))
  have hliteral : IsLiteral "\"a\\\"b'\"".toList := ⟨'"', _, by decide, hbody, by decide⟩
  have hopen : NoneBegins IsLiteral "'\\\n".toList "\"a\\\"b'\" \"".toList :=
    noneBegins_cons.2 ⟨begins_isLiteral.not.2 (by decide), noneBegins_cons.2
      ⟨begins_isLiteral.not.2 (by decide), noneBegins_cons.2
        ⟨begins_isLiteral.not.2 (by decide), noneBegins_nil⟩⟩⟩
  have hlast : NoneBegins IsLiteral " \"".toList [] :=
    noneBegins_cons.2 ⟨begins_isLiteral.not.2 (by decide), noneBegins_cons.2
      ⟨begins_isLiteral.not.2 (by decide), noneBegins_nil⟩⟩
  have hcut : strayQuotes.AtFirst IsLiteral := ⟨hliteral, hopen, hlast⟩
  exact ⟨by decide, hcut, (mask_cut _).2.1 strayQuotes rfl hcut, (mask_cut []).2.2.1 _ _ hopen,
    (mask_cut _).2.2.2 (forall_eq_false_of_all (by decide))⟩

/-- Without the literal between them, one backslash escapes the other, and the line feed behind no
longer keeps the first quote open. -/
example : mask "'\\\"\"\\\n'".toList = "'\\\\\n'".toList ∧ mask "'\\\\\n'".toList = [] := by
  decide +kernel

end CodeGrowth.Literal
