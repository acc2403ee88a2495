import CodeGrowth.Proofs.Occurrences

/-!
# Tokens with white space between them

A phrase whose pieces are fixed texts with gaps between them stands for its tokens in order and any
white space from one to the next. Every gap takes all the white space there is. So if no token
begins with white space, the phrase stands wherever the tokens do, and nowhere else.
-/
namespace CodeGrowth.Text

/-- The tokens in order, with any white space between them. -/
inductive Spread : List (List Char) → List Char → Prop
  | last (token : List Char) : Spread [token] token
  | next (token : List Char) {tokens : List (List Char)} {g text : List Char} (hg : AllBlank g)
      (h : Spread tokens text) : Spread (token :: tokens) (token ++ (g ++ text))

/-- The pieces of a phrase for tokens. -/
def spreadPieces : List (List Char) → List Piece
  | [] => []
  | [token] => [.exactly token]
  | token :: tokens => .exactly token :: .gap :: spreadPieces tokens

/-- The tokens stand somewhere in the text, from the start of a word. -/
def HoldsSpread (tokens : List (List Char)) (text : List Char) : Prop :=
  ∃ before span after, before.getLast?.any isWord = false ∧ Spread tokens span ∧
    text = before ++ (span ++ after)

/-- No token is empty or begins with white space. -/
def Solid (tokens : List (List Char)) : Prop :=
  ∀ token ∈ tokens, token.head?.any (!isBlank ·) = true

instance (tokens : List (List Char)) : Decidable (Solid tokens) :=
  inferInstanceAs (Decidable (∀ token ∈ tokens, token.head?.any (!isBlank ·) = true))

section
variable {tokens : List (List Char)} {token cs rest span text : List Char}

lemma exists_cons_of_solid (h : token.head?.any (!isBlank ·) = true) :
    ∃ c tail, token = c :: tail ∧ isBlank c = false := by
  cases token with
  | nil => contradiction
  | cons c tail => exact ⟨c, tail, rfl, by simpa using h⟩

/-- Tokens begin with a character that is no white space. -/
lemma Spread.exists_cons (h : Spread tokens span) (hsolid : Solid tokens) :
    ∃ c tail, span = c :: tail ∧ isBlank c = false := by
  cases h with
  | last => exact exists_cons_of_solid (hsolid span (List.mem_singleton_self span))
  | next token hg h =>
    obtain ⟨c, tail, rfl, hc⟩ := exists_cons_of_solid (hsolid token List.mem_cons_self)
    exact ⟨c, _, rfl, hc⟩

lemma Spread.skipBlanks_append (h : Spread tokens span) (hsolid : Solid tokens) {g : List Char}
    (hg : AllBlank g) (rest : List Char) : skipBlanks (g ++ (span ++ rest)) = span ++ rest := by
  obtain ⟨c, tail, rfl, hc⟩ := h.exists_cons hsolid
  exact skipBlanks_append_cons hg hc _

lemma afterPieces?_spreadPieces_iff (hsolid : Solid tokens) (hne : tokens ≠ []) :
    afterPieces? (spreadPieces tokens) cs = some rest ↔
      ∃ span, Spread tokens span ∧ cs = span ++ rest := by
  induction tokens generalizing cs with
  | nil => contradiction
  | cons token tokens ih =>
    cases tokens with
    | nil =>
      rw [spreadPieces, afterPieces?, Piece.rest?, Option.bind_eq_some_iff]
      constructor
      · rintro ⟨mid, hmid, hrest⟩
        obtain rfl : mid = rest := Option.some.inj hrest
        exact ⟨token, .last token, after?_eq_some_iff.1 hmid⟩
      · rintro ⟨span, hspan, rfl⟩
        cases hspan with
        | last => exact ⟨rest, after?_eq_some_iff.2 rfl, rfl⟩
        | next _ _ h => cases h
    | cons other tokens =>
      have hrest : Solid (other :: tokens) := (List.forall_mem_cons.1 hsolid).2
      have ih := fun cs => @ih cs hrest (List.cons_ne_nil other tokens)
      rw [spreadPieces, afterPieces?, Piece.rest?, Option.bind_eq_some_iff]
      · constructor
        · rintro ⟨mid, hmid, hgap⟩
          obtain ⟨g, hg, hskip⟩ := exists_append_skipBlanks mid
          obtain ⟨span, hspan, hafter⟩ := (ih (skipBlanks mid)).1 hgap
          refine ⟨token ++ (g ++ span), .next token hg hspan, ?_⟩
          rw [after?_eq_some_iff.1 hmid, List.append_assoc, List.append_assoc, ← hafter, ← hskip]
        · rintro ⟨span, hspan, rfl⟩
          cases hspan with
          | @next _ _ g span hg h =>
            refine ⟨g ++ (span ++ rest), after?_eq_some_iff.2 (by simp), ?_⟩
            refine (ih (skipBlanks (g ++ (span ++ rest)))).2 ⟨span, h, ?_⟩
            exact h.skipBlanks_append hrest hg rest
      · exact List.cons_ne_nil other tokens

lemma rest?_eq_some_iff {atWord : Bool} {pieces : List Piece} {before : Option Char} :
    (Phrase.mk atWord pieces).rest? ⟨before, cs⟩ = some rest ↔
      (atWord = true → before.any isWord = false) ∧ afterPieces? pieces cs = some rest := by
  rw [Phrase.rest?, Option.ite_none_left_eq_some, Spot.startsWord]
  cases atWord <;> simp

/-- Where a phrase for tokens occurs, the tokens stand, and the other way round. -/
theorem occursIn_spreadPieces_iff (hsolid : Solid tokens) (hne : tokens ≠ []) {atWord : Bool} :
    (Phrase.mk atWord (spreadPieces tokens)).occursIn text = true ↔
      ∃ before span after, (atWord = true → before.getLast?.any isWord = false) ∧
        Spread tokens span ∧ text = before ++ (span ++ after) := by
  rw [Phrase.occursIn_iff]
  constructor
  · rintro ⟨before, ahead, -, rfl, hstands⟩
    obtain ⟨after, hafter⟩ := Option.isSome_iff_exists.1 hstands
    obtain ⟨hbefore, hpieces⟩ := rest?_eq_some_iff.1 hafter
    obtain ⟨span, hspan, rfl⟩ := (afterPieces?_spreadPieces_iff hsolid hne).1 hpieces
    exact ⟨before, span, after, hbefore, hspan, rfl⟩
  · rintro ⟨before, span, after, hbefore, hspan, rfl⟩
    have hpieces : afterPieces? (spreadPieces tokens) (span ++ after) = some after :=
      (afterPieces?_spreadPieces_iff hsolid hne).2 ⟨span, hspan, rfl⟩
    refine ⟨before, span ++ after, ?_, rfl, ?_⟩
    · obtain ⟨c, tail, rfl, -⟩ := hspan.exists_cons hsolid
      exact List.cons_ne_nil _ _
    · exact Option.isSome_iff_exists.2 ⟨after, rest?_eq_some_iff.2 ⟨hbefore, hpieces⟩⟩

theorem occursIn_iff_holdsSpread (hsolid : Solid tokens) (hne : tokens ≠ []) :
    (Phrase.mk true (spreadPieces tokens)).occursIn text = true ↔ HoldsSpread tokens text := by
  simp only [occursIn_spreadPieces_iff hsolid hne, HoldsSpread, true_implies]

end

end CodeGrowth.Text
