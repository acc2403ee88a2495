import CodeGrowth.Proofs.WhiteSpace

/-!
# Where phrases occur

The spots of a text are its splits in two with something ahead, so that a phrase occurs in a text if
some split has it at the start of the part ahead, and no word running into it if it begins a word.
A phrase is found only where its first pieces are found. What a phrase leaves is an end of the text.
-/
namespace CodeGrowth.Text

/-- The character before a place, read from the start of the text or from behind its first
character. -/
lemma getLast?_cons_or (c : Char) (pre : List Char) (before : Option Char) :
    (c :: pre).getLast?.or before = pre.getLast?.or (some c) := by
  cases h : pre.getLast? <;> simp [List.getLast?_cons, h]

lemma mem_spotsAfter {before : Option Char} {text : List Char} {spot : Spot} :
    spot ∈ spotsAfter before text ↔
      ∃ pre ahead, ahead ≠ [] ∧ text = pre ++ ahead ∧ spot = ⟨pre.getLast?.or before, ahead⟩ := by
  induction text generalizing before with
  | nil => simp [spotsAfter]
  | cons c cs ih =>
    rw [spotsAfter, List.mem_cons, ih]
    constructor
    · rintro (rfl | ⟨pre, ahead, hahead, rfl, rfl⟩)
      · exact ⟨[], c :: cs, List.cons_ne_nil c cs, rfl, rfl⟩
      · exact ⟨c :: pre, ahead, hahead, rfl, by rw [getLast?_cons_or]⟩
    · rintro ⟨pre, ahead, hahead, htext, rfl⟩
      cases pre with
      | nil =>
        subst htext
        exact .inl rfl
      | cons d pre =>
        obtain ⟨rfl, rfl⟩ := List.cons.inj htext
        exact .inr ⟨pre, ahead, hahead, rfl, by rw [getLast?_cons_or]⟩

lemma mem_spots {text : List Char} {spot : Spot} :
    spot ∈ spots text ↔
      ∃ pre ahead, ahead ≠ [] ∧ text = pre ++ ahead ∧ spot = ⟨pre.getLast?, ahead⟩ := by
  simp only [spots, mem_spotsAfter, Option.or_none]

/-- The spots in the order of their positions. -/
lemma spotsAfter_eq_map (before : Option Char) (text : List Char) :
    spotsAfter before text =
      (List.range text.length).map fun i => ⟨(text.take i).getLast?.or before, text.drop i⟩ := by
  induction text generalizing before with
  | nil => rfl
  | cons c cs ih =>
    rw [spotsAfter, ih, List.length_cons, List.range_succ_eq_map, List.map_cons, List.map_map]
    refine congrArg (_ :: ·) (List.map_congr_left fun i _ => ?_)
    rw [Function.comp_apply, List.take_succ_cons, List.drop_succ_cons, getLast?_cons_or]

lemma spots_eq_map (text : List Char) :
    spots text = (List.range text.length).map fun i => ⟨(text.take i).getLast?, text.drop i⟩ := by
  simp only [spots, spotsAfter_eq_map, Option.or_none]

/-- What is found first, and that nothing is found before it. -/
lemma findSome?_spotsAfter_eq_some_iff {α : Type} {read : Spot → Option α} {before : Option Char}
    {text : List Char} {a : α} : (spotsAfter before text).findSome? read = some a ↔
      ∃ pre ahead, ahead ≠ [] ∧ text = pre ++ ahead ∧
        read ⟨pre.getLast?.or before, ahead⟩ = some a ∧
        ∀ pre' ahead', text = pre' ++ ahead' → pre'.length < pre.length →
          read ⟨pre'.getLast?.or before, ahead'⟩ = none := by
  induction text generalizing before with
  | nil => simp [spotsAfter]
  | cons c cs ih =>
    rw [spotsAfter, List.findSome?_cons]
    cases hfirst : read ⟨before, c :: cs⟩ with
    | some b =>
      dsimp only
      constructor
      · intro h
        exact ⟨[], c :: cs, List.cons_ne_nil c cs, rfl, hfirst.trans h, by simp⟩
      · rintro ⟨pre, ahead, -, htext, hread, hnone⟩
        cases pre with
        | nil =>
          subst htext
          exact hfirst.symm.trans hread
        | cons d pre =>
          have hempty := hnone [] (c :: cs) rfl (Nat.succ_pos _)
          rw [List.getLast?_nil, Option.none_or, hfirst] at hempty
          contradiction
    | none =>
      dsimp only
      rw [ih]
      constructor
      · rintro ⟨pre, ahead, hahead, rfl, hread, hnone⟩
        refine ⟨c :: pre, ahead, hahead, rfl, by rwa [getLast?_cons_or], ?_⟩
        intro pre' ahead' htext hlt
        cases pre' with
        | nil =>
          subst htext
          exact hfirst
        | cons d pre' =>
          obtain ⟨rfl, htail⟩ := List.cons.inj htext
          rw [getLast?_cons_or]
          exact hnone pre' ahead' htail (Nat.lt_of_succ_lt_succ hlt)
      · rintro ⟨pre, ahead, hahead, htext, hread, hnone⟩
        cases pre with
        | nil =>
          subst htext
          rw [List.getLast?_nil, Option.none_or, hfirst] at hread
          contradiction
        | cons d pre =>
          obtain ⟨rfl, rfl⟩ := List.cons.inj htext
          rw [getLast?_cons_or] at hread
          refine ⟨pre, ahead, hahead, rfl, hread, ?_⟩
          intro pre' ahead' htext' hlt
          have hnone' := hnone (c :: pre') ahead' (congrArg (c :: ·) htext') (Nat.succ_lt_succ hlt)
          rwa [getLast?_cons_or] at hnone'

lemma afterPieces?_append (ps qs : List Piece) (cs : List Char) :
    afterPieces? (ps ++ qs) cs = (afterPieces? ps cs).bind (afterPieces? qs) := by
  induction ps generalizing cs with
  | nil => rfl
  | cons p ps ih =>
    rw [List.cons_append, afterPieces?, afterPieces?, Option.bind_assoc]
    exact Option.bind_congr fun mid _ => ih mid

namespace Phrase
variable {phrase : Phrase} {text : List Char}

theorem occursIn_iff : phrase.occursIn text = true ↔
    ∃ pre ahead, ahead ≠ [] ∧ text = pre ++ ahead ∧
      phrase.standsAt ⟨pre.getLast?, ahead⟩ = true := by
  rw [occursIn, List.any_eq_true]
  constructor
  · rintro ⟨spot, hspot, hstands⟩
    obtain ⟨pre, ahead, hahead, htext, rfl⟩ := mem_spots.1 hspot
    exact ⟨pre, ahead, hahead, htext, hstands⟩
  · rintro ⟨pre, ahead, hahead, htext, hstands⟩
    exact ⟨_, mem_spots.2 ⟨pre, ahead, hahead, htext, rfl⟩, hstands⟩

/-- A phrase stands only where its first pieces do. -/
lemma standsAt_of_append {atWord : Bool} {ps qs : List Piece} {spot : Spot}
    (h : (Phrase.mk atWord (ps ++ qs)).standsAt spot = true) :
    (Phrase.mk atWord ps).standsAt spot = true := by
  rw [standsAt, rest?] at h ⊢
  split at h
  · contradiction
  · next hstart =>
    rw [if_neg hstart]
    rw [afterPieces?_append] at h
    exact Option.isSome_of_isSome_bind h

lemma occursIn_of_append {atWord : Bool} (ps qs : List Piece)
    (h : (Phrase.mk atWord (ps ++ qs)).occursIn text = true) :
    (Phrase.mk atWord ps).occursIn text = true := by
  obtain ⟨spot, hspot, hstands⟩ := List.any_eq_true.1 h
  exact List.any_eq_true.2 ⟨spot, hspot, standsAt_of_append hstands⟩

lemma countIn_eq_zero_iff : phrase.countIn text = 0 ↔ phrase.occursIn text = false := by
  rw [← Bool.not_eq_true, occursIn_iff_countIn_pos]
  omega

end Phrase

end CodeGrowth.Text
