import CodeGrowth.Language
import CodeGrowth.Proofs.Headers

/-!
# Language scores of joined texts

Some characters cut a text for a phrase: no piece takes such a character, neither as one of its own
nor in a run, and a word ends there. Whatever stands behind it, a phrase before it ends before it,
and a phrase behind it may begin right there as at the start of a text. So the phrase is found in
each part by itself, and in no place across.

The closing brace cuts texts in this way for every idiom of the two languages. A text of two parts
with a brace between them shows the idioms of both, whichever comes first, and is scored by them.
-/
namespace CodeGrowth.Text

variable {sep : Char}

/-- The piece ends before the character at the latest, and takes as much there as at the end of a
text. -/
def Piece.stopsAt (sep : Char) : Piece → Bool
  | exactly expected => !expected.contains sep
  | gap => !isBlank sep
  | blanks => !isBlank sep
  | dotted => !isDotted sep
  | wordEnd => !isWord sep

/-- The phrase takes at least one character, but never this one, and a word ends there. -/
def Phrase.cutBy (phrase : Phrase) (sep : Char) : Bool :=
  !isWord sep && (afterPieces? phrase.pieces []).isNone && phrase.pieces.all (Piece.stopsAt sep)

lemma after?_append_cons {expected : List Char} (h : sep ∉ expected) (cs rest : List Char) :
    after? expected (cs ++ sep :: rest) = (after? expected cs).map (· ++ sep :: rest) := by
  induction expected generalizing cs with
  | nil => rfl
  | cons e expected ih =>
    rw [List.mem_cons, not_or] at h
    cases cs with
    | nil => simp [after?, Ne.symm h.1]
    | cons c cs =>
      rw [List.cons_append, after?, after?, ih h.2, apply_ite (Option.map _), Option.map_none]

/-- A run of characters unlike this one, and whether there is any. -/
lemma run_append_cons {p : Char → Bool} (h : (!p sep) = true) (cs rest : List Char) :
    (cs ++ sep :: rest).head?.any p = cs.head?.any p ∧
      (cs ++ sep :: rest).dropWhile p = cs.dropWhile p ++ sep :: rest := by
  rw [Bool.not_eq_true'] at h
  constructor
  · cases cs with
    | nil => simpa using h
    | cons c cs => rfl
  · induction cs with
    | nil => simp [h]
    | cons c cs ih =>
      rw [List.cons_append, List.dropWhile_cons, List.dropWhile_cons, ih]
      split <;> rfl

lemma Piece.rest?_append_cons {piece : Piece} (h : piece.stopsAt sep = true)
    (cs rest : List Char) :
    piece.rest? (cs ++ sep :: rest) = (piece.rest? cs).map (· ++ sep :: rest) := by
  cases piece with
  | exactly expected => exact after?_append_cons (by simpa [stopsAt] using h) cs rest
  | gap =>
    obtain ⟨-, hrun⟩ := run_append_cons (p := isBlank) h cs rest
    exact congrArg some hrun
  | blanks =>
    obtain ⟨hany, hrun⟩ := run_append_cons (p := isBlank) h cs rest
    rw [Piece.rest?, Piece.rest?, hany, skipBlanks, hrun, apply_ite (Option.map _)]
    rfl
  | dotted =>
    obtain ⟨hany, hrun⟩ := run_append_cons (p := isDotted) h cs rest
    rw [Piece.rest?, Piece.rest?, hany, hrun, apply_ite (Option.map _)]
    rfl
  | wordEnd =>
    obtain ⟨hany, -⟩ := run_append_cons (p := isWord) h cs rest
    rw [Piece.rest?, Piece.rest?, hany, apply_ite (Option.map _)]
    rfl

lemma afterPieces?_append_cons {ps : List Piece} (h : ∀ piece ∈ ps, piece.stopsAt sep = true)
    (cs rest : List Char) :
    afterPieces? ps (cs ++ sep :: rest) = (afterPieces? ps cs).map (· ++ sep :: rest) := by
  induction ps generalizing cs with
  | nil => rfl
  | cons piece ps ih =>
    obtain ⟨hpiece, hps⟩ := List.forall_mem_cons.1 h
    rw [afterPieces?, afterPieces?, Piece.rest?_append_cons hpiece, Option.bind_map,
      Option.map_bind]
    exact Option.bind_congr fun mid _ => ih hps mid

namespace Phrase
variable {phrase : Phrase}

/-- What stands from the character on does not matter to the phrase. -/
lemma standsAt_append_cons (h : phrase.cutBy sep = true) (before : Option Char)
    (cs rest : List Char) :
    phrase.standsAt ⟨before, cs ++ sep :: rest⟩ = phrase.standsAt ⟨before, cs⟩ := by
  simp only [cutBy, Bool.and_eq_true, List.all_eq_true] at h
  rw [standsAt, standsAt, rest?, rest?, Spot.startsWord, Spot.startsWord,
    afterPieces?_append_cons h.2]
  split
  · rfl
  · exact Option.isSome_map

lemma standsAt_nil (h : phrase.cutBy sep = true) (before : Option Char) :
    phrase.standsAt ⟨before, []⟩ = false := by
  simp only [cutBy, Bool.and_eq_true, Option.isNone_iff_eq_none] at h
  rw [standsAt, rest?, h.1.2, ite_self, Option.isSome_none]

lemma countAfter_append_cons (h : phrase.cutBy sep = true) (before : Option Char)
    (a b : List Char) :
    phrase.countAfter before (a ++ sep :: b) = phrase.countAfter before a + phrase.countIn b := by
  induction a generalizing before with
  | nil =>
    have hword : isWord sep = false := by
      simp only [cutBy, Bool.and_eq_true, Bool.not_eq_true'] at h
      exact h.1.1
    have hsep := standsAt_append_cons h before [] b
    rw [List.nil_append, standsAt_nil h] at hsep
    -- behind the character a word may begin, as at the start of the text
    have hstart : phrase.countAfter (some sep) b = phrase.countAfter none b :=
      phrase.countAfter_congr (by simpa using hword) b
    rw [List.nil_append, countAfter_cons, hsep, hstart]
    exact Nat.add_comm _ _
  | cons c a ih =>
    have hstands := standsAt_append_cons h before (c :: a) b
    rw [List.cons_append] at hstands ⊢
    rw [countAfter_cons, countAfter_cons, hstands, ih, Nat.add_right_comm]

/-- The phrase stands in the one part or in the other, and nowhere across. -/
theorem countIn_append_cons (h : phrase.cutBy sep = true) (a b : List Char) :
    phrase.countIn (a ++ sep :: b) = phrase.countIn a + phrase.countIn b :=
  countAfter_append_cons h none a b

theorem occursIn_append_cons (h : phrase.cutBy sep = true) (a b : List Char) :
    phrase.occursIn (a ++ sep :: b) = (phrase.occursIn a || phrase.occursIn b) := by
  rw [Bool.eq_iff_iff, Bool.or_eq_true, occursIn_iff_countIn_pos, occursIn_iff_countIn_pos,
    occursIn_iff_countIn_pos, countIn_append_cons h]
  omega

end Phrase

end CodeGrowth.Text

namespace CodeGrowth.Language
open Text

lemma Signal.firesIn_append_cons {signal : Signal} {sep : Char}
    (h : ∀ phrase ∈ signal.phrases, phrase.cutBy sep = true) (a b : List Char) :
    signal.firesIn (a ++ sep :: b) = (signal.firesIn a || signal.firesIn b) := by
  rw [firesIn, firesIn, firesIn, Bool.eq_iff_iff, Bool.or_eq_true, List.any_eq_true,
    List.any_eq_true, List.any_eq_true, ← exists_or]
  refine exists_congr fun phrase => ?_
  rw [← and_or_left]
  refine and_congr_right fun hphrase => ?_
  rw [Phrase.occursIn_append_cons (h phrase hphrase), Bool.or_eq_true]

/-- No idiom holds a closing brace, and none can run across one. -/
lemma cutBy_brace : ∀ signal ∈ cSignals ++ javaSignals, ∀ phrase ∈ signal.phrases,
    phrase.cutBy '}' = true := by decide +kernel

lemma firesIn_brace {signal : Signal} (h : signal ∈ cSignals ++ javaSignals) (a b : List Char) :
    signal.firesIn (a ++ '}' :: b) = (signal.firesIn a || signal.firesIn b) :=
  Signal.firesIn_append_cons (cutBy_brace signal h) a b

/-- The weights of the signals that fire in the one text or the other, each signal taken once. -/
def jointScore (signals : List Signal) (a b : List Char) : Nat :=
  (signals.filter fun signal => signal.firesIn a || signal.firesIn b).foldr
    (fun signal sum => signal.weight + sum) 0

lemma jointScore_comm (signals : List Signal) (a b : List Char) :
    jointScore signals a b = jointScore signals b a := by
  simp only [jointScore, Bool.or_comm]

lemma score_brace {signals : List Signal} (h : signals ⊆ cSignals ++ javaSignals)
    (a b : List Char) : score signals (a ++ '}' :: b) = jointScore signals a b := by
  have hfilter : (signals.filter fun signal => signal.firesIn (a ++ '}' :: b)) =
      signals.filter fun signal => signal.firesIn a || signal.firesIn b :=
    List.filter_congr fun signal hsignal => firesIn_brace (h hsignal) a b
  rw [score, hfilter, jointScore]

lemma contains_append_brace {c : Char} (hc : c ≠ '}') (a b : List Char) :
    (a ++ '}' :: b).contains c = (a.contains c || b.contains c) := by
  simp [hc]

lemma classify_brace_eq (a b : List Char) : classify (a ++ '}' :: b) =
    ⟨labelFor (jointScore cSignals a b) (jointScore javaSignals a b)
        ((a.contains ';' || b.contains ';') || (a.contains '{' || b.contains '{')),
      jointScore cSignals a b, jointScore javaSignals a b⟩ := by
  rw [classify, score_brace (List.subset_append_left _ _),
    score_brace (List.subset_append_right _ _), contains_append_brace (by decide),
    contains_append_brace (by decide)]

/-- A brace between two texts keeps their idioms apart, so that the scores are those of the idioms
of both, in either order. -/
theorem classify_brace (a b : List Char) :
    (∀ signal ∈ cSignals ++ javaSignals,
        signal.firesIn (a ++ '}' :: b) = true ↔
          signal.firesIn a = true ∨ signal.firesIn b = true) ∧
      (classify (a ++ '}' :: b)).scoreC = jointScore cSignals a b ∧
      (classify (a ++ '}' :: b)).scoreJava = jointScore javaSignals a b ∧
      classify (a ++ '}' :: b) = classify (b ++ '}' :: a) := by
  refine ⟨?_, ?_, ?_, ?_⟩
  · intro signal hsignal
    rw [firesIn_brace hsignal, Bool.or_eq_true]
  · rw [classify_brace_eq]
  · rw [classify_brace_eq]
  · rw [classify_brace_eq, classify_brace_eq, jointScore_comm cSignals a b,
      jointScore_comm javaSignals a b, Bool.or_comm (a.contains ';'), Bool.or_comm (a.contains '{')]

/-- A text that breaks off within an idiom of the C family. -/
def halved : List Char := "import java.util.List; using namespace".toList

/-- The other half of it, and an idiom of Java that the first text shows too. -/
def halfIdiom : List Char := "std; printf (x); import java.io.File;".toList

theorem classify_brace_halved :
    javaSignals.getLast (by decide) ∈ cSignals ++ javaSignals ∧
      cSignals.getLast (by decide) ∈ cSignals ++ javaSignals ∧
      (javaSignals.getLast (by decide)).firesIn (halved ++ '}' :: halfIdiom) = true ∧
      ¬ (cSignals.getLast (by decide)).firesIn (halved ++ '}' :: halfIdiom) = true ∧
      (cSignals.getLast (by decide)).firesIn (halved ++ ' ' :: halfIdiom) = true ∧
      (classify (halved ++ '}' :: halfIdiom)).scoreC = 1 ∧
      (classify (halved ++ '}' :: halfIdiom)).scoreJava = 2 ∧
      classify (halved ++ '}' :: halfIdiom) = classify (halfIdiom ++ '}' :: halved) := by
  obtain ⟨hfires, hscoreC, hscoreJava, horder⟩ := classify_brace halved halfIdiom
  have hjava : javaSignals.getLast (by decide) ∈ cSignals ++ javaSignals :=
    List.mem_append_right _ (List.getLast_mem _)
  have hc : cSignals.getLast (by decide) ∈ cSignals ++ javaSignals :=
    List.mem_append_left _ (List.getLast_mem _)
  refine ⟨hjava, hc, (hfires _ hjava).2 (.inl (by decide +kernel)), ?_, by decide +kernel,
    hscoreC.trans (by decide +kernel), hscoreJava.trans (by decide +kernel), horder⟩
  exact (hfires _ hc).not.2 (by decide +kernel)

end CodeGrowth.Language
