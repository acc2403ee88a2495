import CodeGrowth.Loop
import CodeGrowth.Proofs.WhiteSpace

/-!
# Where loop headers stand

A loop header stands at a spot if a whole word begins there, the word is the keyword, and the
bracket is the first character after it that is no white space. So a count of headers can be taken
word by word: any other character adds nothing, and neither does a stretch that does not hold the
keyword as a whole word, provided no word runs across its end.
-/
namespace CodeGrowth.Text

section Words
variable {cs rest word : List Char}

/-- The next character, if there is one, does not belong to a word. -/
def EndsWord (rest : List Char) : Prop := rest.head?.any isWord = false

lemma endsWord_cons {c : Char} {cs : List Char} : EndsWord (c :: cs) ↔ isWord c = false := by
  simp [EndsWord]

lemma endsWord_allBlank_append {g : List Char} (hg : AllBlank g) (h : EndsWord rest) :
    EndsWord (g ++ rest) := by
  cases g with
  | nil => exact h
  | cons c g => exact endsWord_cons.2 (isWord_of_isBlank (allBlank_cons.1 hg).1)

/-- White space may come before the character. -/
lemma endsWord_of_skipBlanks (h : EndsWord (skipBlanks cs)) : EndsWord cs := by
  obtain ⟨g, hg, hcs⟩ := exists_append_skipBlanks cs
  rw [hcs]
  exact endsWord_allBlank_append hg h

lemma leadingWord_append (h : EndsWord rest) (cs : List Char) :
    leadingWord (cs ++ rest) = leadingWord cs := by
  induction cs with
  | nil =>
    cases rest with
    | nil => rfl
    | cons c rest => simp [leadingWord, endsWord_cons.1 h]
  | cons c cs ih =>
    have hcons : ∀ ds, leadingWord (c :: ds) = if isWord c then c :: leadingWord ds else [] :=
      fun _ => List.takeWhile_cons
    rw [List.cons_append, hcons, hcons, ih]

lemma leadingWord_word_append (hword : ∀ c ∈ word, isWord c = true) (h : EndsWord rest) :
    leadingWord (word ++ rest) = word := by
  rw [leadingWord_append h, leadingWord, List.takeWhile_eq_self_iff]
  exact hword

lemma afterWord_word_append (hword : ∀ c ∈ word, isWord c = true) (h : EndsWord rest) :
    afterWord (word ++ rest) = rest := by
  have hsplit := leadingWord_append_afterWord (word ++ rest)
  rw [leadingWord_word_append hword h] at hsplit
  exact List.append_cancel_left hsplit

lemma endsWord_afterWord (cs : List Char) : EndsWord (afterWord cs) := by
  have hhead := List.head?_dropWhile_not isWord cs
  rw [EndsWord, afterWord]
  cases h : cs.dropWhile isWord with
  | nil => rfl
  | cons c rest =>
    rw [h] at hhead
    exact hhead

end Words

namespace Phrase

/-- The number of spots where the phrase stands in a text that follows a character. -/
def countAfter (phrase : Phrase) (before : Option Char) (text : List Char) : Nat :=
  (spotsAfter before text).countP phrase.standsAt

lemma countIn_eq (phrase : Phrase) (text : List Char) :
    phrase.countIn text = phrase.countAfter none text := rfl

lemma countAfter_cons (phrase : Phrase) (before : Option Char) (c : Char) (cs : List Char) :
    phrase.countAfter before (c :: cs) =
      phrase.countAfter (some c) cs + if phrase.standsAt ⟨before, c :: cs⟩ then 1 else 0 := by
  rw [countAfter, spotsAfter, List.countP_cons, countAfter]

/-- Of the character before a text it only matters whether it belongs to a word. -/
lemma countAfter_congr (phrase : Phrase) {before before' : Option Char}
    (h : before.any isWord = before'.any isWord) (cs : List Char) :
    phrase.countAfter before cs = phrase.countAfter before' cs := by
  cases cs with
  | nil => rfl
  | cons c cs =>
    rw [countAfter_cons, countAfter_cons, standsAt, standsAt, rest?, rest?, Spot.startsWord,
      Spot.startsWord, h]

/-- The number of matches of a search that goes on behind each match. The next `skip` characters
belong to the last one. -/
def searchFrom (phrase : Phrase) (skip : Nat) (before : Option Char) : List Char → Nat
  | [] => 0
  | c :: cs =>
    match skip with
    | skip + 1 => phrase.searchFrom skip (some c) cs
    | 0 =>
      match phrase.rest? ⟨before, c :: cs⟩ with
      | some rest => phrase.searchFrom (cs.length - rest.length) (some c) cs + 1
      | none => phrase.searchFrom 0 (some c) cs

lemma searchFrom_append_cons (phrase : Phrase) (before : Option Char) (word : List Char)
    (last : Char) (rest : List Char) :
    phrase.searchFrom (word.length + 1) before (word ++ last :: rest) =
      phrase.searchFrom 0 (some last) rest := by
  induction word generalizing before with
  | nil => rfl
  | cons c word ih => exact ih (some c)

end Phrase

/-- A word of its own. -/
def wholeWord (word : List Char) : Phrase := ⟨true, [.exactly word, .wordEnd]⟩

section WholeWord
variable {word cs rest : List Char} {before : Option Char}

lemma rest?_wholeWord_eq_some_iff :
    (wholeWord word).rest? ⟨before, cs⟩ = some rest ↔
      before.any isWord = false ∧ cs = word ++ rest ∧ EndsWord rest := by
  simp [Phrase.rest?, wholeWord, afterPieces?, Piece.rest?, Spot.startsWord, after?_eq_some_iff,
    Option.bind_eq_some_iff, EndsWord]

lemma standsAt_wholeWord_iff (hword : ∀ c ∈ word, isWord c = true) :
    (wholeWord word).standsAt ⟨before, cs⟩ = true ↔
      before.any isWord = false ∧ leadingWord cs = word := by
  rw [Phrase.standsAt, Option.isSome_iff_exists]
  constructor
  · rintro ⟨rest, hrest⟩
    obtain ⟨hbefore, rfl, hend⟩ := rest?_wholeWord_eq_some_iff.1 hrest
    exact ⟨hbefore, leadingWord_word_append hword hend⟩
  · rintro ⟨hbefore, rfl⟩
    refine ⟨afterWord cs, rest?_wholeWord_eq_some_iff.2 ⟨hbefore, ?_, endsWord_afterWord cs⟩⟩
    exact (leadingWord_append_afterWord cs).symm

/-- Inside a word no word begins. -/
lemma countAfter_wholeWord_of_isWord (hword : ∀ c ∈ word, isWord c = true) {c : Char}
    (hc : isWord c = true) {tail : List Char} (htail : ∀ c ∈ tail, isWord c = true) :
    (wholeWord word).countAfter (some c) tail = 0 := by
  induction tail generalizing c with
  | nil => rfl
  | cons d tail ih =>
    obtain ⟨hd, htail⟩ := List.forall_mem_cons.1 htail
    have hstands : (wholeWord word).standsAt ⟨some c, d :: tail⟩ = false := by
      by_contra hstands
      obtain ⟨hbefore, -⟩ := (standsAt_wholeWord_iff hword).1 (by simpa using hstands)
      rw [Option.any_some, hc] at hbefore
      contradiction
    rw [Phrase.countAfter_cons, hstands, ih hd htail]
    rfl

end WholeWord

/-- A keyword and the bracket that goes with it. -/
structure Header where
  keyword : List Char
  bracket : Char
  isWord_keyword : ∀ c ∈ keyword, isWord c = true
  keyword_ne_nil : keyword ≠ []
  isWord_bracket : isWord bracket = false
  isBlank_bracket : isBlank bracket = false

namespace Header
variable (header : Header) {cs rest : List Char} {before : Option Char}

/-- The keyword, any white space and the bracket. -/
def phrase : Phrase :=
  ⟨true, [.exactly header.keyword, .gap, .exactly [header.bracket]]⟩

lemma rest?_phrase_eq_some_iff :
    header.phrase.rest? ⟨before, cs⟩ = some rest ↔
      before.any isWord = false ∧
        ∃ after, cs = header.keyword ++ after ∧ skipBlanks after = header.bracket :: rest := by
  simp [Phrase.rest?, phrase, afterPieces?, Piece.rest?, Spot.startsWord, after?_eq_some_iff,
    Option.bind_eq_some_iff]

/-- The bracket ends the keyword, at once or behind white space. -/
lemma standsAt_phrase_iff :
    header.phrase.standsAt ⟨before, cs⟩ = true ↔
      before.any isWord = false ∧ leadingWord cs = header.keyword ∧
        (skipBlanks (afterWord cs)).head? = some header.bracket := by
  have hword := header.isWord_keyword
  rw [Phrase.standsAt, Option.isSome_iff_exists]
  constructor
  · rintro ⟨rest, hrest⟩
    obtain ⟨hbefore, after, rfl, hskip⟩ := header.rest?_phrase_eq_some_iff.1 hrest
    have hend : EndsWord after := by
      apply endsWord_of_skipBlanks
      rw [hskip]
      exact endsWord_cons.2 header.isWord_bracket
    refine ⟨hbefore, leadingWord_word_append hword hend, ?_⟩
    rw [afterWord_word_append hword hend, hskip, List.head?_cons]
  · rintro ⟨hbefore, hlead, hhead⟩
    obtain ⟨rest, hskip⟩ := List.head?_eq_some_iff.1 hhead
    refine ⟨rest, header.rest?_phrase_eq_some_iff.2 ⟨hbefore, afterWord cs, ?_, hskip⟩⟩
    rw [← hlead, leadingWord_append_afterWord]

/-- A character outside words adds nothing. -/
lemma countAfter_cons {c : Char} (hc : isWord c = false) (before : Option Char)
    (cs : List Char) : header.phrase.countAfter before (c :: cs) = header.phrase.countIn cs := by
  have hstands : header.phrase.standsAt ⟨before, c :: cs⟩ = false := by
    by_contra hstands
    obtain ⟨-, hlead, -⟩ := header.standsAt_phrase_iff.1 (by simpa using hstands)
    simp only [leadingWord, List.takeWhile_cons, hc] at hlead
    exact header.keyword_ne_nil hlead.symm
  rw [Phrase.countAfter_cons, hstands, Phrase.countIn_eq]
  exact Phrase.countAfter_congr _ (by simpa using hc) cs

/-- At the end of a word it does not matter what the word was. -/
lemma countAfter_of_endsWord (h : EndsWord rest) (before : Option Char) :
    header.phrase.countAfter before rest = header.phrase.countIn rest := by
  cases rest with
  | nil => rfl
  | cons c rest =>
    have hc := endsWord_cons.1 h
    rw [Phrase.countIn_eq, header.countAfter_cons hc, header.countAfter_cons hc]

lemma countIn_allBlank_append {g : List Char} (hg : AllBlank g) (cs : List Char) :
    header.phrase.countIn (g ++ cs) = header.phrase.countIn cs := by
  induction g with
  | nil => rfl
  | cons c g ih =>
    obtain ⟨hc, hg⟩ := allBlank_cons.1 hg
    rw [Phrase.countIn_eq, List.cons_append, header.countAfter_cons (isWord_of_isBlank hc), ih hg]

/-- A stretch without the keyword adds nothing, if no word runs across its end. -/
lemma countAfter_append (hrest : EndsWord rest)
    (h : (wholeWord header.keyword).countAfter before cs = 0) :
    header.phrase.countAfter before (cs ++ rest) = header.phrase.countIn rest := by
  induction cs generalizing before with
  | nil => exact header.countAfter_of_endsWord hrest before
  | cons c cs ih =>
    rw [Phrase.countAfter_cons] at h
    have hstands : header.phrase.standsAt ⟨before, c :: (cs ++ rest)⟩ = false := by
      by_contra hstands
      obtain ⟨hbefore, hlead, -⟩ := header.standsAt_phrase_iff.1 (by simpa using hstands)
      rw [← List.cons_append, leadingWord_append hrest] at hlead
      have hwhole := (standsAt_wholeWord_iff header.isWord_keyword).2 ⟨hbefore, hlead⟩
      rw [if_pos hwhole] at h
      omega
    rw [List.cons_append, Phrase.countAfter_cons, hstands, ih (by omega)]
    rfl

/-- A word is a header if it is the keyword and the bracket comes next. -/
lemma countIn_word_append {word : List Char} (hword : ∀ c ∈ word, isWord c = true)
    (hne : word ≠ []) (hrest : EndsWord rest) :
    header.phrase.countIn (word ++ rest) = header.phrase.countIn rest +
      if word = header.keyword ∧ (skipBlanks rest).head? = some header.bracket then 1 else 0 := by
  have hstands : header.phrase.standsAt ⟨none, word ++ rest⟩ = true ↔
      word = header.keyword ∧ (skipBlanks rest).head? = some header.bracket := by
    rw [header.standsAt_phrase_iff, leadingWord_word_append hword hrest,
      afterWord_word_append hword hrest]
    simp
  obtain ⟨c, tail, rfl⟩ := List.exists_cons_of_ne_nil hne
  obtain ⟨hc, htail⟩ := List.forall_mem_cons.1 hword
  have hinside : (wholeWord header.keyword).countAfter (some c) tail = 0 :=
    countAfter_wholeWord_of_isWord header.isWord_keyword hc htail
  rw [List.cons_append] at hstands ⊢
  rw [Phrase.countIn_eq, Phrase.countAfter_cons, header.countAfter_append hrest hinside]
  simp only [hstands]

/-- A match is the keyword, some white space and the bracket. -/
lemma exists_of_rest? (h : header.phrase.rest? ⟨before, cs⟩ = some rest) :
    ∃ g, AllBlank g ∧ cs = header.keyword ++ (g ++ header.bracket :: rest) := by
  obtain ⟨-, after, rfl, hskip⟩ := header.rest?_phrase_eq_some_iff.1 h
  obtain ⟨g, hg, hafter⟩ := exists_append_skipBlanks after
  refine ⟨g, hg, ?_⟩
  rw [← hskip, ← hafter]

/-- Nothing stands between the start of a match and the end of its bracket. -/
lemma countAfter_of_rest? (h : header.phrase.rest? ⟨before, cs⟩ = some rest) :
    header.phrase.countAfter before cs = header.phrase.countIn rest + 1 := by
  obtain ⟨hbefore, -⟩ := header.rest?_phrase_eq_some_iff.1 h
  obtain ⟨g, hg, rfl⟩ := header.exists_of_rest? h
  have hstart : header.phrase.countAfter before (header.keyword ++ (g ++ header.bracket :: rest)) =
      header.phrase.countIn (header.keyword ++ (g ++ header.bracket :: rest)) :=
    Phrase.countAfter_congr _ hbefore _
  have hend : EndsWord (g ++ header.bracket :: rest) :=
    endsWord_allBlank_append hg (endsWord_cons.2 header.isWord_bracket)
  have hskip : (skipBlanks (g ++ header.bracket :: rest)).head? = some header.bracket := by
    rw [skipBlanks_append_cons hg header.isBlank_bracket, List.head?_cons]
  rw [hstart, header.countIn_word_append header.isWord_keyword header.keyword_ne_nil hend,
    if_pos ⟨rfl, hskip⟩, header.countIn_allBlank_append hg, Phrase.countIn_eq,
    header.countAfter_cons header.isWord_bracket]

/-- Matches do not overlap, so a search that leaves each match behind finds all headers. -/
theorem searchFrom_eq_countAfter (before : Option Char) (cs : List Char) :
    header.phrase.searchFrom 0 before cs = header.phrase.countAfter before cs := by
  -- on the length, since a match is left behind as a whole
  induction hn : cs.length using Nat.strong_induction_on generalizing before cs with
  | _ n ih =>
    cases cs with
    | nil => rfl
    | cons c cs =>
      rw [List.length_cons] at hn
      rw [Phrase.searchFrom]
      cases hrest : header.phrase.rest? ⟨before, c :: cs⟩ with
      | none =>
        have hstands : header.phrase.standsAt ⟨before, c :: cs⟩ = false := by
          rw [Phrase.standsAt, hrest, Option.isSome_none]
        dsimp only
        rw [ih cs.length (by omega) _ _ rfl, Phrase.countAfter_cons, hstands]
        rfl
      | some rest =>
        obtain ⟨g, -, hcs⟩ := header.exists_of_rest? hrest
        obtain ⟨k, keyword, hkeyword⟩ := List.exists_cons_of_ne_nil header.keyword_ne_nil
        rw [hkeyword, List.cons_append, List.cons.injEq, ← List.append_assoc] at hcs
        have hlen : cs.length - rest.length = (keyword ++ g).length + 1 := by
          rw [hcs.2, List.length_append, List.length_cons]
          omega
        have hlt : rest.length < n := by
          rw [hcs.2, List.length_append, List.length_cons] at hn
          omega
        dsimp only
        have hbefore : header.phrase.countAfter (some header.bracket) rest =
            header.phrase.countIn rest :=
          Phrase.countAfter_congr _ (by simp [header.isWord_bracket]) rest
        rw [header.countAfter_of_rest? hrest, hlen, hcs.2, Phrase.searchFrom_append_cons,
          ih _ hlt _ _ rfl, hbefore]

end Header

end CodeGrowth.Text

namespace CodeGrowth.Loop
open Text

def forHead : Header :=
  ⟨"for".toList, '(', List.all_eq_true.1 (by decide), by decide, by decide, by decide⟩

def whileHead : Header :=
  ⟨"while".toList, '(', List.all_eq_true.1 (by decide), by decide, by decide, by decide⟩

def doHead : Header :=
  ⟨"do".toList, '{', List.all_eq_true.1 (by decide), by decide, by decide, by decide⟩

/-- Loops are counted spot by spot, which is as good as a search from match to match. -/
theorem searchFrom_eq_countIn {phrase : Phrase} (h : phrase ∈ [forHeader, whileHeader, doHeader])
    (text : List Char) : phrase.searchFrom 0 none text = phrase.countIn text := by
  rw [List.mem_cons, List.mem_cons, List.mem_singleton] at h
  rcases h with rfl | rfl | rfl
  · exact forHead.searchFrom_eq_countAfter none text
  · exact whileHead.searchFrom_eq_countAfter none text
  · exact doHead.searchFrom_eq_countAfter none text

end CodeGrowth.Loop
