import CodeGrowth.Proofs.PrintedJson
import Mathlib.Data.List.Chain

/-!
# Lexemes

A token is taken off a text with its own characters, and what stands behind them does not matter,
unless the token is a number that would go on there. A text that has tokens therefore consists of
their characters, its lexemes, and white space. Any other white space around the same lexemes gives
the same tokens, so long as no two numbers stand next to each other.
-/
namespace CodeGrowth.Json
variable {cs rest more : List Char}

/-- A string is taken off a text with its own characters. -/
lemma exists_stringUnits {units : List StringUnit} (h : stringUnits? cs = some (units, rest)) :
    ∃ taken, cs = taken ++ rest ∧
      ∀ more, stringUnits? (taken ++ more) = some (units, more) := by
  fun_induction stringUnits? cs generalizing units rest with
  | case1 => contradiction
  | case2 tail =>
    cases h
    exact ⟨['"'], rfl, fun _ => rfl⟩
  | case3 a b c d tail ih =>
    obtain ⟨n, hcode, hunits⟩ := Option.bind_eq_some_iff.1 h
    obtain ⟨⟨units', rest'⟩, htail, heq⟩ := Option.map_eq_some_iff.1 hunits
    cases heq
    obtain ⟨taken, rfl, htaken⟩ := ih htail
    refine ⟨'\\' :: 'u' :: a :: b :: c :: d :: taken, rfl, fun more => ?_⟩
    simp only [List.cons_append, stringUnits?, hcode, htaken, Option.bind_some, Option.map_some]
  | case4 e tail hne ih =>
    obtain ⟨c, hescaped, hunits⟩ := Option.bind_eq_some_iff.1 h
    obtain ⟨⟨units', rest'⟩, htail, heq⟩ := Option.map_eq_some_iff.1 hunits
    cases heq
    obtain ⟨taken, rfl, htaken⟩ := ih htail
    have hu : e ≠ 'u' := by
      rintro rfl
      contradiction
    refine ⟨'\\' :: e :: taken, rfl, fun more => ?_⟩
    rw [List.cons_append, List.cons_append, stringUnits?, hescaped, htaken, Option.bind_some,
      Option.map_some]
    exact fun _ _ _ _ _ he => absurd he hu
  | case5 => contradiction
  | case6 c tail hquote hfour hletter hplain ih =>
    obtain ⟨⟨units', rest'⟩, htail, heq⟩ := Option.map_eq_some_iff.1 h
    cases heq
    obtain ⟨taken, rfl, htaken⟩ := ih htail
    have hslash : c ≠ '\\' := fun hc => hplain (.inl hc)
    refine ⟨c :: taken, rfl, fun more => ?_⟩
    rw [List.cons_append, stringUnits?, if_neg hplain, htaken, Option.map_some]
    · exact hquote
    · exact fun _ _ _ _ _ hc => absurd hc hslash
    · exact fun _ _ hc => absurd hc hslash

lemma isDigit_of_digits? {digits : List Char} (h : digits? cs = some (digits, rest)) :
    ∀ c ∈ digits, c.isDigit = true := by
  unfold digits? at h
  split at h
  · cases h
    exact fun c hc => List.mem_takeWhile_imp hc
  · contradiction

lemma digits?_more {digits : List Char} (h : digits? cs = some (digits, rest))
    (hmore : ∀ c ∈ more.head?, c.isDigit = false) :
    digits? (digits ++ more) = some (digits, more) :=
  digits?_of_forall (digits?_append h).2 (isDigit_of_digits? h) hmore

lemma wholePart?_more {whole : List Char} (h : wholePart? cs = some (whole, rest))
    (hmore : ∀ c ∈ more.head?, c.isDigit = false) :
    wholePart? (whole ++ more) = some (whole, more) := by
  unfold wholePart? at h
  split at h
  · cases h
    rfl
  · next hzero =>
    obtain ⟨rfl, hne⟩ := digits?_append h
    obtain ⟨c, digits, rfl⟩ := List.exists_cons_of_ne_nil hne
    rw [wholePart?]
    · exact digits?_more h hmore
    · intro tail heq
      exact hzero _ (by rw [List.cons_append, (List.cons.inj heq).1])

lemma fraction?_more {fraction : List Char} (h : fraction? cs = some (fraction, rest))
    (hmore : ∀ c ∈ more.head?, c.isDigit = false ∧ c ≠ '.') :
    fraction? (fraction ++ more) = some (fraction, more) ∧
      ∀ c ∈ (fraction ++ more).head?, c.isDigit = false := by
  unfold fraction? at h
  split at h
  · next tail =>
    obtain ⟨⟨digits, rest'⟩, hdigits, heq⟩ := Option.map_eq_some_iff.1 h
    cases heq
    refine ⟨?_, by simp⟩
    rw [List.cons_append, fraction?, digits?_more hdigits fun c hc => (hmore c hc).1]
    rfl
  · cases h
    refine ⟨?_, fun c hc => (hmore c hc).1⟩
    rw [List.nil_append, fraction?]
    rintro tail rfl
    exact (hmore '.' rfl).2 rfl

lemma isExponentMark_head {e : Char} (h : isExponentMark e = true) :
    e.isDigit = false ∧ e ≠ '.' := by
  simp only [isExponentMark, Bool.or_eq_true, beq_iff_eq] at h
  rcases h with rfl | rfl <;> decide

lemma isSign_of_isDigit {c : Char} (h : c.isDigit = true) : isSign c = false := by
  by_contra hne
  simp only [isSign, Bool.not_eq_false, Bool.or_eq_true, beq_iff_eq] at hne
  rcases hne with rfl | rfl <;> contradiction

lemma exponent?_more {exponent : List Char} (h : exponent? cs = some (exponent, rest))
    (hmore : EndsNumber more) :
    exponent? (exponent ++ more) = some (exponent, more) ∧
      ∀ c ∈ (exponent ++ more).head?, c.isDigit = false ∧ c ≠ '.' := by
  have hdigit : ∀ c ∈ more.head?, c.isDigit = false := fun c hc => (hmore.head hc).1
  have hnone : exponent? ([] ++ more) = some ([], more) ∧
      ∀ c ∈ ([] ++ more).head?, c.isDigit = false ∧ c ≠ '.' :=
    ⟨exponent?_of_endsNumber hmore, fun c hc => ⟨(hmore.head hc).1, (hmore.head hc).2.1⟩⟩
  unfold exponent? at h
  split at h
  · cases h
    exact hnone
  · split at h
    · next e _ hmark =>
      split at h
      · contradiction
      · next s tail =>
        split at h
        · next hsign =>
          obtain ⟨⟨digits, rest'⟩, hdigits, heq⟩ := Option.map_eq_some_iff.1 h
          cases heq
          refine ⟨?_, by simpa using isExponentMark_head hmark⟩
          rw [List.cons_append, List.cons_append, exponent?, if_pos hmark]
          simp only [hsign, if_true, digits?_more hdigits hdigit, Option.map_some]
        · obtain ⟨⟨digits, rest'⟩, hdigits, heq⟩ := Option.map_eq_some_iff.1 h
          cases heq
          refine ⟨?_, by simpa using isExponentMark_head hmark⟩
          obtain ⟨d, digits, rfl⟩ := List.exists_cons_of_ne_nil (digits?_append hdigits).2
          have hd : isSign d = false := isSign_of_isDigit (isDigit_of_digits? hdigits d (by simp))
          have hmoreDigits := digits?_more hdigits hdigit
          rw [List.cons_append] at hmoreDigits
          rw [List.cons_append, List.cons_append, exponent?, if_pos hmark]
          simp only [hd, Bool.false_eq_true, if_false, hmoreDigits, Option.map_some]
    · cases h
      exact hnone

lemma unsigned?_more {literal : List Char} (h : unsigned? cs = some (literal, rest))
    (hmore : EndsNumber more) : unsigned? (literal ++ more) = some (literal, more) := by
  simp only [unsigned?, bind, Option.bind_eq_some_iff] at h
  obtain ⟨⟨whole, afterWhole⟩, hwhole, ⟨fraction, afterFraction⟩, hfraction,
    ⟨exponent, afterExponent⟩, hexponent, heq⟩ := h
  cases heq
  obtain ⟨hexponent, hhead⟩ := exponent?_more hexponent hmore
  obtain ⟨hfraction, hhead⟩ := fraction?_more hfraction hhead
  have hwhole := wholePart?_more hwhole hhead
  rw [List.append_assoc, List.append_assoc, unsigned?, hwhole]
  simp only [bind, pure, Option.bind_some, hfraction, hexponent, List.append_assoc]

lemma number?_more {literal : List Char} (h : number? cs = some (literal, rest))
    (hmore : EndsNumber more) : number? (literal ++ more) = some (literal, more) := by
  unfold number? at h
  split at h
  · obtain ⟨⟨literal, rest'⟩, hunsigned, heq⟩ := Option.map_eq_some_iff.1 h
    cases heq
    rw [List.cons_append, number?, unsigned?_more hunsigned hmore]
    rfl
  · next hsign =>
    have hunsigned := unsigned?_more h hmore
    obtain ⟨rfl, hne⟩ := unsigned?_append h
    obtain ⟨c, literal, rfl⟩ := List.exists_cons_of_ne_nil hne
    rw [List.cons_append, number?]
    · exact hunsigned
    · intro tail heq
      exact hsign _ (by rw [List.cons_append, (List.cons.inj heq).1])

lemma number?_head {literal : List Char} (h : number? cs = some (literal, rest)) :
    ∃ c tail, literal = c :: tail ∧ (c = '-' ∨ c.isDigit = true) := by
  unfold number? at h
  split at h
  · obtain ⟨⟨literal, rest'⟩, hunsigned, heq⟩ := Option.map_eq_some_iff.1 h
    cases heq
    exact ⟨'-', literal, rfl, .inl rfl⟩
  · simp only [unsigned?, bind, Option.bind_eq_some_iff] at h
    obtain ⟨⟨whole, afterWhole⟩, hwhole, ⟨fraction, afterFraction⟩, -, ⟨exponent, afterExponent⟩,
      -, heq⟩ := h
    cases heq
    obtain ⟨c, whole, rfl⟩ := List.exists_cons_of_ne_nil (wholePart?_append hwhole).2
    refine ⟨c, _, rfl, .inr ?_⟩
    unfold wholePart? at hwhole
    split at hwhole
    · cases hwhole
      decide
    · exact isDigit_of_digits? hwhole c (by simp)

def Token.isNumber : Token → Bool
  | .number _ => true
  | _ => false

lemma Token.isNumber_iff {token : Token} :
    token.isNumber = true ↔ ∃ literal, token = .number literal := by
  cases token <;> simp [Token.isNumber]

/-- A token is taken off a text with its own characters, whatever stands behind them, so long as a
number does not go on there. -/
lemma exists_token {token : Token} (h : token? cs = some (token, rest)) :
    ∃ taken, cs = taken ++ rest ∧
      ∀ more, (token.isNumber = true → EndsNumber more) →
        token? (taken ++ more) = some (token, more) := by
  unfold token? at h
  split at h
  case h_10 tail =>
    obtain ⟨⟨units, rest'⟩, hunits, heq⟩ := Option.map_eq_some_iff.1 h
    cases heq
    obtain ⟨taken, rfl, htaken⟩ := exists_stringUnits hunits
    refine ⟨'"' :: taken, rfl, fun more _ => ?_⟩
    rw [List.cons_append, token?_quote, htaken, Option.map_some]
  case h_11 =>
    obtain ⟨⟨literal, rest'⟩, hnumber, heq⟩ := Option.map_eq_some_iff.1 h
    cases heq
    refine ⟨literal, (number?_append hnumber).1, fun more hmore => ?_⟩
    have hliteral := number?_more hnumber (hmore rfl)
    obtain ⟨c, tail, rfl, hc⟩ := number?_head hnumber
    rw [List.cons_append] at hliteral ⊢
    rw [token?_number hc, hliteral, Option.map_some]
  case h_7 | h_8 =>
    cases h
    exact ⟨[_, _, _, _], rfl, fun _ _ => rfl⟩
  case h_9 =>
    cases h
    exact ⟨[_, _, _, _, _], rfl, fun _ _ => rfl⟩
  all_goals
    cases h
    exact ⟨[_], rfl, fun _ _ => rfl⟩

/-- No token starts with white space. -/
lemma token?_space {c : Char} (h : isSpace c = true) (cs : List Char) :
    token? (c :: cs) = none := by
  simp only [isSpace, Bool.or_eq_true, beq_iff_eq] at h
  rcases h with ((rfl | rfl) | rfl) | rfl <;> rfl

/-- A token that starts with a character with which a number goes on is one. -/
lemma isNumber_of_token? {c : Char} (hc : continuesNumber c = true) {token : Token}
    (h : token? (c :: cs) = some (token, rest)) : token.isNumber = true := by
  by_cases hdigit : c.isDigit = true
  · rw [token?_number (.inr hdigit)] at h
    obtain ⟨⟨literal, rest'⟩, -, heq⟩ := Option.map_eq_some_iff.1 h
    cases heq
    rfl
  · simp only [continuesNumber, isExponentMark, hdigit, Bool.false_or, Bool.or_eq_true,
      beq_iff_eq] at hc
    rcases hc with rfl | rfl | rfl <;> contradiction

/-- The characters of one token. -/
structure Lexeme where
  text : List Char
  token : Token
  reads : token? text = some (token, [])

/-- A text of these tokens, with any white space around them. -/
inductive Spaced : List Lexeme → List Char → Prop
  | nil : Spaced [] []
  | space {c : Char} {lexemes : List Lexeme} {text : List Char} (hspace : isSpace c = true)
      (h : Spaced lexemes text) : Spaced lexemes (c :: text)
  | lexeme (lexeme : Lexeme) {lexemes : List Lexeme} {text : List Char}
      (h : Spaced lexemes text) : Spaced (lexeme :: lexemes) (lexeme.text ++ text)

/-- No two numbers stand next to each other. They could be read as one. -/
def Apart (tokens : List Token) : Prop :=
  tokens.IsChain fun token next => token.isNumber = true → next.isNumber = false

namespace Lexeme

lemma token?_append (lexeme : Lexeme)
    (hmore : lexeme.token.isNumber = true → EndsNumber more) :
    token? (lexeme.text ++ more) = some (lexeme.token, more) := by
  obtain ⟨taken, htext, htaken⟩ := exists_token lexeme.reads
  rw [List.append_nil] at htext
  rw [htext, htaken more hmore]

lemma exists_of_token? {token : Token} (h : token? cs = some (token, rest)) :
    ∃ lexeme : Lexeme, lexeme.token = token ∧ cs = lexeme.text ++ rest := by
  obtain ⟨taken, hcs, htaken⟩ := exists_token h
  have hreads := htaken [] fun _ => endsNumber_nil
  rw [List.append_nil] at hreads
  exact ⟨⟨taken, token, hreads⟩, rfl, hcs⟩

/-- It starts with no white space. -/
lemma exists_cons (lexeme : Lexeme) : ∃ c tail, lexeme.text = c :: tail ∧ isSpace c = false := by
  have hreads := lexeme.reads
  obtain ⟨c, tail, htext⟩ : ∃ c tail, lexeme.text = c :: tail := by
    refine List.exists_cons_of_ne_nil fun hnil => ?_
    rw [hnil] at hreads
    contradiction
  refine ⟨c, tail, htext, ?_⟩
  by_contra hspace
  rw [htext, token?_space (by simpa using hspace)] at hreads
  contradiction

/-- Only a number starts with a character with which a number goes on. -/
lemma endsNumber (lexeme : Lexeme) (h : lexeme.token.isNumber = false) (rest : List Char) :
    EndsNumber (lexeme.text ++ rest) := by
  obtain ⟨c, tail, htext, -⟩ := lexeme.exists_cons
  have hreads := lexeme.reads
  rw [htext] at hreads ⊢
  refine endsNumber_cons ?_ _
  by_contra hcontinues
  have hnumber := isNumber_of_token? (by simpa using hcontinues) hreads
  rw [h] at hnumber
  contradiction

end Lexeme

lemma Spaced.endsNumber {lexemes : List Lexeme} {text : List Char} (h : Spaced lexemes text)
    (hfirst : ∀ lexeme ∈ lexemes.head?, lexeme.token.isNumber = false) (hrest : EndsNumber rest) :
    EndsNumber (text ++ rest) := by
  cases h with
  | nil => exact hrest
  | space hspace _ => exact endsNumber_cons (continuesNumber_of_isSpace hspace) _
  | lexeme lexeme _ =>
    rw [List.append_assoc]
    exact lexeme.endsNumber (hfirst lexeme rfl) _

/-- White space does not matter. -/
theorem readsAs_of_spaced {lexemes : List Lexeme} {text : List Char} (h : Spaced lexemes text)
    (hapart : Apart (lexemes.map Lexeme.token)) : ReadsAs text (lexemes.map Lexeme.token) := by
  intro rest hrest
  induction h with
  | nil => simp
  | space hspace _ ih => rw [List.cons_append, tokens?_space hspace, ih hapart]
  | @lexeme first lexemes text hspaced ih =>
    obtain ⟨hfirst, hothers⟩ := List.isChain_cons.1 hapart
    obtain ⟨c, tail, htext, hspace⟩ := first.exists_cons
    have htoken : token? (first.text ++ (text ++ rest)) = some (first.token, text ++ rest) := by
      refine first.token?_append fun hnumber => hspaced.endsNumber (fun next hnext => ?_) hrest
      exact hfirst next.token (by simpa using ⟨next, hnext, rfl⟩) hnumber
    rw [List.append_assoc, tokens?_token (by simp [htext, hspace]) htoken, ih hothers,
      Option.map_map]
    rfl

/-- Every text that has tokens consists of their characters and white space. -/
theorem exists_spaced {text : List Char} {tokens : List Token} (h : tokens? text = some tokens) :
    ∃ lexemes, Spaced lexemes text ∧ lexemes.map Lexeme.token = tokens := by
  fun_induction tokens? text generalizing tokens with
  | case1 =>
    cases h
    exact ⟨[], .nil, rfl⟩
  | case2 c rest hspace ih =>
    obtain ⟨lexemes, hspaced, htokens⟩ := ih h
    exact ⟨lexemes, .space hspace hspaced, htokens⟩
  | case3 => contradiction
  | case4 c cs hspace token rest htoken ih =>
    obtain ⟨tokens, hrest, rfl⟩ := Option.map_eq_some_iff.1 h
    obtain ⟨lexemes, hspaced, rfl⟩ := ih hrest
    obtain ⟨lexeme, rfl, htext⟩ := Lexeme.exists_of_token? htoken
    rw [htext]
    exact ⟨lexeme :: lexemes, .lexeme lexeme hspaced, rfl⟩

end CodeGrowth.Json
