import CodeGrowth.Json
import CodeGrowth.Json.Read
import Mathlib.Data.List.Forall2
import Mathlib.Data.List.TakeWhile

/-!
# Printed documents can be read

A value is printed as the tokens it consists of, with white space between them. So a printed
document is read back in two steps: its characters give the tokens of the value, and the tokens
give the value.

The first step takes a value apart that is made of texts and whole numbers, as all records are. A
number ends where its last digit stands because a comma, a line feed or nothing follows it. The
second step holds of every value.
-/
namespace CodeGrowth.Json

/-- To show something of a value from its items and members. -/
@[elab_as_elim]
theorem value_induction {motive : Json → Prop} (null : motive null)
    (bool : ∀ value, motive (bool value)) (number : ∀ literal, motive (number literal))
    (string : ∀ text, motive (string text))
    (array : ∀ items, (∀ item ∈ items, motive item) → motive (array items))
    (object : ∀ members, (∀ m ∈ members, motive m.2) → motive (object members)) (value : Json) :
    motive value :=
  match value with
  | .null => null
  | .bool value => bool value
  | .number literal => number literal
  | .string text => string text
  | .array items => array items fun item _ =>
    value_induction null bool number string array object item
  | .object members => object members fun m _ =>
    value_induction null bool number string array object m.2
termination_by sizeOf value
decreasing_by
  · have := List.sizeOf_lt_of_mem ‹_ ∈ items›
    simp only [Json.array.sizeOf_spec]
    omega
  · have := List.sizeOf_lt_of_mem ‹_ ∈ members›
    have : sizeOf m.2 < sizeOf m := by
      obtain ⟨key, value⟩ := m
      simp only [Prod.mk.sizeOf_spec]
      omega
    simp only [Json.object.sizeOf_spec]
    omega

mutual

/-- The tokens that a value consists of. -/
def tokensOf : Json → List Token
  | null => [.null]
  | bool value => [.bool value]
  | number literal => [.number literal]
  | string text => [.string text]
  | array items => .openArray :: ([Token.comma].intercalate (itemTokens items) ++ [.closeArray])
  | object members =>
    .openObject :: ([Token.comma].intercalate (memberTokens members) ++ [.closeObject])

def itemTokens : List Json → List (List Token)
  | [] => []
  | value :: values => tokensOf value :: itemTokens values

def memberTokens : List (Option String × Json) → List (List Token)
  | [] => []
  | (key, value) :: members => (.string key :: .colon :: tokensOf value) :: memberTokens members

end

lemma itemTokens_eq (values : List Json) : itemTokens values = values.map tokensOf := by
  induction values with
  | nil => rfl
  | cons value values ih => rw [itemTokens, ih, List.map_cons]

lemma memberTokens_eq (members : List (Option String × Json)) :
    memberTokens members = members.map fun m => .string m.1 :: .colon :: tokensOf m.2 := by
  induction members with
  | nil => rfl
  | cons m members ih => rw [memberTokens, ih, List.map_cons]

lemma printItems_eq (depth : Nat) (values : List Json) :
    printItems depth values = values.map (printAt depth) := by
  induction values with
  | nil => rfl
  | cons value values ih => rw [printItems, ih, List.map_cons]

lemma printMembers_eq (depth : Nat) (members : List (Option String × Json)) :
    printMembers depth members =
      members.map fun m => quoted m.1 ++ [':', ' '] ++ printAt depth m.2 := by
  induction members with
  | nil => rfl
  | cons m members ih => rw [printMembers, ih, List.map_cons]

lemma hexValue?_hexDigit {n : Nat} (h : n < 16) : hexValue? (hexDigit n) = some n := by
  have hall : ∀ n < 16, hexValue? (hexDigit n) = some n := by decide
  exact hall n h

lemma codeUnit?_hexDigit {n : Nat} (h : n < 32) :
    codeUnit? '0' '0' (hexDigit (n / 16)) (hexDigit (n % 16)) = some n := by
  have hzero : hexValue? '0' = some 0 := by decide
  have hvalue : ((0 * 16 + 0) * 16 + n / 16) * 16 + n % 16 = n := by omega
  simp only [codeUnit?, hzero, hexValue?_hexDigit (show n / 16 < 16 by omega),
    hexValue?_hexDigit (show n % 16 < 16 by omega), bind, pure, Option.bind_some, hvalue]

/-- A code unit below the space is no surrogate and stands for itself. -/
lemma unitText?_code {n : Nat} (h : n < 32) (units : List StringUnit) :
    unitText? (.code n :: units) = (unitText? units).map (Char.ofNat n :: ·) := by
  have hhigh : isHighSurrogate n = false := by simp [isHighSurrogate]; omega
  have hlow : isLowSurrogate n = false := by simp [isLowSurrogate]; omega
  cases units with
  | nil => simp [unitText?, hhigh, hlow]
  | cons unit units => cases unit <;> simp [unitText?, hhigh, hlow]

/-- A printed character is read as one unit, which stands for it. -/
lemma exists_unit (c : Char) :
    ∃ unit, (∀ rest, stringUnits? (escape c ++ rest) =
        (stringUnits? rest).map fun (units, rest) => (unit :: units, rest)) ∧
      ∀ units, unitText? (unit :: units) = (unitText? units).map (c :: ·) := by
  unfold escape
  split_ifs with hquote hslash hfeed hreturn htab hback hform hlow
  · subst hquote
    exact ⟨.char '"', fun _ => rfl, fun _ => rfl⟩
  · subst hslash
    exact ⟨.char '\\', fun _ => rfl, fun _ => rfl⟩
  · subst hfeed
    exact ⟨.char '\n', fun _ => rfl, fun _ => rfl⟩
  · subst hreturn
    exact ⟨.char '\r', fun _ => rfl, fun _ => rfl⟩
  · subst htab
    exact ⟨.char '\t', fun _ => rfl, fun _ => rfl⟩
  · obtain rfl : Char.ofNat 8 = c := by rw [← hback, Char.ofNat_toNat]
    exact ⟨.char (Char.ofNat 8), fun _ => rfl, fun _ => rfl⟩
  · obtain rfl : Char.ofNat 12 = c := by rw [← hform, Char.ofNat_toNat]
    exact ⟨.char (Char.ofNat 12), fun _ => rfl, fun _ => rfl⟩
  · refine ⟨.code c.toNat, fun rest => ?_, fun units => ?_⟩
    · simp [stringUnits?, codeUnit?_hexDigit hlow]
    · rw [unitText?_code hlow, Char.ofNat_toNat]
  · refine ⟨.char c, fun rest => ?_, fun _ => rfl⟩
    rw [List.singleton_append, stringUnits?, if_neg (by simp [hslash, hlow])]
    · exact hquote
    · exact fun _ _ _ _ _ h => absurd h hslash
    · exact fun _ _ h => absurd h hslash

/-- A printed string ends at its closing quote and holds the text that was printed. -/
lemma exists_units (cs rest : List Char) :
    ∃ units, stringUnits? (cs.flatMap escape ++ '"' :: rest) = some (units, rest) ∧
      unitText? units = some cs := by
  induction cs with
  | nil => exact ⟨[], rfl, rfl⟩
  | cons c cs ih =>
    obtain ⟨units, hunits, htext⟩ := ih
    obtain ⟨unit, hunit, hchar⟩ := exists_unit c
    refine ⟨unit :: units, ?_, ?_⟩
    · rw [List.flatMap_cons, List.append_assoc, hunit, hunits, Option.map_some]
    · rw [hchar, htext, Option.map_some]

lemma token?_quote (cs : List Char) :
    token? ('"' :: cs) = (stringUnits? cs).map fun (units, rest) =>
      (.string ((unitText? units).map String.ofList), rest) := rfl

lemma quoted_append (text : String) (rest : List Char) :
    quoted (some text) ++ rest = '"' :: (text.toList.flatMap escape ++ '"' :: rest) := by
  change '"' :: (text.toList.flatMap escape ++ ['"'] ++ rest) = _
  rw [List.append_assoc, List.singleton_append]

lemma token?_quoted (text : String) (rest : List Char) :
    token? (quoted (some text) ++ rest) = some (.string (some text), rest) := by
  obtain ⟨units, hunits, htext⟩ := exists_units text.toList rest
  rw [quoted_append, token?_quote, hunits]
  simp only [Option.map_some, htext, String.ofList_toList]

/-- A character with which a number goes on. -/
def continuesNumber (c : Char) : Bool := c.isDigit || c == '.' || isExponentMark c

/-- A text that does not go on with the number in front of it. -/
def EndsNumber (rest : List Char) : Prop := ∀ c ∈ rest.head?, continuesNumber c = false

lemma endsNumber_nil : EndsNumber [] := by simp [EndsNumber]

lemma endsNumber_cons {c : Char} (h : continuesNumber c = false) (rest : List Char) :
    EndsNumber (c :: rest) := by simpa [EndsNumber] using h

lemma continuesNumber_of_isSpace {c : Char} (h : isSpace c = true) : continuesNumber c = false := by
  simp only [isSpace, Bool.or_eq_true, beq_iff_eq] at h
  rcases h with ((rfl | rfl) | rfl) | rfl <;> rfl

lemma EndsNumber.head {rest : List Char} (h : EndsNumber rest) {c : Char} (hc : c ∈ rest.head?) :
    c.isDigit = false ∧ c ≠ '.' ∧ isExponentMark c = false := by
  have hends := h c hc
  rw [continuesNumber, Bool.or_eq_false_iff, Bool.or_eq_false_iff, beq_eq_false_iff_ne] at hends
  exact ⟨hends.1.1, hends.1.2, hends.2⟩

/-- The first digit of a number with several is no zero. -/
lemma head?_toDigits {n : Nat} (h : 0 < n) : (Nat.toDigits 10 n).head? ≠ some '0' := by
  induction n using Nat.strong_induction_on with
  | _ n ih =>
    by_cases hlt : n < 10
    · have hall : ∀ n < 10, 0 < n → [n.digitChar].head? ≠ some '0' := by decide
      rw [Nat.toDigits_of_lt_base hlt]
      exact hall n hlt h
    · have hten : 10 ≤ n := Nat.le_of_not_lt hlt
      have hhead := ih (n / 10) (by omega) (by omega)
      rw [Nat.toDigits_of_base_le (by omega) hten,
        List.head?_append_of_ne_nil _ Nat.toDigits_ne_nil]
      exact hhead

lemma isDigit_of_mem_toDigits {n : Nat} {c : Char} (h : c ∈ Nat.toDigits 10 n) :
    c.isDigit = true := Nat.isDigit_of_mem_toDigits (by omega) (by omega) h

/-- Digits end where none follows. -/
lemma digits?_of_forall {digits rest : List Char} (hne : digits ≠ [])
    (hdigits : ∀ c ∈ digits, c.isDigit = true) (hrest : ∀ c ∈ rest.head?, c.isDigit = false) :
    digits? (digits ++ rest) = some (digits, rest) := by
  have hnone : rest.takeWhile Char.isDigit = [] ∧ rest.dropWhile Char.isDigit = rest := by
    cases rest with
    | nil => simp
    | cons c rest => simp [hrest c rfl]
  have hhead : (digits ++ rest).head?.any Char.isDigit = true := by
    obtain ⟨c, cs, rfl⟩ := List.exists_cons_of_ne_nil hne
    simpa using hdigits c (by simp)
  rw [digits?, if_pos hhead, List.takeWhile_append_of_pos hdigits, hnone.1, List.append_nil,
    List.dropWhile_append_of_pos hdigits, hnone.2]

lemma digits?_toDigits (n : Nat) {rest : List Char} (h : EndsNumber rest) :
    digits? (Nat.toDigits 10 n ++ rest) = some (Nat.toDigits 10 n, rest) :=
  digits?_of_forall Nat.toDigits_ne_nil (fun _ => isDigit_of_mem_toDigits)
    fun _ hc => (h.head hc).1

lemma wholePart?_toDigits (n : Nat) {rest : List Char} (h : EndsNumber rest) :
    wholePart? (Nat.toDigits 10 n ++ rest) = some (Nat.toDigits 10 n, rest) := by
  unfold wholePart?
  split
  · next tail heq =>
    rcases Nat.eq_zero_or_pos n with rfl | hpos
    · rw [Nat.toDigits_zero] at heq ⊢
      cases heq
      rfl
    · refine absurd ?_ (head?_toDigits hpos)
      rw [← List.head?_append_of_ne_nil _ Nat.toDigits_ne_nil, heq, List.head?_cons]
  · exact digits?_toDigits n h

lemma fraction?_of_endsNumber {rest : List Char} (h : EndsNumber rest) :
    fraction? rest = some ([], rest) := by
  cases rest with
  | nil => rfl
  | cons c rest =>
    have hpoint : c ≠ '.' := (h.head rfl).2.1
    simp [fraction?, hpoint]

lemma exponent?_of_endsNumber {rest : List Char} (h : EndsNumber rest) :
    exponent? rest = some ([], rest) := by
  cases rest with
  | nil => rfl
  | cons c rest =>
    have hmark : isExponentMark c = false := (h.head rfl).2.2
    simp [exponent?, hmark]

lemma unsigned?_toDigits (n : Nat) {rest : List Char} (h : EndsNumber rest) :
    unsigned? (Nat.toDigits 10 n ++ rest) = some (Nat.toDigits 10 n, rest) := by
  simp [unsigned?, wholePart?_toDigits n h, fraction?_of_endsNumber h, exponent?_of_endsNumber h]

/-- A sign or a digit starts no other token than a number. -/
lemma token?_number {c : Char} (h : c = '-' ∨ c.isDigit = true) (cs : List Char) :
    token? (c :: cs) =
      (number? (c :: cs)).map fun (literal, rest) => (.number literal, rest) := by
  unfold token?
  split
  case h_11 => rfl
  all_goals
    next heq =>
      obtain ⟨rfl, -⟩ := List.cons.inj heq
      exact absurd h (by decide)

lemma token?_toDigits (n : Nat) {rest : List Char} (h : EndsNumber rest) :
    token? (Nat.toDigits 10 n ++ rest) = some (.number (Nat.toDigits 10 n), rest) := by
  obtain ⟨c, cs, hcs⟩ := List.exists_cons_of_ne_nil (Nat.toDigits_ne_nil (n := n) (b := 10))
  have hc : c.isDigit = true := isDigit_of_mem_toDigits (n := n) (by simp [hcs])
  have hunsigned := unsigned?_toDigits n h
  rw [hcs, List.cons_append] at hunsigned ⊢
  rw [token?_number (.inr hc), number?, hunsigned, Option.map_some]
  rintro tail heq
  obtain ⟨rfl, -⟩ := List.cons.inj heq
  contradiction

lemma tokens?_nil : tokens? [] = some [] := by rw [tokens?]

lemma tokens?_space {c : Char} (h : isSpace c = true) (cs : List Char) :
    tokens? (c :: cs) = tokens? cs := by rw [tokens?, if_pos h]

lemma tokens?_indent (depth : Nat) (cs : List Char) :
    tokens? (indent depth ++ cs) = tokens? cs := by
  rw [indent]
  induction 2 * depth with
  | zero => rfl
  | succ n ih => rw [List.replicate_succ, List.cons_append, tokens?_space rfl, ih]

lemma tokens?_token {cs rest : List Char} {token : Token} (hspace : cs.head?.any isSpace = false)
    (h : token? cs = some (token, rest)) : tokens? cs = (tokens? rest).map (token :: ·) := by
  cases cs with
  | nil => contradiction
  | cons c cs =>
    have hc : isSpace c = false := hspace
    rw [tokens?, if_neg (by simp [hc])]
    split
    · next h' =>
      rw [h] at h'
      contradiction
    · next h' =>
      rw [h] at h'
      cases h'
      rfl

/-- The text is read as these tokens, whatever stands behind it, so long as a number at its end
does not go on there. -/
def ReadsAs (text : List Char) (tokens : List Token) : Prop :=
  ∀ rest, EndsNumber rest → tokens? (text ++ rest) = (tokens? rest).map (tokens ++ ·)

lemma readsAs_of_token? {text : List Char} {token : Token}
    (hspace : ∀ rest, (text ++ rest).head?.any isSpace = false)
    (h : ∀ rest, EndsNumber rest → token? (text ++ rest) = some (token, rest)) :
    ReadsAs text [token] := by
  intro rest hrest
  rw [tokens?_token (hspace rest) (h rest hrest)]
  rfl

lemma readsAs_toDigits (n : Nat) :
    ReadsAs (Nat.toDigits 10 n) [.number (Nat.toDigits 10 n)] := by
  refine readsAs_of_token? (fun rest => ?_) fun rest hrest => token?_toDigits n hrest
  obtain ⟨c, cs, hcs⟩ := List.exists_cons_of_ne_nil (Nat.toDigits_ne_nil (n := n) (b := 10))
  have hc : c.isDigit = true := isDigit_of_mem_toDigits (n := n) (by simp [hcs])
  have hspace : isSpace c = false := by
    by_contra hne
    have hends := continuesNumber_of_isSpace (by simpa using hne)
    simp [continuesNumber, hc] at hends
  simpa [hcs] using hspace

lemma readsAs_quoted (text : String) : ReadsAs (quoted (some text)) [.string (some text)] := by
  refine readsAs_of_token? (fun rest => ?_) fun rest _ => token?_quoted text rest
  rw [quoted_append]
  rfl

/-- A key and a value are read one after the other, with the colon between them. -/
lemma readsAs_member {key value : List Char} {name : Option String} {tokens : List Token}
    (hkey : ReadsAs key [.string name]) (hvalue : ReadsAs value tokens) :
    ReadsAs (key ++ ':' :: value) (.string name :: .colon :: tokens) := by
  intro rest hrest
  have hcolon : tokens? (':' :: (value ++ rest)) = (tokens? (value ++ rest)).map (.colon :: ·) :=
    tokens?_token rfl rfl
  rw [List.append_assoc, List.cons_append, hkey _ (endsNumber_cons rfl _), hcolon,
    hvalue rest hrest, Option.map_map, Option.map_map]
  rfl

lemma readsAs_space {text : List Char} {tokens : List Token} (h : ReadsAs text tokens) :
    ReadsAs (' ' :: text) tokens := by
  intro rest hrest
  rw [List.cons_append, tokens?_space rfl, h rest hrest]

lemma readsAs_indent (depth : Nat) {text : List Char} {tokens : List Token}
    (h : ReadsAs text tokens) : ReadsAs (indent depth ++ text) tokens := by
  intro rest hrest
  rw [List.append_assoc, tokens?_indent, h rest hrest]

/-- Items behind commas are read one after the other. -/
lemma readsAs_intercalate {parts : List (List Char)} {tokens : List (List Token)}
    (h : List.Forall₂ ReadsAs parts tokens) {gap : List Char}
    (hgap : ∀ cs, tokens? (gap ++ cs) = tokens? cs) :
    ReadsAs ((',' :: gap).intercalate parts) ([Token.comma].intercalate tokens) := by
  intro rest hrest
  induction h with
  | nil => simp
  | @cons part ts parts tss hpart htail ih =>
    cases htail with
    | nil =>
      rw [List.intercalate_singleton, List.intercalate_singleton, hpart rest hrest]
    | cons _ _ =>
      have hfirst : ∀ cs, tokens? (part ++ (',' :: gap ++ cs)) =
          (tokens? (',' :: gap ++ cs)).map (ts ++ ·) := fun _ => hpart _ (endsNumber_cons rfl _)
      have hcomma : ∀ cs, tokens? (',' :: gap ++ cs) = (tokens? cs).map (.comma :: ·) := by
        intro cs
        have htoken : tokens? (',' :: (gap ++ cs)) = (tokens? (gap ++ cs)).map (.comma :: ·) :=
          tokens?_token rfl rfl
        rw [List.cons_append, htoken, hgap]
      rw [List.intercalate_cons_cons, List.intercalate_cons_cons, List.append_assoc,
        List.append_assoc, hfirst, hcomma, ih, Option.map_map, Option.map_map]
      simp [Function.comp_def]

lemma readsAs_bracketed {left right : Char} {opening closing : Token} (hleft : isSpace left = false)
    (hright : isSpace right = false) (hopen : ∀ rest, token? (left :: rest) = some (opening, rest))
    (hclose : ∀ rest, token? (right :: rest) = some (closing, rest)) {parts : List (List Char)}
    {tokens : List (List Token)} (h : List.Forall₂ ReadsAs parts tokens) (depth : Nat) :
    ReadsAs (bracketed left right depth parts)
      (opening :: ([Token.comma].intercalate tokens ++ [closing])) := by
  have hcloses : ∀ rest, tokens? (right :: rest) = (tokens? rest).map (closing :: ·) :=
    fun rest => tokens?_token hright (hclose rest)
  have hopens : ∀ rest, tokens? (left :: rest) = (tokens? rest).map (opening :: ·) :=
    fun rest => tokens?_token hleft (hopen rest)
  intro rest _
  unfold bracketed
  split
  · next hempty =>
    obtain rfl : parts = [] := by simpa using hempty
    cases h
    rw [List.cons_append, List.singleton_append, hopens, hcloses, Option.map_map]
    rfl
  · have hindented : List.Forall₂ ReadsAs (parts.map (indent (depth + 1) ++ ·)) tokens :=
      List.forall₂_map_left_iff.2 (h.imp fun _ _ => readsAs_indent (depth + 1))
    have hfeed : ∀ cs, tokens? (['\n'] ++ cs) = tokens? cs := fun _ => tokens?_space rfl _
    have hitems := readsAs_intercalate hindented hfeed
      ('\n' :: (indent depth ++ right :: rest)) (endsNumber_cons rfl _)
    have htext : [left, '\n'] ++ [',', '\n'].intercalate (parts.map (indent (depth + 1) ++ ·)) ++
        ['\n'] ++ indent depth ++ [right] ++ rest =
        left :: '\n' :: ([',', '\n'].intercalate (parts.map (indent (depth + 1) ++ ·)) ++
          '\n' :: (indent depth ++ right :: rest)) := by simp
    rw [htext, hopens, tokens?_space rfl, hitems, tokens?_space rfl, tokens?_indent, hcloses,
      Option.map_map, Option.map_map]
    simp [Function.comp_def]

/-- A value made of texts and whole numbers. -/
inductive Written : Json → Prop
  | null : Written .null
  | bool (value : Bool) : Written (.bool value)
  | nat (n : Nat) : Written (ofNat n)
  | text (text : String) : Written (ofText text)
  | array {items : List Json} (h : ∀ item ∈ items, Written item) : Written (.array items)
  | record {members : List (String × Json)} (h : ∀ m ∈ members, Written m.2) :
      Written (record members)

/-- A printed value reads as its tokens. -/
theorem readsAs_printAt {value : Json} (h : Written value) (depth : Nat) :
    ReadsAs (printAt depth value) (tokensOf value) := by
  induction h generalizing depth with
  | null => exact readsAs_of_token? (fun _ => rfl) fun _ _ => rfl
  | bool value =>
    cases value with
    | true =>
      change ReadsAs "true".toList [.bool true]
      exact readsAs_of_token? (fun _ => rfl) fun _ _ => rfl
    | false =>
      change ReadsAs "false".toList [.bool false]
      exact readsAs_of_token? (fun _ => rfl) fun _ _ => rfl
  | nat n => exact readsAs_toDigits n
  | text text => exact readsAs_quoted text
  | @array items _ ih =>
    rw [printAt, tokensOf, printItems_eq, itemTokens_eq]
    refine readsAs_bracketed rfl rfl (fun _ => rfl) (fun _ => rfl) ?_ depth
    rw [List.forall₂_map_left_iff, List.forall₂_map_right_iff, List.forall₂_same]
    exact fun item hitem => ih item hitem (depth + 1)
  | @record members _ ih =>
    rw [record, printAt, tokensOf, printMembers_eq, memberTokens_eq, List.map_map, List.map_map]
    refine readsAs_bracketed rfl rfl (fun _ => rfl) (fun _ => rfl) ?_ depth
    rw [List.forall₂_map_left_iff, List.forall₂_map_right_iff, List.forall₂_same]
    intro m hm
    dsimp only [Function.comp_apply]
    rw [List.append_assoc]
    exact readsAs_member (readsAs_quoted m.1) (readsAs_space (ih m hm (depth + 1)))

namespace Reader

lemma run_cons (reader : Reader) (token : Token) (tokens : List Token) :
    reader.run (token :: tokens) = (reader.step token).bind (·.run tokens) := rfl

/-- In the place of a value the tokens of one deliver it. -/
def Delivers (value : Json) : Prop :=
  ∀ containers tokens, (Reader.mk containers .value).run (tokensOf value ++ tokens) =
    (deliver value containers).bind (·.run tokens)

lemma run_items {values : List Json} (h : ∀ value ∈ values, Delivers value) (hne : values ≠ [])
    (done : List Json) (containers : List Open) (tokens : List Token) :
    (Reader.mk (.array done :: containers) .value).run
        ([Token.comma].intercalate (itemTokens values) ++ .closeArray :: tokens) =
      (deliver (.array (done.reverse ++ values)) containers).bind (·.run tokens) := by
  induction values generalizing done with
  | nil => contradiction
  | cons value values ih =>
    obtain ⟨hvalue, hvalues⟩ := List.forall_mem_cons.1 h
    cases values with
    | nil =>
      rw [itemTokens, itemTokens, List.intercalate_singleton, hvalue, deliver, Option.bind_some,
        run_cons]
      simp [step, close]
    | cons value' values =>
      rw [itemTokens, itemTokens, List.intercalate_cons_cons, ← itemTokens, List.append_assoc,
        List.append_assoc, hvalue, deliver, Option.bind_some, List.singleton_append, run_cons]
      have hcomma : (Reader.mk (.array (value :: done) :: containers) .separator).step .comma =
          some ⟨.array (value :: done) :: containers, .value⟩ := rfl
      rw [hcomma, Option.bind_some, ih hvalues (List.cons_ne_nil _ _)]
      simp

lemma run_member {value : Json} (h : Delivers value) (key : Option String)
    (done : List (Option String × Json)) (containers : List Open) (tokens : List Token) :
    (Reader.mk (.object done :: containers) .key).run
        (.string key :: .colon :: tokensOf value ++ tokens) =
      (Reader.mk (.object ((key, value) :: done) :: containers) .separator).run tokens :=
  h (.pending done key :: containers) tokens

lemma run_members {members : List (Option String × Json)} (h : ∀ m ∈ members, Delivers m.2)
    (hne : members ≠ []) (done : List (Option String × Json)) (containers : List Open)
    (tokens : List Token) :
    (Reader.mk (.object done :: containers) .key).run
        ([Token.comma].intercalate (memberTokens members) ++ .closeObject :: tokens) =
      (deliver (.object (done.reverse ++ members)) containers).bind (·.run tokens) := by
  induction members generalizing done with
  | nil => contradiction
  | cons m members ih =>
    obtain ⟨hvalue, hvalues⟩ := List.forall_mem_cons.1 h
    cases members with
    | nil =>
      rw [memberTokens, memberTokens, List.intercalate_singleton, run_member hvalue, run_cons]
      simp [step, close]
    | cons m' members =>
      have hcomma : (Reader.mk (.object (m :: done) :: containers) .separator).step .comma =
          some ⟨.object (m :: done) :: containers, .key⟩ := rfl
      rw [memberTokens, memberTokens, List.intercalate_cons_cons, ← memberTokens, List.append_assoc,
        List.append_assoc, run_member hvalue, List.singleton_append, run_cons, hcomma,
        Option.bind_some, ih hvalues (List.cons_ne_nil _ _)]
      simp

/-- No value starts with the close of an array. -/
lemma run_firstItem (value : Json) (containers : List Open) (tokens : List Token) :
    (Reader.mk containers .firstItem).run (tokensOf value ++ tokens) =
      (Reader.mk containers .value).run (tokensOf value ++ tokens) := by
  cases value <;> simp [tokensOf, run_cons, step]

lemma exists_intercalate_cons {α : Type} (sep first : List α) (others : List (List α)) :
    ∃ rest, sep.intercalate (first :: others) = first ++ rest := by
  cases others with
  | nil => exact ⟨[], by simp⟩
  | cons second others => exact ⟨_, by rw [List.intercalate_cons_cons, List.append_assoc]⟩

theorem delivers (value : Json) : Delivers value := by
  induction value using value_induction with
  | null => exact fun _ _ => rfl
  | bool => exact fun _ _ => rfl
  | number => exact fun _ _ => rfl
  | string => exact fun _ _ => rfl
  | array items ih =>
    intro containers tokens
    have hopen : (Reader.mk containers .value).step .openArray =
        some ⟨.array [] :: containers, .firstItem⟩ := rfl
    rw [tokensOf, List.cons_append, List.append_assoc, List.singleton_append, run_cons, hopen,
      Option.bind_some]
    cases items with
    | nil => rfl
    | cons item items =>
      have hitems := run_items ih (List.cons_ne_nil item items) [] containers tokens
      obtain ⟨rest, hrest⟩ := exists_intercalate_cons [.comma] (tokensOf item) (itemTokens items)
      rw [itemTokens, hrest, List.append_assoc] at hitems ⊢
      rw [run_firstItem, hitems]
      rfl
  | object members ih =>
    intro containers tokens
    have hopen : (Reader.mk containers .value).step .openObject =
        some ⟨.object [] :: containers, .firstKey⟩ := rfl
    rw [tokensOf, List.cons_append, List.append_assoc, List.singleton_append, run_cons, hopen,
      Option.bind_some]
    cases members with
    | nil => rfl
    | cons m members =>
      have hmembers := run_members ih (List.cons_ne_nil m members) [] containers tokens
      obtain ⟨rest, hrest⟩ := exists_intercalate_cons [.comma]
        (.string m.1 :: .colon :: tokensOf m.2) (memberTokens members)
      rw [memberTokens, hrest] at hmembers ⊢
      exact hmembers

end Reader

theorem ofTokens?_tokensOf (value : Json) : ofTokens? (tokensOf value) = some value := by
  have hrun := Reader.delivers value [] []
  rw [List.append_nil] at hrun
  rw [ofTokens?, Reader.start, hrun]
  rfl

/-- A printed document is read as the value that was printed. -/
theorem read?_print {value : Json} (h : Written value) : read? (print value) = some value := by
  have htokens := readsAs_printAt h 0 [] endsNumber_nil
  rw [List.append_nil, tokens?_nil, Option.map_some, List.append_nil] at htokens
  rw [read?, print, htokens, Option.bind_some, ofTokens?_tokensOf]

end CodeGrowth.Json
