import CodeGrowth.Json

/-!
# Tokens of a JSON document

The tokens are the punctuation, the three names, numbers as written, and strings with their escapes
resolved. White space between them is the four characters that the format allows. A text with
anything else in it has no tokens.
-/
namespace CodeGrowth.Json

inductive Token where
  | openObject
  | closeObject
  | openArray
  | closeArray
  | colon
  | comma
  | null
  | bool (value : Bool)
  | number (literal : List Char)
  | string (text : Option String)
  deriving DecidableEq, Repr

/-- A character of a string literal: one that stands for itself or is escaped by a letter, or a
UTF-16 code unit given by four digits. -/
inductive StringUnit where
  | char (c : Char)
  | code (n : Nat)
  deriving DecidableEq, Repr

/-- The character that a backslash and a letter stand for. -/
def escaped? (c : Char) : Option Char :=
  if c = '"' ∨ c = '\\' ∨ c = '/' then some c
  else if c = 'b' then some (Char.ofNat 8)
  else if c = 'f' then some (Char.ofNat 12)
  else if c = 'n' then some '\n'
  else if c = 'r' then some '\r'
  else if c = 't' then some '\t'
  else none

/-- The value of a hexadecimal digit of either case. -/
def hexValue? (c : Char) : Option Nat :=
  if c.isDigit then some (c.toNat - 48)
  else if 'a' ≤ c ∧ c ≤ 'f' then some (c.toNat - 87)
  else if 'A' ≤ c ∧ c ≤ 'F' then some (c.toNat - 55)
  else none

/-- The value of four hexadecimal digits. -/
def codeUnit? (a b c d : Char) : Option Nat := do
  let a ← hexValue? a
  let b ← hexValue? b
  let c ← hexValue? c
  let d ← hexValue? d
  return ((a * 16 + b) * 16 + c) * 16 + d

/-- The units of a string whose opening quote stands just before the text, and the text after its
closing quote. -/
def stringUnits? : List Char → Option (List StringUnit × List Char)
  | [] => none
  | '"' :: rest => some ([], rest)
  | '\\' :: 'u' :: a :: b :: c :: d :: rest =>
    (codeUnit? a b c d).bind fun n =>
      (stringUnits? rest).map fun (units, rest) => (.code n :: units, rest)
  | '\\' :: e :: rest =>
    (escaped? e).bind fun c =>
      (stringUnits? rest).map fun (units, rest) => (.char c :: units, rest)
  | c :: rest =>
    if c = '\\' ∨ c.toNat < 32 then none
    else (stringUnits? rest).map fun (units, rest) => (.char c :: units, rest)

theorem length_stringUnits?_lt {cs rest : List Char} {units : List StringUnit}
    (h : stringUnits? cs = some (units, rest)) : rest.length < cs.length := by
  fun_induction stringUnits? cs generalizing units rest with
  | case1 => simp at h
  | case2 r => cases h; simp
  | case3 a b c d r ih =>
      obtain ⟨n, _, h⟩ := Option.bind_eq_some_iff.1 h
      obtain ⟨⟨us, q⟩, hq, heq⟩ := Option.map_eq_some_iff.1 h
      cases heq
      have := ih hq
      simp only [List.length_cons]; omega
  | case4 e r _ ih =>
      obtain ⟨n, _, h⟩ := Option.bind_eq_some_iff.1 h
      obtain ⟨⟨us, q⟩, hq, heq⟩ := Option.map_eq_some_iff.1 h
      cases heq
      have := ih hq
      simp only [List.length_cons]; omega
  | case5 => simp at h
  | case6 c r _ _ _ _ ih =>
      obtain ⟨⟨us, q⟩, hq, heq⟩ := Option.map_eq_some_iff.1 h
      cases heq
      have := ih hq
      simp only [List.length_cons]; omega

def isHighSurrogate (n : Nat) : Bool := 0xD800 ≤ n && n < 0xDC00

def isLowSurrogate (n : Nat) : Bool := 0xDC00 ≤ n && n < 0xE000

/-- The character of a surrogate pair. -/
def surrogatePair (high low : Nat) : Char :=
  Char.ofNat (0x10000 + (high - 0xD800) * 0x400 + (low - 0xDC00))

/-- The text of some units, if every surrogate is part of a pair. -/
def unitText? : List StringUnit → Option (List Char)
  | [] => some []
  | .char c :: units => (unitText? units).map (c :: ·)
  | .code high :: .code low :: units =>
    if isHighSurrogate high then
      if isLowSurrogate low then (unitText? units).map (surrogatePair high low :: ·) else none
    else if isLowSurrogate high then none
    else (unitText? (.code low :: units)).map (Char.ofNat high :: ·)
  | .code n :: units =>
    if isHighSurrogate n || isLowSurrogate n then none
    else (unitText? units).map (Char.ofNat n :: ·)

/-- The digits at the start of a text, at least one, and the text after them. -/
def digits? (cs : List Char) : Option (List Char × List Char) :=
  if cs.head?.any Char.isDigit then some (cs.takeWhile Char.isDigit, cs.dropWhile Char.isDigit)
  else none

/-- The whole part of a number: a zero, or digits that start with no zero. -/
def wholePart? : List Char → Option (List Char × List Char)
  | '0' :: rest => some (['0'], rest)
  | cs => digits? cs

/-- A point and the digits after it, or nothing where no point stands. -/
def fraction? : List Char → Option (List Char × List Char)
  | '.' :: rest => (digits? rest).map fun (digits, rest) => ('.' :: digits, rest)
  | cs => some ([], cs)

def isExponentMark (c : Char) : Bool := c == 'e' || c == 'E'

def isSign (c : Char) : Bool := c == '+' || c == '-'

/-- A mark, a sign or none, and digits, or nothing where no mark stands. -/
def exponent? : List Char → Option (List Char × List Char)
  | [] => some ([], [])
  | e :: rest =>
    if isExponentMark e then
      match rest with
      | [] => none
      | s :: tail =>
        if isSign s then (digits? tail).map fun (digits, rest) => (e :: s :: digits, rest)
        else (digits? rest).map fun (digits, rest) => (e :: digits, rest)
    else some ([], e :: rest)

/-- A number without its sign. -/
def unsigned? (cs : List Char) : Option (List Char × List Char) := do
  let (whole, cs) ← wholePart? cs
  let (fraction, cs) ← fraction? cs
  let (exponent, cs) ← exponent? cs
  return (whole ++ fraction ++ exponent, cs)

/-- A number as it is written, and the text after it. -/
def number? : List Char → Option (List Char × List Char)
  | '-' :: rest => (unsigned? rest).map fun (literal, rest) => ('-' :: literal, rest)
  | cs => unsigned? cs

theorem digits?_append {cs digits rest : List Char} (h : digits? cs = some (digits, rest)) :
    cs = digits ++ rest ∧ digits ≠ [] := by
  unfold digits? at h
  split at h
  · next hd =>
      cases h
      refine ⟨List.takeWhile_append_dropWhile.symm, ?_⟩
      cases cs with
      | nil => simp at hd
      | cons c cs => simp_all
  · simp at h

theorem wholePart?_append {cs whole rest : List Char} (h : wholePart? cs = some (whole, rest)) :
    cs = whole ++ rest ∧ whole ≠ [] := by
  unfold wholePart? at h
  split at h
  · cases h; simp
  · exact digits?_append h

theorem fraction?_append {cs fraction rest : List Char}
    (h : fraction? cs = some (fraction, rest)) : cs = fraction ++ rest := by
  unfold fraction? at h
  split at h
  · obtain ⟨⟨ds, q⟩, hq, heq⟩ := Option.map_eq_some_iff.1 h
    cases heq
    simp [(digits?_append hq).1]
  · cases h; rfl

theorem exponent?_append {cs exponent rest : List Char}
    (h : exponent? cs = some (exponent, rest)) : cs = exponent ++ rest := by
  unfold exponent? at h
  split at h
  · cases h; rfl
  · split at h
    · split at h
      · simp at h
      · split at h
        · obtain ⟨⟨ds, q⟩, hq, heq⟩ := Option.map_eq_some_iff.1 h
          cases heq
          simp [(digits?_append hq).1]
        · obtain ⟨⟨ds, q⟩, hq, heq⟩ := Option.map_eq_some_iff.1 h
          cases heq
          simp [(digits?_append hq).1]
    · cases h; rfl

theorem unsigned?_append {cs literal rest : List Char}
    (h : unsigned? cs = some (literal, rest)) : cs = literal ++ rest ∧ literal ≠ [] := by
  simp only [unsigned?, bind, Option.bind_eq_some_iff] at h
  obtain ⟨⟨whole, r⟩, hw, ⟨fraction, s⟩, hf, ⟨exponent, t⟩, he, heq⟩ := h
  cases heq
  obtain ⟨rfl, hne⟩ := wholePart?_append hw
  have hf := fraction?_append hf
  have he := exponent?_append he
  simp only at hf he
  subst hf he
  simp [hne]

/-- A number takes its own characters off the text and nothing else. -/
theorem number?_append {cs literal rest : List Char}
    (h : number? cs = some (literal, rest)) : cs = literal ++ rest ∧ literal ≠ [] := by
  unfold number? at h
  split at h
  · obtain ⟨⟨ds, q⟩, hq, heq⟩ := Option.map_eq_some_iff.1 h
    cases heq
    simp [(unsigned?_append hq).1]
  · exact unsigned?_append h

/-- The white space of the format. -/
def isSpace (c : Char) : Bool := c == ' ' || c == '\n' || c == '\r' || c == '\t'

/-- The token at the start of a text, and the text after it. -/
def token? : List Char → Option (Token × List Char)
  | '\x7b' :: rest => some (.openObject, rest)
  | '\x7d' :: rest => some (.closeObject, rest)
  | '[' :: rest => some (.openArray, rest)
  | ']' :: rest => some (.closeArray, rest)
  | ':' :: rest => some (.colon, rest)
  | ',' :: rest => some (.comma, rest)
  | 'n' :: 'u' :: 'l' :: 'l' :: rest => some (.null, rest)
  | 't' :: 'r' :: 'u' :: 'e' :: rest => some (.bool true, rest)
  | 'f' :: 'a' :: 'l' :: 's' :: 'e' :: rest => some (.bool false, rest)
  | '"' :: rest =>
    (stringUnits? rest).map fun (units, rest) =>
      (.string ((unitText? units).map String.ofList), rest)
  | cs => (number? cs).map fun (literal, rest) => (.number literal, rest)

theorem length_token?_lt {cs rest : List Char} {token : Token}
    (h : token? cs = some (token, rest)) : rest.length < cs.length := by
  unfold token? at h
  split at h
  case h_10 r =>
    obtain ⟨⟨us, q⟩, hq, heq⟩ := Option.map_eq_some_iff.1 h
    cases heq
    have := length_stringUnits?_lt hq
    simp only [List.length_cons]; omega
  case h_11 =>
    obtain ⟨⟨ds, q⟩, hq, heq⟩ := Option.map_eq_some_iff.1 h
    cases heq
    obtain ⟨rfl, hne⟩ := number?_append hq
    have := List.length_pos_iff.2 hne
    simp only [List.length_append]; omega
  all_goals (cases h; simp only [List.length_cons]; omega)

/-- All tokens of a text. -/
def tokens? (cs : List Char) : Option (List Token) :=
  match cs with
  | [] => some []
  | c :: rest =>
    if isSpace c then tokens? rest
    else
      match _ : token? (c :: rest) with
      | none => none
      | some (token, rest) => (tokens? rest).map (token :: ·)
termination_by cs.length
decreasing_by
  · simp
  · exact length_token?_lt ‹token? _ = some _›

end CodeGrowth.Json
