/-!
# JSON values

A value keeps the members of an object in written order, repeated keys included, and a number as it
was written. A string of a document may name half of a surrogate pair, which no text contains; such
a string, and such a key, is `none`.

Documents are printed with each member and item on a line of its own, two spaces further in than
its container. An empty container stays on one line. In strings the quote, the backslash and the
characters below the space are escaped, the latter by a letter where there is one; every other
character stands for itself.

A record is an object that holds its fields by key, in any order and among any other members, or an
array that holds them by position. A field that the format names must not be given twice. Whole
numbers have a bound, and only digits count as one: no sign, no point, no exponent.
-/
namespace CodeGrowth

inductive Json where
  | null
  | bool (value : Bool)
  | number (literal : List Char)
  | string (text : Option String)
  | array (items : List Json)
  | object (members : List (Option String × Json))
  deriving Repr, Inhabited

namespace Json

def ofText (text : String) : Json := string (some text)

def ofNat (n : Nat) : Json := number (Nat.toDigits 10 n)

def ofTexts (texts : List String) : Json := array (texts.map ofText)

/-- An object with these members. -/
def record (members : List (String × Json)) : Json :=
  object (members.map fun m => (some m.1, m.2))

/-- The member for an optional value, left out if there is none. -/
def member? (key : String) (value : Option Json) : List (String × Json) :=
  match value with
  | some value => [(key, value)]
  | none => []

def orNull : Option Json → Json
  | some value => value
  | none => null

/-- A digit below sixteen, in lower case. -/
def hexDigit (n : Nat) : Char := n.digitChar

/-- The written form of one character of a string. -/
def escape (c : Char) : List Char :=
  if c = '"' then ['\\', '"']
  else if c = '\\' then ['\\', '\\']
  else if c = '\n' then ['\\', 'n']
  else if c = '\r' then ['\\', 'r']
  else if c = '\t' then ['\\', 't']
  else if c.toNat = 8 then ['\\', 'b']
  else if c.toNat = 12 then ['\\', 'f']
  else if c.toNat < 32 then ['\\', 'u', '0', '0', hexDigit (c.toNat / 16), hexDigit (c.toNat % 16)]
  else [c]

/-- A string in quotes. A string that is no text is written as half of a surrogate pair. -/
def quoted : Option String → List Char
  | some text => '"' :: text.toList.flatMap escape ++ ['"']
  | none => "\"\\ud800\"".toList

/-- The white space before an item that stands `depth` containers deep. -/
def indent (depth : Nat) : List Char := List.replicate (2 * depth) ' '

/-- Items one below the other between brackets. -/
def bracketed (left right : Char) (depth : Nat) (items : List (List Char)) : List Char :=
  if items.isEmpty then [left, right]
  else
    [left, '\n'] ++ [',', '\n'].intercalate (items.map (indent (depth + 1) ++ ·)) ++ ['\n'] ++
      indent depth ++ [right]

mutual

/-- A value inside `depth` containers. -/
def printAt (depth : Nat) : Json → List Char
  | null => "null".toList
  | bool value => if value then "true".toList else "false".toList
  | number literal => literal
  | string text => quoted text
  | array items => bracketed '[' ']' depth (printItems (depth + 1) items)
  | object members => bracketed '\x7b' '\x7d' depth (printMembers (depth + 1) members)

def printItems (depth : Nat) : List Json → List (List Char)
  | [] => []
  | value :: values => printAt depth value :: printItems depth values

def printMembers (depth : Nat) : List (Option String × Json) → List (List Char)
  | [] => []
  | (key, value) :: members =>
    (quoted key ++ [':', ' '] ++ printAt depth value) :: printMembers depth members

end

/-- A whole document, without a final line end. -/
def print (value : Json) : List Char := printAt 0 value

def text? : Json → Option String
  | string text => text
  | _ => none

def bool? : Json → Option Bool
  | bool value => some value
  | _ => none

/-- A whole number below `bound`. -/
def natBelow? (bound : Nat) : Json → Option Nat
  | number literal =>
    let value := Nat.ofDigitChars 10 literal 0
    if literal.all Char.isDigit && value < bound then some value else none
  | _ => none

/-- A count: a whole number of 64 bits. -/
def count? : Json → Option Nat := natBelow? UInt64.size

def list? {α : Type} (item? : Json → Option α) : Json → Option (List α)
  | array items => items.mapM item?
  | _ => none

/-- A value, or `null` for none. -/
def orNull? {α : Type} (value? : Json → Option α) : Json → Option (Option α)
  | null => some none
  | value => (value? value).map some

/-- One of some named values: its name, or an object that maps its name to `null`. -/
def choice? {α : Type} (values : List α) (name : α → String) : Json → Option α
  | string (some text) => values.find? (name · == text)
  | object [(some text, null)] => values.find? (name · == text)
  | _ => none

/-- One of some named values, which an object may also map to an empty object. -/
def looseChoice? {α : Type} (values : List α) (name : α → String) : Json → Option α
  | object [(some text, object [])] => values.find? (name · == text)
  | json => json.choice? values name

/-- The values of the named keys among the members of an object, `none` where a key is absent.
Each key is given once at most. -/
def byKey? (names : List String) (members : List (Option String × Json)) :
    Option (List (Option Json)) :=
  if members.all (·.1.isSome) && names.all fun name => members.countP (·.1 == some name) ≤ 1 then
    some (names.map fun name => members.lookup (some name))
  else none

/-- The fields of a record, by key or by position. -/
def fields? (names : List String) : Json → Option (List (Option Json))
  | object members => byKey? names members
  | array items => if items.length = names.length then some (items.map some) else none
  | _ => none

/-- An optional field: an absent key means none, and so does `null`. -/
def optional? {α : Type} (value? : Json → Option α) : Option Json → Option (Option α)
  | none => some none
  | some value => orNull? value? value

end Json

end CodeGrowth
