import CodeGrowth.Log.Event
import CodeGrowth.Log.Pattern
import CodeGrowth.Text.Blank

/-!
# Log filters

A filter is a list of rules with commas between them. A rule names an origin, in brackets a span
and in braces a field, and behind an equals sign a level; every part may be missing, and without a
level all are admitted. A bare word that names a level is a level, not an origin.

A rule covers the events whose origin begins with its own and that have its field. No event lies in
a span and none is compared with a value, so a rule with a span or a value covers nothing. Of the
rules that cover an event the one with the longest origin decides, then one with a field, then the
last.
-/
namespace CodeGrowth.Log

/-- A field that a rule asks for, and whether it asks for a value of it too. -/
structure Field where
  name : String
  hasValue : Bool
  deriving DecidableEq, Repr

namespace Field

/-- An unsigned decimal number, infinity or the value that is no number, in letters of either
case. -/
def isMagnitude (cs : List Char) : Bool :=
  let whole := cs.takeWhile Char.isDigit
  let (fraction, rest) := match cs.dropWhile Char.isDigit with
    | '.' :: rest => (rest.takeWhile Char.isDigit, rest.dropWhile Char.isDigit)
    | rest => ([], rest)
  let endsWell : Bool := match rest with
    | [] => true
    | mark :: '+' :: digits => mark.toLower = 'e' && !digits.isEmpty && digits.all Char.isDigit
    | mark :: '-' :: digits => mark.toLower = 'e' && !digits.isEmpty && digits.all Char.isDigit
    | mark :: digits => mark.toLower = 'e' && !digits.isEmpty && digits.all Char.isDigit
  ["inf", "infinity", "nan"].contains (String.ofList cs).toLower ||
    ((!whole.isEmpty || !fraction.isEmpty) && endsWell)

/-- A value is a truth value, a number or else a pattern. Of all these only the numbers with a plus
sign are no patterns. -/
def isValue : List Char → Bool
  | '+' :: cs => isMagnitude cs
  | cs => Pattern.isWellFormed cs

/-- A name, or a name and a value with an equals sign between them and perhaps another behind
them. -/
def parse? (text : List Char) : Option Field :=
  match text.splitOn '=' with
  | [name] => if name.isEmpty then none else some ⟨String.ofList name, false⟩
  | name :: value :: _ => if isValue value then some ⟨String.ofList name, true⟩ else none
  | [] => none

end Field

/-- Admits the levels up to a rank for the events that it covers. -/
structure Rule where
  origin : Option String
  span : Option String
  field : Option Field
  rank : Nat
  deriving DecidableEq, Repr

namespace Rule

/-- Admits the levels up to a rank, whatever the event. -/
def upTo (rank : Nat) : Rule := ⟨none, none, none, rank⟩

/-- The rule covers an event with this origin, whose one field is its message. -/
def covers (rule : Rule) (origin : String) : Bool :=
  rule.span.isNone && rule.origin.all (·.toList.isPrefixOf origin.toList) &&
    rule.field.all fun field => field.name == "message" && !field.hasValue

/-- How closely the rule describes what it covers: first by its origin, then by its field. -/
def precision (rule : Rule) : Nat :=
  2 * rule.origin.elim 0 (·.length + 1) + rule.field.elim 0 fun _ => 1

/-- A whole number of 64 bits, perhaps with a plus sign. -/
def number? (text : List Char) : Option Nat :=
  let digits := match text with
    | '+' :: digits => digits
    | digits => digits
  let value := Nat.ofDigitChars 10 digits 0
  if !digits.isEmpty && digits.all Char.isDigit && value < UInt64.size then some value else none

/-- The rank that a word, in letters of either case, or a number stands for. -/
def rankOf? (text : List Char) : Option Nat :=
  match number? text with
  | some rank => if rank ≤ Level.trace.rank then some rank else none
  | none =>
    ["off", "error", "warn", "info", "debug", "trace"].zipIdx.lookup (String.ofList text).toLower

/-- A character with which an origin may start. -/
def startsOrigin (c : Char) : Bool :=
  Text.isLetter c || Text.isNumeral c || c == '-' || c == ':' || c == '_'

def isNameChar (c : Char) : Bool := c != '=' && c != '['

def byteSize (cs : List Char) : Nat := cs.foldr (fun c size => c.utf8Size + size) 0

/-- The bytes of a text from `start` up to `stop` as a text. A part of a rule is found in the text
without the white space around it, but cut out of the whole text at the same place, so that white
space in front shifts what is cut out. -/
def cut? (text : List Char) (start stop : Nat) : Option (List Char) :=
  (String.fromUTF8? ((String.ofList text).toUTF8.extract start stop)).map String.toList

/-- The rank after the name or the brackets of a rule: the level behind an equals sign. -/
def endRank? (text before : List Char) : List Char → Option Nat
  | [] => some Level.trace.rank
  | '=' :: _ => do
    let level ← cut? text (byteSize before + 1) (byteSize text)
    if level.isEmpty then some Level.trace.rank else rankOf? level
  | _ => none

/-- A rule from its opening bracket on. -/
def inBrackets? (text : List Char) (origin : Option String) (before rest : List Char) :
    Option Rule := do
  let name := rest.takeWhile fun c => c != ']' && c != '\x7b'
  let start := byteSize before
  let span ← cut? text start (start + byteSize name)
  match rest.dropWhile fun c => c != ']' && c != '\x7b' with
  | ']' :: rest =>
    let rank ← endRank? text (before ++ name ++ [']']) rest
    return ⟨origin, some (String.ofList span), none, rank⟩
  | '\x7b' :: rest =>
    let content := rest.takeWhile (· != '\x7d')
    let start := start + byteSize name + 1
    let field ← (cut? text start (start + byteSize content)).bind Field.parse?
    match rest.dropWhile (· != '\x7d') with
    | '\x7d' :: ']' :: rest =>
      let rank ← endRank? text (before ++ name ++ ['\x7b'] ++ content ++ "\x7d]".toList) rest
      return ⟨origin, if span.isEmpty then none else some (String.ofList span), some field, rank⟩
    | _ => none
  | _ => none

/-- The rule of a text. -/
def parse? (text : List Char) : Option Rule :=
  let trimmed := Text.trim text
  let name := trimmed.takeWhile isNameChar
  let origin := (cut? text 0 (byteSize name)).map String.ofList
  if name.isEmpty then
    match trimmed with
    | '[' :: rest => inBrackets? text none ['['] rest
    | _ => none
  else if name.head?.all startsOrigin then
    match trimmed.dropWhile isNameChar with
    | [] =>
      match rankOf? text with
      | some rank => some (upTo rank)
      | none => some ⟨some (String.ofList text), none, none, Level.trace.rank⟩
    | '[' :: rest => origin.bind fun origin => inBrackets? text origin (name ++ ['[']) rest
    | rest => do return ⟨some (← origin), none, none, ← endRank? text name rest⟩
  else none

end Rule

abbrev Filter := List Rule

namespace Filter

/-- The filter that admits a level and those above it, whatever the origin. -/
def upTo (level : Level) : Filter := [.upTo level.rank]

/-- The filter of a text. Without a single rule in it, only errors are admitted. -/
def parse? (text : String) : Option Filter :=
  let rules := (text.toList.splitOn ',').filter (!·.isEmpty)
  if rules.isEmpty then some (upTo .error) else rules.mapM Rule.parse?

/-- The rule that decides about an origin. -/
def deciding? (filter : Filter) (origin : String) : Option Rule :=
  (filter.filter (·.covers origin)).foldl (fun best rule =>
    match best with
    | none => some rule
    | some other => if other.precision ≤ rule.precision then some rule else some other) none

def admits (filter : Filter) (event : Event) : Bool :=
  (filter.deciding? event.origin).any fun rule => event.level.rank ≤ rule.rank

end Filter

end CodeGrowth.Log
