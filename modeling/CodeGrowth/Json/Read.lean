import CodeGrowth.Json.Token

/-!
# Reading JSON

The tokens of a document are read one by one. Between two tokens the reader stands in some open
containers, innermost first, and expects one kind of token or another. Nesting is therefore not
limited, and a document is accepted exactly when its last token completes the outermost value.
-/
namespace CodeGrowth.Json

/-- A container that is not closed yet. Its items or members are held last first. -/
inductive Open where
  | array (items : List Json)
  | object (members : List (Option String × Json))
  /-- An object whose last key still lacks its value. -/
  | pending (members : List (Option String × Json)) (key : Option String)
  deriving Repr

/-- What may come next. -/
inductive Expected where
  | value
  /-- A value, or the close of an array just opened. -/
  | firstItem
  | key
  /-- A key, or the close of an object just opened. -/
  | firstKey
  | colon
  /-- A comma, or the close of the innermost container. -/
  | separator
  /-- Nothing: the document is complete. -/
  | done (value : Json)
  deriving Repr

structure Reader where
  containers : List Open
  expected : Expected
  deriving Repr

namespace Reader

def start : Reader := ⟨[], .value⟩

/-- The reader after a complete value. -/
def deliver (value : Json) : List Open → Option Reader
  | [] => some ⟨[], .done value⟩
  | .array items :: outer => some ⟨.array (value :: items) :: outer, .separator⟩
  | .pending members key :: outer => some ⟨.object ((key, value) :: members) :: outer, .separator⟩
  | .object _ :: _ => none

/-- The reader after the close of the innermost container. -/
def close (token : Token) : List Open → Option Reader
  | .array items :: outer =>
    if token = .closeArray then deliver (.array items.reverse) outer else none
  | .object members :: outer =>
    if token = .closeObject then deliver (.object members.reverse) outer else none
  | _ => none

/-- The reader after a token where a value may stand. -/
def beginValue (containers : List Open) : Token → Option Reader
  | .null => deliver .null containers
  | .bool value => deliver (.bool value) containers
  | .number literal => deliver (.number literal) containers
  | .string text => deliver (.string text) containers
  | .openArray => some ⟨.array [] :: containers, .firstItem⟩
  | .openObject => some ⟨.object [] :: containers, .firstKey⟩
  | _ => none

/-- The reader after a token where a key may stand. -/
def beginMember : List Open → Token → Option Reader
  | .object members :: outer, .string key => some ⟨.pending members key :: outer, .colon⟩
  | _, _ => none

/-- The reader after a comma in the innermost container. -/
def afterComma : List Open → Option Reader
  | .array items :: outer => some ⟨.array items :: outer, .value⟩
  | .object members :: outer => some ⟨.object members :: outer, .key⟩
  | _ => none

def step (reader : Reader) (token : Token) : Option Reader :=
  match reader.expected with
  | .value => beginValue reader.containers token
  | .firstItem =>
    if token = .closeArray then close token reader.containers
    else beginValue reader.containers token
  | .key => beginMember reader.containers token
  | .firstKey =>
    if token = .closeObject then close token reader.containers
    else beginMember reader.containers token
  | .colon => if token = .colon then some ⟨reader.containers, .value⟩ else none
  | .separator =>
    if token = .comma then afterComma reader.containers else close token reader.containers
  | .done _ => none

def run (reader : Reader) : List Token → Option Reader
  | [] => some reader
  | token :: tokens => (reader.step token).bind fun reader => reader.run tokens

def value? (reader : Reader) : Option Json :=
  match reader.expected with
  | .done value => some value
  | _ => none

end Reader

/-- The value of a token sequence. -/
def ofTokens? (tokens : List Token) : Option Json := (Reader.start.run tokens).bind Reader.value?

/-- The value of a document. -/
def read? (text : List Char) : Option Json := (tokens? text).bind ofTokens?

end CodeGrowth.Json
