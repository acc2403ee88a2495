import CodeGrowth.Display
import CodeGrowth.Json.Read
import CodeGrowth.Language
import CodeGrowth.Record.Findings

/-!
# Configuration

The settings a user may keep in a file. Only the width of the gauge can be wrong: it has to lie
within fixed bounds. Every field has a default, so a record of a configuration may leave any of them
out, and an array may end early. The format is left out when none is chosen.
-/
namespace CodeGrowth

structure Config where
  dialect : Language.Dialect
  /-- None lets the environment decide. -/
  format : Option Display.Format
  gaugeWidth : Nat
  colours : Bool
  deriving DecidableEq, Repr

namespace Config

/-- The settings where no file says otherwise. -/
def standard : Config := ⟨.c, none, 30, true⟩

def minGaugeWidth : Nat := 4

def maxGaugeWidth : Nat := 200

/-- The width of the gauge lies within its bounds. -/
def isValid (config : Config) : Bool :=
  minGaugeWidth ≤ config.gaugeWidth && config.gaugeWidth ≤ maxGaugeWidth

open Json (record ofNat ofText)

def formatName (format : Display.Format) : Json := ofText format.name

def formatOf? : Json → Option Display.Format :=
  Json.choice? Display.Format.all Display.Format.name

def toJson (config : Config) : Json :=
  record <| [("dialect", config.dialect.toJson)] ++
    Json.member? "format" (config.format.map formatName) ++
    [("indicator_width", ofNat config.gaugeWidth), ("color", .bool config.colours)]

def keys : List String := ["dialect", "format", "indicator_width", "color"]

/-- The values of the fields, `none` where the default stays. -/
def fieldValues? : Json → Option (List (Option Json))
  | .object members => Json.byKey? keys members
  | .array items =>
    if items.length ≤ keys.length then
      some (items.map some ++ List.replicate (keys.length - items.length) none)
    else none
  | _ => none

/-- The field's value, or its default. -/
def fieldOr? {α : Type} (value? : Json → Option α) (default : α) : Option Json → Option α
  | none => some default
  | some value => value? value

def ofJson? (json : Json) : Option Config :=
  match fieldValues? json with
  | some [dialect, format, gaugeWidth, colours] => do
    return ⟨← fieldOr? Language.Dialect.ofJson? standard.dialect dialect,
      ← fieldOr? (Json.orNull? formatOf?) standard.format format,
      ← fieldOr? Json.count? standard.gaugeWidth gaugeWidth,
      ← fieldOr? Json.bool? standard.colours colours⟩
  | _ => none

/-- The text of a configuration file. -/
def print (config : Config) : String := String.ofList config.toJson.print

/-- The configuration that a file's text stands for. -/
def parse? (text : String) : Option Config := (Json.read? text.toList).bind ofJson?

end Config

end CodeGrowth
