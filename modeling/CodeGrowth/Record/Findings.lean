import CodeGrowth.Analysis
import CodeGrowth.Json

/-!
# Analyses as records

Each part of an analysis is written as a record and read back from one. An analysis is marked by
its `state`, and the findings of a report stand beside that mark, not inside a record of their own.
What is optional there is left out when it is none. A named value among the findings is read
loosely.
-/
namespace CodeGrowth
open Json (record ofNat ofText ofTexts)

namespace Loop.Counts

def toJson (counts : Counts) : Json :=
  record [("for_count", ofNat counts.forCount), ("while_count", ofNat counts.whileCount),
    ("do_while_count", ofNat counts.doWhileCount)]

def ofJson? (json : Json) : Option Counts :=
  match json.fields? ["for_count", "while_count", "do_while_count"] with
  | some [some forCount, some whileCount, some doWhileCount] => do
    return ⟨← forCount.count?, ← whileCount.count?, ← doWhileCount.count?⟩
  | _ => none

end Loop.Counts

namespace Recursion.Info

def toJson (info : Info) : Json :=
  record [("has_recursion", .bool info.hasRecursion), ("functions", ofTexts info.functions),
    ("recursive_fns", ofTexts info.recursive)]

def ofJson? (json : Json) : Option Info :=
  match json.fields? ["has_recursion", "functions", "recursive_fns"] with
  | some [some hasRecursion, some functions, some recursive] => do
    return ⟨← hasRecursion.bool?, ← functions.list? Json.text?, ← recursive.list? Json.text?⟩
  | _ => none

end Recursion.Info

namespace Language

def Dialect.toJson (dialect : Dialect) : Json := ofText dialect.name

def Dialect.ofJson? : Json → Option Dialect := Json.choice? Dialect.all Dialect.name

def Label.toJson (label : Label) : Json := ofText label.name

def Label.ofJson? : Json → Option Label := Json.choice? Label.all Label.name

/-- Scores and percentages are whole numbers of 32 bits. -/
def score? : Json → Option Nat := Json.natBelow? UInt32.size

def Guess.toJson (guess : Guess) : Json :=
  record [("label", guess.label.toJson), ("score_c", ofNat guess.scoreC),
    ("score_java", ofNat guess.scoreJava)]

def Guess.ofJson? (json : Json) : Option Guess :=
  match json.fields? ["label", "score_c", "score_java"] with
  | some [some label, some scoreC, some scoreJava] => do
    return ⟨← label.looseChoice? Label.all Label.name, ← score? scoreC, ← score? scoreJava⟩
  | _ => none

end Language

namespace Loop.Endless

def recordName : Endless → String
  | whileTrue => "while_true"
  | emptyFor => "empty_for"
  | doWhileTrue => "do_while_true"

def all : List Endless := [whileTrue, emptyFor, doWhileTrue]

def toJson (kind : Endless) : Json := ofText kind.recordName

def ofJson? : Json → Option Endless := Json.looseChoice? all recordName

end Loop.Endless

namespace Growth.Estimate

/-- A level is a whole number of eight bits. -/
def level? : Json → Option Nat := Json.natBelow? UInt8.size

def toJson (growth : Estimate) : Json :=
  record [("label", ofText growth.label), ("message", ofText growth.message),
    ("total_loops", ofNat growth.totalLoops), ("level", ofNat growth.level)]

def ofJson? (json : Json) : Option Estimate :=
  match json.fields? ["label", "message", "total_loops", "level"] with
  | some [some label, some message, some totalLoops, some level] => do
    return ⟨← label.text?, ← message.text?, ← totalLoops.count?, ← level? level⟩
  | _ => none

end Growth.Estimate

namespace Findings

/-- The members that findings contribute to a record. -/
def members (findings : Findings) : List (String × Json) :=
  [("language", findings.language.toJson), ("loops", findings.loops.toJson),
    ("nest_depth", ofNat findings.nestDepth), ("recursion", findings.recursion.toJson),
    ("infinite_loop_detected", .bool findings.endlessLoop)] ++
  Json.member? "infinite_loop" (findings.endless.map Loop.Endless.toJson) ++
  Json.member? "complexity" (findings.growth.map Growth.Estimate.toJson)

def ofJson? (json : Json) : Option Findings :=
  match json.fields? ["language", "loops", "nest_depth", "recursion", "infinite_loop_detected",
    "infinite_loop", "complexity"] with
  | some [some language, some loops, some nestDepth, some recursion, some endlessLoop, endless,
      growth] => do
    return ⟨← Language.Guess.ofJson? language, ← Loop.Counts.ofJson? loops, ← nestDepth.count?,
      ← Recursion.Info.ofJson? recursion, ← endlessLoop.bool?,
      ← Json.optional? Loop.Endless.ofJson? endless,
      ← Json.optional? Growth.Estimate.ofJson? growth⟩
  | _ => none

end Findings

namespace Analysis

/-- The members that an analysis contributes to a record. -/
def members : Analysis → List (String × Json)
  | empty => [("state", ofText "empty")]
  | report findings => ("state", ofText "report") :: findings.members

def toJson (analysis : Analysis) : Json := record analysis.members

/-- The analysis with this mark and these other contents. -/
def ofState? (state : String) (contents : Json) : Option Analysis :=
  if state = "empty" then
    match contents with
    | .array (_ :: _) => none
    | _ => some empty
  else if state = "report" then (Findings.ofJson? contents).map report
  else none

def ofJson? : Json → Option Analysis
  | .object members =>
    match Json.byKey? ["state"] members with
    | some [some (.string (some state))] =>
      ofState? state (.object (members.filter (·.1 != some "state")))
    | _ => none
  | .array (.string (some state) :: contents) => ofState? state (.array contents)
  | _ => none

end Analysis

end CodeGrowth
