import CodeGrowth.Explanation
import CodeGrowth.Record.Findings

/-!
# Explanations as records

An explanation is written with all its fields, `null` standing for an optional one that is none.
The report on one snippet puts the analysis, its explanation and the dialect into one record.
-/
namespace CodeGrowth
open Json (record ofNat ofText ofTexts)

namespace Headline

def toJson (headline : Headline) : Json :=
  record [("text", ofText headline.text), ("badge", ofText headline.badge.name)]

def ofJson? (json : Json) : Option Headline :=
  match json.fields? ["text", "badge"] with
  | some [some text, some badge] => do
    return ⟨← text.text?, ← badge.choice? Badge.all Badge.name⟩
  | _ => none

end Headline

namespace Explanation

def scoresJson (scores : Nat × Nat) : Json := .array [ofNat scores.1, ofNat scores.2]

def scoresOf? : Json → Option (Nat × Nat)
  | .array [scoreC, scoreJava] => do
    return (← Language.score? scoreC, ← Language.score? scoreJava)
  | _ => none

def toJson (explanation : Explanation) : Json :=
  record [("detected_language", ofText explanation.language),
    ("language_scores", Json.orNull (explanation.scores.map scoresJson)),
    ("loops", explanation.loops.toJson),
    ("nest_depth", ofNat explanation.nestDepth),
    ("functions", ofTexts explanation.functions),
    ("complexity", explanation.growth.toJson),
    ("complexity_level", Json.orNull (explanation.growthLevel.map ofNat)),
    ("complexity_details", ofText explanation.growthDetails),
    ("recursion", explanation.recursion.toJson),
    ("recursion_details", ofText explanation.recursionDetails),
    ("prose", ofText explanation.prose),
    ("indicator_percent", ofNat explanation.percent)]

def ofJson? (json : Json) : Option Explanation :=
  match json.fields? ["detected_language", "language_scores", "loops", "nest_depth", "functions",
    "complexity", "complexity_level", "complexity_details", "recursion", "recursion_details",
    "prose", "indicator_percent"] with
  | some [some language, scores, some loops, some nestDepth, some functions, some growth,
      growthLevel, some growthDetails, some recursion, some recursionDetails, some prose,
      some percent] => do
    return ⟨← language.text?, ← Json.optional? scoresOf? scores, ← Loop.Counts.ofJson? loops,
      ← nestDepth.count?, ← functions.list? Json.text?, ← Headline.ofJson? growth,
      ← Json.optional? Growth.Estimate.level? growthLevel, ← growthDetails.text?,
      ← Headline.ofJson? recursion, ← recursionDetails.text?, ← prose.text?,
      ← Language.score? percent⟩
  | _ => none

end Explanation

/-- The report on one snippet. Only findings are explained in it. -/
def reportRecord (analysis : Analysis) (explanation : Explanation) (dialect : String) : Json :=
  record <| analysis.members ++
    Json.member? "explanation" (analysis.findings?.map fun _ => explanation.toJson) ++
    [("dialect", ofText dialect)]

end CodeGrowth
