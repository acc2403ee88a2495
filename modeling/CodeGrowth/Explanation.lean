import CodeGrowth.Analysis

/-!
# Explanation of an analysis

An explanation holds everything that is shown for one analysis: the counts as they are, two
headlines with their weight, the details below them, and a prose summary. `Explanation.text` is
the rendering that carries every count, score and name.
-/
namespace CodeGrowth

/-- The visual weight of a headline. -/
inductive Badge where
  | main
  | neutral
  | good
  | warn
  | bad
  deriving DecidableEq, Repr

namespace Badge

def name : Badge → String
  | main => "main"
  | neutral => "neutral"
  | good => "good"
  | warn => "warn"
  | bad => "bad"

def all : List Badge := [main, neutral, good, warn, bad]

/-- The weight of a growth level. -/
def ofLevel (level : Nat) : Badge :=
  if level = 0 then main else if level = 1 then good else if level = 2 then warn else bad

end Badge

structure Headline where
  text : String
  badge : Badge
  deriving DecidableEq, Repr

/-- What is shown for one analysis. The language scores are the C score and the Java score. -/
structure Explanation where
  language : String
  scores : Option (Nat × Nat)
  loops : Loop.Counts
  nestDepth : Nat
  functions : List String
  growth : Headline
  growthLevel : Option Nat
  growthDetails : String
  recursion : Headline
  recursionDetails : String
  prose : String
  percent : Nat
  deriving DecidableEq, Repr

/-- Names in a sentence. -/
def commaList (names : List String) : String := ", ".intercalate names

/-- The share of the gauge for a growth level: a quarter for each level up to the highest. -/
def gaugePercent (level : Nat) : Nat :=
  (min level Growth.maxLevel + 1) * 100 / (Growth.maxLevel + 1)

namespace Explanation

/-- The display before anything was analyzed, and again after blank input. -/
def empty : Explanation where
  language := "–"
  scores := none
  loops := .zero
  nestDepth := 0
  functions := []
  growth := ⟨"–", .main⟩
  growthLevel := none
  growthDetails := "Run analysis to view how loops and recursion influence the runtime."
  recursion := ⟨"Not analyzed yet", .neutral⟩
  recursionDetails := ""
  prose := "Paste some code and run the analyzer to see a natural language explanation of the " ++
    "detected patterns and approximate time complexity."
  percent := 0

def endlessHeadline : Headline := ⟨"Non-terminating (infinite loop)", .bad⟩

def endlessDetails : String :=
  "An always-true loop condition (e.g., while(1), for(;;), or do-while(1)) was detected. " ++
    "The program does not terminate, so time complexity is unbounded rather than O(n), O(n²), etc."

def noFunctionsHint : String :=
  "Paste a full function definition to inspect recursion (e.g., int f(int n) \x7b ... \x7d)."

/-- The headline on recursion and the names below it. -/
def recursionSummary (recursion : Recursion.Info) : Headline × String :=
  if recursion.functions.isEmpty then (⟨"No functions detected", .neutral⟩, noFunctionsHint)
  else
    let detected := "Functions detected: " ++ commaList recursion.functions
    if recursion.hasRecursion then
      (⟨"Recursion detected", .bad⟩,
        "Recursive functions: " ++ commaList recursion.recursive ++ ". " ++ detected)
    else (⟨"No recursion found", .good⟩, detected)

def loopBreakdown (loops : Loop.Counts) : String :=
  "for: " ++ loops.forCount.repr ++ ", while: " ++ loops.whileCount.repr ++ ", do-while: " ++
    loops.doWhileCount.repr

def constantProse : String :=
  "No loops or recursion were detected, so the runtime appears constant with respect to input " ++
    "size. Any extra cost is from simple statements only."

/-- The sentence on nesting, if there is any. -/
def nestingSentence (nestDepth : Nat) : List String :=
  if 1 < nestDepth then
    ["A nesting depth of about " ++ nestDepth.repr ++
      " suggests that some loops run inside others, which increases how fast runtime grows with " ++
      "input size."]
  else if nestDepth = 1 then
    ["The loops appear mostly single-layer, which usually yields linear growth with input size."]
  else []

/-- The prose for a program that was given an estimate. -/
def boundedProse (growth : Growth.Estimate) (findings : Findings) : String :=
  if growth.totalLoops = 0 ∧ findings.recursion.hasRecursion = false then constantProse
  else
    " ".intercalate <|
      ["The analyzer found " ++ growth.totalLoops.repr ++ " loop(s) (" ++
        loopBreakdown findings.loops ++ ")."] ++
      nestingSentence findings.nestDepth ++
      if findings.recursion.hasRecursion then
        ["Recursion was detected in: " ++ commaList findings.recursion.recursive ++
          ". The exact complexity depends on how many recursive calls are made and how the " ++
          "arguments shrink at each step."]
      else []

/-- The prose for a program that does not end. -/
def endlessProse (findings : Findings) : String :=
  let shape : String := match findings.endless with
    | some kind => " (" ++ kind.describe ++ ")"
    | none => ""
  " ".intercalate <|
    ["The analyzer found an infinite loop pattern" ++ shape ++ "."] ++
    (if 0 < findings.loops.total then
      ["Loop count summary: " ++ loopBreakdown findings.loops ++ "."] else []) ++
    (if findings.recursion.hasRecursion then
      ["Recursion is also present in function(s): " ++
        commaList findings.recursion.recursive ++ "."] else []) ++
    ["Since the loop condition never becomes false, the code keeps running indefinitely."]

/-- The explanation of findings for which growth was estimated. -/
def bounded (findings : Findings) (growth : Growth.Estimate) : Explanation where
  language := findings.language.label.name
  scores := some (findings.language.scoreC, findings.language.scoreJava)
  loops := findings.loops
  nestDepth := findings.nestDepth
  functions := findings.recursion.functions
  growth := ⟨growth.label, .ofLevel growth.level⟩
  growthLevel := some growth.level
  growthDetails := growth.message
  recursion := (recursionSummary findings.recursion).1
  recursionDetails := (recursionSummary findings.recursion).2
  prose := boundedProse growth findings
  percent := gaugePercent growth.level

/-- The explanation of findings without an estimate to show. -/
def endless (findings : Findings) : Explanation where
  language := findings.language.label.name
  scores := some (findings.language.scoreC, findings.language.scoreJava)
  loops := findings.loops
  nestDepth := findings.nestDepth
  functions := findings.recursion.functions
  growth := endlessHeadline
  growthLevel := none
  growthDetails := endlessDetails
  recursion := (recursionSummary findings.recursion).1
  recursionDetails := (recursionSummary findings.recursion).2
  prose := endlessProse findings
  percent := 100

/-- An estimate is shown only if no endless loop was found. -/
def ofFindings (findings : Findings) : Explanation :=
  match findings.growth with
  | some growth => if findings.endlessLoop then endless findings else bounded findings growth
  | none => endless findings

/-- The text to copy. -/
def copyText (explanation : Explanation) : String :=
  String.ofList (Text.trim explanation.prose.toList)

def languageLine (explanation : Explanation) : String :=
  "Detected language: " ++ explanation.language ++
    match explanation.scores with
    | some (scoreC, scoreJava) =>
      " (C score: " ++ scoreC.repr ++ ", Java score: " ++ scoreJava.repr ++ ")"
    | none => ""

def loopLine (explanation : Explanation) : String :=
  "Loops: for " ++ explanation.loops.forCount.repr ++ ", while " ++
    explanation.loops.whileCount.repr ++ ", do-while " ++ explanation.loops.doWhileCount.repr ++
    " (total " ++ explanation.loops.total.repr ++ ")"

def growthLine (explanation : Explanation) : String :=
  "Complexity: " ++ explanation.growth.text ++
    match explanation.growthLevel with
    | some level => " [level " ++ level.repr ++ "]"
    | none => ""

def textLines (explanation : Explanation) : List String :=
  [explanation.languageLine, explanation.loopLine,
    "Nesting depth: " ++ explanation.nestDepth.repr, explanation.growthLine,
    explanation.growthDetails, "Recursion: " ++ explanation.recursion.text] ++
  (if explanation.recursionDetails.isEmpty then [] else [explanation.recursionDetails]) ++
  ["", explanation.prose]

/-- The rendering in plain text. -/
def text (explanation : Explanation) : String := "\n".intercalate explanation.textLines

end Explanation

def explain : Analysis → Explanation
  | .empty => .empty
  | .report findings => .ofFindings findings

end CodeGrowth
