import CodeGrowth.Comment
import CodeGrowth.Growth
import CodeGrowth.Language
import CodeGrowth.Loop

/-!
# Analysis of a snippet

A snippet is trimmed, freed of comments, and handed to every detector. A blank snippet has nothing
to analyze. Where an endless loop shows, no growth is estimated.
-/
namespace CodeGrowth

/-- What the detectors found in a snippet that is not blank. `endlessLoop` says whether one was
found and `endless` which; both come from one search. -/
structure Findings where
  language : Language.Guess
  loops : Loop.Counts
  nestDepth : Nat
  recursion : Recursion.Info
  endlessLoop : Bool
  endless : Option Loop.Endless
  growth : Option Growth.Estimate
  deriving DecidableEq, Repr

inductive Analysis where
  | empty
  | report (findings : Findings)
  deriving DecidableEq, Repr

namespace Findings

/-- The findings in a text without comments. -/
def ofCleaned (cleaned : List Char) : Findings :=
  let loops := Loop.count cleaned
  let nestDepth := Loop.nestDepth cleaned
  let recursion := Recursion.detect cleaned
  let endless := Loop.findEndless? cleaned
  { language := Language.classify cleaned
    loops, nestDepth, recursion
    endlessLoop := endless.isSome
    endless
    growth := if endless.isSome then none else some (Growth.estimate loops recursion nestDepth) }

end Findings

namespace Analysis

def findings? : Analysis → Option Findings
  | empty => none
  | report findings => some findings

end Analysis

def analyze (source : List Char) : Analysis :=
  let trimmed := Text.trim source
  if trimmed.isEmpty then .empty else .report (Findings.ofCleaned (Comment.strip trimmed))

end CodeGrowth
