import CodeGrowth.Explanation
import CodeGrowth.Language
import CodeGrowth.Log.Event
import CodeGrowth.Text.Blank

/-!
# Sessions

A session remembers the selected dialect and the explanation shown last. Every run replaces the
explanation; it moves the selection only if the language label of its report settles for a dialect.

The explanation can be offered to a clipboard. A blank text is not copied. Whatever comes of an
attempt is told to the user and never stops the run.
-/
namespace CodeGrowth

structure Session where
  dialect : Language.Dialect
  last : Explanation
  deriving DecidableEq, Repr

/-- An analysis and what is shown for it. -/
structure Outcome where
  analysis : Analysis
  explanation : Explanation
  deriving DecidableEq, Repr

namespace Outcome

def ofSource (source : List Char) : Outcome := ⟨analyze source, explain (analyze source)⟩

end Outcome

namespace Analysis

/-- The dialect that an analysis steers the selection to. -/
def steered? (analysis : Analysis) : Option Language.Dialect :=
  analysis.findings?.bind fun findings => findings.language.label.steered?

end Analysis

namespace Session

def start (dialect : Language.Dialect) : Session := ⟨dialect, .empty⟩

/-- The session after an outcome. -/
def accept (session : Session) (outcome : Outcome) : Session :=
  ⟨outcome.analysis.steered?.getD session.dialect, outcome.explanation⟩

/-- What a session notes about an outcome: a reset, or a move of the selection. -/
def notes (session : Session) (outcome : Outcome) : List Log.Event :=
  match outcome.analysis with
  | .empty => [.displayReset]
  | .report findings =>
    match findings.language.label.steered? with
    | some dialect => if dialect = session.dialect then [] else [.dialectSwitched dialect]
    | none => []

/-- The result of one step of a session. -/
structure Step where
  session : Session
  outcome : Outcome
  events : List Log.Event
  deriving DecidableEq, Repr

/-- Analyze a snippet. -/
def run (session : Session) (source : List Char) : Step :=
  let outcome := Outcome.ofSource source
  ⟨session.accept outcome, outcome, Log.ofAnalysis outcome.analysis ++ session.notes outcome⟩

/-- Analyze the example snippet of the selected dialect. -/
def runSample (session : Session) : Step := session.run session.dialect.sample.toList

end Session

inductive CopyOutcome where
  | copied
  | skipped
  | failed (reason : String)
  deriving DecidableEq, Repr

namespace CopyOutcome

def notice : CopyOutcome → String
  | copied => "Copied explanation to clipboard"
  | skipped => "Nothing to copy"
  | failed reason => "Copy failed (" ++ reason ++ "). You can copy manually."

end CopyOutcome

/-- Offer a text to a clipboard, unless the text is blank. -/
def copyText (clipboard : String → CopyOutcome) (text : String) : CopyOutcome :=
  if (Text.trim text.toList).isEmpty then .skipped else clipboard text

end CodeGrowth
