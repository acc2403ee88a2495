import CodeGrowth.Display
import CodeGrowth.Json
import CodeGrowth.Record.Explanation
import CodeGrowth.Session
import CodeGrowth.Text.Blank

/-!
# Report writer

A writer prints in one format. Colours appear only in the human format, and JSON output consists of
report documents alone. Warnings go to the error stream in every format.
-/
namespace CodeGrowth.Display
open Text

structure Writer where
  format : Format
  gaugeWidth : Nat
  /-- Colours are admitted. -/
  colours : Bool
  deriving DecidableEq, Repr

/-- What a step prints on the two streams. -/
structure Printed where
  out : List Char
  err : List Char
  deriving DecidableEq, Repr

namespace Printed

def none : Printed := ⟨[], []⟩

def onOut (text : List Char) : Printed := ⟨text, []⟩

def onErr (text : List Char) : Printed := ⟨[], text⟩

def append (a b : Printed) : Printed := ⟨a.out ++ b.out, a.err ++ b.err⟩

instance : Append Printed := ⟨append⟩

@[simp] theorem append_out (a b : Printed) : (a ++ b).out = a.out ++ b.out := rfl

/-- Parts printed one after the other. -/
def all (parts : List Printed) : Printed := parts.foldr append none

@[simp] theorem all_nil : all [] = none := rfl

@[simp] theorem all_cons (part : Printed) (parts : List Printed) :
    all (part :: parts) = part ++ all parts := rfl

end Printed

/-- One thing to print. -/
inductive Step where
  | section (title : List Char)
  | success (message : List Char)
  | warning (message : List Char)
  | info (message : List Char)
  | source (code : List Char)
  | table (rows : List (List Char × List Char))
  | gauge (percent : Nat)
  | report (outcome : Outcome) (dialect : String)

/-- The number of bytes that a text takes in UTF-8. -/
def byteLength (text : List Char) : Nat := text.foldr (fun c length => c.utf8Size + length) 0

theorem byteLength_append (a b : List Char) :
    byteLength (a ++ b) = byteLength a + byteLength b := by
  induction a with
  | nil => exact (Nat.zero_add _).symm
  | cons c a ih =>
    show c.utf8Size + byteLength (a ++ b) = c.utf8Size + byteLength a + byteLength b
    rw [ih, Nat.add_assoc]

theorem byteLength_replicate (n : Nat) (c : Char) :
    byteLength (List.replicate n c) = n * c.utf8Size := by
  induction n with
  | zero => exact (Nat.zero_mul _).symm
  | succ n ih =>
    show c.utf8Size + byteLength (List.replicate n c) = (n + 1) * c.utf8Size
    rw [ih, Nat.succ_mul, Nat.add_comm]

namespace Writer

def isHuman (writer : Writer) : Bool := writer.format == .human

/-- The colours that are used in the writer's format. -/
def inks (writer : Writer) : Bool := writer.isHuman && writer.colours

/-- A text in an ink, if the writer colours. -/
def ink (writer : Writer) (ink : Ink) (text : List Char) : List Char :=
  paint writer.inks ink 0 text

def line (text : List Char) : Printed := .onOut (text ++ ['\n'])

def indented (text : List Char) : Printed := line ("  ".toList ++ text)

/-- Something that is printed unless the format is JSON. -/
def unlessJson (writer : Writer) (printed : Printed) : Printed :=
  if writer.format = .json then .none else printed

def printSection (writer : Writer) (title : List Char) : Printed :=
  let underline : Char := if writer.isHuman then '═' else '='
  writer.unlessJson <| line [] ++ line (writer.ink .cyanBold title) ++
    line (writer.ink .cyan (List.replicate title.length underline))

def printSuccess (writer : Writer) (message : List Char) : Printed :=
  let mark : List Char := if writer.isHuman then writer.ink .green ['✓'] else "[OK]".toList
  writer.unlessJson (indented (mark ++ ' ' :: message))

def printWarning (writer : Writer) (message : List Char) : Printed :=
  let mark : List Char := if writer.isHuman then writer.ink .yellow ['⚠'] else "[WARN]".toList
  .onErr ("  ".toList ++ mark ++ ' ' :: message ++ ['\n'])

def printInfo (writer : Writer) (message : List Char) : Printed :=
  writer.unlessJson (indented message)

/-- The length in bytes of the longest key. -/
def keyWidth (rows : List (List Char × List Char)) : Nat :=
  (rows.map fun row => byteLength row.1).foldl max 0

def printRow (writer : Writer) (width : Nat) (row : List Char × List Char) : Printed :=
  let separator : List Char := if writer.isHuman then " │ ".toList else " : ".toList
  indented (paint writer.inks .yellow width row.1 ++ separator ++ row.2)

def printTable (writer : Writer) (rows : List (List Char × List Char)) : Printed :=
  writer.unlessJson (.all (rows.map (writer.printRow (keyWidth rows))))

def printSource (writer : Writer) (code : List Char) : Printed :=
  writer.unlessJson <| writer.printSection "Sample".toList ++
    .all ((listing code).map fun l => indented (writer.ink .dim l))

def gauge (writer : Writer) (percent : Nat) : List Char :=
  if writer.isHuman then
    framed (writer.ink (gaugeInk percent) (bar '█' '░' percent writer.gaugeWidth)) percent
  else framed (bar '#' '-' percent writer.gaugeWidth) percent

def badgeInk : Badge → Ink
  | .main => .cyanBold
  | .neutral => .dim
  | .good => .green
  | .warn => .yellow
  | .bad => .redBold

def badge (writer : Writer) (headline : Headline) : List Char :=
  writer.ink (badgeInk headline.badge) ('[' :: headline.text.toList ++ [']'])

/-- The columns of the loop table. -/
def loopColumns (explanation : Explanation) : List Column :=
  [⟨"for".toList, Nat.toDigits 10 explanation.loops.forCount⟩,
    ⟨"while".toList, Nat.toDigits 10 explanation.loops.whileCount⟩,
    ⟨"do-while".toList, Nat.toDigits 10 explanation.loops.doWhileCount⟩,
    ⟨"total".toList, Nat.toDigits 10 explanation.loops.total⟩,
    ⟨"nest depth".toList, Nat.toDigits 10 explanation.nestDepth⟩]

def loopTable (writer : Writer) (explanation : Explanation) : List Char :=
  grid (if writer.isHuman then .drawn else .typed) (loopColumns explanation)

/-- The scores in the language table, empty if there are none. -/
def scoresText (explanation : Explanation) : String :=
  match explanation.scores with
  | some (scoreC, scoreJava) => "C " ++ scoreC.repr ++ " / Java " ++ scoreJava.repr
  | none => ""

/-- A report for readers. -/
def printFindings (writer : Writer) (explanation : Explanation) (dialect : String) : Printed :=
  .all [
    writer.printSection "Language".toList,
    writer.printTable [("Detected".toList, explanation.language.toList),
      ("Scores".toList, (scoresText explanation).toList), ("Dialect".toList, dialect.toList)],
    writer.printSection "Loops".toList,
    line (writer.loopTable explanation),
    writer.printSection "Recursion".toList,
    indented (writer.badge explanation.recursion),
    if explanation.recursionDetails.isEmpty then .none
    else writer.printInfo explanation.recursionDetails.toList,
    writer.printSection "Time Complexity".toList,
    indented (writer.badge explanation.growth),
    writer.printInfo explanation.growthDetails.toList,
    indented (writer.gauge explanation.percent),
    writer.printSection "Explanation".toList,
    writer.printInfo explanation.prose.toList]

def printReport (writer : Writer) (outcome : Outcome) (dialect : String) : Printed :=
  match writer.format with
  | .json => line (reportRecord outcome.analysis outcome.explanation dialect).print
  | _ =>
    match outcome.analysis with
    | .empty =>
      writer.printSection "Nothing to analyze".toList ++
        writer.printInfo outcome.explanation.prose.toList
    | .report _ => writer.printFindings outcome.explanation dialect

/-- What a step prints. A gauge by itself prints nothing; it is part of a report. -/
def print (writer : Writer) : Step → Printed
  | .section title => writer.printSection title
  | .success message => writer.printSuccess message
  | .warning message => writer.printWarning message
  | .info message => writer.printInfo message
  | .source code => writer.printSource code
  | .table rows => writer.printTable rows
  | .gauge _ => .none
  | .report outcome dialect => writer.printReport outcome dialect

def printAll (writer : Writer) (steps : List Step) : Printed := .all (steps.map writer.print)

end Writer

end CodeGrowth.Display
