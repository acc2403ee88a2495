import CodeGrowth.Analysis
import CodeGrowth.Config

/-!
# Log events

A run notes what it does in events. Each has a level, an origin, by which a filter may choose it,
and a message of one line.
-/
namespace CodeGrowth.Log

inductive Level where
  | error
  | warn
  | info
  | debug
  | trace
  deriving DecidableEq, Repr

namespace Level

def name : Level → String
  | error => "ERROR"
  | warn => "WARN"
  | info => "INFO"
  | debug => "DEBUG"
  | trace => "TRACE"

/-- How much is logged when the level is admitted: a level admits those of lower rank too. -/
def rank : Level → Nat
  | error => 1
  | warn => 2
  | info => 3
  | debug => 4
  | trace => 5

end Level

inductive Event where
  | blankInput
  | languageGuessed (guess : Language.Guess)
  | recursionScanned (functions recursive : Nat)
  | loopsCounted (loops : Loop.Counts) (nestDepth : Nat)
  | endlessFound (kind : Loop.Endless)
  | displayReset
  | dialectSwitched (dialect : Language.Dialect)
  | configMissing (path : String)
  | configLoaded (path : String)
  | configEffective (config : Config)
  | configKept (path : String)
  | sourceRead (bytes : Nat)
  | sampleChosen (dialect : Language.Dialect)
  deriving DecidableEq, Repr

namespace Event

def level : Event → Level
  | dialectSwitched _ => .info
  | sourceRead _ => .info
  | sampleChosen _ => .info
  | configKept _ => .warn
  | _ => .debug

/-- The part of the program that notes the event. -/
def origin : Event → String
  | blankInput => "loopsight::analysis"
  | languageGuessed _ => "loopsight::analysis"
  | loopsCounted _ _ => "loopsight::analysis"
  | endlessFound _ => "loopsight::analysis"
  | recursionScanned _ _ => "loopsight::recursion"
  | displayReset => "loopsight::session"
  | dialectSwitched _ => "loopsight::session"
  | configMissing _ => "loopsight::config"
  | configLoaded _ => "loopsight::config"
  | configEffective _ => "loopsight"
  | configKept _ => "loopsight"
  | sourceRead _ => "loopsight"
  | sampleChosen _ => "loopsight"

/-- The settings in one line. -/
def settings (config : Config) : String :=
  let dialect : String := match config.dialect with
    | .c => "C"
    | .java => "Java"
  let format : String := match config.format with
    | none => "None"
    | some .human => "Some(Human)"
    | some .plain => "Some(Plain)"
    | some .json => "Some(Json)"
  "InspectorConfig \x7b dialect: " ++ dialect ++ ", format: " ++ format ++ ", indicator_width: " ++
    config.gaugeWidth.repr ++ ", color: " ++ (if config.colours then "true" else "false") ++ " \x7d"

def message : Event → String
  | blankInput => "Blank input, returning empty state"
  | languageGuessed guess =>
    "Language guess: " ++ guess.label.name ++ " (C " ++ guess.scoreC.repr ++ ", Java " ++
      guess.scoreJava.repr ++ ")"
  | recursionScanned functions recursive =>
    "Recursion scan: " ++ functions.repr ++ " candidate(s), " ++ recursive.repr ++ " recursive"
  | loopsCounted loops nestDepth =>
    "Loops: for=" ++ loops.forCount.repr ++ " while=" ++ loops.whileCount.repr ++ " do-while=" ++
      loops.doWhileCount.repr ++ ", nest depth " ++ nestDepth.repr
  | endlessFound kind => "Infinite loop pattern " ++ kind.describe ++ ", skipping complexity"
  | displayReset => "Empty input, display reset"
  | dialectSwitched dialect => "Dialect selector switched to " ++ dialect.name
  | configMissing path => "No config at " ++ path ++ ", using defaults"
  | configLoaded path => "Loaded config from " ++ path
  | configEffective config => "Effective config: " ++ settings config
  | configKept path => "Config already exists at " ++ path ++ ", leaving it unchanged"
  | sourceRead bytes => "🔍 Analyzing " ++ bytes.repr ++ " bytes of source..."
  | sampleChosen dialect => "📄 Loading " ++ dialect.name ++ " sample..."

/-- A character as the log shows it. The characters with which a terminal could be steered are
written as escapes: five control characters of ASCII by two hexadecimal digits, and those from 128
to 159 by their code point in braces. -/
def shownChar (c : Char) : List Char :=
  if "\x07\x08\x0c\x1b\x7f".toList.contains c then
    '\\' :: 'x' :: Nat.toDigits 16 (c.toNat / 16) ++ Nat.toDigits 16 (c.toNat % 16)
  else if 0x80 ≤ c.toNat && c.toNat ≤ 0x9F then
    "\\u\x7b".toList ++ Nat.toDigits 16 c.toNat ++ ['\x7d']
  else [c]

/-- The event as a line of the log. -/
def line (event : Event) : String :=
  event.level.name ++ " " ++ String.ofList (event.message.toList.flatMap shownChar)

end Event

/-- What an analysis notes: its findings in the order in which they are made. -/
def ofAnalysis : Analysis → List Event
  | .empty => [.blankInput]
  | .report findings =>
    [.languageGuessed findings.language,
      .recursionScanned findings.recursion.functions.length findings.recursion.recursive.length,
      .loopsCounted findings.loops findings.nestDepth] ++
    findings.endless.toList.map .endlessFound

end CodeGrowth.Log
