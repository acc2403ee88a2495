import CodeGrowth.Config
import CodeGrowth.Files
import CodeGrowth.Files.Path
import CodeGrowth.Log.Event

/-!
# Failures and configuration files

What can go wrong outside the analysis itself: a source that cannot be read, and a configuration
that cannot be read, understood, accepted or written. A failure is reported with its cause. Why a
text is no configuration is for the reader of JSON to say, and its `reason` is passed on.

A configuration is loaded from a path and saved to one. Where nothing is found, the standard
settings hold. What was loaded is valid; what is saved is not checked.
-/
namespace CodeGrowth

inductive Failure where
  | sourceFile (path : String) (fault : FileFault)
  | standardInput (fault : FileFault)
  | configFile (path : String) (fault : FileFault)
  | configText (path reason : String)
  | gaugeWidth (width : Nat)
  deriving DecidableEq, Repr

namespace Failure

/-- The deeper reason, where there is one. -/
def cause? : Failure → Option String
  | sourceFile _ fault => some fault.message
  | standardInput fault => some fault.message
  | configFile _ fault => some fault.message
  | configText _ reason => some reason
  | gaugeWidth _ => none

def message : Failure → String
  | sourceFile path fault => "Failed to read source from " ++ path ++ ": " ++ fault.message
  | standardInput fault => "Failed to read source from stdin: " ++ fault.message
  | configFile path fault => "Failed to access config " ++ path ++ ": " ++ fault.message
  | configText path reason => "Invalid config " ++ path ++ ": " ++ reason
  | gaugeWidth width =>
    "indicator_width must be between " ++ Config.minGaugeWidth.repr ++ " and " ++
      Config.maxGaugeWidth.repr ++ ", got " ++ width.repr

/-- A text with every line of it indented. -/
def indented (text : String) : String :=
  String.ofList ("    ".toList ++ text.toList.flatMap fun c =>
    if c = '\n' then "\n    ".toList else [c])

/-- The report on a failed run: the message, below it the cause, and at its end a trace of the
calls, which is empty where none is asked for. -/
def report (failure : Failure) (trace : String) : String :=
  let cause : String := match failure.cause? with
    | some cause => "\n\nCaused by:\n" ++ indented cause
    | none => ""
  "Error: " ++ failure.message ++ cause ++ trace ++ "\n"

end Failure

namespace Config

/-- The configuration of a file's text. -/
def ofText (reason : String → String) (path text : String) : Except Failure Config :=
  match parse? text with
  | none => .error (.configText path (reason text))
  | some config => if config.isValid then .ok config else .error (.gaugeWidth config.gaugeWidth)

/-- The settings for a path, and the event that tells where they come from. -/
def load (reason : String → String) (files : Files) (path : String) :
    Except Failure (Config × Log.Event) :=
  if files.has (Path.ofText path) then
    match files.read (Path.ofText path) with
    | .error fault => .error (.configFile path fault)
    | .ok text => (ofText reason path text).map fun config => (config, .configLoaded path)
  else .ok (standard, .configMissing path)

/-- Write a configuration, with the directories that its path needs. -/
def save (config : Config) (files : Files) (path : String) : Except Failure Unit × Files :=
  match files.makeParents (Path.ofText path) with
  | (.error fault, files) => (.error (.configFile path fault), files)
  | (.ok (), files) =>
    match files.write (Path.ofText path) config.print with
    | (.error fault, files) => (.error (.configFile path fault), files)
    | (.ok (), files) => (.ok (), files)

end Config

end CodeGrowth
