import CodeGrowth.CommandLine.Arguments
import CodeGrowth.Config.File
import CodeGrowth.Session
import CodeGrowth.Display.Writer
import CodeGrowth.Log.Filter

/-!
# Running a command

A run is a function of its arguments, its standard input, the environment and the files. It loads
the configuration before anything else. Reports go to standard output; events go to the error
stream as far as the log filter admits them, and so does the reason of a failure, which comes last.
Some texts are only passed on: those of the readers of arguments and of JSON, and a trace of the
calls. They are not worded here, and nothing is said about them.
-/
namespace CodeGrowth.CommandLine
open Display (Format Writer Printed)

/-- The environment as far as it matters: the home directory of the user, variables, and where
standard output goes. A variable whose value is no text counts as unset. -/
structure Environment where
  /-- The directory that is set, unless that is empty, or else the one that the system keeps for the
  user. -/
  home : Option String
  configHome : Option String
  logFilter : Option String
  jsonOutput : Option String
  noColour : Option String
  forceColour : Option String
  colour : Option String
  backtrace : Option String
  libraryBacktrace : Option String
  terminal : Bool
  deriving DecidableEq, Repr

/-- A path inside a directory. -/
def joinPath (directory name : String) : String :=
  if directory.toList.getLast? = some '/' then directory ++ name else directory ++ "/" ++ name

namespace Environment

/-- The directory for configurations: the one that is set, if its path is absolute, or else the
customary one in the home directory. -/
def configDirectory (env : Environment) : String :=
  match env.configHome.filter fun path => path.toList.head? = some '/' with
  | some path => path
  | none =>
    match env.home with
    | some home => joinPath home ".config"
    | none => "."

/-- Where the configuration is looked for unless a path is given. -/
def configPath (env : Environment) : String :=
  joinPath (joinPath env.configDirectory "loopsight") "config.json"

/-- Whether colours may be printed. Forcing them wins over forbidding them, and without either they
are for a terminal. -/
def admitsColours (env : Environment) : Bool :=
  env.forceColour.any (· != "0") ||
    (env.noColour.isNone && env.terminal && env.colour.all (· != "0"))

/-- The format for output when none is chosen. -/
def format (env : Environment) : Format := .automatic env.jsonOutput.isSome env.terminal

/-- The filter that is set, or one by the verbosity if none is set or it cannot be read. -/
def filter (env : Environment) (verbose : Bool) : Log.Filter :=
  (env.logFilter.bind Log.Filter.parse?).getD (.upTo (if verbose then .debug else .info))

/-- A failure is to be reported with the calls that led to it. What is set for libraries wins. -/
def tracesCalls (env : Environment) : Bool :=
  (env.libraryBacktrace.or env.backtrace).any (· != "0")

end Environment

/-- Texts that a run passes on as they are. -/
structure Wording where
  /-- Why a text is no configuration. -/
  malformed : String → String
  help : String
  fault : UsageFault → String
  /-- The calls that led to a failure, as its report shows them. -/
  trace : String

/-- What a run is given apart from the files. -/
structure Input where
  args : List String
  stdin : ByteArray
  environment : Environment
  clipboard : String → CopyOutcome
  wording : Wording

/-- The trace at the end of a report. -/
def Input.trace (input : Input) : String :=
  if input.environment.tracesCalls then input.wording.trace else ""

/-- What a command does: what it notes and prints, how it fails if it does, and the files after
it. -/
structure Effect where
  events : List Log.Event
  printed : Printed
  failure : Option Failure
  files : Files

namespace Effect

def failed (failure : Failure) (files : Files) : Effect := ⟨[], .none, some failure, files⟩

/-- An effect with earlier events. -/
def after (events : List Log.Event) (effect : Effect) : Effect :=
  { effect with events := events ++ effect.events }

end Effect

/-- The path of the configuration that holds for an invocation. -/
def Invocation.configPath (invocation : Invocation) (env : Environment) : String :=
  invocation.config.getD env.configPath

/-- The writer for a chosen format, or else the configured one, or else the automatic one. -/
def writerFor (format : Option Format) (config : Config) (noColour : Bool) (env : Environment) :
    Writer :=
  ⟨(format.or config.format).getD env.format, config.gaugeWidth,
    env.admitsColours && !noColour && config.colours⟩

/-- The operand means standard input. -/
def isStandardInput (operand : Option String) : Bool :=
  match operand with
  | none => true
  | some text => Path.steps (Path.ofText text) = ["-"] && !(Path.ofText text).absolute

/-- The source to analyze. -/
def readSource (operand : Option String) (stdin : ByteArray) (files : Files) :
    Except Failure String :=
  match operand with
  | some path =>
    if isStandardInput (some path) then (Files.textOf stdin).mapError .standardInput
    else (files.read (Path.ofText path)).mapError (.sourceFile path)
  | none => (Files.textOf stdin).mapError .standardInput

/-- The notice on copying, as a step of the writer. -/
def copyStep (outcome : CopyOutcome) : Display.Step :=
  match outcome with
  | .copied => .success outcome.notice.toList
  | .skipped => .info outcome.notice.toList
  | .failed _ => .warning outcome.notice.toList

def runAnalyze (operand : Option String) (writer : Writer) (dialect : Language.Dialect)
    (copy : Bool) (input : Input) (files : Files) : Effect :=
  match readSource operand input.stdin files with
  | .error failure => .failed failure files
  | .ok source =>
    let step := (Session.start dialect).run source.toList
    let copied : List Display.Step :=
      if copy then [copyStep (copyText input.clipboard step.session.last.copyText)] else []
    ⟨.sourceRead source.utf8ByteSize :: step.events,
      writer.printAll (.report step.outcome step.session.dialect.name :: copied), none, files⟩

def runSample (writer : Writer) (dialect : Language.Dialect) (files : Files) : Effect :=
  let step := (Session.start dialect).runSample
  ⟨.sampleChosen dialect :: step.events,
    writer.printAll [.source dialect.sample.toList,
      .report step.outcome step.session.dialect.name], none, files⟩

/-- The lines that show a configuration. -/
def showConfig (path : String) (config : Config) : List Char :=
  ("📁 Config path: " ++ path ++ "\n" ++ config.print ++ "\n").toList

def runConfig (init : Bool) (path : String) (config : Config) (files : Files) : Effect :=
  if init then
    if files.has (Path.ofText path) then
      ⟨[.configKept path], .onOut (showConfig path config), none, files⟩
    else
      match Config.standard.save files path with
      | (.error failure, files) => .failed failure files
      | (.ok (), files) =>
        let written := "✅ Config written to: " ++ path ++ "\n"
        ⟨[], .onOut (written.toList ++ showConfig path config), none, files⟩
  else ⟨[], .onOut (showConfig path config), none, files⟩

/-- Run a command under a configuration. -/
def runCommand (invocation : Invocation) (config : Config) (input : Input) (files : Files) :
    Effect :=
  match invocation.command with
  | .analyze operand format dialect copy =>
    runAnalyze operand (writerFor format config invocation.noColour input.environment)
      (dialect.getD config.dialect) copy input files
  | .sample dialect format =>
    runSample (writerFor format config invocation.noColour input.environment)
      (dialect.getD config.dialect) files
  | .config init => runConfig init (invocation.configPath input.environment) config files

/-- Load the configuration and run the command. -/
def runInvocation (invocation : Invocation) (input : Input) (files : Files) : Effect :=
  match Config.load input.wording.malformed files (invocation.configPath input.environment) with
  | .error failure => .failed failure files
  | .ok (config, event) =>
    (runCommand invocation config input files).after [event, .configEffective config]

/-- What the caller of the program sees. -/
structure Result where
  code : Nat
  out : List Char
  err : List Char
  files : Files

/-- The lines of the admitted events. -/
def logText (filter : Log.Filter) (events : List Log.Event) : List Char :=
  (events.filter filter.admits).flatMap fun event => event.line.toList ++ ['\n']

namespace Effect

/-- A failed command exits with one, any other with zero. -/
def result (effect : Effect) (filter : Log.Filter) (trace : String) : Result :=
  let err := logText filter effect.events ++ effect.printed.err
  match effect.failure with
  | some failure => ⟨1, effect.printed.out, err ++ (failure.report trace).toList, effect.files⟩
  | none => ⟨0, effect.printed.out, err, effect.files⟩

end Effect

def versionText : String := "loopsight 0.0.1\n"

def run (input : Input) (files : Files) : Result :=
  match readArguments input.args with
  | .error .version => ⟨0, versionText.toList, [], files⟩
  | .error .help => ⟨0, input.wording.help.toList, [], files⟩
  | .error (.fault fault) => ⟨2, [], (input.wording.fault fault).toList, files⟩
  | .ok invocation =>
    (runInvocation invocation input files).result (input.environment.filter invocation.verbose)
      input.trace

end CodeGrowth.CommandLine
