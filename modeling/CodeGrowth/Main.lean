import CodeGrowth.CommandLine.Run

/-!
# The program

Collects what a run depends on, lets `CommandLine.run` decide, and carries out what it decided. Of
the file system it takes in the two paths that a run can look at and the directories above them. The
texts that a run passes on are worded here, for this program alone.
-/
namespace CodeGrowth.Main
open CommandLine

/-- All bytes that a stream still holds. -/
partial def readAll (stream : IO.FS.Stream) (bytes : ByteArray) : IO ByteArray := do
  let more ← stream.read 65536
  if more.isEmpty then return bytes else readAll stream (bytes ++ more)

def pathText (location : Location) : String := "/" ++ "/".intercalate location.names.reverse

/-- The node at a location, if there is one that can be read. -/
def nodeAt? (location : Location) : IO (Option Node) := do
  let path := (← IO.currentDir) / pathText location
  if ← path.isDir then return some .directory
  try return some (.file (← IO.FS.readBinFile path))
  catch _ => return none

/-- The files with the nodes on the way along some names. -/
def surveyFrom (files : Files) (location : Location) : List String → IO Files
  | [] => return files
  | name :: names => do
    let location :=
      if name = "." then location
      else if name = ".." then location.parent
      else location.child name
    let files ← match ← nodeAt? location with
      | some node => pure (files.put location node)
      | none => pure files
    surveyFrom files location names

def survey (files : Files) (path : String) : IO Files :=
  let path := Path.ofText path
  surveyFrom files (files.origin path) path.names

/-- The paths that an invocation looks at. -/
def pathsOf (invocation : Invocation) (env : Environment) : List String :=
  invocation.configPath env ::
    match invocation.command with
    | .analyze (some path) _ _ _ => [path]
    | _ => []

/-- Carry out the additions to the files, the oldest first. -/
def commit (before after : Files) : IO Unit := do
  let known := before.nodes.map (·.1)
  for (location, node) in after.nodes.reverse do
    unless known.contains location do
      match node with
      | .directory => IO.FS.createDirAll (pathText location)
      | .file bytes => IO.FS.writeBinFile (pathText location) bytes

/-- The variables of the process. One that is no text is left out. -/
def readVariables : IO (List (String × String)) := do
  let bytes ← IO.FS.readBinFile "/proc/self/environ"
  return (bytes.toList.splitOn 0).filterMap fun entry =>
    (String.fromUTF8? ⟨entry.toArray⟩).map fun text =>
      let (name, value) := text.toList.span (· != '=')
      (String.ofList name, String.ofList (value.drop 1))

/-- The home directory that the system keeps for the user of the process. -/
def keptHome : IO (Option String) := do
  try
    let status ← IO.FS.readFile "/proc/self/status"
    let users ← IO.FS.readFile "/etc/passwd"
    let user? : Option String := (status.splitOn "\n").findSome? fun line =>
      match line.splitOn "\t" with
      | "Uid:" :: user :: _ => some user
      | _ => none
    return (users.splitOn "\n").findSome? fun line =>
      match line.splitOn ":" with
      | [_, _, user, _, _, home, _] => if some user = user? then some home else none
      | _ => none
  catch _ => return none

def environment : IO Environment := do
  let values ← readVariables
  let home ← match (values.lookup "HOME").filter (!·.isEmpty) with
    | some home => pure (some home)
    | none => keptHome
  return {
    home
    configHome := values.lookup "XDG_CONFIG_HOME"
    logFilter := values.lookup "RUST_LOG"
    jsonOutput := values.lookup "LOOPSIGHT_JSON"
    noColour := values.lookup "NO_COLOR"
    forceColour := values.lookup "CLICOLOR_FORCE"
    colour := values.lookup "CLICOLOR"
    backtrace := values.lookup "RUST_BACKTRACE"
    libraryBacktrace := values.lookup "RUST_LIB_BACKTRACE"
    terminal := ← (← IO.getStdout).isTty }

def helpText : String :=
  "Estimate loops, nesting, recursion and Big-O of C-like snippets\n\n" ++
  "Usage: loopsight [-v] [--config PATH] [--no-color] COMMAND\n\n" ++
  "  analyze [FILE] [-f FORMAT] [-d DIALECT] [--copy]\n" ++
  "  sample [-d DIALECT] [-f FORMAT]\n" ++
  "  config [--init]\n\n" ++
  "FORMAT is human, plain or json; DIALECT is c or java. Without FILE, or with -, the source\n" ++
  "is read from standard input.\n"

def faultText : UsageFault → String
  | .unknownOption text => "unknown option " ++ text
  | .unexpectedValue flag => "option --" ++ flag.long ++ " takes no value"
  | .missingValue flag => "option --" ++ flag.long ++ " needs a value"
  | .invalidValue flag value => "invalid value '" ++ value ++ "' for option --" ++ flag.long
  | .repeatedOption flag => "option --" ++ flag.long ++ " is given more than once"
  | .unexpectedOperand text => "unexpected argument '" ++ text ++ "'"
  | .unknownCommand name => "unknown command '" ++ name ++ "'"
  | .missingCommand => "a command is needed: analyze, sample or config"

/-- The words of this program. It keeps no track of its calls. -/
def wording : Wording where
  malformed := fun _ => "not a configuration in JSON"
  help := helpText
  fault := fun fault => "error: " ++ faultText fault ++ "\n"
  trace := ""

def standardInput (invocation : Invocation) : IO ByteArray :=
  match invocation.command with
  | .analyze operand _ _ _ =>
    if isStandardInput operand then do readAll (← IO.getStdin) ByteArray.empty
    else return ByteArray.empty
  | _ => return ByteArray.empty

end CodeGrowth.Main

open CodeGrowth CodeGrowth.CommandLine CodeGrowth.Main in
def main (args : List String) : IO UInt32 := do
  let env ← environment
  let working := Location.root.descend (Path.namesOf (← IO.currentDir).toString.toList)
  let bare : Files := ⟨working, [(working, .directory)]⟩
  let (files, stdin) ← match readArguments args with
    | .ok invocation => do
      let files ← (pathsOf invocation env).foldlM survey bare
      pure (files, ← standardInput invocation)
    | .error _ => pure (bare, ByteArray.empty)
  let clipboard : String → CopyOutcome := fun _ => .failed "clipboard not available"
  let result := run ⟨args, stdin, env, clipboard, wording⟩ files
  commit files result.files
  (← IO.getStderr).putStr (String.ofList result.err)
  (← IO.getStdout).putStr (String.ofList result.out)
  return result.code.toUInt32
