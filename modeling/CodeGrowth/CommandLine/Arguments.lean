import CodeGrowth.Display
import CodeGrowth.Language

/-!
# Command-line arguments

Arguments are read from left to right, and the first fault ends the reading. An option is a long
name after two dashes, or a letter that may share its dash with others. The value of an option is
the rest of its argument or the next one, which must not look like an option itself. After two
dashes alone everything is an operand. The general options stand before the command or after it,
and after it they win. No option is given twice in one of these places.
-/
namespace CodeGrowth.CommandLine

inductive Flag where
  | verbose
  | config
  | noColour
  | version
  | help
  | format
  | dialect
  | copy
  | init
  deriving DecidableEq, Repr

namespace Flag

def long : Flag → String
  | verbose => "verbose"
  | config => "config"
  | noColour => "no-color"
  | version => "version"
  | help => "help"
  | format => "format"
  | dialect => "dialect"
  | copy => "copy"
  | init => "init"

def letter? : Flag → Option Char
  | verbose => some 'v'
  | version => some 'V'
  | help => some 'h'
  | format => some 'f'
  | dialect => some 'd'
  | _ => none

def takesValue : Flag → Bool
  | config => true
  | format => true
  | dialect => true
  | _ => false

/-- The values that an option can have: any path but the empty one, and the names of formats and
dialects. -/
def accepts (flag : Flag) (value : String) : Bool :=
  match flag with
  | config => !value.isEmpty
  | format => Display.Format.all.any (·.name == value)
  | dialect => Language.Dialect.all.any (·.name == value)
  | _ => value.isEmpty

end Flag

/-- Where an argument stands: before the command, or after one of the commands. -/
inductive Place where
  | general
  | analyze
  | sample
  | config
  deriving DecidableEq, Repr

namespace Place

/-- The options that are known in a place. -/
def flags : Place → List Flag
  | general => [.verbose, .config, .noColour, .help, .version]
  | analyze => [.verbose, .config, .noColour, .help, .format, .dialect, .copy]
  | sample => [.verbose, .config, .noColour, .help, .format, .dialect]
  | config => [.verbose, .config, .noColour, .help, .init]

/-- The place after the command of this name. -/
def ofCommand? (name : String) : Option Place :=
  [("analyze", analyze), ("sample", sample), ("config", config)].lookup name

end Place

/-- A fault in the arguments. -/
inductive UsageFault where
  | unknownOption (text : String)
  | unexpectedValue (flag : Flag)
  | missingValue (flag : Flag)
  | invalidValue (flag : Flag) (value : String)
  | repeatedOption (flag : Flag)
  | unexpectedOperand (text : String)
  | unknownCommand (name : String)
  | missingCommand
  deriving DecidableEq, Repr

/-- Why reading the arguments ended without a command to run. -/
inductive Halt where
  | fault (fault : UsageFault)
  | version
  | help
  deriving DecidableEq, Repr

/-- What an argument amounts to, part by part. -/
inductive Item where
  | option (flag : Flag) (value : String)
  | operand (text : String)
  | fault (fault : UsageFault)
  deriving DecidableEq, Repr

/-- The items of an argument, and whether the argument after it was taken as a value. -/
structure Reading where
  items : List Item
  tookNext : Bool
  deriving DecidableEq, Repr

/-- An argument that cannot be the value of the option before it. A single dash can. -/
def looksLikeOption (text : String) : Bool := text.toList.head? = some '-' && text != "-"

/-- An option whose value has to be the next argument. -/
def withNext (flag : Flag) (next : Option String) : Reading :=
  match next with
  | some value =>
    if looksLikeOption value then ⟨[.fault (.missingValue flag)], false⟩
    else ⟨[.option flag value], true⟩
  | none => ⟨[.fault (.missingValue flag)], false⟩

/-- An option given by its long name, with the value after an equals sign if there is one. -/
def readLong (place : Place) (text : List Char) (next : Option String) : Reading :=
  let name := String.ofList (text.takeWhile (· != '='))
  let value? : Option String := match text.dropWhile (· != '=') with
    | [] => none
    | _ :: value => some (String.ofList value)
  match place.flags.find? (·.long == name), value? with
  | none, _ => ⟨[.fault (.unknownOption ("--" ++ String.ofList text))], false⟩
  | some flag, some value =>
    if flag.takesValue then ⟨[.option flag value], false⟩
    else ⟨[.fault (.unexpectedValue flag)], false⟩
  | some flag, none => if flag.takesValue then withNext flag next else ⟨[.option flag ""], false⟩

/-- Options given by letters. The first one that takes a value takes the rest of the letters, less
an equals sign at their start. -/
def readLetters (place : Place) (next : Option String) : List Char → Reading
  | [] => ⟨[], false⟩
  | letter :: rest =>
    match place.flags.find? (·.letter? == some letter) with
    | none => ⟨[.fault (.unknownOption (String.ofList ['-', letter]))], false⟩
    | some flag =>
      if flag.takesValue then
        match rest with
        | [] => withNext flag next
        | '=' :: value => ⟨[.option flag (String.ofList value)], false⟩
        | value => ⟨[.option flag (String.ofList value)], false⟩
      else
        let reading := readLetters place next rest
        ⟨.option flag "" :: reading.items, reading.tookNext⟩

/-- Read one argument in view of the next. -/
def readArgument (place : Place) (text : String) (next : Option String) : Reading :=
  match text.toList with
  | '-' :: '-' :: name => readLong place name next
  | '-' :: letter :: letters => readLetters place next (letter :: letters)
  | _ => ⟨[.operand text], false⟩

/-- What was given in one place. -/
structure Given where
  options : List (Flag × String)
  operand : Option String
  deriving DecidableEq, Repr

namespace Given

def nothing : Given := ⟨[], none⟩

def value? (given : Given) (flag : Flag) : Option String := given.options.lookup flag

def has (given : Given) (flag : Flag) : Bool := (given.value? flag).isSome

def addOption (given : Given) (flag : Flag) (value : String) : Except Halt Given :=
  if flag = .version then .error .version
  else if flag = .help then .error .help
  else if given.has flag then .error (.fault (.repeatedOption flag))
  else if flag.accepts value then .ok { given with options := (flag, value) :: given.options }
  else .error (.fault (.invalidValue flag value))

/-- Only one command takes an operand, and only one. -/
def addOperand (given : Given) (place : Place) (text : String) : Except Halt Given :=
  if place = .analyze ∧ given.operand = none ∧ text ≠ "" then
    .ok { given with operand := some text }
  else .error (.fault (.unexpectedOperand text))

def add (given : Given) (place : Place) : Item → Except Halt Given
  | .option flag value => given.addOption flag value
  | .operand text => given.addOperand place text
  | .fault fault => .error (.fault fault)

def addAll (given : Given) (place : Place) : List Item → Except Halt Given
  | [] => .ok given
  | item :: items =>
    match given.add place item with
    | .error halt => .error halt
    | .ok given => given.addAll place items

end Given

/-- Read the arguments after two dashes. -/
def readOperands (place : Place) (given : Given) (args : List String) : Except Halt Given :=
  given.addAll place (args.map .operand)

/-- Read the arguments after a command. -/
def readCommand (place : Place) (given : Given) : List String → Except Halt Given
  | [] => .ok given
  | text :: rest =>
    if text = "--" then readOperands place given rest
    else
      let reading := readArgument place text rest.head?
      match given.addAll place reading.items with
      | .error halt => .error halt
      | .ok given =>
        if reading.tookNext then
          match rest with
          | [] => .ok given
          | _ :: rest => readCommand place given rest
        else readCommand place given rest

inductive Command where
  | analyze (input : Option String) (format : Option Display.Format)
      (dialect : Option Language.Dialect) (copy : Bool)
  | sample (dialect : Option Language.Dialect) (format : Option Display.Format)
  | config (init : Bool)
  deriving DecidableEq, Repr

/-- A command with the general options. -/
structure Invocation where
  command : Command
  verbose : Bool
  config : Option String
  noColour : Bool
  deriving DecidableEq, Repr

namespace Given

def format? (given : Given) : Option Display.Format :=
  (given.value? .format).bind fun name => Display.Format.all.find? (·.name == name)

def dialect? (given : Given) : Option Language.Dialect :=
  (given.value? .dialect).bind fun name => Language.Dialect.all.find? (·.name == name)

/-- The command that was given, if the place is one after a command. -/
def command (given : Given) : Place → Command
  | .analyze => .analyze given.operand given.format? given.dialect? (given.has .copy)
  | .sample => .sample given.dialect? given.format?
  | _ => .config (given.has .init)

end Given

/-- The invocation from what was given before the command and after it. -/
def Invocation.of (general given : Given) (place : Place) : Invocation where
  command := given.command place
  verbose := general.has .verbose || given.has .verbose
  config := (given.value? .config).or (general.value? .config)
  noColour := general.has .noColour || given.has .noColour

/-- A request for help on the commands named. -/
def readHelp : List String → Halt
  | [] => .help
  | [name] =>
    if (Place.ofCommand? name).isSome || name = "help" then .help
    else .fault (.unknownCommand name)
  | _ :: name :: _ => .fault (.unknownCommand name)

/-- Read the command and what follows it. -/
def readFrom (general : Given) (name : String) (rest : List String) : Except Halt Invocation :=
  if name = "help" then .error (readHelp rest)
  else
    match Place.ofCommand? name with
    | none => .error (.fault (.unknownCommand name))
    | some place => (readCommand place .nothing rest).map fun given => .of general given place

/-- Read the arguments up to the command, and on from there. -/
def readGeneral (given : Given) : List String → Except Halt Invocation
  | [] => .error (.fault .missingCommand)
  | text :: rest =>
    if text = "--" then
      match rest with
      | [] => .error (.fault .missingCommand)
      | operand :: _ => .error (.fault (.unexpectedOperand operand))
    else if looksLikeOption text then
      let reading := readArgument .general text rest.head?
      match given.addAll .general reading.items with
      | .error halt => .error halt
      | .ok given =>
        if reading.tookNext then
          match rest with
          | [] => .error (.fault .missingCommand)
          | _ :: rest => readGeneral given rest
        else readGeneral given rest
    else readFrom given text rest

/-- Read all arguments. -/
def readArguments (args : List String) : Except Halt Invocation := readGeneral .nothing args

end CodeGrowth.CommandLine
