/-!
# Paths

A path is a text in which slashes separate names. What a path leads to depends on the files, but its
spelling alone decides where it starts, which steps it takes and whether it can be used at all:
paths and names have limits of length, in bytes.

The faults are those of a tree of regular files and directories that anyone may read and write. A
refused permission, a loop of links or a device that fails is not among them.
-/
namespace CodeGrowth

/-- Why a file could not be used. -/
inductive FileFault where
  | notFound
  | alreadyExists
  | notDirectory
  | isDirectory
  | nameTooLong
  /-- The path has a null character. -/
  | nullCharacter
  /-- The bytes are not UTF-8. -/
  | notText
  deriving DecidableEq, Repr

namespace FileFault

def message : FileFault → String
  | notFound => "No such file or directory (os error 2)"
  | alreadyExists => "File exists (os error 17)"
  | notDirectory => "Not a directory (os error 20)"
  | isDirectory => "Is a directory (os error 21)"
  | nameTooLong => "File name too long (os error 36)"
  | nullCharacter => "file name contained an unexpected NUL byte"
  | notText => "stream did not contain valid UTF-8"

end FileFault

/-- A path as it is spelled. -/
structure Path where
  text : List Char
  deriving DecidableEq, Repr

namespace Path

def ofText (text : String) : Path := ⟨text.toList⟩

def absolute (path : Path) : Bool := path.text.head? = some '/'

/-- The path ends in a slash. -/
def wantsDirectory (path : Path) : Bool := path.text.getLast? = some '/'

/-- The names between the slashes of a text. -/
def namesOf (text : List Char) : List String :=
  (text.splitOn '/').filterMap fun name => if name.isEmpty then none else some (String.ofList name)

def names (path : Path) : List String := namesOf path.text

/-- The names that say where to go; `.` says nothing except at the start. -/
def steps (path : Path) : List String :=
  match path.names with
  | [] => []
  | first :: rest =>
    if path.absolute then (first :: rest).filter (· != ".") else first :: rest.filter (· != ".")

/-- With a step a text ends, read backwards. -/
def endsStep : List Char → Bool
  | [] => false
  | '/' :: _ => false
  | ['.'] => true
  | '.' :: '/' :: _ => false
  | _ => true

/-- The beginnings of a text up to the end of each step, given what was read of it backwards. -/
def stagesFrom (read : List Char) : List Char → List Path
  | [] => if endsStep read then [⟨read.reverse⟩] else []
  | c :: rest =>
    if c = '/' && endsStep read then ⟨read.reverse⟩ :: stagesFrom (c :: read) rest
    else stagesFrom (c :: read) rest

/-- The paths that lead to a path step by step, the longest last. -/
def stages (path : Path) : List Path := stagesFrom [] path.text

/-- The path of the directory that a path leads into with its last step, if it takes another step
before. -/
def parent? (path : Path) : Option Path := path.stages.dropLast.getLast?

/-- A path has fewer bytes than this. -/
def byteLimit : Nat := 4096

/-- A name has no more bytes than this. -/
def nameByteLimit : Nat := 255

/-- Why the path cannot be used, whatever the files. -/
def fault? (path : Path) : Option FileFault :=
  if path.text.contains (Char.ofNat 0) then some .nullCharacter
  else if byteLimit ≤ (String.ofList path.text).utf8ByteSize then some .nameTooLong
  else if path.text.isEmpty then some .notFound
  else none

end Path

end CodeGrowth
