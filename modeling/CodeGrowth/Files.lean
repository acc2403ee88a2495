import CodeGrowth.Files.Path

/-!
# Files

A tree of files and directories as a program sees it through paths. It has regular files and
directories only: no links, no devices and no pipes. Nobody else changes it, anyone may read and
write everything in it, and it is never full. A program whose files differ from such a tree, say by
permissions, is outside of what is modelled here.

In a path, `.` stays where it is and `..` goes up; a name is looked up in a directory only, and a
path that ends in a slash means a directory. A path that starts with a slash is read from the root,
any other from the working directory. Every operation that fails says why and changes nothing,
except that the directories made on the way to a failure stay.
-/
namespace CodeGrowth

/-- A place in the tree: the names that lead to it from the root, the last first. Their number is
kept beside them, so that places of different depth are told apart at once. -/
structure Location where
  depth : Nat
  names : List String
  depth_eq : depth = names.length
  deriving DecidableEq, Repr

namespace Location

def root : Location := ⟨0, [], rfl⟩

def child (location : Location) (name : String) : Location :=
  ⟨location.depth + 1, name :: location.names, by rw [location.depth_eq, List.length_cons]⟩

/-- The directory around a place. The root lies in itself. -/
def parent (location : Location) : Location :=
  ⟨location.depth - 1, location.names.tail, by rw [location.depth_eq, List.length_tail]⟩

/-- The place to which names lead from a place. -/
def descend (location : Location) (names : List String) : Location := names.foldl child location

def name? (location : Location) : Option String := location.names.head?

/-- The inner place lies somewhere below the outer one. -/
def isAbove (outer inner : Location) : Bool :=
  outer.depth < inner.depth && inner.names.drop (inner.depth - outer.depth) == outer.names

end Location

inductive Node where
  | file (bytes : ByteArray)
  | directory

structure Files where
  /-- Where paths without a leading slash start. -/
  working : Location
  nodes : List (Location × Node)

namespace Files

/-- The node at a location. Every directory on the way to a node exists, and so does the root. -/
def node? (files : Files) (location : Location) : Option Node :=
  match files.nodes.lookup location with
  | some node => some node
  | none =>
    if location = .root || files.nodes.any (location.isAbove ·.1) then some .directory else none

/-- The files with a node put at a location, in place of the one there before. -/
def put (files : Files) (location : Location) (node : Node) : Files :=
  { files with nodes := (location, node) :: files.nodes.filter (·.1 != location) }

/-- The node at a location, if its name can be looked up. -/
def lookUp (files : Files) (location : Location) : Except FileFault (Option Node) :=
  if location.name?.any (Path.nameByteLimit < ·.utf8ByteSize) then .error .nameTooLong
  else .ok (files.node? location)

/-- The directory at a location, or why there is none. -/
def enter (files : Files) (location : Location) : Except FileFault Location :=
  match files.lookUp location with
  | .error fault => .error fault
  | .ok (some .directory) => .ok location
  | .ok (some (.file _)) => .error .notDirectory
  | .ok none => .error .notFound

/-- The location that names lead to. What the last of them names need not exist. -/
def walk (files : Files) (location : Location) : List String → Except FileFault Location
  | [] => .ok location
  | name :: names =>
    match files.enter location with
    | .error fault => .error fault
    | .ok location =>
      if name = "." then files.walk location names
      else if name = ".." then files.walk location.parent names
      else files.walk (location.child name) names

def origin (files : Files) (path : Path) : Location :=
  if path.absolute then .root else files.working

def locate (files : Files) (path : Path) : Except FileFault Location :=
  match path.fault? with
  | some fault => .error fault
  | none => files.walk (files.origin path) path.names

/-- The node that a path leads to. -/
def find (files : Files) (path : Path) : Except FileFault Node :=
  match files.locate path with
  | .error fault => .error fault
  | .ok location =>
    match files.lookUp location with
    | .error fault => .error fault
    | .ok none => .error .notFound
    | .ok (some (.file bytes)) =>
      if path.wantsDirectory then .error .notDirectory else .ok (.file bytes)
    | .ok (some .directory) => .ok .directory

/-- Something is there. -/
def has (files : Files) (path : Path) : Bool :=
  match files.find path with
  | .ok _ => true
  | .error _ => false

/-- The text of some bytes. -/
def textOf (bytes : ByteArray) : Except FileFault String :=
  match String.fromUTF8? bytes with
  | some text => .ok text
  | none => .error .notText

/-- The text of the file at a path. -/
def read (files : Files) (path : Path) : Except FileFault String :=
  match files.find path with
  | .error fault => .error fault
  | .ok .directory => .error .isDirectory
  | .ok (.file bytes) => textOf bytes

/-- Put a text into the file at a path, which is made or replaced. A path that means a directory
takes no text. -/
def write (files : Files) (path : Path) (text : String) : Except FileFault Unit × Files :=
  match files.locate path with
  | .error fault => (.error fault, files)
  | .ok location =>
    if path.wantsDirectory then (.error .isDirectory, files)
    else
      match files.lookUp location with
      | .error fault => (.error fault, files)
      | .ok (some .directory) => (.error .isDirectory, files)
      | .ok _ => (.ok (), files.put location (.file text.toUTF8))

/-- Make the directories that are missing on the way along some names. A file in the way ends the
attempt: it is no directory if names follow it and nothing was `made` so far; else a directory would
have to be made in its place. -/
def makeDirectories (files : Files) (location : Location) (made : Bool) :
    List String → Except FileFault Unit × Files
  | [] => (.ok (), files)
  | name :: names =>
    if name = "." then files.makeDirectories location made names
    else if name = ".." then files.makeDirectories location.parent made names
    else
      match files.lookUp (location.child name) with
      | .error fault => (.error fault, files)
      | .ok (some .directory) => files.makeDirectories (location.child name) made names
      | .ok (some (.file _)) =>
        (.error (if made || names.isEmpty then .alreadyExists else .notDirectory), files)
      | .ok none =>
        let files := files.put (location.child name) .directory
        files.makeDirectories (location.child name) true names

/-- Make every directory that a file at a path needs. -/
def makeParents (files : Files) (path : Path) : Except FileFault Unit × Files :=
  match path.parent? with
  | none => (.ok (), files)
  | some parent =>
    match parent.fault? with
    | some fault => (.error fault, files)
    | none => files.makeDirectories (files.origin parent) false parent.names

end Files

end CodeGrowth
