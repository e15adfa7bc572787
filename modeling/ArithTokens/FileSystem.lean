/-!
# File systems

A file system is known by what stands in it, each file or directory at a location given by the
names on the way down from the root. A path is followed part by part, from the root or from the
directory where the system is used; every part but the last has to lead to a directory, and the last
one to a file. A part that leads to a link is replaced by the way to its target, for a limited
number of links.
-/

namespace ArithTokens

/-- Why the bytes of a source cannot be had or are not a text. -/
inductive ReadFailure where
  | notFound
  | notADirectory
  | isADirectory
  | nameTooLong
  | tooManyLinks
  | notText
  | other (description : String) (code : Nat)
deriving DecidableEq, Repr

namespace ReadFailure

/-- A failure that the operating system reports under a number. -/
def numbered (description : String) (code : Nat) : String :=
  description ++ " (os error " ++ code.repr ++ ")"

/-- The words for a failure. -/
def cause : ReadFailure → String
  | .notFound => numbered "No such file or directory" 2
  | .notADirectory => numbered "Not a directory" 20
  | .isADirectory => numbered "Is a directory" 21
  | .nameTooLong => numbered "File name too long" 36
  | .tooManyLinks => numbered "Too many levels of symbolic links" 40
  | .notText => "stream did not contain valid UTF-8"
  | .other description code => numbered description code

end ReadFailure

/-- The parts of a path between its slashes. -/
def pathParts (path : String) : List (List Char) := path.toList.splitOn '/'

/-- A location in a file system: the names on the way down to it from the root, the last one first.
The root itself has none. -/
abbrev Location := List (List Char)

namespace Location

/-- One part of a path further. At the root no part leads up. -/
def descend (location : Location) (part : List Char) : Location :=
  if part = [] || part = ['.'] then location
  else if part = ['.', '.'] then location.tail
  else part :: location

/-- The location behind a path that starts at a location. -/
def behind (location : Location) (path : String) : Location :=
  (pathParts path).foldl descend location

end Location

/-- What can stand at a location. The target of a link is given by the names on the way down to it
from the root. -/
inductive Node where
  | file (content : ByteArray)
  | directory
  | link (target : List (List Char))
  | unreadable (failure : ReadFailure)

/-- What stands at its locations, the first entry for a location being the one that counts, the
location where paths start that do not start at the root, and the directories in and below which a
name can have any length. -/
structure FileSystem where
  entries : List (Location × Node)
  home : Location
  unlimited : List Location

namespace FileSystem

/-- Puts a file at the end of a path, in place of the one that was there. -/
def write (system : FileSystem) (path : String) (content : ByteArray) : FileSystem :=
  { system with entries := (system.home.behind path, .file content) :: system.entries }

/-- Puts files into a system, one after the other. -/
def writeAll (system : FileSystem) (files : List (String × ByteArray)) : FileSystem :=
  files.foldl (fun system (path, content) => system.write path content) system

/-- What stands at a location. It is a directory if something is further down. -/
def node? (system : FileSystem) (location : Location) : Option Node :=
  match system.entries.lookup location with
  | some node => some node
  | none =>
    if location = [] || system.entries.any (fun entry => location.isSuffixOf entry.1) then
      some .directory
    else none

/-- Says that nothing in a directory can have a name, as it has more than 255 bytes. -/
def isTooLong (system : FileSystem) (directory : Location) (name : List Char) : Bool :=
  255 < (String.ofList name).utf8ByteSize && !system.unlimited.any (·.isSuffixOf directory)

/-- The number of links that can be followed on the way to a file. -/
def linkLimit : Nat := 40

/-- The bytes of the file behind the parts of a path that are still to be followed from a location
over no more than some number of links. -/
def follow (system : FileSystem) (links : Nat) (location : Location) (parts : List (List Char)) :
    Except ReadFailure ByteArray :=
  match parts with
  | [] =>
    match system.node? location with
    | some (.file content) => .ok content
    | some .directory => .error .isADirectory
    | some (.unreadable failure) => .error failure
    | some (.link _) | none => .error .notFound
  | part :: rest =>
    match system.node? location with
    | some .directory =>
      if system.isTooLong location part then .error .nameTooLong
      else
        match system.node? (location.descend part), links with
        | some (.link _), 0 => .error .tooManyLinks
        | some (.link target), links + 1 => system.follow links [] (target ++ rest)
        | _, links => system.follow links (location.descend part) rest
    | some (.file _) | some (.unreadable _) => .error .notADirectory
    | some (.link _) | none => .error .notFound
termination_by (links, parts.length)

/-- The bytes of the file behind a path. A path that starts with a slash starts at the root, and no
path has 4096 bytes or more. -/
def read (system : FileSystem) (path : String) : Except ReadFailure ByteArray :=
  if 4096 ≤ path.utf8ByteSize then .error .nameTooLong
  else
    system.follow linkLimit (if path.toList.head? = some '/' then [] else system.home)
      (pathParts path)

end FileSystem

end ArithTokens
