import TypedJsx.Interface
import TypedJsx.Archive
/-!
File systems: directories and files by the parts of their absolute paths, and a working directory. Paths are
text between slashes: empty parts and `.` mean nothing, `..` is the directory above, and a path that starts
with a slash does not depend on the working directory.
-/
namespace TypedJsx

/-! ## Paths -/

namespace Path

/-- The pieces between slashes; always at least one. -/
def pieces : List Char → List (List Char)
  | [] => [[]]
  | c :: cs =>
    if c = '/' then [] :: pieces cs
    else match pieces cs with
      | [] => [[c]]
      | p :: ps => (c :: p) :: ps

def isAbsolute (path : List Char) : Bool := path.head? == some '/'

/-- The parts of a path that mean something. -/
def parts (path : List Char) : List (List Char) :=
  (pieces path).filter fun p => !p.isEmpty && p != ['.']

/-- A path that says by its end that it is a directory. -/
def endsInSlash (path : List Char) : Bool := path.getLast? == some '/'

/-- A path that ends in `.`, with or without slashes behind it. -/
def endsInDot (path : List Char) : Bool :=
  ((pieces path).filter fun p => !p.isEmpty).getLast? == some ['.']

/-- The parts of a path that something follows, if only a `.`: all but the last, or all. -/
def way (path : List Char) : List (List Char) :=
  if endsInDot path then parts path else (parts path).dropLast

/-- The last part of a path, if it is a name. -/
def fileName? (path : List Char) : Option (List Char) :=
  match (parts path).getLast? with
  | some ['.', '.'] | none => none
  | some name => some name

/-- What follows the last dot of a name, unless the dot comes first. -/
def extension? (name : List Char) : Option (List Char) :=
  let ending := name.reverse.takeWhile (· != '.')
  if ending.length + 1 < name.length then some ending.reverse else none

/-- A path inside a directory; an absolute one stays as it is. -/
def join (directory path : List Char) : List Char :=
  if isAbsolute path || directory.isEmpty then path
  else if endsInSlash directory then directory ++ path
  else directory ++ '/' :: path

/-- A path from behind, without the slashes and the parts `.` at its end. -/
def trimmed : List Char → List Char
  | '/' :: r => trimmed r
  | '.' :: '/' :: r => trimmed r
  | r => r

/-- The path without its last part. -/
def parent (path : List Char) : List Char :=
  let kept := (trimmed path.reverse).dropWhile (· != '/')
  match trimmed kept with
  | [] => if kept.isEmpty then [] else ['/']
  | rest => rest.reverse

/-- The place that one part of a path leads to. -/
def enter (directory : List (List Char)) (part : List Char) : List (List Char) :=
  if part == ['.', '.'] then directory.dropLast else directory ++ [part]

/-- Follows the parts of a path from a directory. -/
def follow (directory : List (List Char)) (parts : List (List Char)) : List (List Char) :=
  parts.foldl enter directory

/-- Order by parts. -/
def before : List (List Char) → List (List Char) → Bool
  | [], _ => true
  | _ :: _, [] => false
  | a :: as, b :: bs => a < b || (a == b && before as bs)

end Path

/-! ## Files and directories -/

/-- What a file holds: text, bytes that are no text, or an archive. -/
inductive FileContent where
  | text (value : String)
  | binary (bytes : List UInt8)
  | archive (value : Archive)
deriving DecidableEq, Inhabited

/-- Why an operation on files failed. -/
inductive FileError where
  | notFound | exists | notDirectory | isDirectory | notText
deriving DecidableEq, Repr, Inhabited

def FileError.message : FileError → String
  | .notFound => "No such file or directory (os error 2)"
  | .exists => "File exists (os error 17)"
  | .notDirectory => "Not a directory (os error 20)"
  | .isDirectory => "Is a directory (os error 21)"
  | .notText => "stream did not contain valid UTF-8"

structure FileSystem where
  files : List (List (List Char) × FileContent) := []
  /-- Directories that are known besides those that files stand in. -/
  directories : List (List (List Char)) := []
  /-- The working directory. -/
  home : List (List Char) := []
  /-- Directories whose entries cannot be listed. What stands in them can be read and written. -/
  unlisted : List (List (List Char)) := []
deriving Inhabited

namespace FileSystem

/-- The directory that a path starts from. -/
def origin (fs : FileSystem) (path : List Char) : List (List Char) :=
  if Path.isAbsolute path then [] else fs.home

/-- The place that a path names. -/
def resolve (fs : FileSystem) (path : List Char) : List (List Char) :=
  Path.follow (fs.origin path) (Path.parts path)

def file? (fs : FileSystem) (place : List (List Char)) : Option FileContent :=
  (fs.files.find? fun f => f.1 == place).map (·.2)

/-- A directory is known, or something known stands in it. -/
def isDirectoryAt (fs : FileSystem) (place : List (List Char)) : Bool :=
  place.isPrefixOf fs.home || fs.directories.any (place.isPrefixOf ·)
    || fs.files.any fun f => place.isPrefixOf f.1 && place.length < f.1.length

/-- Some directory above a place is a file. -/
def isBelowFile (fs : FileSystem) (place : List (List Char)) : Bool :=
  fs.files.any fun f => f.1.isPrefixOf place && f.1.length < place.length

/-- Why parts cannot be followed from a place: what the first of them leads to that is no directory is a
file, or is not there. -/
def obstacleFrom? (fs : FileSystem) (place : List (List Char)) : List (List Char) → Option FileError
  | [] => none
  | p :: rest =>
    let next := Path.enter place p
    if fs.isDirectoryAt next then fs.obstacleFrom? next rest
    else some (if (fs.file? next).isSome then .notDirectory else .notFound)

/-- Why a path cannot be followed to its end. What something follows has to be a directory, and the place
must not be below a file. -/
def obstacle? (fs : FileSystem) (path : List Char) : Option FileError :=
  (fs.obstacleFrom? (fs.origin path) (Path.way path)).or
    (if fs.isBelowFile (fs.resolve path) then some .notDirectory else none)

def isDirectory (fs : FileSystem) (path : List Char) : Bool :=
  (fs.obstacle? path).isNone && fs.isDirectoryAt (fs.resolve path)

/-- The text of a file. -/
def readText (fs : FileSystem) (path : List Char) : Except FileError String :=
  match fs.obstacle? path with
  | some e => .error e
  | none =>
    if fs.isDirectoryAt (fs.resolve path) then .error .isDirectory
    else match fs.file? (fs.resolve path) with
      | none => .error .notFound
      | some content =>
        if Path.endsInSlash path then .error .notDirectory
        else match content with
          | .text value => .ok value
          | _ => .error .notText

/-- A directory that cannot be listed is met on the way from a place down to a file. -/
def isHiddenFrom (fs : FileSystem) (place file : List (List Char)) : Bool :=
  fs.unlisted.any fun d => place.isPrefixOf d && d.isPrefixOf file && d.length < file.length

/-- The files that are found below a directory, by their paths from there, in order. Directories that cannot
be listed are passed over. -/
def filesBelow (fs : FileSystem) (path : List Char) : List (List (List Char)) :=
  let place := fs.resolve path
  let found := fs.files.filter fun f =>
    place.isPrefixOf f.1 && place.length < f.1.length && !fs.isHiddenFrom place f.1
  (found.map fun f => f.1.drop place.length).mergeSort Path.before

/-- Makes the directories that are missing on the way from a place. A file on the way is in the place of
a directory; it is noticed as a file only where a directory was to be made. A failure leaves the directories
that were made before. -/
def makeDirectories (fs : FileSystem) (hasMade : Bool) (place : List (List Char)) :
    List (List Char) → FileSystem × Option FileError
  | [] => (fs, none)
  | p :: rest =>
    let next := Path.enter place p
    if fs.isDirectoryAt next then fs.makeDirectories hasMade next rest
    else if (fs.file? next).isSome then
      (fs, some (if hasMade || rest.isEmpty then .exists else .notDirectory))
    else { fs with directories := fs.directories ++ [next] }.makeDirectories true next rest

/-- Makes a directory and all directories that its path goes through. -/
def createDirectories (fs : FileSystem) (path : List Char) : FileSystem × Option FileError :=
  fs.makeDirectories false (fs.origin path) (Path.parts path)

/-- Puts content at a place, in the stead of what was there. -/
def put (fs : FileSystem) (place : List (List Char)) (content : FileContent) : FileSystem :=
  if (fs.file? place).isSome then
    { fs with files := fs.files.map fun f => if f.1 == place then (place, content) else f }
  else { fs with files := fs.files ++ [(place, content)] }

/-- Writes a file, in the stead of one that may be there. -/
def write (fs : FileSystem) (path : List Char) (content : FileContent) :
    Except FileError FileSystem :=
  match fs.obstacle? path with
  | some e => .error e
  | none =>
    if fs.isDirectoryAt (fs.resolve path) || Path.endsInSlash path then .error .isDirectory
    else .ok (fs.put (fs.resolve path) content)

end FileSystem

end TypedJsx
