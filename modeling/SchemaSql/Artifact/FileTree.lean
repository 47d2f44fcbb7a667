import SchemaSql.Text.Split

/-!
# File trees

The files, directories and links below one directory, by the names on the way to them. A path is text with
slashes; `..` leads back up, `.` and empty names lead nowhere, and a link leads to where its target does. Paths
start at the root, also absolute ones. Making a directory makes the missing ones above it too, and a file is
written where its path leads.

What else can go wrong is up to the file system: names and paths that are too long, directories that may not
be entered, a disk that is full in the middle of a file. What was made or written before stays.
-/

namespace SchemaSql

/-- **A path**: the names on the way from the root of a tree. Paths to directories above the root consist of
`..` alone. -/
abbrev FilePath := List String

/-- **What stands at a path.** Of several names of one file, all but one count as links. -/
inductive FileEntry where
  | directory
  | file (content : ByteArray)
  | link (target : String)

namespace FileEntry

def isDirectory : FileEntry → Bool
  | .directory => true
  | _ => false

def isFile : FileEntry → Bool
  | .file _ => true
  | _ => false

end FileEntry

/-- **A file tree**: entries by their paths. The root is a directory and has no entry. -/
abbrev FileTree := List (FilePath × FileEntry)

namespace FilePath

/-- A path that leads from the root. -/
def isAbsolute (path : String) : Bool :=
  path.toList.head? = some '/'

/-- A path below a directory. An absolute path stands for itself. -/
def join (directory path : String) : String :=
  if isAbsolute path then path
  else if directory = "" ∨ directory.toList.getLast? = some '/' then directory ++ path
  else directory ++ "/" ++ path

/-- What stands between the slashes of a path. -/
def parts (path : String) : List String :=
  (Text.pieces '/' path.toList).map String.ofList

/-- The names of a path that lead somewhere. -/
def names (path : String) : List String :=
  (parts path).filter fun n => n ≠ "" ∧ n ≠ "."

/-- The last name of a path is `.`. -/
def endsInDot (path : String) : Bool :=
  ((parts path).filter fun n => n ≠ "").getLast? = some "."

/-- The path leads to the root or to a directory above it. -/
def leadsUp (p : FilePath) : Bool :=
  p.all (· == "..")

/-- The path of the directory above. -/
def parent (p : FilePath) : FilePath :=
  if p.leadsUp then p ++ [".."] else p.dropLast

end FilePath

namespace FileTree

/-- The entry at a path. The root and what is above it are directories. -/
def get? (t : FileTree) (p : FilePath) : Option FileEntry :=
  if p.leadsUp then some .directory else t.lookup p

/-- A tree with an entry at a path. -/
def set (t : FileTree) (p : FilePath) (e : FileEntry) : FileTree :=
  (p, e) :: t.filter fun x => x.1 ≠ p

/-- **Goes along names from a directory.** All but the last have to lead to directories; the last may lead to
a file, or nowhere yet. At a link it jumps to the target and what comes behind. -/
def walk (t : FileTree) (jump : FilePath → List String → Option FilePath) (here : FilePath) :
    List String → Option FilePath
  | [] => some here
  | n :: ns =>
    if n = "" ∨ n = "." then walk t jump here ns
    else if n = ".." then walk t jump here.parent ns
    else
      match t.get? (here ++ [n]) with
      | some .directory => walk t jump (here ++ [n]) ns
      | some (.link target) => jump (if FilePath.isAbsolute target then [] else here) (FilePath.parts target ++ ns)
      | _ => if ns.isEmpty then some (here ++ [n]) else none

/-- **Where names lead from a directory**, through a number of links at most. -/
def follow (t : FileTree) : Nat → FilePath → List String → Option FilePath
  | 0 => t.walk fun _ _ => none
  | links + 1 => t.walk (t.follow links)

end FileTree

/-- **What goes wrong with an entry**: it is refused, or writing it ends after some bytes. -/
inductive Fault where
  | refused
  | cut (size : Nat)

/-- **A file system**: how many links it follows on the way along a path, and what goes wrong with the entry at
a place that a path leads to. -/
structure FileSystem where
  maxLinks : Nat
  fault? : FileTree → String → FilePath → Option Fault

namespace FileSystem

variable (sys : FileSystem)

/-- The place that names lead to from the root. -/
def place? (t : FileTree) (ns : List String) : Option FilePath :=
  t.follow sys.maxLinks [] ns

/-- The directory that names lead to from the root. -/
def directory? (t : FileTree) (ns : List String) : Option FilePath :=
  (sys.place? t ns).filter fun p => (t.get? p).any FileEntry.isDirectory

/-- A path that is not even looked up. None has a null character in it. -/
def refuses (t : FileTree) (path : String) : Bool :=
  path.toList.contains '\x00' || (sys.fault? t path []).isSome

/-! ## Directories -/

/-- **Makes the directory with a name** in that of the names above. What stands there already has to lead to a
directory. -/
def makeDirectory (path : String) (t : FileTree) (above : List String) (n : String) : FileTree × Bool :=
  match sys.directory? t above with
  | none => (t, false)
  | some here =>
    let next := here ++ [n]
    if (sys.fault? t path next).isSome then (t, false)
    else if n ≠ ".." ∧ (t.get? next).isNone then (t.set next .directory, true)
    else (t, (sys.directory? t (above ++ [n])).isSome)

/-- Makes one directory after the other along names. Says whether all of them are there. -/
def makeDirectories (path : String) (t : FileTree) (above : List String) : List String → FileTree × Bool
  | [] => (t, true)
  | n :: ns =>
    match sys.makeDirectory path t above n with
    | (t', false) => (t', false)
    | (t', true) => makeDirectories path t' (above ++ [n]) ns

/-- **Makes the directory at a path** with those above it. A path that ends in `.` leads into a directory
which has to be there already; only those above it are made. -/
def makePath (t : FileTree) (path : String) : FileTree × Bool :=
  let names := FilePath.names path
  if sys.refuses t path then (t, false)
  else if FilePath.endsInDot path then
    match sys.makeDirectories path t [] names.dropLast with
    | (t', false) => (t', false)
    | (t', true) => (t', (sys.directory? t' names).isSome)
  else sys.makeDirectories path t [] names

/-! ## Files -/

/-- **Writes a file** where a path leads, in place of one that is there. Says whether all of it was written. -/
def write (t : FileTree) (path content : String) : FileTree × Bool :=
  if sys.refuses t path then (t, false)
  else
    match sys.place? t (FilePath.parts path) with
    | none => (t, false)
    | some p =>
      if (t.get? p).all FileEntry.isFile then
        match sys.fault? t path p with
        | some .refused => (t, false)
        | some (.cut size) => (t.set p (.file (content.toUTF8.extract 0 size)), false)
        | none => (t.set p (.file content.toUTF8), true)
      else (t, false)

/-- Writes files one after the other, up to the first that cannot be written. Says whether all of them were. -/
def writeAll (t : FileTree) : List (String × String) → FileTree × Bool
  | [] => (t, true)
  | (path, content) :: files =>
    match sys.write t path content with
    | (t', false) => (t', false)
    | (t', true) => writeAll t' files

end FileSystem

end SchemaSql
