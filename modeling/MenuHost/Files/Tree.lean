import MenuHost.Text.Utf8
import MenuHost.Time.Timestamp

/-!
# Directory trees

A file system, and the walk along a path in it. A path is the list of its
components: empty ones and `.` stay where they are, `..` goes up, and every other
one is a name. The parent of the top directory is that directory itself.

A directory can be opened like a file, and has a size and a time as a file has;
only its bytes cannot be read.
-/

namespace MenuHost.Files

open MenuHost.Time

def firstOfYear10000 : Nat := 253402300800

/-- When something was last changed: a second of the years 1970 to 9999, which are
those that dates in headers can name. A server that meets another time at a file
stops without an answer; trees hold none. -/
structure FileTime where
  secs : Nat
  inRange : secs < firstOfYear10000
deriving Repr, DecidableEq

namespace FileTime

def epoch : FileTime := ⟨0, by decide⟩

def timestamp (t : FileTime) : Timestamp := ⟨t.secs, 0⟩

end FileTime

/-- What is known of a file or directory without reading it. -/
structure Stat where
  size : Nat
  modified : FileTime
deriving Repr, DecidableEq

/-- A directory that was just made has one block. -/
def Stat.fresh : Stat := ⟨4096, .epoch⟩

inductive Node where
  | file (content : List UInt8) (modified : FileTime)
  | directory (stat : Stat) (entries : List (String × Node))

instance : Inhabited Node := ⟨.directory .fresh []⟩

abbrev Path := List String

/-- Why there is nothing at a path. -/
inductive WalkError where
  /-- Nothing has that name. -/
  | missing
  /-- A file stands where a directory would have to. -/
  | notDirectory
  /-- A component holds the character that no name can hold. -/
  | noName
  /-- The path cannot be looked up. -/
  | unusable
deriving Repr, DecidableEq

/-- What has been opened. Of a directory there are no bytes to be read. -/
inductive Opened where
  | file (content : List UInt8) (modified : FileTime)
  | directory (stat : Stat)
deriving Repr, DecidableEq

def Opened.stat : Opened → Stat
  | file content modified => ⟨content.length, modified⟩
  | directory stat => stat

namespace Node

/-- The longest name, in bytes. -/
def maxNameLength : Nat := 255

/-- The longest path, in bytes. -/
def maxPathLength : Nat := 4095

/-- The length of a path with a slash before each component, in bytes. -/
def pathLength (path : Path) : Nat :=
  path.foldl (fun n name => n + 1 + name.utf8ByteSize) 0

/-- The parents of a node, the nearest first, and the node itself. -/
abbrev Trail := List Node × Node

/-- Goes along one component of a path. -/
def enter : Trail → String → Except WalkError Trail
  | (_, file _ _), _ => .error .notDirectory
  | (above, directory stat entries), name =>
    if name = "" ∨ name = "." then .ok (above, directory stat entries)
    else if name = ".." then
      match above with
      | parent :: above => .ok (above, parent)
      | [] => .ok ([], directory stat entries)
    else if maxNameLength < name.utf8ByteSize then .error .unusable
    else
      match entries.lookup name with
      | some node => .ok (directory stat entries :: above, node)
      | none => .error .missing

/-- Goes along a path from the top. -/
def walk (node : Node) (path : Path) : Except WalkError Node :=
  if path.any (·.toList.contains '\x00') then .error .noName
  else if maxPathLength < pathLength path then .error .unusable
  else (path.foldlM enter ([], node)).map (·.2)

def isDirectory (node : Node) (path : Path) : Bool :=
  match node.walk path with
  | .ok (directory _ _) => true
  | _ => false

def opened : Node → Opened
  | file content modified => .file content modified
  | directory stat _ => .directory stat

def openAt (node : Node) (path : Path) : Except WalkError Opened :=
  (node.walk path).map opened

/-! ## Building trees -/

/-- The node at a name, replaced or added. -/
def setEntry (name : String) (node : Node) : List (String × Node) → List (String × Node)
  | [] => [(name, node)]
  | (n, old) :: rest => if n = name then (n, node) :: rest else (n, old) :: setEntry name node rest

/-- Puts a node at a path of names, with the directories that lead there. -/
def put (leaf : Node) : Path → Node → Node
  | [], _ => leaf
  | name :: rest, directory stat entries =>
    directory stat (setEntry name (put leaf rest ((entries.lookup name).getD default)) entries)
  | name :: rest, file _ _ => directory .fresh [(name, put leaf rest default)]

def makeDirectories : Path → Node → Node
  | [], node => node
  | name :: rest, directory stat entries =>
    directory stat
      (setEntry name (makeDirectories rest ((entries.lookup name).getD default)) entries)
  | name :: rest, file _ _ => directory .fresh [(name, makeDirectories rest default)]

/-- The components of a path between slashes. -/
def pathOf (path : String) : Path :=
  (path.toList.splitOn '/').map String.ofList

/-- The tree of some files by their paths; a path that ends in a slash is just a
directory. -/
def ofFiles (files : List (String × List UInt8)) (modified : FileTime) : Node :=
  files.foldl (fun tree (path, content) =>
    let names := (pathOf path).filter (· ≠ "")
    if path.toList.getLast? = some '/' then makeDirectories names tree
    else put (file content modified) names tree) default

end Node

/-! ## The last name of a path -/

/-- Whether a component stays where it is. -/
def isBlankName (name : String) : Bool :=
  name == "" || name == "."

def lastName? (path : Path) : Option String :=
  match path.reverse.dropWhile isBlankName with
  | name :: _ => if name = ".." then none else some name
  | [] => none

/-- Whether a path has no last name because it goes up there. -/
def endsUp (path : Path) : Bool :=
  (path.reverse.dropWhile isBlankName).head? == some ".."

/-- Changes the last name of a path, if there is one. -/
def mapLastName (f : String → String) (path : Path) : Path :=
  match path.reverse.dropWhile isBlankName with
  | name :: above => if name = ".." then path else above.reverse ++ [f name]
  | [] => path

/-- A name up to its last dot, and what stands behind it. A dot at the very
beginning does not count. -/
def splitExtension (name : String) : String × Option String :=
  let cs := name.toList.reverse
  match cs.dropWhile (· != '.') with
  | _ :: c :: rest =>
    (String.ofList (c :: rest).reverse, some (String.ofList (cs.takeWhile (· != '.')).reverse))
  | _ => (name, none)

end MenuHost.Files
