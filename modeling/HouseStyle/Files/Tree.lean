import HouseStyle.Files.Path

/-!
# Files and directories

The part of a file system that a check can see and change: which directories there are, and what
the files hold. Operations fail for the reasons, and with the words, of the operating system.
-/

namespace HouseStyle

/-- Why an operation on files fails. -/
inductive Fault where
  | notFound
  | alreadyThere
  /-- The path goes through something that is no directory. -/
  | notDirectory
  | isDirectory
  | notText
  deriving DecidableEq, Repr

/-- The sentence for a fault. -/
def Fault.message : Fault → String
  | notFound => "No such file or directory (os error 2)"
  | alreadyThere => "File exists (os error 17)"
  | notDirectory => "Not a directory (os error 20)"
  | isDirectory => "Is a directory (os error 21)"
  | notText => "stream did not contain valid UTF-8"

/-- What a location holds. -/
inductive Entry where
  | directory
  | file (bytes : ByteArray)

/-- A location: the names from the root on. -/
abbrev Location := List String

/-- Directories and files, and the current directory. The root is always there. -/
structure FileTree where
  current : Location := []
  entries : List (Location × Entry) := []

namespace FileTree

/-- What a location holds. -/
def find? (t : FileTree) (l : Location) : Option Entry :=
  if l = [] then some .directory else t.entries.lookup l

/-- Puts something at a location. -/
def put (t : FileTree) (l : Location) (e : Entry) : FileTree :=
  { t with entries := (l, e) :: t.entries.filter fun entry => entry.1 ≠ l }

/-- Follows some names from a directory on; every one but the last must be a directory. -/
def follow (t : FileTree) (start : Location) : List String → Except Fault Location
  | [] => .ok start
  | name :: rest =>
    if name = "." then t.follow start rest
    else if name = ".." then t.follow start.dropLast rest
    else
      let next := start ++ [name]
      if rest = [] then .ok next
      else
        match t.find? next with
        | some .directory => t.follow next rest
        | some (.file _) => .error .notDirectory
        | none => .error .notFound

/-- The location that a path leads to. -/
def locate (t : FileTree) (p : Path) : Except Fault Location :=
  t.follow (if p.isAbsolute then [] else t.current) p.names

/-- What a path leads to. -/
def get (t : FileTree) (p : Path) : Except Fault Entry := do
  match t.find? (← t.locate p) with
  | none => throw .notFound
  | some .directory => return .directory
  | some (.file bytes) => if p.isDirectoryOnly then throw .notDirectory else return .file bytes

/-- Whether a path leads to something. -/
def pathExists (t : FileTree) (p : Path) : Bool := (t.get p).isOk

/-- Whether a path leads to a directory. -/
def isDirectory (t : FileTree) (p : Path) : Bool :=
  match t.get p with
  | .ok .directory => true
  | _ => false

/-- Reads a text file. -/
def read (t : FileTree) (p : Path) : Except Fault String := do
  match ← t.get p with
  | .directory => throw .isDirectory
  | .file bytes =>
    match String.fromUTF8? bytes with
    | some text => return text
    | none => throw .notText

/-- Makes a directory in one that exists. -/
def makeDirectory (t : FileTree) (p : Path) : Except Fault FileTree := do
  let l ← t.locate p
  match t.find? l with
  | some _ => throw .alreadyThere
  | none => return t.put l .directory

/-- Makes the directory with the given names and the directories it lies in, as far as they are
missing. The last name comes first. -/
def makeDirectoriesAt (t : FileTree) (isAbsolute : Bool) : List String → Except Fault FileTree
  | [] => .ok t
  | name :: outer =>
    let p : Path := ⟨isAbsolute, (name :: outer).reverse, false⟩
    match t.makeDirectory p with
    | .ok t => .ok t
    | .error .notFound => do
      let t ← t.makeDirectoriesAt isAbsolute outer
      match t.makeDirectory p with
      | .ok t => return t
      | .error e => if t.isDirectory p then return t else throw e
    | .error e => if t.isDirectory p then .ok t else .error e

/-- Makes a directory and the directories it lies in, as far as they are missing. -/
def makeDirectories (t : FileTree) (p : Path) : Except Fault FileTree :=
  t.makeDirectoriesAt p.isAbsolute p.names.reverse

/-- Writes a text file in a directory that exists. -/
def write (t : FileTree) (p : Path) (text : String) : Except Fault FileTree := do
  let l ← t.locate p
  match t.find? l with
  | some .directory => throw .isDirectory
  | some (.file _) =>
    if p.isDirectoryOnly then throw .notDirectory else return t.put l (.file text.toUTF8)
  | none => if p.isDirectoryOnly then throw .isDirectory else return t.put l (.file text.toUTF8)

end FileTree

end HouseStyle
