import HouseStyle.Text.Lines

/-!
# Paths

A path is a text whose parts are separated by slashes. Empty parts stay where they are, and so does
a dot, but it needs a directory to stay in; two dots lead one directory up. What a path leads to
depends on the files that exist (`HouseStyle.Files.Tree`).
-/

namespace HouseStyle

/-- A path, taken apart. -/
structure Path where
  isAbsolute : Bool
  /-- The names along the path: a dot for the same place, two dots for the way up. -/
  names : List String
  /-- Whether it ends in a slash, so that it can only lead to a directory. -/
  isDirectoryOnly : Bool
  deriving DecidableEq, Repr

namespace Path

/-- Takes a path apart. -/
def ofString (text : String) : Path :=
  let parts := (Text.split '/' text.toList).map String.ofList
  { isAbsolute := text.toList.head? = some '/'
    names := parts.filter (· ≠ "")
    isDirectoryOnly := parts.getLast? = some "" }

/-- The directory that a path lies in; the root and the current directory have none. -/
def parent? (p : Path) : Option Path :=
  match p.names.filter (· ≠ ".") with
  | [] => none
  | names => some { p with names := names.dropLast, isDirectoryOnly := false }

/-- The directory that a file lies in, unless it is the root or the current directory. -/
def directory? (p : Path) : Option Path :=
  p.parent?.filter fun parent => parent.isAbsolute || !parent.names.isEmpty

/-- The text of a path. -/
def text (p : Path) : String :=
  (if p.isAbsolute then "/" else "") ++ "/".intercalate p.names
    ++ if p.isDirectoryOnly && !p.names.isEmpty then "/" else ""

end Path

/-- The path of a file in a directory. -/
def joinPath (dir name : String) : String :=
  if dir.isEmpty || dir.toList.getLast? = some '/' then dir ++ name else dir ++ "/" ++ name

end HouseStyle
