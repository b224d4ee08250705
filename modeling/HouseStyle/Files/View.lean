import HouseStyle.Files.Tree

/-!
# What a check sees of the files

A check asks for two directories, whether something exists, and what files hold. It does not matter
to it where the answers come from.
-/

namespace HouseStyle

/-- The view of the file system that a check needs. -/
structure FileView where
  currentDir : Option String
  /-- The user's directory for settings, if there is one. -/
  userDir : Option String
  pathExists : String → Bool
  /-- The text of a file, or the reason why it cannot be read. -/
  read : String → Except String String

/-- The absolute path of a location. -/
def Location.toPath (l : Location) : String := "/" ++ "/".intercalate l

/-- The view of the files of a tree. It is one among many: the current directory of a tree is known,
and its files fail for its own faults only. -/
def FileTree.view (t : FileTree) (userDir : Option String) : FileView where
  currentDir := some (Location.toPath t.current)
  userDir := userDir
  pathExists path := t.pathExists (.ofString path)
  read path := (t.read (.ofString path)).mapError Fault.message

end HouseStyle
