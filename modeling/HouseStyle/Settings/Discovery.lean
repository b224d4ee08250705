import HouseStyle.Files.View
import HouseStyle.Settings.File

/-!
# Where settings come from

The settings file in the current directory comes first, then the one in the user's own directory,
then the defaults. The first file that exists decides: if it cannot be read or is at fault, that is
an error, and no other file is looked at.
-/

namespace HouseStyle

/-- The name of the settings file in the current directory. -/
def localSettingsName : String := ".commandments.toml"

/-- The name of the settings file in the user's directory. -/
def userSettingsName : String := "config.toml"

namespace FileView

/-- Loads the settings file at a path. -/
def loadSettingsFrom (view : FileView) (path : String) : Except Error Settings :=
  match view.read path with
  | .error cause => .error (.unreadable path cause)
  | .ok text => Settings.ofString text

/-- The places where a settings file is looked for, in order. -/
def settingsPaths (view : FileView) : List String :=
  (view.currentDir.map (joinPath · localSettingsName)).toList
    ++ (view.userDir.map (joinPath · userSettingsName)).toList

/-- Loads the first of some settings files that exists, or the defaults. -/
def loadFirstSettings (view : FileView) : List String → Except Error Settings
  | [] => .ok {}
  | path :: rest =>
    if view.pathExists path then view.loadSettingsFrom path else view.loadFirstSettings rest

/-- Loads the settings that hold if none are asked for. -/
def loadSettings (view : FileView) : Except Error Settings :=
  view.loadFirstSettings view.settingsPaths

end FileView

end HouseStyle
