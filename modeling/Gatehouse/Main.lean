import Gatehouse.Startup

/-!
# The command line

Reads the settings from the file that the first argument names, sets the service up from them and
says where it would listen.  When the file cannot be used, the default settings are.
-/

namespace Gatehouse

set_option autoImplicit false

/-- The file with the settings when no argument names one. -/
def defaultSettingsFile : String := "config.toml"

/-- The bytes of a file, if there is one. -/
def readSettingsFile (path : String) : IO (Option (List UInt8)) := do
  try
    let bytes ← IO.FS.readBinFile path
    return some bytes.toList
  catch _ => return none

/-- The settings that the environment gives. -/
def readEnvironment : IO Environment := do
  return ⟨← IO.getEnv Settings.databaseUrlVariable, ← IO.getEnv Settings.relayUrlVariable⟩

/-- The settings of a file, or the default ones if it gives none. -/
def loadSettings (path : String) : IO Settings := do
  let environment ← readEnvironment
  match Settings.ofFile (← readSettingsFile path) with
  | .ok settings => return settings.override environment
  | .error fault =>
      IO.eprintln ("Failed to load " ++ path ++ ": " ++ fault.message)
      IO.eprintln "Using default configuration."
      return Settings.default.override environment

end Gatehouse

/-- Sets the service up and reports how that went. -/
def main (arguments : List String) : IO UInt32 := do
  let path := arguments.head?.getD Gatehouse.defaultSettingsFile
  match Gatehouse.Startup.ofSettings (← Gatehouse.loadSettings path) with
  | .ok startup =>
      IO.println startup.text
      return 0
  | .error fault =>
      IO.eprintln fault.message
      return 1
