import ApiDrift.Command.Files
import ApiDrift.Command.Line
import ApiDrift.Command.Progress
import ApiDrift.Config

/-!
# Effective settings

The configuration comes from a file. The usual file may be missing, a file that was named may not. A fault in the file is fatal only where strictness is asked for; otherwise it is logged and the defaults hold. What the command line says about the format wins over the configuration.
-/

namespace ApiDrift.Command

def configName : String := ".apibump.toml"

namespace Common

/-- The file in which the configuration is looked for. -/
def configPath (common : Common) : String := common.config.getD configName

/-- How messages name that file. A strict run names it as it is. -/
def configLabel (common : Common) (strict : Bool) : String :=
  match common.config with
  | some path => path
  | none => if strict then configName else "./" ++ configName

end Common

/-- Reads the text of a configuration. -/
def readConfig (label : String) : Content → Except Fault Config
  | .absent => .ok {}
  | .unreadable =>
    .error { message := "Failed to read " ++ label, cause := some "the file holds no text" }
  | .text text =>
    match Config.read? text with
    | some config => .ok config
    | none =>
      .error { message := "Failed to parse " ++ label, cause := some "the text is no configuration" }

/-- A fault with everything behind it, on one line. -/
def Fault.line (fault : Fault) : String := ": ".intercalate (fault.message :: fault.causes)

def loadConfig (common : Common) (strict : Bool) (content : Content) : Progress Config :=
  match common.config, content with
  | some path, .absent => .fail ("Config file " ++ path ++ " does not exist") none
  | _, content =>
    match readConfig (common.configLabel strict) content with
    | .ok config => pure config
    | .error fault =>
      if strict then ⟨[], .error fault⟩
      else ⟨[Log.configFault fault.line], .ok {}⟩

/-- A format that nobody knows leaves the table. -/
def effectiveFormat (common : Common) (config : Config) : Format :=
  (common.format.orElse fun _ => config.format.bind Format.parse?).getD .table

/-- Colours are used as configured, and otherwise on a terminal. -/
def effectiveColors (config : Config) (terminal : Bool) : Bool := config.color.getD terminal

end ApiDrift.Command
