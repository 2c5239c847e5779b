import ApiDrift.Config
import ApiDrift.Output.Format
import ApiDrift.Verdict

/-!
# Showing results

A table is a page of text, which may have colours. JSON is always written over several lines and never has colours.
-/

namespace ApiDrift

def Verdict.render (verdict : Verdict) (format : Format) (colors : Bool) : String :=
  match format with
  | .table => verdict.page.text colors
  | .json => verdict.encode.pretty

/-- As a table, a configuration is shown the way it would be written in a file. -/
def Config.render (config : Config) (format : Format) : String :=
  match format with
  | .table => config.toToml
  | .json => config.encode.pretty

end ApiDrift
