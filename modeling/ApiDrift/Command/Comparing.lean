import ApiDrift.Command.Settings
import ApiDrift.Ignore
import ApiDrift.Output.Rendering
import ApiDrift.Snapshot.Decoding
import ApiDrift.Version.Reading

/-!
# The compare command

A comparison is worked out completely before anything is written: the snapshots, the ignore rules, the changes, and the versions before and after the release. Only then is the changelog written, and only after that is the verdict shown.
-/

namespace ApiDrift.Command

/-- Where the changelog goes, if anywhere. -/
inductive ChangelogTarget
  | nowhere
  | file (path : String)
  | stdout
  deriving DecidableEq

def CompareOptions.changelogTarget (options : CompareOptions) : ChangelogTarget :=
  match options.changelog, options.changelogStdout with
  | some path, _ => .file path
  | none, true => .stdout
  | none, false => .nowhere

/-- A changelog and a JSON document cannot share one stream. -/
def checkTarget (target : ChangelogTarget) (format : Format) : Progress Unit :=
  if target = .stdout && format = .json then
    .fail
      "--changelog-stdout cannot be combined with JSON output; the JSON result already lists every change"
      none
  else pure ()

def loadSnapshot (path : String) : Content → Progress Codebase
  | .text text =>
    match Snapshot.read text with
    | .ok codebase => pure codebase
    | .error rejection =>
      .fail ("Failed to parse snapshot " ++ path) (some rejection.message)
  | .absent => .fail ("Failed to read snapshot " ++ path) (some "there is no such file")
  | .unreadable => .fail ("Failed to read snapshot " ++ path) (some "the file holds no text")

/-- Compares two snapshots and tells about the steps. -/
def compareSnapshots (options : CompareOptions) (rules : IgnoreRules) (old new : Codebase) :
    Progress Report := do
  let comparison := Codebase.compare (IgnoreRules.policy rules) old new
  .note (Log.ofSteps comparison.steps)
  let bump ←
    .orFail ("Failed to compare " ++ options.old ++ " with " ++ options.new) comparison.outcome
  .note [Log.finished bump comparison.records.length]
  return Report.of bump comparison.records

/-- The version before the release: given as it is, or to be found in a tag. -/
def previousVersion (options : CompareOptions) : Progress (Option Version) :=
  match options.fromVersion, options.fromTag with
  | some text, _ =>
    some <$> .orFail ("Invalid --from-version '" ++ text ++ "'") (Version.parse text)
  | none, some tag => some <$> .orFail ("No version found in tag '" ++ tag ++ "'") (Version.guess tag)
  | none, none => pure none

/-- The severity of the release, and a word about it where it is lower than that of the changes. -/
def appliedBump (config : Config) (previous : Option Version) (bump : Bump) : Progress Bump :=
  match previous with
  | some version =>
    if config.majorIsMinor then
      ⟨if version.lowers bump then [Log.lowered version] else [], .ok (version.releaseBump bump)⟩
    else pure bump
  | none => pure bump

def nextVersion (previous : Option Version) (applied : Bump) : Progress (Option Version) :=
  match previous with
  | some version => some <$> .orFail "Cannot compute the next version" (version.bump applied)
  | none => pure none

/-- Works out the verdict. Nothing is written here. -/
def verdict (options : CompareOptions) (config : Config) (format : Format) (old new : Content) :
    Progress Verdict := do
  checkTarget options.changelogTarget format
  let old ← loadSnapshot options.old old
  let new ← loadSnapshot options.new new
  let rules ←
    .orFail "Invalid ignore pattern in configuration" (IgnoreRules.ofPatterns config.ignored)
  .note [Log.ignorePatterns (IgnoreRules.patterns rules)]
  let report ← compareSnapshots options rules old new
  let previous ← previousVersion options
  let applied ← appliedBump config previous report.bump
  let next ← nextVersion previous applied
  return {
    old := options.old
    new := options.new
    bump := report.bump
    releaseBump := applied
    previousVersion := previous.map Version.text
    nextVersion := next.map Version.text
    changes := report.changes
    summary := report.summary
    summaryText := report.summaryText
    duration := Decimal.Binary.zero }

/-- One line for each change. -/
def changelog (verdict : Verdict) : String :=
  String.join (verdict.changes.map fun record => record.line ++ "\n")

end ApiDrift.Command
