import ApiDrift.Command.Comparing
import ApiDrift.Command.Folder
import ApiDrift.Log.Filter

/-!
# Running the program

A run reads files, may write one, and ends with an exit code, a text for the standard output, the log and perhaps a fault. It is described for any place where files can be read and written, so the same run can take place in a value and on a disk.
-/

namespace ApiDrift.Command

/-- What a run may do. -/
structure World (m : Type → Type) where
  read : String → m Content
  /-- Says whether writing worked. -/
  write : String → String → m Bool
  /-- The time that has gone by since some moment, in nanoseconds. -/
  clock : m Nat

structure Outcome where
  exit : UInt8
  stdout : String
  events : List Log.Event := []
  fault : Option Fault := none
  deriving DecidableEq

namespace Outcome

/-- A command line that cannot be read ends a run with its own code. -/
def refused : Outcome := { exit := 2, stdout := "" }

def shown (text : String) : Outcome := { exit := 0, stdout := text }

def failed (events : List Log.Event) (fault : Fault) : Outcome :=
  { exit := 1, stdout := "", events := events, fault := some fault }

end Outcome

/-- A time span in milliseconds. -/
def milliseconds (nanoseconds : Nat) : Decimal.Binary :=
  (Decimal.Binary.nearest? false nanoseconds 1000000).getD .zero

/-- What the compare command prints. -/
def printed (target : ChangelogTarget) (verdict : Verdict) (format : Format) (colors : Bool) :
    String :=
  (if target = .stdout then changelog verdict else "") ++ verdict.render format colors ++ "\n"

variable {m : Type → Type} [Monad m]

/-- Writes the changelog and shows the verdict. -/
def conclude (world : World m) (options : CompareOptions) (format : Format) (colors : Bool)
    (events : List Log.Event) (verdict : Verdict) : m Outcome := do
  let finished : Outcome :=
    { exit := 0
      stdout := printed options.changelogTarget verdict format colors
      events := events }
  match options.changelogTarget with
  | .file path =>
    if ← world.write path (changelog verdict) then return finished
    else
      return .failed events
        { message := "Failed to write changelog " ++ path
          cause := some "the file cannot be written" }
  | _ => return finished

def runCompare (world : World m) (options : CompareOptions) (config : Config) (format : Format)
    (colors : Bool) (events : List Log.Event) : m Outcome := do
  let old ← world.read options.old
  let new ← world.read options.new
  let started ← world.clock
  let progress := verdict options config format old new
  match progress.result with
  | .error fault => return .failed (events ++ progress.events) fault
  | .ok verdict => do
    let ended ← world.clock
    conclude world options format colors (events ++ progress.events)
      { verdict with duration := milliseconds (ended - started) }

def runTask (world : World m) (terminal : Bool) (common : Common) (task : Task) : m Outcome := do
  let strict :=
    match task with
    | .compare options => options.strict
    | .config => false
  let loaded := loadConfig common strict (← world.read common.configPath)
  match loaded.result with
  | .error fault => return .failed loaded.events fault
  | .ok config => do
    let format := effectiveFormat common config
    match task with
    | .compare options =>
      runCompare world options config format (effectiveColors config terminal) loaded.events
    | .config =>
      return { exit := 0, stdout := config.render format ++ "\n", events := loaded.events }

/-- Runs a command line. -/
def run (world : World m) (terminal : Bool) (line : Line) : m Outcome :=
  match line with
  | .refused => return .refused
  | .shown text => return .shown text
  | .run common task => runTask world terminal common task

/-- The log filter of a run. -/
def Line.filter (environment : Option String) : Line → Log.Filter
  | .run common _ => .chosen environment common.verbose common.quiet
  | _ => .chosen environment false false

/-- A world of nothing but files, where no time goes by. -/
def FileStore.world {φ : Type} (store : FileStore φ) : World (StateM φ) where
  read path := fun files => (store.read files path, files)
  write path text := fun files =>
    match store.write? files path text with
    | some changed => (true, changed)
    | none => (false, files)
  clock := pure 0

def Folder.world (here : List String := []) : World (StateM Folder) := (Folder.store here).world

end ApiDrift.Command
