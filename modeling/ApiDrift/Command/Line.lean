import ApiDrift.Output.Format

/-!
# Command lines

The program compares two snapshots or shows its configuration. Some options stand before or behind the name of the command. Arguments are taken one by one, and the first one that is refused, or that asks for help or for the version, decides; what a command line lacks as a whole is found at its end.
-/

namespace ApiDrift.Command

def version : String := "0.1.0"

/-- Options of every command. -/
structure Common where
  verbose : Bool := false
  quiet : Bool := false
  format : Option Format := none
  config : Option String := none
  deriving DecidableEq

structure CompareOptions where
  old : String
  new : String
  fromVersion : Option String := none
  fromTag : Option String := none
  changelog : Option String := none
  changelogStdout : Bool := false
  strict : Bool := false
  deriving DecidableEq

inductive Task
  | compare (options : CompareOptions)
  | config
  deriving DecidableEq

/-- What a command line asks for. -/
inductive Line
  | refused
  | shown (text : String)
  | run (common : Common) (task : Task)
  deriving DecidableEq

namespace Line

/-- Where an argument stands: before the name of a command, or behind it. -/
inductive Place
  | start
  | compare
  | config
  deriving DecidableEq

inductive Flag
  | verbose
  | quiet
  | versionVerbose
  | changelogStdout
  | strict
  | help
  | version
  deriving DecidableEq

/-- Options that take a value. -/
inductive Setting
  | format
  | config
  | fromVersion
  | fromTag
  | changelog
  deriving DecidableEq

namespace Place

def name : Place → String
  | start => "apibump"
  | compare => "apibump-compare"
  | config => "apibump-config"

def flag? (place : Place) (name : String) : Option Flag :=
  match name with
  | "verbose" => some .verbose
  | "quiet" => some .quiet
  | "help" => some .help
  | "version" => some .version
  | "version-verbose" => if place = start then some .versionVerbose else none
  | "changelog-stdout" => if place = compare then some .changelogStdout else none
  | "strict" => if place = compare then some .strict else none
  | _ => none

def setting? (place : Place) (name : String) : Option Setting :=
  match name with
  | "format" => some .format
  | "config" => some .config
  | "from-version" => if place = compare then some .fromVersion else none
  | "from-tag" => if place = compare then some .fromTag else none
  | "changelog" => if place = compare then some .changelog else none
  | _ => none

/-- The place behind the name of a command. -/
def behind? : String → Option Place
  | "compare" => some compare
  | "c" => some compare
  | "config" => some config
  | _ => none

/-- How many arguments without a name may stand here. -/
def capacity : Place → Nat
  | compare => 2
  | _ => 0

end Place

def shortFlag? : Char → Option Flag
  | 'v' => some .verbose
  | 'q' => some .quiet
  | 'h' => some .help
  | 'V' => some .version
  | _ => none

/-- What was given at one place. -/
structure Given where
  flags : List Flag := []
  values : List (Setting × String) := []
  operands : List String := []

namespace Given

def value? (given : Given) (setting : Setting) : Option String :=
  (given.values.find? (·.1 = setting)).map (·.2)

def has (given : Given) (flag : Flag) : Bool := given.flags.contains flag

end Given

def usage : String :=
  "Usage: apibump [OPTIONS] [COMMAND]\n\n" ++
    "Commands:\n" ++
    "  compare OLD NEW   compare two snapshots\n" ++
    "  config            show the configuration\n" ++
    "  help [COMMAND]    show this text\n\n" ++
    "Options:\n" ++
    "  -v, --verbose     show what is done\n" ++
    "  -q, --quiet       show errors only\n" ++
    "  --format FORMAT   table or json\n" ++
    "  --config FILE     configuration file instead of .apibump.toml\n" ++
    "  --version-verbose show the version of every part\n" ++
    "  -h, --help        show this text\n" ++
    "  -V, --version     show the version\n\n" ++
    "Options of compare:\n" ++
    "  --from-version VERSION, --from-tag TAG\n" ++
    "  --changelog FILE, --changelog-stdout\n" ++
    "  --strict\n"

def versions : String :=
  "apibump " ++ version ++ "\n  apibump-cli:   " ++ version ++ "\n  apibump-core:  " ++ version ++ "\n"

/-- Gives a flag; the same one may not be given twice at one place. -/
def giveFlag (place : Place) (given : Given) (flag : Flag) : Except Line Given :=
  match flag with
  | .help => .error (.shown usage)
  | .version => .error (.shown (place.name ++ " " ++ version ++ "\n"))
  | flag =>
    if given.has flag then .error .refused else .ok { given with flags := flag :: given.flags }

def giveShortFlags (place : Place) (given : Given) : List Char → Except Line Given
  | [] => .ok given
  | letter :: rest =>
    match shortFlag? letter with
    | some flag => do giveShortFlags place (← giveFlag place given flag) rest
    | none => .error .refused

/-- A format has to be one of the two, and a file has to have a name. -/
def isValue (setting : Setting) (value : String) : Bool :=
  match setting with
  | .format => Format.all.any (·.word = value)
  | .config => !value.isEmpty
  | .changelog => !value.isEmpty
  | _ => true

def giveValue (given : Given) (setting : Setting) (value : String) : Except Line Given :=
  if (given.value? setting).isSome || !isValue setting value then .error .refused
  else .ok { given with values := (setting, value) :: given.values }

def giveOperand (place : Place) (given : Given) (operand : String) : Except Line Given :=
  if given.operands.length < place.capacity && !operand.isEmpty then
    .ok { given with operands := given.operands ++ [operand] }
  else .error .refused

/-- A hyphen alone is an operand or a value; anything longer that begins with one is an option. -/
def looksLikeOption : List Char → Bool
  | '-' :: _ :: _ => true
  | _ => false

/-- What was given at a place, and the name of a command with the arguments behind it. -/
structure Part where
  given : Given
  command : Option (String × List String) := none
  /-- The value right before the name of the command cannot stand there. This is told after all that the arguments behind the name ask for. -/
  pending : Bool := false

def isCommand (argument : String) : Bool := argument = "help" || (Place.behind? argument).isSome

/-- Takes the arguments of one place up to the name of a command. Behind two hyphens there are only operands. -/
def take (place : Place) (given : Given) : List String → Except Line Part
  | [] => .ok { given := given }
  | argument :: rest =>
    if place = .start && isCommand argument then
      .ok { given := given, command := some (argument, rest) }
    else
      match argument.toList with
      | ['-', '-'] => do return { given := ← rest.foldlM (giveOperand place) given }
      | '-' :: '-' :: long =>
        let name := String.ofList (long.takeWhile (· != '='))
        match long.dropWhile (· != '='), place.flag? name, place.setting? name with
        | [], some flag, _ => do take place (← giveFlag place given flag) rest
        | _ :: attached, _, some setting => do
          take place (← giveValue given setting (String.ofList attached)) rest
        | [], _, some setting =>
          match rest with
          | value :: later =>
            if looksLikeOption value.toList then .error .refused
            else
              match giveValue given setting value, later with
              | .ok given, later => take place given later
              | .error line, name :: arguments =>
                if place = .start && isCommand name then
                  .ok { given := given, command := some (name, arguments), pending := true }
                else .error line
              | .error line, [] => .error line
          | [] => .error .refused
        | _, _, _ => .error .refused
      | '-' :: letter :: letters => do
        take place (← giveShortFlags place given (letter :: letters)) rest
      | _ => do take place (← giveOperand place given argument) rest

def formatNamed? (name : String) : Option Format := Format.all.find? (·.word = name)

/-- What is given behind the name of a command wins over what is given before it. -/
def common (before behind : Given) : Common where
  verbose := before.has .verbose || behind.has .verbose
  quiet := before.has .quiet || behind.has .quiet
  format := ((behind.value? .format).orElse fun _ => before.value? .format).bind formatNamed?
  config := (behind.value? .config).orElse fun _ => before.value? .config

/-- Two sources of a version, or two targets of a changelog, exclude each other. -/
def compareTask (given : Given) : Except Line Task :=
  let clash := ((given.value? .fromVersion).isSome && (given.value? .fromTag).isSome) ||
    ((given.value? .changelog).isSome && given.has .changelogStdout)
  match given.operands with
  | [old, new] =>
    if clash then .error .refused
    else
      .ok (.compare {
        old := old
        new := new
        fromVersion := given.value? .fromVersion
        fromTag := given.value? .fromTag
        changelog := given.value? .changelog
        changelogStdout := given.has .changelogStdout
        strict := given.has .strict })
  | _ => .error .refused

def task (place : Place) (given : Given) : Except Line Task :=
  if place = .compare then compareTask given else .ok .config

/-- Help is shown for the program and for each of its commands. -/
def help : List String → Line
  | [] => .shown usage
  | [name] => if isCommand name then .shown usage else .refused
  | _ => .refused

def reading (arguments : List String) : Except Line Line := do
  let before ← take .start {} arguments
  match before.command with
  | none => return .shown (if before.given.has .versionVerbose then versions else usage)
  | some (name, rest) =>
    match Place.behind? name with
    | none => return help rest
    | some place => do
      let behind ← take place {} rest
      let task ← task place behind.given
      if before.pending then .error .refused
      else if before.given.has .versionVerbose then return .shown versions
      else return .run (common before.given behind.given) task

/-- Reads a command line. -/
def read (arguments : List String) : Line :=
  match reading arguments with
  | .ok line => line
  | .error line => line

end Line

end ApiDrift.Command
