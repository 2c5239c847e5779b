import ApiDrift.Command.Run

/-!
# The program

Runs a command line on the files of the disk.
-/

namespace ApiDrift

open Command

/-- Whether a path leads to anything at all. -/
def leads (path : String) : IO Bool := do
  try
    discard (IO.FS.realPath path)
    return true
  catch _ => return false

def readFile (path : String) : IO Content := do
  try
    return .text (← IO.FS.readFile path)
  catch _ => return if ← leads path then .unreadable else .absent

def writeFile (path text : String) : IO Bool := do
  try
    IO.FS.writeFile path text
    return true
  catch _ => return false

def disk : World IO where
  read := readFile
  write := writeFile
  clock := IO.monoNanosNow

/-- A text whose lines stand behind margins, the first one behind its own. -/
def indented (first later text : String) : String := first ++ text.replace "\n" ("\n" ++ later)

/-- The message and what was behind it, on lines of their own. Several causes are numbered. -/
def faultText (fault : Fault) : String :=
  let causes :=
    match fault.causes with
    | [cause] => [indented "    " "    " cause]
    | causes => causes.zipIdx.map fun cause =>
      indented ("    " ++ toString cause.2 ++ ": ") "       " cause.1
  let heading := if causes.isEmpty then [] else ["\nCaused by:"]
  "\n".intercalate (("Error: " ++ fault.message) :: heading ++ causes)

def program (arguments : List String) : IO UInt32 := do
  let line := Line.read arguments
  let terminal ← (← IO.getStdout).isTty
  let outcome ← run disk terminal line
  let filter := line.filter (← IO.getEnv "RUST_LOG")
  for event in outcome.events do
    if filter.admits event then IO.eprintln event.sourcedLine
  IO.print outcome.stdout
  match outcome.fault with
  | some fault => IO.eprintln (faultText fault)
  | none => if outcome.exit = 2 then IO.eprint Line.usage
  return outcome.exit.toUInt32

end ApiDrift

def main (arguments : List String) : IO UInt32 := ApiDrift.program arguments
