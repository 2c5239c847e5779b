import ApiDrift.Command.Files
import ApiDrift.Text.Pieces

/-!
# Folders

The files of a disk, below its root. A path leads downwards from the folder in which the program runs, or from the root if it begins with a slash; a dot stays where it is and two dots go back up, from the root to the root. Whatever a path passes has to be a folder, but for its last name. The empty path leads nowhere.
-/

namespace ApiDrift.Command

/-- A file that holds no text can be overwritten but not read. -/
inductive Node
  | folder
  | text (value : String)
  | binary
  deriving DecidableEq

/-- What stands at a place, given by the names on the way to it from the root. -/
abbrev Folder := List (List String × Node)

namespace Folder

def node? (folder : Folder) (place : List String) : Option Node :=
  if place.isEmpty then some .folder else (folder.find? (·.1 = place)).map (·.2)

/-- Follows one name of a path; `place` is the way so far, last name first. -/
def follow? (folder : Folder) (place : List String) (name : String) : Option (List String) :=
  if folder.node? place.reverse = some .folder then
    if name = "" || name = "." then some place
    else if name = ".." then some place.tail
    else some (name :: place)
  else none

/-- Where a path begins that is read at the place `here`, last name first. -/
def start (here : List String) (path : String) : List String :=
  if path.toList.head? = some '/' then [] else here.reverse

/-- The names on a path, which are divided by slashes. -/
def names (path : String) : List String := (Text.pieces '/' path.toList).map String.ofList

/-- Where a path leads to, whether or not something stands there. -/
def place? (folder : Folder) (here : List String) (path : String) : Option (List String) :=
  if path.isEmpty then none
  else ((names path).foldlM folder.follow? (start here path)).map List.reverse

def put (folder : Folder) (place : List String) (node : Node) : Folder :=
  folder.filter (·.1 ≠ place) ++ [(place, node)]

/-- Puts something at a place and folders on the way to it. -/
def add (folder : Folder) (place : List String) (node : Node) : Folder :=
  let outer := (List.range place.length).map place.take
  (outer.foldl (fun made way => if (made.node? way).isNone then made.put way .folder else made)
    folder).put place node

def read (folder : Folder) (path : String) (here : List String := []) : Content :=
  match (folder.place? here path).bind folder.node? with
  | none => .absent
  | some (.text value) => .text value
  | some _ => .unreadable

/-- Writes a file. A folder cannot be overwritten. -/
def write? (folder : Folder) (path text : String) (here : List String := []) : Option Folder :=
  match folder.place? here path with
  | some place =>
    if folder.node? place = some .folder then none else some (folder.put place (.text text))
  | none => none

/-- The files as a program in the folder `here` reads and writes them. -/
def store (here : List String := []) : FileStore Folder where
  read folder path := folder.read path here
  write? folder path text := folder.write? path text here

end Folder

end ApiDrift.Command
