import Switchboard.Data.Json.Reader
import Switchboard.Data.Yaml.Reader

/-!
# The folder of profiles

A profile is a file of the folder, named after the profile with an ending that tells its format. A
name may lead through folders inside, and out of the folder and back. Some of what lies around the
folder is known: everything in a tree of folders that the folder is part of.
-/

namespace Switchboard

/-- A folder in a tree of folders and files, each given by the names on the way to it from the root
of the tree, and what its files are read with. -/
structure Folder where
  /-- How messages call the folder. -/
  title : String
  /-- How many bytes the absolute path of the folder has. -/
  length : Nat
  /-- The names on the way to the folder. -/
  home : List String
  folders : List (List String)
  files : List (List String × String)
  /-- The reader of YAML, which may be any. `Yaml.read` knows a part of YAML only, and is the one to
  run on files that keep to that part. -/
  yaml : List Char → Except Misreading Value := Yaml.read

namespace Folder

/-- A place in the tree of a folder, or above the tree. -/
inductive Place where
  | above
  | inside (path : List String)
deriving DecidableEq, Repr

/-- Whether a path leads to a folder: the one that is looked at, a prepared one, one on the way to
either, or one on the way to a file. -/
def hasFolder (folder : Folder) (path : List String) : Bool :=
  path.isPrefixOf folder.home || folder.folders.any (path.isPrefixOf ·) ||
    folder.files.any fun f => path.isPrefixOf f.1.dropLast

/-- The names of a path; those that lead nowhere are left out. -/
def pathNames (path : String) : List String :=
  ((Text.splitAt '/' path.toList).map String.ofList).filter fun name => name != "" && name != "."

def isAbsolute (path : String) : Bool := path.startsWith "/"

/-- What an absolute path starts with: two slashes if there are two, and one for any other number of
them. -/
def start (path : String) : String :=
  if (path.toList.takeWhile (· == '/')).length == 2 then "//" else "/"

/-- How messages call the file at a path. -/
def pathTitle (folder : Folder) (path : String) : String :=
  let names := "/".intercalate (pathNames path)
  if isAbsolute path then start path ++ names else folder.title ++ "/" ++ names

def pathLength (folder : Folder) (path : String) : Nat :=
  let names := ("/".intercalate (pathNames path)).utf8ByteSize
  if isAbsolute path then (start path).utf8ByteSize + names else folder.length + 1 + names

inductive Absence where
  | missing
  | tooLong
deriving DecidableEq, Repr

def nameLimit : Nat := 255

def pathLimit : Nat := 4095

def isLongName (name : String) : Bool := nameLimit < name.utf8ByteSize

/-- Follows one name from a place. What is above the root stays there. -/
def follow (folder : Folder) (place : Place) (name : String) : Except Absence Place :=
  if isLongName name then .error .tooLong
  else
    match place with
    | .above => if name == ".." then .ok .above else .error .missing
    | .inside path =>
      if name == ".." then .ok (if path.isEmpty then .above else .inside path.dropLast)
      else if folder.hasFolder (path ++ [name]) then .ok (.inside (path ++ [name]))
      else .error .missing

def fileAt (folder : Folder) (place : Place) (name : String) : Except Absence String :=
  if isLongName name then .error .tooLong
  else
    match place with
    | .inside here =>
      if folder.hasFolder (here ++ [name]) then .error .missing
      else
        match folder.files.lookup (here ++ [name]) with
        | some text => .ok text
        | none => .error .missing
    | .above => .error .missing

/-- Where a path starts: in the folder, or above everything. -/
def origin (folder : Folder) (path : String) : Place :=
  if isAbsolute path then .above else .inside folder.home

/-- The text of the file at a path. A path with a zero character leads nowhere. -/
def file (folder : Folder) (path : String) : Except Absence String :=
  if path.toList.contains '\x00' then .error .missing
  else if pathLimit < folder.pathLength path then .error .tooLong
  else do
    let names := pathNames path
    let place ← names.dropLast.foldlM folder.follow (folder.origin path)
    folder.fileAt place (names.getLast?.getD "")

end Folder

inductive Format where
  | json | yaml
deriving DecidableEq, Repr

namespace Format

/-- The endings of profile files, in the order in which they are tried. -/
def endings : List String := [".yaml", ".yml", ".json"]

def fileName (path : String) : String := ((Folder.pathNames path).getLast?).getD ""

/-- A file whose name is more than the ending for JSON is JSON. -/
def ofPath (path : String) : Format :=
  let name := fileName path
  if name.endsWith ".json" && name != ".json" then json else yaml

end Format

def Folder.read (folder : Folder) (format : Format) (text : String) : Except Misreading Value :=
  match format with
  | .json => Json.read (Text.plainLines text.toList)
  | .yaml => folder.yaml (Text.plainLines text.toList)

end Switchboard
