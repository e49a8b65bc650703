import DotScript.Host.Input

/-!
# Files

Files by their paths.  A path in a program is a list of names with slashes between them; it is
followed from the working folder on, or from the outermost folder if it starts with a slash, and
every name but the last has to lead to a folder.
-/

namespace DotScript

/-- What stands at a path. -/
inductive Entry
  | file (content : ByteArray)
  | folder

/-- A path, name by name.  It starts from the working folder; a path that leaves the working folder
starts with a name for each folder it goes up, or with the name of the outermost folder. -/
abbrev Path := List String

/-- The files and folders that are known. -/
structure Disk where
  /-- What stands at each path. -/
  entries : List (Path × Entry)

namespace Disk

/-- The name that leads from a folder to the one around it. -/
def up : String := ".."

/-- The name of the outermost folder. -/
def root : String := "/"

/-- No files at all. -/
def empty : Disk := { entries := [] }

/-- Whether a path leads to the working folder, a folder around it or the outermost folder. -/
def surrounds (path : Path) : Bool :=
  path.all fun name => name == up || name == root

/-- What stands below the working folder. -/
def inside (disk : Disk) : List (Path × Entry) :=
  disk.entries.filter fun (path, _) => !surrounds (path.take 1)

/-- What stands at a path; the working folder and the folders around it are always there. -/
def entry? (disk : Disk) (path : Path) : Option Entry :=
  if surrounds path then some .folder else disk.entries.lookup path

/-- Puts something at a path. -/
def put (disk : Disk) (path : Path) (entry : Entry) : Disk where
  entries := (path, entry) :: disk.entries.filter fun (other, _) => other != path

/-- The greatest length of a name, in bytes. -/
def maxNameBytes : Nat := 255

/-- The greatest length of a path as a program writes it, in bytes. -/
def maxPathBytes : Nat := 4095

/-- What stands at a path, whose last name must not be too long. -/
def find (disk : Disk) (path : Path) : Except SystemError (Option Entry) :=
  if maxNameBytes < (path.getLastD "").utf8ByteSize then .error .nameTooLong
  else .ok (disk.entry? path)

/-- The folder around a folder; around the outermost folder there is only itself. -/
def around (folder : Path) : Path :=
  if folder == [root] then folder
  else if surrounds folder then folder ++ [up]
  else folder.dropLast

/-- Where a name leads from a folder. -/
def enter (folder : Path) (name : String) : Path :=
  if name = "." then folder else if name = up then around folder else folder ++ [name]

/-- Where a path leads that continues from a folder with more names.  The last name may lead to
nothing, all others have to lead to folders. -/
def follow (disk : Disk) (folder : Path) : List String → Except SystemError Path
  | [] => .ok folder
  | name :: rest => do
    match ← disk.find folder with
    | some .folder => follow disk (enter folder name) rest
    | some (.file _) => .error .notFolder
    | none => .error .missing

/-- The names of a path; a slash at the end is no name. -/
def names (path : String) : List String :=
  (path.splitOn "/").filter (· != "")

/-- Where a path in a program leads, without asking whether a slash at its end fits. -/
def resolve (disk : Disk) (path : String) : Except SystemError Path :=
  if path = "" then .error .missing
  else if path.contains (Char.ofNat 0) then .error .nulInName
  else if maxPathBytes < path.utf8ByteSize then .error .nameTooLong
  else disk.follow (if path.startsWith "/" then [root] else []) (names path)

/-- The content of a file. -/
def read (disk : Disk) (path : String) : Except SystemError ByteArray := do
  match ← disk.find (← disk.resolve path) with
  | some (.file content) => if path.endsWith "/" then .error .notFolder else .ok content
  | some .folder => .error .isFolder
  | none => .error .missing

/-- The content of a file as text. -/
def readText (disk : Disk) (path : String) : Except SystemError String := do
  match String.fromUTF8? (← disk.read path) with
  | some text => .ok text
  | none => .error .notText

/-- Writes a text to a file, after what it holds or in place of it.  The file is made if it is not
there. -/
def write (disk : Disk) (path text : String) (append : Bool) : Except SystemError Disk := do
  let target ← disk.resolve path
  if path.endsWith "/" then .error .isFolder
  else
    match ← disk.find target with
    | some .folder => .error .isFolder
    | some (.file content) =>
      .ok (disk.put target (.file (if append then content ++ text.toUTF8 else text.toUTF8)))
    | none => .ok (disk.put target (.file text.toUTF8))

end Disk
end DotScript
