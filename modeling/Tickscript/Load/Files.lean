/-!
# Files and directories

Loading reads a tree of directories as it is at one moment. Paths are texts, joined and shown as
they were given; they are resolved against the tree, and against a current directory if they are
relative.
-/

namespace Tickscript

namespace Path

/-- Whether a path starts at the root. -/
def isAbsolute (p : String) : Bool := p.toList.head? = some '/'

/-- The path `p` as seen from the directory `dir`. -/
def join (dir p : String) : String :=
  if isAbsolute p || dir = "" then p
  else if dir.toList.getLast? = some '/' then dir ++ p
  else dir ++ "/" ++ p

/-- Cuts a path at its slashes. -/
def components (cs : List Char) : List (List Char) :=
  match cs with
  | [] => [[]]
  | c :: cs =>
    if c = '/' then [] :: components cs
    else
      match components cs with
      | [] => [[c]]
      | p :: ps => (c :: p) :: ps

/-- Cuts a file name at its last point. A point at the front alone does not count. -/
def splitExtension (name : String) : String × Option String :=
  let rev := name.toList.reverse
  let ext := rev.takeWhile (· ≠ '.')
  match rev.dropWhile (· ≠ '.') with
  | [] => (name, none)
  | _ :: stem =>
    if stem = [] then (name, none)
    else (String.ofList stem.reverse, some (String.ofList ext.reverse))

/-- The last part of a path. -/
def fileName (p : String) : String :=
  String.ofList (p.toList.reverse.takeWhile (· ≠ '/')).reverse

/-- The extension of a path's last part. -/
def extension? (p : String) : Option String := (splitExtension (fileName p)).2

/-- The last part of a path without its extension. -/
def stem (p : String) : String := (splitExtension (fileName p)).1

end Path

/-- Why something cannot be read. -/
inductive ReadFault where
  | notFound | notADirectory | isADirectory | invalidText
deriving Repr, DecidableEq

/-- The wording of a fault. -/
def ReadFault.message : ReadFault → String
  | notFound => "No such file or directory (os error 2)"
  | notADirectory => "Not a directory (os error 20)"
  | isADirectory => "Is a directory (os error 21)"
  | invalidText => "stream did not contain valid UTF-8"

/-- A file with its bytes, or a directory with the names and entries in it. -/
inductive Entry where
  | file (bytes : ByteArray)
  | dir (entries : List (String × Entry))

namespace Entry

/-- Whether the entry is a directory. -/
def isDir : Entry → Bool
  | dir _ => true
  | file _ => false

/-- The entry with a given name in a list. -/
def find? (name : String) (entries : List (String × Entry)) : Option Entry :=
  (entries.find? fun e => e.1 == name).map (·.2)

/-- What is found by following names from a directory; `above` holds the directories around it,
the nearest first. -/
def follow (above : List Entry) (here : Entry) : List (List Char) → Except ReadFault Entry
  | [] => .ok here
  | name :: names =>
    match here with
    | file _ => .error .notADirectory
    | dir entries =>
      if name = [] ∨ name = ['.'] then follow above here names
      else if name = ['.', '.'] then
        match above with
        | [] => follow [] here names
        | parent :: above => follow above parent names
      else
        match find? (String.ofList name) entries with
        | none => .error .notFound
        | some e => follow (here :: above) e names

/-- Replaces the entry with a given name, or adds it. -/
def put (name : String) (e : Entry) : List (String × Entry) → List (String × Entry)
  | [] => [(name, e)]
  | (n, old) :: rest => if n = name then (n, e) :: rest else (n, old) :: put name e rest

/-- Puts an entry at the end of a list of names, making directories on the way. -/
def insert (e : Entry) : List String → Entry → Entry
  | [], _ => e
  | name :: names, here =>
    let entries :=
      match here with
      | dir entries => entries
      | file _ => []
    let inside := (find? name entries).getD (dir [])
    dir (put name (insert e names inside) entries)

/-- Takes away what a list of names leads to. -/
def erase : List String → Entry → Entry
  | [], here => here
  | [name], dir entries => dir (entries.filter fun e => e.1 != name)
  | name :: names, dir entries =>
    match find? name entries with
    | some inside => dir (put name (erase names inside) entries)
    | none => dir entries
  | _, file bytes => file bytes

end Entry

/-- A tree of directories and the current directory. -/
structure FileSystem where
  root : Entry
  current : String

namespace FileSystem

/-- What a path leads to. The empty path leads nowhere. -/
def resolve (fs : FileSystem) (path : String) : Except ReadFault Entry :=
  if path = "" then .error .notFound
  else Entry.follow [] fs.root (Path.components (Path.join fs.current path).toList)

/-- Whether a path leads to a directory. -/
def isDir (fs : FileSystem) (path : String) : Bool :=
  match fs.resolve path with
  | .ok e => e.isDir
  | .error _ => false

/-- The names and entries of a directory. -/
def readDir (fs : FileSystem) (path : String) : Except ReadFault (List (String × Entry)) :=
  match fs.resolve path with
  | .ok (.dir entries) => .ok entries
  | .ok (.file _) => .error .notADirectory
  | .error e => .error e

/-- The text of bytes. -/
def decodeText (bytes : ByteArray) : Except ReadFault String :=
  match String.fromUTF8? bytes with
  | some text => .ok text
  | none => .error .invalidText

/-- The text of a file. -/
def readText (fs : FileSystem) (path : String) : Except ReadFault String :=
  match fs.resolve path with
  | .ok (.file bytes) => decodeText bytes
  | .ok (.dir _) => .error .isADirectory
  | .error e => .error e

end FileSystem

end Tickscript
