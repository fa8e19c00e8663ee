/-!
# Files

What the command line sees of a file system: what stands under a path, and the directory that
relative paths start from.
-/

namespace StageScript.CommandLine

/-- What stands under a path. -/
inductive Entry where
  | file (bytes : ByteArray)
  /-- A file that cannot be read, and why. -/
  | unreadable (reason : String)
  | directory (entries : List (String × Entry))

/-- The files a command line works on. -/
structure Files where
  workingDirectory : String
  /-- What stands under an absolute path. -/
  find? : String → Option Entry

/-- The parts of a path. -/
def pathParts (path : String) : List String := path.splitOn "/"

namespace Entry

/-- Whether the entry is a directory. -/
def isDirectory : Entry → Bool
  | .directory _ => true
  | _ => false

/-- The entry a path leads to, where `above` are the directories on the way, innermost first. Only
a directory can be gone through. -/
def follow? (above : List Entry) (here : Entry) : List String → Option Entry
  | [] => some here
  | part :: parts =>
    match here with
    | .directory entries =>
      if part = "" ∨ part = "." then follow? above here parts
      else if part = ".." then
        match above with
        | parent :: above => follow? above parent parts
        | [] => follow? [] here parts
      else
        match entries.lookup part with
        | some entry => follow? (here :: above) entry parts
        | none => none
    | _ => none

/-- The text of a file. -/
def readText : Entry → Except String String
  | .file bytes =>
    match String.fromUTF8? bytes with
    | some text => .ok text
    | none => .error "stream did not contain valid UTF-8"
  | .unreadable reason => .error reason
  | .directory _ => .error "Is a directory (os error 21)"

mutual

/-- All files below an entry with their paths from it. -/
def filesBelow (path : List String) : Entry → List (List String × Entry)
  | .directory entries => filesBelowAll path entries
  | entry => [(path, entry)]
termination_by structural entry => entry

/-- All files below several entries. -/
def filesBelowAll (path : List String) : List (String × Entry) → List (List String × Entry)
  | [] => []
  | (name, entry) :: rest => filesBelow (path ++ [name]) entry ++ filesBelowAll path rest
termination_by structural entries => entries

end

end Entry

/-- Makes a path absolute. -/
def Files.absolute (files : Files) (path : String) : String :=
  if path.toList.head? = some '/' then path else files.workingDirectory ++ "/" ++ path

/-- What stands under a path. Nothing stands under the empty path. -/
def Files.at? (files : Files) (path : String) : Option Entry :=
  if path = "" then none else files.find? (files.absolute path)

/-- The files of a tree. -/
def Files.ofTree (workingDirectory : String) (top : Entry) : Files :=
  ⟨workingDirectory, fun path => Entry.follow? [] top (pathParts path)⟩

end StageScript.CommandLine
