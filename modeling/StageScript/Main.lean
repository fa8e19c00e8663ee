import StageScript.CommandLine.Execute

/-!
# The program

Reads from the file system what the arguments name, asks `CommandLine.answer`, and writes its lines.
-/

namespace StageScript.CommandLine

/-- The paths an invocation names. -/
def Invocation.paths : Invocation → List String
  | .check dir => [dir]
  | .run dir _ _ actors _ => dir :: actors.toList

/-- Reads what stands under a path, directories with all they hold. Links below a directory are
passed over. -/
partial def readEntry (path : String) : IO Entry := do
  let place ← IO.FS.realPath path
  if ← place.isDir then
    let mut entries := #[]
    for child in ← place.readDir do
      let isLink := (← child.path.symlinkMetadata).type == .symlink
      unless isLink do
        entries := entries.push (child.fileName, ← readEntry child.path.toString)
    return .directory entries.toList
  else
    try
      return .file (← IO.FS.readBinFile place)
    catch e => return .unreadable (toString e)

/-- Reads what stands under a path, if anything does. -/
def readEntry? (path : String) : IO (Option Entry) := do
  try
    let entry ← readEntry path
    return some entry
  catch _ => return none

/-- The files an invocation needs. -/
def readFiles (arguments : List String) : IO Files := do
  let workingDirectory := (← IO.currentDir).toString
  let nothing : Files := ⟨workingDirectory, fun _ => none⟩
  match Invocation.ofArguments arguments with
  | .error _ => return nothing
  | .ok invocation =>
    let mut found : List (String × Entry) := []
    for path in invocation.paths do
      let absolute := nothing.absolute path
      if let some entry ← readEntry? absolute then
        found := (absolute, entry) :: found
    let entries := found
    return ⟨workingDirectory, fun path => entries.lookup path⟩

end StageScript.CommandLine

open StageScript.CommandLine in
/-- Answers the command line. -/
def main (arguments : List String) : IO UInt32 := do
  let files ← readFiles arguments
  let result := answer files arguments
  for line in result.lines do
    IO.println line
  return UInt32.ofNat result.exitCode
