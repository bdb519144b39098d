import Switchboard.Command

/-!
# The program

Files that arguments name are read from where the program works, or from the root; the libraries are
the ones that lie in every directory. The input is read to the end of its first line before the
program ends.
-/

namespace Switchboard.Command

def readFile (name : String) : IO (Option (Bytes × FileNode)) := do
  try
    let content ← IO.FS.readBinFile name
    return some (Utf8.encode name, .text content.toList)
  catch
    | .inappropriateType .. => return some (Utf8.encode name, .directory)
    | .permissionDenied _ code _ => return some (Utf8.encode name, .unreadable ⟨code.toNat⟩)
    | _ => return none

def readFiles (args : List String) : IO FileTree := do
  let here ← IO.currentDir
  let workplace := (FileTree.empty []).placeOf (Utf8.encode here.toString)
  let found ← args.filterMapM readFile
  return found.foldl (fun t (name, node) => t.add name node) (.stockAt workplace)

end Switchboard.Command

def main (args : List String) : IO UInt32 := do
  let files ← Switchboard.Command.readFiles args
  let report := Switchboard.Command.run files args
  IO.print report.output
  if report.code = 0 then
    discard (← IO.getStdin).getLine
  for line in report.errors do
    IO.eprintln line
  return UInt32.ofNat report.code
