import BuildProvenance.CommandLine.Commands
import BuildProvenance.FileSystem.Inventory
import BuildProvenance.Http.Clients

/-!
# The program

The files that a command may look at are listed on standard input, as
`find . -printf '%y\t%T@\t%p\t%l\n'` lists them, and are read before the
command runs.  What the command wrote is put on disk afterwards, also when it
failed.  No server can be reached from here, so a command that asks one ends
with the failure of its request.
-/

namespace BuildProvenance.Program

/-- Adds the files that the rest of a stream lists. -/
partial def readListed (stream : IO.FS.Stream) (files : FileSystem) : IO FileSystem := do
  let line ← stream.getLine
  if line.isEmpty then return files
  match FileSystem.Entry.parse? line with
  | none => readListed stream files
  | some entry =>
    let content ←
      if entry.isFile then IO.FS.readBinFile entry.path.display else pure ByteArray.empty
    readListed stream ((files.enter? entry content).getD files)

def writeFile (file : FoundFile) : IO Unit := do
  if let some parent := file.path.parent? then
    IO.FS.createDirAll parent.display
  IO.FS.writeBinFile file.path.display file.content

end BuildProvenance.Program

open BuildProvenance in
def main (arguments : List String) : IO UInt32 := do
  let here ← IO.currentDir
  let files ← Program.readListed (← IO.getStdin)
    (FileSystem.ofWorkingDirectory (Path.ofString here.toString))
  let connect := Http.clients Http.Transport.unreachable (fun _ => none) "." (fun _ => 0)
  let exit := CommandLine.run connect arguments ⟨files, ⟨(), []⟩, ""⟩
  (FileSystem.changedSince files exit.world.files).forM Program.writeFile
  IO.print exit.world.printed
  if let some error := exit.error then
    IO.eprintln ("Error: " ++ error.describe Fault.message)
  return exit.code.toUInt32
