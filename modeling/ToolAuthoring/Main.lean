import ToolAuthoring.CommandLine.Run

/-!
# The program

Reads the command line, loads the files that the command names, runs it, and writes back what it has
changed.
-/

namespace ToolAuthoring

/-- Put what is at a path into a store. Devices are there already. -/
def FileStore.load (store : FileStore) (path : String) : IO FileStore := do
  let place := (← IO.currentDir) / path
  let l := Location.ofPath path
  if (store.devices.lookup l).isSome then return store
  if ← place.isDir then return { store with folders := l :: store.folders }
  if ← place.pathExists then
    let data ← IO.FS.readBinFile place
    return { store with files := store.files.insert l (.ofBytes data.toList) }
  return store

/-- Write a file to its path. -/
def FileContent.save (content : FileContent) (path : String) : IO Unit :=
  match content with
  | .text s => IO.FS.writeFile path s
  | .bytes data => IO.FS.writeBinFile path ⟨data.toArray⟩

/-- Run an invocation on the files it names, and print what it prints. -/
def Invocation.perform (i : Invocation) : IO UInt32 := do
  let before ← (i.command.paths.flatMap Location.leading).foldlM FileStore.load
    FileStore.empty.withDevices
  let report := i.command.run before
  for (path, content) in before.changes report.files do
    try
      content.save path
    catch _ =>
      IO.eprint (Failure.plain ("Failed to write " ++ path)).text
      return 1
  IO.print report.outputText
  IO.eprint (report.errorText (i.filter (← IO.getEnv "RUST_LOG")))
  return report.status.toUInt32

end ToolAuthoring

def main (arguments : List String) : IO UInt32 := do
  match ToolAuthoring.Invocation.parse arguments with
  | .ok i => i.perform
  | .error e =>
    IO.eprintln ("error: " ++ e.message)
    return 2
