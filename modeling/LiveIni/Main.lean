import LiveIni.CommandLine

/-!
The program: reads the environment and the files that the arguments name, runs the command,
and writes back what has changed. Everything else is decided in `LiveIni.CommandLine`.
-/

namespace LiveIni.Main

/-- The environment variables of the process. -/
def readEnvironment : IO Environment := do
  let bytes ← IO.FS.readBinFile "/proc/self/environ"
  let entries := Text.splitAt '\x00' ((String.fromUTF8? bytes).getD "").toList
  return entries.filterMap (Text.cutAt? '=')

/-- What stands at a path, if anything does. -/
def readNode? (path : Path) : IO (Option Node) := do
  try
    let bytes ← IO.FS.readBinFile path.text.string
    return some (.file bytes.toList)
  catch
    | .noFileOrDirectory .. => return none
    | _ => return some .directory

/-- Adds what stands at a path and above it. -/
def readPath (files : Files) (path : Path) : IO Files := do
  let mut files := files
  for n in List.range (path.parts.length + 1) do
    let part : Path := ⟨path.parts.take n⟩
    if let some node ← readNode? part then
      files := Table.set part.resolved.text node files
  return files

/-- Writes the files and makes the directories that are not as they were. -/
def writeBack (old new : Files) : IO Unit := do
  for (path, node) in new do
    if Table.get? path old ≠ some node then
      match node with
      | .directory => IO.FS.createDirAll path.string
      | .file content => IO.FS.writeBinFile path.string ⟨content.toArray⟩

end LiveIni.Main

open LiveIni in
def main (args : List String) : IO UInt32 := do
  let args := args.map String.toList
  let env ← Main.readEnvironment
  let named := match Command.ofArguments? args with
    | some command => command.files
    | none => []
  let logFile := (Settings.ofEnvironment env).toOption.bind (·.logFile)
  let mut files : Files := []
  for path in named ++ logFile.toList do
    files ← Main.readPath files (Path.ofText path)
  let (result, world) := Command.run args env { files := files }
  Main.writeBack files world.files
  let verbose := (args.takeWhile Command.isOption).any Command.asksVerbose
  for r in world.hub.received do
    if verbose || LogLevel.warn.severity ≤ r.level.severity then
      IO.eprint r.line.string
  match result with
  | .usage => IO.eprintln "usage: [-v] show|export|validate FILE... [OPTION]..."
  | .finished _ output => IO.print output.string
  | .failed fault => IO.eprintln ("Error: " ++ fault.message)
  return UInt32.ofNat result.exitCode
