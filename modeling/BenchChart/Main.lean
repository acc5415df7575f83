import BenchChart.Program

/-!
# The command line program

What the program needs of the real file system is read into a `Disk` first, `Program.run` does the
work, and the files that it changed are written back.
-/

namespace BenchChart

namespace Main

/-- The disk with the file or directory at a path as it really is. Of a directory's files only the
logs are read. -/
def load (disk : Disk) (path : Path) : IO Disk := do
  let target := (← IO.currentDir) / path.display
  if ← target.isDir then
    let mut loaded := (disk.makeDirectories path).1
    for entry in ← target.readDir do
      let name := Text.encode entry.fileName.toList
      match loaded.locate (path.join name) with
      | .error _ => pure ()
      | .ok location =>
        if ← entry.path.isDir then loaded := loaded.put location .directory
        else if (Batch.logName? name).isSome then
          loaded := loaded.put location (.file (← IO.FS.readBinFile entry.path).toList)
        else loaded := loaded.put location (.file [])
    return loaded
  else if ← target.pathExists then
    let above := (disk.makeDirectories (path.parent?.getD ⟨[]⟩)).1
    match above.write path (← IO.FS.readBinFile target).toList with
    | .ok written => return written
    | .error _ => return above
  else return disk

def configPaths (env : Environment) (current : Location) : List Path :=
  (Config.userPath? env).toList.flatMap (fun p =>
      [p, ⟨p.bytes ++ Text.encode ".toml".toList⟩]) ++
    (List.range (current.length + 1)).map fun n =>
      Disk.pathOf (Config.localName :: current.drop n)

def loadConfig (env : Environment) (disk : Disk) : IO Disk := do
  let mut loaded := disk
  for path in configPaths env disk.current do
    let target := (← IO.currentDir) / path.display
    if (← target.pathExists) && !(← target.isDir) then
      loaded ← load loaded path
  return loaded

def store (before after : Disk) : IO Unit := do
  for (location, node) in after.entries do
    match node with
    | .directory => pure ()
    | .file content =>
      if before.node? location != some node then
        IO.FS.writeBinFile (Disk.pathOf location).display ⟨content.toArray⟩

def eventText (event : Event) : String :=
  "[" ++ event.level.name ++ " " ++ event.target ++ "] " ++ "\n".intercalate event.messageLines

end Main

end BenchChart

open BenchChart in
def main (arguments : List String) : IO UInt32 := do
  let env : Environment :=
    { home := (← IO.getEnv "HOME").map Path.ofString
      configHome := ← IO.getEnv "XDG_CONFIG_HOME"
      eventFilter := ← IO.getEnv "RUST_LOG" }
  let here := Path.ofString (← IO.currentDir).toString
  let parts := (Path.split here.bytes).filter (!·.isEmpty)
  let empty : Disk := ⟨[], parts.reverse⟩
  let bytes := arguments.map fun s => Text.encode s.toList
  let configured ← Main.loadConfig env (empty.makeDirectories here).1
  let disk ← match CommandLine.parse bytes with
    | .error _ => pure configured
    | .ok request =>
      Main.load configured (Program.directoryOf (Config.read configured env) request).2
  let exit := Program.run env disk bytes
  Main.store disk exit.disk
  IO.print exit.output
  IO.eprint exit.warnings
  for event in exit.events do
    IO.eprintln (Main.eventText event)
  IO.eprint exit.report
  return exit.code.toUInt32
