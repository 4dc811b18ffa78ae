import LevelPrep.Batch.Run

/-!
# The command line

Imports the scenes of the working directory.  The one argument, which may be left out, is a JSON file
with the parts of the configuration that differ from the default.
-/

open LevelPrep

/-- Reads everything below a directory of the working directory. -/
partial def readDisk (disk : Disk) (place : Path) : IO Disk := do
  let mut disk := disk
  for entry in ← (← IO.FS.realPath place.text).readDir do
    let below := place.child entry.fileName
    if ← entry.path.isDir then
      disk ← readDisk (disk.makeDirectories (disk.absolute below).parts) below
    else
      disk := disk.write below (← IO.FS.readBinFile entry.path)
  return disk

/-- Writes everything that a run has made or changed. -/
def writeDisk (before after : Disk) : IO Unit := do
  for (location, entry) in after.entries do
    let name := ({ anchor := .root false, parts := location } : Path).text
    match entry with
    | .directory => IO.FS.createDirAll name
    | .file content =>
      match before.entryAt? location with
      | some (.file old) => if old.toList != content.toList then IO.FS.writeBinFile name content
      | _ => IO.FS.writeBinFile name content

def main (args : List String) : IO UInt32 := do
  let home := Path.ofText (← IO.currentDir).toString
  let disk ← readDisk { home } {}
  let changes ← match args with
    | file :: _ => IO.FS.readFile file
    | [] => pure "\x7b\x7d"
  match (Json.read changes).bind (Plan.configure home) with
  | .error fault => IO.eprintln fault.message; return 1
  | .ok config =>
    let start : Batch := { session := { disk := disk }, time := "import" }
    let (outcome, done) := StateT.run (ExceptT.run (BatchWork.run Tools.standard config)) start
    writeDisk disk done.session.disk
    for line in done.router.console do IO.eprintln line
    IO.print done.output
    match outcome with
    | .ok _ => return 0
    | .error fault => IO.eprintln fault.message; return 1
