import RouteLint.Command.Run

/-!
# The program

Everything is decided on a copy of the files, which is read before a command runs; afterwards the
files that have changed are written.  While a directory is watched, the files are read again and
again, and what differs from the time before is what has changed.

## Main definitions

* `main` — the program.
-/

namespace RouteLint.Program

open Command

/-- What the program says when asked for an explanation. -/
def helpLines : List String :=
  ["Usage: biome-rules [OPTIONS] [COMMAND]",
    "",
    "Run every configured rule and exit non-zero on violations.",
    "",
    "Options:",
    "  -c, --config PATH     Path to biome.json.",
    "  -t, --tsconfig PATH   Path to tsconfig.json.",
    "      --cwd PATH        Working directory.",
    "      --fix             Apply auto-fixes where possible.",
    "      --preset NAME     Merge a rule preset (recommended, strict, all) under biomeRules.",
    "  -v, --verbose         Enable debug logging.",
    "  -h, --help            Show this message and exit.",
    "",
    "Commands:",
    "  rules                 List available rules.",
    "  watch                 Re-run the configured rules whenever a TypeScript file changes."]

/-- The content of a file, if the program may have to read it. -/
def contentOf (entry : IO.FS.DirEntry) (path : Path) : IO Bytes := do
  if (Language.ofPath path).isOk then
    return (← IO.FS.readBinFile entry.path).toList
  else
    return []

/-- Put files and directories on a disk, below a directory. -/
partial def addEntries (directory : Path) (entries : Array IO.FS.DirEntry) (disk : Disk) :
    IO Disk := do
  let mut disk := disk
  for entry in entries do
    let path := directory.child entry.fileName
    match (← entry.path.symlinkMetadata).type with
    | .dir =>
      disk := disk.makeDirectories path.parts
      disk ← addEntries path (← entry.path.readDir) disk
    | .file => disk := disk.put path.parts (← contentOf entry path)
    | _ => pure ()
  return disk

/-- Put a directory with everything in it on a disk, if it is there. -/
def addTree (directory : Path) (disk : Disk) : IO Disk := do
  try
    let entries ← (← IO.FS.realPath directory.text).readDir
    addEntries directory entries (disk.makeDirectories directory.parts)
  catch _ => return disk

/-- Put a file on a disk, if it is there. -/
def addFile (path : Path) (disk : Disk) : IO Disk := do
  try
    return disk.put path.parts (← IO.FS.readBinFile path.text).toList
  catch _ => return disk

/-- The disk as a command sees it: the current directory, the working directory and the
configuration. -/
def readDisk (home : Path) (o : CheckOptions) : IO Disk := do
  let working := home.absolute (workingDirectory o home)
  let disk ← addTree home Disk.empty
  let disk ← if disk.isDirectory working then pure disk else addTree working disk
  let disk ← addFile (home.absolute (Path.parse o.config)) disk
  match o.typeConfig with
  | none => return disk
  | some name => addFile (working.absolute (Path.parse name)) disk

/-- Write the files that have changed. -/
def writeDisk (before after : Disk) : IO Unit := do
  for (place, entry) in after.entries do
    match entry with
    | .file content =>
      if before.entries.get? place != some entry then
        IO.FS.writeBinFile (Path.mk .slash place).text ⟨content.toArray⟩
    | .directory => pure ()

/-- What happened to files between two times. -/
def changesBetween (before after : Disk) : List Change :=
  let told := after.entries.filterMap fun (place, entry) =>
    let path := (Path.mk .slash place).text
    match entry, before.entries.get? place with
    | .file _, none => some ⟨.added, path⟩
    | .file content, some (.file old) => if content = old then none else some ⟨.modified, path⟩
    | _, _ => none
  let gone := before.entries.filterMap fun (place, entry) =>
    match entry with
    | .file _ =>
      if after.entries.contains place then none
      else some ⟨.deleted, (Path.mk .slash place).text⟩
    | .directory => none
  told ++ gone

/-- Show what a command has shown and told, and write what it has changed. -/
def finish (verbose : Bool) (before : Disk) (desk : Desk) : IO Unit := do
  for event in desk.log do
    if verbose || event.level ≠ .info then IO.eprintln event.message
  IO.print desk.screen.out
  IO.eprint desk.screen.err
  (← IO.getStdout).flush
  writeDisk before desk.disk

/-- Look for changes and let them happen, for as long as the program runs. -/
partial def watchOn (o : CheckOptions) (verbose : Bool) (home : Path) (seen : Disk) (w : Watcher) :
    IO Unit := do
  IO.sleep 300
  let now ← readDisk home o
  let changes := changesBetween seen now
  if changes.isEmpty then watchOn o verbose home now w
  else
    let (w, desk) := (happen standardHandlers o w ⟨fun _ => now, changes⟩).run
      { disk := now, home, log := [] }
    finish verbose now desk
    watchOn o verbose home desk.disk w

/-- Check once, and then again whenever a file changes. -/
def watchFiles (o : CheckOptions) (verbose : Bool) (home : Path) : IO UInt32 := do
  let disk ← readDisk home o
  let (started, desk) := ((beginWatch standardHandlers o).run).run { disk, home, log := [] }
  finish verbose disk desk
  match started with
  | .error _ => return 1
  | .ok w =>
    watchOn o verbose home desk.disk w
    return 0

/-- Do what is asked for. -/
def perform (request : Request) (home : Path) : IO UInt32 := do
  match request with
  | .help =>
    for line in helpLines do IO.println line
    return 0
  | .watch o verbose => watchFiles { o with fix := false } verbose home
  | .check o verbose =>
    let disk ← readDisk home o
    let (code, desk) := (run standardHandlers [] request).run { disk, home, log := [] }
    finish verbose disk desk
    return code.toUInt32
  | .rules =>
    let (code, desk) :=
      (run standardHandlers [] request).run { disk := Disk.empty, home, log := [] }
    finish false Disk.empty desk
    return code.toUInt32

/-- The variables of the environment that set options. -/
def variableNames : List String := ["BIOME_RULES_CONFIG", "BIOME_RULES_TSCONFIG"]

/-- Read the command line and do what it asks for. -/
def start (arguments : List String) : IO UInt32 := do
  let values ← variableNames.mapM fun name => do return (name, ← IO.getEnv name)
  let env := fun name => (values.find? fun v => v.1 == name).bind (·.2)
  match Request.read env arguments with
  | .error e =>
    IO.eprintln e.message
    return usageExit.toUInt32
  | .ok request => perform request (Path.parse (← IO.currentDir).toString)

end RouteLint.Program

/-- The program. -/
def main (arguments : List String) : IO UInt32 := RouteLint.Program.start arguments
