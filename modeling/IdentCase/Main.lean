import IdentCase.Command.Response

/-!
# The program

Takes a picture of the files that the arguments can reach, runs the command on it and puts the
changed files in place.
-/

set_option autoImplicit false

namespace IdentCase.Command

def locationOf (path : String) : Location := (Path.split path).filter fun name => !name.isEmpty

def loadNode (disk : Disk) (path : String) : IO Disk := do
  let place := locationOf path
  if (disk.node? place).isSome then return disk
  if ← (← IO.FS.realPath path).isDir then return disk.create place .directory
  try return disk.create place (.file (← IO.FS.readBinFile path))
  catch _ => return disk

def loadNames (disk : Disk) (directory : Location) : List String → IO (Disk × Option Location)
  | [] => return (disk, some directory)
  | name :: rest => do
    if name = "" ∨ name = "." then loadNames disk directory rest
    else if name = ".." then loadNames disk directory.dropLast rest
    else
      let place := directory ++ [name]
      try
        let target := toString (← IO.FS.realPath place.toPath)
        let disk ← loadNode disk target
        let disk := if target = place.toPath then disk else disk.create place (.link target)
        loadNames disk (locationOf target) rest
      catch _ => return (disk, none)

partial def loadBelow (disk : Disk) (seen : List Location) : List Location → IO Disk
  | [] => return disk
  | place :: rest => do
    if seen.contains place then loadBelow disk seen rest
    else if !disk.isDirectory place then loadBelow disk (place :: seen) rest
    else
      let entries ← (← IO.FS.realPath place.toPath).readDir
      let mut disk := disk
      let mut next := rest
      for entry in entries do
        let (loaded, inner) ← loadNames disk place [entry.fileName]
        disk := loaded
        next := inner.toList ++ next
      loadBelow disk (place :: seen) next

def loadArgument (directory : Location) (disk : Disk) (argument : String) : IO Disk := do
  let names := (Path.split argument).takeWhile fun name => !PathPattern.isPattern name
  let start := if Path.isAbsolute argument then [] else directory
  let (disk, place) ← loadNames disk start names
  if PathPattern.isPattern argument then loadBelow disk [] place.toList else return disk

def loadEnvironment (names : List String) : IO Environment := do
  let mut environment : Environment := []
  for name in names do
    if let some value ← IO.getEnv name then environment := (name, value) :: environment
  return environment

def Invocation.arguments : Invocation → Option String × List String
  | .fix options => (options.config, options.files)
  | .languages config => (config, [])

def loadSession (arguments : List String) : IO Session := do
  let directory := locationOf (toString (← IO.FS.realPath (← IO.currentDir)))
  let disk ← loadNode .empty directory.toPath
  match Invocation.read arguments with
  | .error _ => return ⟨[], directory, disk⟩
  | .ok invocation =>
    let (config, files) := invocation.arguments
    let environment ← loadEnvironment (config.toList.flatMap Expansion.variableNames)
    let settings := config.toList.filterMap fun path => (Expansion.path environment path).toOption
    let disk ← (settings ++ files).foldlM (loadArgument directory) disk
    return ⟨environment, directory, disk⟩

def storeChanges (before after : Disk) : IO Unit := do
  for (place, node) in after.entries do
    if let .file new := node then
      if let some (.file old) := before.node? place then
        if old != new then IO.FS.writeBinFile place.toPath new

def workers : Nat := 8

end IdentCase.Command

def main (arguments : List String) : IO UInt32 := do
  let session ← IdentCase.Command.loadSession arguments
  let response := IdentCase.Command.run IdentCase.Command.workers session arguments
  IdentCase.Command.storeChanges session.disk response.disk
  let stdout ← IO.getStdout
  stdout.putStr response.output
  stdout.flush
  return response.exitCode.toUInt32
