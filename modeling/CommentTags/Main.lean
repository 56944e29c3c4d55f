import CommentTags.CommandLine.Program
import Std.Time.Format

/-!
The program on a real system. It pictures the files that a run can meet, runs on that picture, and
then prints what the run printed and writes the files that the run changed.
-/

namespace CommentTags.Main

def located (path : String) := (· / path) <$> IO.currentDir

def isThere (path : String) : IO Bool := do
  try
    let _ ← (← located path).symlinkMetadata
    return true
  catch _ => return false

/-- The picture of what is at a path. Version control data is left out, since no run reads it. -/
partial def picture (path : String) : IO Node := do
  let place ← located path
  match (← place.symlinkMetadata).type with
  | .dir =>
    let entries ← place.readDir
    let nodes ← entries.toList.reverse.mapM (fun e => do
      let node ← if e.fileName.toList = versionControlDir then pure (.dir []) else
        picture e.path.toString
      return (e.fileName.toList, node))
    return .dir nodes
  | .symlink =>
    try return .link (← IO.FS.realPath path).toString.toList
    catch _ => return .link []
  | _ => return .file (← IO.FS.readBinFile path).toList

partial def add (disk : Disk) (path : Text) : IO Disk := do
  let name := String.ofList path
  let above := Path.parent path
  if path.isEmpty || (disk.node path).isOk then return disk
  else if ← isThere name then
    let real ← try pure (← IO.FS.realPath name).toString catch _ => pure name
    let disk := disk.put (Path.components real.toList) (← picture real)
    if (disk.node path).isOk then return disk
    let base := if path.head? = some '/' then [] else disk.cwd
    return disk.put (base ++ Path.components path) (.link real.toList)
  else if above = path then return disk
  else add disk above

def pathsIn (arg : String) : List Text :=
  let arg := arg.toList
  [arg, ((Text.cut '=' arg).2).getD [], arg.drop 2]

def environment : IO Environment := do
  let names := Setting.all.map Setting.variableName ++ Outlets.variableNames
  names.filterMapM (fun name => do
    return (← IO.getEnv (String.ofList name)).map (fun value => (name, value.toList)))

def processNumber : IO Int := do
  try return (((← IO.FS.realPath "/proc/self").fileName.bind String.toNat?).getD 0 : Nat)
  catch _ => return 0

def startSession (args : List String) : IO Session := do
  let cwd := Path.components (← IO.currentDir).toString.toList
  let env ← environment
  let start : Disk := { root := .dir [], cwd }
  let start := start.put cwd (← picture ".")
  let disk ← (args.flatMap pathsIn ++ env.map (·.2)).foldlM add start
  let clock := (← Std.Time.PlainDateTime.now).format "uuuu-MM-dd'T'HH:mm:ss.SSSSSS"
  let time := (← Std.Time.Timestamp.now).toMillisecondsSinceUnixEpoch.val
  let columns := ((← IO.getEnv "COLUMNS").bind String.toNat?).getD 80
  return { disk, env, stamp := { time, process := ← processNumber }, clock := clock.toList
           host := { width := columns - 1 + 1, width_pos := Nat.succ_pos _ } }

def emit (s : Session) (e : Emission) : IO Unit :=
  match e with
  | .out text => IO.print (String.ofList text)
  | .err text => IO.eprint (String.ofList text)
  | .log line =>
    match s.outlets.style with
    | .json =>
      match line.serialize s.host.writingRoom with
      | .ok text => IO.eprintln (String.ofList text)
      | .error obstacle =>
        IO.eprintln (String.ofList (obstacle.kind ++ ": ".toList ++ obstacle.message))
    | .plain => IO.eprintln (String.ofList (line.plain ((s.clock.drop 11).take 8)))

def writeChanges (old new : Disk) : IO Unit := do
  let before := Node.files ['/'] old.root
  for (path, bytes) in Node.files ['/'] new.root do
    if before.lookup path != some bytes then
      IO.FS.createDirAll (String.ofList (Path.parent path))
      IO.FS.writeBinFile (String.ofList path) ⟨bytes.toArray⟩

end CommentTags.Main

open CommentTags

def main (args : List String) : IO UInt32 := do
  let start ← Main.startSession args
  let outcome := CommandLine.run start (args.map String.toList)
  let s := outcome.session
  s.emitted.forM (Main.emit s)
  Main.writeChanges start.disk s.disk
  match outcome.escaped with
  | some f => IO.eprintln (String.ofList (f.kind ++ ": ".toList ++ f.message))
  | none => pure ()
  return outcome.exitCode.toNat.toUInt32
