import TrafficTrace.Program.Needs

/-! The program on a machine: its words, variables, files and standard streams. It opens no connection,
so that a task which needs the service ends with the report that the service cannot be reached. -/
namespace TrafficTrace.Machine

def pathText (p : FilePath) : String := "/" ++ "/".intercalate p

/-- Adds to a tree what the machine has at a path. What cannot be read counts as absent. -/
def look (t : FileTree) (p : FilePath) : IO FileTree := do
  try
    return t.place p (← IO.FS.readBinFile (pathText p))
  catch
    -- the number of the error of reading a directory
    | .inappropriateType _ 21 _ => return t.makeDirectories p
    | _ => return t

/-- All bytes of a stream. -/
partial def readAll (stream : IO.FS.Stream) (read : ByteArray) : IO ByteArray := do
  let bytes ← stream.read 65536
  if bytes.isEmpty then return read else readAll stream (read ++ bytes)

def surroundings (words : List String) : IO Surroundings := do
  let directory := FilePath.follow [] (← IO.currentDir).toString
  let home := (← IO.getEnv "HOME").map (FilePath.follow directory)
  let bindings ← EnvironmentSettings.lookedUp.mapM fun name => do
    return (name, ← IO.getEnv name)
  let files ← (Program.places words home directory).foldlM look
    ((FileTree.empty "").makeDirectories directory)
  let input ← if Program.readsInput words then readAll (← IO.getStdin) .empty else pure .empty
  let fresh := Program.freshFrom (← IO.getRandomBytes 16).toList
  return {
    words
    envVar? := fun name => (bindings.lookup name).join
    files
    home
    directory
    input
    client := fresh 0
    fresh := fun n => fresh (n + 1)
    interrupt := 0
    date := fun _ => .epoch }

/-- Shows what a run left behind, and writes its files. -/
def finish (before : FileTree) (e : Ending) : IO UInt32 := do
  try
    (e.files.filesBeside before).forM fun (p, content) => IO.FS.writeBinFile (pathText p) content
    IO.print e.output
    e.notes.forM IO.eprintln
    e.failure.forM fun report => IO.eprintln report.toText
    return UInt32.ofNat e.code
  catch problem =>
    IO.eprintln (Report.plain problem.toString).toText
    return 1

end TrafficTrace.Machine

open TrafficTrace in
def main (words : List String) : IO UInt32 := do
  let w ← Machine.surroundings words
  Machine.finish w.files (Program.run w .disconnected ()).1
