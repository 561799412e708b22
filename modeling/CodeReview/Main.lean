import Std.Time
import CodeReview.Command.Run

/-!
The program: it takes what the arguments name from the real disk, runs a command on that, and writes
back what the command has written.
-/

namespace CodeReview.Main

def pathText (p : Place) : String :=
  String.ofList ('/' :: Text.join "/" p)

/-- A place on the real disk. -/
def real (p : Place) : IO.FS.DirEntry :=
  { root := "/", fileName := String.ofList (Text.join "/" p) }

def bytesAt (entry : IO.FS.DirEntry) : IO Bytes := do
  return (← IO.FS.readBinFile entry.path).toList

/-- The texts in an argument that may be paths: all of it, or the value of an option. -/
def candidates (arg : Text) : List Text :=
  let value := match arg.findIdx? (· = '=') with
    | some i => arg.drop (i + 1)
    | none => []
  let parts := if arg.head? = some '-' then [arg.drop 2, value] else [arg]
  parts.filter fun t => !t.isEmpty

/-- Whether a file is one that a review reads. -/
def isSource (name : Text) : Bool :=
  Text.endsWith name ".py" || Text.endsWith name ".pyi"

/-- Takes over all sources below a place. -/
partial def takeTree (disk : Disk) (place : Place) : IO Disk := do
  let mut disk := disk.supply place .directory
  for entry in ← (real place).path.readDir do
    let name := entry.fileName.toList
    if ← entry.path.isDir then disk ← takeTree disk (place ++ [name])
    else if isSource name then disk := disk.supply (place ++ [name]) (.file (← bytesAt entry))
  return disk

/-- Takes over what a path leads to, and the directories on the way. -/
def takePath (disk : Disk) (path : Text) : IO Disk := do
  let p := Path.ofText path
  let mut disk := disk
  let mut place : Place := if p.root.isEmpty then disk.home else []
  for name in p.names do
    if !(← (real place).path.isDir) then return disk
    disk := disk.supply place .directory
    place := if name = ['.', '.'] then place.dropLast else place ++ [name]
  let entry := real place
  if ← entry.path.isDir then takeTree disk place
  else if ← entry.path.pathExists then
    if (← entry.path.metadata).type matches .file then
      return disk.supply place (.file (← bytesAt entry))
    else return disk.supply place .device
  else return disk

/-- Writes the files that are not as they were before. -/
def writeBack (before after : Disk) : IO Unit := do
  for (place, item) in after.items do
    if let .file bytes := item then
      if before.at? place ≠ some item then
        IO.FS.writeBinFile (pathText place) ⟨bytes.toArray⟩

end CodeReview.Main

open CodeReview CodeReview.Main in
def main (args : List String) : IO UInt32 := do
  let args := args.map String.toList
  let home := (Path.ofText (← IO.currentDir).toString.toList).names
  let mut disk := Disk.bare home
  for arg in args.flatMap candidates ++ [Command.settingsFile] do
    disk ← takePath disk arg
  let now := (← Std.Time.PlainDateTime.now).format "uuuu-MM-dd'T'HH:mm:ss.SSSSSS"
  match Command.run now.toList disk args with
  | .ok done =>
    writeBack disk done.disk
    IO.print (String.ofList done.out)
    IO.eprint (String.ofList done.err)
    return UInt32.ofNat done.code
  | .error f =>
    IO.eprintln (String.ofList f.message)
    return 1
