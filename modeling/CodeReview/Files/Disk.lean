import CodeReview.Failure
import CodeReview.Files.Encoding
import CodeReview.Files.Path

/-!
Files and directories.

A disk maps places to what is there. A place is the list of names from the root on; it has no dots.
A path leads to a place step by step, and each step needs a directory.
-/

namespace CodeReview

inductive Item where
  | file (bytes : Bytes)
  | directory
  /-- Neither a file nor a directory; it reads as empty and forgets what is written. -/
  | device
  deriving DecidableEq, Repr, Inhabited

abbrev Place := List Text

structure Disk where
  items : List (Place × Item)
  /-- Where relative paths start. -/
  home : Place
  deriving Inhabited

namespace Disk

/-- A disk with little on it. -/
def bare (home : Place) : Disk :=
  let way := (List.range home.length).map fun n => home.take (n + 1)
  let directories : List Place := ["dev"] :: ["tmp"] :: way
  { items := ([], .directory) :: (["dev", "null"], .device)
      :: directories.eraseDups.map fun p => (p, .directory)
    home := home }

def at? (d : Disk) (p : Place) : Option Item :=
  d.items.lookup p

/-- Puts an item at a place, in the place of any other. -/
def put (d : Disk) (p : Place) (i : Item) : Disk :=
  if (d.at? p).isSome then
    { d with items := d.items.map fun e => if e.1 = p then (p, i) else e }
  else { d with items := d.items ++ [(p, i)] }

/-- Puts an item at a place and directories on the way to it. -/
def supply (d : Disk) (p : Place) (i : Item) : Disk :=
  let missing := ((List.range p.length).map fun n => p.take n).filter fun q => (d.at? q).isNone
  (missing.foldl (fun d q => d.put q .directory) d).put p i

/-- One step on a way. -/
def step (d : Disk) (here : Place) (name : Text) : Except Trouble Place :=
  match d.at? here with
  | none => .error .missing
  | some .directory => .ok (if name = ['.', '.'] then here.dropLast else here ++ [name])
  | some _ => .error .notDirectory

/-- The place that a path leads to. There need not be anything. -/
def place (d : Disk) (p : Path) : Except Trouble Place :=
  p.names.foldlM d.step (if p.root.isEmpty then d.home else [])

/-- What a path leads to. -/
def find (d : Disk) (p : Path) : Except Trouble Item := do
  match d.at? (← d.place p) with
  | some i => .ok i
  | none => .error .missing

def has (d : Disk) (p : Path) : Bool :=
  (d.find p).isOk

def isFile (d : Disk) (p : Path) : Bool :=
  match d.find p with
  | .ok (.file _) => true
  | _ => false

def isDirectory (d : Disk) (p : Path) : Bool :=
  match d.find p with
  | .ok .directory => true
  | _ => false

/-- The bytes of a file. `shown` is how an error calls the path. -/
def readAs (d : Disk) (p : Path) (shown : Text) : Except Failure Bytes :=
  match d.find p with
  | .ok (.file bytes) => .ok bytes
  | .ok .device => .ok []
  | .ok .directory => .error (.onDisk .isDirectory shown)
  | .error t => .error (.onDisk t shown)

def read (d : Disk) (p : Path) : Except Failure Bytes :=
  d.readAs p p.toText

/-- The bytes of a file whose path is used as it is written: an empty one leads nowhere, and after
a slash there has to be a directory. -/
def readRaw (d : Disk) (path : Text) : Except Failure Bytes := do
  if path.isEmpty then throw (.onDisk .missing path)
  let p := Path.ofText path
  if path.getLast? = some '/' && d.has p && !d.isDirectory p then
    throw (.onDisk .notDirectory path)
  d.readAs p path

/-- Writes a file; the directory has to be there. -/
def writeAs (d : Disk) (p : Path) (shown : Text) (bytes : Bytes) : Except Failure Disk := do
  let there ← match d.place p with
    | .ok q => pure q
    | .error t => throw (.onDisk t shown)
  match d.at? there with
  | some .directory => throw (.onDisk .isDirectory shown)
  | some .device => return d
  | some (.file _) => return d.put there (.file bytes)
  | none =>
    match d.at? there.dropLast with
    | some .directory => return d.put there (.file bytes)
    | some _ => throw (.onDisk .notDirectory shown)
    | none => throw (.onDisk .missing shown)

/-- Writes a file whose path is used as it is written. -/
def writeRaw (d : Disk) (path : Text) (bytes : Bytes) : Except Failure Disk := do
  if path.isEmpty then throw (.onDisk .missing path)
  let p := Path.ofText path
  if path.getLast? = some '/' then
    throw (.onDisk (if d.isFile p then .notDirectory else .isDirectory) path)
  d.writeAs p path bytes

/-- Makes one directory. -/
def makeOne (d : Disk) (p : Path) : Except Trouble Disk := do
  let there ← d.place p
  if (d.at? there).isSome then throw .exists
  match d.at? there.dropLast with
  | some .directory => return d.put there .directory
  | some _ => throw .notDirectory
  | none => throw .missing

/-- Makes a directory and those on the way to it. It may be there already. -/
def makeAllAux : Nat → Disk → Path → Except Failure Disk
  | 0, d, _ => .ok d
  | fuel + 1, d, p =>
    match d.makeOne p with
    | .ok d => .ok d
    | .error .missing =>
      if p.names.isEmpty then .error (.onDisk .missing p.toText)
      else do
        let d ← makeAllAux fuel d p.parent
        match d.makeOne p with
        | .ok d => return d
        | .error t => if d.isDirectory p then return d else throw (.onDisk t p.toText)
    | .error t => if d.isDirectory p then .ok d else .error (.onDisk t p.toText)

def makeAll (d : Disk) (p : Path) : Except Failure Disk :=
  makeAllAux (p.names.length + 1) d p

/-- The names in a directory. -/
def namesIn (d : Disk) (p : Place) : List Text :=
  d.items.filterMap fun e =>
    if !e.1.isEmpty && e.1.dropLast = p then e.1.getLast? else none

/-- The paths right below a directory, and below the directories in it if all levels count. The
first argument bounds the number of levels. -/
def below (d : Disk) (deep : Bool) : Nat → Path → List Path
  | 0, _ => []
  | fuel + 1, p =>
    match d.place p with
    | .error _ => []
    | .ok there =>
      (d.namesIn there).flatMap fun n =>
        let c := p.child n
        if deep && d.isDirectory c then c :: below d deep fuel c else [c]

/-- All paths below a directory whose names have an ending. -/
def withEnding (d : Disk) (p : Path) (ending : Text) (deep : Bool) : List Path :=
  if d.isDirectory p then
    (d.below deep (d.items.length + 1) p).filter fun c => Text.endsWith c.name ending
  else []

/-- All files below a place, by their names from there on. -/
def filesBelow (d : Disk) (p : Place) : List (List Text × Bytes) :=
  d.items.filterMap fun e =>
    match e.2 with
    | .file bytes => if p.isPrefixOf e.1 then some (e.1.drop p.length, bytes) else none
    | _ => none

end Disk

end CodeReview
