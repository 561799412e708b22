import CodeReview.Digest.Named
import CodeReview.Files.Disk
import CodeReview.Likeness.Normal
import CodeReview.Text.Word
import CodeReview.Value

/-!
What can be said about a file: its encoding, whether it is a text, its digest.
-/

namespace CodeReview.Disk

/-- The encoding that a mark at the start of the bytes tells. -/
def markedEncoding? (bs : Bytes) : Option Text :=
  if [0xEF, 0xBB, 0xBF].isPrefixOf bs then some "utf-8-sig"
  else if [0xFF, 0xFE, 0, 0].isPrefixOf bs then some "utf-32-le"
  else if [0, 0, 0xFE, 0xFF].isPrefixOf bs then some "utf-32-be"
  else if [0xFF, 0xFE].isPrefixOf bs then some "utf-16-le"
  else if [0xFE, 0xFF].isPrefixOf bs then some "utf-16-be"
  else none

/-- A character of the name of an encoding. -/
def isNameChar (c : Char) : Bool :=
  Text.isWord c || c = '-' || c = '.'

/-- The name after "coding" and a colon or an equals sign. -/
def declarationAt? (t : Text) : Option Text :=
  if !Text.startsWith t "coding" then none
  else match t.drop 6 with
    | c :: rest =>
      if c = ':' || c = '=' then
        let name := (rest.dropWhile Text.isBlank).takeWhile isNameChar
        if name.isEmpty then none else some name
      else none
    | [] => none

/-- The lines that may declare an encoding: the first two, without bytes outside of ASCII and
without what comes after the first 512 bytes. -/
def leadingLines (bs : Bytes) : List Text :=
  (Text.lines (((bs.take 512).filter (· < 128)).map fun b => Char.ofNat b.toNat)).take 2

/-- The encoding that one of the leading lines declares. -/
def declaredEncoding? (bs : Bytes) : Option Text :=
  (leadingLines bs).findSome? fun line => (Text.firstAt? declarationAt? line).map (·.2)

/-- The name of the encoding of a file. Only Python sources can declare one. -/
def encodingOf (d : Disk) (path : Text) : Text :=
  let bs := ((d.read (Path.ofText path)).toOption).getD []
  match markedEncoding? bs with
  | some e => e
  | none =>
    if Text.endsWith path ".py" then (declaredEncoding? bs).getD "utf-8" else "utf-8"

/-- Whether a file is no text: it has a NUL among its first bytes, or they are not in UTF-8. What
cannot be read is no text, and what is not there is. -/
def isBinary (d : Disk) (path : Text) : Bool :=
  let p := Path.ofText path
  if !d.has p then false
  else match d.read p with
    | .error _ => true
    | .ok bs =>
      let chunk := bs.take 8192
      chunk.any (· = 0) || !(Encoding.decodeUtf8 chunk).isOk

/-- The text of a file, in the given encoding or the one that it seems to have, where encodings are
known by their names. -/
def readTextBy (registry : Encoding.Registry) (d : Disk) (path : Text) (encoding : Option Text) :
    Except Failure Text := do
  let p := Path.ofText path
  if !d.has p then throw (.fileNotFound path)
  let bs ← d.read p
  let decode ← registry (encoding.getD (d.encodingOf path))
  (decode bs).settle bs

def readText (d : Disk) (path : Text) (encoding : Option Text) : Except Failure Text :=
  readTextBy Encoding.standard d path encoding

/-- The digest of the bytes of a file. -/
def digestOf (d : Disk) (path algorithm : Text) : Except Failure Text := do
  let p := Path.ofText path
  if !d.has p then throw (.fileNotFound path)
  match Digest.named? algorithm with
  | none => throw (.unknownDigest algorithm)
  | some digest => return Digest.hex (digest (← d.read p))

/-- The digest of the source in a file, up to comments and blank space where that is wanted. -/
def sourceDigestOf (d : Disk) (path : Text) (normal : Bool) : Except Failure Text := do
  match Encoding.decodeUtf8 (← d.readRaw path) with
  | .error u => throw (.undecodable u)
  | .ok t =>
    let source := plainLineEnds t
    return if normal then Likeness.sourceDigest source else Likeness.textDigest source

def byteCount (d : Disk) (path : Text) : Except Failure Nat := do
  let p := Path.ofText path
  match d.find p with
  | .ok (.file bs) => return bs.length
  | .ok _ => return 0
  | .error t => throw (.onDisk t p.toText)

/-- Facts about what a path leads to. -/
structure Info where
  name : Text
  extension : Text
  size : Nat
  isFile : Bool
  isDirectory : Bool
  isBinary : Option Bool
  encoding : Option Text

def info? (d : Disk) (path : Text) : Option Info :=
  let p := Path.ofText path
  if !d.has p then none
  else
    let file := d.isFile p
    let binary := d.isBinary path
    some
      { name := p.name
        extension := p.suffix
        size := ((d.byteCount path).toOption).getD 0
        isFile := file
        isDirectory := d.isDirectory p
        isBinary := if file then some binary else none
        encoding := if file && !binary then some (d.encodingOf path) else none }

/-- What is known about a path, as a value. A directory has no size. -/
def Info.toValue : Option Info → Value
  | none => .record [("exists", .bool false)]
  | some i =>
    let size : List (String × Value) := if i.isDirectory then [] else [("size", .ofNat i.size)]
    .record
      ([("exists", .bool true), ("name", .text i.name), ("extension", .text i.extension),
        ("is_file", .bool i.isFile), ("is_dir", .bool i.isDirectory),
        ("is_binary", .ofOption .bool i.isBinary), ("encoding", .ofOption .text i.encoding)]
        ++ size)

/-- Parts of paths that searches for sources pass over. -/
def standardExclusions : List Text :=
  ["__pycache__", ".git", "node_modules", ".venv", "venv", ".tox", "dist", "build", "*.egg-info"]

/-- The Python sources in a directory whose paths have none of some parts. -/
def sources (d : Disk) (directory : Text) (deep : Bool) (exclusions : List Text) : List Path :=
  (d.withEnding (Path.ofText directory) ".py" deep).filter fun p =>
    !exclusions.any fun e => Text.contains p.toText e

/-- The path from a directory to a file in it; a path to elsewhere stays as it is. -/
def relativePath (path base : Text) : Text :=
  match (Path.ofText path).relativeTo? (Path.ofText base) with
  | some p => p.toText
  | none => path

end CodeReview.Disk
