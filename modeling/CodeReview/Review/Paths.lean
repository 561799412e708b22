import CodeReview.Files.Disk
import CodeReview.Review
import CodeReview.Review.Pool

/-!
Reviews of files and directories.
-/

namespace CodeReview

/-- How a directory is reviewed. -/
structure Traversal where
  /-- Whether the directories in it count too. -/
  deep : Bool := true
  /-- Whether several files may be looked at at a time. -/
  parallel : Bool := true
  workers : Int := 4
  deriving DecidableEq, Repr

/-- The way that some options ask for. -/
def Traversal.ofFields (options : Entries Value) : Except Failure Traversal := do
  let known : List Text := ["recursive", "parallel", "max_workers"]
  match options.find? fun o => !known.contains o.1 with
  | some o => throw (.unexpectedOption "Reviewer.review_directory" o.1)
  | none =>
    let flag (name : Text) : Bool := ((options.get? name).map Value.holds).getD true
    return {
      deep := flag "recursive"
      parallel := flag "parallel"
      workers := ((options.get? "max_workers").bind Value.int?).getD 4 }

namespace Reviewer

/-- Whether a path is one of a source that is not to be left out. -/
def looksAt (r : Reviewer) (p : Path) : Except Failure Bool := do
  let ending := Text.lower p.suffix
  if ending ≠ ".py" && ending ≠ ".pyi" then return false
  let s := r.settings
  if ← Settings.anyOf (fun v => Settings.partOf v p.toText) (← s.ignorePaths.members) then
    return false
  return !(← Settings.anyOf (Settings.pathFits p) (← s.ignoreFiles.members))

/-- Reviews a file; one that is left out has an empty result. `shown` is how an error calls it. -/
def reviewFile (r : Reviewer) (disk : Disk) (p : Path) (shown : Text) :
    Except Failure (Reviewed FileResult) := do
  if !disk.has p then throw (.fileNotFound shown)
  if ← r.looksAt p then return r.reviewSource (textOfBytes (← disk.read p)) p.toText
  else
    return { result := { file := p.toText, metrics := some {}, skipped := true }, messages := [] }

/-- What the review of one of many files comes to. A file that cannot be reviewed is left out; a
talkative review says so. -/
def settle (r : Reviewer) (p : Path) (outcome : Except Failure (Reviewed FileResult)) :
    Reviewed (Option FileResult) :=
  match outcome with
  | .ok x => { result := some x.result, messages := x.messages }
  | .error f =>
    { result := none
      messages :=
        if r.settings.verbose.holds then ["Error processing " ++ p.toText ++ ": " ++ f.message]
        else [] }

section

variable (r : Reviewer) (review : Path → Except Failure (Reviewed FileResult))

/-- Reviews one of many files. -/
def reviewOneOf (p : Path) : Reviewed (Option FileResult) :=
  r.settle p (review p)

/-- Reviews files one after the other. -/
def reviewInTurn (files : List Path) : List (Reviewed (Option FileResult)) :=
  files.map (r.reviewOneOf review)

/-- Reviews files with several workers. -/
def reviewSideBySide (workers : Nat) (files : List Path) : List (Reviewed (Option FileResult)) :=
  (Pool.drain (r.reviewOneOf review) (.new workers files)).collected

end

/-- The results of the files that could be reviewed. -/
def resultsOf (reviewed : List (Reviewed (Option FileResult))) : List FileResult :=
  reviewed.filterMap (·.result)

/-- The sources in a directory that are not left out, in order. -/
def collect (r : Reviewer) (disk : Disk) (p : Path) (deep : Bool) : Except Failure (List Path) := do
  let found ← (disk.withEnding p ".py" deep).filterM r.looksAt
  return found.mergeSort Path.le

/-- Reviews a directory. -/
def reviewDirectory (r : Reviewer) (now : Text) (disk : Disk) (p : Path) (shown : Text)
    (t : Traversal) : Except Failure (Reviewed ReviewResult) := do
  if !disk.has p then throw (.directoryNotFound shown)
  if !disk.isDirectory p then throw (.notADirectory shown)
  let files ← r.collect disk p t.deep
  if files.isEmpty then return { result := { timestamp := now }, messages := [] }
  let sideBySide := t.parallel && 1 < files.length
  if sideBySide && t.workers ≤ 0 then throw .noWorkers
  let review p := r.reviewFile disk p p.toText
  let reviewed :=
    if sideBySide then r.reviewSideBySide review t.workers.toNat files
    else r.reviewInTurn review files
  return {
    result := ← aggregate now (resultsOf reviewed)
    messages := reviewed.flatMap (·.messages) }

/-- Reviews whatever a path leads to. -/
def reviewPath (r : Reviewer) (now : Text) (disk : Disk) (path : Text) (t : Traversal) :
    Except Failure (Reviewed Outcome) := do
  let p := Path.ofText path
  if disk.isFile p then
    let x ← r.reviewFile disk p p.toText
    return { result := .file x.result, messages := x.messages }
  else if disk.isDirectory p then
    let x ← r.reviewDirectory now disk p p.toText t
    return { result := .review x.result, messages := x.messages }
  else throw (.invalidPath path)

end Reviewer

end CodeReview
