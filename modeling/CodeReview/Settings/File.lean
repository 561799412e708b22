import CodeReview.Files.Disk
import CodeReview.Json.Reader
import CodeReview.Settings.Reader

/-!
Settings from files, in JSON or, where something reads it, in YAML.
-/

namespace CodeReview.Settings

/-- A text as a JSON document. -/
def readJson (t : Text) : Except Failure Value :=
  match Json.read t with
  | .ok v => .ok v
  | .error f => .error (.badJson (f.message t))

/-- The settings in a file. `yaml` reads YAML, if it can be read at all. -/
def ofFile (env : Environment) (disk : Disk) (yaml : Option (Text → Value)) (path : Text) :
    Except Failure Settings := do
  let p := Path.ofText path
  if !disk.has p then throw (.settingsNotFound path)
  let content ← match Encoding.decodeUtf8 (← disk.read p) with
    | .ok t => pure (plainLineEnds t)
    | .error u => throw (.undecodable u)
  if Text.endsWith path ".json" then ofValue env (← readJson content)
  else if Text.endsWith path ".yml" || Text.endsWith path ".yaml" then
    match yaml with
    | some read => ofValue env (read content)
    | none => throw .noYaml
  else throw (.unknownSettingsFormat path)

end CodeReview.Settings
