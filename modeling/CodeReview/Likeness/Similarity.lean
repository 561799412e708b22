import CodeReview.Digest.Older
import CodeReview.Likeness.Normal
import CodeReview.Text.Case
import CodeReview.Text.Word

/-!
How much two sources have in common.
-/

namespace CodeReview.Likeness

/-- The words of a source in lower case. -/
def tokens (source : Text) : List Text :=
  Text.wordRuns (Text.lower source)

/-- The part of the different words of two sources that both have. -/
def similarity (a b : Text) : Float :=
  let left := (tokens a).eraseDups
  let right := (tokens b).eraseDups
  if left.isEmpty || right.isEmpty then 0.0
  else
    let common := left.countP right.contains
    Float.ofNat common / Float.ofNat (left.length + right.length - common)

/-- A source in its normal form without any blank character. -/
def compact (source : Text) : Text :=
  (Text.words (normalForm source)).flatten

/-- The places at which chunks start; each chunk but the first shares a half with the one
before. -/
def chunkStarts (length : Nat) (size : Int) : List Nat :=
  let step := (Int.fdiv size 2).toNat
  let count := ((length : Int) - size + 1).toNat
  if step = 0 then [] else (List.range ((count + step - 1) / step)).map (· * step)

/-- Short digests of the chunks of a source. -/
def fingerprints (source : Text) (size : Int) : Except Failure (List Text) :=
  let c := compact source
  if Int.fdiv size 2 = 0 then .error .zeroStep
  else .ok ((chunkStarts c.length size).map fun i =>
    (Digest.hex (Digest.md5 (Text.utf8 ((c.drop i).take size.toNat)))).take 8)

end CodeReview.Likeness
