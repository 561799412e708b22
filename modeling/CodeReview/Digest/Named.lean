import CodeReview.Digest.Older
import CodeReview.Digest.Sha2
import CodeReview.Text.Case

/-!
Digests by their names.
-/

namespace CodeReview.Digest

/-- The digest of a name, in any case and with or without a hyphen. -/
def named? (name : Text) : Option (Bytes → Bytes) :=
  let plain := (Text.lower name).filter (· ≠ '-')
  if plain = "md5".toList then some md5
  else if plain = "sha1".toList then some sha1
  else if plain = "sha224".toList then some sha224Shape.digest
  else if plain = "sha256".toList then some sha256
  else if plain = "sha384".toList then some sha384Shape.digest
  else if plain = "sha512".toList then some sha512Shape.digest
  else none

end CodeReview.Digest
