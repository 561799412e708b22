import CodeReview.Text.Basic

/-!
Paths: a root, which relative paths lack, and the names on the way. Single dots and repeated
slashes are left out when a path is read; double dots stay, since only a disk knows where they
lead.
-/

namespace CodeReview

structure Path where
  /-- Empty for a relative path, else one or two slashes. -/
  root : Text
  names : List Text
  deriving DecidableEq, Repr, Inhabited

namespace Path

/-- Exactly two slashes at the start are a root of their own. -/
def rootOf (t : Text) : Text :=
  match (t.takeWhile (· = '/')).length with
  | 0 => []
  | 2 => "//"
  | _ => "/"

def ofText (t : Text) : Path :=
  { root := rootOf t
    names := (Text.split t ['/']).filter fun n => !n.isEmpty && n ≠ ['.'] }

/-- The root, if there is one, and the names. -/
def parts (p : Path) : List Text :=
  if p.root.isEmpty then p.names else p.root :: p.names

def toText (p : Path) : Text :=
  if p.root.isEmpty && p.names.isEmpty then "."
  else p.root ++ Text.join ['/'] p.names

/-- The last name; a bare root has none. -/
def name (p : Path) : Text :=
  p.names.getLast?.getD []

/-- The end of a name from its last dot on, if there is something on both sides of the dot. -/
def suffixOf (name : Text) : Text :=
  let after := name.reverse.takeWhile (· ≠ '.')
  let before := name.length - after.length
  if after.isEmpty || before ≤ 1 then [] else '.' :: after.reverse

def suffix (p : Path) : Text :=
  suffixOf p.name

def parent (p : Path) : Path :=
  { p with names := p.names.dropLast }

def child (p : Path) (name : Text) : Path :=
  { p with names := p.names ++ [name] }

/-- The rest of a path below another one. -/
def relativeTo? (p base : Path) : Option Path :=
  if p.root = base.root && base.names.isPrefixOf p.names then
    some { root := [], names := p.names.drop base.names.length }
  else none

/-- Orders lists of texts by the first place in which they differ. -/
def ltNames : List Text → List Text → Bool
  | _, [] => false
  | [], _ :: _ => true
  | a :: as, b :: bs => if a = b then ltNames as bs else Text.lt a b

/-- Orders paths by their parts. -/
def le (p q : Path) : Bool :=
  !ltNames q.parts p.parts

end Path

end CodeReview
