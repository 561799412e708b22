import CodeReview.Text.CaseTable

/-!
Lower, upper and title case of whole texts.

A character may become several (the sharp s in upper case is two letters), and the Greek sigma has
a form of its own at the end of a word, so these are maps on texts and not on characters.
-/

namespace CodeReview.Text

def isLowerCase (c : Char) : Bool :=
  if c.toNat < 128 then c.isLower else lowerCaseTable.has c

def isUpperCase (c : Char) : Bool :=
  if c.toNat < 128 then c.isUpper else upperCaseTable.has c

def isTitleCase (c : Char) : Bool :=
  127 < c.toNat && titleCaseTable.has c

def isCased (c : Char) : Bool :=
  isLowerCase c || isUpperCase c || isTitleCase c

def isCaseIgnorable (c : Char) : Bool :=
  caseIgnorableTable.has c

/-- Where the rows of a case mapping send a code point. -/
def moveByRows (rows : Moves) (n : Nat) : Nat :=
  match rows.find? fun r => r.1 ≤ n && n ≤ r.2.1 && (n - r.1) % r.2.2.1 == 0 with
  | some r => ((n : Int) + r.2.2.2).toNat
  | none => n

/-- The one character that stands for `c` in lower case. -/
def toLowerChar (c : Char) : Char :=
  if c.toNat < 128 then c.toLower else Char.ofNat (moveByRows toLowerRows c.toNat)

/-- The one character that stands for `c` in upper case, where that is one character. -/
def toUpperChar (c : Char) : Char :=
  if c.toNat < 128 then c.toUpper else Char.ofNat (moveByRows toUpperRows c.toNat)

/-- Whether a sigma with `before` (backwards) on its left and `after` on its right ends a word. -/
def endsWord (before after : Text) : Bool :=
  (match before.dropWhile isCaseIgnorable with
    | [] => false
    | c :: _ => isCased c) &&
  (match after.dropWhile isCaseIgnorable with
    | [] => true
    | c :: _ => !isCased c)

/-- The lower case of one character between its neighbours. -/
def lowerOf (before : Text) (c : Char) (after : Text) : Text :=
  if c.toNat = 0x3A3 then [Char.ofNat (if endsWord before after then 0x3C2 else 0x3C3)]
  else if c.toNat = 0x130 then ['i', Char.ofNat 0x307]
  else [toLowerChar c]

def lowerAux : Text → Text → Text
  | _, [] => []
  | before, c :: cs => lowerOf before c cs ++ lowerAux (c :: before) cs

def lower (t : Text) : Text :=
  if t.all (·.toNat < 128) then t.map Char.toLower else lowerAux [] t

def upperOf (c : Char) : Text :=
  if c.toNat < 128 then [c.toUpper]
  else match toUpperLong.becomes? c.toNat with
    | some ns => ns.map Char.ofNat
    | none => [toUpperChar c]

def upper (t : Text) : Text :=
  t.flatMap upperOf

def titleOf (c : Char) : Text :=
  if c.toNat < 128 then [c.toUpper]
  else match toTitleRows.becomes? c.toNat with
    | some ns => ns.map Char.ofNat
    | none => upperOf c

def titleAux : Bool → Text → Text → Text
  | _, _, [] => []
  | inWord, before, c :: cs =>
    (if inWord then lowerOf before c cs else titleOf c) ++ titleAux (isCased c) (c :: before) cs

/-- The first letter of each run of letters in title case, the others in lower case. -/
def title (t : Text) : Text :=
  titleAux false [] t

/-- There is a letter in upper case and none in lower or title case. -/
def isAllUpper (t : Text) : Bool :=
  t.any isUpperCase && !t.any fun c => isLowerCase c || isTitleCase c

end CodeReview.Text
