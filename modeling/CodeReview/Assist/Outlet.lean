import CodeReview.Service.Line
import CodeReview.Value

/-!
The way to a vendor of language models. A package of the vendor has to be there to make a client,
which is made when it is needed first and then kept.
-/

namespace CodeReview.Assist

structure Outlet (Answer : Type) where
  /-- The packages that are there. -/
  packages : List Text := []
  line : Line Value Answer
  connected : Bool := false
  /-- The clients that were made, each with what it was made of. -/
  clients : List Value := []

abbrev Dialogue (Answer : Type) := Course (Outlet Answer)

namespace Outlet

variable {Answer : Type}

/-- Makes a client, unless there is one. -/
def connect (package client : Text) (parts : Entries Value) : Dialogue Answer Unit := fun o =>
  if o.connected then (.ok (), o)
  else if o.packages.contains package then
    (.ok (),
      { o with
        connected := true
        clients := o.clients ++ [.list [.text client, .object parts]] })
  else (.error (.noPackage package), o)

/-- Asks the vendor. -/
def ask (question : Value) : Dialogue Answer Answer := fun o =>
  let (answer, line) := o.line.send question
  (answer, { o with line := line })

end Outlet

end CodeReview.Assist
