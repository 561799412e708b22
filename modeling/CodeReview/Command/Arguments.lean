import CodeReview.Entries
import CodeReview.Text.Quoted
import CodeReview.Text.Word

/-!
Arguments of a command line: options, which start with a hyphen, and operands.

An option may be shortened as long as it is clear which one is meant. Its value stands in the next
argument, after an equals sign or, for an option of one letter, right behind the letter. Letters of
options without a value can stand together behind one hyphen. After two hyphens there are operands
only.
-/

namespace CodeReview.Command

inductive Effect where
  | switch
  /-- Takes a value, perhaps one of a few. -/
  | value (choices : Option (List Text))
  | help
  | version
  deriving DecidableEq, Repr

structure OptionSpec where
  /-- The name by which the rest of the program knows it. -/
  key : Text
  names : List Text
  effect : Effect
  deriving DecidableEq, Repr

namespace OptionSpec

def title (o : OptionSpec) : Text :=
  Text.join "/" o.names

def takesValue (o : OptionSpec) : Bool :=
  match o.effect with
  | .value _ => true
  | _ => false

end OptionSpec

/-- What stands beside the options. -/
inductive Operand where
  | none
  | one (name : Text)
  /-- The name of a command and all that comes after it. -/
  | command (choices : List Text)
  deriving DecidableEq, Repr

structure Grammar where
  program : Text
  usage : List Text
  /-- What the help says after the usage. -/
  details : List Text
  version : Text
  options : List OptionSpec
  operand : Operand

/-- An end before any work is done. -/
structure Stop where
  code : Nat
  out : Text := []
  err : Text := []
  deriving DecidableEq, Repr

/-- An argument read as an option. -/
structure Reading where
  spec : OptionSpec
  name : Text
  /-- The value that is part of the argument, and whether an equals sign stands before it. -/
  value : Option (Bool × Text)

inductive Mark where
  | operand
  /-- Two hyphens. -/
  | separator
  /-- An option; none if there is no such option. -/
  | option (r : Option Reading)

structure Argument where
  text : Text
  mark : Mark

def Argument.isOption (a : Argument) : Bool :=
  match a.mark with
  | .option _ => true
  | _ => false

/-- What the arguments say. -/
structure Parsed where
  values : Entries Text := []
  /-- The operand, or a command with its arguments. -/
  operands : Option (List Text) := none
  unknown : List Text := []

namespace Grammar

def help (g : Grammar) : Text :=
  Text.unlines (g.usage ++ [[]] ++ g.details)

def stopAt {α : Type} (g : Grammar) (message : Text) : Except Stop α :=
  .error
    { code := 2
      err := Text.unlines (g.usage ++ [g.program ++ ": error: " ++ message, []]) }

def refuse {α : Type} (g : Grammar) (what message : Text) : Except Stop α :=
  g.stopAt ("argument " ++ what ++ ": " ++ message)

/-- All names of options with the options. -/
def named (g : Grammar) : List (Text × OptionSpec) :=
  g.options.flatMap fun o => o.names.map fun n => (n, o)

def option? (g : Grammar) (name : Text) : Option OptionSpec :=
  g.named.lookup name

/-- A text before and after its first equals sign. -/
def atEquals (t : Text) : Text × Option Text :=
  match t.findIdx? (· = '=') with
  | some i => (t.take i, some (t.drop (i + 1)))
  | none => (t, none)

/-- The options that an argument may be short for. -/
def readings (g : Grammar) (arg : Text) : List Reading :=
  if Text.startsWith arg "--" then
    let (start, value) := atEquals arg
    g.named.filterMap fun (name, o) =>
      if Text.startsWith name start then
        some { spec := o, name := name, value := value.map fun v => (true, v) }
      else none
  else
    g.named.filterMap fun (name, o) =>
      if name = arg.take 2 then some { spec := o, name := name, value := some (false, arg.drop 2) }
      else if Text.startsWith name arg then some { spec := o, name := name, value := none }
      else none

/-- A hyphen and a number. -/
def isNegative (arg : Text) : Bool :=
  let body := arg.drop 1
  let whole := body.takeWhile Text.isDigit
  match body.drop whole.length with
  | [] => !whole.isEmpty
  | c :: rest => c = '.' && !rest.isEmpty && rest.all Text.isDigit

def markOf (g : Grammar) (arg : Text) : Except Stop Mark :=
  if arg.head? ≠ some '-' then .ok .operand
  else match g.option? arg with
    | some o => .ok (.option (some { spec := o, name := arg, value := none }))
    | none =>
      if arg.length = 1 then .ok .operand
      else
        let (start, value) := atEquals arg
        match value, g.option? start with
        | some v, some o =>
          .ok (.option (some { spec := o, name := start, value := some (true, v) }))
        | _, _ =>
          match g.readings arg with
          | [r] => .ok (.option (some r))
          | [] =>
            if isNegative arg || arg.any (· = ' ') then .ok .operand else .ok (.option none)
          | rs => g.stopAt ("ambiguous option: " ++ arg ++ " could match "
              ++ Text.join ", " (rs.map (·.name)))

def marks (g : Grammar) : List Text → Except Stop (List Argument)
  | [] => .ok []
  | arg :: rest =>
    if arg = "--" then
      .ok ({ text := arg, mark := .separator } :: rest.map fun t => { text := t, mark := .operand })
    else do
      let mark ← g.markOf arg
      return { text := arg, mark := mark } :: (← g.marks rest)

/-- Refuses a value that is none of the choices. -/
def checkChoice (g : Grammar) (what value : Text) (choices : List Text) : Except Stop Unit :=
  if choices.contains value then .ok ()
  else g.refuse what ("invalid choice: " ++ Text.quoted value ++ " (choose from "
    ++ Text.join ", " (choices.map Text.quoted) ++ ")")

/-- Does what an option says. -/
def take (g : Grammar) (p : Parsed) (o : OptionSpec) (value : Text) : Except Stop Parsed := do
  match o.effect with
  | .help => throw { code := 0, out := g.help ++ ['\n'] }
  | .version => throw { code := 0, out := g.version ++ ['\n'] }
  | .switch => return { p with values := p.values.put o.key [] }
  | .value choices =>
    match choices with
    | some cs => g.checkChoice o.title value cs
    | none => pure ()
    return { p with values := p.values.put o.key value }

/-- An option with its value, and the options without values that stand before it behind the same
hyphen. `before` holds these. The last part of the result is what cannot be read. -/
def cluster (g : Grammar) (rest : List Argument) :
    Nat → Reading → List (OptionSpec × Text) →
      Except Stop (List (OptionSpec × Text) × List Argument × List Text)
  | 0, _, before => .ok (before, rest, [])
  | fuel + 1, r, before =>
    match r.value with
    | none =>
      if r.spec.takesValue then
        match rest with
        | { text, mark := .operand } :: others => .ok (before ++ [(r.spec, text)], others, [])
        | _ => g.refuse r.spec.title "expected one argument"
      else .ok (before ++ [(r.spec, [])], rest, [])
    | some (equals, v) =>
      if r.spec.takesValue then .ok (before ++ [(r.spec, v)], rest, [])
      else match v with
        | c :: more =>
          if Text.startsWith r.name "--" || equals || c = '-' then
            g.refuse r.spec.title ("ignored explicit argument " ++ Text.quoted v)
          else
            let before := before ++ [(r.spec, [])]
            match g.option? ['-', c] with
            | none => .ok (before, rest, ['-' :: v])
            | some o =>
              let value := match more with
                | [] => none
                | '=' :: w => some (true, w)
                | w => some (false, w)
              g.cluster rest fuel { spec := o, name := ['-', c], value := value } before
        | [] => g.refuse r.spec.title ("ignored explicit argument " ++ Text.quoted v)

/-- The first of some arguments, which is an option, and its value. -/
def takeOption (g : Grammar) (p : Parsed) (arg : Text) (r : Option Reading) (rest : List Argument) :
    Except Stop (Parsed × List Argument) :=
  match r with
  | none => .ok ({ p with unknown := p.unknown ++ [arg] }, rest)
  | some r => do
    let (found, rest, unknown) ← g.cluster rest (arg.length + 1) r []
    let p := { p with unknown := p.unknown ++ unknown }
    let p ← found.foldlM (fun p f => g.take p f.1 f.2) p
    return (p, rest)

/-- The operand at the start of some arguments, if there is one and it is not known yet. -/
def takeOperand (g : Grammar) (p : Parsed) (args : List Argument) :
    Except Stop (Option (Parsed × List Argument)) := do
  if p.operands.isSome then return none
  let isSeparator (a : Argument) : Bool := match a.mark with
    | .separator => true
    | _ => false
  let lead := args.takeWhile isSeparator
  match args.drop lead.length with
  | { text, mark := .operand } :: rest =>
    match g.operand with
    | .none => return none
    | .one _ =>
      return some ({ p with operands := some [text] }, rest.dropWhile isSeparator)
    | .command choices =>
      let given := (lead.map (·.text)) ++ text :: rest.map (·.text)
      g.checkChoice "command" (given.headD []) choices
      return some ({ p with operands := some given }, [])
  | _ => return none

/-- Reads arguments: operands and options in turn, up to the last option, and operands after it. -/
def readAux (g : Grammar) : Nat → Parsed → List Argument → Except Stop Parsed
  | 0, p, _ => .ok p
  | fuel + 1, p, args =>
    match args with
    | { text, mark := .option r } :: rest => do
      let (p, rest) ← g.takeOption p text r rest
      g.readAux fuel p rest
    | args => do
      match ← g.takeOperand p args with
      | some (p, rest) =>
        if args.any Argument.isOption || !rest.isEmpty then g.readAux fuel p rest else return p
      | none =>
        let (skipped, rest) := args.span fun a => !a.isOption
        let p := { p with unknown := p.unknown ++ skipped.map (·.text) }
        if rest.isEmpty then return p else g.readAux fuel p rest

/-- Reads arguments; an operand that is needed has to be there. -/
def read (g : Grammar) (args : List Text) : Except Stop Parsed := do
  let args ← g.marks args
  let p ← g.readAux (2 * args.length + 2) {} args
  match g.operand, p.operands with
  | .one name, none => g.stopAt ("the following arguments are required: " ++ name)
  | _, _ => return p

end Grammar

end CodeReview.Command
