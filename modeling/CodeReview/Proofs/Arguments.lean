import CodeReview.Command.Run
import CodeReview.Proofs.Steps

/-!
# Reading a command line

A command takes all arguments after its name. A path that does not start with a hyphen is an
operand, and an option after it that is written in full does what it says, with the next argument as
its value if it takes one.
-/

namespace CodeReview

theorem Severity.toText_head (s : Severity) : s.toText.head? ≠ some '-' := by
  cases s <;> decide

theorem Severity.toText_mem (s : Severity) : s.toText ∈ Command.severities := by
  cases s <;> decide

namespace Command

variable {marks : List Argument} {args : List Text}

namespace Grammar

variable {g : Grammar}

theorem marks_operand {arg : Text} (h : arg.head? ≠ some '-') {rest : List Text}
    (hrest : g.marks rest = .ok marks) :
    g.marks (arg :: rest) = .ok ({ text := arg, mark := .operand } :: marks) := by
  have hseparator : arg ≠ "--".toList := by
    rintro rfl
    exact h rfl
  have hmark : g.markOf arg = .ok .operand := by
    rw [markOf, if_pos h]
  rw [Grammar.marks, if_neg hseparator, hmark, hrest]
  rfl

theorem texts_marks (h : g.marks args = .ok marks) :
    marks.map (·.text) = args := by
  induction args generalizing marks with
  | nil =>
    obtain rfl := Except.ok.inj h
    rfl
  | cons arg rest ih =>
    rw [Grammar.marks] at h
    split at h
    · obtain rfl := Except.ok.inj h
      rw [List.map_cons, List.map_map]
      exact congrArg (arg :: ·) (List.map_id rest)
    · obtain ⟨mark, _, h⟩ := Steps.bind_ok h
      obtain ⟨others, hothers, h⟩ := Steps.bind_ok h
      obtain rfl := Except.ok.inj h
      rw [List.map_cons, ih hothers]

theorem marks_option {name : Text} {o : OptionSpec} (h : g.option? name = some o)
    (hhyphen : name.head? = some '-') (hseparator : name ≠ "--".toList) {rest : List Text}
    (hrest : g.marks rest = .ok marks) :
    g.marks (name :: rest) = .ok (⟨name, .option (some ⟨o, name, none⟩)⟩ :: marks) := by
  have hmark : g.markOf name = .ok (.option (some ⟨o, name, none⟩)) := by
    rw [markOf, if_neg (not_not.mpr hhyphen), h]
  rw [Grammar.marks, if_neg hseparator, hmark, hrest]
  rfl

/-! ### Steps of reading -/

theorem readAux_operand {text : Text} {rest left : List Argument} {p q : Parsed}
    (h : g.takeOperand p (⟨text, .operand⟩ :: rest) = .ok (some (q, left))) (fuel : Nat) :
    g.readAux (fuel + 1) p (⟨text, .operand⟩ :: rest)
      = if rest.any Argument.isOption || !left.isEmpty then g.readAux fuel q left else .ok q := by
  change (g.takeOperand p (⟨text, .operand⟩ :: rest) >>= _) = _
  rw [h]
  rfl

theorem readAux_option {name : Text} {r : Option Reading} {rest left : List Argument}
    {p q : Parsed} (h : g.takeOption p name r rest = .ok (q, left)) (fuel : Nat) :
    g.readAux (fuel + 1) p (⟨name, .option r⟩ :: rest) = g.readAux fuel q left := by
  change (g.takeOption p name r rest >>= _) = _
  rw [h]
  rfl

/-- Where nothing is left, what has been read is all. -/
theorem readAux_nil {p : Parsed} (h : p.operands.isSome = true) (fuel : Nat) :
    g.readAux fuel p [] = .ok p := by
  cases fuel with
  | zero => rfl
  | succ fuel =>
    have hnone : g.takeOperand p [] = .ok none := by
      rw [takeOperand, if_pos h]
      rfl
    change (g.takeOperand p [] >>= _) = _
    rw [hnone]
    change Except.ok { p with unknown := p.unknown ++ [] } = _
    rw [List.append_nil]

theorem takeOption_one {p q : Parsed} (hp : p.unknown = []) {name value : Text} {r : Reading}
    {rest : List Argument}
    (hcluster : g.cluster rest (name.length + 1) r [] = .ok ([(r.spec, value)], [], []))
    (htake : g.take p r.spec value = .ok q) : g.takeOption p name (some r) rest = .ok (q, []) := by
  obtain ⟨values, operands, unknown⟩ := p
  obtain rfl : unknown = [] := hp
  rw [takeOption, hcluster]
  change ((g.take ⟨values, operands, []⟩ r.spec value >>= pure) >>= _) = _
  rw [htake]
  rfl

/-- A path, one option after it, and nothing else. -/
theorem read_path {operand path name : Text} {r : Option Reading}
    {rest : List Argument} {q : Parsed} (hone : g.operand = .one operand)
    (hpath : path.head? ≠ some '-') (hargs : g.marks args = .ok (⟨name, .option r⟩ :: rest))
    (htake : g.takeOption { operands := some [path] } name r rest = .ok (q, []))
    (hq : q.operands = some [path]) : g.read (path :: args) = .ok q := by
  have hoperand : g.takeOperand {} (⟨path, .operand⟩ :: ⟨name, .option r⟩ :: rest)
      = .ok (some ({ operands := some [path] }, ⟨name, .option r⟩ :: rest)) := by
    simp only [takeOperand, hone]
    rfl
  rw [Grammar.read, marks_operand hpath hargs]
  change (g.readAux _ {} _ >>= _) = _
  -- The path is read first, since it stands before the option; an option is still to come.
  rw [readAux_operand hoperand, List.any_cons]
  change (g.readAux _ _ _ >>= _) = _
  rw [List.length_cons, Nat.mul_succ, readAux_option htake, readAux_nil (by rw [hq]; rfl)]
  simp only [bind, Except.bind, hone, hq]
  rfl

section

variable {operand path name : Text} {o : OptionSpec} (hone : g.operand = .one operand)
  (hpath : path.head? ≠ some '-') (hoption : g.option? name = some o)
  (hhyphen : name.head? = some '-') (hseparator : name ≠ "--".toList)
include hone hpath hoption hhyphen hseparator

theorem read_switch (heffect : o.effect = .switch) :
    g.read [path, name] = .ok { values := [(o.key, [])], operands := some [path] } := by
  have hcluster : g.cluster [] (name.length + 1) ⟨o, name, none⟩ [] = .ok ([(o, [])], [], []) := by
    simp only [cluster, OptionSpec.takesValue, heffect]
    rfl
  have htake : g.take { operands := some [path] } o []
      = .ok { values := [(o.key, [])], operands := some [path] } := by
    simp only [take, heffect]
    rfl
  exact read_path hone hpath (marks_option hoption hhyphen hseparator rfl)
    (takeOption_one rfl hcluster htake) rfl

theorem read_value {value : Text} {choices : List Text} (heffect : o.effect = .value (some choices))
    (hvalue : value.head? ≠ some '-') (hchoice : value ∈ choices) :
    g.read [path, name, value]
      = .ok { values := [(o.key, value)], operands := some [path] } := by
  have hmark : g.marks [value] = .ok [⟨value, .operand⟩] := marks_operand hvalue rfl
  have hcluster : g.cluster [⟨value, .operand⟩] (name.length + 1) ⟨o, name, none⟩ []
      = .ok ([(o, value)], [], []) := by
    simp only [cluster, OptionSpec.takesValue, heffect]
    rfl
  have htake : g.take { operands := some [path] } o value
      = .ok { values := [(o.key, value)], operands := some [path] } := by
    simp only [take, heffect, checkChoice, List.contains_eq_mem, hchoice, decide_true]
    rfl
  exact read_path hone hpath (marks_option hoption hhyphen hseparator hmark)
    (takeOption_one rfl hcluster htake) rfl

end

end Grammar

/-- All arguments after the name of a command are left to the command. -/
theorem read_command {name : Text} (hname : name ∈ commands) (h : general.marks args = .ok marks) :
    general.read (name :: args) = .ok { operands := some (name :: args) } := by
  have hoperand : name.head? ≠ some '-' := by
    revert name
    decide
  have hchoice : general.checkChoice "command" name commands = .ok () := by
    rw [Grammar.checkChoice, if_pos (by simpa using hname)]
  have htake : general.takeOperand {} ({ text := name, mark := .operand } :: marks)
      = .ok (some ({ operands := some (name :: args) }, [])) := by
    rw [← Grammar.texts_marks h]
    change (general.checkChoice "command" name commands >>= _) = _
    rw [hchoice]
    rfl
  rw [Grammar.read, Grammar.marks_operand hoperand h]
  change (general.readAux _ {} _ >>= _) = _
  -- The command has taken everything, so it makes no difference whether reading goes on.
  rw [Grammar.readAux_operand htake, Grammar.readAux_nil rfl, ite_self]
  rfl

theorem read_of_command {name : Text} (hname : name ∈ commands) (h : general.marks args = .ok marks)
    {request : Request}
    (hrequest : Request.ofCommand name args = .ok (request, [])) :
    Request.read (name :: args) = .ok request := by
  rw [Request.read, read_command hname h]
  change (Request.ofCommand name args >>= _) = _
  rw [hrequest]
  rfl

theorem ofCommand_check {p : Parsed} (h : check.read args = .ok p) :
    Request.ofCommand "check" args
      = .ok (.check ((p.operands.getD []).headD []) ((p.values.get? "fail-on").getD "high"),
          p.unknown) := by
  change (check.read args >>= _) = _
  rw [h]
  rfl

theorem ofCommand_review {p : Parsed} (h : review.read args = .ok p) :
    Request.ofCommand "review" args
      = .ok (.review ((p.operands.getD []).headD []) p.values, p.unknown) := by
  change (review.read args >>= _) = _
  rw [h]
  rfl

theorem read_check {path : Text} (h : path.head? ≠ some '-') (s : Severity) :
    Request.read ["check", path, "--fail-on", s.toText] = .ok (.check path s.toText) := by
  -- Before the command is known its options are not known either, and are left as they are.
  have hgeneral : general.marks ["--fail-on", s.toText]
      = .ok [⟨"--fail-on", .option none⟩, ⟨s.toText, .operand⟩] := by
    cases s <;> rfl
  have hoption : check.option? "--fail-on"
      = some ⟨"fail-on", ["--fail-on"], .value (some severities)⟩ := rfl
  have hread := Grammar.read_value rfl h hoption rfl (by decide) rfl s.toText_head s.toText_mem
  exact read_of_command (by decide) (Grammar.marks_operand h hgeneral) (ofCommand_check hread)

theorem read_review_minSeverity {path : Text} (h : path.head? ≠ some '-') (s : Severity) :
    Request.read ["review", path, "--min-severity", s.toText]
      = .ok (.review path [("min-severity", s.toText)]) := by
  have hgeneral : general.marks ["--min-severity", s.toText]
      = .ok [⟨"--min-severity", .option none⟩, ⟨s.toText, .operand⟩] := by
    cases s <;> rfl
  have hoption : review.option? "--min-severity"
      = some ⟨"min-severity", ["--min-severity"], .value (some severities)⟩ := rfl
  have hread := Grammar.read_value rfl h hoption rfl (by decide) rfl s.toText_head s.toText_mem
  exact read_of_command (by decide) (Grammar.marks_operand h hgeneral) (ofCommand_review hread)

end Command

end CodeReview
