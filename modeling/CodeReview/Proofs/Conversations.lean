import CodeReview.Proofs.Chunks
import CodeReview.Proofs.Ranking

/-!
# Conversations about the issues of a file

An adviser asks about one issue after the other, first why it is one and, if that is answered, how
to fix it. So how many calls an issue takes depends on what comes of them, and the calls about an
issue meet the outcomes that those about the issues before it have left. No failure of a call ends
the conversation.
-/

namespace CodeReview

/-! ## Lines -/

namespace Line

variable {Question Answer : Type} (line : Line Question Answer)

/-- What the question after `n` others is answered. -/
def outcome (n : Nat) : Except Failure Answer :=
  (line.answers[n]?).getD (.error line.silence)

/-- The line after some questions. -/
def after (qs : List Question) : Line Question Answer :=
  { line with answers := line.answers.drop qs.length, asked := line.asked ++ qs }

theorem send_eq (q : Question) : line.send q = (line.outcome 0, line.after [q]) := by
  obtain ⟨answers, silence, asked⟩ := line
  cases answers <;> rfl

theorem after_nil : line.after [] = line := by
  simp [after]

theorem after_after (qs rs : List Question) : (line.after qs).after rs = line.after (qs ++ rs) := by
  simp [after]

theorem outcome_after (qs : List Question) (n : Nat) :
    (line.after qs).outcome n = line.outcome (qs.length + n) := by
  simp [after, outcome]

end Line

namespace Course

variable {State α β : Type} {x : Course State α} {s s' : State}

theorem run_bind_ok {a : α} (h : x.run s = (.ok a, s')) (f : α → Course State β) :
    (x >>= f).run s = (f a).run s' := by
  change (ExceptT.bindCont f (x.run s).1) (x.run s).2 = _
  rw [h]
  rfl

theorem run_bind_error {e : Failure} (h : x.run s = (.error e, s')) (f : α → Course State β) :
    (x >>= f).run s = (.error e, s') := by
  change (ExceptT.bindCont f (x.run s).1) (x.run s).2 = _
  rw [h]
  rfl

/-- What may fail without ending the course does not end it. -/
theorem run_attempt {r : Except Failure α} (h : x.run s = (r, s')) :
    (attempt x).run s = (.ok r, s') := by
  change (Except.ok (x.run s).1, (x.run s).2) = _
  rw [h]

end Course

/-! ## Calls -/

namespace Assist

/-- A call of a vendor: what is asked, and what comes of it. -/
structure Call where
  prompt : Text
  outcome : Except Failure Text

namespace Adviser

variable (a : Adviser) {o o' : Outlet Text}

/-- Whether there is a client, or one can be made. -/
def reaches (o : Outlet Text) : Bool :=
  o.connected || o.packages.contains a.client.1

/-- What the call after `n` others comes to. Without a client it does not get as far as the line. -/
def outcome (o : Outlet Text) (n : Nat) : Except Failure Text :=
  if a.reaches o then o.line.outcome n else .error (.noPackage a.client.1)

/-- The calls that are made between two states of an outlet. -/
structure Calls (o : Outlet Text) (calls : List Call) (o' : Outlet Text) : Prop where
  reaches : a.reaches o' = a.reaches o
  /-- Each call meets the next outcome. -/
  outcomes : calls.map (·.outcome) = (List.range calls.length).map (a.outcome o)
  /-- What is asked over the line, if there is a client. -/
  line : o'.line = if a.reaches o
    then o.line.after (calls.map fun c => a.question c.prompt answerTokens) else o.line

variable {a}

theorem Calls.nil (o : Outlet Text) : a.Calls o [] o :=
  ⟨rfl, rfl, by rw [List.map_nil, Line.after_nil, ite_self]⟩

theorem Calls.outcome_eq {calls : List Call} (h : a.Calls o calls o') (n : Nat) :
    a.outcome o' n = a.outcome o (calls.length + n) := by
  rw [outcome, outcome, h.reaches, h.line]
  split
  · rw [Line.outcome_after, List.length_map]
  · rfl

theorem Calls.append {o'' : Outlet Text} {calls more : List Call} (h : a.Calls o calls o')
    (h' : a.Calls o' more o'') : a.Calls o (calls ++ more) o'' := by
  refine ⟨h'.reaches.trans h.reaches, ?_, ?_⟩
  · rw [List.map_append, h.outcomes, h'.outcomes, List.length_append, List.range_add,
      List.map_append, List.map_map]
    congr 1
    exact List.map_congr_left fun n _ => h.outcome_eq n
  · rw [h'.line, h.reaches, h.line]
    split
    · rw [Line.after_after, List.map_append]
    · rfl

variable (a)

/-- A question takes one call. -/
theorem exists_ask (prompt : Text) (o : Outlet Text) :
    ∃ o', (a.ask prompt answerTokens).run o = (a.outcome o 0, o')
      ∧ a.Calls o [⟨prompt, a.outcome o 0⟩] o' := by
  by_cases hreach : a.reaches o = true
  · have hconnect : ∃ o₁, (Outlet.connect a.client.1 a.client.2 [("api_key".toList, a.key)]).run o
        = (.ok (), o₁) ∧ o₁.connected = true ∧ o₁.line = o.line := by
      by_cases hconnected : o.connected = true
      · exact ⟨o, if_pos hconnected, hconnected, rfl⟩
      · have hpackage := (Bool.or_eq_true_iff.mp hreach).resolve_left hconnected
        exact ⟨_, (if_neg hconnected).trans (if_pos hpackage), rfl, rfl⟩
    obtain ⟨o₁, hrun, hconnected, hline⟩ := hconnect
    refine ⟨{ o₁ with line := o.line.after [a.question prompt answerTokens] }, ?_, ?_, ?_, ?_⟩
    · rw [ask, Course.run_bind_ok hrun, outcome, if_pos hreach]
      change (let (answer, line) := o₁.line.send _; (answer, { o₁ with line := line })) = _
      rw [hline, Line.send_eq]
    · rw [hreach, reaches, hconnected, Bool.true_or]
    · rfl
    · rw [if_pos hreach]
      rfl
  · have hrun : (Outlet.connect a.client.1 a.client.2 [("api_key".toList, a.key)]).run o
        = (.error (.noPackage a.client.1), o) := by
      rw [reaches, Bool.or_eq_true, not_or] at hreach
      exact (if_neg hreach.1).trans (if_neg hreach.2)
    refine ⟨o, ?_, rfl, rfl, (if_neg hreach).symm⟩
    rw [ask, Course.run_bind_error hrun, outcome, if_neg hreach]

section Issue

variable {a} {i : Issue} {s : Severity} (hs : i.severity = .level s) {context : Text}
  {x : Except Failure Text}
include hs

theorem explain_run (h : (a.ask (Prompt.explain i s context) answerTokens).run o = (x, o')) :
    (a.explain i context).run o
      = (x.map fun t => { text := t, impact := Prompt.impact s, priority := s.toText }, o') := by
  rw [explain, hs]
  cases x with
  | ok t => exact Course.run_bind_ok h _
  | error f => exact Course.run_bind_error h _

theorem fix_run (h : (a.ask (Prompt.fix i s context) answerTokens).run o = (x, o')) :
    (a.fix i context).run o = (x.map Fix.read, o') := by
  rw [fix, hs]
  cases x with
  | ok t => exact Course.run_bind_ok h _
  | error f => exact Course.run_bind_error h _

end Issue

end Adviser

/-! ## Conversations -/

/-- The calls about an issue, and what is told of it then. -/
structure Talk where
  calls : List Call
  entry : Value

/-- Whether there were two calls and both were answered. -/
def Talk.succeeded (t : Talk) : Bool :=
  t.calls.length = 2 && t.calls.all (·.outcome.isOk)

/-- How a conversation about an issue may go. -/
inductive Consulted (i : Issue) (s : Severity) : Talk → Prop
  | unexplained (f : Failure) :
    Consulted i s {
      calls := [⟨Prompt.explain i s [], .error f⟩]
      entry := .record [("issue", i.toValue), ("ai_error", .text f.message)] }
  | unfixed (reason : Text) (f : Failure) :
    Consulted i s {
      calls := [⟨Prompt.explain i s [], .ok reason⟩, ⟨Prompt.fix i s [], .error f⟩]
      entry := .record [("issue", i.toValue), ("ai_error", .text f.message)] }
  | advised (reason answer : Text) :
    Consulted i s {
      calls := [⟨Prompt.explain i s [], .ok reason⟩, ⟨Prompt.fix i s [], .ok answer⟩]
      entry := .record
        [("issue", i.toValue), ("ai_explanation", .text reason),
          ("ai_impact", .text (Prompt.impact s)), ("ai_fix", .text (Fix.read answer).code),
          ("ai_fix_explanation", .text (Fix.read answer).explanation)] }

/-- No conversation takes more than two calls. -/
theorem length_calls_le {issues : List Issue} {talks : List Talk}
    (h : List.Forall₂ (fun i t => ∃ s, i.severity = .level s ∧ Consulted i s t) issues talks) :
    (talks.flatMap (·.calls)).length ≤ 2 * talks.length := by
  induction h with
  | nil => rfl
  | cons htalk _ ih =>
    obtain ⟨s, -, htalk⟩ := htalk
    rw [List.flatMap_cons, List.length_append, List.length_cons]
    cases htalk <;> simp only [List.length_cons, List.length_nil] <;> omega

namespace Adviser

variable (a : Adviser)

theorem exists_tryAdvise {i : Issue} {s : Severity} (hs : i.severity = .level s) (o : Outlet Text) :
    ∃ (t : Talk) (advised : Advised) (o' : Outlet Text),
      (a.tryAdvise i).run o = (.ok advised, o') ∧ a.Calls o t.calls o' ∧ Consulted i s t
        ∧ advised.toValue = t.entry ∧ advised.succeeded = t.succeeded := by
  obtain ⟨o₁, hask₁, hcalls₁⟩ := a.exists_ask (Prompt.explain i s []) o
  have hexplain := explain_run hs hask₁
  cases hreason : a.outcome o 0 with
  | error f =>
    rw [hreason] at hexplain hcalls₁
    have hadvise : (a.advise i []).run o = (.error f, o₁) := Course.run_bind_error hexplain _
    refine ⟨_, { issue := i, said := .error f.message }, o₁, ?_, hcalls₁, .unexplained f, rfl, rfl⟩
    rw [tryAdvise, Course.run_bind_ok (Course.run_attempt hadvise)]
    rfl
  | ok reason =>
    rw [hreason] at hexplain hcalls₁
    -- The fix is asked for with what the first call has left.
    obtain ⟨o₂, hask₂, hcalls₂⟩ := a.exists_ask (Prompt.fix i s []) o₁
    have hfix := fix_run hs hask₂
    have hadvise := Course.run_bind_ok hexplain fun e => do
      let f ← a.fix i []
      return ({ issue := i, said := .ok (e, f) } : Advised)
    cases hanswer : a.outcome o₁ 0 with
    | error f =>
      rw [hanswer] at hfix hcalls₂
      replace hadvise := hadvise.trans (Course.run_bind_error hfix _)
      refine ⟨_, { issue := i, said := .error f.message }, o₂, ?_, hcalls₁.append hcalls₂,
        .unfixed reason f, rfl, rfl⟩
      rw [tryAdvise, advise, Course.run_bind_ok (Course.run_attempt hadvise)]
      rfl
    | ok answer =>
      rw [hanswer] at hfix hcalls₂
      replace hadvise := hadvise.trans (Course.run_bind_ok hfix _)
      refine ⟨_, { issue := i, said := .ok (⟨reason, Prompt.impact s, s.toText⟩, Fix.read answer) },
        o₂, ?_, hcalls₁.append hcalls₂, .advised reason answer, rfl, rfl⟩
      rw [tryAdvise, advise, Course.run_bind_ok (Course.run_attempt hadvise)]
      rfl

/-- The run over some issues: one conversation after the other. -/
theorem exists_mapM_tryAdvise {issues : List Issue} (h : ∀ i ∈ issues, i.Rated) (o : Outlet Text) :
    ∃ (talks : List Talk) (all : List Advised) (o' : Outlet Text),
      (issues.mapM a.tryAdvise).run o = (.ok all, o') ∧ a.Calls o (talks.flatMap (·.calls)) o'
        ∧ List.Forall₂ (fun i t => ∃ s, i.severity = .level s ∧ Consulted i s t) issues talks
        ∧ all.map Advised.toValue = talks.map (·.entry)
        ∧ all.countP Advised.succeeded = talks.countP Talk.succeeded := by
  induction issues generalizing o with
  | nil => exact ⟨[], [], o, rfl, .nil o, .nil, rfl, rfl⟩
  | cons i issues ih =>
    obtain ⟨s, hs⟩ := h i List.mem_cons_self
    obtain ⟨t, advised, o₁, hrun, hcalls, htalk, hentry, hsucceeded⟩ := a.exists_tryAdvise hs o
    obtain ⟨talks, all, o₂, hruns, hmore, htalks, hentries, hcount⟩ :=
      ih (fun j hj => h j (List.mem_cons_of_mem i hj)) o₁
    refine ⟨t :: talks, advised :: all, o₂, ?_, hcalls.append hmore, .cons ⟨s, hs, htalk⟩ htalks,
      ?_, ?_⟩
    · rw [List.mapM_cons, Course.run_bind_ok hrun, Course.run_bind_ok hruns]
      rfl
    · rw [List.map_cons, hentry, hentries, List.map_cons]
    · rw [List.countP_cons, List.countP_cons, hcount, hsucceeded]

/-- Advice on a file never fails. It tells, in this order, of the issues that come first in the
stable order of severity, as many as are wanted if there are so many. About each of them there is a
conversation, and all calls together meet the outcomes one after the other. -/
theorem file_advised {r : FileResult} (h : r.Rated) {most : Int} (hmost : 0 ≤ most)
    (o : Outlet Text) :
    ∃ ranked, RankedBy (fun i : Issue => i.severity.place) r.issues ranked
      ∧ ∃ (talks : List Talk) (advice : Advice) (o' : Outlet Text),
        (a.adviseFile r most).run o = (.ok advice, o') ∧ a.Calls o (talks.flatMap (·.calls)) o'
          ∧ List.Forall₂ (fun i t => ∃ s, i.severity = .level s ∧ Consulted i s t)
            (ranked.take most.toNat) talks
          ∧ talks.length = min most.toNat r.issues.length
          ∧ (talks.flatMap (·.calls)).length ≤ 2 * talks.length
          ∧ advice.result = r
          ∧ advice.toValue = .record
            [("file", .text r.file), ("metrics", .ofOption Metrics.toValue r.metrics),
              ("enhanced_issues", .list (talks.map (·.entry))),
              ("total_issues", .ofNat r.issues.length),
              ("enhanced_count", .ofNat (talks.countP Talk.succeeded))] := by
  have hranked := rankedBy_bySeverity r.issues
  obtain ⟨most, rfl⟩ := Int.eq_ofNat_of_zero_le hmost
  have hslice : Text.slice (bySeverity r.issues) 0 most = (bySeverity r.issues).take most :=
    Text.slice_natCast _ 0 most
  obtain ⟨levels, hlevels⟩ := severities_of_rated h
  have hrated : ∀ i ∈ (bySeverity r.issues).take most, i.Rated := fun i hi =>
    h i (hranked.perm.subset (List.mem_of_mem_take hi))
  obtain ⟨talks, all, o', hrun, hcalls, htalks, hentries, hcount⟩ :=
    a.exists_mapM_tryAdvise hrated o
  refine ⟨_, hranked, talks, { result := r, issues := all }, o', ?_, hcalls, htalks, ?_, ?_, rfl,
    ?_⟩
  · rw [adviseFile, hlevels, hslice]
    exact Course.run_bind_ok hrun _
  · rw [← htalks.length_eq, List.length_take, hranked.perm.length_eq, Int.toNat_natCast]
  · exact length_calls_le htalks
  · rw [Advice.toValue, hentries, hcount]

/-- Three issues, of which the second is the worst. -/
def threeIssues : FileResult :=
  { file := "a.py"
    issues := [.low, .critical, .info].map fun s =>
      { type := "todo_comment", severity := .level s, file := "a.py", line := 1, message := [] } }

/-- A client that answers the first question and the third one. -/
def moody : Outlet Text where
  line := { answers := [.ok "Yes", .error (.broken "no"), .ok "Yes"], silence := .broken "silent" }
  connected := true

theorem file_advised_moody :
    threeIssues.Rated ∧ ∃ (talks : List Talk) (advice : Advice) (o' : Outlet Text),
      (adviseFile ⟨"anthropic", .null, .null⟩ threeIssues 2).run moody = (.ok advice, o')
        ∧ talks.length = 2 ∧ (talks.flatMap (·.calls)).length ≤ 4
        ∧ advice.toValue.field? "enhanced_issues" = some (.list (talks.map (·.entry)))
        ∧ advice.toValue.field? "total_issues" = some (.ofNat 3) := by
  have hrated : threeIssues.Rated := by
    simp [threeIssues, FileResult.Rated, Issue.Rated]
  obtain ⟨ranked, -, talks, advice, o', hrun, -, -, hlength, hcalls, -, hvalue⟩ :=
    file_advised ⟨"anthropic", .null, .null⟩ hrated (by decide : (0 : Int) ≤ 2) moody
  rw [show min (2 : Int).toNat threeIssues.issues.length = 2 from rfl] at hlength
  refine ⟨hrated, talks, advice, o', hrun, hlength, by omega, ?_, ?_⟩
  · rw [hvalue]
    simp [Value.record, Value.field?, Entries.get?]
  · rw [hvalue]
    simp [Value.record, Value.field?, Entries.get?, threeIssues]

end Adviser

end Assist

end CodeReview
