import CodeReview.Source.Grammar.Goal
import Mathlib.Data.List.Forall2

/-!
# Readings that do not look at the places of layout

Line ends and indentation are tokens of their own. A tree says where its nodes start and end, but no
node starts or ends with layout, so it should make no difference where on their lines these tokens
stand. Tokens are alike if they are the same or are layout of the same kind; a parser is `Steady` if
it does the same with alike tokens. Only readings that do not look for mistakes are asked about.

A rule that starts with an expression takes the place of the next token before it knows what that
is. Such a rule is steady since it fails at layout, which is what `Refuses` says.
-/

namespace CodeReview.Source

namespace Token

/-- The same token, or layout of the same kind at another place. -/
structure Alike (t u : Token) : Prop where
  kind : t.kind = u.kind
  text : t.text = u.text
  same : t.isLayout = false → t = u

variable {t u : Token}

theorem Alike.refl (t : Token) : t.Alike t := ⟨rfl, rfl, fun _ => rfl⟩

theorem Alike.isNewline (h : t.Alike u) : t.isNewline = u.isNewline := by
  unfold Token.isNewline
  rw [h.kind]

theorem Alike.isIndent (h : t.Alike u) : t.isIndent = u.isIndent := by
  unfold Token.isIndent
  rw [h.kind]

theorem Alike.isDedent (h : t.Alike u) : t.isDedent = u.isDedent := by
  unfold Token.isDedent
  rw [h.kind]

theorem Alike.isFinish (h : t.Alike u) : t.isFinish = u.isFinish := by
  unfold Token.isFinish
  rw [h.kind]

theorem Alike.isLayout (h : t.Alike u) : t.isLayout = u.isLayout := by
  unfold Token.isLayout
  rw [h.isNewline, h.isIndent, h.isDedent, h.isFinish]

/-! ### What layout is not -/

variable (h : t.isLayout = true)
include h

theorem isWord_of_isLayout (w : Text) : t.isWord w = false := by
  obtain ⟨kind, _⟩ := t
  cases kind <;> first | rfl | cases h

theorem isName_of_isLayout : t.isName = false := by
  obtain ⟨kind, _⟩ := t
  cases kind <;> first | rfl | cases h

theorem isString_of_isLayout : t.isString = false := by
  obtain ⟨kind, _⟩ := t
  cases kind <;> first | rfl | cases h

theorem kind_of_isLayout :
    t.kind = .newline ∨ t.kind = .indent ∨ t.kind = .dedent ∨ t.kind = .finish := by
  obtain ⟨kind, _⟩ := t
  cases kind <;> first | (simp; done) | cases h

theorem isNamed_of_isLayout (w : Text) : t.isNamed w = false := by
  unfold isNamed
  rw [isName_of_isLayout h, Bool.false_and]

end Token

namespace Parser

/-- The tokens that are left are alike, and what was taken ends on the same line. -/
structure State.Alike (s t : State) : Prop where
  rest : List.Forall₂ Token.Alike s.rest t.rest
  endLine : s.endLine = t.endLine

theorem State.Alike.reach {s t : State} (h : s.Alike t) (m n : Nat) :
    State.Alike { s with reach := m } { t with reach := n } :=
  ⟨h.rest, h.endLine⟩

/-- What two parsers give that had alike tokens before them. They take tokens from the front
only. -/
inductive Outcome.Alike {α : Type} (before : List Token) : Outcome α → Outcome α → Prop where
  | ok {a : α} {s t : State} (h : s.Alike t) (hrest : s.rest <:+ before) :
    Alike before (.ok a s) (.ok a t)
  | fail (m n : Nat) : Alike before (.fail m) (.fail n)
  | raise (d e : Diagnostic) (m n : Nat) : Alike before (.raise d m) (.raise e n)
  | stopped : Alike before .stopped .stopped

theorem Outcome.Alike.mono {α : Type} {before earlier : List Token} {o o' : Outcome α}
    (h : Outcome.Alike before o o') (hsuffix : before <:+ earlier) :
    Outcome.Alike earlier o o' := by
  cases h with
  | ok h hrest => exact .ok h (hrest.trans hsuffix)
  | fail m n => exact .fail m n
  | raise d e m n => exact .raise d e m n
  | stopped => exact .stopped

/-- Two parsers that do the same with alike tokens. -/
def Agree {α : Type} (p q : Parser α) : Prop :=
  ∀ ⦃r r' : Reading⦄ ⦃s t : State⦄, r.diagnose = false → r'.diagnose = false → s.Alike t →
    Outcome.Alike s.rest (p r s) (q r' t)

/-- The parser does not look at the places of layout. -/
class Steady {α : Type} (p : Parser α) : Prop where
  agree : Agree p p

/-- Layout comes next. -/
def State.AtLayout (s : State) : Prop :=
  ∃ t rest, s.rest = t :: rest ∧ t.isLayout = true

theorem State.Alike.atLayout {s t : State} (h : s.Alike t) (hs : s.AtLayout) : t.AtLayout := by
  obtain ⟨u, rest, hrest, hu⟩ := hs
  have halike := h.rest
  rw [hrest, List.forall₂_cons_left_iff] at halike
  obtain ⟨v, rest', huv, _, hrest'⟩ := halike
  exact ⟨v, rest', hrest', huv.isLayout.symm.trans hu⟩

/-- The parser fails where layout comes next. -/
class Refuses {α : Type} (p : Parser α) : Prop where
  fails : ∀ ⦃r : Reading⦄ ⦃s : State⦄, r.diagnose = false → s.AtLayout → ∃ n, p r s = .fail n

/-- The next tokens are alike, and so is what is done with them from here. -/
theorem Outcome.Alike.peek {β : Type} {f k : Token → Parser β} {r r' : Reading} {s s' : State}
    (hs : s.Alike s')
    (h : ∀ t u, t.Alike u → s.rest.head? = some t → s'.rest.head? = some u → ∀ m n,
      Outcome.Alike s.rest (f t r { s with reach := m }) (k u r' { s' with reach := n })) :
    Outcome.Alike s.rest ((Parser.peek >>= f) r s) ((Parser.peek >>= k) r' s') := by
  simp only [Bind.bind, Parser.peek]
  obtain ⟨rest, pos, reach, endLine, depth⟩ := s
  obtain ⟨rest', pos', reach', endLine', depth'⟩ := s'
  have hrest : List.Forall₂ Token.Alike rest rest' := hs.rest
  cases hrest with
  | nil => exact .fail ..
  | @cons t u l l' htu hl =>
    dsimp only
    have hkind := htu.kind
    cases ht : t.kind with
    | stop why =>
      rw [ht] at hkind
      rw [← hkind]
      exact .stopped
    | _ =>
      rw [ht] at hkind
      rw [← hkind]
      exact h t u htu rfl rfl _ _

namespace Agree

variable {α β : Type} {p q : Parser α}

theorem bind (h : Agree p q) {f k : α → Parser β} (hf : ∀ a, Agree (f a) (k a)) :
    Agree (p >>= f) (q >>= k) := by
  intro r r' s t hr hr' hst
  have hpq := h hr hr' hst
  simp only [Bind.bind]
  generalize p r s = o at hpq ⊢
  generalize q r' t = o' at hpq ⊢
  cases hpq with
  | ok hs hrest => exact (hf _ hr hr' hs).mono hrest
  | fail m n => exact .fail m n
  | raise d e m n => exact .raise d e m n
  | stopped => exact .stopped

theorem peek {f k : Token → Parser β} (h : ∀ t u, t.Alike u → Agree (f t) (k u)) :
    Agree (peek >>= f) (peek >>= k) :=
  fun _ _ _ _ hr hr' hs => .peek hs fun t u htu _ _ m n => h t u htu hr hr' (hs.reach m n)

theorem ite {c : Prop} [Decidable c] {p' q' : Parser α} (hp : Agree p p') (hq : Agree q q') :
    Agree (if c then p else q) (if c then p' else q') := by
  split
  · exact hp
  · exact hq

/-- The place where the parsers stand may be used in ways that make no difference. -/
theorem here {f k : State → Parser β} (h : ∀ s t, Agree (f s) (k t)) :
    Agree (here >>= f) (here >>= k) :=
  fun _ _ s t hr hr' hst => h s t hr hr' hst

/-- What is looked for in a second reading only makes no difference. -/
theorem whenDiagnosing (p q : Parser Unit) : Agree (whenDiagnosing p) (whenDiagnosing q) := by
  intro r r' s t hr hr' hst
  simp only [Parser.whenDiagnosing, hr, hr']
  exact .ok hst List.suffix_rfl

/-- Taking the next token leaves alike tokens, wherever it stands itself. -/
theorem next {f k : Token → Parser β} (h : ∀ t u, t.Alike u → Agree (f t) (k u)) :
    Agree (next >>= f) (next >>= k) := by
  have hassoc (f : Token → Parser β) : (Parser.next >>= f) = (Parser.peek >>= fun t r s =>
      f t r { s with
        rest := s.rest.drop 1
        pos := s.pos + 1
        endLine := if t.isLayout then s.endLine else t.endLine
        depth := t.depth }) := by
    funext r s
    simp only [Parser.next, Bind.bind]
    cases Parser.peek r s <;> rfl
  rw [hassoc, hassoc]
  apply peek
  intro t u htu r r' s s' hr hr' hs
  refine (h t u htu hr hr' ⟨?_, ?_⟩).mono (List.drop_suffix 1 s.rest)
  · show List.Forall₂ _ (s.rest.drop 1) (s'.rest.drop 1)
    exact List.forall₂_drop 1 hs.rest
  · show (if t.isLayout then s.endLine else t.endLine)
      = if u.isLayout then s'.endLine else u.endLine
    rw [← htu.isLayout, ← hs.endLine]
    split
    · rfl
    · next hl => rw [htu.same (by simpa using hl)]

end Agree

/-! ## Parsers that refuse layout -/

variable {test : Token → Bool}

namespace Refuses

variable {α β : Type} {p q : Parser α}

instance bind [h : Refuses p] {f : α → Parser β} : Refuses (p >>= f) := by
  constructor
  intro r s hr hs
  obtain ⟨n, hn⟩ := h.fails hr hs
  exact ⟨n, by simp only [Bind.bind, hn]⟩

instance map [Refuses p] {f : α → β} : Refuses (f <$> p) :=
  inferInstanceAs (Refuses (p >>= _))

instance fail : Refuses (fail : Parser α) := ⟨fun _ s _ _ => ⟨s.reach, rfl⟩⟩

instance orElse [hp : Refuses p] [hq : Refuses q] : Refuses (orElse p q) := by
  constructor
  intro r s hr hs
  obtain ⟨n, hn⟩ := hp.fails hr hs
  obtain ⟨m, hm⟩ := hq.fails (s := { s with reach := max s.reach n }) hr hs
  exact ⟨m, by simp only [Parser.orElse, hn, hm]⟩

/-- A first step that goes on from where it stands. -/
theorem andThen {f : α → Parser β} {a : α} (h : ∀ ⦃r : Reading⦄ ⦃s : State⦄, r.diagnose = false →
      s.AtLayout → ∃ t, p r s = .ok a t ∧ t.AtLayout)
    (hf : Refuses (f a)) : Refuses (p >>= f) := by
  constructor
  intro r s hr hs
  obtain ⟨t, ht, hlayout⟩ := h hr hs
  simp only [Bind.bind, ht]
  exact hf.fails hr hlayout

theorem peek {f : Token → Parser β} (h : ∀ t, t.isLayout = true → Refuses (f t)) :
    Refuses (peek >>= f) := by
  constructor
  intro r s hr hs
  have hs' := hs
  obtain ⟨⟨kind, text, line, col, endLine, depth⟩, rest, hrest, ht⟩ := hs'
  simp only [Bind.bind, Parser.peek, hrest]
  cases kind with
  | stop why => cases ht
  | _ =>
    rw [← hrest]
    exact (h _ ht).fails hr hs

theorem here {f : State → Parser β} (h : ∀ s, Refuses (f s)) : Refuses (here >>= f) := by
  constructor
  intro r s hr hs
  exact (h s).fails hr hs

theorem whenDiagnosing {p : Parser Unit} {f : Unit → Parser β} (h : Refuses (f ())) :
    Refuses (whenDiagnosing p >>= f) := by
  refine andThen (fun r s hr hs => ⟨s, ?_, hs⟩) h
  rw [Parser.whenDiagnosing, hr]
  rfl

theorem optional [hp : Refuses p] {f : Option α → Parser β} (h : Refuses (f none)) :
    Refuses (optional p >>= f) := by
  refine andThen (fun r s hr hs => ?_) h
  obtain ⟨n, hn⟩ := (map (p := p) (f := some)).fails hr hs
  refine ⟨{ s with reach := max s.reach n }, ?_, hs⟩
  simp only [Parser.optional, Parser.orElse, hn]
  rfl

/-- No item is read where layout comes next. -/
theorem many [hp : Refuses p] {f : List α → Parser β} (h : Refuses (f [])) :
    Refuses (many p >>= f) := by
  refine andThen (fun r s hr hs => ?_) h
  obtain ⟨n, hn⟩ := hp.fails hr hs
  refine ⟨{ s with reach := max s.reach n }, ?_, hs⟩
  simp only [Parser.many, Parser.loop, Parser.iterate, Parser.optional, Parser.orElse, Bind.bind,
    Functor.map, hn]
  rfl

theorem lookahead [hp : Refuses p] {f : Bool → Parser β} (h : Refuses (f false)) :
    Refuses (lookahead p >>= f) := by
  refine andThen (fun r s hr hs => ?_) h
  obtain ⟨n, hn⟩ := hp.fails hr hs
  exact ⟨{ s with reach := max s.reach n }, by simp only [Parser.lookahead, hn], hs⟩

theorem take (h : ∀ t, t.isLayout = true → test t = false) :
    Refuses (take test) := by
  refine peek fun t ht => ?_
  rw [h t ht]
  exact fail

instance word {w : Text} : Refuses (word w) := take fun _ ht => Token.isWord_of_isLayout ht w

/-- Layout answers a question about the next token with no. -/
theorem asked (h : ∀ t, t.isLayout = true → test t = false)
    {f : Bool → Parser β} (hf : Refuses (f false)) :
    Refuses ((do return test (← Parser.peek)) >>= f) := by
  refine andThen (fun r s hr hs => ?_) hf
  have hs' := hs
  obtain ⟨⟨kind, text, line, col, endLine, depth⟩, rest, hrest, ht⟩ := hs'
  refine ⟨{ s with reach := max s.reach (s.pos + 1) }, ?_, hs⟩
  simp only [Bind.bind, Parser.peek, hrest]
  cases kind with
  | stop why => cases ht
  | _ =>
    rw [← h _ ht]
    rfl

theorem sees {w : Text} {f : Bool → Parser β} (h : Refuses (f false)) :
    Refuses (sees w >>= f) :=
  asked (fun _ ht => Token.isWord_of_isLayout ht w) h

theorem accept {w : Text} {f : Bool → Parser β} (h : Refuses (f false)) :
    Refuses (accept w >>= f) := by
  refine andThen (a := false) (fun r s hr hs => ?_) h
  have hs' := hs
  obtain ⟨⟨kind, text, line, col, endLine, depth⟩, rest, hrest, ht⟩ := hs'
  refine ⟨{ s with reach := max s.reach (s.pos + 1) }, ?_, hs⟩
  simp only [Parser.accept, Parser.sees, Bind.bind, Parser.peek, hrest]
  cases kind with
  | stop why => cases ht
  | _ =>
    have hword := Token.isWord_of_isLayout ht w
    dsimp only [Pure.pure]
    rw [hword]
    rfl

/-- No word is layout, so the other branch has to refuse. -/
theorem butWord {t : Token} (ht : t.isLayout = true) {w : Text} (h : Refuses q) :
    Refuses (if t.isWord w then p else q) := by
  rw [Token.isWord_of_isLayout ht w]
  exact h

instance sepBy1 [Refuses p] {sep : Text} : Refuses (sepBy1 p sep) := bind

end Refuses

/-! ## Steady parsers -/

namespace Steady

variable {α β : Type} {p q : Parser α}

instance pure {a : α} : Steady (Pure.pure a : Parser α) :=
  ⟨fun _ _ _ _ _ _ h => .ok h List.suffix_rfl⟩

/-- For a first step without an instance. -/
theorem andThen (h : Steady p) {f : α → Parser β} (hf : ∀ a, Steady (f a)) : Steady (p >>= f) :=
  ⟨h.agree.bind fun a => (hf a).agree⟩

/-- `andThen` for a first step with an instance. -/
theorem bind [h : Steady p] {f : α → Parser β} (hf : ∀ a, Steady (f a)) : Steady (p >>= f) :=
  h.andThen hf

instance [Steady p] {f : α → Parser β} [hf : ∀ a, Steady (f a)] : Steady (p >>= f) :=
  .bind hf

instance map [Steady p] {f : α → β} : Steady (f <$> p) :=
  inferInstanceAs (Steady (p >>= fun a => Pure.pure (f a)))

theorem ite {c : Prop} [Decidable c] (hp : Steady p) (hq : Steady q) :
    Steady (if c then p else q) := by
  split
  · exact hp
  · exact hq

instance {c : Prop} [Decidable c] [hp : Steady p] [hq : Steady q] : Steady (if c then p else q) :=
  ite hp hq

instance fail : Steady (fail : Parser α) := ⟨fun _ _ _ _ _ _ _ => .fail ..⟩

instance raiseAt {line : Nat} {fault : Fault} : Steady (raiseAt line fault : Parser α) :=
  ⟨fun _ _ _ _ _ _ _ => .raise ..⟩

instance raise {fault : Fault} : Steady (raise fault : Parser α) :=
  ⟨fun _ _ _ _ _ _ _ => .raise ..⟩

instance orElse [hp : Steady p] [hq : Steady q] : Steady (orElse p q) := by
  constructor
  intro r r' s t hr hr' hst
  have h := hp.agree hr hr' hst
  simp only [Parser.orElse]
  generalize p r s = o at h ⊢
  generalize p r' t = o' at h ⊢
  cases h with
  | ok h hrest => exact .ok h hrest
  | fail m n => exact hq.agree hr hr' (hst.reach (max s.reach m) (max t.reach n))
  | raise d e m n => exact .raise d e m n
  | stopped => exact .stopped

instance optional [h : Steady p] : Steady (optional p) := orElse

instance lookahead [hp : Steady p] : Steady (lookahead p) := by
  constructor
  intro r r' s t hr hr' hst
  have h := hp.agree hr hr' hst
  simp only [Parser.lookahead]
  generalize p r s = o at h ⊢
  generalize p r' t = o' at h ⊢
  cases h with
  | ok h hrest => exact .ok (hst.reach ..) List.suffix_rfl
  | fail m n => exact .ok (hst.reach ..) List.suffix_rfl
  | raise d e m n => exact .raise d e m n
  | stopped => exact .stopped

instance diagnosing : Steady diagnosing := by
  constructor
  intro r r' s t hr hr' hst
  simp only [Parser.diagnosing, hr, hr']
  exact .ok hst List.suffix_rfl

instance plainly [h : Steady p] : Steady (plainly p) :=
  ⟨fun _ _ _ _ _ _ hst => h.agree rfl rfl hst⟩

instance whenDiagnosing {p : Parser Unit} : Steady (whenDiagnosing p) :=
  ⟨.whenDiagnosing p p⟩

/-! ### Tokens -/

/-- Looking at the next token, where layout is refused. -/
theorem peek {f : Token → Parser β} (hrefuses : Refuses (peek >>= f))
    (hsteady : ∀ t, Steady (f t)) : Steady (Parser.peek >>= f) := by
  constructor
  intro r r' s s' hr hr' hs
  by_cases hl : s.AtLayout
  · obtain ⟨m, hm⟩ := hrefuses.fails hr hl
    obtain ⟨n, hn⟩ := hrefuses.fails hr' (hs.atLayout hl)
    rw [hm, hn]
    exact .fail m n
  · refine .peek hs fun t u htu ht hu m n => ?_
    obtain ⟨l, hrest⟩ := List.head?_eq_some_iff.mp ht
    obtain rfl := htu.same (Bool.eq_false_iff.mpr fun h => hl ⟨t, l, hrest, h⟩)
    exact (hsteady t).agree hr hr' (hs.reach m n)

/-- Looking at the next token, where nothing but its kind is used of layout. -/
theorem look {f : Token → Parser β} (hsteady : ∀ t, Steady (f t))
    (hlayout : ∀ t u, t.Alike u → t.isLayout = true → u.isLayout = true → f t = f u) :
    Steady (Parser.peek >>= f) := by
  refine ⟨.peek fun t u htu => ?_⟩
  cases hl : t.isLayout with
  | false =>
    obtain rfl := htu.same hl
    exact (hsteady t).agree
  | true =>
    rw [← hlayout t u htu hl (htu.isLayout.symm.trans hl)]
    exact (hsteady t).agree

/-- Taking a token that is not looked at any more. -/
instance drop {p : Parser β} [h : Steady p] : Steady (next >>= fun _ => p) :=
  ⟨.next fun _ _ _ => h.agree⟩

/-- Taking the token that comes next on both sides. -/
theorem next_alike {t : Token} (hl : t.isLayout = false) {r r' : Reading} {s s' : State}
    (hs : s.Alike s') (ht : s.rest.head? = some t) (hu : s'.rest.head? = some t) :
    Outcome.Alike s.rest (next r s) (next r' s') := by
  obtain ⟨l, hrest⟩ := List.head?_eq_some_iff.mp ht
  obtain ⟨l', hrest'⟩ := List.head?_eq_some_iff.mp hu
  have hrests := hs.rest
  rw [hrest, hrest'] at hrests
  have htail := (List.forall₂_cons.mp hrests).2
  simp only [next, Bind.bind, Parser.peek, hrest, hrest']
  cases t.kind with
  | stop why => exact .stopped
  | _ =>
    refine .ok ⟨htail, ?_⟩ (List.suffix_cons t l)
    simp only [hl, Bool.false_eq_true, if_false]

/-- A token other than layout is the same on both sides. -/
theorem take (h : ∀ t, t.isLayout = true → test t = false) :
    Steady (take test) := by
  refine ⟨fun r r' s s' hr hr' hs => .peek hs fun t u htu ht hu m n => ?_⟩
  cases hl : t.isLayout with
  | true =>
    rw [h t hl, h u (htu.isLayout.symm.trans hl)]
    exact .fail ..
  | false =>
    obtain rfl := htu.same hl
    split
    · exact next_alike hl (hs.reach m n) ht hu
    · exact .fail ..

/-- A token of some kind that is not looked at any more. -/
theorem takeDrop (h : ∀ t u, t.Alike u → test t = test u) {p : Parser β}
    [hp : Steady p] : Steady (Parser.take test >>= fun _ => p) := by
  have hassoc : (Parser.take test >>= fun _ => p)
      = Parser.peek >>= fun t => if test t then next >>= fun _ => p else Parser.fail := by
    funext r s
    simp only [Parser.take, Bind.bind]
    cases Parser.peek r s with
    | ok t s' =>
      dsimp only
      cases test t <;> rfl
    | _ => rfl
  rw [hassoc]
  refine ⟨.peek fun t u htu => ?_⟩
  rw [h t u htu]
  exact (ite drop fail).agree

instance word {w : Text} : Steady (word w) := take fun _ ht => Token.isWord_of_isLayout ht w

instance newline : Steady newline := takeDrop fun _ _ htu => htu.isNewline

/-- A question about the next token that layout answers with no. -/
theorem asked (h : ∀ t, t.isLayout = true → test t = false) :
    Steady (do return test (← Parser.peek)) :=
  look (fun _ => pure) fun t u _ ht hu => by rw [h t ht, h u hu]

instance sees {w : Text} : Steady (sees w) := asked fun _ ht => Token.isWord_of_isLayout ht w

instance seesAny {ws : List Text} : Steady (seesAny ws) :=
  asked fun t ht => List.any_eq_false.mpr fun w _ => by simp [Token.isWord_of_isLayout ht w]

instance accept {w : Text} : Steady (accept w) :=
  bind fun _ => ite drop pure

/-- Where something else comes, a fault is reported, whatever its line. -/
instance demand {w : Text} : Steady (demand w) := by
  refine ⟨fun r r' s s' hr hr' hs => .peek hs fun t u htu ht hu m n => ?_⟩
  cases hl : t.isLayout with
  | true =>
    rw [Token.isWord_of_isLayout hl, Token.isWord_of_isLayout (htu.isLayout.symm.trans hl)]
    exact .raise ..
  | false =>
    obtain rfl := htu.same hl
    split
    · exact next_alike hl (hs.reach m n) ht hu
    · exact .raise ..

/-! ### Repetition -/

theorem iterate {step : α → Parser α} (hstep : ∀ a, Steady (step a)) (n : Nat) (a : α) :
    Steady (iterate step n a) := by
  induction n generalizing a with
  | zero => exact pure
  | succ n ih =>
    have := hstep a
    refine bind fun o => ?_
    cases o with
    | none => exact pure
    | some b => exact ih b

/-- There are as many tokens on both sides, so the bound on the repetitions is the same. -/
instance loop {step : α → Parser α} {a : α} [hstep : ∀ a, Steady (step a)] :
    Steady (loop step a) := by
  constructor
  intro r r' s t hr hr' hst
  simp only [Parser.loop, hst.rest.length_eq]
  exact (iterate hstep (t.rest.length + 1) a).agree hr hr' hst

instance sepBy1 [Steady p] {sep : Text} : Steady (sepBy1 p sep) :=
  bind fun _ => bind fun _ => pure

instance many [Steady p] : Steady (many p) := bind fun _ => pure

instance many1 [Steady p] : Steady (many1 p) := bind fun _ => bind fun _ => pure

theorem foldlM {f : α → β → Parser α} (h : ∀ a b, Steady (f a b)) (l : List β) (a : α) :
    Steady (l.foldlM f a) := by
  induction l generalizing a with
  | nil => exact pure
  | cons b l ih =>
    rw [List.foldlM_cons]
    exact andThen (h a b) ih

theorem mapM {f : β → Parser α} (h : ∀ b, Steady (f b)) (l : List β) : Steady (l.mapM f) := by
  suffices hloop : ∀ acc, Steady (List.mapM.loop f l acc) from hloop []
  induction l with
  | nil => exact fun acc => pure
  | cons b l ih => exact fun acc => andThen (h b) fun a => ih (a :: acc)

/-- What a steady parser leaves is a last part of the tokens. -/
theorem suffix (h : Steady p) {r : Reading} {s t : State} {a : α} (hr : r.diagnose = false)
    (e : p r s = .ok a t) : t.rest <:+ s.rest := by
  have hsame : s.Alike s := ⟨List.forall₂_same.mpr fun t _ => .refl t, rfl⟩
  have halike := h.agree hr hr hsame
  rw [e] at halike
  cases halike with
  | ok _ hrest => exact hrest

end Steady

theorem head?_of_take {r : Reading} {s s' : State} {t : Token}
    (e : take test r s = .ok t s') : ∃ u, s.rest.head? = some u ∧ test u = true := by
  simp only [take, Bind.bind, peek] at e
  cases hrest : s.rest with
  | nil =>
    rw [hrest] at e
    cases e
  | cons u l =>
    rw [hrest] at e
    refine ⟨u, rfl, ?_⟩
    dsimp only at e
    cases hk : u.kind with
    | stop why =>
      rw [hk] at e
      cases e
    | _ =>
      rw [hk] at e
      dsimp only at e
      split at e
      · next htest => exact htest
      · cases e

/-- Alike tokens are parsed as the same. -/
theorem run_of_alike {α : Type} {p : Parser α} [hp : Steady p] {wrap : Fault → Fault}
    {tokens tokens' : List Token} (h : List.Forall₂ Token.Alike tokens tokens') {a : α}
    (e : run p wrap tokens = .ok a) : run p wrap tokens' = .ok a := by
  have halike : Outcome.Alike tokens (p ⟨tokens, false⟩ ⟨tokens, 0, 0, 1, 0⟩)
      (p ⟨tokens', false⟩ ⟨tokens', 0, 0, 1, 0⟩) := by
    have hstart : State.Alike ⟨tokens, 0, 0, 1, 0⟩ ⟨tokens', 0, 0, 1, 0⟩ := ⟨h, rfl⟩
    exact hp.agree rfl rfl hstart
  simp only [run] at e ⊢
  split at e
  · next b s hb =>
    cases e
    rw [hb] at halike
    generalize p ⟨tokens', false⟩ _ = o at halike ⊢
    cases halike
    rfl
  · cases e
  · cases e
  · split at e
    all_goals cases e

end Parser

end CodeReview.Source
