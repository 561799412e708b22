import CodeReview.Proofs.Markup
import CodeReview.Proofs.Tidying
import CodeReview.Report.Terminal

/-!
# Reports with and without colours

A report on a terminal is the same with and without colours, but for the sequences that switch them.
Deleting sequences does not go through two texts that are put together, since a sequence could come
about where they meet. So the parts of a coloured report are related to those of the plain one by a
relation that does: the coloured text is the plain one with sequences put in between its characters,
of which none is an escape character.
-/

namespace CodeReview

/-- The texts of a file result that a report may show. -/
def FileResult.texts (r : FileResult) : List Text :=
  r.file :: r.issues.flatMap Issue.shown

def Outcome.texts : Outcome → List Text
  | .file r => r.texts
  | .review r => r.byType.names ++ r.files.flatMap FileResult.texts

namespace Report

/-! ## Texts with sequences in between -/

/-- The character that starts every sequence. -/
def escape : Char := '\x1b'

namespace Color

/-- The sequences that switch a colour on, or all colours off. -/
def sequences : List Text :=
  reset :: [bold, dim, red, green, yellow, blue, magenta, cyan, white].map code

/-- A text without any sequence. -/
def uncolored (t : Text) : Text :=
  sequences.foldl (fun t s => Text.replace t s []) t

end Color

/-- A text, and the same text with some sequences put in. -/
inductive Painted (codes : List Text) : Text → Text → Prop
  | nil : Painted codes [] []
  | char {c : Char} {p q : Text} (hc : c ≠ escape) (h : Painted codes p q) :
    Painted codes (c :: p) (c :: q)
  | code {s p q : Text} (hs : s ∈ codes) (h : Painted codes p q) : Painted codes p (s ++ q)

namespace Painted

variable {codes : List Text} {p q p' q' : Text}

theorem append (h : Painted codes p q) (h' : Painted codes p' q') :
    Painted codes (p ++ p') (q ++ q') := by
  induction h with
  | nil => exact h'
  | char hc _ ih => exact .char hc ih
  | code hs _ ih =>
    rw [List.append_assoc]
    exact .code hs ih

theorem refl {t : Text} (h : escape ∉ t) : Painted codes t t := by
  induction t with
  | nil => exact .nil
  | cons c t ih =>
    rw [List.mem_cons, not_or] at h
    exact .char (Ne.symm h.1) (ih h.2)

theorem not_mem (h : Painted codes p q) : escape ∉ p := by
  induction h with
  | nil => exact List.not_mem_nil
  | char hc _ ih => exact List.not_mem_cons_of_ne_of_not_mem (Ne.symm hc) ih
  | code _ _ ih => exact ih

end Painted

/-! ## Deleting the sequences -/

/-- A sequence starts with an escape character, which does not come again in it. -/
theorem exists_of_mem_sequences {s : Text} (h : s ∈ Color.sequences) :
    ∃ rest, s = escape :: rest ∧ escape ∉ rest := by
  have hall : (Color.sequences.all fun s => s.head? == some escape && !s.tail.contains escape)
      = true := by
    decide +kernel
  have hs := List.all_eq_true.mp hall s h
  cases s with
  | nil => exact nomatch hs
  | cons c rest => exact ⟨rest, by simpa using hs⟩

/-- No sequence starts with another one. -/
theorem eq_of_sequence_isPrefix {s s' : Text} (h : s ∈ Color.sequences)
    (h' : s' ∈ Color.sequences) (hle : s <+: s') : s = s' := by
  have hall : (Color.sequences.all fun s => Color.sequences.all fun s' =>
      !s.isPrefixOf s' || s == s') = true := by
    decide +kernel
  have hs := List.all_eq_true.mp (List.all_eq_true.mp hall s h) s' h'
  rw [List.isPrefixOf_iff_prefix.mpr hle] at hs
  simpa using hs

theorem replace_append_of_not_mem {s t : Text} (hs : s ∈ Color.sequences) (h : escape ∉ t)
    (u : Text) : Text.replace (t ++ u) s [] = t ++ Text.replace u s [] := by
  obtain ⟨rest, rfl, -⟩ := exists_of_mem_sequences hs
  induction t with
  | nil => rfl
  | cons c t ih =>
    rw [List.mem_cons, not_or] at h
    rw [List.cons_append, Text.replace_cons, ih h.2, List.cons_append]
    intro hle
    exact h.1 (List.cons_prefix_cons.mp hle).1

theorem replace_append_of_ne {s s' : Text} (hs : s ∈ Color.sequences) (hs' : s' ∈ Color.sequences)
    (hne : s ≠ s') (u : Text) : Text.replace (s' ++ u) s [] = s' ++ Text.replace u s [] := by
  have hnot : ¬ s <+: s' ++ u := by
    intro hle
    rcases List.prefix_or_prefix_of_prefix hle (List.prefix_append s' u) with h | h
    · exact hne (eq_of_sequence_isPrefix hs hs' h)
    · exact hne (eq_of_sequence_isPrefix hs' hs h).symm
  obtain ⟨rest, rfl, hrest⟩ := exists_of_mem_sequences hs'
  rw [List.cons_append] at hnot ⊢
  rw [Text.replace_cons _ hnot, replace_append_of_not_mem hs hrest, List.cons_append]

/-- Deleting one sequence takes it out and leaves the others. -/
theorem Painted.replace {s : Text} {codes : List Text} {p q : Text}
    (hcodes : ∀ c ∈ s :: codes, c ∈ Color.sequences) (h : Painted (s :: codes) p q) :
    Painted codes p (Text.replace q s []) := by
  have hs := hcodes s List.mem_cons_self
  induction h with
  | nil => exact .nil
  | @char c p q hc _ ih =>
    have hpass := replace_append_of_not_mem hs (t := [c]) (by simpa using Ne.symm hc) q
    rw [List.singleton_append] at hpass
    rw [hpass]
    exact .char hc ih
  | @code s' p q hs' _ ih =>
    by_cases heq : s = s'
    · obtain ⟨rest, hrest, -⟩ := exists_of_mem_sequences hs
      rw [← heq, Text.replace_append (by simp [hrest])]
      exact ih
    · rw [replace_append_of_ne hs (hcodes s' hs') heq]
      exact .code ((List.mem_cons.mp hs').resolve_left (Ne.symm heq)) ih

theorem Painted.foldl_replace {codes : List Text} {p q : Text}
    (hcodes : ∀ c ∈ codes, c ∈ Color.sequences) (h : Painted codes p q) :
    codes.foldl (fun t s => Text.replace t s []) q = p := by
  induction codes generalizing q with
  | nil =>
    clear hcodes
    induction h with
    | nil => rfl
    | char _ _ ih => exact congrArg _ ih
    | code hs => exact absurd hs List.not_mem_nil
  | cons s codes ih =>
    exact ih (fun c hc => hcodes c (List.mem_cons_of_mem s hc)) (h.replace hcodes)

theorem Painted.uncolored_eq {p q : Text} (h : Painted Color.sequences p q) :
    Color.uncolored q = p :=
  h.foldl_replace fun _ hc => hc

/-! ## Parts of reports -/

section

variable {codes : List Text}

theorem Painted.literal {l : Text} (h : List.contains l escape = false) :
    Painted codes (String.ofList l).toList (String.ofList l).toList := by
  rw [String.toList_ofList]
  exact .refl (by simpa using h)

theorem Painted.numeral {t : Text} (h : ∀ c ∈ t, isNumeral c = true) : Painted codes t t :=
  .refl fun hin => absurd (h _ hin) (by decide)

theorem Painted.ofNat (n : Nat) : Painted codes (Text.ofNat n) (Text.ofNat n) :=
  .numeral (isNumeral_ofNat n)

theorem Painted.ofInt (n : Int) : Painted codes (Text.ofInt n) (Text.ofInt n) :=
  .numeral (isNumeral_ofInt n)

theorem Painted.number (n : Number) : Painted codes n.toText n.toText :=
  .numeral (isNumeral_number n)

theorem Painted.repeated (n : Nat) {c : Char} (h : (c == escape) = false) :
    Painted codes (Text.repeated n c) (Text.repeated n c) :=
  .refl fun hin => beq_eq_false_iff_ne.mp h (List.eq_of_mem_replicate hin).symm

theorem Painted.unlines {ls ms : List Text} (h : List.Forall₂ (Painted codes) ls ms) :
    Painted codes (Text.unlines ls) (Text.unlines ms) := by
  have hrest {ls ms : List Text} (h : List.Forall₂ (Painted codes) ls ms) :
      Painted codes (ls.flatMap (['\n'] ++ ·)) (ms.flatMap (['\n'] ++ ·)) := by
    induction h with
    | nil => exact .nil
    | cons hl _ ih => exact (Painted.char (by decide) hl).append ih
  cases h with
  | nil => exact .nil
  | cons hl h =>
    cases h with
    | nil => exact hl
    | cons hm h => exact hl.append (hrest (.cons hm h))

end

namespace Terminal

/-- A text of a report without and with colours. -/
abbrev Colored : Text → Text → Prop :=
  Painted Color.sequences

/-- The lines of one part of a report, without and with colours. -/
abbrev ColoredLines : List Text → List Text → Prop :=
  List.Forall₂ Colored

/-- Both give something, and what they give is related. -/
def Agree {α : Type} (R : α → α → Prop) (x y : Except Failure α) : Prop :=
  ∃ a b, x = .ok a ∧ y = .ok b ∧ R a b

theorem Agree.bind {α β : Type} {R : α → α → Prop} {S : β → β → Prop} {x y : Except Failure α}
    {f g : α → Except Failure β} (h : Agree R x y) (hfg : ∀ a b, R a b → Agree S (f a) (g b)) :
    Agree S (x >>= f) (y >>= g) := by
  obtain ⟨a, b, rfl, rfl, hab⟩ := h
  exact hfg a b hab

theorem Agree.pure {α : Type} {R : α → α → Prop} {a b : α} (h : R a b) :
    Agree R (Pure.pure a) (Pure.pure b) :=
  ⟨a, b, rfl, rfl, h⟩

theorem Agree.mapM {α β : Type} {R : β → β → Prop} {f g : α → Except Failure β} {l : List α}
    (h : ∀ a ∈ l, Agree R (f a) (g a)) : Agree (List.Forall₂ R) (l.mapM f) (l.mapM g) := by
  induction l with
  | nil => exact ⟨[], [], rfl, rfl, .nil⟩
  | cons a l ih =>
    obtain ⟨b, c, hb, hc, hbc⟩ := h a List.mem_cons_self
    obtain ⟨bs, cs, hbs, hcs, hall⟩ := ih fun x hx => h x (List.mem_cons_of_mem a hx)
    exact ⟨b :: bs, c :: cs, Steps.mapM_cons_ok hb hbs, Steps.mapM_cons_ok hc hcs, .cons hbc hall⟩

def bare (icons : Bool) : Terminal where
  colors := false
  icons := icons

def colored (icons : Bool) : Terminal where
  colors := true
  icons := icons

variable {icons : Bool}

theorem painted_paint (color : Color) {p q : Text} (h : Colored p q) :
    Colored ((bare icons).paint color p) ((colored icons).paint color q) := by
  have hcode : color.code ∈ Color.sequences :=
    List.mem_cons_of_mem _ (List.mem_map_of_mem (by cases color <;> simp))
  have hpainted := Painted.code hcode (h.append (.code List.mem_cons_self .nil))
  rw [List.append_nil, List.append_nil, ← List.append_assoc] at hpainted
  exact hpainted

theorem agree_icon (s : Severity) :
    Agree Colored ((bare icons).icon (.level s)) ((colored icons).icon (.level s)) := by
  cases icons with
  | true => cases s <;> exact ⟨_, _, rfl, rfl, (.literal (by rfl))⟩
  | false => cases s <;> exact ⟨_, _, rfl, rfl, .refl (by decide)⟩

theorem painted_level (s : Severity) :
    Colored (s.toText.map Char.toUpper) (s.toText.map Char.toUpper) :=
  .refl (by cases s <;> decide)

theorem painted_heading {p q : Text} (h : Colored p q) :
    ColoredLines ((bare icons).heading p) ((colored icons).heading q) :=
  .cons (painted_paint _ h) (.cons (painted_paint _ (.repeated _ (by rfl))) .nil)

section

variable {i : Issue} (hrated : i.Rated) (hshown : ∀ text ∈ i.shown, escape ∉ text)

include hrated hshown

theorem agree_brief : Agree ColoredLines ((bare icons).brief i) ((colored icons).brief i) := by
  obtain ⟨s, hs⟩ := hrated
  have hmessage : escape ∉ i.message.take 50 := fun hin =>
    hshown i.message (by simp [Issue.shown]) (List.mem_of_mem_take hin)
  have hfile : escape ∉ i.file := hshown _ (by simp [Issue.shown])
  unfold brief
  rw [hs]
  refine (agree_icon s).bind fun icon icon' hicon => .pure (.cons ?_ (.cons ?_ .nil))
  · exact (Painted.literal (by rfl)).append hicon |>.append (.literal (by rfl))
      |>.append (painted_paint _ (.refl hmessage))
  · exact painted_paint _ ((Painted.literal (by rfl)).append (.refl hfile)
      |>.append (.literal (by rfl)) |>.append (.ofInt _))

omit hrated hshown in
theorem painted_optional (color : Color) {lead text : Text} (hlead : Colored lead lead)
    (htext : escape ∉ text) :
    ColoredLines ((bare icons).optional color lead text)
      ((colored icons).optional color lead text) := by
  unfold optional
  split
  · exact .nil
  · refine .cons (painted_paint _ ?_) .nil
    exact (Painted.literal (by rfl)).append hlead |>.append (.refl htext)

theorem agree_full : Agree ColoredLines ((bare icons).full i) ((colored icons).full i) := by
  obtain ⟨s, hs⟩ := hrated
  have hmessage : escape ∉ i.message := hshown _ (by simp [Issue.shown])
  have hfile : escape ∉ i.file := hshown _ (by simp [Issue.shown])
  have hrule : escape ∉ i.rule := hshown _ (by simp [Issue.shown])
  have hadvice : escape ∉ i.suggestion := hshown _ (by simp [Issue.shown])
  have hcode : escape ∉ i.code := hshown _ (by simp [Issue.shown])
  have hpreview : escape ∉ preview i.code := by
    unfold preview
    split
    · exact List.not_mem_append (fun hin => hcode (List.mem_of_mem_take hin)) (by decide)
    · exact hcode
  have hname : shout i = .ok (s.toText.map Char.toUpper) := by
    rw [shout, hs]
    rfl
  unfold full
  rw [hs, hname]
  refine (agree_icon s).bind fun icon icon' hicon => .pure (List.rel_flatten
    (.cons (.cons .nil (.cons ?_ (.cons ?_ .nil))) (.cons ?_ (.cons ?_ (.cons ?_ .nil)))))
  · exact (Painted.literal (by rfl)).append hicon |>.append (.literal (by rfl))
      |>.append (painted_paint _ (painted_level _)) |>.append (.literal (by rfl))
      |>.append (.refl hmessage)
  · exact painted_paint _ ((Painted.literal (by rfl)).append (.refl hfile)
      |>.append (.literal (by rfl)) |>.append (.ofInt _))
  · exact painted_optional _ (.literal (by rfl)) hpreview
  · exact painted_optional _ (.literal (by rfl)) hadvice
  · exact painted_optional _ (.literal (by rfl)) hrule

end

theorem painted_metrics (m : Metrics) :
    ColoredLines ((bare icons).metrics m) ((colored icons).metrics m) := by
  unfold metrics
  refine List.rel_flatten (.cons (.cons .nil (.cons ?_ (.cons ?_ (.cons ?_ (.cons ?_ .nil)))))
    (.cons ?_ .nil))
  · exact painted_paint _ (.literal (by rfl))
  · exact (Painted.literal (by rfl)).append (.number _)
  · exact (Painted.literal (by rfl)).append (.number _)
  · exact (Painted.literal (by rfl)).append (.number _)
  · split
    · exact .cons ((Painted.literal (by rfl)).append (.number _)) .nil
    · exact .nil

/-! ## Whole reports -/

theorem painted_header {file : Text} (h : escape ∉ file) :
    ColoredLines ((bare icons).header file) ((colored icons).header file) := by
  have hrule : Colored ((bare icons).paint .dim (Text.repeated 60 '='))
      ((colored icons).paint .dim (Text.repeated 60 '=')) :=
    painted_paint _ (.repeated _ (by rfl))
  exact .cons hrule (.cons (painted_paint _ ((Painted.literal (by rfl)).append (.refl h)))
    (.cons hrule .nil))

theorem agree_found {issues : List Issue} (hrated : ∀ i ∈ issues, i.Rated)
    (hshown : ∀ i ∈ issues, ∀ text ∈ i.shown, escape ∉ text) :
    Agree ColoredLines ((bare icons).found issues) ((colored icons).found issues) := by
  unfold found
  split
  · exact .pure (.cons (painted_paint _ (.literal (by rfl))) .nil)
  · refine (Agree.mapM fun i hi => agree_full (hrated i hi) (hshown i hi)).bind
      fun entries entries' hentries => .pure (.cons ?_ (.cons .nil (List.rel_flatten hentries)))
    exact (Painted.literal (by rfl)).append (.ofNat _) |>.append (.literal (by rfl))

theorem agree_file {r : FileResult} (hrated : r.Rated) (htexts : ∀ text ∈ r.texts, escape ∉ text) :
    Agree Colored ((bare icons).file r) ((colored icons).file r) := by
  have hheader : ColoredLines ((bare icons).header r.file) ((colored icons).header r.file) :=
    painted_header (htexts _ List.mem_cons_self)
  have hshown : ∀ i ∈ r.issues, ∀ text ∈ i.shown, escape ∉ text := fun i hi text ht =>
    htexts text (List.mem_cons_of_mem _ (List.mem_flatMap.mpr ⟨i, hi, ht⟩))
  have hmetrics : ColoredLines ((r.metrics.map (bare icons).metrics).getD [])
      ((r.metrics.map (colored icons).metrics).getD []) := by
    cases r.metrics with
    | none => exact .nil
    | some m => exact painted_metrics m
  unfold file
  split
  · refine .pure (.unlines (List.rel_flatten (.cons hheader (.cons (.cons ?_ .nil) .nil))))
    exact painted_paint _ (.literal (by rfl))
  · exact (agree_found hrated hshown).bind fun found found' hfound => .pure (.unlines
      (List.rel_flatten (.cons hheader (.cons hfound (.cons hmetrics .nil)))))

theorem painted_summary (r : ReviewResult) :
    ColoredLines ((bare icons).summary r) ((colored icons).summary r) := by
  have hgrade : escape ∉ r.grade.letter := by
    cases r.grade <;> decide
  unfold summary
  refine List.rel_flatten (.cons (painted_heading (.literal (by rfl)))
    (.cons (.cons ?_ (.cons ?_ .nil)) (.cons ?_ (.cons (.cons .nil (.cons ?_ .nil)) .nil))))
  · exact (Painted.literal (by rfl)).append (.ofNat _)
  · exact (Painted.literal (by rfl)).append (.ofInt _)
  · cases r.metrics with
    | none => exact .nil
    | some m => exact .cons ((Painted.literal (by rfl)).append (.number _)) .nil
  · have hscore : Colored (Text.ofInt r.score ++ "/100") (Text.ofInt r.score ++ "/100") :=
      (Painted.ofInt _).append (.literal (by rfl))
    exact (Painted.literal (by rfl)).append (painted_paint _ hscore) |>.append (.literal (by rfl))
      |>.append (painted_paint _ (.refl hgrade)) |>.append (.literal (by rfl))

theorem coloredLines_map {α : Type} {f g : α → Text} {l : List α}
    (h : ∀ a ∈ l, Colored (f a) (g a)) : ColoredLines (l.map f) (l.map g) :=
  List.forall₂_map_left_iff.mpr (List.forall₂_map_right_iff.mpr (List.forall₂_same.mpr h))

theorem agree_levelRow (e : Severity × Int) :
    Agree Colored ((bare icons).levelRow e) ((colored icons).levelRow e) := by
  refine (agree_icon e.1).bind fun icon icon' hicon => .pure ?_
  exact (Painted.literal (by rfl)).append hicon |>.append (.literal (by rfl))
    |>.append (painted_paint _ (painted_level _)) |>.append (.literal (by rfl)) |>.append (.ofInt _)

theorem agree_severities (r : ReviewResult) :
    Agree ColoredLines ((bare icons).severities r) ((colored icons).severities r) := by
  unfold severities
  split
  · exact .pure .nil
  · refine (Agree.mapM fun e _ => agree_levelRow e).bind fun rows rows' hrows => .pure ?_
    exact .cons .nil (List.rel_append (painted_heading (.literal (by rfl))) hrows)

theorem painted_types {r : ReviewResult} (hnames : ∀ n ∈ r.byType.names, escape ∉ n) :
    ColoredLines ((bare icons).types r) ((colored icons).types r) := by
  unfold types
  split
  · exact .nil
  · refine .cons .nil (List.rel_append (painted_heading (.literal (by rfl)))
      (coloredLines_map fun e he => ?_))
    have hin : e ∈ r.byType := (List.mergeSort_perm _ _).subset (List.mem_of_mem_take he)
    exact (Painted.literal (by rfl)).append (.refl (hnames _ (List.mem_map_of_mem hin)))
      |>.append (.literal (by rfl)) |>.append (.ofInt _)

theorem painted_files {r : ReviewResult} (hfiles : ∀ f ∈ r.files, escape ∉ f.file) :
    ColoredLines ((bare icons).files r) ((colored icons).files r) := by
  unfold files
  dsimp only
  split
  · exact .nil
  · refine List.rel_flatten (.cons (.cons .nil .nil) (.cons (painted_heading (.literal (by rfl)))
      (.cons ?_ (.cons ?_ .nil))))
    · refine coloredLines_map fun f hf => ?_
      have hin : f ∈ r.files := List.mem_of_mem_filter (List.mem_of_mem_take hf)
      exact (Painted.literal (by rfl)).append (.refl (hfiles f hin)) |>.append (.literal (by rfl))
        |>.append (.ofNat _) |>.append (.literal (by rfl))
    · split
      · refine .cons ?_ .nil
        exact (Painted.literal (by rfl)).append (.ofNat _) |>.append (.literal (by rfl))
      · exact .nil

theorem agree_top {r : ReviewResult} (hrated : ∀ i ∈ r.issues, i.Rated)
    (hshown : ∀ i ∈ r.issues, ∀ text ∈ i.shown, escape ∉ text) :
    Agree ColoredLines ((bare icons).top r) ((colored icons).top r) := by
  have hin : ∀ i ∈ topIssues r, i ∈ r.issues := fun i hi =>
    (List.mergeSort_perm _ _).subset (List.mem_of_mem_take hi)
  unfold top
  split
  · exact .pure .nil
  · refine (Agree.mapM fun i hi => agree_brief (hrated i (hin i hi)) (hshown i (hin i hi))).bind
      fun entries entries' hentries => .pure (List.rel_flatten (.cons (.cons .nil .nil)
        (.cons (painted_heading (.literal (by rfl)))
          (.cons (List.rel_flatten hentries) (.cons ?_ .nil)))))
    split
    · exact .nil
    · exact .cons ((Painted.literal (by rfl)).append (.ofNat _) |>.append (.literal (by rfl))) .nil

theorem painted_banner : ColoredLines (bare icons).banner (colored icons).banner := by
  have hwide : Colored (Text.repeated 58 '═') (Text.repeated 58 '═') :=
    .repeated _ (by rfl)
  have hblanks : Colored (Text.repeated 16 ' ') (Text.repeated 16 ' ') :=
    .repeated _ (by rfl)
  refine .cons .nil (.cons (painted_paint _ ?_) (.cons (painted_paint _ ?_)
    (.cons (painted_paint _ ?_) (.cons .nil .nil))))
  · exact (Painted.literal (by rfl)).append hwide |>.append (.literal (by rfl))
  · exact (Painted.literal (by rfl)).append hblanks |>.append (.literal (by rfl)) |>.append hblanks
      |>.append (.literal (by rfl))
  · exact (Painted.literal (by rfl)).append hwide |>.append (.literal (by rfl))

theorem painted_closing : ColoredLines (bare icons).closing (colored icons).closing :=
  .cons .nil (.cons (painted_paint _ (.repeated _ (by rfl)))
    (.cons (painted_paint _ (.literal (by rfl))) (.cons .nil .nil)))

theorem agree_review {r : ReviewResult} (hrated : ∀ f ∈ r.files, f.Rated)
    (htexts : ∀ text ∈ (Outcome.review r).texts, escape ∉ text) :
    Agree Colored ((bare icons).review r) ((colored icons).review r) := by
  obtain ⟨hnames, hfiles⟩ := List.forall_mem_append.mp htexts
  have hfile : ∀ f ∈ r.files, escape ∉ f.file := fun f hf =>
    hfiles _ (List.mem_flatMap.mpr ⟨f, hf, List.mem_cons_self⟩)
  have hshown : ∀ i ∈ r.issues, ∀ text ∈ i.shown, escape ∉ text := by
    intro i hi text ht
    obtain ⟨f, hf, hin⟩ := List.mem_flatMap.mp hi
    refine hfiles text (List.mem_flatMap.mpr ⟨f, hf, List.mem_cons_of_mem _ ?_⟩)
    exact List.mem_flatMap.mpr ⟨i, hin, ht⟩
  refine (agree_severities r).bind fun severities severities' hseverities => ?_
  refine (agree_top (ReviewResult.rated_of_mem_issues hrated) hshown).bind fun top top' htop => ?_
  exact .pure (.unlines (List.rel_flatten (.cons painted_banner (.cons (painted_summary r)
    (.cons hseverities (.cons (painted_types hnames) (.cons (painted_files hfile) (.cons htop
      (.cons painted_closing .nil)))))))))

/-- If no text of a result has an escape character, the report without colours has none either, and
it is the report with colours after all sequences are deleted. -/
theorem format_uncolored (icons : Bool) {o : Outcome} (hrated : o.Rated)
    (htexts : ∀ text ∈ o.texts, escape ∉ text) :
    ∃ plain painted, format { colors := false, icons := icons } o = .ok plain
      ∧ format { colors := true, icons := icons } o = .ok painted
      ∧ escape ∉ plain ∧ Color.uncolored painted = plain := by
  have hagree : Agree Colored ((bare icons).format o)
      ((colored icons).format o) := by
    cases o with
    | file r => exact agree_file hrated htexts
    | review r => exact agree_review hrated htexts
  obtain ⟨plain, painted, hplain, hpainted, h⟩ := hagree
  exact ⟨plain, painted, hplain, hpainted, h.not_mem, h.uncolored_eq⟩

/-- A review whose messages have what is left of a sequence without its escape character. -/
def bracketed : Outcome :=
  Page.markedReview "long_line" "[1m.py" "[0m and more than fifty characters of a message after it"

theorem format_uncolored_bracketed :
    bracketed.Rated ∧ (∀ text ∈ bracketed.texts, escape ∉ text)
      ∧ ∃ plain painted, format { colors := false } bracketed = .ok plain
        ∧ format {} bracketed = .ok painted
        ∧ escape ∉ plain ∧ Color.uncolored painted = plain := by
  have hrated : bracketed.Rated := Page.markedReview_rated _ _ _
  have hall : (bracketed.texts.all fun text => decide (escape ∉ text)) = true := by
    decide +kernel
  have htexts : ∀ text ∈ bracketed.texts, escape ∉ text := fun text ht =>
    of_decide_eq_true (List.all_eq_true.mp hall text ht)
  exact ⟨hrated, htexts, format_uncolored true hrated htexts⟩

end Terminal

end Report

end CodeReview
