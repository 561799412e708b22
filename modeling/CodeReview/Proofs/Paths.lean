import CodeReview.Files.Glob

/-!
# Paths and their texts

Whatever a text is read as is a tidy path: its root is one of three, and none of its names is empty,
is a single dot or has a slash in it. Writing a tidy path and reading it again gives the path.

The text of a path below another one starts with the text of that one. A text without a slash, but
perhaps one at its end, cannot stand across the place where the two meet.
-/

namespace CodeReview

/-! ## Texts -/

namespace Text

theorem contains_iff_isInfix {t p : Text} : contains t p = true ↔ p <:+: t := by
  induction t with
  | nil => simp [contains]
  | cons c cs ih =>
    rw [contains, Bool.or_eq_true, List.isPrefixOf_iff_prefix, ih, List.infix_cons_iff]

theorem splitAux_eq_splitOn (c : Char) (acc t : Text) :
    splitAux [c] 0 acc t = (t.splitOn c).modifyHead (acc.reverse ++ ·) := by
  induction t generalizing acc with
  | nil => simp [splitAux]
  | cons d ds ih =>
    have hsplit : (d :: ds).splitOn c
        = if d == c then [] :: ds.splitOn c else (ds.splitOn c).modifyHead (d :: ·) := by
      simp only [List.splitOn_eq_splitOnP, List.splitOnP_cons_eq_if_modifyHead]
    rw [splitAux, hsplit]
    by_cases h : d = c
    · subst h
      have hrest := ih []
      have hnil : (ds.splitOn d).modifyHead (([] : Text).reverse ++ ·) = ds.splitOn d := by
        cases ds.splitOn d <;> rfl
      simp only [List.length_singleton, Nat.sub_self, hrest, hnil]
      simp
    · have hpre : [c].isPrefixOf (d :: ds) = false := by
        simp [List.isPrefixOf, Ne.symm h]
      rw [hpre, if_neg (by simp), ih, if_neg (by simpa using h)]
      cases ds.splitOn c <;> simp

/-- Cutting at a character. -/
theorem split_eq_splitOn (c : Char) (t : Text) : split t [c] = t.splitOn c := by
  rw [split, splitAux_eq_splitOn]
  cases t.splitOn c <;> rfl

theorem join_cons_cons (sep t u : Text) (ts : List Text) :
    join sep (t :: u :: ts) = t ++ sep ++ join sep (u :: ts) := by
  cases ts <;> simp [join]

theorem join_eq_intercalate (sep : Text) (ts : List Text) : join sep ts = sep.intercalate ts := by
  induction ts with
  | nil => rfl
  | cons t ts ih =>
    cases ts with
    | nil => rw [List.intercalate_singleton]; rfl
    | cons u us => rw [join_cons_cons, ih, List.intercalate_cons_cons]

theorem join_append (sep : Text) {ts us : List Text} (ht : ts ≠ []) (hu : us ≠ []) :
    join sep (ts ++ us) = join sep ts ++ sep ++ join sep us := by
  induction ts with
  | nil => exact absurd rfl ht
  | cons t ts ih =>
    cases ts with
    | nil =>
      obtain ⟨u, us, rfl⟩ := List.exists_cons_of_ne_nil hu
      exact join_cons_cons sep t u us
    | cons t' ts =>
      simp only [List.cons_append, join_cons_cons] at ih ⊢
      rw [ih (by simp)]
      simp only [List.append_assoc]

theorem split_cons_self (c : Char) (t : Text) : split (c :: t) [c] = [] :: split t [c] := by
  rw [split_eq_splitOn, split_eq_splitOn, List.splitOn_eq_splitOnP,
    List.splitOnP_cons_eq_if_modifyHead, if_pos (beq_self_eq_true c), List.splitOn_eq_splitOnP]

theorem split_join {c : Char} {ts : List Text} (hne : ts ≠ []) (h : ∀ t ∈ ts, c ∉ t) :
    split (join [c] ts) [c] = ts := by
  rw [split_eq_splitOn, join_eq_intercalate]
  exact List.splitOn_intercalate c h hne

theorem not_mem_of_mem_splitAux {c : Char} {acc t piece : Text} (hacc : c ∉ acc)
    (h : piece ∈ splitAux [c] 0 acc t) : c ∉ piece := by
  induction t generalizing acc with
  | nil =>
    rw [splitAux, List.mem_singleton] at h
    simpa [h] using hacc
  | cons d ds ih =>
    rw [splitAux] at h
    by_cases hd : d = c
    · subst hd
      rw [if_pos (by simp [List.isPrefixOf])] at h
      rcases List.mem_cons.mp h with rfl | hin
      · simpa using hacc
      · exact ih List.not_mem_nil hin
    · rw [if_neg (by simp [List.isPrefixOf, Ne.symm hd])] at h
      exact ih (by simp [hacc, Ne.symm hd]) h

/-- A text with no slash but perhaps at its end stands on one side of any other slash. -/
theorem contains_append {lead rest pattern : Text}
    (hlead : lead = [] ∨ lead.getLast? = some '/') (hpattern : '/' ∉ pattern.dropLast) :
    contains (lead ++ rest) pattern = (contains lead pattern || contains rest pattern) := by
  rw [Bool.eq_iff_iff, Bool.or_eq_true]
  simp only [contains_iff_isInfix]
  constructor
  · intro h
    rcases List.infix_append_iff.mp h with hin | hin | ⟨before, after, rfl, hbefore, hafter⟩
    · exact .inl hin
    · exact .inr hin
    -- It stands across the two, with a part in each, or it has no part in one of them.
    by_cases hnone : before = []
    · subst hnone
      exact .inr hafter.isInfix
    by_cases hall : after = []
    · subst hall
      rw [List.append_nil]
      exact .inl hbefore.isInfix
    have hslash : '/' ∈ before := by
      rcases hlead with rfl | hlast
      · exact absurd (List.suffix_nil.mp hbefore) hnone
      · obtain ⟨start, rfl⟩ := hbefore
        rw [List.getLast?_append, List.getLast?_eq_some_getLast hnone, Option.some_or,
          Option.some_inj] at hlast
        exact hlast ▸ List.getLast_mem hnone
    rw [List.dropLast_append_of_ne_nil hall] at hpattern
    exact absurd (List.mem_append_left _ hslash) hpattern
  · rintro (h | h)
    · exact h.trans (List.prefix_append lead rest).isInfix
    · exact h.trans (List.suffix_append lead rest).isInfix

end Text

/-! ## Tidy paths -/

namespace Path

/-- What can be a name in a path. -/
structure IsName (n : Text) : Prop where
  nonempty : n ≠ []
  noDot : n ≠ ['.']
  noSlash : '/' ∉ n

structure Tidy (p : Path) : Prop where
  root : p.root = [] ∨ p.root = ['/'] ∨ p.root = ['/', '/']
  names : ∀ n ∈ p.names, IsName n

theorem tidy_ofText (t : Text) : (ofText t).Tidy where
  root := by
    unfold ofText rootOf
    dsimp only
    split
    · exact .inl rfl
    · exact .inr (.inr rfl)
    · exact .inr (.inl rfl)
  names := by
    intro n hn
    obtain ⟨hin, hkept⟩ := List.mem_filter.mp hn
    have hne : n ≠ [] ∧ n ≠ ['.'] := by simpa using hkept
    exact ⟨hne.1, hne.2, Text.not_mem_of_mem_splitAux List.not_mem_nil hin⟩

/-- The names that are read off a text. -/
def namesOf (t : Text) : List Text :=
  (Text.split t ['/']).filter fun n => !n.isEmpty && n ≠ ['.']

theorem namesOf_cons_slash (t : Text) : namesOf ('/' :: t) = namesOf t := by
  rw [namesOf, Text.split_cons_self]
  rfl

theorem namesOf_join {names : List Text} (h : ∀ n ∈ names, IsName n) :
    namesOf (Text.join ['/'] names) = names := by
  by_cases hne : names = []
  · subst hne
    rfl
  · rw [namesOf, Text.split_join hne fun n hn => (h n hn).noSlash, List.filter_eq_self]
    intro n hn
    have hname := h n hn
    simp [hname.nonempty, hname.noDot]

theorem takeWhile_slash_join {names : List Text} (h : ∀ n ∈ names, IsName n) :
    (Text.join ['/'] names).takeWhile (· = '/') = [] := by
  cases names with
  | nil => rfl
  | cons n ns =>
    have hname := h n List.mem_cons_self
    obtain ⟨c, cs, rfl⟩ := List.exists_cons_of_ne_nil hname.nonempty
    have hc : c ≠ '/' := fun heq => hname.noSlash (heq ▸ List.mem_cons_self)
    have hhead : ∃ rest, Text.join ['/'] ((c :: cs) :: ns) = c :: rest := by
      cases ns with
      | nil => exact ⟨cs, rfl⟩
      | cons m ms => exact ⟨_, rfl⟩
    obtain ⟨rest, hrest⟩ := hhead
    rw [hrest, List.takeWhile_cons_of_neg (by simpa using hc)]

/-- Writing a tidy path and reading it gives the path. -/
theorem ofText_toText {p : Path} (h : p.Tidy) : ofText p.toText = p := by
  obtain ⟨root, names⟩ := p
  have hnames : namesOf (Text.join ['/'] names) = names := namesOf_join h.names
  have hstart := takeWhile_slash_join h.names
  have hread : ∀ t, ofText t = ⟨rootOf t, namesOf t⟩ := fun _ => rfl
  rw [hread]
  rcases h.root with hroot | hroot | hroot
  · obtain rfl : root = [] := hroot
    cases names with
    | nil => rfl
    | cons n ns =>
      change Path.mk (rootOf (Text.join ['/'] (n :: ns))) (namesOf (Text.join ['/'] (n :: ns))) = _
      rw [hnames, rootOf, hstart]
      rfl
  · obtain rfl : root = ['/'] := hroot
    change Path.mk (rootOf ('/' :: Text.join ['/'] names))
      (namesOf ('/' :: Text.join ['/'] names)) = _
    rw [namesOf_cons_slash, hnames, rootOf, List.takeWhile_cons_of_pos (by simp), hstart]
    rfl
  · obtain rfl : root = ['/', '/'] := hroot
    change Path.mk (rootOf ('/' :: '/' :: Text.join ['/'] names))
      (namesOf ('/' :: '/' :: Text.join ['/'] names)) = _
    rw [namesOf_cons_slash, namesOf_cons_slash, hnames, rootOf,
      List.takeWhile_cons_of_pos (by simp), List.takeWhile_cons_of_pos (by simp), hstart]
    rfl

/-! ## Paths below a path -/

/-- The path that some more names lead to. -/
def under (p : Path) (rel : List Text) : Path :=
  { p with names := p.names ++ rel }

/-- The path that names alone make. -/
def relative (rel : List Text) : Path :=
  { root := [], names := rel }

/-- What the texts of all paths below a path start with. -/
def lead (p : Path) : Text :=
  if p.names.isEmpty then p.root else p.toText ++ ['/']

theorem under_nil (p : Path) : p.under [] = p := by
  rw [under, List.append_nil]

theorem child_under (p : Path) (rel : List Text) (n : Text) :
    (p.under rel).child n = p.under (rel ++ [n]) := by
  rw [child, under, under, List.append_assoc]

theorem toText_under (p : Path) {rel : List Text} (h : rel ≠ []) :
    (p.under rel).toText = p.lead ++ (relative rel).toText := by
  have hrel : (relative rel).toText = Text.join ['/'] rel := by
    simp [toText, relative, h]
  have hunder : (p.under rel).toText = p.root ++ Text.join ['/'] (p.names ++ rel) := by
    simp [toText, under, h]
  rw [hrel, hunder, lead]
  by_cases hnames : p.names = []
  · simp [hnames]
  · simp [hnames, toText, Text.join_append _ hnames h]

/-- Where more names follow, there is a slash between, unless there is nothing before. -/
theorem lead_slash {p : Path} (h : p.Tidy) : p.lead = [] ∨ p.lead.getLast? = some '/' := by
  unfold lead
  by_cases hnames : p.names.isEmpty = true
  · rw [if_pos hnames]
    rcases h.root with hroot | hroot | hroot <;> simp [hroot]
  · rw [if_neg hnames]
    simp

theorem name_under (p : Path) {rel : List Text} (h : rel ≠ []) :
    (p.under rel).name = (relative rel).name := by
  simp only [name, under, relative, List.getLast?_append, List.getLast?_eq_some_getLast h,
    Option.some_or]

theorem suffix_under (p : Path) {rel : List Text} (h : rel ≠ []) :
    (p.under rel).suffix = (relative rel).suffix := by
  rw [suffix, suffix, name_under p h]

theorem relativeTo?_under (p : Path) (rel : List Text) :
    (p.under rel).relativeTo? p = some (relative rel) := by
  simp [relativeTo?, under, relative]

/-- A pattern that is one name is for the last name of a path. -/
theorem fits_of_single {p : Path} {pattern n : Text} (h : ofText pattern = relative [n])
    (hnames : p.names ≠ []) : p.fits pattern = .ok (Glob.matchesName n p.name) := by
  obtain ⟨init, last, hsplit⟩ : ∃ init last, p.names = init ++ [last] :=
    ⟨_, _, (List.dropLast_concat_getLast hnames).symm⟩
  have hparts : ∃ before, p.parts = before ++ [last] := by
    unfold parts
    split
    · exact ⟨init, hsplit⟩
    · exact ⟨p.root :: init, by rw [hsplit, List.cons_append]⟩
  obtain ⟨before, hparts⟩ := hparts
  have hname : p.name = last := by
    rw [name, hsplit, List.getLast?_concat, Option.getD_some]
  have hpattern : (relative [n]).parts = [n] := rfl
  unfold fits
  simp only [h, hpattern, hparts, hname]
  simp [relative]

end Path

end CodeReview
