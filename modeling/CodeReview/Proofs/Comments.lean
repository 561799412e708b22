import CodeReview.Proofs.Chunks
import CodeReview.Proofs.Faulty
import CodeReview.Proofs.Stripping.Line

/-!
# Trees of sources without comments

Taking out the comments line by line keeps the tree of a source if every string that goes over
several lines has its lines unchanged. It does not in general: a line in such a string is looked at
as if no string were open, so a `#` in it cuts off the rest of the line, with the closing quotes.
-/

namespace CodeReview.Source

open Token

/-! ## Lines that are closed -/

/-- The lines of a text whose last line is closed with a line feed if it is not empty, or if it is
the only one. -/
def closedLines (first : List Text) (last : Text) : List Text :=
  if last = [] ∧ first ≠ [] then first else first ++ [last]

theorem unlines_concat (first : List Text) (last : Text) :
    Text.unlines (first ++ [last]) = ends first ++ last := by
  induction first with
  | nil => rfl
  | cons l first ih =>
    obtain ⟨l', ls, hcons⟩ := List.exists_cons_of_ne_nil (List.concat_ne_nil last first)
    rw [List.cons_append, ends_cons, List.append_assoc, List.cons_append, ← ih, hcons]
    cases ls with
    | nil => simp [Text.unlines, Text.join]
    | cons l'' ls => simp [Text.unlines, Text.join]

theorem ends_closedLines {first : List Text} {last : Text} (hfree : '\n' ∉ last) :
    ends (closedLines first last)
      = if (Text.unlines (first ++ [last])).getLast? = some '\n' then Text.unlines (first ++ [last])
        else Text.unlines (first ++ [last]) ++ ['\n'] := by
  rw [unlines_concat]
  by_cases hlast : last = []
  · subst hlast
    rw [List.append_nil]
    obtain rfl | ⟨ls, l, rfl⟩ := List.eq_nil_or_concat' first
    · rfl
    · have hend : (ends (ls ++ [l])).getLast? = some '\n' := by
        rw [ends_append, ends_cons]
        show (ends ls ++ (l ++ ['\n'])).getLast? = some '\n'
        rw [← List.append_assoc, List.getLast?_concat]
      rw [closedLines, if_pos ⟨rfl, by simp⟩, if_pos hend]
  · have hend : (ends first ++ last).getLast? ≠ some '\n' := by
      rw [List.getLast?_append]
      obtain ⟨ls, c, rfl⟩ := (List.eq_nil_or_concat' last).resolve_left hlast
      rw [List.getLast?_concat, Option.some_or]
      rintro ⟨⟩
      exact hfree (by simp)
    rw [closedLines, if_neg fun h => hlast h.1, if_neg hend, ends_append, ends_cons]
    simp [ends]

theorem length_closedLines_le (first : List Text) (last : Text) :
    (closedLines first last).length ≤ first.length + 1 := by
  unfold closedLines
  split
  · exact Nat.le_succ _
  · exact Nat.le_of_eq List.length_append

theorem getElem?_closedLines (first : List Text) (last : Text) (i : Nat) :
    (closedLines first last)[i]?
      = if i = first.length ∧ last = [] ∧ first ≠ [] then none else (first ++ [last])[i]? := by
  unfold closedLines
  by_cases hlast : last = [] ∧ first ≠ []
  · rw [if_pos hlast]
    split
    · next hi => exact List.getElem?_eq_none (by omega)
    · next hi =>
      have hne : i ≠ first.length := fun h => hi ⟨h, hlast⟩
      by_cases hlt : i < first.length
      · rw [List.getElem?_append_left hlt]
      · rw [List.getElem?_eq_none (by omega), List.getElem?_eq_none]
        rw [List.length_append, List.length_singleton]
        omega
  · rw [if_neg hlast, if_neg fun h => hlast h.2]

/-! ## What is left of a text -/

/-- A line is cut, or its last backslash is doubled. -/
theorem uncommentedFrom_cases (inside : Option Quotation) (n : Nat) (t : Text) :
    uncommentedFrom inside n t <+: t
      ∨ t.getLast? = some '\\' ∧ uncommentedFrom inside n t = t ++ ['\\'] := by
  have hcons {c : Char} {t u : Text} (h : u <+: t ∨ t.getLast? = some '\\' ∧ u = t ++ ['\\']) :
      c :: u <+: c :: t ∨ (c :: t).getLast? = some '\\' ∧ c :: u = c :: t ++ ['\\'] := by
    obtain h | ⟨hlast, rfl⟩ := h
    · exact .inl (List.cons_prefix_cons.mpr ⟨rfl, h⟩)
    · refine .inr ⟨?_, rfl⟩
      rw [List.getLast?_cons, hlast]
      rfl
  fun_induction uncommentedFrom inside n t with
  | case1 => exact .inl (List.prefix_refl _)
  | case2 inside n c cs ih => exact hcons ih
  | case3 => exact .inl (List.nil_prefix)
  | case4 c cs hc hquote htriple ih => exact hcons ih
  | case5 c cs hc hquote htriple ih => exact hcons ih
  | case6 c cs hc hquote ih => exact hcons ih
  | case7 q cs hempty =>
    rw [List.isEmpty_iff.mp hempty]
    exact .inr ⟨rfl, rfl⟩
  | case8 q cs hempty ih => exact hcons ih
  | case9 q c cs hback htriple ih => exact hcons ih
  | case10 q c cs hback htriple hclose ih => exact hcons ih
  | case11 q c cs hback htriple hclose ih => exact hcons ih

variable {source : Text}

theorem lines_alike (h : loneReturns source = 0) :
    List.Forall₂ (fun l a => ∃ cr, Returns cr ∧ l = a ++ cr) (Text.lines source)
      (Text.lines (unifyLines source)) := by
  fun_induction unifyLines source with
  | case1 => exact .cons ⟨[], .inl rfl, rfl⟩ .nil
  | case2 rest ih =>
    have hrest : loneReturns rest = 0 := by simpa [loneReturns] using h
    exact .cons ⟨['\x0d'], .inr rfl, rfl⟩ (ih hrest)
  | case3 rest hrest ih =>
    have hhead : rest.head? ≠ some '\n' := by
      intro hhead
      obtain ⟨more, rfl⟩ := List.head?_eq_some_iff.mp hhead
      exact hrest more rfl
    simp [loneReturns, hhead] at h
  | case4 c rest hrest hc ih =>
    have hlone : loneReturns rest = 0 := by
      rw [loneReturns, if_neg fun h => hc h.1, Nat.zero_add] at h
      exact h
    have hlines := ih hlone
    rw [Text.lines, Text.lines]
    split
    · exact .cons ⟨[], .inl rfl, rfl⟩ hlines
    · generalize Text.lines rest = ls at hlines ⊢
      generalize Text.lines (unifyLines rest) = us at hlines ⊢
      cases hlines with
      | nil => exact .cons ⟨[], .inl rfl, rfl⟩ .nil
      | cons hhead htail =>
        obtain ⟨cr, hcr, rfl⟩ := hhead
        exact .cons ⟨cr, hcr, rfl⟩ htail

/-! ## Texts without comments -/

theorem isPrefix_stripRight (t : Text) : Text.stripRight t <+: t := by
  show t.rdropWhile Text.isBlank <+: t
  exact List.rdropWhile_prefix _ t

theorem mem_of_mem_trimmed {cr x : Text} {c : Char} (h : c ∈ trimmed cr x) : c ∈ x ++ cr := by
  have hmem := (isPrefix_stripRight _).subset h
  obtain hcut | ⟨hlast, hdouble⟩ := uncommentedFrom_cases none 0 (x ++ cr)
  · exact hcut.subset hmem
  · rw [hdouble] at hmem
    obtain hmem | hmem := List.mem_append.mp hmem
    · exact hmem
    · rw [List.mem_singleton.mp hmem]
      exact List.mem_of_getLast? hlast

/-- No carriage return is left of a line that ends with one. -/
theorem return_not_mem_trimmed {cr x : Text} (hcr : Returns cr) (hx : '\x0d' ∉ x) :
    '\x0d' ∉ trimmed cr x := by
  intro hmem
  obtain rfl | rfl := hcr
  · have hmem := mem_of_mem_trimmed hmem
    rw [List.append_nil] at hmem
    exact hx hmem
  unfold trimmed at hmem
  obtain hcut | ⟨hlast, -⟩ := uncommentedFrom_cases none 0 (x ++ ['\x0d'])
  · obtain hall | hcut := List.prefix_concat_iff.mp hcut
    · -- The whole line is left, and then its blanks are cut off.
      have hstrip : Text.stripRight (x ++ ['\x0d']) = Text.stripRight x := by
        show (x ++ ['\x0d']).rdropWhile Text.isBlank = x.rdropWhile Text.isBlank
        exact List.rdropWhile_concat_pos _ _ _ (by decide)
      rw [hall, hstrip] at hmem
      exact hx ((isPrefix_stripRight x).subset hmem)
    · exact hx (hcut.subset ((isPrefix_stripRight _).subset hmem))
  · rw [List.getLast?_concat] at hlast
    exact absurd hlast (by decide)

theorem mem_of_mem_uncommentedLine {l : Text} {c : Char} (h : c ∈ uncommentedLine l) : c ∈ l := by
  have hmem : c ∈ trimmed [] l := by rw [trimmed, List.append_nil]; exact h
  simpa using mem_of_mem_trimmed hmem

theorem lines_uncommented (source : Text) :
    Text.lines (uncommented source) = (Text.lines source).map uncommentedLine := by
  refine Text.lines_unlines (by simpa using Text.lines_ne_nil source) fun l hl => ?_
  obtain ⟨a, ha, rfl⟩ := List.mem_map.mp hl
  exact fun hmem => Text.not_mem_of_mem_lines ha (mem_of_mem_uncommentedLine hmem)

theorem mem_iff_mem_lines {t : Text} {c : Char} (hc : c ≠ '\n') :
    c ∈ t ↔ ∃ l ∈ Text.lines t, c ∈ l := by
  induction t with
  | nil => simp [Text.lines]
  | cons d t ih =>
    rw [Text.lines]
    split
    · next hd => simp [ih, hd, hc]
    · obtain ⟨l, ls, hlines⟩ := List.exists_cons_of_ne_nil (Text.lines_ne_nil t)
      rw [hlines] at ih ⊢
      simp [ih, or_assoc]

/-- The lines of both texts, one by one. -/
theorem exists_trimmed (h : loneReturns source = 0) {i : Nat} {a : Text}
    (ha : (Text.lines (unifyLines source))[i]? = some a) :
    ∃ cr, Returns cr ∧ (Text.lines (uncommented source))[i]? = some (trimmed cr a) := by
  have halike := lines_alike h
  have hlength := halike.length_eq
  obtain ⟨hi, rfl⟩ := List.getElem?_eq_some_iff.mp ha
  obtain ⟨cr, hcr, hl⟩ := halike.get (by omega : i < (Text.lines source).length) hi
  refine ⟨cr, hcr, ?_⟩
  rw [lines_uncommented, List.getElem?_map, List.getElem?_eq_getElem (by omega), Option.map_some]
  exact congrArg (fun l => some (uncommentedLine l)) hl

theorem length_lines_uncommented (h : loneReturns source = 0) :
    (Text.lines (uncommented source)).length = (Text.lines (unifyLines source)).length := by
  rw [lines_uncommented, List.length_map, (lines_alike h).length_eq]

theorem unifyLines_uncommented (h : loneReturns source = 0) :
    unifyLines (uncommented source) = uncommented source := by
  refine unifyLines_eq_self fun hmem => ?_
  obtain ⟨l, hl, hmem⟩ := (mem_iff_mem_lines (by decide)).mp hmem
  obtain ⟨i, hi⟩ := List.mem_iff_getElem?.mp hl
  obtain ⟨hlt, -⟩ := List.getElem?_eq_some_iff.mp hi
  rw [length_lines_uncommented h] at hlt
  have ha := List.getElem?_eq_getElem hlt
  obtain ⟨cr, hcr, htrim⟩ := exists_trimmed h ha
  obtain rfl := Option.some.inj (hi.symm.trans htrim)
  refine return_not_mem_trimmed hcr (fun hreturn => ?_) hmem
  exact not_mem_unifyLines source
    ((mem_iff_mem_lines (by decide)).mpr ⟨_, List.mem_of_getElem? ha, hreturn⟩)

/-- A source without comments has only characters of the source. -/
theorem mem_of_mem_uncommented {c : Char} (hc : c ≠ '\n')
    (h : c ∈ uncommented source) : c ∈ source := by
  obtain ⟨l, hl, hmem⟩ := (mem_iff_mem_lines hc).mp h
  rw [lines_uncommented] at hl
  obtain ⟨a, ha, rfl⟩ := List.mem_map.mp hl
  exact (mem_iff_mem_lines hc).mpr ⟨a, ha, mem_of_mem_uncommentedLine hmem⟩

/-! ## Both texts -/

section

variable {us vs : List Text} {u v : Text}

/-- Lines that are cut one by one, the last of them apart. -/
structure CutLines (us : List Text) (u : Text) (vs : List Text) (v : Text) : Prop where
  free : ∀ a ∈ us ++ [u], '\n' ∉ a
  length : vs.length = us.length
  line : ∀ (i : Nat) (a : Text), (us ++ [u])[i]? = some a →
    ∃ cr, Returns cr ∧ (vs ++ [v])[i]? = some (trimmed cr a)

theorem CutLines.getElem?_length (h : CutLines us u vs v) : (vs ++ [v])[us.length]? = some v := by
  rw [← h.length]
  exact List.getElem?_concat_length

theorem CutLines.ne_nil_iff (h : CutLines us u vs v) : vs ≠ [] ↔ us ≠ [] := by
  rw [← List.length_pos_iff, ← List.length_pos_iff, h.length]

/-- Nothing is left of an empty last line. -/
theorem CutLines.eq_nil (h : CutLines us u vs v) (hu : u = []) : v = [] := by
  obtain ⟨cr, hcr, hv⟩ := h.line us.length u List.getElem?_concat_length
  rw [h.getElem?_length, hu, trimmed_nil hcr] at hv
  exact Option.some.inj hv

/-- A line that is kept is kept as well where empty last lines are left out. -/
theorem CutLines.getElem?_eq (h : CutLines us u vs v) {i : Nat}
    (hsame : (vs ++ [v])[i]? = (us ++ [u])[i]?) :
    (closedLines vs v)[i]? = (closedLines us u)[i]? := by
  rw [getElem?_closedLines, getElem?_closedLines]
  split
  · next hi =>
    rw [hi.1, h.length, h.getElem?_length, List.getElem?_concat_length, hi.2.1] at hsame
    have hopen : i = us.length ∧ u = [] ∧ us ≠ [] :=
      ⟨hi.1.trans h.length, (Option.some.inj hsame).symm, h.ne_nil_iff.mp hi.2.2⟩
    rw [if_pos hopen]
  · next hi =>
    have hclosed : ¬ (i = us.length ∧ u = [] ∧ us ≠ []) := fun hi' =>
      hi ⟨hi'.1.trans h.length.symm, h.eq_nil hi'.2.1, h.ne_nil_iff.mpr hi'.2.2⟩
    rw [if_neg hclosed, hsame]

theorem CutLines.exists_trimmed (h : CutLines us u vs v) {i : Nat} {a : Text}
    (ha : (closedLines us u)[i]? = some a) :
    ∃ cr, Returns cr ∧ (closedLines vs v)[i]?.getD [] = trimmed cr a := by
  rw [getElem?_closedLines] at ha
  split at ha
  · cases ha
  · obtain ⟨cr, hcr, hv⟩ := h.line i a ha
    refine ⟨cr, hcr, ?_⟩
    rw [getElem?_closedLines]
    split
    · next hi =>
      -- An empty last line is the same as none.
      rw [hi.1, h.length, h.getElem?_length] at hv
      rw [← Option.some.inj hv, hi.2.1]
      rfl
    · rw [hv]
      rfl

theorem CutLines.stripped (h : CutLines us u vs v)
    (hend : ¬ ['\\', '\n'] <:+ Text.unlines (vs ++ [v])) :
    Stripped (closedLines us u) (closedLines vs v) := by
  have hlength := h.length
  refine ⟨fun a ha => ?_, fun i a => h.exists_trimmed, ?_, fun hlt => ?_⟩
  · obtain ⟨i, hi⟩ := List.mem_iff_getElem?.mp ha
    rw [getElem?_closedLines] at hi
    split at hi
    · cases hi
    · exact h.free a (List.mem_of_getElem? hi)
  · by_cases hopen : u = [] ∧ us ≠ []
    · have hlines : closedLines vs v = vs := if_pos ⟨h.eq_nil hopen.1, h.ne_nil_iff.mpr hopen.2⟩
      rw [hlines, closedLines, if_pos hopen, hlength]
    · have hle := length_closedLines_le vs v
      have hlines : closedLines us u = us ++ [u] := if_neg hopen
      rw [hlines, List.length_append, List.length_singleton]
      omega
  · have hle := length_closedLines_le us u
    by_cases hopen : v = [] ∧ vs ≠ []
    · rw [unlines_concat, hopen.1, List.append_nil] at hend
      rw [closedLines, if_pos hopen]
      exact hend
    · have hlines : closedLines vs v = vs ++ [v] := if_neg hopen
      rw [hlines, List.length_append, List.length_singleton] at hlt
      omega

end

theorem closedText_eq {first : List Text} {last : Text}
    (h : Text.lines (unifyLines source) = first ++ [last]) :
    closedText source = ends (closedLines first last) := by
  have hmem : last ∈ Text.lines (unifyLines source) := by
    rw [h]
    exact List.mem_append_right first List.mem_cons_self
  have hfree : '\n' ∉ last := Text.not_mem_of_mem_lines hmem
  rw [ends_closedLines hfree, ← h, Text.unlines_lines]
  rfl

/-- The lines of a source and those of the source without comments, as they are scanned. -/
theorem exists_stripped (hreturns : loneReturns source = 0)
    (hend : ¬ ['\\', '\n'] <:+ uncommented source) :
    ∃ A B, closedText source = ends A ∧ closedText (uncommented source) = ends B ∧ Stripped A B
      ∧ ∀ i : Nat, (Text.lines (uncommented source))[i]? = (Text.lines (unifyLines source))[i]? →
        B[i]? = A[i]? := by
  obtain ⟨us, u, hu⟩ :=
    (List.eq_nil_or_concat' _).resolve_left (Text.lines_ne_nil (unifyLines source))
  obtain ⟨vs, v, hv⟩ :=
    (List.eq_nil_or_concat' _).resolve_left (Text.lines_ne_nil (uncommented source))
  have hcut : CutLines us u vs v := by
    refine ⟨fun a ha => ?_, ?_, fun i a ha => ?_⟩
    · exact Text.not_mem_of_mem_lines (hu ▸ ha)
    · have hlength := length_lines_uncommented hreturns
      rw [hu, hv] at hlength
      simpa using hlength
    · rw [← hv]
      exact exists_trimmed hreturns (hu ▸ ha)
  refine ⟨closedLines us u, closedLines vs v, closedText_eq hu, closedText_eq ?_, ?_, ?_⟩
  · rw [unifyLines_uncommented hreturns, hv]
  · refine hcut.stripped ?_
    rw [← hv, Text.unlines_lines]
    exact hend
  · intro i hsame
    rw [hu, hv] at hsame
    exact hcut.getElem?_eq hsame

/-- The lines of every string that goes over several lines are left as they are. -/
def KeepsStrings (source : Text) : Prop :=
  ∀ t ∈ Token.scan source, t.line < t.endLine → ∀ i < t.endLine, t.line ≤ i + 1 →
    (Text.lines (uncommented source))[i]? = (Text.lines (unifyLines source))[i]?

instance (source : Text) : Decidable (KeepsStrings source) :=
  inferInstanceAs (Decidable (∀ t ∈ _, _))

theorem scan_uncommented {tree : Node} (h : parseTree source = .ok tree)
    (hreturns : loneReturns source = 0) (hstrings : KeepsStrings source)
    (hend : ¬ ['\\', '\n'] <:+ uncommented source) :
    List.Forall₂ Token.Alike (Token.scan source) (Token.scan (uncommented source)) := by
  obtain ⟨A, B, hA, hB, hstripped, hlines⟩ := exists_stripped hreturns hend
  have hleads := leads_scan source
  have hleads' := leads_scan (uncommented source)
  rw [hA] at hleads
  rw [hB] at hleads'
  have hkept : Scanner.Kept A B (Token.scan source) := by
    refine ⟨hleads.orderly (List.forall_mem_nil _) (exists_finish h), fun t ht hlt i hi hi' => ?_⟩
    exact hlines i (hstrings t ht hlt i hi' hi)
  have hat : AtLine A B 0 (Scanner.start (ends A)).here (Scanner.start (ends B)).here :=
    ⟨rfl, rfl, fun _ => ⟨rfl, rfl⟩, fun _ => ⟨rfl, rfl⟩⟩
  obtain ⟨tokens, htokens, halike⟩ := hleads.follows hstripped hkept _ 0 hat ⟨rfl, rfl, .nil⟩
  rw [htokens.unique hleads'] at halike
  exact halike

/-- A source has the same tree without its comments, if no carriage return in it stands alone, the
lines of its long strings are left as they are and what is left does not end in the middle of a
continued line. -/
theorem parse_uncommented {source : Text} {tree : Node} (h : parse source = .tree tree)
    (hreturns : loneReturns source = 0) (hstrings : KeepsStrings source)
    (hend : ¬ ['\\', '\n'] <:+ uncommented source) : parse (uncommented source) = .tree tree := by
  unfold parse at h ⊢
  split at h
  · cases h
  next hnull =>
  have hnull' : ¬ (uncommented source).any (· = '\x00') = true := by
    simp only [List.any_eq_true, decide_eq_true_eq, not_exists, not_and] at hnull ⊢
    rintro c hc rfl
    exact hnull '\x00' (mem_of_mem_uncommented (by decide) hc) rfl
  rw [if_neg hnull']
  cases htree : parseTree source with
  | error d =>
    rw [htree] at h
    cases h
  | ok n =>
    rw [htree] at h
    cases h
    rw [parseTree_of_alike (scan_uncommented htree hreturns hstrings hend) htree]

/-- Comments between brackets and at the end, a `#` in a string, and a string on two lines. -/
def annotated : Text :=
  "x = [1,  # one\n     '#2']\n\"\"\"a\n b\"\"\"\n# end"

theorem parse_uncommented_annotated :
    loneReturns annotated = 0 ∧ KeepsStrings annotated ∧ (¬ ['\\', '\n'] <:+ uncommented annotated)
      ∧ uncommented annotated = "x = [1,\n     '#2']\n\"\"\"a\n b\"\"\"\n"
      ∧ ∃ tree, parse annotated = .tree tree ∧ parse (uncommented annotated) = .tree tree := by
  have hparses : (treeOf annotated).isSome = true := by decide +kernel
  have hreturns : loneReturns annotated = 0 := by decide +kernel
  have hstrings : KeepsStrings annotated := by decide +kernel
  have hend : ¬ ['\\', '\n'] <:+ uncommented annotated := by decide +kernel
  refine ⟨hreturns, hstrings, hend, by decide +kernel, ?_⟩
  by_cases haccepts : Accepts annotated
  · obtain ⟨tree, htree⟩ := haccepts
    exact ⟨tree, htree, parse_uncommented htree hreturns hstrings hend⟩
  · rw [treeOf_eq_none_iff.mpr haccepts] at hparses
    cases hparses

/-- The quotes that close a string are taken for a part of a comment. -/
def hashed : Text :=
  "\"\"\"\n#\"\"\""

theorem not_accepts_uncommented :
    Accepts hashed ∧ uncommented hashed = "\"\"\"\n" ∧ ¬ Accepts (uncommented hashed) := by
  have hparses : (treeOf hashed).isSome = true := by decide +kernel
  have hfails : (treeOf (uncommented hashed)).isNone = true := by decide +kernel
  refine ⟨?_, by decide +kernel, treeOf_eq_none_iff.mp (Option.isNone_iff_eq_none.mp hfails)⟩
  by_contra hnot
  rw [treeOf_eq_none_iff.mpr hnot] at hparses
  cases hparses

end CodeReview.Source
