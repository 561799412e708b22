import CodeReview.Number.Basic
import CodeReview.Report.Basic
import Mathlib.Algebra.Ring.Nat
import Mathlib.Data.List.Infix

/-!
# Marks in a text that is put together

A mark is a text such as `<html` that starts with an angle bracket. How often a mark stands in a
text that is put together from pieces is the sum over the pieces, as long as no mark can go over a
joint. For that it is enough to look at the two characters at the joint, so the fixed texts of a
page can be checked one by one, whatever the texts between them are.
-/

namespace CodeReview.Report

/-! ## Marks and their occurrences -/

/-- A text to look for in a page. It starts with `<`; what may stand in it after its first
character and before its last one tells where two pieces of a page meet without making one. -/
structure Mark where
  text : Text
  opens : text.head? = some '<'
  mem_tail : ∀ c ∈ text.tail, c ∈ "/>htmlbody".toList
  mem_dropLast : ∀ c ∈ text.dropLast, c ∈ "</htmlbody".toList

/-- Can come after anything: no mark goes on with its first character. -/
def StartsFresh (t : Text) : Prop :=
  ∀ c ∈ t.head?, c ∉ "/>htmlbody".toList

/-- Can come before anything: no mark goes on after its last character. -/
def EndsClean (t : Text) : Prop :=
  ∀ c ∈ t.getLast?, c ∉ "</htmlbody".toList

-- By name, since the search may settle on going through all characters there are.
instance (t : Text) : Decidable (StartsFresh t) :=
  Option.decidableForallMem t.head?

instance (t : Text) : Decidable (EndsClean t) :=
  Option.decidableForallMem t.getLast?

theorem startsFresh_nil : StartsFresh [] := by
  decide

theorem startsFresh_append {a b : Text} (ha : StartsFresh a) (hb : StartsFresh b) :
    StartsFresh (a ++ b) := by
  cases a with
  | nil => exact hb
  | cons c cs => exact ha

theorem startsFresh_flatten {ts : List Text} (h : ∀ t ∈ ts, StartsFresh t) :
    StartsFresh ts.flatten := by
  induction ts with
  | nil => exact startsFresh_nil
  | cons t ts ih =>
    exact startsFresh_append (h t List.mem_cons_self)
      (ih fun u hu => h u (List.mem_cons_of_mem _ hu))

/-- Lines that begin with an empty one begin with a line feed. -/
theorem startsFresh_unlines (ls : List Text) : StartsFresh (Text.unlines ([] :: ls)) := by
  cases ls with
  | nil => simp [Text.unlines, Text.join, StartsFresh]
  | cons l ls => simp [Text.unlines, Text.join, StartsFresh]

/-- A fixed text of the page that may stand before and after any other. -/
structure Framing (s : String) : Prop where
  starts : StartsFresh s.toList
  ends : EndsClean s.toList
  nonempty : s.toList ≠ []

theorem framing_ofList {l : Text} (h : StartsFresh l ∧ EndsClean l ∧ l ≠ []) :
    Framing (String.ofList l) := by
  rw [← String.toList_ofList (l := l)] at h
  exact ⟨h.1, h.2.1, h.2.2⟩

theorem Framing.startsFresh_append {s : String} (h : Framing s) (t : Text) :
    StartsFresh (s.toList ++ t) := by
  obtain ⟨c, cs, hs⟩ := List.exists_cons_of_ne_nil h.nonempty
  have hstarts := h.starts
  rw [hs] at hstarts ⊢
  exact hstarts

namespace Mark

/-- At how many places of a text the mark stands. -/
def occurrences (m : Mark) : Text → Nat
  | [] => 0
  | c :: cs => m.occurrences cs + if m.text.isPrefixOf (c :: cs) then 1 else 0

@[simp] theorem occurrences_nil (m : Mark) : m.occurrences [] = 0 := rfl

/-- A mark that goes over the end of a text has a character before the joint and one after it. -/
theorem joint_of_isPrefix (m : Mark) {s b : Text} (hs : s ≠ []) (h : m.text <+: s ++ b)
    (hnot : ¬ m.text <+: s) :
    (∃ c ∈ s.getLast?, c ∈ m.text.dropLast) ∧ ∃ c ∈ b.head?, c ∈ m.text.tail := by
  have hlen : s.length < m.text.length := by
    by_contra hle
    exact hnot (List.prefix_of_prefix_length_le h (List.prefix_append s b) (by omega))
  obtain ⟨r, hr⟩ := List.prefix_of_prefix_length_le (List.prefix_append s b) h (by omega)
  obtain ⟨y, ys, rfl⟩ : ∃ y ys, r = y :: ys := by
    apply List.exists_cons_of_ne_nil
    rintro rfl
    rw [List.append_nil] at hr
    rw [hr] at hlen
    omega
  obtain ⟨init, x, rfl⟩ := List.eq_nil_or_concat s |>.resolve_left hs
  constructor
  · refine ⟨x, by simp, ?_⟩
    rw [← hr]
    simp
  · refine ⟨y, ?_, ?_⟩
    · rw [← hr, List.prefix_append_right_inj] at h
      obtain ⟨rest, rfl⟩ := h
      simp
    · rw [← hr]
      cases init <;> simp

theorem occurrences_append_of_joint (m : Mark) {a b : Text}
    (h : ∀ s, s ≠ [] → s <:+ a → m.text <+: s ++ b → m.text <+: s) :
    m.occurrences (a ++ b) = m.occurrences a + m.occurrences b := by
  induction a with
  | nil => simp
  | cons c cs ih =>
    have hrest := ih fun s hs hsuffix => h s hs (hsuffix.trans (List.suffix_cons c cs))
    have hhere : m.text.isPrefixOf (c :: (cs ++ b)) = m.text.isPrefixOf (c :: cs) := by
      rw [Bool.eq_iff_iff, List.isPrefixOf_iff_prefix, List.isPrefixOf_iff_prefix]
      exact ⟨h (c :: cs) (by simp) (List.suffix_refl _),
        fun hp => hp.trans (List.prefix_append _ b)⟩
    rw [List.cons_append, occurrences, occurrences, hhere, hrest]
    omega

theorem occurrences_append (m : Mark) {a b : Text} (h : EndsClean a ∨ StartsFresh b) :
    m.occurrences (a ++ b) = m.occurrences a + m.occurrences b := by
  apply occurrences_append_of_joint
  intro s hs hsuffix hp
  by_contra hnot
  obtain ⟨⟨x, hx, hxin⟩, y, hy, hyin⟩ := m.joint_of_isPrefix hs hp hnot
  rcases h with hclean | hfresh
  · refine hclean x ?_ (m.mem_dropLast x hxin)
    obtain ⟨front, rfl⟩ := hsuffix
    rwa [List.getLast?_append_of_ne_nil _ hs]
  · exact hfresh y hy (m.mem_tail y hyin)

theorem occurrences_clean_append (m : Mark) {a : Text} (b : Text) (h : EndsClean a) :
    m.occurrences (a ++ b) = m.occurrences a + m.occurrences b :=
  m.occurrences_append (.inl h)

theorem occurrences_append_fresh (m : Mark) (a : Text) {b : Text} (h : StartsFresh b) :
    m.occurrences (a ++ b) = m.occurrences a + m.occurrences b :=
  m.occurrences_append (.inr h)

theorem occurrences_framing_append (m : Mark) {s : String} (h : Framing s) (t : Text) :
    m.occurrences (s.toList ++ t) = m.occurrences s.toList + m.occurrences t :=
  m.occurrences_append (.inl h.ends)

theorem occurrences_of_not_mem (m : Mark) {t : Text} (h : '<' ∉ t) : m.occurrences t = 0 := by
  induction t with
  | nil => rfl
  | cons c cs ih =>
    have hc : m.text.isPrefixOf (c :: cs) = false := by
      have hopens := m.opens
      cases htext : m.text with
      | nil => simp [htext] at hopens
      | cons x xs =>
        simp only [htext, List.head?_cons, Option.some.injEq] at hopens
        simp only [List.mem_cons, not_or] at h
        simp [List.isPrefixOf, hopens, h.1]
    rw [occurrences, hc, ih fun hin => h (List.mem_cons_of_mem _ hin)]
    rfl

theorem occurrences_unlines (m : Mark) (ls : List Text) :
    m.occurrences (Text.unlines ls) = (ls.map m.occurrences).sum := by
  have hsep (ts : List Text) :
      m.occurrences (ts.flatMap (['\n'] ++ ·)) = (ts.map m.occurrences).sum := by
    induction ts with
    | nil => rfl
    | cons t ts ih =>
      have hfresh : StartsFresh (ts.flatMap (['\n'] ++ ·)) := by
        cases ts with
        | nil => simp [StartsFresh]
        | cons _ _ => simp [StartsFresh]
      rw [List.flatMap_cons, occurrences_append_fresh m _ hfresh,
        occurrences_clean_append m t (by decide), ih, m.occurrences_of_not_mem (by decide)]
      simp
  match ls with
  | [] => rfl
  | [t] => simp [Text.unlines, Text.join]
  | t :: u :: ts =>
    change m.occurrences (t ++ (u :: ts).flatMap (['\n'] ++ ·)) = _
    rw [occurrences_append_fresh m t (by simp [StartsFresh]), hsep]
    rfl

/-- The texts between fixed ones are counted by themselves, and so are lines. -/
theorem counting (m : Mark) :
    (∀ {s : String} (_ : Framing s) (t : Text),
      m.occurrences (s.toList ++ t) = m.occurrences s.toList + m.occurrences t)
    ∧ (∀ {s : String} (_ : Framing s) (t : Text),
      m.occurrences (t ++ s.toList) = m.occurrences t + m.occurrences s.toList)
    ∧ (∀ {s : String} (_ : Framing s) (t u : Text),
      m.occurrences (t ++ (s.toList ++ u)) = m.occurrences t + m.occurrences (s.toList ++ u))
    ∧ m.occurrences (Text.unlines []) = 0
    ∧ ∀ l ls, m.occurrences (Text.unlines (l :: ls))
      = m.occurrences l + m.occurrences (Text.unlines ls) := by
  refine ⟨m.occurrences_framing_append, fun h _ => m.occurrences_append (.inr h.starts),
    fun h _ u => m.occurrences_append (.inr (h.startsFresh_append u)), rfl, fun l ls => ?_⟩
  rw [m.occurrences_unlines, m.occurrences_unlines, List.map_cons, List.sum_cons]

theorem occurrences_flatten (m : Mark) {ts : List Text} (h : ∀ t ∈ ts, StartsFresh t) :
    m.occurrences ts.flatten = (ts.map m.occurrences).sum := by
  induction ts with
  | nil => rfl
  | cons t ts ih =>
    have hrest : ∀ u ∈ ts, StartsFresh u := fun u hu => h u (List.mem_cons_of_mem _ hu)
    rw [List.flatten_cons, occurrences_append_fresh m t (startsFresh_flatten hrest), ih hrest,
      List.map_cons, List.sum_cons]

/-- The bare angle bracket. -/
def angle : Mark := ⟨['<'], rfl, by simp, by simp⟩

theorem occurrences_angle (t : Text) : angle.occurrences t = t.count '<' := by
  induction t with
  | nil => rfl
  | cons c cs ih =>
    have hhere : angle.text.isPrefixOf (c :: cs) = (c == '<') := by
      simp [angle, List.isPrefixOf, Bool.beq_comm]
    rw [occurrences, hhere, ih, List.count_cons]

end Mark

/-- The marks that a page is to have once. -/
def tags : List Mark :=
  [⟨['<', 'h', 't', 'm', 'l'], rfl, by simp, by simp⟩,
    ⟨['<', '/', 'h', 't', 'm', 'l', '>'], rfl, by simp, by simp⟩,
    ⟨['<', 'b', 'o', 'd', 'y', '>'], rfl, by simp, by simp⟩,
    ⟨['<', '/', 'b', 'o', 'd', 'y', '>'], rfl, by simp, by simp⟩]

/-- Has none of the tags. -/
def Untagged (t : Text) : Prop :=
  ∀ tag ∈ tags, tag.occurrences t = 0

instance (t : Text) : Decidable (Untagged t) :=
  inferInstanceAs (Decidable (∀ tag ∈ tags, tag.occurrences t = 0))

/-! ## Numbers and other plain texts -/

/-- The characters that numbers are written with. -/
def isNumeral (c : Char) : Bool :=
  c.isDigit || ['+', '-', '.', 'a', 'e', 'f', 'i', 'n'].contains c

theorem isNumeral_ofNat (n : Nat) : ∀ c ∈ Text.ofNat n, isNumeral c = true := by
  intro c h
  rw [isNumeral, Nat.isDigit_of_mem_toDigits (by decide) (by decide) h, Bool.true_or]

theorem isNumeral_ofInt (n : Int) : ∀ c ∈ Text.ofInt n, isNumeral c = true := by
  cases n with
  | ofNat n => exact isNumeral_ofNat n
  | negSucc n => exact List.forall_mem_cons.mpr ⟨by decide, isNumeral_ofNat _⟩

theorem isNumeral_shortest (m : Nat) (e : Int) :
    ∀ c ∈ (Number.shortest m e).1, isNumeral c = true := by
  unfold Number.shortest
  dsimp only
  split
  · exact List.forall_mem_nil _
  · intro c h
    rw [List.mem_reverse] at h
    have hin := (List.dropWhile_sublist _).subset h
    exact isNumeral_ofNat _ c (List.mem_reverse.mp hin)

theorem isNumeral_writeDigits {ds : Text} (h : ∀ c ∈ ds, isNumeral c = true) (point : Int) :
    ∀ c ∈ Number.writeDigits ds point, isNumeral c = true := by
  have hzero : isNumeral '0' = true := by decide
  have hpoint : isNumeral '.' = true := by decide
  have hzeros (n : Nat) : ∀ c ∈ List.replicate n '0', isNumeral c = true := by
    intro c hc
    rw [List.eq_of_mem_replicate hc, hzero]
  unfold Number.writeDigits
  dsimp only
  split
  · rw [List.forall_mem_append, List.forall_mem_append]
    refine ⟨⟨?_, ?_⟩, ?_⟩
    · split <;> simp_all
    · split <;> exact List.all_eq_true.mp (by decide +kernel)
    · split
      · exact List.forall_mem_cons.mpr ⟨hzero, isNumeral_ofNat _⟩
      · exact isNumeral_ofNat _
  · split
    · have hstart : ∀ c ∈ "0.".toList, isNumeral c = true :=
        List.all_eq_true.mp (by decide +kernel)
      exact List.forall_mem_append.mpr ⟨List.forall_mem_append.mpr ⟨hstart, hzeros _⟩, h⟩
    · split
      · have hend : ∀ c ∈ ".0".toList, isNumeral c = true :=
          List.all_eq_true.mp (by decide +kernel)
        exact List.forall_mem_append.mpr ⟨List.forall_mem_append.mpr ⟨h, hzeros _⟩, hend⟩
      · exact List.forall_mem_append.mpr ⟨List.forall_mem_append.mpr
          ⟨fun c hc => h c (List.mem_of_mem_take hc), List.forall_mem_singleton.mpr hpoint⟩,
          fun c hc => h c (List.mem_of_mem_drop hc)⟩

theorem isNumeral_number (n : Number) : ∀ c ∈ n.toText, isNumeral c = true := by
  cases n with
  | int i => exact isNumeral_ofInt i
  | real x =>
    change ∀ c ∈ Number.ofParts (.of x), isNumeral c = true
    cases Number.Parts.of x with
    | nan => exact List.all_eq_true.mp (by decide +kernel)
    | infinite negative => cases negative <;> exact List.all_eq_true.mp (by decide +kernel)
    | finite negative m e =>
      have hsize := isNumeral_writeDigits (isNumeral_shortest m e) (Number.shortest m e).2
      have hminus : isNumeral '-' = true := by decide
      have hzero : ∀ c ∈ "0.0".toList, isNumeral c = true :=
        List.all_eq_true.mp (by decide +kernel)
      unfold Number.ofParts
      dsimp only
      split <;> split
      · exact List.forall_mem_cons.mpr ⟨hminus, hzero⟩
      · exact List.forall_mem_cons.mpr ⟨hminus, hsize⟩
      · exact hzero
      · exact hsize

theorem not_mem_ofNat (n : Nat) : '<' ∉ Text.ofNat n :=
  fun h => absurd (isNumeral_ofNat n _ h) (by decide)

theorem not_mem_ofInt (n : Int) : '<' ∉ Text.ofInt n :=
  fun h => absurd (isNumeral_ofInt n _ h) (by decide)

theorem not_mem_number (n : Number) : '<' ∉ n.toText :=
  fun h => absurd (isNumeral_number n _ h) (by decide)

theorem not_mem_dayAndTime {now : Text} (h : '<' ∉ now) : '<' ∉ dayAndTime now := by
  intro hin
  obtain ⟨c, hc, hcopy⟩ := List.mem_map.mp hin
  have hnow : c ∈ now := (List.takeWhile_sublist _).subset hc
  split at hcopy
  · exact absurd hcopy (by decide)
  · exact h (hcopy ▸ hnow)

end CodeReview.Report
