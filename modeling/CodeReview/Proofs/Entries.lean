import CodeReview.Entries
import Mathlib.Algebra.BigOperators.Group.List.Basic
import Mathlib.Data.List.Induction
import Mathlib.Data.List.Nodup
import Mathlib.Tactic.Ring

/-!
# Entries as maps

What `put`, `ofPairs`, `count` and `tally` do to the names, to what a name leads to, and to sums
over the entries. The entries of a list of pairs hold what came last with each name, in the order in
which the names came first. A sum over a tally is a sum over what was counted, whatever the weights
of the names are.
-/

namespace CodeReview.Entries

variable {α : Type}

/-! ## Names and look-up -/

@[simp] theorem names_nil : names ([] : Entries α) = [] := rfl

@[simp] theorem names_cons (n : Text) (a : α) (es : Entries α) :
    names ((n, a) :: es) = n :: names es := rfl

theorem get?_put (es : Entries α) (name other : Text) (a : α) :
    get? (put es name a) other = if other = name then some a else get? es other := by
  by_cases h : other = name
  · rw [if_pos h, h, get?_put_self]
  · rw [if_neg h, get?_put_of_ne es a h]

theorem get?_eq_none_iff (es : Entries α) (name : Text) :
    get? es name = none ↔ name ∉ names es := by
  induction es with
  | nil => simp [get?]
  | cons e rest ih =>
    obtain ⟨n, a⟩ := e
    by_cases h : n = name
    · simp [get?, h]
    · simp [get?, h, Ne.symm h, ih]

variable {name : Text}

theorem mem_of_get?_eq_some {es : Entries α} {a : α} (h : get? es name = some a) :
    (name, a) ∈ es := by
  induction es with
  | nil => simp [get?] at h
  | cons e rest ih =>
    obtain ⟨n, b⟩ := e
    by_cases hn : n = name
    · simp only [get?, hn, if_true, Option.some.injEq] at h
      rw [hn, h]
      exact List.mem_cons_self
    · simp only [get?, hn, if_false] at h
      exact List.mem_cons_of_mem _ (ih h)

theorem get?_eq_some_of_mem {es : Entries α} {a : α} (hn : (names es).Nodup)
    (hm : (name, a) ∈ es) : get? es name = some a := by
  induction es with
  | nil => simp at hm
  | cons e rest ih =>
    obtain ⟨n, b⟩ := e
    obtain ⟨hnot, hrest⟩ := List.nodup_cons.mp hn
    rcases List.mem_cons.mp hm with heq | hin
    · obtain ⟨rfl, rfl⟩ := Prod.mk.inj heq
      simp [get?]
    · have hne : n ≠ name := by
        rintro rfl
        exact hnot (List.mem_map.mpr ⟨_, hin, rfl⟩)
      simp only [get?, hne, if_false]
      exact ih hrest hin

/-- Entries with different names lead from each name to its entry in any order. -/
theorem get?_perm {es es' : Entries α} (hp : es.Perm es') (hn : (names es).Nodup) (name : Text) :
    get? es name = get? es' name := by
  have hn' : (names es').Nodup := (hp.map _).nodup_iff.mp hn
  cases h : get? es name with
  | none =>
    have hnot : name ∉ names es' := fun hin =>
      (get?_eq_none_iff es name).mp h ((hp.map _).mem_iff.mpr hin)
    rw [(get?_eq_none_iff es' name).mpr hnot]
  | some a =>
    rw [get?_eq_some_of_mem hn' (hp.mem_iff.mp (mem_of_get?_eq_some h))]

theorem get?_filter (es : Entries α) (keep : Text → Bool) (name : Text) :
    get? (es.filter fun e => keep e.1) name = if keep name then get? es name else none := by
  induction es with
  | nil => simp [get?]
  | cons e rest ih =>
    obtain ⟨n, a⟩ := e
    by_cases hn : n = name
    · subst hn
      cases hkeep : keep n <;> simp [get?, hkeep, ih]
    · cases hkeep : keep n <;> simp [get?, hkeep, ih, hn]

theorem names_put (es : Entries α) (name : Text) (a : α) :
    names (put es name a) = if name ∈ names es then names es else names es ++ [name] := by
  induction es with
  | nil => simp [put]
  | cons e rest ih =>
    obtain ⟨n, b⟩ := e
    by_cases h : n = name
    · simp [put, h]
    · simp only [put, h, if_false, names_cons, ih, List.mem_cons, Ne.symm h, false_or]
      split <;> rfl

theorem nodup_names_put {es : Entries α} (h : (names es).Nodup) (name : Text) (a : α) :
    (names (put es name a)).Nodup := by
  rw [names_put]
  split
  · exact h
  · next hnot =>
    rw [List.nodup_append]
    refine ⟨h, List.nodup_singleton name, fun x hx y hy hxy => hnot ?_⟩
    rw [← List.mem_singleton.mp hy, ← hxy]
    exact hx

theorem put_of_not_mem {es : Entries α} (h : name ∉ names es) (a : α) :
    put es name a = es ++ [(name, a)] := by
  induction es with
  | nil => rfl
  | cons e rest ih =>
    obtain ⟨n, b⟩ := e
    simp only [names_cons, List.mem_cons, not_or] at h
    rw [put, if_neg (Ne.symm h.1), ih h.2, List.cons_append]

variable {ps : List (Text × α)}

/-- Pairs with different names are entries as they are. -/
theorem ofPairs_eq_self (h : (ps.map (·.1)).Nodup) : ofPairs ps = ps := by
  suffices haux : ∀ (ps : List (Text × α)) (es : Entries α), ((es ++ ps).map (·.1)).Nodup →
      ps.foldl (fun es p => put es p.1 p.2) es = es ++ ps from haux ps [] h
  clear h
  intro ps
  induction ps with
  | nil => intro es _; rw [List.foldl_nil, List.append_nil]
  | cons p ps ih =>
    intro es h
    have hsplit : es ++ p :: ps = (es ++ [p]) ++ ps := by simp
    have hnot : p.1 ∉ names es := by
      rw [List.map_append, List.nodup_append] at h
      exact fun hin => h.2.2 _ hin _ List.mem_cons_self rfl
    rw [List.foldl_cons, put_of_not_mem hnot, hsplit]
    exact ih (es ++ [p]) (hsplit ▸ h)

theorem mem_of_mem_put {es : Entries α} {a : α} {e : Text × α}
    (h : e ∈ put es name a) : e = (name, a) ∨ e ∈ es := by
  induction es with
  | nil => exact .inl (List.mem_singleton.mp h)
  | cons d rest ih =>
    obtain ⟨n, b⟩ := d
    by_cases hn : n = name
    · rw [put, if_pos hn, hn] at h
      exact (List.mem_cons.mp h).imp_right (List.mem_cons_of_mem _)
    · rw [put, if_neg hn] at h
      rcases List.mem_cons.mp h with rfl | hin
      · exact .inr List.mem_cons_self
      · exact (ih hin).imp_right (List.mem_cons_of_mem _)

theorem mem_of_mem_ofPairs {e : Text × α} (h : e ∈ ofPairs ps) :
    e ∈ ps := by
  suffices haux : ∀ (ps : List (Text × α)) (es : Entries α),
      e ∈ ps.foldl (fun es p => put es p.1 p.2) es → e ∈ es ∨ e ∈ ps from
    (haux ps [] h).resolve_left List.not_mem_nil
  clear h
  intro ps
  induction ps with
  | nil => intro es h; exact .inl h
  | cons p ps ih =>
    intro es h
    rcases ih _ h with hput | hin
    · rcases mem_of_mem_put hput with rfl | hes
      · exact .inr List.mem_cons_self
      · exact .inl hes
    · exact .inr (List.mem_cons_of_mem _ hin)

/-! ## Pairs in which names come again -/

theorem ofPairs_concat (ps : List (Text × α)) (p : Text × α) :
    ofPairs (ps ++ [p]) = put (ofPairs ps) p.1 p.2 := by
  rw [ofPairs, List.foldl_append]
  rfl

theorem mem_names_ofPairs :
    name ∈ names (ofPairs ps) ↔ ∃ p ∈ ps, p.1 = name := by
  induction ps using List.reverseRecOn with
  | nil => simp [ofPairs]
  | append_singleton ps p ih =>
    have hput : name ∈ names (put (ofPairs ps) p.1 p.2)
        ↔ name ∈ names (ofPairs ps) ∨ p.1 = name := by
      rw [names_put]
      split
      · next hmem => exact ⟨.inl, fun h => h.elim id fun heq => heq ▸ hmem⟩
      · rw [List.mem_append, List.mem_singleton, eq_comm]
    rw [ofPairs_concat, hput, ih]
    simp only [List.mem_append, List.mem_singleton, or_and_right, exists_or, exists_eq_left]

theorem nodup_names_ofPairs (ps : List (Text × α)) : (names (ofPairs ps)).Nodup := by
  induction ps using List.reverseRecOn with
  | nil => exact List.nodup_nil
  | append_singleton ps p ih =>
    rw [ofPairs_concat]
    exact nodup_names_put ih p.1 p.2

/-- A name leads to what came with it last. -/
theorem mem_ofPairs_iff {a : α} :
    (name, a) ∈ ofPairs ps
      ↔ ∃ before after, ps = before ++ (name, a) :: after ∧ ∀ p ∈ after, p.1 ≠ name := by
  have hget : ∀ ps : List (Text × α), (name, a) ∈ ofPairs ps ↔ get? (ofPairs ps) name = some a :=
    fun ps => ⟨get?_eq_some_of_mem (nodup_names_ofPairs ps), mem_of_get?_eq_some⟩
  rw [hget]
  constructor
  · intro h
    induction ps using List.reverseRecOn with
    | nil => exact nomatch h
    | append_singleton ps p ih =>
      rw [ofPairs_concat, get?_put] at h
      split at h
      · next hname =>
        obtain rfl := Option.some.inj h
        exact ⟨ps, [], by rw [hname], List.forall_mem_nil _⟩
      · next hname =>
        obtain ⟨before, after, rfl, hafter⟩ := ih h
        refine ⟨before, after ++ [p], by simp, ?_⟩
        rw [List.forall_mem_append, List.forall_mem_singleton]
        exact ⟨hafter, Ne.symm hname⟩
  · rintro ⟨before, after, rfl, hafter⟩
    induction after using List.reverseRecOn with
    | nil => rw [ofPairs_concat, get?_put, if_pos rfl]
    | append_singleton after p ih =>
      rw [List.forall_mem_append, List.forall_mem_singleton] at hafter
      rw [← List.cons_append, ← List.append_assoc, ofPairs_concat, get?_put,
        if_neg (Ne.symm hafter.2)]
      exact ih hafter.1

/-- One name comes in a list of pairs before another does. -/
def ComesBefore (ps : List (Text × α)) (a b : Text) : Prop :=
  ∃ before p after, ps = before ++ p :: after ∧ p.1 = a ∧ ∀ q ∈ before, q.1 ≠ b

theorem ComesBefore.append {a b : Text} (h : ComesBefore ps a b)
    (qs : List (Text × α)) : ComesBefore (ps ++ qs) a b := by
  obtain ⟨before, p, after, rfl, hp, hbefore⟩ := h
  exact ⟨before, p, after ++ qs, by simp, hp, hbefore⟩

/-- The names stand in the order in which they came first. -/
theorem pairwise_names_ofPairs (ps : List (Text × α)) :
    (names (ofPairs ps)).Pairwise (ComesBefore ps) := by
  induction ps using List.reverseRecOn with
  | nil => exact .nil
  | append_singleton ps p ih =>
    have hold := ih.imp fun h => h.append [p]
    rw [ofPairs_concat, names_put]
    split
    · exact hold
    · next hnew =>
      rw [List.pairwise_append]
      refine ⟨hold, List.pairwise_singleton .., fun a ha b hb => ?_⟩
      obtain rfl := List.mem_singleton.mp hb
      -- The new name is none of those that came, so each of them came before it.
      obtain ⟨q, hq, rfl⟩ := mem_names_ofPairs.mp ha
      obtain ⟨before, after, rfl⟩ := List.append_of_mem hq
      refine ComesBefore.append ⟨before, q, after, rfl, rfl, fun r hr heq => hnew ?_⟩ [p]
      exact mem_names_ofPairs.mpr ⟨r, List.mem_append_left _ hr, heq⟩

section

variable {β : Type} {read : β → Option (Text × α)} {l : List β}

/-- Pairs that are read off some members of a list, cut at one of them. -/
theorem filterMap_eq_append_cons_iff {before after : List (Text × α)} {p : Text × α} :
    l.filterMap read = before ++ p :: after
      ↔ ∃ xs y zs, l = xs ++ y :: zs ∧ xs.filterMap read = before ∧ read y = some p
        ∧ zs.filterMap read = after := by
  rw [List.filterMap_eq_append_iff]
  constructor
  · rintro ⟨xs, rest, rfl, hxs, hrest⟩
    obtain ⟨skipped, y, zs, rfl, hskipped, hy, hzs⟩ := List.filterMap_eq_cons_iff.mp hrest
    refine ⟨xs ++ skipped, y, zs, by simp, ?_, hy, hzs⟩
    rw [List.filterMap_append, hxs, List.filterMap_eq_nil_iff.mpr hskipped, List.append_nil]
  · rintro ⟨xs, y, zs, rfl, hxs, hy, hzs⟩
    refine ⟨xs, y :: zs, rfl, hxs, ?_⟩
    rw [List.filterMap_cons_some hy, hzs]

/-- No pair with a name is read off the members of a list. -/
theorem forall_mem_filterMap_ne :
    (∀ p ∈ l.filterMap read, p.1 ≠ name) ↔ ∀ x ∈ l, ∀ a, read x ≠ some (name, a) := by
  constructor
  · intro h x hx a hread
    exact h _ (List.mem_filterMap.mpr ⟨x, hx, hread⟩) rfl
  · rintro h ⟨_, a⟩ hp rfl
    obtain ⟨x, hx, hread⟩ := List.mem_filterMap.mp hp
    exact h x hx a hread

theorem mem_ofPairs_filterMap_iff {a : α} :
    (name, a) ∈ ofPairs (l.filterMap read)
      ↔ ∃ before x after, l = before ++ x :: after ∧ read x = some (name, a)
        ∧ ∀ y ∈ after, ∀ b, read y ≠ some (name, b) := by
  rw [mem_ofPairs_iff]
  constructor
  · rintro ⟨before, after, hsplit, hafter⟩
    obtain ⟨xs, y, zs, rfl, rfl, hy, rfl⟩ := filterMap_eq_append_cons_iff.mp hsplit
    exact ⟨xs, y, zs, rfl, hy, forall_mem_filterMap_ne.mp hafter⟩
  · rintro ⟨xs, y, zs, rfl, hy, hzs⟩
    refine ⟨_, _, filterMap_eq_append_cons_iff.mpr ⟨xs, y, zs, rfl, rfl, hy, rfl⟩, ?_⟩
    exact forall_mem_filterMap_ne.mpr hzs

theorem pairwise_names_filterMap :
    (names (ofPairs (l.filterMap read))).Pairwise fun m n =>
      ∃ before x after, l = before ++ x :: after ∧ (∃ a, read x = some (m, a))
        ∧ ∀ y ∈ before, ∀ b, read y ≠ some (n, b) := by
  apply (pairwise_names_ofPairs _).imp
  rintro m n ⟨before, ⟨_, a⟩, after, hsplit, rfl, hbefore⟩
  obtain ⟨xs, y, zs, rfl, rfl, hy, rfl⟩ := filterMap_eq_append_cons_iff.mp hsplit
  exact ⟨xs, y, zs, rfl, ⟨a, hy⟩, forall_mem_filterMap_ne.mp hbefore⟩

end

/-! ## Groups -/

section

variable {key : α → Text} {l : List α}

theorem foldl_gather_concat (key : α → Text) (l : List α) (a : α) :
    (l ++ [a]).foldl (gather key) [] = gather key (l.foldl (gather key) []) a := by
  rw [List.foldl_append]
  rfl

/-- There is a group for each key, where the key comes first. -/
theorem names_foldl_gather (key : α → Text) (l : List α) :
    names (l.foldl (gather key) []) = names (ofPairs (l.map fun a => (key a, a))) := by
  induction l using List.reverseRecOn with
  | nil => rfl
  | append_singleton l a ih =>
    rw [foldl_gather_concat, List.map_append, List.map_singleton, ofPairs_concat, gather, names_put,
      names_put, ih]

theorem names_ofPairs (ps : List (Text × α)) : names (ofPairs ps) = (ps.map (·.1)).eraseDups := by
  induction ps using List.reverseRecOn with
  | nil => rfl
  | append_singleton ps p ih =>
    have hcame : p.1 ∈ names (ofPairs ps) ↔ p.1 ∈ ps.map (·.1) := by
      rw [mem_names_ofPairs, List.mem_map]
    rw [ofPairs_concat, names_put, List.map_append, List.eraseDups_append, ← ih]
    by_cases h : p.1 ∈ ps.map (·.1)
    · rw [if_pos (hcame.mpr h)]
      simp [List.removeAll, h]
    · rw [if_neg (hcame.not.mpr h)]
      simp [List.removeAll, h, List.eraseDups_cons]

/-- What a key leads to is all that has it, in order. -/
theorem getD_foldl_gather (key : α → Text) (l : List α) (name : Text) :
    (get? (l.foldl (gather key) []) name).getD [] = l.filter (key · = name) := by
  induction l using List.reverseRecOn with
  | nil => rfl
  | append_singleton l a ih =>
    rw [foldl_gather_concat, gather, get?_put, List.filter_append, ← ih]
    by_cases h : name = key a
    · rw [if_pos h, List.filter_cons, if_pos (decide_eq_true h.symm), h]
      rfl
    · rw [if_neg h, List.filter_cons, if_neg (by simpa using Ne.symm h)]
      exact (List.append_nil _).symm

theorem mem_foldl_gather_iff {g : Text × List α} :
    g ∈ l.foldl (gather key) [] ↔ g.2 = l.filter (key · = g.1) ∧ g.2 ≠ [] := by
  have hnodup : (names (l.foldl (gather key) [])).Nodup := by
    rw [names_foldl_gather]
    exact nodup_names_ofPairs _
  have hname : g.1 ∈ names (l.foldl (gather key) []) ↔ l.filter (key · = g.1) ≠ [] := by
    rw [names_foldl_gather, mem_names_ofPairs, Ne, List.filter_eq_nil_iff]
    simp
  have hall := getD_foldl_gather key l g.1
  constructor
  · intro h
    rw [get?_eq_some_of_mem hnodup (show (g.1, g.2) ∈ _ from h), Option.getD_some] at hall
    rw [← hall] at hname
    exact ⟨hall, hname.mp (List.mem_map_of_mem h)⟩
  · rintro ⟨hgroup, hne⟩
    cases hget : get? (l.foldl (gather key) []) g.1 with
    | none =>
      rw [← hgroup] at hname
      exact absurd (hname.mpr hne) ((get?_eq_none_iff _ _).mp hget)
    | some group =>
      rw [hget, Option.getD_some, ← hgroup] at hall
      rw [hall] at hget
      exact mem_of_get?_eq_some hget

/-- Of two groups the one stands in front whose first member comes first. -/
theorem pairwise_foldl_gather {R : α → α → Prop} (hl : l.Pairwise R) :
    (l.foldl (gather key) []).Pairwise fun g h => ∀ a ∈ g.2.head?, ∀ b ∈ h.2.head?, R a b := by
  have hnames := pairwise_names_ofPairs (l.map fun a => (key a, a))
  have hnodup := nodup_names_ofPairs (l.map fun a => (key a, a))
  rw [← names_foldl_gather] at hnames hnodup
  have horder := (List.pairwise_map.mp hnames).and (List.pairwise_map.mp hnodup)
  refine horder.imp_of_mem fun {g h} hg hh ⟨hbefore, hne⟩ a ha b hb => ?_
  obtain ⟨pairs, p, rest, hsplit, hp, hnot⟩ := hbefore
  obtain ⟨before, tail, rfl, rfl, htail⟩ := List.map_eq_append_iff.mp hsplit
  obtain ⟨c, after, rfl, rfl, rfl⟩ := List.map_eq_cons_iff.mp htail
  have hnone : before.filter (key · = h.1) = [] := by
    rw [List.filter_eq_nil_iff]
    intro v hv
    simpa using hnot _ (List.mem_map_of_mem hv)
  have hother : key c ≠ h.1 := fun heq => hne (hp.symm.trans heq)
  rw [(mem_foldl_gather_iff.mp hg).1, List.filter_append, List.filter_cons,
    if_pos (decide_eq_true hp)] at ha
  rw [(mem_foldl_gather_iff.mp hh).1, List.filter_append, hnone, List.nil_append, List.filter_cons,
    if_neg (by simpa using hother)] at hb
  rw [List.append_cons, List.pairwise_append] at hl
  refine hl.2.2 a ?_ b (List.mem_of_mem_filter (List.mem_of_mem_head? hb))
  -- The first member of the one group is at the latest the one that comes before the other.
  rw [List.head?_append] at ha
  cases hhead : (before.filter (key · = g.1)).head? with
  | none =>
    rw [hhead] at ha
    obtain rfl := Option.some.inj ha
    exact List.mem_append_right _ (List.mem_singleton_self _)
  | some v =>
    rw [hhead] at ha
    obtain rfl := Option.some.inj ha
    exact List.mem_append_left _ (List.mem_of_mem_filter (List.mem_of_mem_head? hhead))

theorem gather_perm (key : α → Text) (groups : Entries (List α)) (a : α) :
    ((gather key groups a).flatMap (·.2)).Perm (groups.flatMap (·.2) ++ [a]) := by
  unfold gather
  induction groups with
  | nil => exact List.Perm.refl _
  | cons g rest ih =>
    obtain ⟨n, group⟩ := g
    by_cases h : n = key a
    · simp only [put, get?, h, if_true, Option.getD_some, List.flatMap_cons, List.append_assoc]
      exact List.perm_append_comm.append_left group
    · simp only [put, get?, h, if_false, List.flatMap_cons, List.append_assoc]
      exact ih.append_left group

/-- Nothing is lost and nothing comes twice. -/
theorem foldl_gather_perm (key : α → Text) (l : List α) :
    ((l.foldl (gather key) []).flatMap (·.2)).Perm l := by
  induction l using List.reverseRecOn with
  | nil => exact .nil
  | append_singleton l a ih =>
    rw [foldl_gather_concat]
    exact (gather_perm key _ a).trans (ih.append_right [a])

end

/-! ## Sums -/

/-- An entry that is put in takes the place of the one with its name. -/
theorem sum_map_put (g : Text × α → Int) (es : Entries α) (name : Text) (a : α) :
    ((put es name a).map g).sum
      = (es.map g).sum + g (name, a) - ((get? es name).map fun b => g (name, b)).getD 0 := by
  induction es with
  | nil => simp [put, get?]
  | cons e rest ih =>
    obtain ⟨n, b⟩ := e
    by_cases h : n = name
    · subst h
      simp only [put, get?, if_true, List.map_cons, List.sum_cons, Option.map_some,
        Option.getD_some]
      ring
    · simp only [put, get?, h, if_false, List.map_cons, List.sum_cons, ih]
      ring

theorem sum_map_count (f : Text → Int) (es : Entries Int) (name : Text) :
    ((count es name).map fun e => f e.1 * e.2).sum
      = (es.map fun e => f e.1 * e.2).sum + f name := by
  rw [count, sum_map_put]
  cases get? es name with
  | none => simp
  | some n =>
    simp only [Option.map_some, Option.getD_some]
    ring

/-- With a weight for each name, the counts weigh what all that was counted weighs. -/
theorem sum_map_tally (f : Text → Int) (ns : List Text) :
    ((tally ns).map fun e => f e.1 * e.2).sum = (ns.map f).sum := by
  suffices haux : ∀ (ns : List Text) (es : Entries Int),
      ((ns.foldl count es).map fun e => f e.1 * e.2).sum
        = (es.map fun e => f e.1 * e.2).sum + (ns.map f).sum by
    have h := haux ns []
    rw [List.map_nil, List.sum_nil, zero_add] at h
    exact h
  clear ns
  intro ns
  induction ns with
  | nil => intro es; simp
  | cons n ns ih =>
    intro es
    rw [List.foldl_cons, ih, sum_map_count, List.map_cons, List.sum_cons, add_assoc]

theorem sum_values_tally (ns : List Text) : (values (tally ns)).sum = ns.length := by
  have h := sum_map_tally (fun _ => 1) ns
  simpa [values] using h

/-! ## Tallies -/

theorem get?_count (es : Entries Int) (name other : Text) :
    get? (count es name) other
      = if other = name then some ((get? es name).getD 0 + 1) else get? es other := by
  rw [count, get?_put]

theorem nodup_names_tally (ns : List Text) : (names (tally ns)).Nodup := by
  suffices haux : ∀ (ns : List Text) (es : Entries Int), (names es).Nodup →
      (names (ns.foldl count es)).Nodup from haux ns [] List.nodup_nil
  clear ns
  intro ns
  induction ns with
  | nil => intro es h; exact h
  | cons n ns ih =>
    intro es h
    exact ih (count es n) (nodup_names_put h n _)

/-- How a tally holds a number: there is no entry for zero. -/
def stored (n : Nat) : Option Int :=
  if n = 0 then none else some n

/-- A tally leads from what was counted to how often, and from nothing else to anything. -/
theorem get?_tally (ns : List Text) (name : Text) :
    get? (tally ns) name = stored (ns.count name) := by
  -- Counts that are there already are added to, so the induction is for any of them.
  suffices haux : ∀ (ns : List Text) (es : Entries Int), get? (ns.foldl count es) name
      = if ns.count name = 0 then get? es name else some ((get? es name).getD 0 + ns.count name) by
    rw [tally, haux, stored]
    simp [get?]
  clear ns
  intro ns
  induction ns with
  | nil => intro es; simp
  | cons n ns ih =>
    intro es
    rw [List.foldl_cons, ih (count es n), get?_count]
    by_cases hn : name = n
    · subst hn
      rw [if_pos rfl, List.count_cons_self, if_neg (Nat.succ_ne_zero _)]
      split
      · next hzero => rw [hzero, Nat.zero_add, Nat.cast_one]
      · rw [Option.getD_some, Nat.cast_add, Nat.cast_one, add_assoc, add_comm (1 : Int)]
    · rw [if_neg hn, List.count_cons_of_ne (Ne.symm hn)]

/-- No count in a tally is zero. -/
theorem ne_zero_of_mem_tally {ns : List Text} {e : Text × Int} (h : e ∈ tally ns) : e.2 ≠ 0 := by
  have hget := get?_eq_some_of_mem (nodup_names_tally ns) (show (e.1, e.2) ∈ tally ns from h)
  rw [get?_tally, stored] at hget
  split at hget
  · exact absurd hget (by simp)
  · next hne =>
    rw [← Option.some.inj hget]
    exact_mod_cast hne

theorem mem_of_mem_tally {ns : List Text} {e : Text × Int} (h : e ∈ tally ns) : e.1 ∈ ns := by
  have hget := get?_eq_some_of_mem (nodup_names_tally ns) (show (e.1, e.2) ∈ tally ns from h)
  by_contra hnot
  rw [get?_tally, stored, if_pos (List.count_eq_zero_of_not_mem hnot)] at hget
  exact absurd hget (by simp)

end CodeReview.Entries
