import CodeReview.Rules.Basic
import Mathlib.Data.List.Induction
import Mathlib.Data.List.Nodup

/-!
# Rule sets and the calls on them

A set of rules is what the calls on it have made of an empty set: rules are added, removed and
switched on and off, in any order and as often as one likes. What a name leads to is settled by the
calls with this name alone, namely by the last addition that no removal followed and by the switches
after it. The order of the rules is the order in which their names came into the set: a name that
is added again keeps its place, one that was removed in between has lost it.
-/

namespace CodeReview

/-- A rule that is switched, if at all. -/
def Rule.switched (r : Rule) (on : Option Bool) : Rule :=
  { r with enabled := on.getD r.enabled }

@[simp] theorem Rule.switched_none (r : Rule) : r.switched none = r := rfl

theorem Rule.switched_switched (r : Rule) (ons : List Bool) (on : Option Bool) :
    (r.switched ons.getLast?).switched on = r.switched (ons ++ on.toList).getLast? := by
  cases on with
  | none => simp
  | some b => simp [Rule.switched]

namespace RuleSet

/-- A call on a set of rules. A rule is added as it is at the time of the call; a switch is
`enable` or `disable`. -/
inductive Call where
  | add (r : Rule)
  | remove (id : Text)
  | switch (id : Text) (on : Bool)

namespace Call

/-- The name that a call is about. -/
def id : Call → Text
  | add r => r.id
  | remove id | switch id _ => id

/-- Adds a rule of this name. -/
def Adds (name : Text) (c : Call) : Prop :=
  ∃ r, c = .add r ∧ r.id = name

/-- How a call switches the rule of a name. -/
def switch? (name : Text) : Call → Option Bool
  | switch id on => if id = name then some on else none
  | _ => none

end Call

def apply (s : RuleSet) : Call → RuleSet
  | .add r => s.add r
  | .remove id => s.remove id
  | .switch id true => s.enable id
  | .switch id false => s.disable id

theorem apply_switch (s : RuleSet) (id : Text) (on : Bool) :
    s.apply (.switch id on) = s.switch id on := by
  cases on <;> rfl

/-- The set that calls make of an empty one. -/
def after (name : Text) (calls : List Call) : RuleSet :=
  calls.foldl apply { name := name }

theorem after_concat (name : Text) (calls : List Call) (c : Call) :
    after name (calls ++ [c]) = (after name calls).apply c := by
  rw [after, List.foldl_append]
  rfl

/-! ## One call -/

variable {s : RuleSet} {calls : List Call} {c : Call} {id : Text}

/-- A change in place that keeps the names of rules changes what a name leads to. -/
theorem find?_map_of_id {change : Rule → Rule} (h : ∀ q, (change q).id = q.id) (rules : List Rule)
    (id : Text) :
    (rules.map change).find? (fun q => q.id = id)
      = (rules.find? fun q => q.id = id).map change := by
  rw [List.find?_map]
  simp only [Function.comp_def, h]

theorem id_replaced (r q : Rule) : (if q.id = r.id then r else q).id = q.id := by
  split
  · next h => exact h.symm
  · rfl

theorem id_switched (name : Text) (on : Bool) (q : Rule) :
    (if q.id = name then { q with enabled := on } else q).id = q.id := by
  split <;> rfl

theorem get?_add (s : RuleSet) (r : Rule) (id : Text) :
    (s.add r).get? id = if r.id = id then some r else s.get? id := by
  unfold get? add
  dsimp only
  split
  · next hany =>
    rw [find?_map_of_id (id_replaced r)]
    cases hfind : s.rules.find? fun q => q.id = id with
    | none =>
      -- Some rule has the name of the added one, so that name is not the one that is looked for.
      obtain ⟨q, hq, hid⟩ := List.any_eq_true.mp hany
      have hne := List.find?_eq_none.mp hfind q hq
      simp only [decide_eq_true_eq] at hid hne
      rw [if_neg (hid ▸ hne)]
      rfl
    | some q =>
      obtain rfl : q.id = id := by simpa using List.find?_some hfind
      simp only [Option.map_some, eq_comm (a := q.id)]
      split <;> rfl
  · next hany =>
    rw [List.find?_append]
    by_cases hid : r.id = id
    · have hnone : s.rules.find? (fun q => q.id = id) = none := by
        rw [← hid]
        simpa [List.find?_eq_none] using hany
      rw [hnone, if_pos hid]
      simp [hid]
    · rw [if_neg hid]
      simp [hid]

theorem get?_remove (s : RuleSet) (name id : Text) :
    (s.remove name).get? id = if name = id then none else s.get? id := by
  unfold get? remove
  dsimp only
  rw [List.find?_filter]
  split
  · next h =>
    subst h
    simp [List.find?_eq_none]
  · next h =>
    congr 1
    funext q
    by_cases hq : q.id = id
    · simp [hq, Ne.symm h]
    · simp [hq]

theorem get?_switch (s : RuleSet) (name id : Text) (on : Bool) :
    (s.switch name on).get? id
      = (s.get? id).map (Rule.switched · (if name = id then some on else none)) := by
  unfold get? switch
  dsimp only
  rw [find?_map_of_id (id_switched name on)]
  cases hfind : s.rules.find? fun q => q.id = id with
  | none => rfl
  | some q =>
    obtain rfl : q.id = id := by simpa using List.find?_some hfind
    simp only [Option.map_some, eq_comm (a := q.id)]
    split <;> rfl

/-- What a name leads to after a call: the rule that is added, or the rule from before unless it is
removed, switched as the call says. -/
theorem get?_apply_eq_some_iff {q : Rule} :
    (s.apply c).get? id = some q
      ↔ (c = .add q ∧ q.id = id)
        ∨ (¬ c.Adds id ∧ c ≠ .remove id
          ∧ ∃ p, s.get? id = some p ∧ q = p.switched (c.switch? id)) := by
  cases c with
  | add r =>
    rw [apply, get?_add]
    by_cases h : r.id = id
    · have hadds : (Call.add r).Adds id := ⟨r, rfl, h⟩
      simp only [h, hadds, if_true, Option.some.injEq, Call.add.injEq, not_true, false_and,
        or_false]
      constructor
      · rintro rfl
        exact ⟨rfl, h⟩
      · exact And.left
    · have hadds : ¬ (Call.add r).Adds id := by
        rintro ⟨r', heq, hid⟩
        cases heq
        exact h hid
      have hother : ¬ (Call.add r = .add q ∧ q.id = id) := by
        rintro ⟨heq, hid⟩
        exact hadds ⟨q, heq, hid⟩
      rw [if_neg h, or_iff_right hother]
      simp [hadds, Call.switch?]
  | remove name =>
    rw [apply, get?_remove]
    by_cases h : name = id
    · simp [h]
    · simp [h, Call.Adds, Call.switch?]
  | switch name on =>
    rw [apply_switch, get?_switch]
    simp [Call.Adds, Call.switch?, eq_comm (a := q)]

/-- A call with another name changes nothing. -/
theorem get?_apply_of_ne (h : c.id ≠ id) : (s.apply c).get? id = s.get? id := by
  cases c with
  | add r =>
    have hne : r.id ≠ id := h
    rw [apply, get?_add, if_neg hne]
  | remove name =>
    have hne : name ≠ id := h
    rw [apply, get?_remove, if_neg hne]
  | switch name on =>
    have hne : name ≠ id := h
    rw [apply_switch, get?_switch, if_neg hne]
    exact Option.map_id'

/-- The names of the rules, in order. -/
def ids (s : RuleSet) : List Text :=
  s.rules.map (·.id)

theorem map_id_of_id {change : Rule → Rule} (h : ∀ q, (change q).id = q.id) (rules : List Rule) :
    (rules.map change).map (·.id) = rules.map (·.id) := by
  rw [List.map_map]
  exact List.map_congr_left fun q _ => h q

theorem ids_add (s : RuleSet) (r : Rule) :
    (s.add r).ids = if r.id ∈ s.ids then s.ids else s.ids ++ [r.id] := by
  have hany : (s.rules.any fun q => q.id = r.id) = true ↔ r.id ∈ s.ids := by
    simp [ids]
  unfold ids add
  dsimp only
  split
  · next h =>
    rw [map_id_of_id (id_replaced r)]
    exact (if_pos (hany.mp h)).symm
  · next h =>
    rw [List.map_append]
    exact (if_neg (mt hany.mpr h)).symm

theorem ids_remove (s : RuleSet) (name : Text) : (s.remove name).ids = s.ids.filter (· ≠ name) := by
  unfold ids remove
  dsimp only
  rw [List.filter_map]
  rfl

theorem ids_switch (s : RuleSet) (name : Text) (on : Bool) : (s.switch name on).ids = s.ids :=
  map_id_of_id (id_switched name on) s.rules

theorem nodup_ids_apply (h : s.ids.Nodup) (c : Call) : (s.apply c).ids.Nodup := by
  cases c with
  | add r =>
    rw [apply, ids_add]
    split
    · exact h
    · next hnew =>
      refine List.nodup_append.mpr ⟨h, List.nodup_singleton _, ?_⟩
      intro id hid other hother
      rw [List.mem_singleton.mp hother]
      rintro rfl
      exact hnew hid
  | remove name =>
    rw [apply, ids_remove]
    exact h.filter _
  | switch name on =>
    rw [apply_switch, ids_switch]
    exact h

theorem mem_ids_apply_iff :
    id ∈ (s.apply c).ids ↔ c.Adds id ∨ (id ∈ s.ids ∧ c ≠ .remove id) := by
  cases c with
  | add r =>
    rw [apply, ids_add]
    have hadds : (Call.add r).Adds id ↔ id = r.id := by simp [Call.Adds, eq_comm]
    rw [hadds]
    split
    · next hin =>
      simp only [ne_eq, reduceCtorEq, not_false_eq_true, and_true]
      exact ⟨.inr, fun h => h.elim (fun heq => heq ▸ hin) fun h => h⟩
    · simp [or_comm]
  | remove name =>
    rw [apply, ids_remove]
    simp [Call.Adds, ne_comm]
  | switch name on =>
    rw [apply_switch, ids_switch]
    simp [Call.Adds]

theorem get?_eq_some_iff (h : s.ids.Nodup) {q : Rule} :
    s.get? id = some q ↔ q ∈ s.rules ∧ q.id = id := by
  constructor
  · intro hget
    exact ⟨List.mem_of_find?_eq_some hget, by simpa using List.find?_some hget⟩
  · rintro ⟨hq, rfl⟩
    cases hfind : s.get? q.id with
    | none =>
      have hne := List.find?_eq_none.mp hfind q hq
      simp at hne
    | some r =>
      have hr := List.mem_of_find?_eq_some hfind
      have hid : r.id = q.id := by simpa using List.find?_some hfind
      rw [List.inj_on_of_nodup_map h hr hq hid]

/-! ## What a name leads to -/

/-- The rule of the last addition of a name that no removal of it followed, switched as it was last
since then. -/
def Current (calls : List Call) (id : Text) (q : Rule) : Prop :=
  ∃ before r later, calls = before ++ .add r :: later ∧ r.id = id
    ∧ (∀ c ∈ later, ¬ c.Adds id ∧ c ≠ .remove id)
    ∧ q = r.switched (later.filterMap (Call.switch? id)).getLast?

theorem switches_concat (calls : List Call) (c : Call) (id : Text) :
    (calls ++ [c]).filterMap (Call.switch? id)
      = calls.filterMap (Call.switch? id) ++ (c.switch? id).toList := by
  rw [List.filterMap_append]
  cases h : c.switch? id <;> simp [h]

/-- One more call settles what a name leads to just as it does on a set. -/
theorem current_concat_iff {q : Rule} :
    Current (calls ++ [c]) id q
      ↔ (c = .add q ∧ q.id = id)
        ∨ (¬ c.Adds id ∧ c ≠ .remove id
          ∧ ∃ p, Current calls id p ∧ q = p.switched (c.switch? id)) := by
  constructor
  · rintro ⟨before, r, later, hcalls, hid, hlater, rfl⟩
    -- The addition that counts is this last call, or it is in the history before it.
    rcases List.eq_nil_or_concat' later with rfl | ⟨later, last, rfl⟩
    · obtain ⟨-, hlast⟩ := List.append_inj' hcalls rfl
      cases hlast
      exact .inl ⟨rfl, hid⟩
    · rw [← List.cons_append, ← List.append_assoc] at hcalls
      obtain ⟨rfl, hlast⟩ := List.append_inj' hcalls rfl
      cases hlast
      obtain ⟨hearlier, hc⟩ := List.forall_mem_append.mp hlater
      obtain ⟨hadds, hremove⟩ := hc c List.mem_cons_self
      refine .inr ⟨hadds, hremove, _, ⟨before, r, later, rfl, hid, hearlier, rfl⟩, ?_⟩
      rw [Rule.switched_switched, switches_concat]
  · rintro (⟨rfl, hid⟩ | ⟨hadds, hremove, p, ⟨before, r, later, rfl, hid, hlater, rfl⟩, rfl⟩)
    · exact ⟨calls, q, [], rfl, hid, List.forall_mem_nil _, rfl⟩
    · refine ⟨before, r, later ++ [c], by simp, hid, ?_, ?_⟩
      · rw [List.forall_mem_append, List.forall_mem_singleton]
        exact ⟨hlater, hadds, hremove⟩
      · rw [Rule.switched_switched, switches_concat]

/-- A name leads to the rule that the history of calls says. -/
theorem get?_after_eq_some_iff (name : Text) (calls : List Call) (id : Text) (q : Rule) :
    (after name calls).get? id = some q ↔ Current calls id q := by
  induction calls using List.reverseRecOn generalizing q with
  | nil =>
    constructor
    · exact nofun
    · rintro ⟨before, r, later, hcalls, -⟩
      exact absurd hcalls (by simp)
  | append_singleton calls c ih =>
    rw [after_concat, get?_apply_eq_some_iff, current_concat_iff]
    simp only [ih]

theorem nodup_ids_after (name : Text) (calls : List Call) : (after name calls).ids.Nodup := by
  induction calls using List.reverseRecOn with
  | nil => exact List.nodup_nil
  | append_singleton calls c ih =>
    rw [after_concat]
    exact nodup_ids_apply ih c

/-! ## Which rule comes first -/

/-- A call of the history adds a name, and no later one removes it. -/
structure StandsAt (calls : List Call) (k : Nat) (id : Text) : Prop where
  added : ∃ c, calls[k]? = some c ∧ c.Adds id
  kept : ∀ j, k < j → calls[j]? ≠ some (.remove id)

/-- The first addition of a name since its last removal. -/
structure EntersAt (calls : List Call) (k : Nat) (id : Text) : Prop extends
    StandsAt calls k id where
  fresh : ∀ i c, i < k → calls[i]? = some c → c.Adds id →
    ∃ j, i < j ∧ j < k ∧ calls[j]? = some (.remove id)

theorem StandsAt.lt {k : Nat} (h : StandsAt calls k id) : k < calls.length := by
  obtain ⟨c, hc, _⟩ := h.added
  exact (List.getElem?_eq_some_iff.mp hc).1

theorem EntersAt.unique {i j : Nat} (hi : EntersAt calls i id) (hj : EntersAt calls j id) :
    i = j := by
  by_contra hne
  rcases Nat.lt_or_gt_of_ne hne with hlt | hlt
  · obtain ⟨c, hc, hadds⟩ := hi.added
    obtain ⟨k, hik, -, hk⟩ := hj.fresh i c hlt hc hadds
    exact hi.kept k hik hk
  · obtain ⟨c, hc, hadds⟩ := hj.added
    obtain ⟨k, hjk, -, hk⟩ := hi.fresh j c hlt hc hadds
    exact hj.kept k hjk hk

theorem getElem?_concat_eq_some_iff {k : Nat} {d : Call} :
    (calls ++ [c])[k]? = some d ↔ calls[k]? = some d ∨ (k = calls.length ∧ c = d) := by
  rcases Nat.lt_trichotomy k calls.length with hlt | rfl | hgt
  · rw [List.getElem?_append_left hlt]
    simp [Nat.ne_of_lt hlt]
  · simp
  · have hlen : (calls ++ [c]).length ≤ k := by simp; omega
    rw [List.getElem?_eq_none hlen, List.getElem?_eq_none (Nat.le_of_lt hgt)]
    simp [Nat.ne_of_gt hgt]

theorem standsAt_concat_iff {k : Nat} :
    StandsAt (calls ++ [c]) k id
      ↔ (StandsAt calls k id ∧ c ≠ .remove id) ∨ (k = calls.length ∧ c.Adds id) := by
  constructor
  · rintro ⟨⟨d, hd, hadds⟩, hkept⟩
    simp only [ne_eq, getElem?_concat_eq_some_iff, not_or, not_and] at hkept
    rcases getElem?_concat_eq_some_iff.mp hd with hd | ⟨rfl, rfl⟩
    · have hlt := (List.getElem?_eq_some_iff.mp hd).1
      exact .inl ⟨⟨⟨d, hd, hadds⟩, fun j hj => (hkept j hj).1⟩, (hkept _ hlt).2 rfl⟩
    · exact .inr ⟨rfl, hadds⟩
  · rintro (⟨⟨⟨d, hd, hadds⟩, hkept⟩, hc⟩ | ⟨rfl, hadds⟩)
    · refine ⟨⟨d, getElem?_concat_eq_some_iff.mpr (.inl hd), hadds⟩, fun j hj hremove => ?_⟩
      rcases getElem?_concat_eq_some_iff.mp hremove with hremove | ⟨-, hremove⟩
      · exact hkept j hj hremove
      · exact hc hremove
    · refine ⟨⟨c, getElem?_concat_eq_some_iff.mpr (.inr ⟨rfl, rfl⟩), hadds⟩, fun j hj hremove => ?_⟩
      have := (List.getElem?_eq_some_iff.mp hremove).1
      rw [List.length_append, List.length_singleton] at this
      omega

/-- The names in a set are those that were added and not removed since. -/
theorem mem_ids_after_iff (name : Text) (calls : List Call) (id : Text) :
    id ∈ (after name calls).ids ↔ ∃ k, StandsAt calls k id := by
  induction calls using List.reverseRecOn with
  | nil =>
    constructor
    · exact nofun
    · rintro ⟨k, h⟩
      exact absurd h.lt (Nat.not_lt_zero k)
  | append_singleton calls c ih =>
    rw [after_concat, mem_ids_apply_iff, ih]
    simp only [standsAt_concat_iff, exists_or, exists_and_right, exists_eq, true_and, or_comm]

theorem EntersAt.concat {k : Nat} (h : EntersAt calls k id) (hc : c ≠ .remove id) :
    EntersAt (calls ++ [c]) k id := by
  refine ⟨standsAt_concat_iff.mpr (.inl ⟨h.toStandsAt, hc⟩), fun i d hi hd hadds => ?_⟩
  have hlt := h.lt
  rcases getElem?_concat_eq_some_iff.mp hd with hd | ⟨rfl, -⟩
  · obtain ⟨j, hij, hjk, hj⟩ := h.fresh i d hi hd hadds
    exact ⟨j, hij, hjk, getElem?_concat_eq_some_iff.mpr (.inl hj)⟩
  · omega

/-- A name that is not in the set enters with its addition. -/
theorem entersAt_length {name : Text} (hnew : id ∉ (after name calls).ids) (hadds : c.Adds id) :
    EntersAt (calls ++ [c]) calls.length id := by
  refine ⟨standsAt_concat_iff.mpr (.inr ⟨rfl, hadds⟩), fun i d hi hd hadd => ?_⟩
  rcases getElem?_concat_eq_some_iff.mp hd with hd | ⟨rfl, -⟩
  · -- Otherwise the earlier addition would still stand.
    by_contra hnone
    refine hnew ((mem_ids_after_iff name calls id).mpr ⟨i, ⟨d, hd, hadd⟩, fun j hj hremove => ?_⟩)
    have hjlt := (List.getElem?_eq_some_iff.mp hremove).1
    exact hnone ⟨j, hj, hjlt, getElem?_concat_eq_some_iff.mpr (.inl hremove)⟩
  · omega

theorem exists_entersAt (name : Text) {calls : List Call} {id : Text}
    (h : id ∈ (after name calls).ids) : ∃ k, EntersAt calls k id := by
  induction calls using List.reverseRecOn with
  | nil => exact nomatch h
  | append_singleton calls c ih =>
    rw [after_concat, mem_ids_apply_iff] at h
    -- A name that is there already keeps the place at which it entered.
    by_cases hin : id ∈ (after name calls).ids
    · obtain ⟨k, hk⟩ := ih hin
      have hc : c ≠ .remove id := by
        rcases h with ⟨r, rfl, -⟩ | ⟨-, hc⟩
        · exact nofun
        · exact hc
      exact ⟨k, hk.concat hc⟩
    · exact ⟨_, entersAt_length hin (h.resolve_right fun h => hin h.1)⟩

/-- The names stand in the order in which they entered. -/
theorem pairwise_ids_after (name : Text) (calls : List Call) :
    (after name calls).ids.Pairwise fun a b =>
      ∃ i j, i < j ∧ EntersAt calls i a ∧ EntersAt calls j b := by
  induction calls using List.reverseRecOn with
  | nil => exact .nil
  | append_singleton calls c ih =>
    have hlonger : ∀ {a b : Text}, c ≠ .remove a → c ≠ .remove b →
        (∃ i j, i < j ∧ EntersAt calls i a ∧ EntersAt calls j b) →
        ∃ i j, i < j ∧ EntersAt (calls ++ [c]) i a ∧ EntersAt (calls ++ [c]) j b := by
      rintro a b ha hb ⟨i, j, hij, hi, hj⟩
      exact ⟨i, j, hij, hi.concat ha, hj.concat hb⟩
    rw [after_concat]
    cases c with
    | add r =>
      have hold := ih.imp (hlonger nofun nofun)
      rw [apply, ids_add]
      split
      · exact hold
      · next hnew =>
        refine List.pairwise_append.mpr ⟨hold, List.pairwise_singleton _ _, fun a ha b hb => ?_⟩
        rw [List.mem_singleton.mp hb]
        obtain ⟨i, hi⟩ := exists_entersAt name ha
        exact ⟨i, calls.length, hi.lt, hi.concat nofun, entersAt_length hnew ⟨r, rfl, rfl⟩⟩
    | remove gone =>
      rw [apply, ids_remove]
      refine (ih.filter _).imp_of_mem fun ha hb => hlonger ?_ ?_
      · rintro ⟨rfl⟩
        simp at ha
      · rintro ⟨rfl⟩
        simp at hb
    | switch other on =>
      rw [apply_switch, ids_switch]
      exact ih.imp (hlonger nofun nofun)

/-! ## What the rules find -/

/-- The issues of all rules that are switched on and do not fail, rule by rule. -/
theorem checkAll_eq (s : RuleSet) (subject : Subject) (tree : Option Source.Node) :
    s.checkAll subject tree
      = (s.rules.filterMap fun q =>
          if q.enabled then (q.checker q.findings subject tree).toOption else none).flatten := by
  unfold checkAll enabledRules
  induction s.rules with
  | nil => rfl
  | cons q rules ih =>
    cases hon : q.enabled with
    | false => simpa [hon] using ih
    | true =>
      cases hcheck : q.checker q.findings subject tree with
      | ok issues => simpa [hon, Rule.check, hcheck, Except.toOption] using ih
      | error f => simpa [hon, Rule.check, hcheck, Except.toOption] using ih

/-- What a set of rules makes of the calls on it. -/
structure Reflects (s : RuleSet) (calls : List Call) : Prop where
  distinct : (s.rules.map (·.id)).Nodup
  named : ∀ id q, s.get? id = some q ↔ q ∈ s.rules ∧ q.id = id
  current : ∀ id q, s.get? id = some q ↔ Current calls id q
  entered : ∀ q ∈ s.rules, ∃ k, EntersAt calls k q.id
  ordered : s.rules.Pairwise fun q r =>
    ∀ i j, EntersAt calls i q.id → EntersAt calls j r.id → i < j
  apart : ∀ c id, c.id ≠ id → (s.apply c).get? id = s.get? id
  checked : ∀ subject tree, s.checkAll subject tree
    = (s.rules.filterMap fun q =>
        if q.enabled then (q.checker q.findings subject tree).toOption else none).flatten

/-- After any calls, a set of rules is what their history says. -/
theorem after_reflects (name : Text) (calls : List Call) : (after name calls).Reflects calls where
  distinct := nodup_ids_after name calls
  named _ _ := get?_eq_some_iff (nodup_ids_after name calls)
  current := get?_after_eq_some_iff name calls
  entered _ hq := exists_entersAt name (List.mem_map_of_mem hq)
  ordered := by
    -- A name enters at one place only, so it does not matter which one is asked for.
    refine (List.pairwise_map.mp (pairwise_ids_after name calls)).imp ?_
    rintro q r ⟨i, j, hij, hi, hj⟩ i' j' hi' hj'
    rw [← hi.unique hi', ← hj.unique hj']
    exact hij
  apart _ _ := get?_apply_of_ne
  checked := checkAll_eq _

end RuleSet

end CodeReview
