import Mathlib.Data.List.Forall2

/-!
# Steps that may fail, taken for all members of a list

Such steps give a list if all of them succeed, and otherwise the failure of the first that does not.
-/

namespace CodeReview.Steps

variable {ε α β : Type} {f : α → Except ε β}

theorem bind_ok {x : Except ε α} {b : β} (h : x >>= f = .ok b) :
    ∃ a, x = .ok a ∧ f a = .ok b := by
  cases x with
  | ok a => exact ⟨a, rfl, h⟩
  | error e => exact nomatch h

theorem exists_ok_of_isSome {x : Except ε α} (h : x.toOption.isSome = true) :
    ∃ a, x = .ok a := by
  cases x with
  | ok a => exact ⟨a, rfl⟩
  | error e => exact nomatch h

/-- Steps of which each gives something, whatever the one before it gave. -/
theorem exists_bind {x : Except ε α} (hx : ∃ a, x = .ok a)
    (hf : ∀ a, ∃ b, f a = .ok b) : ∃ b, x >>= f = .ok b := by
  obtain ⟨a, rfl⟩ := hx
  exact hf a

variable {as : List α} {bs : List β}

theorem mapM_cons_ok {a : α} {b : β}
    (h : f a = .ok b) (hs : as.mapM f = .ok bs) : (a :: as).mapM f = .ok (b :: bs) := by
  rw [List.mapM_cons, h, hs]
  rfl

/-- Steps of which each gives something right give a list of right things. -/
theorem exists_mapM_ok {P : α → β → Prop}
    (h : ∀ a ∈ as, ∃ b, f a = .ok b ∧ P a b) : ∃ bs, as.mapM f = .ok bs ∧ List.Forall₂ P as bs := by
  induction as with
  | nil => exact ⟨[], rfl, .nil⟩
  | cons a as ih =>
    obtain ⟨b, hb, hP⟩ := h a List.mem_cons_self
    obtain ⟨bs, hbs, hall⟩ := ih fun x hx => h x (List.mem_cons_of_mem _ hx)
    exact ⟨b :: bs, mapM_cons_ok hb hbs, .cons hP hall⟩

/-- Steps that all succeed give what each of them gives. -/
theorem mapM_ok {g : α → β} (h : ∀ a ∈ as, f a = .ok (g a)) :
    as.mapM f = .ok (as.map g) := by
  induction as with
  | nil => rfl
  | cons a as ih =>
    exact mapM_cons_ok (h a List.mem_cons_self) (ih fun x hx => h x (List.mem_cons_of_mem _ hx))

/-- Steps that differ from others only in what they make of the result. -/
theorem mapM_eq_map {f g : α → Except ε β} {change : β → β}
    (h : ∀ a, f a = (g a).map change) : as.mapM f = (as.mapM g).map (List.map change) := by
  induction as with
  | nil => rfl
  | cons a as ih =>
    rw [List.mapM_cons, List.mapM_cons, h, ih]
    cases g a with
    | error e => rfl
    | ok b => cases as.mapM g <;> rfl

theorem exists_mapM (h : ∀ a ∈ as, ∃ b, f a = .ok b) :
    ∃ bs, as.mapM f = .ok bs := by
  obtain ⟨bs, hbs, _⟩ := exists_mapM_ok fun a ha => (h a ha).imp fun b hb => ⟨hb, hb⟩
  exact ⟨bs, hbs⟩

/-- Steps that give a list give its members one by one. -/
theorem forall₂_of_mapM (h : as.mapM f = .ok bs) : List.Forall₂ (fun a b => f a = .ok b) as bs := by
  induction as generalizing bs with
  | nil =>
    obtain rfl := Except.ok.inj h
    exact .nil
  | cons a as ih =>
    rw [List.mapM_cons] at h
    obtain ⟨first, hfirst, h⟩ := bind_ok h
    obtain ⟨rest, hrest, h⟩ := bind_ok h
    obtain rfl := Except.ok.inj h
    exact .cons hfirst (ih hrest)

theorem exists_mem_of_mapM
    (h : as.mapM f = .ok bs) {a : α} (ha : a ∈ as) : ∃ b ∈ bs, f a = .ok b := by
  have hall := forall₂_of_mapM h
  clear h
  induction hall with
  | nil => exact absurd ha List.not_mem_nil
  | cons hfirst _ ih =>
    rcases List.mem_cons.mp ha with rfl | ha
    · exact ⟨_, List.mem_cons_self, hfirst⟩
    · obtain ⟨b, hb, hab⟩ := ih ha
      exact ⟨b, List.mem_cons_of_mem _ hb, hab⟩

theorem exists_mapM_iff :
    (∃ bs, as.mapM f = .ok bs) ↔ ∀ a ∈ as, ∃ b, f a = .ok b := by
  constructor
  · rintro ⟨bs, hbs⟩ a ha
    obtain ⟨b, _, hb⟩ := exists_mem_of_mapM hbs ha
    exact ⟨b, hb⟩
  · exact exists_mapM

/-- What is made of a result is there if the result is. -/
theorem exists_map_iff {x : Except ε α} {f : α → β} :
    (∃ b, (do return f (← x)) = .ok b) ↔ ∃ a, x = .ok a := by
  cases x with
  | ok a => exact ⟨fun _ => ⟨a, rfl⟩, fun _ => ⟨f a, rfl⟩⟩
  | error e =>
    constructor
    · rintro ⟨b, hb⟩
      exact nomatch hb
    · rintro ⟨a, ha⟩
      exact nomatch ha

/-- What steps give comes from one of them. -/
theorem exists_of_mem_mapM
    (h : as.mapM f = .ok bs) {b : β} (hb : b ∈ bs) : ∃ a ∈ as, f a = .ok b := by
  induction as generalizing bs with
  | nil =>
    obtain rfl := Except.ok.inj h
    exact absurd hb List.not_mem_nil
  | cons a as ih =>
    rw [List.mapM_cons] at h
    obtain ⟨first, hfirst, h⟩ := bind_ok h
    obtain ⟨rest, hrest, h⟩ := bind_ok h
    obtain rfl := Except.ok.inj h
    rcases List.mem_cons.mp hb with rfl | hin
    · exact ⟨a, List.mem_cons_self, hfirst⟩
    · obtain ⟨x, hx, hfx⟩ := ih hrest hin
      exact ⟨x, List.mem_cons_of_mem _ hx, hfx⟩

/-- If there is only one way to fail, one failing step makes all fail in this way. -/
theorem mapM_error {e : ε}
    (hway : ∀ a ∈ as, (∃ b, f a = .ok b) ∨ f a = .error e) (hbad : ∃ a ∈ as, f a = .error e) :
    as.mapM f = .error e := by
  induction as with
  | nil =>
    obtain ⟨a, ha, _⟩ := hbad
    exact absurd ha List.not_mem_nil
  | cons a as ih =>
    rw [List.mapM_cons]
    rcases hway a List.mem_cons_self with ⟨b, hb⟩ | herr
    · have hrest : ∃ x ∈ as, f x = .error e := by
        obtain ⟨x, hx, hfx⟩ := hbad
        rcases List.mem_cons.mp hx with rfl | hin
        · exact absurd (hb.symm.trans hfx) (by simp)
        · exact ⟨x, hin, hfx⟩
      rw [hb, ih (fun x hx => hway x (List.mem_cons_of_mem _ hx)) hrest]
      rfl
    · rw [herr]
      rfl

/-- Tests that all succeed pick what their answers pick. -/
theorem filterM_ok {f : α → Except ε Bool} {test : α → Bool}
    (h : ∀ a ∈ as, f a = .ok (test a)) : as.filterM f = .ok (as.filter test) := by
  -- What has been picked so far is held in reverse, so the induction is for any of it.
  suffices haux : ∀ picked, as.filterAuxM f picked = .ok ((as.filter test).reverse ++ picked) by
    rw [List.filterM, haux]
    change Except.ok ((as.filter test).reverse ++ []).reverse = _
    rw [List.append_nil, List.reverse_reverse]
  induction as with
  | nil => intro picked; rfl
  | cons a as ih =>
    intro picked
    have hrest := ih fun x hx => h x (List.mem_cons_of_mem _ hx)
    rw [List.filterAuxM, h a List.mem_cons_self]
    change as.filterAuxM f (cond (test a) (a :: picked) picked) = _
    rw [hrest, List.filter_cons]
    cases test a with
    | true => simp
    | false => simp

theorem filterM_error {f : α → Except ε Bool} {a : α} {e : ε} (h : f a = .error e) (as : List α) :
    (a :: as).filterM f = .error e := by
  rw [List.filterM, List.filterAuxM, h]
  rfl

/-- Reading back what was read off each member. -/
theorem mapM_of_forall₂ {γ : Type} {g : β → Option γ} {c : α → γ}
    (h : List.Forall₂ (fun a b => g b = some (c a)) as bs) : bs.mapM g = some (as.map c) := by
  induction h with
  | nil => rfl
  | cons hab _ ih => rw [List.mapM_cons, hab, ih, List.map_cons]; rfl

end CodeReview.Steps
