import DocQuery.Store.Error
import Mathlib.Data.List.Forall2

/-!
# Tests that can fail

`both` and `either` are the connectives of tests that stop at the first answer that decides, or at the first
failure.  `any`, `all`, `keep` and `traverse` are read off them:

    any t (a :: as) = either (t a) (any t as)                    (any_cons)
    all t (a :: as) = both (t a) (all t as)                      (all_cons)
    traverse f as = ok bs ↔ f relates as and bs, one by one      (traverse_eq_ok_iff)
    keep t as = ok kept → kept = the elements that pass          (eq_filter_of_keep)
    every t a decides → keep t as = ok those that pass           (keep_of_decided)
    tests that agree one by one keep the same places             (keep_forall₂)
-/

namespace DocQuery.Outcome

/-! ## Connectives -/

/-- A test that has to hold first, then another one. -/
def both (first second : Outcome Bool) : Outcome Bool := do
  if ← first then second else pure false

/-- A test, and another one where it does not hold. -/
def either (first second : Outcome Bool) : Outcome Bool := do
  if ← first then pure true else second

theorem both_true_right (a : Outcome Bool) : both a (.ok true) = a := by
  cases a with
  | error e => rfl
  | ok b => cases b <;> rfl

theorem either_false_right (a : Outcome Bool) : either a (.ok false) = a := by
  cases a with
  | error e => rfl
  | ok b => cases b <;> rfl

theorem either_assoc (a b c : Outcome Bool) : either (either a b) c = either a (either b c) := by
  cases a with
  | error e => rfl
  | ok x => cases x <;> rfl

theorem both_assoc (a b c : Outcome Bool) : both (both a b) c = both a (both b c) := by
  cases a with
  | error e => rfl
  | ok x => cases x <;> rfl

theorem both_eq_true_iff (a b : Outcome Bool) : both a b = .ok true ↔ a = .ok true ∧ b = .ok true := by
  cases a with
  | error e => simp [both, bind, Except.bind]
  | ok x => cases x <;> simp [both, bind, Except.bind, pure, Except.pure]

theorem either_eq_true_iff (a b : Outcome Bool) :
    either a b = .ok true ↔ a = .ok true ∨ (a = .ok false ∧ b = .ok true) := by
  cases a with
  | error e => simp [either, bind, Except.bind]
  | ok x => cases x <;> simp [either, bind, Except.bind, pure, Except.pure]

/-! ## Sequences -/

variable {α β : Type}

theorem bind_eq_ok_iff {ε : Type} (a : Except ε α) (f : α → Except ε β) (b : β) :
    a >>= f = .ok b ↔ ∃ x, a = .ok x ∧ f x = .ok b := by
  cases a with
  | error e => simp [bind, Except.bind]
  | ok x => simp [bind, Except.bind]

theorem map_eq_ok_iff {ε : Type} (f : α → β) (a : Except ε α) (b : β) :
    a.map f = .ok b ↔ ∃ x, a = .ok x ∧ f x = b := by
  cases a <;> simp [Except.map]

theorem lift_eq_ok_iff (a : Except StoreError α) (x : α) : lift a = .ok x ↔ a = .ok x := by
  cases a <;> simp [lift]

/-- What every step keeps, a whole pass keeps. -/
theorem foldlM_induction {P : β → Prop} {step : β → α → Outcome β} {as : List α}
    (h : ∀ b, ∀ a ∈ as, ∀ c, P b → step b a = .ok c → P c) {b c : β} (hb : P b)
    (hc : as.foldlM step b = .ok c) : P c := by
  induction as generalizing b with
  | nil => cases hc; exact hb
  | cons a rest ih =>
    rw [List.foldlM_cons, bind_eq_ok_iff] at hc
    obtain ⟨next, hn, hr⟩ := hc
    exact ih (fun b a ha => h b a (List.mem_cons_of_mem _ ha)) (h b a List.mem_cons_self next hb hn) hr

/-! ## Lists of tests -/

theorem any_cons (test : α → Outcome Bool) (a : α) (rest : List α) :
    any test (a :: rest) = either (test a) (any test rest) := rfl

theorem all_cons (test : α → Outcome Bool) (a : α) (rest : List α) :
    all test (a :: rest) = both (test a) (all test rest) := rfl

theorem any_singleton (test : α → Outcome Bool) (a : α) : any test [a] = test a :=
  either_false_right (test a)

theorem all_singleton (test : α → Outcome Bool) (a : α) : all test [a] = test a :=
  both_true_right (test a)

theorem any_map (test : β → Outcome Bool) (f : α → β) (as : List α) :
    any test (as.map f) = any (fun a => test (f a)) as := by
  induction as with
  | nil => rfl
  | cons a rest ih => rw [List.map_cons, any_cons, any_cons, ih]

theorem all_map (test : β → Outcome Bool) (f : α → β) (as : List α) :
    all test (as.map f) = all (fun a => test (f a)) as := by
  induction as with
  | nil => rfl
  | cons a rest ih => rw [List.map_cons, all_cons, all_cons, ih]

theorem all_append (test : α → Outcome Bool) (as bs : List α) :
    all test (as ++ bs) = both (all test as) (all test bs) := by
  induction as with
  | nil => rfl
  | cons a rest ih => rw [List.cons_append, all_cons, all_cons, ih, both_assoc]

theorem any_append (test : α → Outcome Bool) (as bs : List α) :
    any test (as ++ bs) = either (any test as) (any test bs) := by
  induction as with
  | nil => rfl
  | cons a rest ih => rw [List.cons_append, any_cons, any_cons, ih, either_assoc]

theorem any_congr {test other : α → Outcome Bool} {as : List α} (h : ∀ a ∈ as, test a = other a) :
    any test as = any other as := by
  induction as with
  | nil => rfl
  | cons a rest ih =>
    rw [any_cons, any_cons, h a List.mem_cons_self, ih fun b hb => h b (List.mem_cons_of_mem a hb)]

theorem all_congr {test other : α → Outcome Bool} {as : List α} (h : ∀ a ∈ as, test a = other a) :
    all test as = all other as := by
  induction as with
  | nil => rfl
  | cons a rest ih =>
    rw [all_cons, all_cons, h a List.mem_cons_self, ih fun b hb => h b (List.mem_cons_of_mem a hb)]

/-! ## Tests that decide -/

/-- A test that answers. -/
def Decides (a : Outcome Bool) : Prop := ∃ b, a = .ok b

theorem decides_ok (b : Bool) : Decides (.ok b) := ⟨b, rfl⟩

theorem Decides.map_not {a : Outcome Bool} (h : a.Decides) : Decides (a.map (!·)) := by
  obtain ⟨b, rfl⟩ := h
  exact ⟨!b, rfl⟩

theorem Decides.both {a b : Outcome Bool} (ha : a.Decides) (hb : b.Decides) : Decides (both a b) := by
  obtain ⟨x, rfl⟩ := ha
  cases x with
  | true => exact hb
  | false => exact decides_ok false

theorem Decides.either {a b : Outcome Bool} (ha : a.Decides) (hb : b.Decides) : Decides (either a b) := by
  obtain ⟨x, rfl⟩ := ha
  cases x with
  | true => exact decides_ok true
  | false => exact hb

theorem decides_any {test : α → Outcome Bool} {as : List α} (h : ∀ a ∈ as, (test a).Decides) :
    Decides (any test as) := by
  induction as with
  | nil => exact decides_ok false
  | cons a rest ih =>
    obtain ⟨ha, hr⟩ := List.forall_mem_cons.1 h
    exact ha.either (ih hr)

theorem decides_all {test : α → Outcome Bool} {as : List α} (h : ∀ a ∈ as, (test a).Decides) :
    Decides (all test as) := by
  induction as with
  | nil => exact decides_ok true
  | cons a rest ih =>
    obtain ⟨ha, hr⟩ := List.forall_mem_cons.1 h
    exact ha.both (ih hr)

/-! ## Lists of results -/

theorem traverse_eq_ok_iff {f : α → Outcome β} {as : List α} {bs : List β} :
    traverse f as = .ok bs ↔ List.Forall₂ (fun a b => f a = .ok b) as bs := by
  induction as generalizing bs with
  | nil => cases bs <;> simp [traverse]
  | cons a rest ih =>
    rw [List.forall₂_cons_left_iff]
    constructor
    · intro h
      rw [traverse, bind_eq_ok_iff] at h
      obtain ⟨b, hb, h⟩ := h
      obtain ⟨later, ht, h⟩ := (bind_eq_ok_iff _ _ _).1 h
      cases h
      exact ⟨b, later, hb, ih.1 ht, rfl⟩
    · rintro ⟨b, later, hb, hl, rfl⟩
      rw [traverse, hb, ih.2 hl]
      rfl

theorem traverse_eq_map {f : α → Outcome β} {g : α → β} {as : List α} (h : ∀ a ∈ as, f a = .ok (g a)) :
    traverse f as = .ok (as.map g) := by
  rw [traverse_eq_ok_iff, List.forall₂_map_right_iff, List.forall₂_same]
  exact h

theorem traverse_pure (as : List α) : traverse (fun a => .ok a) as = .ok as := by
  rw [traverse_eq_map fun a _ => rfl, List.map_id']

theorem length_of_traverse {f : α → Outcome β} {as : List α} {bs : List β} (h : traverse f as = .ok bs) :
    bs.length = as.length :=
  (traverse_eq_ok_iff.1 h).length_eq.symm

theorem mem_of_traverse {f : α → Outcome β} {as : List α} {bs : List β} (h : traverse f as = .ok bs) {b : β}
    (hb : b ∈ bs) : ∃ a ∈ as, f a = .ok b := by
  induction traverse_eq_ok_iff.1 h with
  | nil => cases hb
  | cons hab hrest ih =>
    rcases List.mem_cons.1 hb with rfl | hb
    · exact ⟨_, List.mem_cons_self, hab⟩
    · obtain ⟨a, ha, hf⟩ := ih (traverse_eq_ok_iff.2 hrest) hb
      exact ⟨a, List.mem_cons_of_mem _ ha, hf⟩

theorem traverse_of_total {f : α → Outcome β} {as : List α} (h : ∀ a ∈ as, ∃ b, f a = .ok b) :
    ∃ bs, traverse f as = .ok bs := by
  induction as with
  | nil => exact ⟨[], rfl⟩
  | cons a rest ih =>
    obtain ⟨⟨b, hb⟩, hr⟩ := List.forall_mem_cons.1 h
    obtain ⟨bs, hbs⟩ := ih hr
    exact ⟨b :: bs, by rw [traverse, hb, hbs]; rfl⟩

/-! ## What passes -/

/-- What a whole pass over a list keeps: the elements whose test says yes, and every test says something. -/
theorem eq_filter_of_keep {test : α → Outcome Bool} {as kept : List α} (h : keep test as = .ok kept) :
    kept = as.filter (fun a => test a = .ok true) ∧ ∀ a ∈ as, (test a).Decides := by
  induction as generalizing kept with
  | nil => cases h; simp
  | cons a rest ih =>
    rw [keep, bind_eq_ok_iff] at h
    obtain ⟨b, hb, h⟩ := h
    obtain ⟨later, hk, h⟩ := (bind_eq_ok_iff _ _ _).1 h
    obtain ⟨hl, hr⟩ := ih hk
    refine ⟨?_, List.forall_mem_cons.2 ⟨⟨b, hb⟩, hr⟩⟩
    cases b <;> cases h <;> simp [hb, ← hl]

theorem keep_of_decided {test : α → Outcome Bool} {as : List α} (h : ∀ a ∈ as, (test a).Decides) :
    keep test as = .ok (as.filter fun a => test a = .ok true) := by
  induction as with
  | nil => rfl
  | cons a rest ih =>
    obtain ⟨⟨b, hb⟩, hr⟩ := List.forall_mem_cons.1 h
    rw [keep, hb, ih hr]
    cases b with
    | true => simp [bind, Except.bind, pure, Except.pure, hb]
    | false => simp [bind, Except.bind, pure, Except.pure, hb]

theorem keep_true (as : List α) : keep (fun _ => .ok true) as = .ok as := by
  induction as with
  | nil => rfl
  | cons a rest ih =>
    rw [keep, ih]
    rfl

/-- What is left when those that do not pass are taken off are those that pass. -/
theorem length_sub_filter_not {test : α → Outcome Bool} {as : List α}
    (h : ∀ a ∈ as, (test a).Decides) :
    as.length - (as.filter fun a => (test a).map (!·) = .ok true).length =
      (as.filter fun a => test a = .ok true).length := by
  have hnot : as.filter (fun a => (test a).map (!·) = .ok true) = as.filter (fun a => !decide (test a = .ok true)) := by
    refine List.filter_congr fun a ha => ?_
    obtain ⟨b, hb⟩ := h a ha
    cases b <;> simp [hb, Except.map]
  have hlen := List.length_eq_length_filter_add (l := as) fun a => decide (test a = .ok true)
  rw [hnot]
  omega

/-- Where two tests agree on what stands in the same place, they keep what stands in the same places. -/
theorem keep_forall₂ {R : α → β → Prop} {test : α → Outcome Bool} {other : β → Outcome Bool} {as : List α}
    {bs kept : List β} (h : List.Forall₂ (fun a b => R a b ∧ test a = other b) as bs)
    (hk : keep other bs = .ok kept) : ∃ found, keep test as = .ok found ∧ List.Forall₂ R found kept := by
  induction h generalizing kept with
  | nil =>
    cases hk
    exact ⟨[], rfl, .nil⟩
  | @cons a b as bs hab _ ih =>
    rw [keep, bind_eq_ok_iff] at hk
    obtain ⟨passes, hb, hk⟩ := hk
    obtain ⟨later, hl, hk⟩ := (bind_eq_ok_iff _ _ _).1 hk
    cases hk
    obtain ⟨found, hf, hR⟩ := ih hl
    rw [keep, hab.2, hb, hf]
    cases passes with
    | true => exact ⟨a :: found, rfl, .cons hab.1 hR⟩
    | false => exact ⟨found, rfl, hR⟩

end DocQuery.Outcome
