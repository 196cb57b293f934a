import DocQuery.Connection.Connector
import DocQuery.Proofs.Failures
import Mathlib.Data.List.Nodup

/-!
# Which configurations share a store

A connector gives out handles by name, and a name is an address and a database with a slash in between.  One
name always leads to one handle, and different names to different handles, each with a store in memory behind
it (`Run.sound`).  So configurations share a store exactly when their names are the same text:

    key a = key b ↔ a and b agree on address and database, or one is nested in the other     (key_eq_iff)

Nested is what the slash does not tell apart: the address of one goes on where that of the other ends, and what
it goes on with stands in front of the other's database.  A database without a slash is never nested, so among
such configurations the address and the database decide (`Run.same_handle_iff`).
-/

namespace DocQuery

/-- The address of the first is that of the second and a further part, and the database of the second is that
part and the database of the first. -/
def Config.Nested (a b : Config) : Prop :=
  ∃ part : String, a.address = b.address ++ "/" ++ part ∧ b.database = part ++ "/" ++ a.database

theorem Config.Nested.slash {a b : Config} (h : a.Nested b) : '/' ∈ b.database.toList := by
  obtain ⟨part, -, hd⟩ := h
  simp [hd]

/-- What a valid configuration has: the driver, a database, and an address or hosts and a port that can be one. -/
theorem Config.validate_eq_ok_iff (c : Config) :
    c.validate = .ok () ↔ c.driver = "mongodb" ∧ Blank.isEmpty c.database = false ∧
      (c.ownDsn?.isSome = true ∨
        (c.hosts ≠ [] ∧ c.hosts.any Blank.isEmpty = false ∧ c.port ≠ some 0)) := by
  unfold Config.validate
  split_ifs with hdriver hdatabase hdsn hhosts hport
  · simp [hdriver]
  · simp [hdatabase]
  · simp at hdriver hdatabase
    simp [hdriver, hdatabase, hdsn]
  · simp only [Bool.or_eq_true, List.isEmpty_iff] at hhosts
    rcases hhosts with hnil | hblank
    · simp [hdsn, hnil]
    · simp only [reduceCtorEq, hdsn, hblank, false_and, and_false, or_false, Bool.true_eq_false]
  · simp [hdsn, hport]
  · simp at hdriver hdatabase hhosts
    simpa [hdriver, hdatabase, hhosts.1, hport] using .inr hhosts.2

namespace Connector

/-! ## Names -/

/-- Two texts around a slash: where they are cut differently, one cut lies inside the other's second part. -/
theorem around_slash_eq (a b x y : String) :
    a ++ "/" ++ x = b ++ "/" ++ y ↔
      (a = b ∧ x = y) ∨ (∃ part, a = b ++ "/" ++ part ∧ y = part ++ "/" ++ x) ∨
        ∃ part, b = a ++ "/" ++ part ∧ x = part ++ "/" ++ y := by
  constructor
  · intro h
    have hl : a.toList ++ '/' :: x.toList = b.toList ++ '/' :: y.toList := by
      have ht := congrArg String.toList h
      simpa using ht
    rcases List.append_eq_append_iff.1 hl with ⟨rest, hb, hx⟩ | ⟨rest, ha, hy⟩
    · cases rest with
      | nil =>
        refine .inl ⟨?_, ?_⟩
        · exact String.toList_inj.1 (by simpa using hb.symm)
        · exact String.toList_inj.1 (by simpa using hx)
      | cons c part =>
        obtain ⟨rfl, hx⟩ := List.cons.inj hx
        refine .inr (.inr ⟨String.ofList part, ?_, ?_⟩)
        · exact String.toList_inj.1 (by simpa using hb)
        · exact String.toList_inj.1 (by simpa using hx)
    · cases rest with
      | nil =>
        refine .inl ⟨?_, ?_⟩
        · exact String.toList_inj.1 (by simpa using ha)
        · exact String.toList_inj.1 (by simpa using hy.symm)
      | cons c part =>
        obtain ⟨rfl, hy⟩ := List.cons.inj hy
        refine .inr (.inl ⟨String.ofList part, ?_, ?_⟩)
        · exact String.toList_inj.1 (by simpa using ha)
        · exact String.toList_inj.1 (by simpa using hy)
  · rintro (⟨rfl, rfl⟩ | ⟨part, rfl, rfl⟩ | ⟨part, rfl, rfl⟩)
    · rfl
    · simp only [String.append_assoc]
    · simp only [String.append_assoc]

theorem key_eq_iff (a b : Config) :
    key a = key b ↔ (a.address = b.address ∧ a.database = b.database) ∨ a.Nested b ∨ b.Nested a :=
  around_slash_eq a.address b.address a.database b.database

/-- A slash in neither database leaves one way to cut a name. -/
theorem key_eq_iff_of_no_slash {a b : Config} (ha : '/' ∉ a.database.toList) (hb : '/' ∉ b.database.toList) :
    key a = key b ↔ a.address = b.address ∧ a.database = b.database := by
  rw [key_eq_iff]
  constructor
  · rintro (h | h | h)
    · exact h
    · exact absurd h.slash hb
    · exact absurd h.slash ha
  · exact .inl

/-! ## Runs -/

/-- What a connector has given out: configurations with their handles, the latest first.  Store calls may go
to the deployment in between, and other backends may be added to it. -/
inductive Run : List (Config × Nat) → Connector → Deployment → Prop where
  | start (d : Deployment) : Run [] {} d
  | connect {given : List (Config × Nat)} {r : Connector} {d : Deployment} (c : Config) (h : Run given r d) :
      Run ((c, (r.connect d c).1) :: given) (r.connect d c).2.1 (r.connect d c).2.2
  | call {given : List (Config × Nat)} {r : Connector} {d : Deployment} (handle : Nat) (call : StoreCall)
      (h : Run given r d) : Run given r (d.perform handle call).2
  | add {given : List (Config × Nat)} {r : Connector} {d : Deployment} (b : Backend) (h : Run given r d) :
      Run given r (d.addBackend b).2

/-- Every configuration finds its handle under its name, no handle has two names, and a store in memory
stands behind each. -/
structure Sound (given : List (Config × Nat)) (r : Connector) (d : Deployment) : Prop where
  found : ∀ p ∈ given, r.handles.lookup (key p.1) = some p.2
  distinct : (r.handles.map Prod.snd).Nodup
  stored : ∀ p ∈ r.handles, ∃ s, d.store? p.2 = some s

variable {given : List (Config × Nat)} {r : Connector} {d : Deployment}

theorem mem_of_lookup {names : List (String × Nat)} {name : String} {handle : Nat}
    (h : names.lookup name = some handle) : (name, handle) ∈ names := by
  obtain ⟨before, after, rfl, -⟩ := List.lookup_eq_some_iff.1 h
  simp

theorem Sound.start (d : Deployment) : Sound [] {} d := by
  refine ⟨?_, ?_, ?_⟩
  · intro p hp
    cases hp
  · exact List.nodup_nil
  · intro p hp
    cases hp

/-- A store that is there is still one after a call, on it or on another. -/
theorem store_perform {i : Nat} {s : Store} (hs : d.store? i = some s) (handle : Nat) (call : StoreCall) :
    ∃ t, (d.perform handle call).2.store? i = some t := by
  rcases hp : d.perform handle call with ⟨reply, d'⟩
  rcases Deployment.perform_cases hp with ⟨u, t, supply, hu, -, rfl⟩ | ⟨-, -, rfl⟩
  · unfold Deployment.store? at hs ⊢
    by_cases hi : handle = i
    · obtain ⟨hlt, -⟩ := List.getElem?_eq_some_iff.1 hu
      refine ⟨t, ?_⟩
      rw [← hi, List.getElem?_set_self hlt]
    · refine ⟨s, ?_⟩
      rw [List.getElem?_set_ne hi]
      exact hs
  · exact ⟨s, hs⟩

theorem store_addBackend {i : Nat} {s : Store} (hs : d.store? i = some s) (b : Backend) :
    (d.addBackend b).2.store? i = some s := by
  unfold Deployment.store? Deployment.addBackend at *
  have hi : i < d.backends.length := by
    by_contra hn
    rw [List.getElem?_eq_none (by omega)] at hs
    cases hs
  rw [List.getElem?_append_left hi]
  exact hs

theorem Sound.call (h : Sound given r d) (handle : Nat) (call : StoreCall) :
    Sound given r (d.perform handle call).2 := by
  refine ⟨h.found, h.distinct, ?_⟩
  intro p hp
  obtain ⟨s, hs⟩ := h.stored p hp
  exact store_perform hs handle call

theorem Sound.add (h : Sound given r d) (b : Backend) : Sound given r (d.addBackend b).2 := by
  refine ⟨h.found, h.distinct, ?_⟩
  intro p hp
  obtain ⟨s, hs⟩ := h.stored p hp
  exact ⟨s, store_addBackend hs b⟩

/-- A name that is known gives its handle again; a new one gets the place of the store made for it. -/
theorem connect_cases (r : Connector) (d : Deployment) (c : Config) :
    (∃ handle, r.handles.lookup (key c) = some handle ∧ r.connect d c = (handle, r, d)) ∨
      (r.handles.lookup (key c) = none ∧
        r.connect d c =
          (d.backends.length, ⟨r.handles ++ [(key c, d.backends.length)]⟩, (d.addBackend (.memory {})).2)) := by
  unfold connect
  cases hk : r.handles.lookup (key c) with
  | some handle => exact .inl ⟨handle, rfl, rfl⟩
  | none => exact .inr ⟨rfl, rfl⟩

theorem Sound.connect (h : Sound given r d) (c : Config) :
    Sound ((c, (r.connect d c).1) :: given) (r.connect d c).2.1 (r.connect d c).2.2 := by
  rcases connect_cases r d c with ⟨handle, hk, he⟩ | ⟨hk, he⟩
  · rw [he]
    refine ⟨?_, h.distinct, h.stored⟩
    intro p hp
    rcases List.mem_cons.1 hp with rfl | hp
    · exact hk
    · exact h.found p hp
  · rw [he]
    refine ⟨?_, ?_, ?_⟩
    · intro p hp
      rcases List.mem_cons.1 hp with rfl | hp
      · simp [List.lookup_append, hk]
      · simp [List.lookup_append, h.found p hp]
    · -- the handles so far have stores behind them, and the new one is the place after all of these
      rw [List.map_append, List.map_singleton, List.nodup_append]
      refine ⟨h.distinct, by simp, ?_⟩
      intro i hi j hj hij
      obtain ⟨p, hp, rfl⟩ := List.mem_map.1 hi
      obtain ⟨s, hs⟩ := h.stored p hp
      rw [hij, List.mem_singleton.1 hj] at hs
      simp [Deployment.store?] at hs
    · intro p hp
      rcases List.mem_append.1 hp with hp | hp
      · obtain ⟨s, hs⟩ := h.stored p hp
        exact ⟨s, store_addBackend hs _⟩
      · rw [List.mem_singleton.1 hp]
        exact ⟨{}, by simp [Deployment.store?, Deployment.addBackend]⟩

theorem Run.sound (h : Run given r d) : Sound given r d := by
  induction h with
  | start d => exact Sound.start d
  | connect c _ ih => exact ih.connect c
  | call handle call _ ih => exact ih.call handle call
  | add b _ ih => exact ih.add b

/-! ## Sharing -/

/-- Configurations get one handle exactly when they have one name. -/
theorem Sound.handle_eq_iff (h : Sound given r d) {a b : Config} {i j : Nat} (ha : (a, i) ∈ given)
    (hb : (b, j) ∈ given) : i = j ↔ key a = key b := by
  have hi := h.found _ ha
  have hj := h.found _ hb
  constructor
  · rintro rfl
    have hp := List.inj_on_of_nodup_map h.distinct (mem_of_lookup hi) (mem_of_lookup hj) rfl
    exact congrArg Prod.fst hp
  · intro hk
    rw [hk] at hi
    exact Option.some.inj (hi.symm.trans hj)

/-- Among all that a connector has given out, two configurations share a handle exactly when they agree on
address and database or one is nested in the other, and never by being nested when no database has a slash; a
store in memory stands behind every handle. -/
theorem Run.same_handle_iff (h : Run given r d) {a b : Config} {i j : Nat} (ha : (a, i) ∈ given)
    (hb : (b, j) ∈ given) :
    (i = j ↔ (a.address = b.address ∧ a.database = b.database) ∨ a.Nested b ∨ b.Nested a) ∧
      ('/' ∉ a.database.toList → '/' ∉ b.database.toList →
        (i = j ↔ a.address = b.address ∧ a.database = b.database)) ∧
      ∃ s, d.store? i = some s := by
  have hs := h.sound
  refine ⟨?_, ?_, ?_⟩
  · rw [hs.handle_eq_iff ha hb, key_eq_iff]
  · intro hna hnb
    rw [hs.handle_eq_iff ha hb, key_eq_iff_of_no_slash hna hnb]
  · exact hs.stored _ (mem_of_lookup (hs.found _ ha))

/-- Two databases at one address have a store each, whatever is called in between. -/
theorem Run.same_handle_iff_two :
    let a : Config := { database := "app" }
    let b : Config := { database := "other" }
    ∃ (i j : Nat) (r : Connector) (d : Deployment), Run [(b, j), (a, i)] r d ∧ '/' ∉ a.database.toList ∧
      '/' ∉ b.database.toList ∧ i ≠ j ∧ ∃ s, d.store? i = some s := by
  intro a b
  have hrun := Run.connect b (Run.call 0 (.drop "users") (Run.connect a (Run.start {})))
  have hna : '/' ∉ a.database.toList := by decide
  have hnb : '/' ∉ b.database.toList := by decide
  obtain ⟨-, hplain, hstore⟩ :=
    Run.same_handle_iff hrun (List.mem_cons_of_mem _ List.mem_cons_self) List.mem_cons_self
  refine ⟨_, _, _, _, hrun, hna, hnb, ?_, hstore⟩
  intro hij
  obtain ⟨-, hd⟩ := (hplain hna hnb).1 hij
  exact absurd hd (by decide)

/-- Valid configurations of different addresses and databases that share a store: the database that knows the
user stands behind the hosts of the one, and in front of a slash in the database of the other. -/
theorem nested_share :
    let a : Config := { database := "b", options := [("database", .string "a")] }
    let b : Config := { database := "a/b" }
    a.validate = .ok () ∧ b.validate = .ok () ∧ a.address ≠ b.address ∧ a.database ≠ b.database ∧
      ∃ (r : Connector) (d : Deployment), Run [(b, 0), (a, 0)] r d := by
  intro a b
  have ha : a.validate = .ok () := (Config.validate_eq_ok_iff a).2 (by decide)
  have hb : b.validate = .ok () := (Config.validate_eq_ok_iff b).2 (by decide)
  refine ⟨ha, hb, by decide, by decide, ?_⟩
  exact ⟨_, _, Run.connect b (Run.connect a (Run.start {}))⟩

end Connector

end DocQuery
