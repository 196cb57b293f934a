import DocQuery.Proofs.Pipelines
import Mathlib.Data.List.GetD
import Mathlib.Data.List.Induction

/-!
# Groups are parts of the documents

One more document joins the first group whose key equals its own, or opens a group at the end:

    addMember key d (before ++ (k, members) :: after) = before ++ (k, members ++ [d]) :: after
    addMember key d groups                            = groups ++ [(key, [d])]                  (addMember_cases)

So the groups of a list of documents are parts of the places of the list, each with its first place and the later
ones (`groupBy_partition`).  A NaN in a key equals no key, so such a key has a group for each of its documents; they
are parts all the same.
-/

namespace DocQuery.Pipeline

open Outcome

/-! ## One document -/

theorem addMember_cases (key : Value) (d : Document) (groups : List (Value × List Document)) :
    (∃ before k members after, groups = before ++ (k, members) :: after ∧
      (∀ g ∈ before, Value.equal g.1 key = false) ∧ Value.equal k key = true ∧
      addMember key d groups = before ++ (k, members ++ [d]) :: after) ∨
    (∀ g ∈ groups, Value.equal g.1 key = false) ∧ addMember key d groups = groups ++ [(key, [d])] := by
  induction groups with
  | nil => exact .inr ⟨by simp, rfl⟩
  | cons g rest ih =>
    obtain ⟨k, members⟩ := g
    rw [addMember]
    by_cases hk : Value.equal k key = true
    · exact .inl ⟨[], k, members, rest, rfl, by simp, hk, if_pos hk⟩
    · rw [if_neg hk]
      rw [Bool.not_eq_true] at hk
      rcases ih with ⟨before, l, joined, after, rfl, hbefore, hl, hadd⟩ | ⟨hrest, hadd⟩
      · exact .inl ⟨(k, members) :: before, l, joined, after, rfl, List.forall_mem_cons.2 ⟨hk, hbefore⟩, hl,
          by rw [hadd]; rfl⟩
      · exact .inr ⟨List.forall_mem_cons.2 ⟨hk, hrest⟩, by rw [hadd]; rfl⟩

/-! ## Parts -/

/-- A group by its key and the places of its members. -/
structure Part where
  key : Value
  first : Nat
  later : List Nat

namespace Part

def places (p : Part) : List Nat := p.first :: p.later

/-- The documents at the places. -/
def members (p : Part) (docs : List Document) : List Document := p.places.filterMap fun i => docs[i]?

def group (docs : List Document) (p : Part) : Value × List Document := (p.key, p.members docs)

/-- A part with one place. -/
def alone (v : Value) (i : Nat) : Part := ⟨v, i, []⟩

/-- The part with one more place. -/
def join (p : Part) (i : Nat) : Part := { p with later := p.later ++ [i] }

theorem places_join (p : Part) (i : Nat) : (p.join i).places = p.places ++ [i] := rfl

variable {p : Part} {docs : List Document}

theorem filterMap_last (docs : List Document) (d : Document) :
    [docs.length].filterMap (fun i => (docs ++ [d])[i]?) = [d] := by
  rw [List.filterMap_cons, List.getElem?_concat_length]
  rfl

theorem group_alone (v : Value) (docs : List Document) (d : Document) :
    (alone v docs.length).group (docs ++ [d]) = (v, [d]) :=
  congrArg (Prod.mk v) (filterMap_last docs d)

theorem members_append (h : ∀ i ∈ p.places, i < docs.length) (d : Document) :
    p.members (docs ++ [d]) = p.members docs :=
  List.filterMap_congr fun i hi => List.getElem?_append_left (h i hi)

theorem members_join (h : ∀ i ∈ p.places, i < docs.length) (d : Document) :
    (p.join docs.length).members (docs ++ [d]) = p.members docs ++ [d] := by
  rw [members, places_join, List.filterMap_append, filterMap_last]
  exact congrArg (· ++ [d]) (members_append h d)

theorem length_members (h : ∀ i ∈ p.places, i < docs.length) : (p.members docs).length = p.places.length := by
  have hall : p.members docs = p.places.map fun i => docs.getD i [] := by
    rw [← List.filterMap_eq_map]
    refine List.filterMap_congr fun i hi => ?_
    rw [List.getElem?_eq_getElem (h i hi), Function.comp_apply, List.getD_eq_getElem docs [] (h i hi)]
  rw [hall, List.length_map]

/-- The key is that of the first document, and equals those of the later ones. -/
structure Keyed (key : Value) (docs : List Document) (p : Part) : Prop where
  first : ∃ d, docs[p.first]? = some d ∧ Expression.evaluate key d = .ok p.key
  later : ∀ i ∈ p.later, ∃ d v, docs[i]? = some d ∧ Expression.evaluate key d = .ok v ∧ Value.equal p.key v = true

variable {key v : Value}

theorem getElem?_append_some {i : Nat} {e : Document} (h : docs[i]? = some e) (d : Document) :
    (docs ++ [d])[i]? = some e := by
  rw [List.getElem?_append_left (List.getElem?_eq_some_iff.1 h).1, h]

theorem Keyed.append (h : p.Keyed key docs) (d : Document) : p.Keyed key (docs ++ [d]) where
  first := h.first.imp fun _ ⟨he, hk⟩ => ⟨getElem?_append_some he d, hk⟩
  later i hi := by
    obtain ⟨e, v, he, hv, hequal⟩ := h.later i hi
    exact ⟨e, v, getElem?_append_some he d, hv, hequal⟩

theorem Keyed.join (h : p.Keyed key docs) {d : Document} (hd : Expression.evaluate key d = .ok v)
    (hk : Value.equal p.key v = true) : (p.join docs.length).Keyed key (docs ++ [d]) where
  first := (h.append d).first
  later i hi := by
    rcases List.mem_append.1 hi with hi | hi
    · exact (h.append d).later i hi
    · cases List.mem_singleton.1 hi
      exact ⟨d, v, List.getElem?_concat_length, hd, hk⟩

end Part

/-- The parts have each place of the documents once, in order; they stand in the order of their first places, and no
key equals an earlier one. -/
structure Partition (key : Value) (docs : List Document) (parts : List Part) : Prop where
  once : (parts.flatMap Part.places).Perm (List.range docs.length)
  ordered : ∀ p ∈ parts, p.places.Pairwise (· < ·)
  firsts : (parts.map Part.first).Pairwise (· < ·)
  keyed : ∀ p ∈ parts, p.Keyed key docs
  apart : (parts.map Part.key).Pairwise fun k l => Value.equal k l = false

namespace Partition

variable {key v : Value} {docs : List Document} {parts before after : List Part} {p : Part} {d : Document}

theorem lt_length (h : Partition key docs parts) (hp : p ∈ parts) : ∀ i ∈ p.places, i < docs.length :=
  fun _ hi => List.mem_range.1 (h.once.subset (List.mem_flatMap.2 ⟨p, hp, hi⟩))

theorem nil (key : Value) : Partition key [] [] := ⟨.nil, by simp, .nil, by simp, .nil⟩

/-- A document joins the part of an equal key. -/
theorem join (h : Partition key docs (before ++ p :: after)) (hd : Expression.evaluate key d = .ok v)
    (hk : Value.equal p.key v = true) :
    Partition key (docs ++ [d]) (before ++ p.join docs.length :: after) where
  once := by
    have hplaces : (before ++ p.join docs.length :: after).flatMap Part.places =
        before.flatMap Part.places ++ (p.places ++ ([docs.length] ++ after.flatMap Part.places)) := by
      simp [Part.places_join]
    have hold : (before ++ p :: after).flatMap Part.places ++ [docs.length] =
        before.flatMap Part.places ++ (p.places ++ (after.flatMap Part.places ++ [docs.length])) := by
      simp
    -- the new place stands behind those of its part, and in the list of all places at the end
    rw [List.length_append, List.length_singleton, List.range_succ, hplaces]
    refine .trans ?_ (h.once.append_right [docs.length])
    rw [hold]
    exact (List.perm_append_comm.append_left p.places).append_left _
  ordered := by
    obtain ⟨hbefore, hrest⟩ := List.forall_mem_append.1 h.ordered
    obtain ⟨hp, hafter⟩ := List.forall_mem_cons.1 hrest
    refine List.forall_mem_append.2 ⟨hbefore, List.forall_mem_cons.2 ⟨?_, hafter⟩⟩
    rw [Part.places_join, List.pairwise_append]
    refine ⟨hp, List.pairwise_singleton _ _, fun i hi j hj => ?_⟩
    cases List.mem_singleton.1 hj
    exact h.lt_length (by simp) i hi
  firsts := by
    have hfirsts := h.firsts
    rw [List.map_append, List.map_cons] at hfirsts ⊢
    exact hfirsts
  keyed := by
    obtain ⟨hbefore, hrest⟩ := List.forall_mem_append.1 h.keyed
    obtain ⟨hp, hafter⟩ := List.forall_mem_cons.1 hrest
    exact List.forall_mem_append.2 ⟨fun q hq => (hbefore q hq).append d,
      List.forall_mem_cons.2 ⟨hp.join hd hk, fun q hq => (hafter q hq).append d⟩⟩
  apart := by
    have hapart := h.apart
    rw [List.map_append, List.map_cons] at hapart ⊢
    exact hapart

/-- A document opens a part where no key equals its own. -/
theorem extend (h : Partition key docs parts) (hd : Expression.evaluate key d = .ok v)
    (hk : ∀ p ∈ parts, Value.equal p.key v = false) :
    Partition key (docs ++ [d]) (parts ++ [.alone v docs.length]) where
  once := by
    have hplaces : (parts ++ [Part.alone v docs.length]).flatMap Part.places =
        parts.flatMap Part.places ++ [docs.length] := by
      simp [Part.places, Part.alone]
    rw [List.length_append, List.length_singleton, List.range_succ, hplaces]
    exact h.once.append_right _
  ordered := List.forall_mem_append.2 ⟨h.ordered, List.forall_mem_singleton.2 (List.pairwise_singleton _ _)⟩
  firsts := by
    rw [List.map_append, List.pairwise_append]
    refine ⟨h.firsts, List.pairwise_singleton _ _, fun i hi j hj => ?_⟩
    obtain ⟨p, hp, rfl⟩ := List.mem_map.1 hi
    cases List.mem_singleton.1 hj
    exact h.lt_length hp p.first List.mem_cons_self
  keyed := by
    refine List.forall_mem_append.2 ⟨fun q hq => (h.keyed q hq).append d, List.forall_mem_singleton.2 ⟨?_, nofun⟩⟩
    exact ⟨d, List.getElem?_concat_length, hd⟩
  apart := by
    rw [List.map_append, List.pairwise_append]
    refine ⟨h.apart, List.pairwise_singleton _ _, fun k hk' l hl => ?_⟩
    obtain ⟨p, hp, rfl⟩ := List.mem_map.1 hk'
    cases List.mem_singleton.1 hl
    exact hk p hp

theorem groups_append (h : ∀ p ∈ parts, ∀ i ∈ p.places, i < docs.length) (d : Document) :
    parts.map (Part.group (docs ++ [d])) = parts.map (Part.group docs) :=
  List.map_congr_left fun p hp => congrArg (Prod.mk p.key) (Part.members_append (h p hp) d)

/-- One more document leaves a partition. -/
theorem step (h : Partition key docs parts) (hd : Expression.evaluate key d = .ok v) :
    ∃ next, addMember v d (parts.map (Part.group docs)) = next.map (Part.group (docs ++ [d])) ∧
      Partition key (docs ++ [d]) next := by
  rcases addMember_cases v d (parts.map (Part.group docs)) with
    ⟨_, k, members, _, hsplit, -, hk, hadd⟩ | ⟨hk, hadd⟩
  · obtain ⟨before, _, rfl, rfl, hrest⟩ := List.map_eq_append_iff.1 hsplit
    obtain ⟨p, after, rfl, hp, rfl⟩ := List.map_eq_cons_iff.1 hrest
    cases hp
    obtain ⟨hbefore, hrest⟩ := List.forall_mem_append.1 fun p hp => h.lt_length hp
    obtain ⟨hp, hafter⟩ := List.forall_mem_cons.1 hrest
    refine ⟨before ++ p.join docs.length :: after, ?_, h.join hd hk⟩
    rw [hadd, List.map_append, List.map_cons, groups_append hbefore, groups_append hafter, Part.group,
      Part.members_join hp]
    rfl
  · refine ⟨parts ++ [.alone v docs.length], ?_, h.extend hd fun p hp => hk _ (List.mem_map_of_mem hp)⟩
    rw [hadd, List.map_append, groups_append (fun p hp => h.lt_length hp), List.map_singleton, Part.group_alone]

end Partition

/-- Where the key has a value on every document, the groups part the documents. -/
theorem groupBy_partition {key : Value} {docs : List Document}
    (h : ∀ d ∈ docs, ∃ v, Expression.evaluate key d = .ok v) :
    ∃ parts, groupBy key docs = .ok (parts.map (Part.group docs)) ∧ Partition key docs parts := by
  -- from the end, as the partition is one of the documents that have been passed
  induction docs using List.reverseRecOn with
  | nil => exact ⟨[], rfl, .nil key⟩
  | append_singleton docs d ih =>
    obtain ⟨hdocs, hlast⟩ := List.forall_mem_append.1 h
    obtain ⟨v, hv⟩ := hlast d List.mem_cons_self
    obtain ⟨parts, hgroups, hparts⟩ := ih hdocs
    obtain ⟨next, hadd, hnext⟩ := hparts.step hv
    refine ⟨next, ?_, hnext⟩
    rw [groupBy] at hgroups
    rw [groupBy, List.foldlM_append, hgroups, ← hadd, bind_eq_ok_iff]
    exact ⟨_, rfl, by rw [List.foldlM_cons, hv]; rfl⟩

end DocQuery.Pipeline
