import DocQuery.Proofs.Inclusions
import DocQuery.Proofs.WellFormedValues

/-!
# Dropping fields

A projection that only drops fields removes one path after the other.  A removal goes through embedded documents and
reading sees through arrays too, so what is read behind the stage depends on which of the two ways a path has:

    p is reached in d and runs along q  → without d p reads nothing at q               (resolve_without_below)
    p and q part                        → without d p reads the same at q              (resolve_without_of_apart)
    q is one of the removed paths       → all removals read nothing at q exactly where nothing was there, or one
                                          that is reached runs along q                   (resolve_withoutAll_self)

A path that is read and not reached has an array on its way (`reaches_or_array`), and there an excluded field stays in
the output, unless one above the array is excluded too.
-/

namespace DocQuery

open Outcome

/-! ## What drops a field -/

/-- `false`, or a number of a machine type that is zero. -/
def Value.Drops : Value → Prop
  | .boolean b => b = false
  | .int32 n => n = 0
  | .int64 n => n = 0
  | .double x => Double.equal x 0 = true
  | _ => False

theorem Pipeline.FieldMode.of_drops {v : Value} (h : v.Drops) : FieldMode.of v = .excluded := by
  cases v with
  | boolean b =>
    cases (show b = false from h)
    rfl
  | int32 n =>
    cases (show n = 0 from h)
    rfl
  | int64 n =>
    cases (show n = 0 from h)
    rfl
  | double x =>
    have hx : Double.equal x 0 = true := h
    show (if (!Double.equal x 0) = true then FieldMode.included else .excluded) = .excluded
    rw [hx]
    rfl
  | _ => exact h.elim

/-! ## Paths through embedded documents -/

theorem Document.get?_erase_self {d : Document} (hd : d.Distinct) (name : String) :
    (d.erase name).get? name = none := by
  induction d with
  | nil => rfl
  | cons f rest ih =>
    obtain ⟨k, v⟩ := f
    have hnodup := List.nodup_cons.1 hd
    by_cases h : k = name
    · subst h
      rw [Document.erase, if_pos rfl, Document.get?_eq_none_iff]
      exact hnodup.1
    · rw [Document.erase, if_neg h, Document.get?_cons, if_neg h]
      exact ih hnodup.2

namespace Path

variable {head name : String} {tail rest : List String} {d e : Document} {v : Value} {p q : Path}

/-- Embedded documents lead to the end of the path, and there is a field. -/
def Reached (d : Document) (p : Path) : Prop := ∃ v, Leads d p v

/-- What is read is reached through embedded documents, or there is an array on the way. -/
theorem reaches_or_array (h : descend (head :: tail) (.document d) = some v) :
    Reaches head tail d v ∨
      ∃ way items, way <+: tail ∧ way ≠ tail ∧ Reaches head way d (.array items) := by
  induction tail generalizing head d with
  | nil =>
    left
    obtain ⟨w, hw, hend⟩ := Option.bind_eq_some_iff.1 h
    cases hend
    exact .field hw
  | cons next more ih =>
    obtain ⟨w, hw, hbelow⟩ := Option.bind_eq_some_iff.1 h
    cases w with
    | document e =>
      rcases ih hbelow with hreach | ⟨way, items, hway, hne, hreach⟩
      · exact .inl (.within hw hreach)
      · refine .inr ⟨next :: way, items, ?_, ?_, .within hw hreach⟩
        · rw [List.prefix_cons_inj]
          exact hway
        · simpa using hne
    | array items => exact .inr ⟨[], items, List.nil_prefix, by simp, .field hw⟩
    | _ => cases hbelow

/-- No array is met before the end of the path. -/
def ArrayFree (d : Document) (p : Path) : Prop :=
  ∀ way items, way <+: p.tail → way ≠ p.tail → ¬ Leads d ⟨p.head, way⟩ (.array items)

theorem ArrayFree.reached (h : ArrayFree d p) (hread : resolve d p = some v) : Reached d p := by
  rcases reaches_or_array hread with hreach | ⟨way, items, hway, hne, hreach⟩
  · exact ⟨v, hreach⟩
  · exact absurd hreach (h way items hway hne)

/-- A way depends on its first field only. -/
theorem Reaches.congr (h : Reaches head tail d v) (hsame : e.get? head = d.get? head) : Reaches head tail e v := by
  cases h with
  | field hd => exact .field (hsame.trans hd)
  | within hd hbelow => exact .within (hsame.trans hd) hbelow

/-- A way is reached where a longer one is. -/
theorem Reaches.of_prefix (h : Reaches head tail d v) (hway : rest <+: tail) : ∃ w, Reaches head rest d w := by
  obtain ⟨more, rfl⟩ := hway
  induction rest generalizing head d with
  | nil =>
    cases h with
    | field hd => exact ⟨v, .field hd⟩
    | within hd _ => exact ⟨_, .field hd⟩
  | cons next rest ih =>
    cases h with
    | within hd hbelow =>
      obtain ⟨w, hw⟩ := ih hbelow
      exact ⟨w, .within hd hw⟩

theorem Reached.of_prefix (h : Reached d q) (hpq : p.IsPrefixOf q) : Reached d p := by
  obtain ⟨v, hv⟩ := h
  obtain ⟨hhead, htail⟩ := List.cons_prefix_cons.1 hpq
  have hv' : Reaches p.head q.tail d v := hhead ▸ hv
  exact hv'.of_prefix htail

theorem Reached.resolve_ne_none (h : Reached d p) : resolve d p ≠ none := by
  obtain ⟨v, hv⟩ := h
  simp [Leads.resolve hv]

/-! ## One removal -/

theorem unsetFrom?_nil_eq_some_iff :
    unsetFrom? head [] d = some e ↔ (∃ v, d.get? head = some v) ∧ e = d.erase head := by
  rw [unsetFrom?, Document.contains]
  cases d.get? head <;> simp [eq_comm]

theorem unsetFrom?_cons_eq_some_iff : unsetFrom? head (name :: rest) d = some e ↔
    ∃ inner left, d.get? head = some (.document inner) ∧ unsetFrom? name rest inner = some left ∧
      e = d.insert head (.document left) := by
  rw [unsetFrom?]
  constructor
  · intro h
    split at h
    · rename_i inner hinner
      obtain ⟨left, hleft, rfl⟩ := Option.map_eq_some_iff.1 h
      exact ⟨inner, left, hinner, hleft, rfl⟩
    · cases h
  · rintro ⟨inner, left, hinner, hleft, rfl⟩
    rw [hinner]
    exact Option.map_eq_some_iff.2 ⟨left, hleft, rfl⟩

/-- A removal finds something exactly where embedded documents lead to it. -/
theorem exists_unsetFrom?_iff : (∃ e, unsetFrom? head tail d = some e) ↔ ∃ v, Reaches head tail d v := by
  induction tail generalizing head d with
  | nil =>
    simp only [unsetFrom?_nil_eq_some_iff]
    constructor
    · rintro ⟨e, ⟨v, hv⟩, -⟩
      exact ⟨v, .field hv⟩
    · rintro ⟨v, ⟨hv⟩⟩
      exact ⟨d.erase head, ⟨v, hv⟩, rfl⟩
  | cons next more ih =>
    simp only [unsetFrom?_cons_eq_some_iff]
    constructor
    · rintro ⟨e, inner, left, hinner, hleft, -⟩
      obtain ⟨v, hv⟩ := ih.1 ⟨left, hleft⟩
      exact ⟨v, .within hinner hv⟩
    · rintro ⟨v, _ | ⟨hinner, hbelow⟩⟩
      obtain ⟨left, hleft⟩ := ih.2 ⟨v, hbelow⟩
      exact ⟨_, _, left, hinner, hleft, rfl⟩

theorem wellFormed_unsetFrom? (hd : (Value.document d).WellFormed) (h : unsetFrom? head tail d = some e) :
    (Value.document e).WellFormed := by
  induction tail generalizing head d e with
  | nil =>
    obtain ⟨-, rfl⟩ := unsetFrom?_nil_eq_some_iff.1 h
    exact hd.erase head
  | cons next more ih =>
    obtain ⟨inner, left, hinner, hleft, rfl⟩ := unsetFrom?_cons_eq_some_iff.1 h
    exact hd.insert head (ih (hd.of_get? hinner) hleft)

/-- Nothing is read at the end of the removed path, nor below. -/
theorem descend_unsetFrom? (hd : (Value.document d).WellFormed) (h : unsetFrom? head tail d = some e)
    (more : List String) : descend (head :: tail ++ more) (.document e) = none := by
  induction tail generalizing head d e with
  | nil =>
    obtain ⟨-, rfl⟩ := unsetFrom?_nil_eq_some_iff.1 h
    show (Document.get? (d.erase head) head).bind (descend more) = none
    rw [Document.get?_erase_self hd.1]
    rfl
  | cons next rest ih =>
    obtain ⟨inner, left, hinner, hleft, rfl⟩ := unsetFrom?_cons_eq_some_iff.1 h
    show (Document.get? (d.insert head (.document left)) head).bind (descend (next :: rest ++ more)) = none
    rw [Document.get?_insert_self]
    exact ih (hd.of_get? hinner) hleft

/-- A removal opens no way. -/
theorem Reaches.of_unsetFrom? (hd : (Value.document d).WellFormed) (h : unsetFrom? head tail d = some e)
    (hreach : Reaches name rest e v) : ∃ w, Reaches name rest d w := by
  induction tail generalizing head name rest d e with
  | nil =>
    by_cases hname : head = name
    · subst hname
      obtain ⟨-, rfl⟩ := unsetFrom?_nil_eq_some_iff.1 h
      have hnone := Document.get?_erase_self hd.1 head
      cases hreach with
      | field hfield => rw [hnone] at hfield; cases hfield
      | within hfield _ => rw [hnone] at hfield; cases hfield
    · exact ⟨v, hreach.congr (get?_unsetFrom? h hname).symm⟩
  | cons next more ih =>
    by_cases hname : head = name
    · subst hname
      obtain ⟨inner, left, hinner, hleft, rfl⟩ := unsetFrom?_cons_eq_some_iff.1 h
      cases hreach with
      | field _ => exact ⟨_, .field hinner⟩
      | within hfield hbelow =>
        rw [Document.get?_insert_self] at hfield
        cases hfield
        obtain ⟨w, hw⟩ := ih (hd.of_get? hinner) hleft hbelow
        exact ⟨w, .within hinner hw⟩
    · exact ⟨v, hreach.congr (get?_unsetFrom? h hname).symm⟩

/-- A removal closes the ways along the removed path only. -/
theorem Reaches.unsetFrom? (hreach : Reaches name rest d v) (h : Path.unsetFrom? head tail d = some e)
    (hn : ¬ head :: tail <+: name :: rest) : ∃ w, Reaches name rest e w := by
  induction tail generalizing head name rest d e with
  | nil =>
    have hname : head ≠ name := by
      rintro rfl
      exact hn (List.cons_prefix_cons.2 ⟨rfl, List.nil_prefix⟩)
    exact ⟨v, hreach.congr (get?_unsetFrom? h hname)⟩
  | cons next more ih =>
    by_cases hname : head = name
    · subst hname
      obtain ⟨inner, left, hinner, hleft, rfl⟩ := unsetFrom?_cons_eq_some_iff.1 h
      have hfield' := Document.get?_insert_self d head (.document left)
      cases hreach with
      | field _ => exact ⟨_, .field hfield'⟩
      | within hfield hbelow =>
        rw [hinner] at hfield
        cases hfield
        obtain ⟨w, hw⟩ := ih hbelow hleft fun hp => hn (List.cons_prefix_cons.2 ⟨rfl, hp⟩)
        exact ⟨w, .within hfield' hw⟩
    · exact ⟨v, hreach.congr (get?_unsetFrom? h hname)⟩

/-- The document without what is at the path, if anything is. -/
def without (d : Document) (p : Path) : Document := (unset? d p).getD d

theorem exists_unset? (h : Reached d p) : ∃ e, unset? d p = some e ∧ without d p = e := by
  obtain ⟨e, he⟩ := exists_unsetFrom?_iff.2 h
  have hunset : unset? d p = some e := he
  exact ⟨e, hunset, by rw [without, hunset]; rfl⟩

theorem without_of_not_reached (h : ¬ Reached d p) : without d p = d := by
  rw [without]
  cases hunset : unset? d p with
  | none => rfl
  | some e => exact absurd (exists_unsetFrom?_iff.1 ⟨e, hunset⟩) h

theorem wellFormed_without (hd : (Value.document d).WellFormed) (p : Path) :
    (Value.document (without d p)).WellFormed := by
  by_cases h : Reached d p
  · obtain ⟨e, hu, rfl⟩ := exists_unset? h
    exact wellFormed_unsetFrom? hd hu
  · rwa [without_of_not_reached h]

theorem resolve_without_below (hd : (Value.document d).WellFormed) (h : Reached d p) (hpq : p.IsPrefixOf q) :
    resolve (without d p) q = none := by
  obtain ⟨e, hu, rfl⟩ := exists_unset? h
  obtain ⟨more, hmore⟩ := hpq
  have hend := descend_unsetFrom? hd hu more
  rwa [show p.head :: p.tail ++ more = q.head :: q.tail from hmore] at hend

theorem resolve_without_of_apart (h : p.Apart q) (d : Document) : resolve (without d p) q = resolve d q :=
  Change.resolve_on (c := .remove) h rfl

theorem Reached.of_without (hd : (Value.document d).WellFormed) (h : Reached (without d p) q) : Reached d q := by
  by_cases hp : Reached d p
  · obtain ⟨e, hu, he⟩ := exists_unset? hp
    rw [he] at h
    obtain ⟨v, hv⟩ := h
    exact Reaches.of_unsetFrom? hd hu hv
  · rwa [without_of_not_reached hp] at h

theorem Reached.without (h : Reached d q) (hpq : ¬ p.IsPrefixOf q) : Reached (without d p) q := by
  by_cases hp : Reached d p
  · obtain ⟨e, hu, he⟩ := exists_unset? hp
    rw [he]
    obtain ⟨v, hv⟩ := h
    exact hv.unsetFrom? hu hpq
  · rwa [without_of_not_reached hp]

/-- A removal brings nothing back. -/
theorem resolve_without_of_none (hd : (Value.document d).WellFormed) (h : resolve d q = none) :
    resolve (without d p) q = none := by
  by_cases hp : Reached d p
  · by_cases hpq : p.IsPrefixOf q
    · exact resolve_without_below hd hp hpq
    · have hqp : ¬ q.IsPrefixOf p := fun hqp => (hp.of_prefix hqp).resolve_ne_none h
      rw [resolve_without_of_apart ⟨hpq, hqp⟩]
      exact h
  · rw [without_of_not_reached hp]
    exact h

/-! ## All removals -/

/-- The document without what is at the paths, one after the other. -/
def withoutAll (d : Document) (paths : List Path) : Document := paths.foldl without d

/-- One of the paths is reached, and runs along this one. -/
def CutBy (d : Document) (paths : List Path) (q : Path) : Prop := ∃ p ∈ paths, p.IsPrefixOf q ∧ Reached d p

/-- What is gone stays gone, and what one of the paths cuts off is gone in the end. -/
theorem resolve_withoutAll_eq_none {paths : List Path} (hd : (Value.document d).WellFormed)
    (h : resolve d q = none ∨ CutBy d paths q) : resolve (withoutAll d paths) q = none := by
  induction paths generalizing d with
  | nil =>
    rcases h with h | ⟨p, hp, -⟩
    · exact h
    · cases hp
  | cons p more ih =>
    refine ih (wellFormed_without hd p) ?_
    rcases h with h | ⟨r, hr, hrq, hreached⟩
    · exact .inl (resolve_without_of_none hd h)
    · by_cases hpr : p.IsPrefixOf r
      -- This removal cuts the path off, or the way to the one that does is still there.
      · by_cases hp : Reached d p
        · exact .inl (resolve_without_below hd hp (List.IsPrefix.trans hpr hrq))
        · have hmore : r ∈ more := by
            rcases List.mem_cons.1 hr with rfl | hr
            · exact absurd hreached hp
            · exact hr
          rw [without_of_not_reached hp]
          exact .inr ⟨r, hmore, hrq, hreached⟩
      · have hmore : r ∈ more := by
          rcases List.mem_cons.1 hr with rfl | hr
          · exact absurd (List.prefix_refl _) hpr
          · exact hr
        exact .inr ⟨r, hmore, hrq, hreached.without hpr⟩

/-- Nothing changes at a path where none that is reached runs along it or below it. -/
theorem resolve_withoutAll_of_not_reached {paths : List Path} (hd : (Value.document d).WellFormed)
    (h : ∀ p ∈ paths, Reached d p → p.Apart q) : resolve (withoutAll d paths) q = resolve d q := by
  induction paths generalizing d with
  | nil => rfl
  | cons p more ih =>
    obtain ⟨hp, hmore⟩ := List.forall_mem_cons.1 h
    have hrest := ih (wellFormed_without hd p) fun r hr hreached => hmore r hr (hreached.of_without hd)
    refine hrest.trans ?_
    by_cases hreached : Reached d p
    · exact resolve_without_of_apart (hp hreached) d
    · rw [without_of_not_reached hreached]

/-- One of the removed paths is gone where it was missing or cut off, and reads as before otherwise. -/
theorem resolve_withoutAll_self {paths : List Path} (hd : (Value.document d).WellFormed) (hq : q ∈ paths) :
    resolve (withoutAll d paths) q = none ↔ resolve d q = none ∨ CutBy d paths q := by
  constructor
  · intro h
    by_cases hcut : CutBy d paths q
    · exact .inr hcut
    · have hnot : ∀ p ∈ paths, Reached d p → p.Apart q := by
        intro p hp hreached
        refine ⟨fun hpq => hcut ⟨p, hp, hpq, hreached⟩, fun hqp => hcut ⟨q, hq, List.prefix_refl _, ?_⟩⟩
        exact hreached.of_prefix hqp
      rw [resolve_withoutAll_of_not_reached hd hnot] at h
      exact .inl h
  · exact resolve_withoutAll_eq_none hd

theorem resolve_withoutAll_of_arrayFree {paths : List Path} (hd : (Value.document d).WellFormed) (hq : q ∈ paths)
    (h : ArrayFree d q) : resolve (withoutAll d paths) q = none := by
  rw [resolve_withoutAll_self hd hq]
  cases hread : resolve d q with
  | none => exact .inl rfl
  | some v => exact .inr ⟨q, hq, List.prefix_refl _, h.reached hread⟩

end Path

/-! ## The projection -/

namespace Pipeline

/-- A projection that drops fields: the identifier goes if it is named, and the other names are dropped. -/
theorem Projection.of_drops {spec : Document} (h : ∀ f ∈ spec, f.2.Drops) :
    ∃ p, Projection.of spec = .ok p ∧ (p.excludes || p.fields.isEmpty) = true ∧
      (p.keepsId = true ↔ "_id" ∉ spec.keys) ∧
      p.fields = (spec.filter fun f => f.1 != "_id").map fun f => (f.1, .excluded) := by
  obtain ⟨p, hp, hid, hexcludes, hfields⟩ := of_uniform rfl fun f hf => FieldMode.of_drops (h f hf)
  refine ⟨p, hp, ?_, hid.trans (or_iff_right (by decide)), hfields⟩
  rw [hexcludes]
  cases p.fields.isEmpty <;> rfl

/-- The paths that are removed, the identifier's last. -/
def Projection.dropped (p : Projection) : List Path :=
  (p.fields.map fun f => Path.parse f.1) ++ if p.keepsId then [] else [Path.parse "_id"]

theorem erase_id (d : Document) : d.erase "_id" = Path.without d (Path.parse "_id") := by
  show d.erase "_id" = (if d.contains "_id" then some (d.erase "_id") else none).getD d
  by_cases h : d.contains "_id" = true
  · rw [if_pos h]
    rfl
  · rw [if_neg h]
    refine Document.erase_of_get?_eq_none ?_
    simpa [Document.contains] using h

theorem Projection.drop_eq (p : Projection) (d : Document) : p.drop d = Path.withoutAll d p.dropped := by
  have hfields : p.fields.foldl (fun out f => (Path.unset? out (Path.parse f.1)).getD out) d =
      Path.withoutAll d (p.fields.map fun f => Path.parse f.1) := by
    rw [Path.withoutAll, List.foldl_map]
    rfl
  rw [Projection.drop, Projection.dropped, hfields]
  by_cases hid : p.keepsId = true
  · rw [if_pos hid, if_pos hid, List.append_nil]
  · rw [if_neg hid, if_neg hid, erase_id, Path.withoutAll, Path.withoutAll, List.foldl_append]
    rfl

/-- The dropped paths are the named ones. -/
theorem Projection.mem_dropped {spec : Document} {p : Projection} (hid : p.keepsId = true ↔ "_id" ∉ spec.keys)
    (hfields : p.fields = (spec.filter fun f => f.1 != "_id").map fun f => (f.1, .excluded)) (r : Path) :
    r ∈ p.dropped ↔ ∃ k ∈ spec.keys, Path.parse k = r := by
  rw [Projection.dropped, hfields, List.mem_append, List.map_map]
  constructor
  · rintro (hr | hr)
    · obtain ⟨f, hf, rfl⟩ := List.mem_map.1 hr
      exact ⟨f.1, List.mem_map_of_mem (List.mem_filter.1 hf).1, rfl⟩
    · split at hr
      · cases hr
      · rename_i hkeeps
        rw [List.mem_singleton.1 hr]
        exact ⟨"_id", Classical.not_not.1 fun hn => hkeeps (hid.2 hn), rfl⟩
  · rintro ⟨k, hk, rfl⟩
    by_cases hkid : k = "_id"
    · subst hkid
      rw [if_neg fun hkeeps => hid.1 hkeeps hk]
      exact .inr List.mem_cons_self
    · obtain ⟨f, hf, rfl⟩ := List.mem_map.1 hk
      exact .inl (List.mem_map.2 ⟨f, List.mem_filter.2 ⟨hf, bne_iff_ne.2 hkid⟩, rfl⟩)

/-- A projection of dropped fields.  It succeeds, and in what becomes of a document

  * nothing is read at an excluded path that meets no array before its end;
  * at any excluded path nothing is read exactly where nothing was, or an excluded path that embedded documents lead to
    runs along it.  So what is below an array is still there;
  * a path that parts from all excluded ones reads as it did. -/
theorem project_drops {spec : Document} (hdrops : ∀ f ∈ spec, f.2.Drops) {docs : List Document}
    (hdocs : ∀ d ∈ docs, (Value.document d).WellFormed) :
    ∃ rows, runStage "$project" (.document spec) docs = .ok rows ∧ List.Forall₂ (fun d e =>
      (∀ k ∈ spec.keys, Path.ArrayFree d (Path.parse k) → Path.resolve e (Path.parse k) = none) ∧
      (∀ k ∈ spec.keys, Path.resolve e (Path.parse k) = none ↔ Path.resolve d (Path.parse k) = none ∨
        Path.CutBy d (spec.keys.map Path.parse) (Path.parse k)) ∧
      ∀ q, (∀ k ∈ spec.keys, (Path.parse k).Apart q) → Path.resolve e q = Path.resolve d q) docs rows := by
  obtain ⟨p, hp, hexcludes, hid, hfields⟩ := Projection.of_drops hdrops
  have hmem := Projection.mem_dropped hid hfields
  have happly : ∀ d, p.apply d = .ok (Path.withoutAll d p.dropped) := by
    intro d
    rw [Projection.apply, hexcludes, Projection.drop_eq]
    rfl
  obtain ⟨rows, hrows⟩ := traverse_of_total fun d (_ : d ∈ docs) => ⟨_, happly d⟩
  refine ⟨rows, Query.projectAll_eq_ok_iff.2 ⟨p, hp, hrows⟩, ?_⟩
  have hpairs := (List.forall₂_and_left _ _).2 ⟨hdocs, traverse_eq_ok_iff.1 hrows⟩
  refine hpairs.imp fun d e hpair => ?_
  obtain ⟨hd, he⟩ := hpair
  cases (happly d).symm.trans he
  have hcut : ∀ q, Path.CutBy d p.dropped q ↔ Path.CutBy d (spec.keys.map Path.parse) q := by
    simp only [Path.CutBy, hmem, List.mem_map, implies_true]
  refine ⟨fun k hk hfree => ?_, fun k hk => ?_, fun q hq => ?_⟩
  · exact Path.resolve_withoutAll_of_arrayFree hd ((hmem _).2 ⟨k, hk, rfl⟩) hfree
  · rw [← hcut]
    exact Path.resolve_withoutAll_self hd ((hmem _).2 ⟨k, hk, rfl⟩)
  · refine Path.resolve_withoutAll_of_not_reached hd fun r hr _ => ?_
    obtain ⟨k, hk, rfl⟩ := (hmem r).1 hr
    exact hq k hk

/-- A field below another, one below an array, an element by its position, a field below an excluded one, one that is
nowhere and the identifier. -/
theorem project_drops_mixed :
    let spec : Document := [("a.b", .boolean false), ("list.n", .int32 0), ("list.0", .int64 0), ("c", .double 0),
      ("c.x", .boolean false), ("gone.x", .boolean false), ("_id", .int32 0)]
    let docs : List Document :=
      [[("_id", .string "1"), ("a", .document [("b", .null), ("z", .null)]), ("list", .array [.document [("n", .null)]]),
        ("c", .array [.document [("x", .null)]])], [("gone", .string "x")]]
    (∀ f ∈ spec, f.2.Drops) ∧ (∀ d ∈ docs, (Value.document d).WellFormed) ∧
      ∃ rows, runStage "$project" (.document spec) docs = .ok rows ∧ List.Forall₂ (fun d e =>
        (∀ k ∈ spec.keys, Path.ArrayFree d (Path.parse k) → Path.resolve e (Path.parse k) = none) ∧
        (∀ k ∈ spec.keys, Path.resolve e (Path.parse k) = none ↔ Path.resolve d (Path.parse k) = none ∨
          Path.CutBy d (spec.keys.map Path.parse) (Path.parse k)) ∧
        ∀ q, (∀ k ∈ spec.keys, (Path.parse k).Apart q) → Path.resolve e q = Path.resolve d q) docs rows := by
  intro spec docs
  have hzero : Double.equal 0 0 = true := by decide +kernel
  have hdrops : ∀ f ∈ spec, f.2.Drops := by
    simp only [spec, List.forall_mem_cons]
    exact ⟨rfl, rfl, rfl, hzero, rfl, rfl, rfl, fun f hf => nomatch hf⟩
  have hdocs : ∀ d ∈ docs, (Value.document d).WellFormed := by
    simp [docs, Value.WellFormed, Value.WellFormedFields, Value.WellFormedItems, Document.Distinct]
  exact ⟨hdrops, hdocs, project_drops hdrops hdocs⟩

/-- An excluded field of documents in an array stays. -/
theorem project_drops_not_in_array :
    let d : Document := [("_id", .int32 1), ("items", .array [.document [("secret", .int32 1), ("n", .int32 2)]])]
    runStage "$project" (.document [("items.secret", .int32 0)]) [d] = .ok [d] ∧
      Path.resolve d (Path.parse "items.secret") = some (.array [.int32 1]) := by
  exact ⟨rfl, rfl⟩

end Pipeline

end DocQuery
