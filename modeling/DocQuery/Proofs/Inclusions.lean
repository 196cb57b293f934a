import DocQuery.Proofs.Changes
import DocQuery.Proofs.Integers
import DocQuery.Proofs.Stages

/-!
# Keeping fields

A projection that only keeps fields reads each of them from the document as it came and writes it into the output at
the same path.  Reading sees through arrays and writing makes embedded documents only; but no path runs along another,
so each is free in the output until its own field is written there, and stays as it is behind it:

    v.Keeps → FieldMode.of v = included                                                    (of_keeps)
    paths free in out and apart → all fields are written, each reads as it did in d        (foldlM_addProjected)
    the stage succeeds, every kept field reads the same, and so does the identifier        (project_keeps)

The identifier is in the output before all fields, and only a name that starts with `_id.` would get below it
(`eq_id_of_head`).
-/

namespace DocQuery

open Outcome

/-! ## What keeps a field -/

/-- `true`, or a number of a machine type that is not zero. -/
def Value.Keeps : Value → Prop
  | .boolean b => b = true
  | .int32 n => n ≠ 0
  | .int64 n => n ≠ 0
  | .double x => Double.equal x 0 = false
  | _ => False

/-- No other integer has the double of zero. -/
theorem Double.equal_ofInt_zero {n : Int} (h : n.natAbs < 2 ^ 64) (hn : n ≠ 0) :
    Double.equal (Float.ofInt n) 0 = false := by
  rw [Bool.eq_false_iff]
  intro hequal
  obtain ⟨p, hp, hzero⟩ := (Double.equal_iff _ _).1 hequal
  cases (Double.position?_ofNat (n := 0) (by decide)).symm.trans hzero
  have hplace : Double.placeOf n = 0 := Option.some.inj ((Double.position?_ofInt h).symm.trans hp)
  have hpos : 0 < Double.place n.natAbs := Double.place_pos (Int.natAbs_ne_zero.2 hn)
  rw [Double.placeOf] at hplace
  split at hplace <;> omega

namespace Pipeline

theorem FieldMode.of_keeps {v : Value} (h : v.Keeps) : FieldMode.of v = .included := by
  have hflag : ∀ x : Float, Double.equal x 0 = false →
      (if (!Double.equal x 0) = true then FieldMode.included else .excluded) = .included := by
    intro x hx
    rw [hx]
    rfl
  cases v with
  | boolean b =>
    cases (show b = true from h)
    rfl
  | double x => exact hflag x h
  | int32 n =>
    have hn : n.toInt ≠ 0 := fun h0 => h (Int32.toInt_inj.1 h0)
    exact hflag _ (Double.equal_ofInt_zero (Value.natAbs_of_integer (a := .int32 n) rfl) hn)
  | int64 n =>
    have hn : n.toInt ≠ 0 := fun h0 => h (Int64.toInt_inj.1 h0)
    exact hflag _ (Double.equal_ofInt_zero (Value.natAbs_of_integer (a := .int64 n) rfl) hn)
  | _ => exact h.elim

/-- A projection whose fields are all kept, or all dropped.  Kept and dropped fields are not mixed then. -/
theorem Projection.of_uniform {spec : Document} {mode : FieldMode} (hc : mode.isComputed = false)
    (h : ∀ f ∈ spec, FieldMode.of f.2 = mode) :
    ∃ p, Projection.of spec = .ok p ∧ (p.keepsId = true ↔ mode.isExcluded = false ∨ "_id" ∉ spec.keys) ∧
      p.excludes = (mode.isExcluded && !p.fields.isEmpty) ∧
      p.fields = (spec.filter fun f => f.1 != "_id").map fun f => (f.1, mode) := by
  let others : List (String × FieldMode) := (spec.filter fun f => f.1 != "_id").map fun f => (f.1, mode)
  have hmodes : spec.map (fun f => (f.1, FieldMode.of f.2)) = spec.map fun f => (f.1, mode) :=
    List.map_congr_left fun f hf => by rw [h f hf]
  have hothers : ((spec.map fun f => (f.1, mode)).filter fun f => f.1 != "_id") = others := List.filter_map ..
  have hfields : ((spec.map fun f => (f.1, mode)).filter fun f => f.1 != "_id" || f.2.isComputed) = others := by
    rw [List.filter_map]
    refine congrArg _ (List.filter_congr fun f _ => ?_)
    show (f.1 != "_id" || mode.isComputed) = _
    rw [hc, Bool.or_false]
  have hany : ∀ t : FieldMode → Bool, others.any (fun f => t f.2) = (t mode && !others.isEmpty) := by
    intro t
    show List.any (List.map _ _) _ = (t mode && !List.isEmpty (List.map _ _))
    rw [List.any_map, List.isEmpty_map]
    cases spec.filter fun f => f.1 != "_id" <;> cases ht : t mode <;> simp [ht]
  rw [Projection.of]
  dsimp only
  rw [hmodes, hothers, hfields, hany fun mode => !mode.isExcluded, hany FieldMode.isExcluded]
  have hmixed : ((!mode.isExcluded && !others.isEmpty) && (mode.isExcluded && !others.isEmpty)) = false := by
    cases mode.isExcluded <;> simp
  rw [hmixed]
  refine ⟨_, rfl, ?_, rfl, rfl⟩
  show (!(spec.map fun f => (f.1, mode)).any fun f => f.1 == "_id" && f.2.isExcluded) = true ↔ _
  rw [Bool.not_eq_true', List.any_map, List.any_eq_false, Document.keys, List.mem_map]
  constructor
  · intro hnone
    cases hmode : mode.isExcluded with
    | false => exact .inl rfl
    | true =>
      right
      rintro ⟨f, hf, hid⟩
      exact hnone f hf (by simp [hid, hmode])
  · rintro (hmode | hnone) f hf hid
    · simp [hmode] at hid
    · exact hnone ⟨f, hf, by simpa using (Bool.and_eq_true_iff.1 hid).1⟩

/-- A projection of kept fields: the identifier stays, and the other names are kept. -/
theorem Projection.of_kept {spec : Document} (h : ∀ f ∈ spec, f.2.Keeps) :
    ∃ p, Projection.of spec = .ok p ∧ p.keepsId = true ∧ p.excludes = false ∧
      p.fields = (spec.filter fun f => f.1 != "_id").map fun f => (f.1, .included) := by
  obtain ⟨p, hp, hid, hexcludes, hfields⟩ := of_uniform rfl fun f hf => FieldMode.of_keeps (h f hf)
  exact ⟨p, hp, hid.2 (.inl rfl), hexcludes, hfields⟩

/-! ## Writing the fields -/

/-- Nothing is read at the path, and everything can be written. -/
structure Free (d : Document) (p : Path) : Prop where
  absent : Path.resolve d p = none
  writable : ∀ v, ∃ e, Path.set d p v = .ok e

theorem setFrom_of_absent {v : Value} {head : String} {tail : List String} {d : Document} (h : d.get? head = none) :
    ∃ e, Path.setFrom v head tail d = .ok e := by
  induction tail generalizing head d with
  | nil => exact ⟨_, rfl⟩
  | cons next rest ih =>
    obtain ⟨e, he⟩ := ih (Document.get?_nil next)
    exact ⟨_, by rw [Path.setFrom, h, he]; rfl⟩

theorem free_of_absent {d : Document} {p : Path} (h : d.get? p.head = none) : Free d p := by
  refine ⟨?_, fun v => setFrom_of_absent h⟩
  rw [Path.resolve, h]
  rfl

/-- A path stays free behind a write at one that parts from it. -/
theorem Free.set {d e : Document} {p q : Path} {v : Value} (hq : Free d q) (h : p.Apart q)
    (he : Path.set d p v = .ok e) : Free e q := by
  have hchange : (Change.write v).on p d = .ok e := (lift_eq_ok_iff _ _).2 he
  refine ⟨(Change.resolve_on h hchange).trans hq.absent, fun w => ?_⟩
  obtain ⟨f, hf⟩ := hq.writable w
  have hother : (Change.write w).on q d = .ok f := (lift_eq_ok_iff _ _).2 hf
  obtain ⟨g, hg⟩ := Change.on_of_on h hchange hother
  exact ⟨g, (lift_eq_ok_iff _ _).1 hg⟩

/-- One kept field is written, and nothing is changed at the paths that part from its own. -/
theorem addProjected_included {d out : Document} {k : String} (hfree : Free out (Path.parse k)) :
    ∃ next, addProjected d out (k, .included) = .ok next ∧
      Path.resolve next (Path.parse k) = Path.resolve d (Path.parse k) ∧
      ∀ q, (Path.parse k).Apart q → (Free out q → Free next q) ∧ Path.resolve next q = Path.resolve out q := by
  rw [addProjected]
  cases hv : Path.resolve d (Path.parse k) with
  | none => exact ⟨out, rfl, hfree.absent, fun q _ => ⟨id, rfl⟩⟩
  | some v =>
    obtain ⟨next, hset⟩ := hfree.writable v
    have hlift : Outcome.lift (Path.set out (Path.parse k) v) = .ok next := (lift_eq_ok_iff _ _).2 hset
    refine ⟨next, hlift, (Path.leads_set hset).resolve, fun q hq => ⟨fun h => h.set hq hset, ?_⟩⟩
    exact Change.resolve_on (c := .write v) hq hlift

/-- Kept fields are written one after the other.  What is still to come is free, so each write succeeds; what has been
written reads as in the document, and no later write changes it. -/
theorem foldlM_addProjected {d : Document} {names : List String}
    (hapart : names.Pairwise fun k j => (Path.parse k).Apart (Path.parse j)) {out : Document}
    (hfree : ∀ k ∈ names, Free out (Path.parse k)) :
    ∃ e, (names.map fun k => (k, FieldMode.included)).foldlM (addProjected d) out = .ok e ∧
      (∀ k ∈ names, Path.resolve e (Path.parse k) = Path.resolve d (Path.parse k)) ∧
      ∀ q, (∀ k ∈ names, (Path.parse k).Apart q) → Path.resolve e q = Path.resolve out q := by
  induction names generalizing out with
  | nil => exact ⟨out, rfl, (fun k hk => nomatch hk), fun q _ => rfl⟩
  | cons k rest ih =>
    obtain ⟨hk, hrest⟩ := List.pairwise_cons.1 hapart
    obtain ⟨hfreek, hfreerest⟩ := List.forall_mem_cons.1 hfree
    obtain ⟨next, hnext, hreads, hothers⟩ := addProjected_included (d := d) hfreek
    obtain ⟨e, he, hkept, hframe⟩ := ih hrest fun j hj => (hothers _ (hk j hj)).1 (hfreerest j hj)
    refine ⟨e, ?_, List.forall_mem_cons.2 ⟨?_, hkept⟩, fun q hq => ?_⟩
    · rw [List.map_cons, List.foldlM_cons, hnext]
      exact he
    · exact (hframe _ fun j hj => (hk j hj).symm).trans hreads
    · obtain ⟨hkq, hrestq⟩ := List.forall_mem_cons.1 hq
      exact (hframe q hrestq).trans (hothers q hkq).2

/-! ## The identifier -/

/-- Only the identifier itself and names below it start at the identifier. -/
theorem eq_id_of_head {k : String} (h : (Path.parse k).head = "_id") (hid : ¬ "_id.".toList <+: k.toList) :
    k = "_id" := by
  have hjoin := Split.join_pieces '.' k.toList
  rw [Path.parse] at h
  rcases hp : Split.pieces '.' k.toList with ⟨first, later⟩
  rw [hp] at h hjoin
  have hfirst : first = "_id".toList := by rw [← h, String.toList_ofList]
  cases later with
  | nil =>
    rw [← String.toList_inj, ← hjoin, hfirst]
    rfl
  | cons next later =>
    refine absurd ⟨next ++ later.flatMap ('.' :: ·), ?_⟩ hid
    rw [← hjoin, hfirst]
    rfl

/-! ## Main result -/

/-- The output starts with the identifier, where there is one, and nothing else. -/
theorem pick_kept {p : Projection} (hid : p.keepsId = true) (d : Document) :
    ∃ start : Document, p.pick d = p.fields.foldlM (addProjected d) start ∧ start.get? "_id" = d.get? "_id" ∧
      ∀ name, name ≠ "_id" → start.get? name = none := by
  rw [Projection.pick, hid]
  cases hd : d.get? "_id" with
  | none => exact ⟨[], rfl, rfl, fun name _ => rfl⟩
  | some id => exact ⟨[("_id", id)], rfl, rfl, fun name hn => if_neg (Ne.symm hn)⟩

/-- A projection of kept fields applied to one document. -/
theorem apply_kept {p : Projection} (hid : p.keepsId = true) (hexcludes : p.excludes = false) {names : List String}
    (hfields : p.fields = names.map fun k => (k, .included))
    (hapart : names.Pairwise fun k j => (Path.parse k).Apart (Path.parse j))
    (hheads : ∀ k ∈ names, (Path.parse k).head ≠ "_id") (d : Document) :
    ∃ e, p.apply d = .ok e ∧ (∀ k ∈ names, Path.resolve e (Path.parse k) = Path.resolve d (Path.parse k)) ∧
      e.get? "_id" = d.get? "_id" := by
  rw [Projection.apply, hexcludes, Bool.false_or]
  -- A projection that names the identifier alone passes the whole document, which keeps all of it.
  by_cases hnone : names = []
  · have hdrop : p.drop d = d := by
      rw [Projection.drop, hid, hfields, hnone]
      rfl
    rw [hfields, hnone, hdrop]
    exact ⟨d, rfl, fun k _ => rfl, rfl⟩
  · have hsome : p.fields.isEmpty = false := by
      rw [hfields, List.isEmpty_map]
      exact List.isEmpty_eq_false_iff.2 hnone
    obtain ⟨start, hpick, hstart, habsent⟩ := pick_kept hid d
    obtain ⟨e, he, hkept, hframe⟩ := foldlM_addProjected (d := d) hapart
      fun k hk => free_of_absent (habsent _ (hheads k hk))
    rw [hsome, hpick, hfields]
    refine ⟨e, he, hkept, ?_⟩
    have hidentifier := hframe ⟨"_id", []⟩ fun k hk => Path.apart_of_head_ne (hheads k hk)
    rw [Path.resolve_of_tail_nil e rfl, Path.resolve_of_tail_nil start rfl] at hidentifier
    exact hidentifier.trans hstart

/-- A projection of kept fields, none of which runs along another or below the identifier: it succeeds on all
documents, and each keeps the identifier and what is read at every kept field, be it missing, in documents or collected
from arrays. -/
theorem project_keeps {spec : Document} (hkeeps : ∀ f ∈ spec, f.2.Keeps)
    (hapart : spec.keys.Pairwise fun k j => (Path.parse k).Apart (Path.parse j))
    (hid : ∀ k ∈ spec.keys, ¬ "_id.".toList <+: k.toList) (docs : List Document) :
    ∃ rows, runStage "$project" (.document spec) docs = .ok rows ∧ List.Forall₂ (fun d e =>
      (∀ k ∈ spec.keys, Path.resolve e (Path.parse k) = Path.resolve d (Path.parse k)) ∧
        e.get? "_id" = d.get? "_id") docs rows := by
  obtain ⟨p, hp, hkeepsId, hexcludes, hfields⟩ := Projection.of_kept hkeeps
  have hnames : p.fields = (spec.keys.filter fun k => k != "_id").map fun k => (k, .included) := by
    rw [hfields, Document.keys, List.filter_map, List.map_map]
    rfl
  have hheads : ∀ k ∈ spec.keys.filter fun k => k != "_id", (Path.parse k).head ≠ "_id" := by
    intro k hk hhead
    obtain ⟨hmem, hne⟩ := List.mem_filter.1 hk
    exact absurd (eq_id_of_head hhead (hid k hmem)) (bne_iff_ne.1 hne)
  have hone : ∀ d, ∃ e, p.apply d = .ok e ∧
      (∀ k ∈ spec.keys, Path.resolve e (Path.parse k) = Path.resolve d (Path.parse k)) ∧
      e.get? "_id" = d.get? "_id" := by
    intro d
    obtain ⟨e, he, hkept, hidentifier⟩ := apply_kept hkeepsId hexcludes hnames (hapart.filter _) hheads d
    refine ⟨e, he, fun k hk => ?_, hidentifier⟩
    by_cases hkid : k = "_id"
    · have htail : (Path.parse k).tail = [] := by
        rw [hkid]
        rfl
      rw [Path.resolve_of_tail_nil e htail, Path.resolve_of_tail_nil d htail, hkid]
      exact hidentifier
    · exact hkept k (List.mem_filter.2 ⟨hk, bne_iff_ne.2 hkid⟩)
  obtain ⟨rows, hrows⟩ := traverse_of_total fun d (_ : d ∈ docs) =>
    (hone d).imp fun e he => he.1
  refine ⟨rows, Query.projectAll_eq_ok_iff.2 ⟨p, hp, hrows⟩, (traverse_eq_ok_iff.1 hrows).imp fun d e he => ?_⟩
  obtain ⟨f, hf, hkept⟩ := hone d
  cases he.symm.trans hf
  exact hkept

/-- Two fields below one parent, an element by its position, a field collected from an array, a path that leads nowhere
and the identifier, over a document that has them and one that has not. -/
theorem project_keeps_two :
    let spec : Document := [("a.b", .boolean true), ("a.c.0", .int32 (-1)), ("_id", .int64 2),
      ("list.n", .boolean true), ("gone.x", .boolean true)]
    let docs : List Document :=
      [[("_id", .string "1"), ("a", .document [("b", .null), ("c", .array [.string "x", .string "y"]), ("z", .null)]),
        ("list", .array [.document [("n", .string "x")], .string "y", .document [("n", .null)]])],
       [("name", .null), ("gone", .string "x")]]
    (∀ f ∈ spec, f.2.Keeps) ∧ ∃ rows, runStage "$project" (.document spec) docs = .ok rows ∧
      List.Forall₂ (fun d e =>
        (∀ k ∈ spec.keys, Path.resolve e (Path.parse k) = Path.resolve d (Path.parse k)) ∧
          e.get? "_id" = d.get? "_id") docs rows := by
  intro spec docs
  have hkeeps : ∀ f ∈ spec, f.2.Keeps := by
    have hone : (-1 : Int32) ≠ 0 := by decide
    have htwo : (2 : Int64) ≠ 0 := by decide
    simp only [spec, List.forall_mem_cons]
    exact ⟨rfl, hone, htwo, rfl, rfl, fun f hf => nomatch hf⟩
  have hapart : spec.keys.Pairwise fun k j => (Path.parse k).Apart (Path.parse j) := by decide +kernel
  have hid : ∀ k ∈ spec.keys, ¬ "_id.".toList <+: k.toList := by decide +kernel
  exact ⟨hkeeps, project_keeps hkeeps hapart hid docs⟩

end Pipeline

end DocQuery
