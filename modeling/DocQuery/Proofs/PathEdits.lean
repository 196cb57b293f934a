import DocQuery.Proofs.Exclusions

/-!
# Edits in place

A write and a removal walk the text of a path from dot to dot and change the document as they go.  Such a run gives an
answer and leaves a document, also where it is refused:

    writeAt v text d = (ok, e)        where set d p v = ok e
                     = (error x, d)   where set d p v = error x                                  (writeAt_eq)
    removeAt text d  = (true, e)      where unset? d p = some e
                     = (false, d)     where unset? d p = none                                    (removeAt_eq)

A write makes missing parents on its way, before it is known how it ends.  It is all or nothing nevertheless: a parent
that was made is empty, and below an empty document no write is refused (`exists_set_nil`).  At the path of an edit its
result is read, and paths that part from it read as before (`edits_spec`).
-/

namespace DocQuery

open Outcome

/-! ## Cutting at the first separator -/

namespace Split

variable {sep : Char} {s before behind : List Char}

/-- What stands before the first separator, and what stands behind it. -/
def cut? (sep : Char) : List Char → Option (List Char × List Char)
  | [] => none
  | c :: rest => if c = sep then some ([], rest) else (cut? sep rest).map fun cut => (c :: cut.1, cut.2)

theorem cut?_eq_none_iff : cut? sep s = none ↔ sep ∉ s := by
  induction s with
  | nil => simp [cut?]
  | cons c rest ih =>
    by_cases hc : c = sep
    · simp [cut?, hc]
    · simp [cut?, hc, ih, Ne.symm hc]

theorem eq_append_of_cut? (h : cut? sep s = some (before, behind)) : s = before ++ sep :: behind ∧ sep ∉ before := by
  induction s generalizing before with
  | nil => cases h
  | cons c rest ih =>
    rw [cut?] at h
    by_cases hc : c = sep
    · rw [if_pos hc] at h
      cases h
      exact ⟨congrArg (· :: _) hc, List.not_mem_nil⟩
    · rw [if_neg hc] at h
      obtain ⟨cut, hcut, heq⟩ := Option.map_eq_some_iff.1 h
      cases heq
      obtain ⟨hrest, hbefore⟩ := ih hcut
      refine ⟨congrArg (c :: ·) hrest, ?_⟩
      rw [List.mem_cons, not_or]
      exact ⟨Ne.symm hc, hbefore⟩

theorem length_of_cut? (h : cut? sep s = some (before, behind)) : behind.length < s.length := by
  rw [(eq_append_of_cut? h).1, List.length_append, List.length_cons]
  omega

theorem pieces_append (h : sep ∉ before) (behind : List Char) :
    pieces sep (before ++ sep :: behind) = (before, (pieces sep behind).1 :: (pieces sep behind).2) := by
  induction before with
  | nil => simp [pieces]
  | cons c rest ih =>
    rw [List.mem_cons, not_or] at h
    simp [pieces, ih h.2, Ne.symm h.1]

theorem toList_intercalate (sep : Char) (first : List Char) (later : List (List Char)) :
    (intercalate (String.singleton sep) (String.ofList first :: later.map String.ofList)).toList =
      join sep (first, later) := by
  induction later generalizing first with
  | nil => simp [intercalate, join]
  | cons next rest ih =>
    rw [List.map_cons, intercalate, String.toList_append, ih, String.toList_append]
    · simp [join]
    · simp

end Split

namespace Path

variable {head name : String} {tail : List String} {text before behind : List Char} {d e : Document} {p : Path}
  {v w : Value}

/-! ## Texts of paths -/

theorem parse_of_cut?_eq_none (h : Split.cut? '.' text = none) :
    parse (String.ofList text) = ⟨String.ofList text, []⟩ := by
  rw [parse, String.toList_ofList, Split.pieces_of_not_mem (Split.cut?_eq_none_iff.1 h)]
  rfl

theorem parse_of_cut? (h : Split.cut? '.' text = some (before, behind)) :
    parse (String.ofList text) = ⟨String.ofList before, (parse (String.ofList behind)).names⟩ := by
  obtain ⟨rfl, hbefore⟩ := Split.eq_append_of_cut? h
  rw [parse, parse, String.toList_ofList, String.toList_ofList, Split.pieces_append hbefore]
  rfl

/-- The names of a path with dots between them are its text. -/
theorem intercalate_names (text : List Char) :
    Split.intercalate "." (parse (String.ofList text)).names = String.ofList text := by
  rw [← String.toList_inj, String.toList_ofList]
  conv_rhs => rw [← Split.join_pieces '.' text]
  rw [parse, String.toList_ofList]
  exact Split.toList_intercalate '.' _ _

/-! ## Runs in place -/

/-- The document with an empty one at a field that is missing. -/
def withParent (d : Document) (name : String) : Document :=
  if d.contains name then d else d.insert name (.document [])

/-- Writes at the text of a path, in place: the answer, and the document that is left. -/
def writeAt (v : Value) (text : List Char) (d : Document) : Except StoreError Unit × Document :=
  match _h : Split.cut? '.' text with
  | none => (.ok (), d.insert (String.ofList text) v)
  | some (before, behind) =>
    let name := String.ofList before
    -- made also where what follows is refused
    let made := withParent d name
    match made.get? name with
    | some (.document inner) =>
      let below := writeAt v behind inner
      (below.1, made.insert name (.document below.2))
    | _ => (.error (blocked name [String.ofList behind]), made)
termination_by text.length
decreasing_by exact Split.length_of_cut? _h

/-- Removes at the text of a path, in place: whether anything was there, and the document that is left. -/
def removeAt (text : List Char) (d : Document) : Bool × Document :=
  match _h : Split.cut? '.' text with
  | none => (d.contains (String.ofList text), d.erase (String.ofList text))
  | some (before, behind) =>
    let name := String.ofList before
    match d.get? name with
    | some (.document inner) =>
      let below := removeAt behind inner
      (below.1, d.insert name (.document below.2))
    | _ => (false, d)
termination_by text.length
decreasing_by exact Split.length_of_cut? _h

/-- What a run in place comes to, from what the write gives: a refused one leaves the document as it was. -/
def inPlace (d : Document) : Except StoreError Document → Except StoreError Unit × Document
  | .ok e => (.ok (), e)
  | .error x => (.error x, d)

theorem blocked_names (name : String) (text : List Char) :
    blocked name [String.ofList text] = blocked name (parse (String.ofList text)).names := by
  rw [blocked, blocked, intercalate_names]
  rfl

/-! ## One step of a run -/

theorem withParent_of_get? (h : d.get? name = some w) : withParent d name = d := by
  rw [withParent, Document.contains, h]
  rfl

theorem withParent_of_absent (h : d.get? name = none) : withParent d name = d.insert name (.document []) := by
  rw [withParent, Document.contains, h]
  rfl

theorem get?_withParent_of_absent (h : d.get? name = none) :
    (withParent d name).get? name = some (.document []) := by
  rw [withParent_of_absent h]
  exact Document.get?_insert_self d name _

/-- Below an empty document no write is refused. -/
theorem exists_set_nil (p : Path) (v : Value) : ∃ e, set [] p v = .ok e :=
  Pipeline.setFrom_of_absent (Document.get?_nil p.head)

/-- A run below an embedded document is a run from the document around it. -/
theorem inPlace_below (h : d.get? name = some (.document e)) (result : Except StoreError Document) :
    ((inPlace e result).1, d.insert name (.document (inPlace e result).2)) =
      inPlace d (result.map fun left => d.insert name (.document left)) := by
  cases result with
  | ok left => rfl
  | error x => exact congrArg (Prod.mk _) (Document.insert_of_get? h)

/-- A write below a parent, be it there or made on the way, comes to what it comes to without the parent. -/
theorem inPlace_withParent (h : (withParent d name).get? name = some (.document e)) (p : Path) (v : Value) :
    inPlace (withParent d name) ((set e p v).map fun left => (withParent d name).insert name (.document left)) =
      inPlace d (set d ⟨name, p.names⟩ v) := by
  cases hd : d.get? name with
  | some w =>
    rw [withParent_of_get? hd] at h ⊢
    exact congrArg (inPlace d) (setFrom_below h v).symm
  | none =>
    -- the parent was made, so it is empty and the write below it goes through
    rw [get?_withParent_of_absent hd] at h
    cases h
    obtain ⟨left, hleft⟩ := exists_set_nil p v
    have hset : set d ⟨name, p.names⟩ v = .ok (d.insert name (.document left)) := by
      show setFrom v name (p.head :: p.tail) d = _
      rw [setFrom, hd]
      exact congrArg (Except.map _) hleft
    rw [hset, hleft, withParent_of_absent hd]
    exact congrArg (Prod.mk _) (Document.insert_insert d name _ _)

/-- Where the walk finds no document, none was missing, and the write is refused. -/
theorem set_of_no_parent (h : ∀ e, (withParent d name).get? name ≠ some (.document e)) (p : Path) (v : Value) :
    withParent d name = d ∧ set d ⟨name, p.names⟩ v = .error (blocked name p.names) := by
  cases hd : d.get? name with
  | none => exact absurd (get?_withParent_of_absent hd) (h [])
  | some w =>
    rw [withParent_of_get? hd] at h ⊢
    refine ⟨rfl, ?_⟩
    show setFrom v name (p.head :: p.tail) d = _
    rw [setFrom, hd]
    cases w with
    | document e => exact absurd hd (h e)
    | _ => rfl

theorem unset?_below (h : d.get? name = some (.document e)) (p : Path) :
    unset? d ⟨name, p.names⟩ = (unset? e p).map fun left => d.insert name (.document left) := by
  show unsetFrom? name (p.head :: p.tail) d = _
  rw [unsetFrom?, h]
  rfl

theorem unset?_of_no_parent (h : ∀ e, d.get? name ≠ some (.document e)) (p : Path) :
    unset? d ⟨name, p.names⟩ = none := by
  show unsetFrom? name (p.head :: p.tail) d = none
  rw [unsetFrom?]
  split
  · rename_i e he
    exact absurd he (h e)
  · rfl

/-! ## Whole runs -/

theorem writeAt_eq (v : Value) (text : List Char) (d : Document) :
    writeAt v text d = inPlace d (set d (parse (String.ofList text)) v) := by
  fun_induction writeAt v text d with
  | case1 text d hcut =>
    rw [parse_of_cut?_eq_none hcut]
    rfl
  | case2 text d before behind hcut name made inner hinner below ih =>
    rw [show below = _ from ih, inPlace_below hinner, parse_of_cut? hcut]
    exact inPlace_withParent hinner _ v
  | case3 text d before behind hcut name made hother =>
    obtain ⟨hmade, hset⟩ := set_of_no_parent hother (parse (String.ofList behind)) v
    rw [parse_of_cut? hcut, hset, blocked_names]
    exact congrArg (Prod.mk _) hmade

theorem removeAt_eq (text : List Char) (d : Document) :
    removeAt text d = ((unset? d (parse (String.ofList text))).isSome, without d (parse (String.ofList text))) := by
  fun_induction removeAt text d with
  | case1 text d hcut =>
    rw [parse_of_cut?_eq_none hcut, without, unset?, unsetFrom?]
    cases hd : d.get? (String.ofList text) with
    | none =>
      rw [Document.contains, hd, Document.erase_of_get?_eq_none hd]
      rfl
    | some w =>
      rw [Document.contains, hd]
      rfl
  | case2 text d before behind hcut name inner hinner below ih =>
    rw [show below = _ from ih, parse_of_cut? hcut, without, without, unset?_below hinner]
    cases unset? inner (parse (String.ofList behind)) with
    | none => exact congrArg (Prod.mk _) (Document.insert_of_get? hinner)
    | some left => rfl
  | case3 text d before behind hcut name hother =>
    rw [parse_of_cut? hcut, without, unset?_of_no_parent hother]
    rfl

/-! ## Where an edit goes through -/

/-- Whatever stands on the way to the end of the path is a document. -/
def Clear (d : Document) (p : Path) : Prop :=
  ∀ way w, way <+: p.tail → way ≠ p.tail → Leads d ⟨p.head, way⟩ w → w.isDocument = true

/-- A write succeeds exactly where the way is clear. -/
theorem exists_setFrom_iff : (∃ e, setFrom v head tail d = .ok e) ↔
    ∀ way w, way <+: tail → way ≠ tail → Reaches head way d w → w.isDocument = true := by
  induction tail generalizing head d with
  | nil =>
    refine iff_of_true ⟨_, rfl⟩ fun way w hway hne => ?_
    exact absurd (List.prefix_nil.1 hway) hne
  | cons next rest ih =>
    constructor
    · rintro ⟨e, he⟩ way w hway hne hreach
      obtain ⟨inner, written, hinner, hwritten, -⟩ := setFrom_cons_eq_ok he
      cases hreach with
      | field hw =>
        rcases hinner with hinner | ⟨hnone, -⟩
        · cases hinner.symm.trans hw
          rfl
        · cases hnone.symm.trans hw
      | within hw hbelow =>
        obtain ⟨rfl, hrest⟩ := List.cons_prefix_cons.1 hway
        rcases hinner with hinner | ⟨hnone, -⟩
        · cases hinner.symm.trans hw
          exact ih.1 ⟨written, hwritten⟩ _ w hrest (fun heq => hne (congrArg _ heq)) hbelow
        · cases hnone.symm.trans hw
    · intro h
      cases hd : d.get? head with
      | none => exact Pipeline.setFrom_of_absent hd
      | some w =>
        cases w with
        | document inner =>
          have hbelow : ∀ way w, way <+: rest → way ≠ rest → Reaches next way inner w → w.isDocument = true := by
            intro way w hway hne hreach
            refine h (next :: way) w (List.cons_prefix_cons.2 ⟨rfl, hway⟩) ?_ (.within hd hreach)
            exact fun heq => hne (List.cons.inj heq).2
          obtain ⟨e, he⟩ := ih.2 hbelow
          exact ⟨_, by rw [setFrom_below hd, he]; rfl⟩
        | _ => cases h [] _ List.nil_prefix (by simp) (.field hd)

theorem exists_set_iff : (∃ e, set d p v = .ok e) ↔ Clear d p := exists_setFrom_iff

theorem unset?_isSome_iff : (unset? d p).isSome = true ↔ Reached d p := by
  rw [Option.isSome_iff_exists]
  exact exists_unsetFrom?_iff

/-! ## What an edit changes -/

/-- This is read at the path, and paths that part from it read as before. -/
structure ChangedAt (p : Path) (result : Option Value) (d e : Document) : Prop where
  own : resolve e p = result
  others : ∀ q, p.Apart q → resolve e q = resolve d q

theorem changedAt_of_set (h : set d p v = .ok e) : ChangedAt p (some v) d e := by
  refine ⟨(leads_set h).resolve, fun q hq => ?_⟩
  exact Change.resolve_on (c := .write v) hq ((lift_eq_ok_iff _ _).2 h)

theorem changedAt_without (hd : (Value.document d).WellFormed) (h : Reached d p) : ChangedAt p none d (without d p) :=
  ⟨resolve_without_below hd h List.prefix_rfl, fun _ hq => resolve_without_of_apart hq d⟩

section Texts

variable (text : String)

theorem writeAt_toList : writeAt v text.toList d = inPlace d (set d (parse text) v) := by
  rw [writeAt_eq, String.ofList_toList]

theorem removeAt_toList :
    removeAt text.toList d = ((unset? d (parse text)).isSome, without d (parse text)) := by
  rw [removeAt_eq, String.ofList_toList]

theorem set_eq_writeAt :
    set d (parse text) v = (writeAt v text.toList d).1.map fun _ => (writeAt v text.toList d).2 := by
  rw [writeAt_toList]
  cases set d (parse text) v <;> rfl

theorem writeAt_ok_iff : (writeAt v text.toList d).1 = .ok () ↔ Clear d (parse text) := by
  rw [← exists_set_iff (v := v), set_eq_writeAt]
  simp only [map_eq_ok_iff]
  constructor
  · intro h
    exact ⟨_, (), h, rfl⟩
  · rintro ⟨-, ⟨⟩, h, -⟩
    exact h

theorem changedAt_writeAt (h : (writeAt v text.toList d).1 = .ok ()) :
    ChangedAt (parse text) (some v) d (writeAt v text.toList d).2 :=
  changedAt_of_set (by rw [set_eq_writeAt, h]; rfl)

theorem writeAt_refused {x : StoreError} (h : (writeAt v text.toList d).1 = .error x) :
    (writeAt v text.toList d).2 = d := by
  rw [writeAt_toList] at h ⊢
  cases hset : set d (parse text) v with
  | ok e =>
    rw [hset] at h
    cases h
  | error y => rfl

theorem unset?_eq_removeAt :
    unset? d (parse text) = if (removeAt text.toList d).1 then some (removeAt text.toList d).2 else none := by
  rw [removeAt_toList, without]
  cases unset? d (parse text) <;> rfl

theorem removeAt_found_iff : (removeAt text.toList d).1 = true ↔ Reached d (parse text) := by
  rw [removeAt_toList]
  exact unset?_isSome_iff

theorem changedAt_removeAt (hd : (Value.document d).WellFormed) (h : (removeAt text.toList d).1 = true) :
    ChangedAt (parse text) none d (removeAt text.toList d).2 := by
  rw [removeAt_found_iff] at h
  rw [removeAt_toList]
  exact changedAt_without hd h

theorem removeAt_missed (h : (removeAt text.toList d).1 = false) : (removeAt text.toList d).2 = d := by
  have hnot : ¬ Reached d (parse text) := by
    rw [← removeAt_found_iff, h]
    exact Bool.false_ne_true
  rw [removeAt_toList]
  exact without_of_not_reached hnot

/-- A write and a removal in place at the text of a path.  They agree with `set` and `unset?`, which give a copy.

  * The write succeeds exactly where whatever stands on its way is a document.  Then the value is read at the path, and
    all paths that part from it read as before.  Where it is refused, the document is as it was.
  * The removal finds something exactly where embedded documents lead to it.  Then nothing is read at the path, and all
    paths that part from it read as before.  Where it finds nothing, the document is as it was. -/
theorem edits_spec (hd : (Value.document d).WellFormed) (v : Value) :
    let p := parse text
    let written := writeAt v text.toList d
    let removed := removeAt text.toList d
    (set d p v = written.1.map fun _ => written.2) ∧
    (written.1 = .ok () ↔ Clear d p) ∧
    (written.1 = .ok () → ChangedAt p (some v) d written.2) ∧
    (∀ x, written.1 = .error x → written.2 = d) ∧
    (unset? d p = if removed.1 then some removed.2 else none) ∧
    (removed.1 = true ↔ Reached d p) ∧
    (removed.1 = true → ChangedAt p none d removed.2) ∧
    (removed.1 = false → removed.2 = d) :=
  ⟨set_eq_writeAt text, writeAt_ok_iff text, changedAt_writeAt text, fun _ => writeAt_refused text,
    unset?_eq_removeAt text, removeAt_found_iff text, changedAt_removeAt text hd, removeAt_missed text⟩

end Texts

/-- Empty names and names of digits: a write that makes a parent, and a removal; and a field that is read through an
array, where no edit comes. -/
theorem edits_spec_nested :
    let d : Document := [("", .document [("0", .document [("x", .int32 1), ("", .null)])]),
      ("list", .array [.document [("n", .int32 5)], .int32 2])]
    let written := writeAt (.int32 7) ".0.y.z".toList d
    let removed := removeAt ".0.x".toList d
    let refused := writeAt .null "list.0.n".toList d
    let missed := removeAt "list.0.n".toList d
    (Value.document d).WellFormed ∧
      written.1 = .ok () ∧ ChangedAt (parse ".0.y.z") (some (.int32 7)) d written.2 ∧
      removed.1 = true ∧ ChangedAt (parse ".0.x") none d removed.2 ∧
      resolve d (parse "list.0.n") = some (.int32 5) ∧
      refused.1 = .error (blocked "list" ["0.n"]) ∧ refused.2 = d ∧
      missed.1 = false ∧ missed.2 = d := by
  intro d written removed refused missed
  have hd : (Value.document d).WellFormed := by
    simp [d, Value.WellFormed, Value.WellFormedFields, Value.WellFormedItems, Document.Distinct]
  have hwritten : written.1 = .ok () := congrArg Prod.fst (writeAt_toList ".0.y.z")
  have hremoved : removed.1 = true := congrArg Prod.fst (removeAt_toList ".0.x")
  have hrefused : refused.1 = .error (blocked "list" ["0.n"]) := congrArg Prod.fst (writeAt_toList "list.0.n")
  have hmissed : missed.1 = false := congrArg Prod.fst (removeAt_toList "list.0.n")
  obtain ⟨-, -, hwrite, -⟩ := edits_spec ".0.y.z" hd (.int32 7)
  obtain ⟨-, -, -, -, -, -, hremove, -⟩ := edits_spec ".0.x" hd .null
  obtain ⟨-, -, -, hrefuse, -, -, -, hmiss⟩ := edits_spec "list.0.n" hd .null
  exact ⟨hd, hwritten, hwrite hwritten, hremoved, hremove hremoved, rfl, hrefused, hrefuse _ hrefused, hmissed,
    hmiss hmissed⟩

end Path

end DocQuery
