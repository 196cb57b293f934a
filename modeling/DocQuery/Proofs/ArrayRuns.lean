import DocQuery.Proofs.Equality

/-!
# Reading through arrays

A path is read at once, into one value: at an array a name gathers that field of the documents among the elements, and
what is gathered is an array again, of which the documents are asked for the next name.  A run follows the names one by
one instead, into a field of a document or of a document among the elements of an array:

    Run n names v w          from v along the names to w, into the elements of n arrays

Gathering keeps what one array leads to and loses what lies behind a second one, since an array that has been gathered
is no document and no text:

    equals (descend names (array items)) "x" ↔ from one of items a run to "x" into no array     (equals_gathered_iff)
    equals (descend names v) "x"             ↔ from v a run to "x" into one array at most        (equals_descend_iff)

So a filter on a text finds nothing that is not there, and misses what stands behind two arrays or more.
-/

namespace DocQuery

namespace Path

/-! ## Runs -/

/-- From a value along the names to another one, into the elements of so many arrays: at a name into a field of a
document or of a document that is an element, and at the end into an element. -/
inductive Run : Nat → List String → Value → Value → Prop where
  | here (v : Value) : Run 0 [] v v
  | among {items : List Value} {w : Value} (h : w ∈ items) : Run 1 [] (.array items) w
  | field {d : Document} {name : String} {rest : List String} {n : Nat} {v w : Value} (h : d.get? name = some v)
      (hrest : Run n rest v w) : Run n (name :: rest) (.document d) w
  | each {items : List Value} {d : Document} {name : String} {rest : List String} {n : Nat} {v w : Value}
      (hd : .document d ∈ items) (h : d.get? name = some v) (hrest : Run n rest v w) :
      Run (n + 1) (name :: rest) (.array items) w

variable {name s : String} {names rest : List String} {items : List Value} {v w : Value}

theorem run_zero_nil_iff : Run 0 [] v w ↔ v = w := by
  constructor
  · rintro ⟨⟩
    rfl
  · rintro rfl
    exact .here v

theorem run_zero_cons_iff : Run 0 (name :: rest) v w ↔ ∃ u, fieldOf? name v = some u ∧ Run 0 rest u w := by
  constructor
  · rintro (_ | _ | ⟨h, hrest⟩)
    exact ⟨_, h, hrest⟩
  · rintro ⟨u, h, hrest⟩
    cases v with
    | document d => exact .field h hrest
    | _ => cases h

theorem run_field_iff {d : Document} {n : Nat} :
    Run n (name :: rest) (.document d) w ↔ ∃ u, Document.get? d name = some u ∧ Run n rest u w := by
  constructor
  · rintro (_ | _ | ⟨h, hrest⟩)
    exact ⟨_, h, hrest⟩
  · rintro ⟨u, h, hrest⟩
    exact .field h hrest

/-- A run from an array goes into one of its elements, and on from there. -/
theorem run_one_array_iff : Run 1 names (.array items) w ↔ ∃ item ∈ items, Run 0 names item w := by
  constructor
  · rintro (_ | h | _ | ⟨hd, h, hrest⟩)
    · exact ⟨w, h, .here w⟩
    · exact ⟨_, hd, .field h hrest⟩
  · rintro ⟨item, hitem, hrun⟩
    cases hrun with
    | here => exact .among hitem
    | field h hrest => exact .each hitem h hrest

theorem not_run_zero_array (h : ∀ items, w ≠ .array items) : ¬ Run 0 names (.array items) w := by
  rintro ⟨⟩
  exact h _ rfl

/-! ## What is read -/

/-- A name that is no number gathers its field from the documents of an array. -/
theorem step_array (h : arrayIndex? name = none) (items : List Value) :
    step name (.array items) =
      if items.filterMap (fieldOf? name) = [] then none else some (.array (items.filterMap (fieldOf? name))) := by
  rw [step, h]
  dsimp only
  cases items.filterMap (fieldOf? name) with
  | nil => rfl
  | cons u us => rfl

theorem equal_string_iff : Value.equal v (.string s) = true ↔ v = .string s := by
  cases v <;> simp [Value.equal, Value.same, Value.isNumeric]

theorem equals_string_iff :
    Filter.equals (some v) (.string s) = true ↔ v = .string s ∨ ∃ items, v = .array items ∧ .string s ∈ items := by
  rw [Filter.equals_iff]
  constructor
  · intro h
    cases h with
    | whole he => exact .inl (equal_string_iff.1 he)
    | element hi he =>
      obtain rfl := equal_string_iff.1 he
      exact .inr ⟨_, rfl, hi⟩
  · rintro (rfl | ⟨items, rfl, hi⟩)
    · exact .whole (equal_string_iff.2 rfl)
    · exact .element hi (equal_string_iff.2 rfl)

/-- What an array leads to is what one of its elements leads to through documents: arrays that are gathered are not
gone into. -/
theorem equals_gathered_iff (hnames : ∀ name ∈ names, arrayIndex? name = none) (items : List Value) (s : String) :
    Filter.equals (descend names (.array items)) (.string s) = true ↔ ∃ item ∈ items, Run 0 names item (.string s) := by
  induction names generalizing items with
  | nil =>
    show Filter.equals (some (.array items)) (.string s) = true ↔ _
    rw [equals_string_iff]
    simp [run_zero_nil_iff]
  | cons name rest ih =>
    obtain ⟨hname, hrest⟩ := List.forall_mem_cons.1 hnames
    have hgathered := ih hrest (items.filterMap (fieldOf? name))
    have hread : Filter.equals (descend (name :: rest) (.array items)) (.string s) = true ↔
        ∃ u ∈ items.filterMap (fieldOf? name), Run 0 rest u (.string s) := by
      rw [← hgathered, descend, step_array hname]
      split_ifs with hnone
      · rw [hgathered, hnone]
        simp [Filter.equals, Value.isNull]
      · rfl
    rw [hread]
    simp only [List.mem_filterMap, run_zero_cons_iff]
    constructor
    · rintro ⟨u, ⟨item, hitem, hu⟩, hrun⟩
      exact ⟨item, hitem, u, hu, hrun⟩
    · rintro ⟨item, hitem, u, hu, hrun⟩
      exact ⟨u, ⟨item, hitem, hu⟩, hrun⟩

theorem exists_run_array_iff :
    (∃ n ≤ 1, Run n names (.array items) (.string s)) ↔ ∃ item ∈ items, Run 0 names item (.string s) := by
  rw [← run_one_array_iff]
  constructor
  · rintro ⟨n, hn, hrun⟩
    obtain rfl | rfl : n = 0 ∨ n = 1 := by omega
    · exact absurd hrun (not_run_zero_array fun items h => by cases h)
    · exact hrun
  · intro hrun
    exact ⟨1, le_rfl, hrun⟩

/-- The first step into a document, and then what is read below it. -/
theorem equals_field_iff
    (h : ∀ u, Filter.equals (descend rest u) (.string s) = true ↔ ∃ n ≤ 1, Run n rest u (.string s)) (d : Document)
    (name : String) :
    Filter.equals ((Document.get? d name).bind (descend rest)) (.string s) = true ↔
      ∃ n ≤ 1, Run n (name :: rest) (.document d) (.string s) := by
  simp only [run_field_iff]
  cases hfield : Document.get? d name with
  | none => simp [Filter.equals, Value.isNull]
  | some u => simpa using h u

/-- What is read equals a text exactly when a run leads to it that goes into one array at most. -/
theorem equals_descend_iff (hnames : ∀ name ∈ names, arrayIndex? name = none) (v : Value) (s : String) :
    Filter.equals (descend names v) (.string s) = true ↔ ∃ n ≤ 1, Run n names v (.string s) := by
  induction names generalizing v with
  | nil =>
    cases v with
    | array items => rw [exists_run_array_iff, equals_gathered_iff hnames]
    | string t =>
      show Filter.equals (some (.string t)) (.string s) = true ↔ _
      rw [equals_string_iff]
      constructor
      · rintro (h | ⟨items, h, -⟩)
        · exact ⟨0, Nat.zero_le 1, run_zero_nil_iff.2 h⟩
        · cases h
      · rintro ⟨n, -, ⟨⟩⟩
        exact .inl rfl
    | _ =>
      constructor
      · intro h
        rcases equals_string_iff.1 h with h | ⟨items, h, -⟩ <;> cases h
      · rintro ⟨n, -, ⟨⟩⟩
  | cons name rest ih =>
    cases v with
    | array items => rw [exists_run_array_iff, equals_gathered_iff hnames]
    | document d => exact equals_field_iff (fun u => ih (List.forall_mem_cons.1 hnames).2 u) d name
    | _ =>
      constructor
      · rintro ⟨⟩
      · rintro ⟨n, -, ⟨⟩⟩

end Path

/-! ## Main result -/

/-- A filter on a text at a path always has an answer, and it is yes exactly when the text can be reached from the
document by following the names, each into a field of a document or of a document in an array, to the text or an array
with it, in a run that goes into the elements of one array at most. -/
theorem Filter.text_found_iff {path : String} (hpath : Expression.isOperatorName path = false)
    (hnames : ∀ name ∈ (Path.parse path).tail, Path.arrayIndex? name = none) (s : String) (d : Document) :
    ∃ answer, accepts [(path, .string s)] d = .ok answer ∧
      (answer = true ↔ ∃ n ≤ 1, Path.Run n (Path.parse path).names (.document d) (.string s)) := by
  refine ⟨equals (Path.resolve d (Path.parse path)) (.string s), ?_, ?_⟩
  · rw [accepts_column hpath, meets_literal rfl]
  · exact Path.equals_field_iff (fun u => Path.equals_descend_iff hnames u s) d _

/-- Below the documents of an array, and as an element of one. -/
theorem Filter.text_found_iff_parts :
    let d : Document := [("items", .array [.int32 7, .document [("size", .document [("unit", .string "cm")])]]),
      ("tags", .array [.string "new", .string "old"])]
    Expression.isOperatorName "items.size.unit" = false ∧ Expression.isOperatorName "tags" = false ∧
      (∀ name ∈ (Path.parse "items.size.unit").tail, Path.arrayIndex? name = none) ∧
      (∀ name ∈ (Path.parse "tags").tail, Path.arrayIndex? name = none) ∧
      accepts [("items.size.unit", .string "cm")] d = .ok true ∧ accepts [("tags", .string "old")] d = .ok true := by
  intro d
  have hitems : Expression.isOperatorName "items.size.unit" = false := rfl
  have htags : Expression.isOperatorName "tags" = false := rfl
  have hnames : ∀ name ∈ (Path.parse "items.size.unit").tail, Path.arrayIndex? name = none := by decide +kernel
  have hnone : ∀ name ∈ (Path.parse "tags").tail, Path.arrayIndex? name = none := by decide +kernel
  refine ⟨hitems, htags, hnames, hnone, ?_, ?_⟩
  · obtain ⟨answer, htest, hiff⟩ := Filter.text_found_iff hitems hnames "cm" d
    have hparse : (Path.parse "items.size.unit").names = ["items", "size", "unit"] := by decide +kernel
    have hrun : Path.Run 1 ["items", "size", "unit"] (.document d) (.string "cm") :=
      .field rfl (.each (List.mem_cons_of_mem _ List.mem_cons_self) rfl (.field rfl (.here _)))
    rw [← hiff.2 ⟨1, le_rfl, hparse ▸ hrun⟩]
    exact htest
  · obtain ⟨answer, htest, hiff⟩ := Filter.text_found_iff htags hnone "old" d
    have hparse : (Path.parse "tags").names = ["tags"] := by decide +kernel
    have hrun : Path.Run 1 ["tags"] (.document d) (.string "old") :=
      .field rfl (.among (List.mem_cons_of_mem _ List.mem_cons_self))
    rw [← hiff.2 ⟨1, le_rfl, hparse ▸ hrun⟩]
    exact htest

/-- Behind two arrays a text is missed: in an array that is gathered, and below the documents of one. -/
theorem Filter.text_missed :
    let d : Document := [("items", .array [.document [("tags", .array [.string "new"]),
      ("parts", .array [.document [("name", .string "lid")]])]])]
    Path.Run 2 (Path.parse "items.tags").names (.document d) (.string "new") ∧
      accepts [("items.tags", .string "new")] d = .ok false ∧
      Path.Run 2 (Path.parse "items.parts.name").names (.document d) (.string "lid") ∧
      accepts [("items.parts.name", .string "lid")] d = .ok false := by
  intro d
  have htags : (Path.parse "items.tags").names = ["items", "tags"] := by decide +kernel
  have hparts : (Path.parse "items.parts.name").names = ["items", "parts", "name"] := by decide +kernel
  rw [htags, hparts]
  refine ⟨?_, by decide +kernel, ?_, by decide +kernel⟩
  · exact .field rfl (.each List.mem_cons_self rfl (.among List.mem_cons_self))
  · exact .field rfl (.each List.mem_cons_self rfl (.each List.mem_cons_self rfl (.here _)))

end DocQuery
