import DocQuery.Proofs.Increments

/-!
# Sums and products of numbers

A fold of integers goes on as long as every partial result fits into 64 bits, and falls back to doubles at the first
one that does not.  So for integers `ns` under the values `vs`:

    Steady f start ns   → foldInt? f start vs = some (ns.foldl f start)                       (foldInt?_of_steady)
    ¬ Steady f start ns → foldInt? f start vs = none                                         (foldInt?_of_not_steady)

It is the partial results that count, not the whole: the exact integer comes out exactly where they all fit
(`integer_folds`), which for small sums and products is so in every order (`steady_add_of_small`,
`steady_mul_of_small`).
-/

namespace DocQuery

open Outcome

namespace Arithmetic

open Value

/-! ## Integers under values -/

/-- The integers that the values are. -/
def Integers (vs : List Value) (ns : List Int) : Prop := List.Forall₂ (fun v n => v.integer? = some n) vs ns

/-- The start and all partial results fit into 64 bits. -/
def Steady (f : Int → Int → Int) (start : Int) (ns : List Int) : Prop := ∀ k, ¬ Beyond ((ns.take k).foldl f start)

variable {f : Int → Int → Int} {start n : Int} {ns : List Int} {vs : List Value}

theorem steady_cons : Steady f start (n :: ns) ↔ ¬ Beyond start ∧ Steady f (f start n) ns := by
  constructor
  · intro h
    exact ⟨h 0, fun k => h (k + 1)⟩
  · rintro ⟨hstart, hrest⟩ k
    cases k with
    | zero => exact hstart
    | succ k => exact hrest k

theorem Steady.fits_start (h : Steady f start ns) : ¬ Beyond start := h 0

theorem Steady.fits (h : Steady f start ns) : ¬ Beyond (ns.foldl f start) := by
  have hwhole := h ns.length
  rwa [List.take_length] at hwhole

theorem not_beyond_zero : ¬ Beyond 0 := by
  unfold Beyond
  omega

theorem not_beyond_one : ¬ Beyond 1 := by
  unfold Beyond
  omega

/-! ## Folds -/

theorem foldInt?_step {v : Value} (hv : v.integer? = some n) (hstart : ¬ Beyond start) (rest : List Value) :
    foldInt? f (Int64.ofInt start) (v :: rest) = (fit? (f start n)).bind fun next => foldInt? f next rest := by
  rw [foldInt?, toInt64?_of_integer hv]
  dsimp only
  rw [toInt_ofInt_of_not_beyond hstart, toInt_ofInt_of_not_beyond (not_beyond_of_integer hv)]
  cases fit? (f start n) <;> rfl

theorem foldInt?_of_steady (h : Integers vs ns) (hs : Steady f start ns) :
    foldInt? f (Int64.ofInt start) vs = some (Int64.ofInt (ns.foldl f start)) := by
  induction h generalizing start with
  | nil => rfl
  | cons hv _ ih =>
    obtain ⟨hstart, hrest⟩ := steady_cons.1 hs
    rw [foldInt?_step hv hstart, fit?_of_not_beyond hrest.fits_start]
    exact ih hrest

/-- The fold stops at the first partial result that does not fit. -/
theorem foldInt?_of_not_steady (h : Integers vs ns) (hstart : ¬ Beyond start) (hs : ¬ Steady f start ns) :
    foldInt? f (Int64.ofInt start) vs = none := by
  induction h generalizing start with
  | nil =>
    refine absurd (fun k => ?_) hs
    rw [List.take_nil]
    exact hstart
  | @cons v n rest ns hv _ ih =>
    rw [foldInt?_step hv hstart]
    by_cases hnext : Beyond (f start n)
    · rw [fit?_of_beyond hnext, Option.bind_none]
    · rw [fit?_of_not_beyond hnext]
      exact ih hnext fun hrest => hs (steady_cons.2 ⟨hstart, hrest⟩)

/-! ## Numbers as operands -/

theorem filter_of_numbers (h : ∀ v ∈ vs, v.isNumeric = true) : vs.filter isNumeric = vs := List.filter_eq_self.2 h

theorem isNothing_of_numbers (h : ∀ v ∈ vs, v.isNumeric = true) : vs.any isNothing = false := by
  rw [List.any_eq_false]
  intro v hv
  have hnum := h v hv
  cases v <;> first | exact Bool.false_ne_true | cases hnum

/-- A sum without a date is one of numbers only. -/
theorem splitDate_none_eq_ok_iff {numbers : List Value} :
    splitDate none vs = .ok (none, numbers) ↔ numbers = vs ∧ ∀ v ∈ vs, v.isNumeric = true := by
  induction vs generalizing numbers with
  | nil =>
    constructor
    · intro h
      cases h
      exact ⟨rfl, by simp⟩
    · rintro ⟨rfl, -⟩
      rfl
  | cons v rest ih =>
    by_cases hv : v.isNumeric = true
    · have hstep : splitDate none (v :: rest) = splitDate none rest >>= fun s => pure (s.1, v :: s.2) := by
        cases v <;> cases hv <;> rfl
      rw [hstep, bind_eq_ok_iff]
      constructor
      · rintro ⟨⟨date, others⟩, hs, he⟩
        cases he
        obtain ⟨rfl, hall⟩ := ih.1 hs
        exact ⟨rfl, List.forall_mem_cons.2 ⟨hv, hall⟩⟩
      · rintro ⟨rfl, hall⟩
        exact ⟨(none, rest), ih.2 ⟨rfl, (List.forall_mem_cons.1 hall).2⟩, rfl⟩
    · have hother : splitDate none (v :: rest) ≠ .ok (none, numbers) := by
        intro h
        cases v with
        | dateTime m => exact absurd (splitDate_some_eq_ok_iff.1 h).1 nofun
        | _ => first | exact absurd rfl hv | cases h
      exact ⟨fun h => absurd h hother, fun h => absurd (h.2 v List.mem_cons_self) hv⟩

theorem add_of_numbers (h : ∀ v ∈ vs, v.isNumeric = true) : add vs = .ok (total vs) := by
  rw [add, isNothing_of_numbers h, splitDate_none_eq_ok_iff.2 ⟨rfl, h⟩, total, filter_of_numbers h]
  rfl

theorem multiply_of_numbers (h : ∀ v ∈ vs, v.isNumeric = true) : multiply vs =
    .ok (numericResult vs (foldInt? (· * ·) 1 vs) (Double.product (vs.filterMap toFloat?))) := by
  have hall : Outcome.traverse (requireNumber "$multiply") vs = .ok (vs.map fun _ => ()) :=
    traverse_eq_map fun v hv => (requireNumber_eq_ok_iff _ v).2 (h v hv)
  rw [multiply, isNothing_of_numbers h, hall]
  rfl

/-! ## Integers as operands -/

theorem Integers.isNumeric (h : Integers vs ns) : ∀ v ∈ vs, v.isNumeric = true := by
  induction h with
  | nil => simp
  | cons hv _ ih => exact List.forall_mem_cons.2 ⟨isNumeric_of_integer hv, ih⟩

theorem Integers.isDouble (h : Integers vs ns) : vs.any isDouble = false := by
  induction h with
  | nil => rfl
  | cons hv _ ih => rw [List.any_cons, isDouble_of_integer hv, ih, Bool.or_self]

theorem Integers.toFloat? (h : Integers vs ns) : vs.filterMap toFloat? = ns.map Float.ofInt := by
  induction h with
  | nil => rfl
  | cons hv _ ih => rw [List.filterMap_cons, toFloat?_of_integer hv, ih, List.map_cons]

/-- What a fold of integers comes to: the integer where all partial results fit, else the double. -/
structure Comes (steady : Prop) (n : Int) (x : Float) (r : Value) : Prop where
  whole : steady → r = narrowest n
  real : ¬ steady → r = .double x

theorem comes_of_fold (h : Integers vs ns) (hstart : ¬ Beyond start) (x : Float) :
    Comes (Steady f start ns) (ns.foldl f start) x (numericResult vs (foldInt? f (Int64.ofInt start) vs) x) where
  whole hs := by
    rw [foldInt?_of_steady h hs, numericResult, h.isDouble, ← ofInt64_ofInt hs.fits]
    rfl
  real hs := by
    rw [foldInt?_of_not_steady h hstart hs, numericResult]

theorem total_of_integers (h : Integers vs ns) :
    Comes (Steady (· + ·) 0 ns) ns.sum (Double.sum (ns.map Float.ofInt)) (total vs) := by
  have hfold := comes_of_fold (f := (· + ·)) h not_beyond_zero (Double.sum (vs.filterMap Value.toFloat?))
  rw [← List.sum_eq_foldl, h.toFloat?] at hfold
  rw [total, filter_of_numbers h.isNumeric, h.toFloat?]
  exact hfold

theorem multiply_of_integers (h : Integers vs ns) : ∃ r, multiply vs = .ok r ∧
    Comes (Steady (· * ·) 1 ns) ns.prod (Double.product (ns.map Float.ofInt)) r := by
  have hfold := comes_of_fold (f := (· * ·)) h not_beyond_one (Double.product (vs.filterMap Value.toFloat?))
  rw [← List.prod_eq_foldl, h.toFloat?] at hfold
  rw [multiply_of_numbers h.isNumeric, h.toFloat?]
  exact ⟨_, rfl, hfold⟩

/-! ## Small results -/

/-- A sum of small absolute values has small partial sums, whatever the order. -/
theorem steady_add_of_small (h : (ns.map Int.natAbs).sum < 2 ^ 63) : Steady (· + ·) 0 ns := by
  have hpartial : ∀ (ms : List Int) (m : Int), (ms.foldl (· + ·) m).natAbs ≤ m.natAbs + (ms.map Int.natAbs).sum := by
    intro ms
    induction ms with
    | nil => exact fun m => le_rfl
    | cons n rest ih =>
      intro m
      have hrest := ih (m + n)
      have hstep := Int.natAbs_add_le m n
      rw [List.foldl_cons, List.map_cons, List.sum_cons]
      omega
  intro k
  have hk := hpartial (ns.take k) 0
  have hle : ((ns.take k).map Int.natAbs).sum ≤ (ns.map Int.natAbs).sum := by
    rw [List.map_take]
    exact (List.take_sublist k _).sum_le_sum (by simp)
  unfold Beyond
  omega

/-- A small product of integers that are not zero has small partial products, whatever the order. -/
theorem steady_mul_of_small (hzero : 0 ∉ ns) (h : ns.prod.natAbs < 2 ^ 63) : Steady (· * ·) 1 ns := by
  intro k
  have hsplit : ns.prod = (ns.take k).prod * (ns.drop k).prod := by rw [← List.prod_append, List.take_append_drop]
  have hdrop : 0 < (ns.drop k).prod.natAbs := by
    rw [Int.natAbs_pos]
    exact List.prod_ne_zero fun hmem => hzero (List.mem_of_mem_drop hmem)
  have hle : (ns.take k).prod.natAbs ≤ ns.prod.natAbs := by
    rw [hsplit, Int.natAbs_mul]
    exact Nat.le_mul_of_pos_right _ hdrop
  rw [← List.prod_eq_foldl]
  unfold Beyond
  omega

/-! ## Accumulators and operators -/

theorem accumulate_sum {argument : Value} {members : List Document}
    (h : Outcome.traverse (Expression.evaluate argument) members = .ok vs) :
    Pipeline.accumulate "$sum" argument members = .ok (total vs) := by
  rw [Pipeline.accumulate, if_neg (by decide), h]
  rfl

theorem ofCount_eq_narrowest {n : Nat} (h : n < 2 ^ 63) : ofCount n = narrowest n := by
  refine ofInt64_ofInt ?_
  unfold Beyond
  omega

/-- Ones, of either kind, add up to their number. -/
theorem accumulate_sum_one {one : Value} (h : one.integer? = some 1) {members : List Document}
    (hsize : members.length < 2 ^ 63) : Pipeline.accumulate "$sum" one members = .ok (.ofCount members.length) := by
  have hvalues : Outcome.traverse (Expression.evaluate one) members = .ok (members.map fun _ => one) :=
    traverse_eq_map fun _ _ => by cases one <;> first | rfl | cases h
  have hones : Integers (members.map fun _ => one) (members.map fun _ => 1) :=
    List.forall₂_map_left_iff.2 (List.forall₂_map_right_iff.2 (List.forall₂_same.2 fun _ _ => h))
  have hsum : (members.map fun _ => (1 : Int)).sum = members.length := by simp
  have hsmall : ((members.map fun _ => (1 : Int)).map Int.natAbs).sum < 2 ^ 63 := by simpa using hsize
  rw [accumulate_sum hvalues, (total_of_integers hones).whole (steady_add_of_small hsmall), hsum,
    ofCount_eq_narrowest hsize]

theorem evaluate_add (argument : Value) (root : Document) :
    Expression.evaluate (.document [("$add", argument)]) root = Expression.operands argument root >>= add := by
  have hop : Expression.operator? "$add" = some .add := rfl
  rw [Expression.evaluate_operator hop]
  rfl

theorem evaluate_multiply (argument : Value) (root : Document) :
    Expression.evaluate (.document [("$multiply", argument)]) root =
      Expression.operands argument root >>= multiply := by
  have hop : Expression.operator? "$multiply" = some .multiply := rfl
  rw [Expression.evaluate_operator hop]
  rfl

/-! ## Main result -/

/-- Sums and products of integers, in groups and in expressions.  They are the exact integer, in its narrowest kind,
where all partial results fit into 64 bits, and a double where one does not.  Where the absolute values add up to less
than 2^63, all partial sums fit, in every order of the integers; and where none is zero and the product is less than
2^63, so do all partial products. -/
theorem integer_folds (h : Integers vs ns) :
    (∀ argument members, Outcome.traverse (Expression.evaluate argument) members = .ok vs →
      ∃ r, Pipeline.accumulate "$sum" argument members = .ok r ∧
        Comes (Steady (· + ·) 0 ns) ns.sum (Double.sum (ns.map Float.ofInt)) r) ∧
    (∀ argument root, Expression.operands argument root = .ok vs →
      (∃ r, Expression.evaluate (.document [("$add", argument)]) root = .ok r ∧
        Comes (Steady (· + ·) 0 ns) ns.sum (Double.sum (ns.map Float.ofInt)) r) ∧
      ∃ r, Expression.evaluate (.document [("$multiply", argument)]) root = .ok r ∧
        Comes (Steady (· * ·) 1 ns) ns.prod (Double.product (ns.map Float.ofInt)) r) ∧
    ∀ ms, ms.Perm ns →
      ((ns.map Int.natAbs).sum < 2 ^ 63 → Steady (· + ·) 0 ms ∧ ms.sum = ns.sum) ∧
      (0 ∉ ns → ns.prod.natAbs < 2 ^ 63 → Steady (· * ·) 1 ms ∧ ms.prod = ns.prod) := by
  refine ⟨fun argument members hvalues => ?_, fun argument root hvalues => ⟨?_, ?_⟩, fun ms hperm => ⟨?_, ?_⟩⟩
  · exact ⟨_, accumulate_sum hvalues, total_of_integers h⟩
  · refine ⟨total vs, ?_, total_of_integers h⟩
    rw [evaluate_add, hvalues]
    exact add_of_numbers h.isNumeric
  · obtain ⟨r, hr, hcomes⟩ := multiply_of_integers h
    refine ⟨r, ?_, hcomes⟩
    rw [evaluate_multiply, hvalues]
    exact hr
  · intro hsmall
    rw [← (hperm.map Int.natAbs).sum_eq] at hsmall
    exact ⟨steady_add_of_small hsmall, hperm.sum_eq⟩
  · intro hzero hsmall
    rw [← hperm.prod_eq] at hsmall
    exact ⟨steady_mul_of_small (fun hmem => hzero (hperm.subset hmem)) hsmall, hperm.prod_eq⟩

/-- Integers of both kinds, with a result below what 32 bits hold. -/
theorem integer_folds_mixed :
    let vs : List Value := [.int32 3, .int64 (-2305843009213693952), .int32 1]
    let ns : List Int := [3, -2305843009213693952, 1]
    let docs : List Document := vs.map fun v => [("n", v)]
    Integers vs ns ∧
      Pipeline.accumulate "$sum" (.string "$n") docs = .ok (.int64 (-2305843009213693948)) ∧
      Expression.evaluate (.document [("$add", .array vs)]) [] = .ok (.int64 (-2305843009213693948)) ∧
      Expression.evaluate (.document [("$multiply", .array vs)]) [] = .ok (.int64 (-6917529027641081856)) ∧
      ∀ ms, ms.Perm ns → Steady (· + ·) 0 ms ∧ Steady (· * ·) 1 ms := by
  intro vs ns docs
  have h : Integers vs ns := .cons rfl (.cons rfl (.cons rfl .nil))
  obtain ⟨hgroup, hexpression, horder⟩ := integer_folds h
  have hsteady : ∀ ms, ms.Perm ns → Steady (· + ·) 0 ms ∧ Steady (· * ·) 1 ms := fun ms hperm =>
    ⟨((horder ms hperm).1 (by decide)).1, ((horder ms hperm).2 (by decide) (by decide)).1⟩
  obtain ⟨hadd, hmul⟩ := hsteady ns (.refl ns)
  obtain ⟨sum, hsum, hsums⟩ := hgroup (.string "$n") docs rfl
  obtain ⟨⟨added, hadded, hadds⟩, product, hproduct, hproducts⟩ := hexpression (.array vs) [] rfl
  refine ⟨h, ?_, ?_, ?_, hsteady⟩
  · rw [hsum, hsums.whole hadd]
    rfl
  · rw [hadded, hadds.whole hadd]
    rfl
  · rw [hproduct, hproducts.whole hmul]
    rfl

/-- A whole that fits comes out as a double where a partial result does not fit, and as the integer in another
order. -/
theorem integer_folds_ordered :
    let vs : List Value := [.int64 9223372036854775807, .int32 1, .int32 (-1)]
    let ws : List Value := [.int64 4611686018427387904, .int32 2, .int32 (-1)]
    let docs : List Document := vs.map fun v => [("n", v)]
    (∃ x, Pipeline.accumulate "$sum" (.string "$n") docs = .ok (.double x)) ∧
      Pipeline.accumulate "$sum" (.string "$n") docs.reverse = .ok (.int64 9223372036854775807) ∧
      (∃ x, Expression.evaluate (.document [("$add", .array vs)]) [] = .ok (.double x)) ∧
      Expression.evaluate (.document [("$add", .array vs.reverse)]) [] = .ok (.int64 9223372036854775807) ∧
      (∃ x, Expression.evaluate (.document [("$multiply", .array ws)]) [] = .ok (.double x)) ∧
      Expression.evaluate (.document [("$multiply", .array ws.reverse)]) [] =
        .ok (.int64 (-9223372036854775808)) :=
  ⟨⟨_, rfl⟩, rfl, ⟨_, rfl⟩, rfl, ⟨_, rfl⟩, rfl⟩

end Arithmetic

end DocQuery
