import DocQuery.Proofs.Sums
import DocQuery.Proofs.UpdateOrder

/-!
# Sums of numbers of all kinds

Integers add up as integers, and a double among them makes the sum one of doubles.  Each number counts then:

    no decimal among vs   → Counted vs (Double.sum xs) (total vs)       with the double of each of vs in xs
    a decimal among vs    → total vs = .double (Double.sum xs)          with the doubles of the others in xs

Both are `total_summed`; increments are sums of two (`incremented_increased`).  A decimal passes for a number, but it
has neither an integer nor a double to add.  So it only turns the sum into one of doubles, and is not in it; and an
increment of a decimal starts from zero.
-/

namespace DocQuery

open Outcome

namespace Value

def isDecimal : Value → Bool
  | decimal _ => true
  | _ => false

end Value

namespace Arithmetic

open Value

variable {f : Int → Int → Int} {vs : List Value}

/-! ## Doubles under values -/

/-- The doubles nearest to the values, one for each. -/
def Doubles (vs : List Value) (xs : List Float) : Prop := List.Forall₂ (fun v x => v.toFloat? = some x) vs xs

theorem exists_toFloat? {v : Value} (hnum : v.isNumeric = true) (hd : v.isDecimal = false) :
    ∃ x, v.toFloat? = some x := by
  cases v with
  | decimal d => cases hd
  | _ => first | exact ⟨_, rfl⟩ | cases hnum

theorem doubles_filterMap (hnum : ∀ v ∈ vs, v.isNumeric = true) (hd : vs.any isDecimal = false) :
    Doubles vs (vs.filterMap toFloat?) := by
  induction vs with
  | nil => exact .nil
  | cons v rest ih =>
    obtain ⟨hv, hrest⟩ := List.forall_mem_cons.1 hnum
    rw [List.any_cons, Bool.or_eq_false_iff] at hd
    obtain ⟨x, hx⟩ := exists_toFloat? hv hd.1
    rw [List.filterMap_cons, hx]
    exact .cons hx (ih hrest hd.2)

/-- A decimal ends a fold of integers. -/
theorem foldInt?_of_decimal (h : vs.any isDecimal = true) (start : Int64) : foldInt? f start vs = none := by
  induction vs generalizing start with
  | nil => cases h
  | cons v rest ih =>
    rw [foldInt?]
    rcases hv : v.toInt64? with _ | n
    · rfl
    · have hrest : rest.any isDecimal = true := by
        rw [List.any_cons, Bool.or_eq_true] at h
        refine h.resolve_left fun hdec => ?_
        cases v <;> cases hdec
        cases hv
      dsimp only
      cases fit? (f start.toInt n.toInt) with
      | none => rfl
      | some next => exact ih hrest next

theorem numericResult_of_double (h : vs.any isDouble = true) (whole : Option Int64) (x : Float) :
    numericResult vs whole x = .double x := by
  cases whole with
  | none => rfl
  | some n => rw [numericResult, if_pos h]

/-! ## Sums -/

/-- What the numbers come to, each of them counted: the exact integer where all are integers and the partial results
fit, else the double. -/
structure Counted (vs : List Value) (x : Float) (r : Value) : Prop where
  whole : ∀ ns, Integers vs ns → Comes (Steady (· + ·) 0 ns) ns.sum x r
  real : vs.any isDouble = true → r = .double x

/-- What a sum comes to. -/
structure Summed (vs : List Value) (r : Value) : Prop where
  counted : vs.any isDecimal = false → ∃ xs, Doubles vs xs ∧ Counted vs (Double.sum xs) r
  decimal : vs.any isDecimal = true → r = .double (Double.sum (vs.filterMap toFloat?))

theorem total_summed (h : ∀ v ∈ vs, v.isNumeric = true) : Summed vs (total vs) where
  counted hdecimal := by
    refine ⟨_, doubles_filterMap h hdecimal, fun ns hns => ?_, fun hdouble => ?_⟩
    · rw [hns.toFloat?]
      exact total_of_integers hns
    · rw [total, filter_of_numbers h, numericResult_of_double hdouble]
  decimal hdecimal := by
    rw [total, filter_of_numbers h, foldInt?_of_decimal hdecimal]
    rfl

theorem total_filter (vs : List Value) : total (vs.filter isNumeric) = total vs := by
  rw [total, total, List.filter_filter]
  simp only [Bool.and_self]

theorem isNumeric_numericResult (vs : List Value) (whole : Option Int64) (x : Float) :
    (numericResult vs whole x).isNumeric = true := by
  rcases numericResult_cases vs whole x with h | ⟨n, h⟩
  · rw [h]
    rfl
  · rw [h]
    exact isNumeric_of_integer (DateValue.integer?_ofInt64 n)

theorem isNumeric_total (vs : List Value) : (total vs).isNumeric = true := isNumeric_numericResult _ _ _

/-- A sum of an expression that is a number is one of numbers. -/
theorem add_eq_ok {r : Value} (h : add vs = .ok r) (hr : r.isNumeric = true) :
    (∀ v ∈ vs, v.isNumeric = true) ∧ r = total vs := by
  by_cases hnothing : vs.any isNothing = true
  · rw [add, if_pos hnothing] at h
    cases h
    cases hr
  · have hsum := h
    rw [add, if_neg hnothing, bind_eq_ok_iff] at hsum
    obtain ⟨⟨date, numbers⟩, hsplit, hmade⟩ := hsum
    cases date with
    | some millis =>
      obtain ⟨moved, -, rfl⟩ := (map_eq_ok_iff _ _ _).1 hmade
      cases hr
    | none =>
      obtain ⟨-, hall⟩ := splitDate_none_eq_ok_iff.1 hsplit
      exact ⟨hall, Except.ok.inj (h.symm.trans (add_of_numbers hall))⟩

/-! ## Increments -/

/-- What the increment of a number comes to. -/
structure Increased (current amount r : Value) : Prop where
  isNumeric : current.isNumeric = true
  counted : [current, amount].any isDecimal = false →
    ∃ x y, Doubles [current, amount] [x, y] ∧ Counted [current, amount] (x + y) r
  decimal : [current, amount].any isDecimal = true →
    r = .double (current.toFloat?.getD 0 + amount.toFloat?.getD 0)

theorem steady_pair {m n : Int} (hm : ¬ Beyond m) : Steady (· + ·) 0 [m, n] ↔ ¬ Beyond (m + n) := by
  rw [steady_cons, steady_cons, Int.zero_add]
  exact ⟨fun h => h.2.2.fits_start, fun h => ⟨not_beyond_zero, hm, fun _ => by rwa [List.take_nil]⟩⟩

end Arithmetic

namespace Update

open Value Arithmetic

variable {current amount : Value}

theorem incremented_of_double (h : current.isDouble = true ∨ amount.isDouble = true) :
    incremented current amount = .double (current.toFloat?.getD 0 + amount.toFloat?.getD 0) := by
  rw [incremented, if_pos (Bool.or_eq_true_iff.2 h)]

theorem incremented_of_decimal (h : current.isDecimal = true ∨ amount.isDecimal = true) :
    incremented current amount = .double (current.toFloat?.getD 0 + amount.toFloat?.getD 0) := by
  rw [incremented]
  split
  · rfl
  · rcases h with h | h
    · cases current <;> cases h
      rfl
    · cases amount <;> cases h
      cases current.toInt64? <;> rfl

theorem incremented_of_beyond {m n : Int} (hm : current.integer? = some m) (hn : amount.integer? = some n)
    (h : Beyond (m + n)) :
    incremented current amount = .double (current.toFloat?.getD 0 + amount.toFloat?.getD 0) := by
  rw [incremented, isDouble_of_integer hm, isDouble_of_integer hn, toInt64?_of_integer hm, toInt64?_of_integer hn]
  dsimp only
  rw [toInt_ofInt_of_not_beyond (not_beyond_of_integer hm), toInt_ofInt_of_not_beyond (not_beyond_of_integer hn),
    fit?_of_beyond h]
  rfl

theorem incremented_increased (hc : current.isNumeric = true) (ha : amount.isNumeric = true) :
    Increased current amount (incremented current amount) where
  isNumeric := hc
  counted hdecimal := by
    simp only [List.any_cons, List.any_nil, Bool.or_false, Bool.or_eq_false_iff] at hdecimal
    obtain ⟨x, hx⟩ := exists_toFloat? hc hdecimal.1
    obtain ⟨y, hy⟩ := exists_toFloat? ha hdecimal.2
    have hreal : Value.double (current.toFloat?.getD 0 + amount.toFloat?.getD 0) = .double (x + y) := by
      rw [hx, hy]
      rfl
    refine ⟨x, y, .cons hx (.cons hy .nil), fun ns hns => ?_, fun hdouble => ?_⟩
    · -- two integers, whose only partial result that may not fit is the sum
      obtain _ | @⟨_, m, _, _, hm, _ | @⟨_, n, _, _, hn, _ | _⟩⟩ := hns
      rw [List.sum_cons, List.sum_cons, List.sum_nil, Int.add_zero]
      refine ⟨fun hs => ?_, fun hs => ?_⟩
      · exact incremented_integers hm hn ((steady_pair (not_beyond_of_integer hm)).1 hs)
      · rw [steady_pair (not_beyond_of_integer hm), not_not] at hs
        rw [incremented_of_beyond hm hn hs, hreal]
    · simp only [List.any_cons, List.any_nil, Bool.or_false, Bool.or_eq_true] at hdouble
      rw [incremented_of_double hdouble, hreal]
  decimal hdecimal := by
    simp only [List.any_cons, List.any_nil, Bool.or_false, Bool.or_eq_true] at hdecimal
    exact incremented_of_decimal hdecimal

theorem nextNumber_eq_ok {path : String} {old : Option Value} {r : Value} (ha : amount.isNumeric = true)
    (h : nextNumber path amount old = .ok r) :
    (old.getD .null = .null → r = amount) ∧
      ∀ current, old = some current → current ≠ .null → Increased current amount r := by
  cases old with
  | none =>
    cases h
    exact ⟨fun _ => rfl, nofun⟩
  | some old =>
    by_cases hnull : old = .null
    · subst hnull
      cases h
      exact ⟨fun _ => rfl, fun current hcurrent hne => absurd (Option.some.inj hcurrent).symm hne⟩
    · have hnext : nextNumber path amount (some old) = if old.isNumeric then .ok (incremented old amount)
          else mismatch ("cannot $inc non-numeric field '" ++ path ++ "'") := by
        cases old <;> first | rfl | exact absurd rfl hnull
      rw [hnext] at h
      split at h
      · rename_i hold
        cases h
        refine ⟨fun hgone => absurd hgone hnull, fun current hcurrent _ => ?_⟩
        cases hcurrent
        exact incremented_increased hold ha
      · cases h

/-- An increment leaves the amount where there was no number yet, else the number and the amount added up. -/
theorem increment_eq_ok {d e : Document} {path : String} (h : increment d path amount = .ok e) :
    amount.isNumeric = true ∧ ∃ r, Path.resolve e (Path.parse path) = some r ∧
      ((Path.resolve d (Path.parse path)).getD .null = .null → r = amount) ∧
      ∀ current, Path.resolve d (Path.parse path) = some current → current ≠ .null → Increased current amount r := by
  cases ha : amount.isNumeric with
  | false =>
    rw [increment_not_numeric ha] at h
    cases h
  | true =>
    rw [increment_eq ha, bind_eq_ok_iff] at h
    obtain ⟨r, hnext, hset⟩ := h
    exact ⟨rfl, r, (Path.leads_set ((lift_eq_ok_iff _ _).1 hset)).resolve, nextNumber_eq_ok ha hnext⟩

end Update

namespace Arithmetic

open Value

/-! ## Main result -/

/-- Which numbers are in a result: of an increment, of a sum in an expression and of a sum in a group.  Where no
decimal is among the numbers, all of them are; a decimal is in none. -/
theorem numbers_counted (d root : Document) (members : List Document) (path : String) (amount argument : Value) :
    (∀ e, Update.applyField "$inc" d (path, amount) = .ok e → amount.isNumeric = true ∧
      ∃ r, Path.resolve e (Path.parse path) = some r ∧
        ((Path.resolve d (Path.parse path)).getD .null = .null → r = amount) ∧
        ∀ current, Path.resolve d (Path.parse path) = some current → current ≠ .null → Increased current amount r) ∧
    (∀ r, Expression.evaluate (.document [("$add", argument)]) root = .ok r → r.isNumeric = true →
      ∃ vs, Expression.operands argument root = .ok vs ∧ (∀ v ∈ vs, v.isNumeric = true) ∧ Summed vs r) ∧
    ∀ r, Pipeline.accumulate "$sum" argument members = .ok r →
      ∃ vs, Outcome.traverse (Expression.evaluate argument) members = .ok vs ∧ r.isNumeric = true ∧
        Summed (vs.filter isNumeric) r := by
  refine ⟨fun e h => ?_, fun r h hr => ?_, fun r h => ?_⟩
  · rw [Update.applyField] at h
    split at h
    · cases h
    · exact Update.increment_eq_ok h
  · rw [evaluate_add, bind_eq_ok_iff] at h
    obtain ⟨vs, hvs, hadd⟩ := h
    obtain ⟨hall, rfl⟩ := add_eq_ok hadd hr
    exact ⟨vs, hvs, hall, total_summed hall⟩
  · rw [Pipeline.accumulate, if_neg (by decide), bind_eq_ok_iff] at h
    obtain ⟨vs, hvs, hcombined⟩ := h
    cases hcombined
    refine ⟨vs, hvs, isNumeric_total vs, ?_⟩
    rw [← total_filter]
    exact total_summed fun v hv => (List.mem_filter.1 hv).2

/-- Two integers, an integer with a double, and integers beside a text. -/
theorem numbers_counted_mixed :
    let half : Value := .double (Double.sum [Float.ofInt 2, 0.5])
    let operands : Value := .array [.int32 2, .double 0.5]
    let docs : List Document := [[("n", .int32 1)], [("n", .string "2")], [("n", .int64 2)]]
    Update.applyField "$inc" [("n", .int32 5)] ("n", .int64 (-7)) = .ok [("n", .int32 (-2))] ∧
      Increased (.int32 5) (.int64 (-7)) (.int32 (-2)) ∧
      Expression.evaluate (.document [("$add", operands)]) [] = .ok half ∧ Summed [.int32 2, .double 0.5] half ∧
      Pipeline.accumulate "$sum" (.string "$n") docs = .ok (.int32 3) ∧ Summed [.int32 1, .int64 2] (.int32 3) := by
  intro half operands docs
  obtain ⟨hincrement, hadd, -⟩ := numbers_counted [("n", .int32 5)] [] [] "n" (.int64 (-7)) operands
  obtain ⟨-, -, hsum⟩ := numbers_counted [] [] docs "n" .null (.string "$n")
  refine ⟨rfl, ?_, rfl, ?_, rfl, ?_⟩
  · obtain ⟨-, r, hr, -, hincreased⟩ := hincrement [("n", .int32 (-2))] rfl
    cases hr
    exact hincreased (.int32 5) rfl nofun
  · obtain ⟨vs, hvs, -, hsummed⟩ := hadd half rfl rfl
    cases hvs
    exact hsummed
  · obtain ⟨vs, hvs, -, hsummed⟩ := hsum (.int32 3) rfl
    cases hvs
    exact hsummed

/-- Five and one: the increment loses the five, and both sums are of the one alone. -/
theorem decimals_left_out :
    let five : Decimal := ⟨0x30400000000000000000000000000005⟩
    let docs : List Document := [[("n", .decimal five)], [("n", .int32 1)]]
    Decimal.read five = .finite false 5 0 ∧
      Update.applyField "$inc" [("n", .decimal five)] ("n", .int32 1) = .ok [("n", .double (0 + Float.ofInt 1))] ∧
      Expression.evaluate (.document [("$add", .array [.decimal five, .int32 1])]) [] =
        .ok (.double (Double.sum [Float.ofInt 1])) ∧
      Pipeline.accumulate "$sum" (.string "$n") docs = .ok (.double (Double.sum [Float.ofInt 1])) := by
  refine ⟨by decide +kernel, rfl, rfl, rfl⟩

end Arithmetic

end DocQuery
