import DocQuery.Proofs.Integers

/-!
# Operations that 64 bits do not hold

Most integer operations fall back to doubles where 64 bits do not hold their result.  Four do not, and stop the
computation: a date moved by the numbers of a sum, the time between two dates, a date moved back by a number, and
the remainder of the least integer by -1.

    a.OverflowOnly cause                : an overflow of a has the cause, kept by bind, map, any, keep, traverse
    op.apply name vs = error overflow   ↔ op.Overflows vs                            (Operator.apply_eq_overflow_iff)
-/

namespace DocQuery

open Outcome

/-! ## Overflows of a computation -/

namespace Outcome

/-- The integers that 64 bits do not hold. -/
def Beyond (n : Int) : Prop := n < -2 ^ 63 ∨ 2 ^ 63 ≤ n

theorem checked_eq_overflow_iff (n : Int) : checked n = .error .overflow ↔ Beyond n := by
  have hmin : Int64.minValue.toInt = -2 ^ 63 := rfl
  have hmax : Int64.maxValue.toInt = 2 ^ 63 - 1 := rfl
  unfold checked Beyond
  rw [hmin, hmax]
  split
  · simp only [reduceCtorEq, false_iff]
    omega
  · simp only [true_iff]
    omega

variable {α β : Type}

theorem bind_eq_overflow_iff (a : Outcome α) (f : α → Outcome β) :
    a >>= f = .error .overflow ↔ a = .error .overflow ∨ ∃ x, a = .ok x ∧ f x = .error .overflow := by
  cases a with
  | error e => simp [Bind.bind, Except.bind]
  | ok x => simp [Bind.bind, Except.bind]

theorem map_eq_overflow_iff (f : α → β) (a : Outcome α) : a.map f = .error .overflow ↔ a = .error .overflow := by
  cases a <;> simp [Except.map]

/-- An overflow of the computation has the cause. -/
def OverflowOnly (cause : Prop) (a : Outcome α) : Prop := a = .error .overflow → cause

namespace OverflowOnly

variable {cause : Prop}

theorem of_ok (x : α) : OverflowOnly cause (.ok x : Outcome α) := nofun

theorem of_error (e : StoreError) : OverflowOnly cause (.error (.error e) : Outcome α) := nofun

theorem of_lift (a : Except StoreError α) : OverflowOnly cause (Outcome.lift a) := by
  cases a <;> exact nofun

theorem bind {a : Outcome α} {f : α → Outcome β} (ha : OverflowOnly cause a)
    (hf : ∀ x, a = .ok x → OverflowOnly cause (f x)) : OverflowOnly cause (a >>= f) := by
  cases a with
  | ok x => exact hf x rfl
  | error e =>
    intro h
    refine ha ?_
    cases h
    rfl

theorem map {a : Outcome α} (ha : OverflowOnly cause a) (f : α → β) : OverflowOnly cause (a.map f) := by
  cases a with
  | ok x => exact of_ok _
  | error e =>
    intro h
    refine ha ?_
    cases h
    rfl

theorem both {a b : Outcome Bool} (ha : OverflowOnly cause a) (hb : OverflowOnly cause b) :
    OverflowOnly cause (both a b) := by
  refine bind ha fun x _ => ?_
  cases x with
  | true => exact hb
  | false => exact of_ok false

theorem either {a b : Outcome Bool} (ha : OverflowOnly cause a) (hb : OverflowOnly cause b) :
    OverflowOnly cause (either a b) := by
  refine bind ha fun x _ => ?_
  cases x with
  | true => exact of_ok true
  | false => exact hb

theorem any {test : α → Outcome Bool} {as : List α} (h : ∀ a ∈ as, OverflowOnly cause (test a)) :
    OverflowOnly cause (any test as) := by
  induction as with
  | nil => exact of_ok false
  | cons a rest ih =>
    obtain ⟨ha, hr⟩ := List.forall_mem_cons.1 h
    exact either ha (ih hr)

theorem keep {test : α → Outcome Bool} {as : List α} (h : ∀ a ∈ as, OverflowOnly cause (test a)) :
    OverflowOnly cause (keep test as) := by
  induction as with
  | nil => exact of_ok []
  | cons a rest ih =>
    obtain ⟨ha, hr⟩ := List.forall_mem_cons.1 h
    exact bind ha fun _ _ => bind (ih hr) fun _ _ => of_ok _

theorem traverse {f : α → Outcome β} {as : List α} (h : ∀ a ∈ as, OverflowOnly cause (f a)) :
    OverflowOnly cause (Outcome.traverse f as) := by
  induction as with
  | nil => exact of_ok []
  | cons a rest ih =>
    obtain ⟨ha, hr⟩ := List.forall_mem_cons.1 h
    exact bind ha fun _ _ => bind (ih hr) fun _ _ => of_ok _

end OverflowOnly

/-- A pass that fails has gone on up to the element that it fails at. -/
theorem exists_of_foldlM_error {step : β → α → Outcome β} {as : List α} {b : β} {f : Failure}
    (h : as.foldlM step b = .error f) : ∃ before a after mid, as = before ++ a :: after ∧
      before.foldlM step b = .ok mid ∧ step mid a = .error f := by
  induction as generalizing b with
  | nil => cases h
  | cons a rest ih =>
    rw [List.foldlM_cons] at h
    cases hs : step b a with
    | error e =>
      rw [hs] at h
      cases h
      exact ⟨[], a, rest, b, rfl, rfl, hs⟩
    | ok next =>
      rw [hs] at h
      obtain ⟨before, x, after, mid, rfl, hb, hx⟩ := ih h
      refine ⟨a :: before, x, after, mid, rfl, ?_, hx⟩
      rw [List.foldlM_cons, hs]
      exact hb

end Outcome

/-! ## Operators of expressions -/

namespace Arithmetic

theorem fit?_of_not_beyond {n : Int} (h : ¬ Beyond n) : fit? n = some (Int64.ofInt n) := by
  have hmin : Int64.minValue.toInt = -2 ^ 63 := rfl
  have hmax : Int64.maxValue.toInt = 2 ^ 63 - 1 := rfl
  unfold Beyond at h
  rw [fit?, hmin, hmax, if_pos (by omega)]

theorem fit?_of_beyond {n : Int} (h : Beyond n) : fit? n = none := by
  have hmin : Int64.minValue.toInt = -2 ^ 63 := rfl
  have hmax : Int64.maxValue.toInt = 2 ^ 63 - 1 := rfl
  unfold Beyond at h
  rw [fit?, hmin, hmax, if_neg (by omega)]

/-- What numbers come to is a double, or an integer in its narrowest kind. -/
theorem numericResult_cases (operands : List Value) (whole : Option Int64) (x : Float) :
    numericResult operands whole x = .double x ∨ ∃ n, numericResult operands whole x = .ofInt64 n := by
  cases whole with
  | none => exact .inl rfl
  | some n =>
    rw [numericResult]
    split
    · exact .inl rfl
    · exact .inr ⟨n, rfl⟩

/-- The milliseconds that the numbers beside a date add up to. -/
def shift (numbers : List Value) : Int := (Double.toInt64 (Double.sum (numbers.filterMap Value.toFloat?))).toInt

theorem requireNumber_eq_ok_iff (op : String) (v : Value) : requireNumber op v = .ok () ↔ v.isNumeric = true := by
  unfold requireNumber
  split
  · rename_i h
    exact ⟨fun _ => h, fun _ => rfl⟩
  · rename_i h
    exact ⟨nofun, fun hv => absurd hv h⟩

theorem requireNumber_only {cause : Prop} (op : String) (v : Value) : OverflowOnly cause (requireNumber op v) := by
  unfold requireNumber
  split
  · exact .of_ok ()
  · exact .of_error _

theorem requireNumber_ne_overflow (op : String) (v : Value) : requireNumber op v ≠ .error .overflow :=
  fun h => (requireNumber_only op v h : False)

theorem splitDate_some_eq_ok_iff {m : Int64} {date : Option Int64} {vs numbers : List Value} :
    splitDate (some m) vs = .ok (date, numbers) ↔
      date = some m ∧ numbers = vs ∧ ∀ v ∈ vs, v.isNumeric = true := by
  induction vs generalizing date numbers with
  | nil =>
    constructor
    · intro h
      cases h
      exact ⟨rfl, rfl, by simp⟩
    · rintro ⟨rfl, rfl, -⟩
      rfl
  | cons v rest ih =>
    by_cases hv : v.isNumeric = true
    · have hstep : splitDate (some m) (v :: rest) = splitDate (some m) rest >>= fun s => pure (s.1, v :: s.2) := by
        cases v <;> cases hv <;> rfl
      rw [hstep, bind_eq_ok_iff]
      constructor
      · rintro ⟨⟨date', numbers'⟩, hs, he⟩
        obtain ⟨rfl, rfl, hall⟩ := ih.1 hs
        cases he
        exact ⟨rfl, rfl, List.forall_mem_cons.2 ⟨hv, hall⟩⟩
      · rintro ⟨rfl, rfl, hall⟩
        exact ⟨(some m, rest), ih.2 ⟨rfl, rfl, (List.forall_mem_cons.1 hall).2⟩, rfl⟩
    · have hstep : ∃ reason, splitDate (some m) (v :: rest) = mismatch reason := by
        cases v <;> first | exact absurd rfl hv | exact ⟨_, rfl⟩
      obtain ⟨reason, hstep⟩ := hstep
      rw [hstep]
      refine ⟨nofun, ?_⟩
      rintro ⟨-, -, hall⟩
      exact absurd (hall v List.mem_cons_self) hv

/-- A sum has a date exactly when one operand is a date and the others are numbers. -/
theorem splitDate_eq_ok_iff {m : Int64} {vs numbers : List Value} :
    splitDate none vs = .ok (some m, numbers) ↔ ∃ before after, vs = before ++ .dateTime m :: after ∧
      numbers = before ++ after ∧ ∀ v ∈ numbers, v.isNumeric = true := by
  induction vs generalizing numbers with
  | nil => simp [splitDate]
  | cons v rest ih =>
    by_cases hv : v.isNumeric = true
    · have hstep : splitDate none (v :: rest) = splitDate none rest >>= fun s => pure (s.1, v :: s.2) := by
        cases v <;> cases hv <;> rfl
      rw [hstep, bind_eq_ok_iff]
      constructor
      · rintro ⟨⟨date, others⟩, hs, he⟩
        cases he
        obtain ⟨before, after, rfl, rfl, hall⟩ := ih.1 hs
        exact ⟨v :: before, after, rfl, rfl, List.forall_mem_cons.2 ⟨hv, hall⟩⟩
      · rintro ⟨before, after, hcons, rfl, hall⟩
        cases before with
        | nil =>
          obtain ⟨rfl, -⟩ := List.cons.inj hcons
          cases hv
        | cons w before =>
          obtain ⟨rfl, rfl⟩ := List.cons.inj hcons
          exact ⟨(some m, before ++ after), ih.2 ⟨before, after, rfl, rfl, (List.forall_mem_cons.1 hall).2⟩, rfl⟩
    · constructor
      · intro h
        by_cases hdate : ∃ x, v = .dateTime x
        · obtain ⟨x, rfl⟩ := hdate
          obtain ⟨he, rfl, hall⟩ := splitDate_some_eq_ok_iff.1 h
          cases he
          exact ⟨[], _, rfl, rfl, hall⟩
        · have hstep : ∃ reason, splitDate none (v :: rest) = mismatch reason := by
            cases v <;> first | exact absurd rfl hv | exact absurd ⟨_, rfl⟩ hdate | exact ⟨_, rfl⟩
          obtain ⟨reason, hstep⟩ := hstep
          rw [hstep] at h
          cases h
      · rintro ⟨before, after, hcons, rfl, hall⟩
        cases before with
        | nil =>
          obtain ⟨rfl, rfl⟩ := List.cons.inj hcons
          exact splitDate_some_eq_ok_iff.2 ⟨rfl, rfl, hall⟩
        | cons w before =>
          obtain ⟨rfl, -⟩ := List.cons.inj hcons
          exact absurd (hall v List.mem_cons_self) hv

theorem splitDate_only {cause : Prop} (date : Option Int64) (vs : List Value) :
    OverflowOnly cause (splitDate date vs) := by
  induction vs generalizing date with
  | nil => exact .of_ok _
  | cons v rest ih =>
    by_cases hdate : ∃ x, v = .dateTime x
    · obtain ⟨x, rfl⟩ := hdate
      cases date with
      | none => exact ih (some x)
      | some m => exact .of_error _
    · have hstep : splitDate date (v :: rest) = requireNumber "$add" v >>= fun _ =>
          splitDate date rest >>= fun s => pure (s.1, v :: s.2) := by
        cases v <;> first | exact absurd ⟨_, rfl⟩ hdate | rfl
      rw [hstep]
      exact (requireNumber_only _ _).bind fun _ _ => (ih date).bind fun _ _ => .of_ok _

/-- A sum leaves 64 bits where it moves a date too far. -/
theorem add_eq_overflow_iff (vs : List Value) :
    add vs = .error .overflow ↔ ∃ before after m, vs = before ++ .dateTime m :: after ∧
      (∀ v ∈ before ++ after, v.isNumeric = true) ∧ Beyond (m.toInt + shift (before ++ after)) := by
  have hsplit : splitDate none vs ≠ .error .overflow := fun h => (splitDate_only none vs h : False)
  unfold add
  by_cases hnothing : vs.any Value.isNothing = true
  · rw [if_pos hnothing]
    refine ⟨nofun, ?_⟩
    rintro ⟨before, after, m, rfl, hall, -⟩
    -- numbers and a date are something
    refine absurd hnothing ?_
    simp only [List.any_append, List.any_cons, Bool.or_eq_true, List.any_eq_true, not_or, not_exists, not_and]
    have hsome : ∀ v ∈ before ++ after, ¬ v.isNothing = true := by
      intro v hv
      have hnum := hall v hv
      cases v <;> first | exact Bool.false_ne_true | cases hnum
    refine ⟨fun v hv => hsome v (List.mem_append_left _ hv), Bool.false_ne_true,
      fun v hv => hsome v (List.mem_append_right _ hv)⟩
  · rw [if_neg hnothing]
    refine (bind_eq_overflow_iff _ _).trans ?_
    constructor
    · rintro (h | ⟨⟨date, numbers⟩, hs, h⟩)
      · exact absurd h hsplit
      · cases date with
        | none => cases h
        | some m =>
          obtain ⟨before, after, hvs, rfl, hall⟩ := splitDate_eq_ok_iff.1 hs
          have hb := (checked_eq_overflow_iff _).1 ((map_eq_overflow_iff _ _).1 h)
          exact ⟨before, after, m, hvs, hall, hb⟩
    · rintro ⟨before, after, m, hvs, hall, hb⟩
      refine .inr ⟨(some m, before ++ after), splitDate_eq_ok_iff.2 ⟨before, after, hvs, rfl, hall⟩, ?_⟩
      exact (map_eq_overflow_iff _ _).2 ((checked_eq_overflow_iff _).2 hb)

/-- Only a difference from a date can overflow. -/
theorem subtract_only (a b : Value) : OverflowOnly (∃ x, a = .dateTime x) (subtract a b) := by
  rw [subtract.eq_def]
  split
  · exact .of_ok _
  · exact .of_ok _
  · exact fun _ => ⟨_, rfl⟩
  · split
    · exact fun _ => ⟨_, rfl⟩
    · exact (requireNumber_only _ _).bind fun _ _ => (requireNumber_only _ _).bind fun _ _ => .of_ok _

theorem subtract_number {b : Value} (hb : b.isNumeric = true) (x : Int64) : subtract (.dateTime x) b =
    (checked (x.toInt - (Double.toInt64 (b.toFloat?.getD 0)).toInt)).map .dateTime := by
  cases b <;> first | rfl | cases hb

/-- A difference leaves 64 bits where dates are too far apart, or where it moves a date too far. -/
theorem subtract_eq_overflow_iff (a b : Value) :
    subtract a b = .error .overflow ↔
      (∃ x y, a = .dateTime x ∧ b = .dateTime y ∧ Beyond (x.toInt - y.toInt)) ∨
        ∃ x, a = .dateTime x ∧ b.isNumeric = true ∧
          Beyond (x.toInt - (Double.toInt64 (b.toFloat?.getD 0)).toInt) := by
  by_cases ha : ∃ x, a = .dateTime x
  · obtain ⟨x, rfl⟩ := ha
    by_cases hb : b.isNumeric = true
    · have hdate : ∀ y, b ≠ .dateTime y := by
        rintro y rfl
        cases hb
      rw [subtract_number hb, map_eq_overflow_iff, checked_eq_overflow_iff]
      simp [hb, hdate]
    · cases b with
      | dateTime y =>
        show (checked (x.toInt - y.toInt)).map Value.int64 = _ ↔ _
        rw [map_eq_overflow_iff, checked_eq_overflow_iff]
        simp [hb]
      | _ => first | exact absurd rfl hb | exact ⟨nofun, by simp [hb]⟩
  · constructor
    · exact fun h => absurd (subtract_only a b h) ha
    · rintro (⟨x, y, hx, -⟩ | ⟨x, hx, -⟩)
      · exact absurd ⟨x, hx⟩ ha
      · exact absurd ⟨x, hx⟩ ha

theorem integerRemainder_eq_overflow_iff (a b : Int64) :
    integerRemainder a b = .error .overflow ↔ a = Int64.minValue ∧ b = -1 := by
  unfold integerRemainder
  split
  · rename_i h
    exact ⟨fun _ => h, fun _ => rfl⟩
  · rename_i h
    exact ⟨nofun, fun hab => absurd hab h⟩

/-- The integers of 64 bits that have no remainder. -/
theorem toInt64?_eq_iff_of_integral {v : Value} (hd : v.isDouble = false) (n : Int64) :
    v.toInt64? = some n ↔ v.integer? = some n.toInt := by
  cases v with
  | int32 m =>
    have hlow := m.le_toInt
    have hhigh := m.toInt_lt
    have hm : (Int64.ofInt m.toInt).toInt = m.toInt := Int64.toInt_ofInt_of_le (by omega) (by omega)
    show some (Int64.ofInt m.toInt) = some n ↔ some m.toInt = some n.toInt
    rw [Option.some.injEq, Option.some.injEq, ← hm, Int64.toInt_inj, hm]
  | int64 m =>
    show some m = some n ↔ some m.toInt = some n.toInt
    rw [Option.some.injEq, Option.some.injEq, Int64.toInt_inj]
  | double x => cases hd
  | _ => simp [Value.toInt64?, Value.integer?]

/-- The remainder leaves 64 bits for the least integer and -1. -/
theorem modulo_eq_overflow_iff (a b : Value) :
    modulo a b = .error .overflow ↔ a.integer? = some (-2 ^ 63) ∧ b.integer? = some (-1) := by
  have hmin : Int64.minValue.toInt = -2 ^ 63 := rfl
  have hone : (-1 : Int64).toInt = -1 := rfl
  rw [← hmin, ← hone]
  constructor
  · intro h
    unfold modulo at h
    split at h
    · cases h
    · rcases (bind_eq_overflow_iff _ _).1 h with h | ⟨-, -, h⟩
      · exact absurd h (requireNumber_ne_overflow _ _)
      rcases (bind_eq_overflow_iff _ _).1 h with h | ⟨-, -, h⟩
      · exact absurd h (requireNumber_ne_overflow _ _)
      dsimp only at h
      split at h
      · cases h
      · rename_i x y _ hx hy
        split at h
        · cases h
        · rename_i hdouble
          simp only [Bool.or_eq_true, not_or, Bool.not_eq_true] at hdouble
          obtain ⟨rfl, rfl⟩ := (integerRemainder_eq_overflow_iff x y).1 ((map_eq_overflow_iff _ _).1 h)
          exact ⟨(toInt64?_eq_iff_of_integral hdouble.1 _).1 hx, (toInt64?_eq_iff_of_integral hdouble.2 _).1 hy⟩
      · cases h
  · rintro ⟨ha, hb⟩
    have hint : ∀ {v : Value} {n : Int}, v.integer? = some n →
        v.isNull = false ∧ v.isDouble = false ∧ v.isNumeric = true := by
      intro v n hv
      cases v <;> first | exact ⟨rfl, rfl, rfl⟩ | cases hv
    obtain ⟨hanull, hadouble, hanum⟩ := hint ha
    obtain ⟨hbnull, hbdouble, hbnum⟩ := hint hb
    have hx := (toInt64?_eq_iff_of_integral hadouble _).2 ha
    have hy := (toInt64?_eq_iff_of_integral hbdouble _).2 hb
    unfold modulo
    rw [hanull, hbnull, (requireNumber_eq_ok_iff "$mod" a).2 hanum, (requireNumber_eq_ok_iff "$mod" b).2 hbnum, hx, hy,
      hadouble, hbdouble]
    rfl

/-! Products, quotients and texts never leave 64 bits: a product that these do not hold becomes a double. -/

section

variable {cause : Prop}

theorem multiply_only (vs : List Value) : OverflowOnly cause (multiply vs) := by
  unfold multiply
  split
  · exact .of_ok _
  · exact (OverflowOnly.traverse fun v _ => requireNumber_only _ v).bind fun _ _ => .of_ok _

theorem divide_only (a b : Value) : OverflowOnly cause (divide a b) := by
  unfold divide
  split
  · exact .of_ok _
  · refine (requireNumber_only _ _).bind fun _ _ => (requireNumber_only _ _).bind fun _ _ => ?_
    dsimp only
    split
    · exact .of_error _
    · exact .of_ok _

theorem concat_only (vs : List Value) : OverflowOnly cause (concat vs) := by
  induction vs with
  | nil => exact .of_ok _
  | cons v rest ih =>
    cases v with
    | string s => exact ih.map _
    | _ => exact .of_error _

theorem concatOrNull_only (vs : List Value) : OverflowOnly cause (concatOrNull vs) := by
  unfold concatOrNull
  split
  · split
    · exact .of_ok _
    · exact (concat_only vs).map _
  · exact (concat_only vs).map _

theorem changeCase_only (op : String) (change : List Char → List Char) (v : Value) :
    OverflowOnly cause (changeCase op change v) := by
  rw [changeCase.eq_def]
  dsimp only
  split
  · exact .of_ok _
  · exact .of_ok _
  · exact .of_ok _
  · split
    · exact .of_ok _
    · exact .of_error _

end

end Arithmetic

namespace Expression

/-- Operands on which an operator leaves 64 bits. -/
inductive Operator.Overflows : Operator → List Value → Prop where
  /-- A date moved by numbers before and after it. -/
  | sum {before after : List Value} {m : Int64} (hn : ∀ v ∈ before ++ after, v.isNumeric = true)
      (hb : Beyond (m.toInt + Arithmetic.shift (before ++ after))) :
      Operator.Overflows .add (before ++ .dateTime m :: after)
  /-- The time between two dates. -/
  | span {x y : Int64} (hb : Beyond (x.toInt - y.toInt)) :
      Operator.Overflows .subtract [.dateTime x, .dateTime y]
  /-- A date moved back by a number. -/
  | difference {x : Int64} {v : Value} (hn : v.isNumeric = true)
      (hb : Beyond (x.toInt - (Double.toInt64 (v.toFloat?.getD 0)).toInt)) :
      Operator.Overflows .subtract [.dateTime x, v]
  /-- The least integer divided by -1. -/
  | remainder {a b : Value} (ha : a.integer? = some (-2 ^ 63)) (hb : b.integer? = some (-1)) :
      Operator.Overflows .modulo [a, b]

theorem binary_eq_overflow_iff (name : String) (f : Value → Value → Outcome Value) (vs : List Value) :
    binary name f vs = .error .overflow ↔ ∃ a b, vs = [a, b] ∧ f a b = .error .overflow := by
  match vs with
  | [] => exact ⟨nofun, nofun⟩
  | [a] => exact ⟨nofun, nofun⟩
  | [a, b] => simp [binary]
  | a :: b :: c :: rest => exact ⟨nofun, nofun⟩

theorem unary_only {cause : Prop} (name : String) {f : Value → Outcome Value} (hf : ∀ v, OverflowOnly cause (f v))
    (vs : List Value) : OverflowOnly cause (unary name f vs) := by
  match vs with
  | [] => exact .of_error _
  | [a] => exact hf a
  | a :: b :: rest => exact .of_error _

theorem binary_only {cause : Prop} (name : String) {f : Value → Value → Outcome Value}
    (hf : ∀ a b, OverflowOnly cause (f a b)) (vs : List Value) : OverflowOnly cause (binary name f vs) := by
  intro h
  obtain ⟨a, b, -, hab⟩ := (binary_eq_overflow_iff name f vs).1 h
  exact hf a b hab

theorem sizeOf_only {cause : Prop} (v : Value) : OverflowOnly cause (sizeOf v) := by
  cases v <;> first | exact .of_ok _ | exact .of_error _

/-- An operator on evaluated operands leaves 64 bits in these four ways and in no other. -/
theorem Operator.apply_eq_overflow_iff (name : String) (op : Operator) (vs : List Value) :
    op.apply name vs = .error .overflow ↔ op.Overflows vs := by
  have hnever : ∀ {op : Operator}, (∀ vs, ¬ op.Overflows vs) → OverflowOnly False (op.apply name vs) →
      (op.apply name vs = .error .overflow ↔ op.Overflows vs) :=
    fun hno h => ⟨fun ho => (h ho).elim, fun ho => absurd ho (hno vs)⟩
  cases op with
  | add =>
    refine (Arithmetic.add_eq_overflow_iff vs).trans ⟨?_, ?_⟩
    · rintro ⟨before, after, m, rfl, hn, hb⟩
      exact .sum hn hb
    · rintro ⟨hn, hb⟩
      exact ⟨_, _, _, rfl, hn, hb⟩
  | subtract =>
    refine (binary_eq_overflow_iff name _ vs).trans ⟨?_, ?_⟩
    · rintro ⟨a, b, rfl, h⟩
      rcases (Arithmetic.subtract_eq_overflow_iff a b).1 h with ⟨x, y, rfl, rfl, hb⟩ | ⟨x, rfl, hn, hb⟩
      · exact .span hb
      · exact .difference hn hb
    · intro h
      cases h with
      | span hb => exact ⟨_, _, rfl, (Arithmetic.subtract_eq_overflow_iff _ _).2 (.inl ⟨_, _, rfl, rfl, hb⟩)⟩
      | difference hn hb => exact ⟨_, _, rfl, (Arithmetic.subtract_eq_overflow_iff _ _).2 (.inr ⟨_, rfl, hn, hb⟩)⟩
  | modulo =>
    refine (binary_eq_overflow_iff name _ vs).trans ⟨?_, ?_⟩
    · rintro ⟨a, b, rfl, h⟩
      obtain ⟨ha, hb⟩ := (Arithmetic.modulo_eq_overflow_iff a b).1 h
      exact .remainder ha hb
    · intro h
      cases h with
      | remainder ha hb => exact ⟨_, _, rfl, (Arithmetic.modulo_eq_overflow_iff _ _).2 ⟨ha, hb⟩⟩
  | multiply => exact hnever (fun _ => nofun) (Arithmetic.multiply_only vs)
  | divide => exact hnever (fun _ => nofun) (binary_only name Arithmetic.divide_only vs)
  | maximum => exact hnever (fun _ => nofun) (.of_ok _)
  | minimum => exact hnever (fun _ => nofun) (.of_ok _)
  | comparison holds => exact hnever (fun _ => nofun) (binary_only name (fun _ _ => .of_ok _) vs)
  | conjunction => exact hnever (fun _ => nofun) (.of_ok _)
  | disjunction => exact hnever (fun _ => nofun) (.of_ok _)
  | negation => exact hnever (fun _ => nofun) (unary_only name (fun _ => .of_ok _) vs)
  | concatenation => exact hnever (fun _ => nofun) (Arithmetic.concatOrNull_only vs)
  | lowerCase => exact hnever (fun _ => nofun) (unary_only name (Arithmetic.changeCase_only name _) vs)
  | upperCase => exact hnever (fun _ => nofun) (unary_only name (Arithmetic.changeCase_only name _) vs)
  | firstGiven => exact hnever (fun _ => nofun) (.of_ok _)
  | size => exact hnever (fun _ => nofun) (unary_only name sizeOf_only vs)

end Expression

end DocQuery
