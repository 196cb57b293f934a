import DocQuery.Proofs.ClauseLists
import DocQuery.Proofs.Expressions
import DocQuery.Proofs.Integers
import Mathlib.Data.String.Basic

/-!
# Clauses on the parts of a date

A clause on a date part compiles to an expression that takes the part of the column's date and compares it with
the given value:

    { $expr: { $lt: [ { $year: "$born" }, 1975 ] } }

Where the column holds a date, the answer is whether its part stands in the relation to the value, numbers as
integers and texts in their order (`passes_toValue`).  Where the column is null or missing there is no part: the
expression has null in its place, and null is ordered before every number and every text, so the clause holds
exactly for the relations that something smaller stands in (`Clause.date_matches_iff`).
-/

namespace DocQuery

open Outcome

/-! ## Relations -/

/-- The relations that a clause on a date part can ask for. -/
inductive Relation where
  | equal
  | unequal
  | below
  | atMost
  | above
  | atLeast
  deriving DecidableEq, Repr

namespace Relation

/-- The operator of a clause. -/
def sign : Relation → String
  | equal => "="
  | unequal => "<>"
  | below => "<"
  | atMost => "<="
  | above => ">"
  | atLeast => ">="

/-- The operator of the expression, without its `$`. -/
def operatorName : Relation → String
  | equal => "eq"
  | unequal => "ne"
  | below => "lt"
  | atMost => "lte"
  | above => "gt"
  | atLeast => "gte"

/-- The orders in which the first of two values stands in the relation to the second. -/
def passes : Relation → Ordering → Bool
  | equal => Ordering.isEq
  | unequal => Ordering.isNe
  | below => Ordering.isLT
  | atMost => Ordering.isLE
  | above => Ordering.isGT
  | atLeast => Ordering.isGE

def Holds {α : Type} [LinearOrder α] : Relation → α → α → Prop
  | equal, a, b => a = b
  | unequal, a, b => a ≠ b
  | below, a, b => a < b
  | atMost, a, b => a ≤ b
  | above, a, b => b < a
  | atLeast, a, b => b ≤ a

theorem passes_compare_iff {α : Type} [LinearOrder α] (r : Relation) (a b : α) :
    r.passes (compare a b) = true ↔ r.Holds a b := by
  rcases lt_trichotomy a b with h | h | h
  · rw [compare_lt_iff_lt.2 h]
    cases r <;> simp [passes, Holds, h, h.ne, h.le, h.not_gt, h.not_ge]
  · subst h
    rw [compare_eq_iff_eq.2 rfl]
    cases r <;> simp [passes, Holds]
  · rw [compare_gt_iff_gt.2 h]
    cases r <;> simp [passes, Holds, h, h.ne', h.le, h.not_gt, h.not_ge]

instance {α : Type} [LinearOrder α] (r : Relation) (a b : α) : Decidable (r.Holds a b) :=
  decidable_of_iff (r.passes (compare a b) = true) (r.passes_compare_iff a b)

theorem comparison?_sign (r : Relation) : Operator.comparison? r.sign = some r.operatorName := by
  cases r <;> rfl

theorem operator?_operatorName (r : Relation) :
    Expression.operator? ("$" ++ r.operatorName) = some (.comparison (Expression.test r.passes)) := by
  cases r <;> rfl

/-- What is smaller stands in three of the relations. -/
theorem passes_lt_iff (r : Relation) : r.passes .lt = true ↔ r = unequal ∨ r = below ∨ r = atMost := by
  cases r <;> decide

end Relation

/-! ## Parts of a date -/

/-- A part of a date: a number or a text. -/
inductive DateValue where
  | number (n : Int)
  | text (s : String)

namespace DateValue

def toValue : DateValue → Value
  | number n => .ofInt64 (Int64.ofInt n)
  | text s => .string s

/-- A value of the kind that a part is. -/
def Fits : DateValue → Value → Prop
  | number _, v => ∃ n, v.integer? = some n
  | text _, v => ∃ s, v = .string s

/-- Whether a part stands in the relation to a value of its kind. -/
def Stands (r : Relation) : DateValue → Value → Prop
  | number m, v => ∃ n, v.integer? = some n ∧ r.Holds m n
  | text s, v => ∃ u, v = .string u ∧ r.Holds s u

end DateValue

namespace DatePart

/-- The part of an instant. -/
def ofInstant (part : DatePart) (t : Int) : DateValue :=
  let on := Calendar.dateOf t
  match part with
  | day => .number on.day
  | month => .number on.month
  | year => .number on.year
  | date => .text (Calendar.padInt 4 on.year ++ "-" ++ Calendar.pad 2 on.month ++ "-" ++ Calendar.pad 2 on.day)
  | time =>
    .text (Calendar.pad 2 (Calendar.hour t) ++ ":" ++ Calendar.pad 2 (Calendar.minute t) ++ ":" ++
      Calendar.pad 2 (Calendar.second t))

/-- The values that a part is compared with: integers for the numbers, and for the texts those that no expression
reads as a reference. -/
def Takes : DatePart → Value → Prop
  | date, v => ∃ s, v = .string s ∧ Expression.isOperatorName s = false
  | time, v => ∃ s, v = .string s ∧ Expression.isOperatorName s = false
  | _, v => ∃ n, v.integer? = some n

/-- The expression that takes the part of the date at a path. -/
def extract : DatePart → String → Value
  | day, path => .document [("$dayOfMonth", .string path)]
  | month, path => .document [("$month", .string path)]
  | year, path => .document [("$year", .string path)]
  | date, path => FilterDocument.rendered "%Y-%m-%d" path
  | time, path => FilterDocument.rendered "%H:%M:%S" path

end DatePart

/-! ## Bounds of the calendar -/

namespace Calendar

/-- Rough bounds of a date, far below the integers that doubles round. -/
theorem ofDayNumber_bounds {n : Int} (h : n.natAbs ≤ 2 ^ 40) :
    (ofDayNumber n).year.natAbs < 2 ^ 53 ∧ (ofDayNumber n).month < 2 ^ 53 ∧ (ofDayNumber n).day < 2 ^ 53 := by
  unfold ofDayNumber
  dsimp only
  rw [Int.fdiv_eq_ediv_of_nonneg _ (by decide)]
  refine ⟨?_, ?_, ?_⟩
  · split <;> omega
  · split <;> omega
  · omega

theorem natAbs_dayOf_clamp (t : Int64) : (dayOf (DateFormat.clamp t.toInt)).natAbs ≤ 2 ^ 40 := by
  have hlow := t.le_toInt
  have hhigh := t.toInt_lt
  unfold dayOf millisPerDay
  rw [Int.fdiv_eq_ediv_of_nonneg _ (by decide)]
  have hfirst : dayNumber ⟨-262143, 1, 1⟩ = -96465292 := by decide
  have hlast : dayNumber ⟨262142 + 1, 1, 1⟩ = 95026237 := by decide
  unfold DateFormat.clamp clampYears millisPerDay
  rw [hfirst, hlast]
  omega

end Calendar

/-! ## Comparison -/

namespace DateValue

/-- A number far below those that doubles round, or any text. -/
def Small : DateValue → Prop
  | number n => n.natAbs < 2 ^ 53
  | text _ => True

theorem integer?_ofInt64 (n : Int64) : (Value.ofInt64 n).integer? = some n.toInt := by
  unfold Value.ofInt64
  split
  · rename_i h
    have hlow : Int32.minValue.toInt = -2 ^ 31 := rfl
    have hhigh : Int32.maxValue.toInt = 2 ^ 31 - 1 := rfl
    rw [hlow, hhigh] at h
    show some (Int32.ofInt n.toInt).toInt = some n.toInt
    rw [Int32.toInt_ofInt_of_le (by omega) (by omega)]
  · rfl

theorem integer?_number {m : Int} (h : m.natAbs < 2 ^ 53) : (number m).toValue.integer? = some m := by
  show (Value.ofInt64 (Int64.ofInt m)).integer? = some m
  rw [integer?_ofInt64, Int64.toInt_ofInt_of_le (by omega) (by omega)]

/-- Doubles keep the order of a small integer and any other one. -/
theorem compare_small {a b : Value} {m n : Int} (ha : a.integer? = some m) (hb : b.integer? = some n)
    (hm : m.natAbs < 2 ^ 53) : a.compare b = compare m n := by
  rw [Value.compare_integers ha hb]
  rcases lt_trichotomy m n with h | h | h
  · have hplace : Double.placeOf m < Double.placeOf n := by
      by_cases hn : n ≤ 2 ^ 53
      · exact Double.placeOf_lt h (by omega) hn
      · exact lt_of_lt_of_le (Double.placeOf_lt (n := 2 ^ 53) (by omega) (by omega) (by omega))
          (Double.placeOf_mono (by omega))
    rw [compare_lt_iff_lt.2 h, compare_lt_iff_lt.2 hplace]
  · rw [h, compare_eq_iff_eq.2 rfl, compare_eq_iff_eq.2 rfl]
  · have hplace : Double.placeOf n < Double.placeOf m := by
      by_cases hn : -(2 ^ 53) ≤ n
      · exact Double.placeOf_lt h hn (by omega)
      · exact lt_of_le_of_lt (Double.placeOf_mono (by omega))
          (Double.placeOf_lt (m := -(2 ^ 53)) (by omega) (by omega) (by omega))
    rw [compare_gt_iff_gt.2 h, compare_gt_iff_gt.2 hplace]

/-- A part is compared as its number or its text. -/
theorem passes_toValue (r : Relation) {p : DateValue} (hp : p.Small) {v : Value} (hv : p.Fits v) :
    r.passes (p.toValue.compare v) = true ↔ p.Stands r v := by
  cases p with
  | number m =>
    obtain ⟨n, hn⟩ := hv
    rw [compare_small (integer?_number hp) hn hp, r.passes_compare_iff]
    simp [Stands, hn]
  | text s =>
    obtain ⟨u, rfl⟩ := hv
    have hcompare : (text s).toValue.compare (.string u) = compare s u := rfl
    rw [hcompare, r.passes_compare_iff]
    simp [Stands]

end DateValue

theorem DatePart.small_ofInstant (part : DatePart) (t : Int64) : (part.ofInstant (DateFormat.clamp t.toInt)).Small := by
  obtain ⟨hyear, hmonth, hday⟩ := Calendar.ofDayNumber_bounds (Calendar.natAbs_dayOf_clamp t)
  cases part with
  | day => exact hday
  | month => exact hmonth
  | year => exact hyear
  | date => trivial
  | time => trivial

/-! ## Expressions of a clause -/

namespace DatePart

open Expression

theorem format_date (t : Int) : (DateFormat.format t "%Y-%m-%d".toList).map .string =
    .ok (date.ofInstant t).toValue := by
  show (DateFormat.format t ['%', 'Y', '-', '%', 'm', '-', '%', 'd']).map Value.string = _
  simp [DateFormat.format, DateFormat.letter?, Except.map, ofInstant, DateValue.toValue, String.append_assoc]

theorem format_time (t : Int) : (DateFormat.format t "%H:%M:%S".toList).map .string =
    .ok (time.ofInstant t).toValue := by
  show (DateFormat.format t ['%', 'H', ':', '%', 'M', ':', '%', 'S']).map Value.string = _
  simp [DateFormat.format, DateFormat.letter?, Except.map, ofInstant, DateValue.toValue, String.append_assoc]

/-- The value of an instant's part; null where there is no instant. -/
def shown (part : DatePart) : Option Int → Value
  | some t => (part.ofInstant t).toValue
  | none => .null

section

variable {path : String} {d : Document} {v : Value} {instant : Option Int} {part : DatePart}

theorem evaluate_field (hv : evaluate (.string path) d = .ok v)
    (hi : ∀ op, DateFormat.instant? op v = .ok instant) {name : String} {field : Int → Int}
    (hname : DateFormat.field? name = some field)
    (hpart : ∀ t, (part.ofInstant t).toValue = .ofInt64 (Int64.ofInt (field t))) :
    evaluate (.document [(name, .string path)]) d = .ok (part.shown instant) := by
  rw [evaluate_dateField hname, dateSource_string, hv]
  show dateField _ _ v = _
  rw [dateField, hi]
  cases instant with
  | none => rfl
  | some t =>
    rw [shown, hpart]
    rfl

theorem evaluate_rendered (hv : evaluate (.string path) d = .ok v)
    (hi : ∀ op, DateFormat.instant? op v = .ok instant) {format : String}
    (hpart : ∀ t, (DateFormat.format t format.toList).map .string = .ok (part.ofInstant t).toValue) :
    evaluate (FilterDocument.rendered format path) d = .ok (part.shown instant) := by
  rw [FilterDocument.rendered, evaluate_dateToString rfl rfl, dateSource_string, hv]
  show dateText _ _ v = _
  rw [dateText, hi]
  cases instant with
  | none => rfl
  | some t => exact hpart t

theorem evaluate_extract (hv : evaluate (.string path) d = .ok v)
    (hi : ∀ op, DateFormat.instant? op v = .ok instant) (part : DatePart) :
    evaluate (part.extract path) d = .ok (part.shown instant) := by
  cases part with
  | day => exact evaluate_field hv hi rfl fun t => rfl
  | month => exact evaluate_field hv hi rfl fun t => rfl
  | year => exact evaluate_field hv hi rfl fun t => rfl
  | date => exact evaluate_rendered hv hi format_date
  | time => exact evaluate_rendered hv hi format_time

end

/-- The value of a clause as its filter has it: evaluated it is itself, what stands in a relation to it stands in
the relation to the value, and null is ordered before it. -/
structure Literal (part : DatePart) (v lit : Value) : Prop where
  evaluates : ∀ d, evaluate lit d = .ok lit
  fits : ∀ t, (part.ofInstant t).Fits lit
  stands : ∀ r t, (part.ofInstant t).Stands r lit ↔ (part.ofInstant t).Stands r v
  above : Value.compare .null lit = .lt

theorem wholeNumber_of_integer {v : Value} {n : Int} (h : v.integer? = some n) (column : String) :
    ∃ lit, FilterDocument.wholeNumber column v = .ok lit ∧ lit.integer? = some n := by
  cases v with
  | int32 m =>
    cases h
    have hlow := m.le_toInt
    have hhigh := m.toInt_lt
    refine ⟨_, rfl, ?_⟩
    rw [DateValue.integer?_ofInt64, Int64.toInt_ofInt_of_le (by omega) (by omega)]
  | int64 m =>
    cases h
    exact ⟨_, rfl, DateValue.integer?_ofInt64 m⟩
  | _ => cases h

theorem evaluate_integer {v : Value} {n : Int} (h : v.integer? = some n) (d : Document) : evaluate v d = .ok v := by
  cases v <;> first | rfl | cases h

/-- A clause with a value that its part takes compiles to a comparison with the part. -/
theorem date_of_takes {part : DatePart} {v : Value} (hv : part.Takes v) (column : String) (r : Relation) :
    ∃ lit, part.Literal v lit ∧ FilterDocument.date column part r.sign v =
      .ok [("$expr", FilterDocument.operator r.operatorName (.array [part.extract ("$" ++ column), lit]))] := by
  have hnumber : ∀ {n : Int} {lit : Value}, v.integer? = some n → lit.integer? = some n →
      (∀ t, ∃ m, part.ofInstant t = .number m) → part.Literal v lit := by
    intro n lit hv hlit hpart
    refine ⟨evaluate_integer hlit, ?_, ?_, ?_⟩
    · intro t
      obtain ⟨m, hm⟩ := hpart t
      rw [hm]
      exact ⟨n, hlit⟩
    · intro r t
      obtain ⟨m, hm⟩ := hpart t
      rw [hm, DateValue.Stands, DateValue.Stands, hv, hlit]
    · cases lit <;> cases hlit <;> rfl
  have htext : ∀ {s : String}, v = .string s → isOperatorName s = false →
      (∀ t, ∃ u, part.ofInstant t = .text u) → part.Literal v v := by
    rintro s rfl hs hpart
    refine ⟨evaluate_plainText hs, ?_, fun r t => Iff.rfl, rfl⟩
    intro t
    obtain ⟨u, hu⟩ := hpart t
    rw [hu]
    exact ⟨s, rfl⟩
  unfold FilterDocument.date
  rw [r.comparison?_sign]
  cases part with
  | day | month | year =>
    obtain ⟨n, hn⟩ := hv
    obtain ⟨lit, hlit, hn'⟩ := wholeNumber_of_integer hn column
    refine ⟨lit, hnumber hn hn' fun t => ⟨_, rfl⟩, ?_⟩
    rw [hlit]
    rfl
  | date | time =>
    obtain ⟨s, hs, hplain⟩ := hv
    exact ⟨v, htext hs hplain fun t => ⟨_, rfl⟩, rfl⟩

end DatePart

/-- A comparison as a filter. -/
theorem Filter.accepts_comparison (r : Relation) {a b x y : Value} {d : Document}
    (ha : Expression.evaluate a d = .ok x) (hb : Expression.evaluate b d = .ok y) :
    accepts [("$expr", FilterDocument.operator r.operatorName (.array [a, b]))] d =
      .ok (r.passes (x.compare y)) := by
  have hvalue : Expression.evaluate (FilterDocument.operator r.operatorName (.array [a, b])) d =
      .ok (.boolean (r.passes (x.compare y))) := by
    unfold FilterDocument.operator
    rw [Expression.evaluate_operator r.operator?_operatorName, Expression.operands, Outcome.traverse, ha,
      Outcome.traverse, hb]
    rfl
  rw [accepts_singleton]
  show (Expression.evaluate _ d).map Value.truthy = _
  rw [hvalue]
  rfl

/-! ## Main result -/

/-- A clause on a date part, by one of the six relations and with a value that the part takes, always has an
answer.  Where the column holds a date the answer is yes exactly when the part of the date stands in the relation to
the value.  Where the column is null or missing it is yes exactly for the relations that something smaller stands
in. -/
theorem Clause.date_matches_iff {column : String} (hc : Expression.isOperatorName column = false) {part : DatePart}
    {v : Value} (hv : part.Takes v) (r : Relation) (k : Connective) (d : Document) :
    (∀ t, Path.resolve d (Path.parse column) = some (.dateTime t) →
      ∃ answer, test d ⟨k, .date column part r.sign v⟩ = .ok answer ∧
        (answer = true ↔ (part.ofInstant (DateFormat.clamp t.toInt)).Stands r v)) ∧
    (Path.resolve d (Path.parse column) = none ∨ Path.resolve d (Path.parse column) = some .null →
      ∃ answer, test d ⟨k, .date column part r.sign v⟩ = .ok answer ∧
        (answer = true ↔ r = .unequal ∨ r = .below ∨ r = .atMost)) := by
  obtain ⟨lit, hlit, hcompiled⟩ := DatePart.date_of_takes hv column r
  have hpath := Expression.evaluate_columnPath hc d
  have htest : ∀ {w : Value} {instant : Option Int}, Expression.evaluate (.string ("$" ++ column)) d = .ok w →
      (∀ op, DateFormat.instant? op w = .ok instant) →
      test d ⟨k, .date column part r.sign v⟩ = .ok (r.passes ((part.shown instant).compare lit)) := by
    intro w instant hw hi
    rw [Clause.test_of_compiles (c := ⟨k, .date column part r.sign v⟩) hcompiled]
    exact Filter.accepts_comparison r (DatePart.evaluate_extract hw hi part) (hlit.evaluates d)
  refine ⟨?_, ?_⟩
  · intro t ht
    rw [ht] at hpath
    refine ⟨_, htest hpath fun op => rfl, ?_⟩
    rw [← hlit.stands]
    exact DateValue.passes_toValue r (part.small_ofInstant t) (hlit.fits _)
  · intro hn
    have hnull : Expression.evaluate (.string ("$" ++ column)) d = .ok .null := by
      rw [hpath]
      rcases hn with hn | hn <;> rw [hn] <;> rfl
    refine ⟨_, htest hnull fun op => rfl, ?_⟩
    show r.passes (Value.compare .null lit) = true ↔ _
    rw [hlit.above, r.passes_lt_iff]

/-- A date in 1970 is before 1975, and at midnight. -/
theorem Clause.date_matches_iff_born :
    let d : Document := [("born", .dateTime 0)]
    Expression.isOperatorName "born" = false ∧ DatePart.year.Takes (.int32 1975) ∧
      DatePart.time.Takes (.string "00:00:00") ∧
      test d ⟨.and, .date "born" .year "<" (.int32 1975)⟩ = .ok true ∧
      test d ⟨.and, .date "born" .time "=" (.string "00:00:00")⟩ = .ok true ∧
      test [] ⟨.and, .date "born" .time "=" (.string "00:00:00")⟩ = .ok false := by
  intro d
  have hc : Expression.isOperatorName "born" = false := rfl
  have hyear : DatePart.year.Takes (.int32 1975) := ⟨1975, rfl⟩
  have htime : DatePart.time.Takes (.string "00:00:00") := ⟨_, rfl, rfl⟩
  refine ⟨hc, hyear, htime, ?_, ?_, ?_⟩
  · obtain ⟨answer, htest, hiff⟩ := (Clause.date_matches_iff hc hyear .below .and d).1 0 rfl
    have hbefore : (DatePart.year.ofInstant (DateFormat.clamp (0 : Int64).toInt)).Stands .below (.int32 1975) := by
      refine ⟨1975, rfl, ?_⟩
      show (Calendar.dateOf (DateFormat.clamp (0 : Int64).toInt)).year < 1975
      decide
    rw [← hiff.2 hbefore]
    exact htest
  · obtain ⟨answer, htest, hiff⟩ := (Clause.date_matches_iff hc htime .equal .and d).1 0 rfl
    have hmidnight : (DatePart.time.ofInstant (DateFormat.clamp (0 : Int64).toInt)).Stands .equal
        (.string "00:00:00") := ⟨_, rfl, by decide⟩
    rw [← hiff.2 hmidnight]
    exact htest
  · obtain ⟨answer, htest, hiff⟩ := (Clause.date_matches_iff hc htime .equal .and []).2 (.inl rfl)
    have hno : answer = false := Bool.eq_false_iff.2 fun h => absurd (hiff.1 h) (by decide)
    rw [← hno]
    exact htest

/-- A document without the date matches a clause on its year, and a text that starts with `$` is read as a field:
the date matches the field that it names, and not the text. -/
theorem Clause.date_missing_matches :
    Path.resolve [] (Path.parse "born") = none ∧
      test [] ⟨.and, .date "born" .year "<" (.int32 1975)⟩ = .ok true ∧
      test [("born", .dateTime 0), ("label", .string "1970-01-01")]
        ⟨.and, .date "born" .date "=" (.string "$label")⟩ = .ok true ∧
      ¬ (DatePart.date.ofInstant (DateFormat.clamp (0 : Int64).toInt)).Stands .equal (.string "$label") := by
  refine ⟨rfl, by rfl, by rfl, ?_⟩
  rintro ⟨u, hu, h⟩
  cases hu
  exact absurd h (by decide)

end DocQuery
