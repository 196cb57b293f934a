import DocQuery.Proofs.DateParts
import DocQuery.Proofs.Days

/-!
# The order of dates and times as texts

A date is compared as the text `YYYY-MM-DD` and a time of day as `HH:MM:SS`.  All places of a number are written, so
that the order of the texts is that of the numbers in them, the first that differ deciding (`written_lt`).  In the years
0 to 9999 this is the order of the days and of the seconds of a day:

    the text of a day stands in a relation to another    ↔ its number does            (Relation.holds_date)
    the text of a time stands in a relation to another   ↔ its second does            (Relation.holds_time)

So a clause on a date or a time answers by the number of the day and the second of the day (`Clause.date_order_iff`).
-/

namespace DocQuery

/-! ## Places -/

namespace Numeral

/-- The digits of a number in so many places, the highest first. -/
def places : Nat → Nat → List Char
  | 0, _ => []
  | width + 1, n => places width (n / 10) ++ [Nat.digitChar (n % 10)]

theorem padded_succ (width n : Nat) :
    padded (width + 2) n = padded (width + 1) (n / 10) ++ [Nat.digitChar (n % 10)] := by
  unfold padded digits
  dsimp only
  by_cases h : n < 10
  · rw [Nat.div_eq_of_lt h, Nat.mod_eq_of_lt h, Nat.toDigits_of_lt_base h, Nat.toDigits_of_lt_base (by decide : 0 < 10)]
    show List.replicate (width + 1) '0' ++ [Nat.digitChar n] = List.replicate width '0' ++ ['0'] ++ [Nat.digitChar n]
    rw [List.replicate_succ']
  · rw [Nat.toDigits_of_base_le (by decide : 1 < 10) (Nat.le_of_not_lt h), List.length_append, List.length_singleton,
      show ∀ k, width + 2 - (k + 1) = width + 1 - k by omega, List.append_assoc]

/-- A number is padded to its places where it has no more than these. -/
theorem padded_eq_places {width n : Nat} (h : n < 10 ^ (width + 1)) : padded (width + 1) n = places (width + 1) n := by
  induction width generalizing n with
  | zero =>
    have hn : n < 10 := h
    unfold padded digits
    rw [Nat.toDigits_of_lt_base hn]
    show [Nat.digitChar n] = [Nat.digitChar (n % 10)]
    rw [Nat.mod_eq_of_lt hn]
  | succ width ih =>
    have htens : n / 10 < 10 ^ (width + 1) := by
      rw [Nat.pow_succ] at h
      omega
    rw [padded_succ, ih htens]
    rfl

/-- What is written in places starts with a digit, and so not with `$`. -/
theorem head?_places (width n : Nat) (x : List Char) : (places (width + 1) n ++ x).head? ≠ some '$' := by
  have hdigit : ∀ k < 10, Nat.digitChar k ≠ '$' := by decide
  induction width generalizing n x with
  | zero =>
    intro h
    exact hdigit (n % 10) (Nat.mod_lt _ (by decide)) (Option.some.inj h)
  | succ width ih =>
    rw [places, List.append_assoc]
    exact ih (n / 10) _

theorem digitChar_lt : ∀ b < 10, ∀ a < b, Nat.digitChar a < Nat.digitChar b := by decide

/-- In as many places a smaller number is before a larger one, whatever comes after. -/
theorem places_lt {width m n : Nat} (h : m < n) (hn : n < 10 ^ width) (x y : List Char) :
    places width m ++ x < places width n ++ y := by
  induction width generalizing m n x y with
  | zero =>
    rw [Nat.pow_zero] at hn
    omega
  | succ width ih =>
    rw [Nat.pow_succ] at hn
    rw [places, places, List.append_assoc, List.append_assoc]
    by_cases htens : m / 10 < n / 10
    · exact ih htens (by omega) _ _
    · obtain heq : m / 10 = n / 10 := by omega
      rw [heq]
      refine List.append_left_lt ?_
      exact List.cons_lt_cons_iff.2 (.inl (digitChar_lt (n % 10) (Nat.mod_lt _ (by decide)) (m % 10) (by omega)))

/-- Three numbers in their places, with a sign between them. -/
def written (sep : Char) (width a b c : Nat) : List Char :=
  places width a ++ sep :: (places 2 b ++ sep :: places 2 c)

theorem ofList_written (sep : Char) (width a b c : Nat) :
    String.ofList (places width a) ++ String.ofList [sep] ++ String.ofList (places 2 b) ++ String.ofList [sep] ++
      String.ofList (places 2 c) = String.ofList (written sep width a b c) := by
  unfold written
  rw [← String.ofList_append, ← String.ofList_append, ← String.ofList_append, ← String.ofList_append]
  simp only [List.append_assoc, List.cons_append, List.nil_append]

/-- The first numbers that differ decide. -/
theorem written_lt (sep : Char) {width a b c a' b' c' : Nat} (ha : a' < 10 ^ width) (hb : b' < 100) (hc : c' < 100)
    (h : a < a' ∨ a = a' ∧ (b < b' ∨ b = b' ∧ c < c')) : written sep width a b c < written sep width a' b' c' := by
  unfold written
  rcases h with h | ⟨rfl, h⟩
  · exact places_lt h ha _ _
  · refine List.append_left_lt (List.cons_lt_cons_iff.2 (.inr ⟨rfl, ?_⟩))
    rcases h with h | ⟨rfl, h⟩
    · exact places_lt h hb _ _
    · refine List.append_left_lt (List.cons_lt_cons_iff.2 (.inr ⟨rfl, ?_⟩))
      have hlast : places 2 c ++ [] < places 2 c' ++ [] := places_lt h hc [] []
      rwa [List.append_nil, List.append_nil] at hlast

theorem ofList_written_lt (sep : Char) {width a b c a' b' c' : Nat} (ha : a' < 10 ^ width) (hb : b' < 100)
    (hc : c' < 100) (h : a < a' ∨ a = a' ∧ (b < b' ∨ b = b' ∧ c < c')) :
    String.ofList (written sep width a b c) < String.ofList (written sep width a' b' c') := by
  rw [String.lt_iff_toList_lt, String.toList_ofList, String.toList_ofList]
  exact written_lt sep ha hb hc h

end Numeral

open Numeral

/-! ## Texts of days and times -/

namespace Calendar

/-- The text `YYYY-MM-DD`. -/
def Date.text (d : Date) : String := String.ofList (written '-' 4 d.year.toNat d.month d.day)

/-- The text `HH:MM:SS`. -/
def clockText (h m s : Nat) : String := String.ofList (written ':' 2 h m s)

variable {d e : Date} {n m : Int}

theorem text_eq (hd : d.Valid) (hfirst : 0 ≤ d.year) (hlast : d.year ≤ 9999) :
    padInt 4 d.year ++ "-" ++ pad 2 d.month ++ "-" ++ pad 2 d.day = d.text := by
  have hmonth := hd.month_le
  have hday := hd.day_le.trans (daysIn_le _ _)
  have hyear : d.year.natAbs = d.year.toNat := by omega
  unfold padInt pad Date.text
  rw [if_neg (by omega), hyear, padded_eq_places (by omega), padded_eq_places (by omega), padded_eq_places (by omega)]
  exact ofList_written '-' 4 _ _ _

/-- Years below a thousand have four places too. -/
example : Date.text ⟨44, 3, 15⟩ = "0044-03-15" := by decide

theorem Numbered.text_lt (hd : Numbered d m) (he : Numbered e n) (hfirst : 0 ≤ d.year) (hlast : e.year ≤ 9999)
    (h : m < n) : d.text < e.text := by
  have hbefore := hd.before he h
  have hmonth := he.valid.1.month_le
  have hday := he.valid.1.day_le.trans (daysIn_le _ _)
  unfold Date.Before at hbefore
  exact ofList_written_lt '-' (by omega) (by omega) (by omega) (by omega)

theorem clockText_lt {h m s h' m' s' : Nat} (hm : m < 60) (hs : s < 60) (hh' : h' < 24) (hm' : m' < 60) (hs' : s' < 60)
    (hlt : (3600 * h + 60 * m + s : Int) < 3600 * h' + 60 * m' + s') : clockText h m s < clockText h' m' s' :=
  ofList_written_lt ':' (by omega) (by omega) (by omega) (by omega)

/-- The second of the day of an instant, by its hour, its minute and its second. -/
theorem secondOfDay_eq (t : Int) : t % 86400000 / 1000 = 3600 * hour t + 60 * minute t + second t ∧
    hour t < 24 ∧ minute t < 60 ∧ second t < 60 := by
  unfold hour minute second timeOfDay millisPerDay
  rw [Int.fmod_eq_emod_of_nonneg _ (by decide)]
  omega

/-- The bounds of the calendar leave the instants of the years 0 to 9999 as they are. -/
theorem Numbered.clamp_eq {t : Int} (h : Numbered d (t / 86400000)) (hfirst : 0 ≤ d.year) (hlast : d.year ≤ 9999) :
    DateFormat.clamp t = t := by
  obtain ⟨hvalid, hnumber⟩ := h.valid
  have hplace := placeInYear_nonneg hvalid
  have hplace' := (placeInYear_lt hvalid).2
  have hlow : dayNumber ⟨-262143, 1, 1⟩ = -96465292 := by decide
  have hhigh : dayNumber ⟨262142 + 1, 1, 1⟩ = 95026237 := by decide
  rw [dayNumber_eq] at hnumber
  unfold daysToMarch yearFromMarch at hnumber
  unfold DateFormat.clamp clampYears millisPerDay
  rw [hlow, hhigh]
  split at hnumber <;> omega

end Calendar

/-! ## Relations -/

namespace Relation

open Calendar

variable {α β : Type} [LinearOrder α] [LinearOrder β]

/-- Where one order follows the other, the same relations hold. -/
theorem holds_congr {a b : α} {x y : β} (hlt : x < y → a < b) (heq : x = y → a = b) (hgt : y < x → b < a)
    (r : Relation) : r.Holds a b ↔ r.Holds x y := by
  have hcompare : compare a b = compare x y := by
    rcases lt_trichotomy x y with h | h | h
    · rw [compare_lt_iff_lt.2 h, compare_lt_iff_lt.2 (hlt h)]
    · rw [compare_eq_iff_eq.2 h, compare_eq_iff_eq.2 (heq h)]
    · rw [compare_gt_iff_gt.2 h, compare_gt_iff_gt.2 (hgt h)]
  rw [← r.passes_compare_iff, ← r.passes_compare_iff, hcompare]

theorem holds_date {d e : Date} {m n : Int} (hd : Numbered d m) (he : Numbered e n) (hd0 : 0 ≤ d.year)
    (hd1 : d.year ≤ 9999) (he0 : 0 ≤ e.year) (he1 : e.year ≤ 9999) (r : Relation) :
    r.Holds d.text e.text ↔ r.Holds m n := by
  refine r.holds_congr (hd.text_lt he hd0 he1) ?_ (he.text_lt hd he0 hd1)
  rintro rfl
  rw [← hd.ofDayNumber_eq, ← he.ofDayNumber_eq]

theorem holds_time {h m s h' m' s' : Nat} (hh : h < 24) (hm : m < 60) (hs : s < 60) (hh' : h' < 24) (hm' : m' < 60)
    (hs' : s' < 60) (r : Relation) : r.Holds (clockText h m s) (clockText h' m' s') ↔
      r.Holds (3600 * h + 60 * m + s : Int) (3600 * h' + 60 * m' + s') := by
  refine r.holds_congr (clockText_lt hm hs hh' hm' hs') ?_ (clockText_lt hm' hs' hh hm hs)
  intro heq
  obtain ⟨rfl, rfl, rfl⟩ : h = h' ∧ m = m' ∧ s = s' := by omega
  rfl

end Relation

/-! ## Parts of an instant -/

namespace DatePart

open Calendar

variable {t : Int}

theorem date_ofInstant {on : Date} (h : Numbered on (t / 86400000)) (hfirst : 0 ≤ on.year) (hlast : on.year ≤ 9999) :
    date.ofInstant t = .text on.text := by
  have hday : dayOf t = t / 86400000 := Int.fdiv_eq_ediv_of_nonneg _ (by decide)
  have hon : dateOf t = on := by
    unfold dateOf
    rw [hday, h.ofDayNumber_eq]
  rw [ofInstant, hon, text_eq h.valid.1 hfirst hlast]

theorem time_ofInstant (t : Int) : time.ofInstant t = .text (clockText (hour t) (minute t) (second t)) := by
  obtain ⟨-, hh, hm, hs⟩ := secondOfDay_eq t
  rw [ofInstant]
  unfold pad clockText
  rw [padded_eq_places (by omega), padded_eq_places (by omega), padded_eq_places (by omega)]
  exact congrArg DateValue.text (ofList_written ':' 2 _ _ _)

end DatePart

theorem isOperatorName_written (sep : Char) (width a b c : Nat) :
    Expression.isOperatorName (String.ofList (written sep (width + 1) a b c)) = false := by
  unfold Expression.isOperatorName
  rw [String.toList_ofList, beq_eq_false_iff_ne]
  exact head?_places width a _

/-! ## Clauses -/

namespace Clause

variable {column : String} {d : Document} {part : DatePart} {s : String}

/-- A clause compares the text of a part with its own. -/
theorem test_date_text (hc : Expression.isOperatorName column = false) {t : Int64}
    (ht : Path.resolve d (Path.parse column) = some (.dateTime t)) {u : String}
    (hu : part.ofInstant (DateFormat.clamp t.toInt) = .text u) (hs : part.Takes (.string s)) (r : Relation)
    (k : Connective) :
    ∃ answer, test d ⟨k, .date column part r.sign (.string s)⟩ = .ok answer ∧ (answer = true ↔ r.Holds u s) := by
  obtain ⟨lit, hlit, hcompiled⟩ := DatePart.date_of_takes hs column r
  have hpath := Expression.evaluate_columnPath hc d
  rw [ht] at hpath
  have hpart := DatePart.evaluate_extract hpath (fun op => rfl) part
  have htest := Clause.test_of_compiles (c := ⟨k, .date column part r.sign (.string s)⟩) hcompiled d
  rw [Filter.accepts_comparison r hpart (hlit.evaluates d)] at htest
  refine ⟨_, htest, ?_⟩
  have hpasses := DateValue.passes_toValue r (part.small_ofInstant t) (hlit.fits (DateFormat.clamp t.toInt))
  refine hpasses.trans ((hlit.stands r _).trans ?_)
  rw [hu]
  constructor
  · rintro ⟨v, hv, h⟩
    cases hv
    exact h
  · intro h
    exact ⟨s, rfl, h⟩

/-- What starts with a second `$` is a variable: the whole document, or one that is not known. -/
theorem evaluate_variable (hc : Expression.isOperatorName column = true) (d : Document) :
    Expression.evaluate (.string ("$" ++ column)) d = .ok (.document d) ∨
      Expression.evaluate (.string ("$" ++ column)) d = Outcome.unsupported ("$" ++ column) := by
  show Expression.reference ("$" ++ column) d = _ ∨ Expression.reference ("$" ++ column) d = _
  have htext : ∃ rest, ("$" ++ column).toList = '$' :: '$' :: rest := by
    rw [Expression.isOperatorName, beq_iff_eq] at hc
    obtain ⟨rest, hrest⟩ := List.head?_eq_some_iff.1 hc
    exact ⟨rest, by rw [String.toList_append, hrest]; rfl⟩
  obtain ⟨rest, hrest⟩ := htext
  unfold Expression.reference
  rw [hrest]
  split
  · exact .inl rfl
  · exact .inr rfl

/-- A column that starts with `$` names no date. -/
theorem test_date_variable (hc : Expression.isOperatorName column = true) (hs : part.Takes (.string s)) (r : Relation)
    (k : Connective) (d : Document) : ∃ e, test d ⟨k, .date column part r.sign (.string s)⟩ = .error e := by
  obtain ⟨lit, -, hcompiled⟩ := DatePart.date_of_takes hs column r
  have hpart : ∃ e, Expression.evaluate (part.extract ("$" ++ column)) d = .error e := by
    cases part with
    | day | month | year =>
      obtain ⟨n, hn⟩ := hs
      cases hn
    | date | time =>
      rw [DatePart.extract, FilterDocument.rendered, Expression.evaluate_dateToString rfl rfl,
        Expression.dateSource_string]
      rcases evaluate_variable hc d with h | h <;> rw [h] <;> exact ⟨_, rfl⟩
  obtain ⟨e, he⟩ := hpart
  refine ⟨e, ?_⟩
  rw [Clause.test_of_compiles (c := ⟨k, .date column part r.sign (.string s)⟩) hcompiled, Filter.accepts_singleton]
  show (Expression.evaluate _ d).map Value.truthy = _
  unfold FilterDocument.operator
  rw [Expression.evaluate_operator r.operator?_operatorName, Expression.operands, Outcome.traverse, he]
  rfl

/-! ## Main result -/

/-- Where a column holds an instant of the years 0 to 9999, a clause on its date by one of the six relations, with the
text of a day of these years, always has an answer: yes exactly when the number of the instant's day stands in the
relation to the number of that day.  One on its time, with the text of a time of day, answers in this way by the second
of the instant's day.  A column that starts with `$` is read as a variable, and the clauses on it fail. -/
theorem date_order_iff {t : Int64} {on : Calendar.Date} (hon : Calendar.Numbered on (t.toInt / 86400000))
    (hfirst : 0 ≤ on.year) (hlast : on.year ≤ 9999) {column : String} {d : Document}
    (ht : Path.resolve d (Path.parse column) = some (.dateTime t)) (r : Relation) (k : Connective) :
    (Expression.isOperatorName column = false →
      (∀ day : Calendar.Date, day.Valid → 0 ≤ day.year → day.year ≤ 9999 →
        ∃ n, (∀ m, Calendar.Numbered day m ↔ m = n) ∧
          ∃ answer, test d ⟨k, .date column .date r.sign (.string day.text)⟩ = .ok answer ∧
            (answer = true ↔ r.Holds (t.toInt / 86400000) n)) ∧
      ∀ h m s : Nat, h < 24 → m < 60 → s < 60 →
        ∃ answer, test d ⟨k, .date column .time r.sign (.string (Calendar.clockText h m s))⟩ = .ok answer ∧
          (answer = true ↔ r.Holds (t.toInt % 86400000 / 1000) (3600 * h + 60 * m + s))) ∧
    (Expression.isOperatorName column = true → ∀ part ∈ [DatePart.date, .time], ∀ s,
      Expression.isOperatorName s = false → ∃ e, test d ⟨k, .date column part r.sign (.string s)⟩ = .error e) := by
  have hclamp := hon.clamp_eq hfirst hlast
  refine ⟨fun hc => ⟨?_, ?_⟩, ?_⟩
  · intro day hday hday0 hday1
    have hnumber := Calendar.numbered_iff.2 ⟨hday, rfl⟩
    refine ⟨Calendar.dayNumber day, fun m => ⟨fun h => h.valid.2.symm, fun h => h ▸ hnumber⟩, ?_⟩
    have hpart : DatePart.date.ofInstant (DateFormat.clamp t.toInt) = .text on.text := by
      rw [hclamp, DatePart.date_ofInstant hon hfirst hlast]
    have htakes : DatePart.date.Takes (.string day.text) := ⟨_, rfl, isOperatorName_written '-' 3 _ _ _⟩
    obtain ⟨answer, htest, hiff⟩ := test_date_text hc ht hpart htakes r k
    exact ⟨answer, htest, hiff.trans (r.holds_date hon hnumber hfirst hlast hday0 hday1)⟩
  · intro h m s hh hm hs
    obtain ⟨hsecond, hh', hm', hs'⟩ := Calendar.secondOfDay_eq t.toInt
    have hpart : DatePart.time.ofInstant (DateFormat.clamp t.toInt) = .text (Calendar.clockText
        (Calendar.hour t.toInt) (Calendar.minute t.toInt) (Calendar.second t.toInt)) := by
      rw [hclamp, DatePart.time_ofInstant]
    have htakes : DatePart.time.Takes (.string (Calendar.clockText h m s)) :=
      ⟨_, rfl, isOperatorName_written ':' 1 h m s⟩
    obtain ⟨answer, htest, hiff⟩ := test_date_text hc ht hpart htakes r k
    refine ⟨answer, htest, hiff.trans ?_⟩
    rw [hsecond]
    exact r.holds_time hh' hm' hs' hh hm hs
  · intro hc part hpart s hs
    refine test_date_variable hc ?_ r k d
    rcases List.mem_pair.1 hpart with rfl | rfl
    · exact ⟨s, rfl, hs⟩
    · exact ⟨s, rfl, hs⟩

/-- The last moment before 1970 is before its first day, and after noon. -/
theorem date_order_iff_before_epoch :
    let d : Document := [("born", .dateTime (-1)), ("$born", .dateTime (-1))]
    Calendar.Numbered ⟨1969, 12, 31⟩ ((-1 : Int64).toInt / 86400000) ∧ (0 : Int) ≤ 1969 ∧ (1969 : Int) ≤ 9999 ∧
      Path.resolve d (Path.parse "born") = some (.dateTime (-1)) ∧ Expression.isOperatorName "born" = false ∧
      Path.resolve d (Path.parse "$born") = some (.dateTime (-1)) ∧ Expression.isOperatorName "$born" = true ∧
      (⟨1970, 1, 1⟩ : Calendar.Date).Valid ∧
      test d ⟨.and, .date "born" .date "<" (.string "1970-01-01")⟩ = .ok true ∧
      test d ⟨.and, .date "born" .time ">" (.string "12:00:00")⟩ = .ok true ∧
      ∃ e, test d ⟨.and, .date "$born" .date "<" (.string "1970-01-01")⟩ = .error e := by
  intro d
  have hon : Calendar.Numbered ⟨1969, 12, 31⟩ ((-1 : Int64).toInt / 86400000) :=
    .previous ⟨by decide, by decide, by decide, by decide⟩ .epoch
  have hday : (⟨1970, 1, 1⟩ : Calendar.Date).Valid := ⟨by decide, by decide, by decide, by decide⟩
  have hfirst : (0 : Int) ≤ 1969 := by decide
  have hlast : (1969 : Int) ≤ 9999 := by decide
  have hborn : Path.resolve d (Path.parse "born") = some (.dateTime (-1)) := by rfl
  have hvariable : Path.resolve d (Path.parse "$born") = some (.dateTime (-1)) := by rfl
  have hplain : Expression.isOperatorName "born" = false := rfl
  have hname : Expression.isOperatorName "$born" = true := rfl
  refine ⟨hon, hfirst, hlast, hborn, hplain, hvariable, hname, hday, ?_, ?_, ?_⟩
  · obtain ⟨n, hn, answer, htest, hiff⟩ :=
      ((date_order_iff hon hfirst hlast hborn .below .and).1 hplain).1 _ hday (by decide) (by decide)
    have hzero := (hn 0).1 .epoch
    rw [← hiff.2 (show (-1 : Int64).toInt / 86400000 < n from hzero ▸ by decide)]
    exact htest
  · obtain ⟨answer, htest, hiff⟩ := ((date_order_iff hon hfirst hlast hborn .above .and).1 hplain).2 12 0 0
      (by decide) (by decide) (by decide)
    rw [← hiff.2 (by decide)]
    exact htest
  · exact (date_order_iff hon hfirst hlast hvariable .below .and).2 hname .date (by decide) "1970-01-01" rfl

/-- A column whose name starts with `$` is read as a variable, though it holds the date. -/
theorem date_variable :
    Path.resolve [("$born", .dateTime 0)] (Path.parse "$born") = some (.dateTime 0) ∧
      Calendar.Numbered ⟨1970, 1, 1⟩ ((0 : Int64).toInt / 86400000) ∧
      (⟨1970, 1, 1⟩ : Calendar.Date).text = "1970-01-01" ∧
      test [("$born", .dateTime 0)] ⟨.and, .date "$born" .date "=" (.string "1970-01-01")⟩ =
        Outcome.unsupported "$$born" :=
  ⟨by rfl, .epoch, by decide, by rfl⟩

end Clause

end DocQuery
