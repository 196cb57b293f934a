import DocQuery.Calendar
import Mathlib.Tactic.IntervalCases
import Mathlib.Tactic.Ring

/-!
# Days of the calendar

The calendar is a succession of days: each is followed by the next of its month, the last of a month by the first of
the next one.  `Numbered d n` counts them from 1970-01-01, forth and back, and says nothing of the formulas.
`dayNumber` gives a day the number that it is counted as, and `ofDayNumber` the day of a number:

    Numbered d n ↔ d.Valid ∧ dayNumber d = n               (numbered_iff)
    Numbered d n → ofDayNumber n = d                        (Numbered.ofDayNumber_eq)

A day with a larger number is a later day, by its year, its month and its day:

    Numbered d m → Numbered e n → m < n → d.Before e        (Numbered.before)
-/

namespace DocQuery.Calendar

/-! ## The succession of days -/

/-- Every fourth year has a leap day, but of the full centuries only every fourth. -/
def IsLeap (year : Int) : Prop := 4 ∣ year ∧ (100 ∣ year → 400 ∣ year)

instance (year : Int) : Decidable (IsLeap year) := inferInstanceAs (Decidable (_ ∧ _))

def daysIn (year : Int) : Nat → Nat
  | 2 => if IsLeap year then 29 else 28
  | 4 | 6 | 9 | 11 => 30
  | _ => 31

namespace Date

/-- A day that the calendar has. -/
structure Valid (d : Date) : Prop where
  month_pos : 1 ≤ d.month
  month_le : d.month ≤ 12
  day_pos : 1 ≤ d.day
  day_le : d.day ≤ daysIn d.year d.month

/-- The day after. -/
def next (d : Date) : Date :=
  if d.day < daysIn d.year d.month then ⟨d.year, d.month, d.day + 1⟩
  else if d.month < 12 then ⟨d.year, d.month + 1, 1⟩
  else ⟨d.year + 1, 1, 1⟩

/-- The order of years, then of months, then of days. -/
def Before (d e : Date) : Prop :=
  d.year < e.year ∨ d.year = e.year ∧ (d.month < e.month ∨ d.month = e.month ∧ d.day < e.day)

end Date

/-- The number of a day, counted from 1970-01-01. -/
inductive Numbered : Date → Int → Prop where
  | epoch : Numbered ⟨1970, 1, 1⟩ 0
  | next {d : Date} {n : Int} (h : Numbered d n) : Numbered d.next (n + 1)
  | previous {d : Date} {n : Int} (hd : d.Valid) (h : Numbered d.next (n + 1)) : Numbered d n

theorem daysIn_pos (year : Int) (month : Nat) : 1 ≤ daysIn year month := by
  unfold daysIn
  split
  · split <;> decide
  all_goals decide

theorem daysIn_le (year : Int) (month : Nat) : daysIn year month ≤ 31 := by
  unfold daysIn
  split
  · split <;> decide
  all_goals decide

namespace Date

variable {d e f : Date}

theorem Valid.next (h : d.Valid) : d.next.Valid := by
  obtain ⟨hm, hm', hd, hd'⟩ := h
  unfold Date.next
  split
  · rename_i hday
    exact ⟨hm, hm', Nat.le_add_left _ _, hday⟩
  · split
    · rename_i hmonth
      exact ⟨Nat.le_add_left _ _, hmonth, le_refl 1, daysIn_pos _ _⟩
    · exact ⟨le_refl 1, Nat.le_add_left 1 11, le_refl 1, daysIn_pos _ _⟩

/-- Every day of the calendar comes after one. -/
theorem Valid.exists_next_eq (h : d.Valid) : ∃ p : Date, p.Valid ∧ p.next = d := by
  obtain ⟨year, month, day⟩ := d
  obtain ⟨hm, hm', hd, hd'⟩ := h
  dsimp only at hm hm' hd hd'
  by_cases hday : 1 < day
  · refine ⟨⟨year, month, day - 1⟩, ⟨hm, hm', Nat.le_sub_of_add_le hday, (Nat.sub_le _ _).trans hd'⟩, ?_⟩
    rw [Date.next, if_pos (by dsimp only; omega)]
    dsimp only
    rw [Nat.sub_add_cancel hd]
  · obtain rfl : day = 1 := by omega
    by_cases hmonth : 1 < month
    · refine ⟨⟨year, month - 1, daysIn year (month - 1)⟩,
        ⟨Nat.le_sub_of_add_le hmonth, (Nat.sub_le _ _).trans hm', daysIn_pos _ _, le_refl _⟩, ?_⟩
      rw [Date.next, if_neg (lt_irrefl _), if_pos (by dsimp only; omega)]
      dsimp only
      rw [Nat.sub_add_cancel hm]
    · obtain rfl : month = 1 := by omega
      refine ⟨⟨year - 1, 12, 31⟩, ⟨Nat.le_add_left 1 11, le_refl _, Nat.le_add_left 1 30, le_refl 31⟩, ?_⟩
      show (⟨year - 1 + 1, 1, 1⟩ : Date) = _
      rw [Int.sub_add_cancel]

theorem before_next (d : Date) : d.Before d.next := by
  unfold Date.next
  split
  · exact .inr ⟨rfl, .inr ⟨rfl, Nat.lt_succ_self _⟩⟩
  · split
    · exact .inr ⟨rfl, .inl (Nat.lt_succ_self _)⟩
    · exact .inl (Int.lt_succ _)

theorem Before.trans (h : d.Before e) (h' : e.Before f) : d.Before f := by
  unfold Before at *
  omega

end Date

/-! ## The number of a day -/

/-- The year that a day is counted in, from March. -/
def yearFromMarch (d : Date) : Int := if d.month ≤ 2 then d.year - 1 else d.year

/-- Days up to the March of a year. -/
def daysToMarch (year : Int) : Int := 365 * year + year / 4 - year / 100 + year / 400

/-- Days from the first of March to the first of a month. -/
def daysFromMarch (month : Nat) : Int := (153 * ((month + 9) % 12 : Nat) + 2) / 5

/-- Days from the first of March to a day. -/
def placeInYear (d : Date) : Int := daysFromMarch d.month + d.day - 1

theorem dayNumber_eq (d : Date) :
    dayNumber d = daysToMarch (yearFromMarch d) + placeInYear d - 719468 := by
  unfold dayNumber placeInYear daysToMarch yearFromMarch daysFromMarch
  dsimp only
  rw [Int.fdiv_eq_ediv_of_nonneg _ (by decide)]
  generalize (if d.month ≤ 2 then d.year - 1 else d.year) = y
  omega

theorem daysToMarch_eq (year : Int) :
    daysToMarch year = daysToMarch (year - 1) + (if IsLeap year then 366 else 365) := by
  unfold daysToMarch
  by_cases h : IsLeap year
  · rw [if_pos h]
    unfold IsLeap at h
    omega
  · rw [if_neg h]
    unfold IsLeap at h
    omega

theorem daysFromMarch_succ (year : Int) {month : Nat} (hm : 1 ≤ month) (hm' : month < 12) (h : month ≠ 2) :
    daysFromMarch (month + 1) = daysFromMarch month + daysIn year month := by
  interval_cases month
  · rfl
  · exact absurd rfl h
  all_goals rfl

/-- The day after has the next number. -/
theorem dayNumber_next {d : Date} (h : d.Valid) : dayNumber d.next = dayNumber d + 1 := by
  obtain ⟨year, month, day⟩ := d
  obtain ⟨hm, hm', hd, hd'⟩ := h
  dsimp only at hm hm' hd hd'
  unfold Date.next
  dsimp only
  split
  · rw [dayNumber_eq, dayNumber_eq]
    unfold yearFromMarch placeInYear
    push_cast
    ring
  · rename_i hday
    obtain rfl : day = daysIn year month := by omega
    split
    · rename_i hmonth
      by_cases h2 : month = 2
      · subst h2
        have hleap := daysToMarch_eq year
        rw [dayNumber_eq, dayNumber_eq]
        have hmarch : daysFromMarch 3 = 0 := rfl
        have hfebruary : daysFromMarch 2 = 337 := rfl
        show daysToMarch year + (daysFromMarch 3 + 1 - 1) - 719468 =
          daysToMarch (year - 1) + (daysFromMarch 2 + (daysIn year 2 : Nat) - 1) - 719468 + 1
        rw [hleap, hmarch, hfebruary, daysIn]
        split <;> omega
      · have hyear : yearFromMarch ⟨year, month + 1, 1⟩ = yearFromMarch ⟨year, month, daysIn year month⟩ := by
          unfold yearFromMarch
          dsimp only
          split <;> split <;> omega
        rw [dayNumber_eq, dayNumber_eq, hyear]
        unfold placeInYear
        dsimp only
        rw [daysFromMarch_succ year hm hmonth h2]
        omega
    · rename_i hmonth
      obtain rfl : month = 12 := by omega
      have hjanuary : daysFromMarch 1 = 306 := rfl
      have hdecember : daysFromMarch 12 = 275 := rfl
      rw [dayNumber_eq, dayNumber_eq]
      show daysToMarch (year + 1 - 1) + (daysFromMarch 1 + 1 - 1) - 719468 =
        daysToMarch year + (daysFromMarch 12 + 31 - 1) - 719468 + 1
      rw [Int.add_sub_cancel, hjanuary, hdecember]
      ring

/-! ## The day of a number -/

/-- A year in its era: the century of the era, the four years in the century and the year in these. -/
structure InEra (year era century four one : Int) : Prop where
  eq : year = 400 * era + (100 * century + 4 * four + one)
  century : 0 ≤ century ∧ century ≤ 3
  four : 0 ≤ four ∧ four ≤ 24
  one : 0 ≤ one ∧ one ≤ 3

theorem exists_inEra (year : Int) : ∃ era century four one, InEra year era century four one :=
  ⟨year / 400, year % 400 / 100, year % 100 / 4, year % 4, by omega, by omega, by omega, by omega⟩

namespace InEra

variable {year era c q r n p : Int}

theorem daysToMarch_eq (h : InEra year era c q r) :
    daysToMarch year = 146097 * era + (36524 * c + 1461 * q + 365 * r) := by
  obtain ⟨rfl, hc, hq, hr⟩ := h
  unfold daysToMarch
  have h4 : (400 * era + (100 * c + 4 * q + r)) / 4 = 100 * era + 25 * c + q := by omega
  have h100 : (400 * era + (100 * c + 4 * q + r)) / 100 = 4 * era + c := by omega
  have h400 : (400 * era + (100 * c + 4 * q + r)) / 400 = era := by omega
  rw [h4, h100, h400]
  ring

/-- A year before a leap year is the last of four, but of the last four of a century only in the last century. -/
theorem last_of_isLeap (h : InEra year era c q r) (hleap : IsLeap (year + 1)) : r = 3 ∧ (q = 24 → c = 3) := by
  obtain ⟨rfl, hc, hq, hr⟩ := h
  unfold IsLeap at hleap
  omega

/-- A day of the era falls in the year that it is a day of. -/
theorem yearOfEra_eq (h : InEra year era c q r) (hn : n = 36524 * c + 1461 * q + 365 * r + p) (hp : 0 ≤ p)
    (hp' : p ≤ 365) (hlast : p = 365 → IsLeap (year + 1)) :
    (n - n / 1460 + n / 36524 - n / 146096) / 365 = 100 * c + 4 * q + r := by
  have hlast' : p = 365 → r = 3 ∧ (q = 24 → c = 3) := fun he => h.last_of_isLeap (hlast he)
  obtain ⟨-, hc, hq, hr⟩ := h
  have hcentury : n / 36524 - n / 146096 = c := by
    rcases lt_or_ge n 146096 with h | h
    · have hlast : n / 146096 = 0 := by omega
      have hdiv : n / 36524 = c := by omega
      omega
    · omega
  have hleap : n / 1460 = 25 * c + q + (if 24 * c + q + 365 * r + p < 1460 then 0 else 1) := by
    split <;> omega
  rw [add_sub_assoc, hcentury, hleap]
  split <;> omega

theorem dayOfYear_eq (h : InEra year era c q r) :
    36524 * c + 1461 * q + 365 * r + p -
      (365 * (100 * c + 4 * q + r) + (100 * c + 4 * q + r) / 4 - (100 * c + 4 * q + r) / 100) = p := by
  obtain ⟨-, hc, hq, hr⟩ := h
  rw [show (100 * c + 4 * q + r) / 4 = 25 * c + q by omega, show (100 * c + 4 * q + r) / 100 = c by omega]
  ring

/-- The days of an era fill it. -/
theorem era_eq (h : InEra year era c q r) (hp : 0 ≤ p) (hp' : p ≤ 365) (hlast : p = 365 → IsLeap (year + 1)) :
    (daysToMarch year + p) / 146097 = era := by
  have hlast' : p = 365 → r = 3 ∧ (q = 24 → c = 3) := fun he => h.last_of_isLeap (hlast he)
  rw [h.daysToMarch_eq]
  obtain ⟨-, hc, hq, hr⟩ := h
  omega

end InEra

/-- A month ends where the next one starts, and the year with the leap day. -/
theorem placeInYear_lt {d : Date} (h : d.Valid) :
    placeInYear d < (153 * (((d.month + 9) % 12 : Nat) + 1) + 2) / 5 ∧ placeInYear d ≤ 365 := by
  obtain ⟨year, month, day⟩ := d
  obtain ⟨hm, hm', hd, hd'⟩ := h
  unfold placeInYear
  dsimp only at hm hm' hd hd' ⊢
  by_cases h2 : month = 2
  · subst h2
    have hday : day ≤ 29 := by
      refine hd'.trans ?_
      rw [daysIn]
      split <;> decide
    unfold daysFromMarch
    omega
  · by_cases h12 : month = 12
    · subst h12
      have hday : day ≤ 31 := hd'
      unfold daysFromMarch
      omega
    · have hsucc := daysFromMarch_succ year hm (by omega) h2
      unfold daysFromMarch at hsucc ⊢
      omega

theorem placeInYear_nonneg {d : Date} (h : d.Valid) : 0 ≤ placeInYear d := by
  have hd := h.day_pos
  unfold placeInYear daysFromMarch
  omega

/-- The month of a place in the year. -/
theorem monthOfYear_eq {d : Date} (h : d.Valid) : (5 * placeInYear d + 2) / 153 = ((d.month + 9) % 12 : Nat) := by
  have hlt := (placeInYear_lt h).1
  have hd := h.day_pos
  unfold placeInYear daysFromMarch at *
  omega

/-- Only a leap day has the last place in a year from March. -/
theorem isLeap_of_placeInYear {d : Date} (h : d.Valid) (hlast : placeInYear d = 365) :
    IsLeap (yearFromMarch d + 1) := by
  have hlt := (placeInYear_lt h).1
  obtain ⟨year, month, day⟩ := d
  obtain ⟨hm, hm', hd, hd'⟩ := h
  dsimp only at hm hm' hd hd' hlt
  obtain rfl : month = 2 := by omega
  have hyear : yearFromMarch ⟨year, 2, day⟩ + 1 = year := Int.sub_add_cancel year 1
  rw [hyear]
  by_contra hleap
  rw [daysIn, if_neg hleap] at hd'
  unfold placeInYear daysFromMarch at hlast
  dsimp only at hlast
  omega

/-- The year, the month and the day of a place in a year from March. -/
theorem eq_of_placeInYear {d : Date} (h : d.Valid) {month : Int} (hmonth : month = ((d.month + 9) % 12 : Nat)) :
    let found := if month < 10 then month + 3 else month - 9
    (⟨if found ≤ 2 then yearFromMarch d + 1 else yearFromMarch d, found.toNat,
      (placeInYear d - (153 * month + 2) / 5 + 1).toNat⟩ : Date) = d := by
  intro found
  obtain ⟨hm, hm', hd, -⟩ := h
  have hfound : found = d.month := by
    show (if month < 10 then month + 3 else month - 9) = _
    split <;> omega
  have hyear : (if (d.month : Int) ≤ 2 then yearFromMarch d + 1 else yearFromMarch d) = d.year := by
    unfold yearFromMarch
    split <;> split <;> omega
  have hday : placeInYear d - (153 * month + 2) / 5 + 1 = d.day := by
    unfold placeInYear daysFromMarch
    rw [hmonth]
    ring
  rw [hfound, hyear, hday, Int.toNat_natCast, Int.toNat_natCast]

/-- The day of the number of a day is that day. -/
theorem ofDayNumber_dayNumber {d : Date} (h : d.Valid) : ofDayNumber (dayNumber d) = d := by
  have hp := placeInYear_nonneg h
  have hp' := (placeInYear_lt h).2
  have hlast := isLeap_of_placeInYear h
  have hmonth := monthOfYear_eq h
  have hfound := eq_of_placeInYear h rfl
  obtain ⟨era, c, q, r, hera⟩ := exists_inEra (yearFromMarch d)
  have hdays : dayNumber d + 719468 = daysToMarch (yearFromMarch d) + placeInYear d := by
    rw [dayNumber_eq]
    ring
  have hdayOfEra : daysToMarch (yearFromMarch d) + placeInYear d - era * 146097 =
      36524 * c + 1461 * q + 365 * r + placeInYear d := by
    rw [hera.daysToMarch_eq]
    ring
  have hdayOfYear := hera.dayOfYear_eq (p := placeInYear d)
  have hyear : 100 * c + 4 * q + r + era * 400 = yearFromMarch d := by
    rw [hera.eq]
    ring
  unfold ofDayNumber
  dsimp only
  rw [hdays, Int.fdiv_eq_ediv_of_nonneg _ (by decide), hera.era_eq hp hp' hlast, hdayOfEra,
    hera.yearOfEra_eq rfl hp hp' hlast, hdayOfYear, hyear, hmonth]
  exact hfound

/-! ## Numbered days -/

variable {d e : Date} {m n : Int}

theorem Numbered.valid (h : Numbered d n) : d.Valid ∧ dayNumber d = n := by
  induction h with
  | epoch => exact ⟨⟨by decide, by decide, by decide, by decide⟩, by decide⟩
  | next _ ih => exact ⟨ih.1.next, (dayNumber_next ih.1).trans (congrArg (· + 1) ih.2)⟩
  | previous hd _ ih => exact ⟨hd, add_right_cancel ((dayNumber_next hd).symm.trans ih.2)⟩

theorem Numbered.ofDayNumber_eq (h : Numbered d n) : ofDayNumber n = d := by
  rw [← h.valid.2, ofDayNumber_dayNumber h.valid.1]

/-- Every number is that of a day. -/
theorem numbered_ofDayNumber (n : Int) : Numbered (ofDayNumber n) n := by
  induction n using Int.induction_on with
  | zero => exact .epoch
  | succ n ih =>
    have hnext := ih.next
    rwa [← hnext.ofDayNumber_eq] at hnext
  | pred n ih =>
    obtain ⟨p, hp, hnext⟩ := ih.valid.1.exists_next_eq
    have hprevious : Numbered p (-n - 1) := by
      refine .previous hp ?_
      rwa [hnext, Int.sub_add_cancel]
    rwa [← hprevious.ofDayNumber_eq] at hprevious

/-- A day of the calendar has one number. -/
theorem numbered_iff : Numbered d n ↔ d.Valid ∧ dayNumber d = n := by
  refine ⟨Numbered.valid, ?_⟩
  rintro ⟨hd, rfl⟩
  have h := numbered_ofDayNumber (dayNumber d)
  rwa [ofDayNumber_dayNumber hd] at h

theorem before_of_lt {m n : Int} (h : m < n) : (ofDayNumber m).Before (ofDayNumber n) := by
  induction n, h using Int.leInduction with
  | base =>
    rw [(numbered_ofDayNumber m).next.ofDayNumber_eq]
    exact Date.before_next _
  | succ n _ ih =>
    rw [(numbered_ofDayNumber n).next.ofDayNumber_eq]
    exact ih.trans (Date.before_next _)

/-- A day with a larger number is a later one. -/
theorem Numbered.before (hd : Numbered d m) (he : Numbered e n) (h : m < n) : d.Before e := by
  have := before_of_lt h
  rwa [hd.ofDayNumber_eq, he.ofDayNumber_eq] at this

end DocQuery.Calendar
