import BoundSql.Proofs.Calendar.Digits
import Mathlib.Algebra.BigOperators.Intervals
import Mathlib.Algebra.Order.BigOperators.Group.Finset

/-! # Dates and times in the order of their texts

A date has a number, the days from the start of year one until it. Dates with a year of four digits
compare by their texts as they do by their numbers; times of day, and dates with a time, compare as
they do in time as far as the whole second that is shown. A leap second is shown as one of its own
at the end of a minute, and inside a minute as the second that follows.
-/

namespace BoundSql

namespace Calendar

def daysInYear (year : Int) : Nat :=
  if isLeap year then 366 else 365

/-- The days from the start of year one until `year` starts, negative for the years before. -/
def daysBeforeYear (year : Int) : Int :=
  365 * (year - 1) + (year - 1) / 4 - (year - 1) / 100 + (year - 1) / 400

def daysBeforeMonth (year : Int) (month : Nat) : Nat :=
  ∑ m ∈ Finset.Ico 1 month, daysInMonth year m

theorem daysBeforeYear_succ (year : Int) :
    daysBeforeYear (year + 1) = daysBeforeYear year + daysInYear year := by
  simp only [daysBeforeYear, daysInYear, isLeap, Bool.and_eq_true, Bool.or_eq_true, beq_iff_eq,
    bne_iff_ne]
  split <;> omega

theorem daysBeforeYear_mono {year year' : Int} (h : year ≤ year') :
    daysBeforeYear year ≤ daysBeforeYear year' := by
  induction year', h using Int.leInduction with
  | base => exact Int.le_refl _
  | succ year' h ih =>
    rw [daysBeforeYear_succ]
    omega

theorem daysBeforeMonth_add_le (year : Int) {m n : Nat} (hm : 1 ≤ m) (h : m < n) :
    daysBeforeMonth year m + daysInMonth year m ≤ daysBeforeMonth year n := by
  rw [daysBeforeMonth, ← Finset.sum_Ico_succ_top hm]
  exact Finset.sum_le_sum_of_subset (Finset.Ico_subset_Ico_right h)

theorem daysBeforeMonth_thirteen (year : Int) : daysBeforeMonth year 13 = daysInYear year := by
  simp only [daysBeforeMonth, daysInYear, Finset.sum_Ico_eq_sum_range, Finset.sum_range_succ,
    daysInMonth]
  split <;> simp

end Calendar

open Calendar

namespace Date

/-- The number of a date, which is one for the first day of year one. -/
def dayNumber (d : Date) : Int :=
  daysBeforeYear d.year + daysBeforeMonth d.year d.month + d.day

example : dayNumber ⟨1970, 1, 1⟩ = 719163 := by
  decide +kernel

def Before (d e : Date) : Prop :=
  d.dayNumber < e.dayNumber

instance (d e : Date) : Decidable (d.Before e) :=
  inferInstanceAs (Decidable (_ < _))

/-- A date that has four digits and no sign in its year. -/
def Plain (d : Date) : Prop :=
  d.Exists ∧ 0 ≤ d.year ∧ d.year ≤ 9999

instance (d : Date) : Decidable d.Plain :=
  inferInstanceAs (Decidable (_ ∧ _))

def digits (d : Date) : Nat :=
  (d.year.toNat * 100 + d.month) * 100 + d.day

variable {d e : Date}

theorem daysInMonth_le (year : Int) (month : Nat) : daysInMonth year month ≤ 31 := by
  unfold daysInMonth
  split_ifs <;> omega

theorem Plain.bounds (hd : d.Plain) :
    d.year.toNat < 10 ^ 4 ∧ d.month < 10 ^ 2 ∧ d.day < 10 ^ 2 := by
  obtain ⟨⟨-, -, -, hmonth, -, hday⟩, hyear⟩ := hd
  have hle := daysInMonth_le d.year d.month
  omega

theorem dayNumber_le (hd : d.Exists) {month : Nat} (h : d.month < month) :
    d.dayNumber ≤ daysBeforeYear d.year + daysBeforeMonth d.year month := by
  obtain ⟨-, -, hmonth, -, -, hday⟩ := hd
  have hle := daysBeforeMonth_add_le d.year hmonth h
  rw [dayNumber]
  omega

theorem dayNumber_le_year (hd : d.Exists) {year : Int} (h : d.year < year) :
    d.dayNumber ≤ daysBeforeYear year := by
  obtain ⟨-, -, -, hmonth, -⟩ := id hd
  have hle := dayNumber_le hd (Nat.lt_succ_of_le hmonth)
  have hyear := daysBeforeYear_mono (Int.add_one_le_of_lt h)
  rw [daysBeforeMonth_thirteen] at hle
  rw [daysBeforeYear_succ] at hyear
  omega

theorem lt_dayNumber (hd : d.Exists) :
    daysBeforeYear d.year + daysBeforeMonth d.year d.month < d.dayNumber := by
  have hday := hd.2.2.2.2.1
  rw [dayNumber]
  omega

theorem Plain.year_eq (hd : d.Plain) (he : e.Plain) (h : d.year.toNat = e.year.toNat) :
    d.year = e.year := by
  have hdy := hd.2.1
  have hey := he.2.1
  omega

theorem dayNumber_lt (hd : d.Plain) (he : e.Plain) (h : d.digits < e.digits) :
    d.dayNumber < e.dayNumber := by
  obtain ⟨-, hdm, hdd⟩ := hd.bounds
  obtain ⟨-, hem, hed⟩ := he.bounds
  have hstart := lt_dayNumber he.1
  rcases (mul_add_lt_iff hdd hed).mp h with h | ⟨h, hday⟩
  · rcases (mul_add_lt_iff hdm hem).mp h with h | ⟨h, hmonth⟩
    · have hle := dayNumber_le_year hd.1 (show d.year < e.year by omega)
      omega
    · have hle := dayNumber_le hd.1 hmonth
      rw [hd.year_eq he h] at hle
      omega
  · obtain ⟨hyear, hmonth⟩ := (mul_add_eq_iff hdm hem).mp h
    rw [dayNumber, dayNumber, hd.year_eq he hyear, hmonth]
    omega

theorem digits_eq_iff (hd : d.Plain) (he : e.Plain) : d.digits = e.digits ↔ d = e := by
  refine ⟨fun h => ?_, fun h => by rw [h]⟩
  obtain ⟨-, hdm, hdd⟩ := hd.bounds
  obtain ⟨-, hem, hed⟩ := he.bounds
  obtain ⟨h, hday⟩ := (mul_add_eq_iff hdd hed).mp h
  obtain ⟨hyear, hmonth⟩ := (mul_add_eq_iff hdm hem).mp h
  have hyear := hd.year_eq he hyear
  cases d
  cases e
  simp_all

theorem dayNumber_lt_iff (hd : d.Plain) (he : e.Plain) :
    d.dayNumber < e.dayNumber ↔ d.digits < e.digits := by
  rcases Nat.lt_trichotomy d.digits e.digits with h | h | h
  · exact iff_of_true (dayNumber_lt hd he h) h
  · obtain rfl := (digits_eq_iff hd he).mp h
    simp
  · exact iff_of_false (dayNumber_lt he hd h).not_gt h.not_gt

theorem aligned_toText (hd : d.Plain) (he : e.Plain) :
    Aligned d.toText e.toText d.digits e.digits := by
  obtain ⟨hdy, hdm, hdd⟩ := hd.bounds
  obtain ⟨hey, hem, hed⟩ := he.bounds
  have hyear := (aligned_padded (by decide) hdy hey).append_same "-"
  have hmonth := (hyear.append (aligned_padded (by decide) hdm hem) hdm hem).append_same "-"
  rw [toText, toText, yearText, yearText, if_pos hd.2, if_pos he.2]
  exact hmonth.append (aligned_padded (by decide) hdd hed) hdd hed

end Date

namespace TimeOfDay

/-- The whole seconds since midnight; a leap second counts as the one that it follows. -/
def secondOfDay (t : TimeOfDay) : Nat :=
  (t.hour * 60 + t.minute) * 60 + t.second

def NotAfter (t u : TimeOfDay) : Prop :=
  t.secondOfDay < u.secondOfDay ∨ t.secondOfDay = u.secondOfDay ∧ t.nanosecond ≤ u.nanosecond

instance (t u : TimeOfDay) : Decidable (t.NotAfter u) :=
  inferInstanceAs (Decidable (_ ∨ _))

def IsLeap (t : TimeOfDay) : Prop :=
  nanoseconds ≤ t.nanosecond

/-- The times agree to the whole second, where a leap second is a second of its own. -/
def SameSecond (t u : TimeOfDay) : Prop :=
  t.secondOfDay = u.secondOfDay ∧ (t.IsLeap ↔ u.IsLeap)

instance (t u : TimeOfDay) : Decidable (t.SameSecond u) :=
  inferInstanceAs (Decidable (_ ∧ (_ ≤ _ ↔ _ ≤ _)))

/-- The first is a leap second inside a minute, and the second is no leap second and in the whole
second right behind. -/
def LeadsInto (t u : TimeOfDay) : Prop :=
  (t.IsLeap ∧ t.second ≠ 59) ∧ ¬ u.IsLeap ∧ u.secondOfDay = t.secondOfDay + 1

instance (t u : TimeOfDay) : Decidable (t.LeadsInto u) :=
  inferInstanceAs (Decidable ((_ ≤ _ ∧ _) ∧ ¬ _ ≤ _ ∧ _))

def ShownAlike (t u : TimeOfDay) : Prop :=
  t.SameSecond u ∨ t.LeadsInto u ∨ u.LeadsInto t

instance (t u : TimeOfDay) : Decidable (t.ShownAlike u) :=
  inferInstanceAs (Decidable (_ ∨ _ ∨ _))

def digits (t : TimeOfDay) : Nat :=
  (t.hour * 100 + t.minute) * 100 + t.wholeSecond

variable {t u : TimeOfDay}

theorem Exists.bounds (ht : t.Exists) :
    t.hour < 10 ^ 2 ∧ t.minute < 10 ^ 2 ∧ t.wholeSecond < 10 ^ 2 := by
  simp only [Exists, nanoseconds] at ht
  simp only [wholeSecond, nanoseconds]
  omega

theorem aligned_toText (ht : t.Exists) (hu : u.Exists) :
    Aligned t.toText u.toText t.digits u.digits := by
  obtain ⟨hth, htm, hts⟩ := ht.bounds
  obtain ⟨huh, hum, hus⟩ := hu.bounds
  have hhour := (aligned_padded (by decide) hth huh).append_same ":"
  have hminute := (hhour.append (aligned_padded (by decide) htm hum) htm hum).append_same ":"
  exact hminute.append (aligned_padded (by decide) hts hus) hts hus

theorem digits_eq_iff (ht : t.Exists) (hu : u.Exists) : t.digits = u.digits ↔ t.ShownAlike u := by
  simp only [Exists, nanoseconds] at ht hu
  simp only [digits, wholeSecond, ShownAlike, SameSecond, LeadsInto, secondOfDay, IsLeap,
    nanoseconds]
  omega

theorem digits_le_iff (ht : t.Exists) (hu : u.Exists) :
    t.digits ≤ u.digits ↔ t.NotAfter u ∨ t.ShownAlike u := by
  simp only [Exists, nanoseconds] at ht hu
  simp only [digits, wholeSecond, NotAfter, ShownAlike, SameSecond, LeadsInto, secondOfDay, IsLeap,
    nanoseconds]
  omega

theorem digits_lt (ht : t.Exists) : t.digits < 1000000 := by
  obtain ⟨hhour, hminute, hsecond⟩ := ht.bounds
  rw [digits]
  omega

end TimeOfDay

namespace DateTime

def Plain (m : DateTime) : Prop :=
  m.date.Plain ∧ m.time.Exists

instance (m : DateTime) : Decidable m.Plain :=
  inferInstanceAs (Decidable (_ ∧ _))

def NotAfter (m n : DateTime) : Prop :=
  m.date.Before n.date ∨ m.date = n.date ∧ m.time.NotAfter n.time

def ShownAlike (m n : DateTime) : Prop :=
  m.date = n.date ∧ m.time.ShownAlike n.time

def digits (m : DateTime) : Nat :=
  m.date.digits * 1000000 + m.time.digits

variable {m n : DateTime}

theorem aligned_toText (hm : m.Plain) (hn : n.Plain) :
    Aligned m.toText n.toText m.digits n.digits :=
  ((Date.aligned_toText hm.1 hn.1).append_same " ").append (TimeOfDay.aligned_toText hm.2 hn.2)
    (TimeOfDay.digits_lt hm.2) (TimeOfDay.digits_lt hn.2)

theorem digits_eq_iff (hm : m.Plain) (hn : n.Plain) : m.digits = n.digits ↔ m.ShownAlike n := by
  rw [digits, digits, mul_add_eq_iff (TimeOfDay.digits_lt hm.2) (TimeOfDay.digits_lt hn.2),
    TimeOfDay.digits_eq_iff hm.2 hn.2, Date.digits_eq_iff hm.1 hn.1, ShownAlike]

theorem digits_le_iff (hm : m.Plain) (hn : n.Plain) :
    m.digits ≤ n.digits ↔ m.NotAfter n ∨ m.ShownAlike n := by
  rw [digits, digits, mul_add_le_iff (TimeOfDay.digits_lt hm.2) (TimeOfDay.digits_lt hn.2),
    Date.digits_eq_iff hm.1 hn.1, ← Date.dayNumber_lt_iff hm.1 hn.1,
    TimeOfDay.digits_le_iff hm.2 hn.2, and_or_left, ← or_assoc]
  rfl

end DateTime

def Value.TextBefore : Value → Value → Prop
  | .text s, .text t => s < t
  | _, _ => False

def Value.TextNotAfter : Value → Value → Prop
  | .text s, .text t => s ≤ t
  | _, _ => False

namespace Calendar

/-- Dates with a year of four digits are before one another exactly if their texts are, and equal if
their texts are. The text of a time of day, or of a date with a time, is not after another one
exactly if the time is not after the other one or is shown as it is, and the texts are equal exactly
if the times are shown alike: they agree to the whole second, or one is a leap second inside a
minute and the other in the second that follows. -/
theorem texts_sort_in_time :
    (∀ d e : Date, d.Plain → e.Plain →
      (d.Before e ↔ d.toValue.TextBefore e.toValue) ∧ (d.toValue = e.toValue ↔ d = e)) ∧
    (∀ t u : TimeOfDay, t.Exists → u.Exists →
      (t.toValue.TextNotAfter u.toValue ↔ t.NotAfter u ∨ t.ShownAlike u) ∧
      (t.toValue = u.toValue ↔ t.ShownAlike u)) ∧
    ∀ m n : DateTime, m.Plain → n.Plain →
      (m.toValue.TextNotAfter n.toValue ↔ m.NotAfter n ∨ m.ShownAlike n) ∧
      (m.toValue = n.toValue ↔ m.ShownAlike n) := by
  refine ⟨fun d e hd he => ?_, fun t u ht hu => ?_, fun m n hm hn => ?_⟩
  · have h := Date.aligned_toText hd he
    exact ⟨(Date.dayNumber_lt_iff hd he).trans h.lt_iff.symm,
      Value.text.injEq _ _ ▸ h.eq_iff.trans (Date.digits_eq_iff hd he)⟩
  · have h := TimeOfDay.aligned_toText ht hu
    exact ⟨h.le_iff.trans (TimeOfDay.digits_le_iff ht hu),
      Value.text.injEq _ _ ▸ h.eq_iff.trans (TimeOfDay.digits_eq_iff ht hu)⟩
  · have h := DateTime.aligned_toText hm hn
    exact ⟨h.le_iff.trans (DateTime.digits_le_iff hm hn),
      Value.text.injEq _ _ ▸ h.eq_iff.trans (DateTime.digits_eq_iff hm hn)⟩

/-- A leap day at one end of the range and the last day at the other, a leap second behind the last
instant of its minute, and one inside a minute. -/
theorem texts_sort_in_time_of_leap_seconds :
    let d : Date := ⟨0, 2, 29⟩
    let e : Date := ⟨9999, 12, 31⟩
    let t : TimeOfDay := ⟨12, 59, 59, 999999999⟩
    let u : TimeOfDay := ⟨12, 59, 59, 1500000000⟩
    let v : TimeOfDay := ⟨12, 59, 58, 1999999999⟩
    (d.Plain ∧ e.Plain) ∧ (t.Exists ∧ u.Exists ∧ v.Exists) ∧ d.toText = "0000-02-29" ∧
      u.toText = "12:59:60" ∧ d.toValue.TextBefore e.toValue ∧
      t.toValue.TextNotAfter u.toValue ∧ t.toValue ≠ u.toValue ∧ v.toValue = t.toValue ∧
      (DateTime.mk d u).toValue.TextNotAfter (DateTime.mk e t).toValue := by
  intro d e t u v
  have hd : d.Plain := by decide
  have he : e.Plain := by decide
  have ht : t.Exists := by decide
  have hu : u.Exists := by decide
  have hv : v.Exists := by decide
  have hbefore : d.Before e := by decide +kernel
  have hnotAfter : t.NotAfter u := by decide
  have hother : ¬ t.ShownAlike u := by decide
  have hinside : v.ShownAlike t := by decide
  obtain ⟨hdates, htimes, hmoments⟩ := texts_sort_in_time
  exact ⟨⟨hd, he⟩, ⟨ht, hu, hv⟩, by decide +kernel, by decide +kernel,
    (hdates d e hd he).1.mp hbefore, (htimes t u ht hu).1.mpr (.inl hnotAfter),
    mt (htimes t u ht hu).2.mp hother, (htimes v t hv ht).2.mpr hinside,
    (hmoments ⟨d, u⟩ ⟨e, t⟩ ⟨hd, hu⟩ ⟨he, ht⟩).1.mpr (.inl (.inl hbefore))⟩

/-- A leap second inside a minute has no second of its own in its text. -/
theorem leap_second_shown_as_next :
    let t : TimeOfDay := ⟨20, 19, 23, 1000000000⟩
    let u : TimeOfDay := ⟨20, 19, 24, 0⟩
    t.Exists ∧ u.Exists ∧ t.toValue = .text "20:19:24" ∧ t.toValue = u.toValue ∧
      ¬ t.SameSecond u := by
  decide +kernel

end Calendar

end BoundSql
