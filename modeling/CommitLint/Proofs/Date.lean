import CommitLint.Date
import CommitLint.Proofs.Text.Pieces
import Mathlib

/-!
# Dates are read back

The text of a date and a time of day stands for the point in time that it was made of
(`ofText?_rfc3339`), in whatever year and to a billionth of a second.

A day is made from a count of days by way of eras of 400 years and of years that begin in March.
`Day.days` counts the other way, and as the calendar itself has it, by the lengths of the years and
the months before the day; that the two agree is `days_ofDays`. All it needs to know of the
divisions by 1460, 36524 and 146096 days is that they put a day into the right year of its era
(`year_bounds`).
-/

namespace CommitLint.Date

/-! ### The calendar -/

/-- Whether a year has a leap day. -/
def isLeap (year : Int) : Bool := year % 4 = 0 ∧ (year % 100 ≠ 0 ∨ year % 400 = 0)

/-- The lengths of the months of a year. -/
def monthLengths (leap : Bool) : List Nat :=
  [31, if leap then 29 else 28, 31, 30, 31, 30, 31, 31, 30, 31, 30, 31]

/-- The number of days of a year before a month. -/
def daysBefore (leap : Bool) (month : Nat) : Nat :=
  ((monthLengths leap).take (month - 1)).foldr (· + ·) 0

/-- The number of days from the first of January 1970 to a day: those of the years and the months
before it, and those before it in its month. -/
def Day.days (d : Day) : Int :=
  let before := d.year - 1
  365 * before + before / 4 - before / 100 + before / 400 +
    daysBefore (isLeap d.year) d.month + d.day - 719163

/-- The century of a year in its era. -/
theorem century_eq {d y : Nat} (hd : d < 146097)
    (hy : y = (d - d / 1460 + d / 36524 - d / 146096) / 365) :
    y / 100 = d / 36524 - d / 146096 := by
  -- An era has four centuries of 36524 days each, and one day more.
  obtain h | h | h | h | h : d / 36524 = 0 ∨ d / 36524 = 1 ∨ d / 36524 = 2 ∨ d / 36524 = 3 ∨
      d / 36524 = 4 := by omega
  all_goals
    rw [h] at hy ⊢
    omega

/-- A day belongs to the year of its era that it is counted to. -/
theorem year_bounds {d y : Nat} (hd : d < 146097)
    (hy : y = (d - d / 1460 + d / 36524 - d / 146096) / 365) :
    y < 400 ∧ 365 * y + y / 4 - y / 100 ≤ d ∧ d < 365 * y + y / 4 - y / 100 + 366 := by
  have hcentury := century_eq hd hy
  -- Four years have 1461 days, not 1460, so the count of such cycles can run ahead of the year.
  obtain hfour | hfour : y / 4 = d / 1460 ∨ y + 1 = 4 * (d / 1460) := by omega
  · exact ⟨by omega, by omega, by omega⟩
  · exact ⟨by omega, by omega, by omega⟩

/-- A leap day is counted with the years from the year after it. -/
theorem leapDays_eq (year : Int) :
    (year - 1) / 4 - (year - 1) / 100 + (year - 1) / 400 + (if isLeap year then 1 else 0) =
      year / 4 - year / 100 + year / 400 := by
  have hleap : isLeap year ↔ year % 4 = 0 ∧ (year % 100 ≠ 0 ∨ year % 400 = 0) := by
    simp [isLeap]
  split_ifs with h
  · rw [hleap] at h
    omega
  · rw [hleap] at h
    omega

/-- The number of days before a month, from the number of days before it since March. -/
theorem daysBefore_eq (leap : Bool) {m : Nat} (hm : m < 12) :
    daysBefore leap (if m < 10 then m + 3 else m - 9) + 306 =
      (153 * m + 2) / 5 + if m < 10 then 365 + if leap then 1 else 0 else 0 := by
  revert m leap
  decide

/-- The days before a day of a year that is counted from March. -/
theorem days_eq {era : Int} {y m day : Nat} (hy : y < 400) (hm : m < 12) :
    Day.days
      { year := era * 400 + (y : Int) + if (if m < 10 then m + 3 else m - 9) ≤ 2 then 1 else 0
        month := if m < 10 then m + 3 else m - 9
        day := day } =
      era * 146097 + (365 * y + y / 4 - y / 100 : Nat) + ((153 * m + 2) / 5 : Nat) + day -
        719469 := by
  rw [Day.days]
  dsimp only
  generalize hyear : era * 400 + (y : Int) +
    (if (if m < 10 then m + 3 else m - 9) ≤ 2 then 1 else 0) = year
  have hleap := leapDays_eq year
  have hmonths := daysBefore_eq (isLeap year) hm
  generalize daysBefore (isLeap year) _ = months at hmonths ⊢
  generalize isLeap year = leap at hleap hmonths
  by_cases hmarch : m < 10
  · have hmonth : ¬ m + 3 ≤ 2 := by omega
    simp only [if_pos hmarch, if_neg hmonth] at hyear hmonths
    cases leap with
    | true =>
      simp only [if_true] at hleap hmonths
      omega
    | false =>
      simp only [if_neg Bool.false_ne_true] at hleap hmonths
      omega
  · -- January and February stand before the leap day of their year.
    have hmonth : m - 9 ≤ 2 := by omega
    simp only [if_neg hmarch, if_pos hmonth] at hyear hmonths
    omega

theorem days_ofDays (n : Int) : (ofDays n).days = n := by
  have hera : (n + 719468).fdiv 146097 = (n + 719468) / 146097 :=
    Int.fdiv_eq_ediv_of_nonneg _ (by decide)
  have hday : (n + 719468).fmod 146097 = (n + 719468) % 146097 :=
    Int.fmod_eq_emod_of_nonneg _ (by decide)
  rw [ofDays, hera, hday]
  obtain ⟨dayOfEra, hdayOfEra⟩ : ∃ d : Nat, ((n + 719468) % 146097).toNat = d := ⟨_, rfl⟩
  obtain ⟨yearOfEra, hyearOfEra⟩ : ∃ y : Nat,
    y = (dayOfEra - dayOfEra / 1460 + dayOfEra / 36524 - dayOfEra / 146096) / 365 := ⟨_, rfl⟩
  obtain ⟨hyear, hstart, hend⟩ := year_bounds (by omega) hyearOfEra
  simp only [hdayOfEra, ← hyearOfEra]
  rw [days_eq hyear (by omega)]
  omega

/-! ### The text of a date -/

/-- The number that some digits stand for. -/
def number (s : List Char) : Nat := Nat.ofDigitChars 10 s 0

/-- The sign before a number, as a factor, and what follows it. -/
def sign : List Char → Int × List Char
  | '-' :: s => (-1, s)
  | '+' :: s => (1, s)
  | s => (1, s)

/-- How an offset of no time from the standard is written. -/
def noOffset : List Char := "+00:00".toList

/-- The part of a second that some digits stand for, in billionths. -/
def nanos? (digits : List Char) : Option (Fin 1000000000) :=
  if h : number digits * 10 ^ (9 - digits.length) < 1000000000 then some ⟨_, h⟩ else none

/-- The part of a second that stands between the seconds and the offset, if one does. -/
def fraction? : List Char → Option (Fin 1000000000)
  | '.' :: rest =>
    match Text.cutAt '+' rest with
    | some (digits, ['0', '0', ':', '0', '0']) => nanos? digits
    | _ => none
  | text => if text = noOffset then some 0 else none

/-- The point in time that the text of a date and a time of day stands for. -/
def ofText? (text : List Char) : Option Instant :=
  match Text.cutAt '-' (sign text).2 with
  | some (y, m :: m' :: '-' :: d :: d' :: 'T' :: h :: h' :: ':' :: i :: i' :: ':' :: s :: s' ::
      rest) =>
    let day : Day := ⟨(sign text).1 * number y, number [m, m'], number [d, d']⟩
    let time := (number [h, h'] * 60 + number [i, i']) * 60 + number [s, s']
    (fraction? rest).map fun nanos => ⟨day.days * daySeconds + time, nanos⟩
  | _ => none

theorem toList_pushn (s : String) (c : Char) (n : Nat) :
    (s.pushn c n).toList = s.toList ++ List.replicate n c := by
  rw [String.pushn_eq_repeat_push]
  induction n with
  | zero => simp [Nat.repeat]
  | succ n ih =>
    rw [Nat.repeat, String.toList_push, ih, List.append_assoc, List.replicate_succ']

theorem toList_padded (width n : Nat) :
    (padded width n).toList =
      List.replicate (width - (Nat.toDigits 10 n).length) '0' ++ Nat.toDigits 10 n := by
  have hdigits : (toString n).toList = Nat.toDigits 10 n := by
    rw [Nat.toString_eq_ofList_toDigits, String.toList_ofList]
  rw [padded, String.toList_append, toList_pushn, String.toList_empty, List.nil_append, hdigits,
    ← String.length_toList, hdigits]

theorem number_padded (width n : Nat) : number (padded width n).toList = n := by
  rw [toList_padded, number, Nat.ofDigitChars_append, Nat.ofDigitChars_replicate_zero, Nat.mul_zero,
    Nat.ofDigitChars_ten_toDigits]

theorem length_padded {width n : Nat} (hwidth : 0 < width) (h : n < 10 ^ width) :
    (padded width n).toList.length = width := by
  have hlength : (Nat.toDigits 10 n).length ≤ width :=
    (Nat.length_toDigits_le_iff (by decide) hwidth).mpr h
  rw [toList_padded, List.length_append, List.length_replicate]
  omega

/-- Two digits that stand for a number below 100. -/
theorem exists_padded {n : Nat} (h : n < 100) :
    ∃ c d, (padded 2 n).toList = [c, d] ∧ number [c, d] = n := by
  obtain ⟨c, d, hpadded⟩ := List.length_eq_two.mp (length_padded Nat.two_pos h)
  exact ⟨c, d, hpadded, hpadded ▸ number_padded 2 n⟩

theorem isDigit_of_mem_padded {width n : Nat} {c : Char} (h : c ∈ (padded width n).toList) :
    c.isDigit := by
  rw [toList_padded, List.mem_append] at h
  rcases h with h | h
  · rw [List.eq_of_mem_replicate h]
    decide
  · exact Nat.isDigit_of_mem_toDigits (by decide) (by decide) h

theorem notMem_padded {c : Char} (hc : c.isDigit = false) (width n : Nat) :
    c ∉ (padded width n).toList := by
  intro h
  rw [isDigit_of_mem_padded h] at hc
  cases hc

/-- Digits have no sign before them. -/
theorem sign_padded_append (width n : Nat) (s : List Char) :
    sign ((padded width n).toList ++ s) = (1, (padded width n).toList ++ s) := by
  have hne : (padded width n).toList ≠ [] := by
    rw [toList_padded]
    exact List.append_ne_nil_of_right_ne_nil _ Nat.toDigits_ne_nil
  obtain ⟨c, t, ht⟩ := List.exists_cons_of_ne_nil hne
  have hdigit : c.isDigit := isDigit_of_mem_padded (ht ▸ List.mem_cons_self)
  rw [ht, List.cons_append, sign.eq_def]
  split
  · next h => simp [(List.cons.inj h).1] at hdigit
  · next h => simp [(List.cons.inj h).1] at hdigit
  · rfl

/-- The text of a year is its sign, if it needs one, and its digits. -/
theorem exists_yearText (year : Int) (s : List Char) :
    ∃ n : Nat, (sign ((yearText year).toList ++ s)).1 * (n : Int) = year ∧
      (sign ((yearText year).toList ++ s)).2 = (padded 4 n).toList ++ s := by
  rw [yearText]
  split_ifs with hshort hnegative
  · refine ⟨year.toNat, ?_, ?_⟩
    · rw [sign_padded_append]
      omega
    · rw [sign_padded_append]
  · refine ⟨year.natAbs, ?_, ?_⟩
    · rw [String.toList_append]
      change -1 * (year.natAbs : Int) = year
      omega
    · rw [String.toList_append]
      rfl
  · refine ⟨year.natAbs, ?_, ?_⟩
    · rw [String.toList_append]
      change 1 * (year.natAbs : Int) = year
      omega
    · rw [String.toList_append]
      rfl

/-- Months and days have at most two digits. -/
theorem ofDays_lt (n : Int) : (ofDays n).month < 100 ∧ (ofDays n).day < 100 := by
  have hday : (n + 719468).fmod 146097 = (n + 719468) % 146097 :=
    Int.fmod_eq_emod_of_nonneg _ (by decide)
  rw [ofDays, hday]
  obtain ⟨d, hd⟩ : ∃ d : Nat, ((n + 719468) % 146097).toNat = d := ⟨_, rfl⟩
  obtain ⟨y, hy⟩ : ∃ y : Nat, y = (d - d / 1460 + d / 36524 - d / 146096) / 365 := ⟨_, rfl⟩
  obtain ⟨-, hstart, hend⟩ := year_bounds (by omega) hy
  simp only [hd, ← hy]
  refine ⟨?_, by omega⟩
  split <;> omega

/-- Some digits after a point are read as the part of a second that they were written for. -/
theorem fraction?_padded {width n : Nat} {nanos : Fin 1000000000} (hwidth : 0 < width)
    (h : n < 10 ^ width) (hnanos : n * 10 ^ (9 - width) = nanos) :
    fraction? (("." ++ padded width n).toList ++ noOffset) = some nanos := by
  have hpoint : ("." ++ padded width n).toList = '.' :: (padded width n).toList :=
    String.toList_append
  have hcut : Text.cutAt '+' ((padded width n).toList ++ noOffset) =
      some ((padded width n).toList, ['0', '0', ':', '0', '0']) :=
    Text.cutAt_append (notMem_padded rfl width n) _
  have hvalue : number (padded width n).toList * 10 ^ (9 - (padded width n).toList.length) =
      nanos := by
    rw [number_padded, length_padded hwidth h, hnanos]
  rw [hpoint, List.cons_append, fraction?, hcut]
  refine (dif_pos (hvalue ▸ nanos.isLt)).trans ?_
  exact congrArg some (Fin.ext hvalue)

theorem fraction?_fractionText (nanos : Fin 1000000000) :
    fraction? ((fractionText nanos).toList ++ noOffset) = some nanos := by
  have hlt := nanos.isLt
  rw [fractionText]
  split_ifs with hzero hmillis hmicros
  · rw [String.toList_empty, List.nil_append]
    exact congrArg some (Fin.ext hzero.symm)
  · exact fraction?_padded (by decide) (by omega) (by omega)
  · exact fraction?_padded (by decide) (by omega) (by omega)
  · exact fraction?_padded (by decide) (by omega) (by omega)

/-- The text of a date and a time of day is read as the point in time that it was made of. -/
theorem ofText?_rfc3339 (t : Instant) : ofText? (rfc3339 t).toList = some t := by
  have hday : t.seconds.fdiv daySeconds = t.seconds / 86400 :=
    Int.fdiv_eq_ediv_of_nonneg _ (by decide)
  have htime : t.seconds.fmod daySeconds = t.seconds % 86400 :=
    Int.fmod_eq_emod_of_nonneg _ (by decide)
  have hdays := days_ofDays (t.seconds / 86400)
  obtain ⟨hmonth, hdate⟩ := ofDays_lt (t.seconds / 86400)
  delta rfc3339
  simp only [hday, htime, String.toList_append]
  generalize ofDays (t.seconds / 86400) = date at *
  generalize hclock : (t.seconds % 86400).toNat = time
  obtain ⟨m, m', hm, hm'⟩ := exists_padded hmonth
  obtain ⟨d, d', hd, hd'⟩ := exists_padded hdate
  obtain ⟨h, h', hh, hh'⟩ := exists_padded (n := time / 3600) (by omega)
  obtain ⟨i, i', hi, hi'⟩ := exists_padded (n := time / 60 % 60) (by omega)
  obtain ⟨s, s', hs, hs'⟩ := exists_padded (n := time % 60) (by omega)
  obtain ⟨year, hyear, hrest⟩ := exists_yearText date.year
    ('-' :: m :: m' :: '-' :: d :: d' :: 'T' :: h :: h' :: ':' :: i :: i' :: ':' :: s :: s' ::
      ((fractionText t.nanos).toList ++ noOffset))
  change ofText? ((yearText date.year).toList ++ ['-'] ++ (padded 2 date.month).toList ++ ['-'] ++
    (padded 2 date.day).toList ++ (['T'] ++ (padded 2 (time / 3600)).toList ++ [':'] ++
      (padded 2 (time / 60 % 60)).toList ++ [':'] ++ (padded 2 (time % 60)).toList) ++
        (fractionText t.nanos).toList ++ noOffset) = some t
  simp only [hm, hd, hh, hi, hs, List.append_assoc, List.cons_append, List.nil_append]
  rw [ofText?, hrest, Text.cutAt_append (notMem_padded rfl 4 year)]
  simp only [number_padded, hm', hd', hh', hi', hs', hyear, daySeconds, hdays,
    fraction?_fractionText, Option.map_some, Option.some.injEq]
  have hseconds : t.seconds / 86400 * 86400 + ((time / 3600 * 60 + time / 60 % 60) * 60 +
      time % 60 : Nat) = t.seconds := by
    omega
  rw [hseconds]

end CommitLint.Date
