import Mathlib.Data.Nat.Log
import Mathlib.Data.Nat.ModEq
import Mathlib.Tactic.Ring

/-!
Points in time to the second, as texts in the notation of RFC 3339 with the zone `Z`, and the reader
that takes such texts back.
-/

namespace Rfc3339

structure Civil where
  year : Int
  month : Int
  day : Int
  deriving DecidableEq

def isLeap (year : Int) : Bool := year % 4 = 0 && (year % 100 ≠ 0 || year % 400 = 0)

def daysIn (month year : Int) : Int :=
  if month = 2 then
    if isLeap year then 29 else 28
  else if month = 4 ∨ month = 6 ∨ month = 9 ∨ month = 11 then 30
  else 31

def Civil.ofMarch (year day : Int) : Civil :=
  let month := (5 * day + 2) / 153
  let dayOfMonth := day - (153 * month + 2) / 5 + 1
  if month < 10 then ⟨year, month + 3, dayOfMonth⟩ else ⟨year + 1, month - 9, dayOfMonth⟩

def Civil.ofDays (days : Int) : Civil :=
  let era := days / 146097
  let inEra := days % 146097
  let century := min (inEra / 36524) 3
  let inCentury := inEra - 36524 * century
  let cycle := inCentury / 1461
  let inCycle := inCentury - 1461 * cycle
  let year := min (inCycle / 365) 3
  Civil.ofMarch (400 * era + 100 * century + 4 * cycle + year) (inCycle - 365 * year)

def Civil.days (d : Civil) : Int :=
  let year := if 2 < d.month then d.year else d.year - 1
  let month := if 2 < d.month then d.month - 3 else d.month + 9
  365 * year + year / 4 - year / 100 + year / 400 + (153 * month + 2) / 5 + d.day - 1

structure Civil.Valid (d : Civil) : Prop where
  month : 1 ≤ d.month ∧ d.month ≤ 12
  day : 1 ≤ d.day ∧ d.day ≤ daysIn d.month d.year

theorem isLeap_iff {year : Int} :
    isLeap year = true ↔ year % 4 = 0 ∧ (year % 100 ≠ 0 ∨ year % 400 = 0) := by
  simp [isLeap]

theorem le_daysIn {month year day : Int} (h31 : day ≤ 31)
    (h30 : month = 4 ∨ month = 6 ∨ month = 9 ∨ month = 11 → day ≤ 30)
    (h29 : month = 2 → day ≤ 29) (h28 : month = 2 → ¬ isLeap year = true → day ≤ 28) :
    day ≤ daysIn month year := by
  unfold daysIn
  split
  next h =>
    split
    next => exact h29 h
    next hleap => exact h28 h hleap
  next =>
    split
    next h => exact h30 h
    next => exact h31

theorem daysIn_le (month year : Int) : daysIn month year ≤ 31 := by
  unfold daysIn
  repeat' split
  all_goals omega

theorem Civil.days_ofMarch {year day : Int} (h : 0 ≤ day) (h' : day ≤ 365) :
    (Civil.ofMarch year day).days
      = 365 * year + year / 4 - year / 100 + year / 400 + day := by
  unfold Civil.ofMarch
  dsimp only
  split
  next hmonth =>
    unfold Civil.days
    dsimp only
    rw [if_pos (by omega), if_pos (by omega)]
    omega
  next hmonth =>
    unfold Civil.days
    dsimp only
    rw [if_neg (by omega), if_neg (by omega), Int.add_sub_cancel]
    omega

theorem Civil.valid_ofMarch {year day : Int} (h : 0 ≤ day) (h' : day ≤ 365)
    (hleap : day = 365 → isLeap (year + 1) = true) : (Civil.ofMarch year day).Valid := by
  unfold Civil.ofMarch
  dsimp only
  split
  next hmonth =>
    refine ⟨⟨by dsimp only; omega, by dsimp only; omega⟩, by dsimp only; omega, ?_⟩
    dsimp only
    refine le_daysIn (by omega) (by omega) (by omega) (fun h => ?_)
    omega
  next hmonth =>
    refine ⟨⟨by dsimp only; omega, by dsimp only; omega⟩, by dsimp only; omega, ?_⟩
    dsimp only
    refine le_daysIn (by omega) (by omega) (by omega) (fun _ hnot => ?_)
    have hday : day ≠ 365 := fun heq => hnot (hleap heq)
    omega

-- The year and the day of it that `Civil.ofDays` passes on.
theorem Civil.ofDays_eq (days : Int) : ∃ year day, Civil.ofDays days = Civil.ofMarch year day
    ∧ 0 ≤ day ∧ day ≤ 365 ∧ (day = 365 → isLeap (year + 1) = true)
    ∧ 365 * year + year / 4 - year / 100 + year / 400 + day = days := by
  refine ⟨_, _, rfl, ?_⟩
  rw [isLeap_iff]
  have hera : days = 146097 * (days / 146097) + days % 146097 := by omega
  have hinEra : 0 ≤ days % 146097 ∧ days % 146097 < 146097 := by omega
  generalize days % 146097 = inEra at *
  generalize days / 146097 = era at *
  have hcentury : 0 ≤ min (inEra / 36524) 3 ∧ min (inEra / 36524) 3 ≤ 3
      ∧ 0 ≤ inEra - 36524 * min (inEra / 36524) 3
      ∧ (min (inEra / 36524) 3 < 3 → inEra - 36524 * min (inEra / 36524) 3 < 36524)
      ∧ inEra - 36524 * min (inEra / 36524) 3 ≤ 36524 := by
    omega
  have hinEra' : inEra = 36524 * min (inEra / 36524) 3
      + (inEra - 36524 * min (inEra / 36524) 3) := by omega
  generalize inEra - 36524 * min (inEra / 36524) 3 = inCentury at *
  generalize min (inEra / 36524) 3 = century at *
  have hcycle : 0 ≤ inCentury / 1461 ∧ inCentury / 1461 ≤ 24
      ∧ 0 ≤ inCentury - 1461 * (inCentury / 1461)
      ∧ inCentury - 1461 * (inCentury / 1461) ≤ 1460 := by
    omega
  have hinCentury : inCentury = 1461 * (inCentury / 1461)
      + (inCentury - 1461 * (inCentury / 1461)) := by omega
  generalize inCentury - 1461 * (inCentury / 1461) = inCycle at *
  generalize inCentury / 1461 = cycle at *
  have hyear : 0 ≤ min (inCycle / 365) 3 ∧ min (inCycle / 365) 3 ≤ 3
      ∧ 0 ≤ inCycle - 365 * min (inCycle / 365) 3
      ∧ inCycle - 365 * min (inCycle / 365) 3 ≤ 365
      ∧ (inCycle - 365 * min (inCycle / 365) 3 = 365 → inCycle = 1460
        ∧ min (inCycle / 365) 3 = 3) := by
    omega
  have hinCycle : inCycle = 365 * min (inCycle / 365) 3
      + (inCycle - 365 * min (inCycle / 365) 3) := by omega
  generalize inCycle - 365 * min (inCycle / 365) 3 = day at *
  generalize min (inCycle / 365) 3 = year at *
  have hfour : (400 * era + 100 * century + 4 * cycle + year) / 4
      = 100 * era + 25 * century + cycle := by omega
  have hhundred : (400 * era + 100 * century + 4 * cycle + year) / 100
      = 4 * era + century := by omega
  have hfourHundred : (400 * era + 100 * century + 4 * cycle + year) / 400 = era := by omega
  refine ⟨by omega, by omega, fun hday => ?_, by omega⟩
  obtain ⟨hlast, hthird⟩ := hyear.2.2.2.2 hday
  refine ⟨by omega, ?_⟩
  by_cases hcyc : cycle < 24
  · exact .inl (by omega)
  · exact .inr (by omega)

theorem Civil.days_ofDays (days : Int) : (Civil.ofDays days).days = days := by
  obtain ⟨year, day, heq, hnonneg, hle, -, hdays⟩ := Civil.ofDays_eq days
  rw [heq, Civil.days_ofMarch hnonneg hle, hdays]

theorem Civil.valid_ofDays (days : Int) : (Civil.ofDays days).Valid := by
  obtain ⟨year, day, heq, hnonneg, hle, hleap, -⟩ := Civil.ofDays_eq days
  rw [heq]
  exact Civil.valid_ofMarch hnonneg hle hleap

def digit (n : Nat) : Char := Char.ofNat ('0'.toNat + n)

def digits : Nat → Nat → List Char
  | 0, _ => []
  | width + 1, n => digit (n / 10 ^ width % 10) :: digits width n

def number : Nat → Nat → List Char → Option (Nat × List Char)
  | 0, acc, cs => some (acc, cs)
  | _ + 1, _, [] => none
  | width + 1, acc, c :: cs =>
    if c.isDigit then number width (10 * acc + (c.toNat - '0'.toNat)) cs else none

def literal (c : Char) : List Char → Option (List Char)
  | [] => none
  | c' :: cs => if c' = c then some cs else none

theorem digit_of_lt : ∀ n < 10, (digit n).isDigit = true ∧ (digit n).toNat - '0'.toNat = n := by
  decide

theorem number_digits (width n acc : Nat) (rest : List Char) :
    number width acc (digits width n ++ rest) = some (10 ^ width * acc + n % 10 ^ width, rest) := by
  induction width generalizing acc with
  | zero => simp [number, digits, Nat.mod_one]
  | succ width ih =>
    obtain ⟨hdigit, hvalue⟩ := digit_of_lt (n / 10 ^ width % 10) (Nat.mod_lt _ (by omega))
    rw [digits, List.cons_append, number, if_pos hdigit, hvalue, ih, Nat.mod_pow_succ]
    congr 2
    ring

@[simp]
theorem number_digits_of_lt {width n : Nat} (h : n < 10 ^ width) (rest : List Char) :
    number width 0 (digits width n ++ rest) = some (n, rest) := by
  rw [number_digits, Nat.mul_zero, Nat.zero_add, Nat.mod_eq_of_lt h]

@[simp]
theorem literal_cons (c : Char) (cs : List Char) : literal c (c :: cs) = some cs := if_pos rfl

-- A longer number goes on with a digit where the reader stops.
theorem number_longer (width more n acc : Nat) (rest : List Char) :
    ∃ a c cs, number width acc (digits (width + more + 1) n ++ rest) = some (a, c :: cs)
      ∧ c.isDigit = true := by
  induction width generalizing acc with
  | zero =>
    obtain ⟨hdigit, -⟩ := digit_of_lt (n / 10 ^ (0 + more) % 10) (Nat.mod_lt _ (by omega))
    exact ⟨acc, _, _, rfl, hdigit⟩
  | succ width ih =>
    obtain ⟨hdigit, -⟩ := digit_of_lt (n / 10 ^ (width + 1 + more) % 10) (Nat.mod_lt _ (by omega))
    rw [digits, List.cons_append, number, if_pos hdigit, Nat.add_right_comm width 1 more]
    exact ih _

def yearDigits (n : Nat) : List Char :=
  digits (if n < 10000 then 4 else Nat.log 10 n + 1) n

def yearText (year : Int) : List Char :=
  if year < 0 then '-' :: yearDigits year.natAbs else yearDigits year.toNat

def Civil.text (d : Civil) : List Char :=
  yearText d.year ++ '-' :: (digits 2 d.month.toNat ++ '-' :: digits 2 d.day.toNat)

def clockText (seconds : Int) : List Char :=
  digits 2 (seconds / 3600).toNat ++ ':' :: (digits 2 (seconds / 60 % 60).toNat
    ++ ':' :: digits 2 (seconds % 60).toNat)

-- 1970-01-01 in days from 0000-03-01.
def epoch : Int := 719468

def date (seconds : Int) : Civil := Civil.ofDays (seconds / 86400 + epoch)

def format (seconds : Int) : String :=
  String.ofList ((date seconds).text ++ 'T' :: (clockText (seconds % 86400) ++ ['Z']))

def readDate (cs : List Char) : Option (Civil × List Char) := do
  let (year, cs) ← number 4 0 cs
  let cs ← literal '-' cs
  let (month, cs) ← number 2 0 cs
  let cs ← literal '-' cs
  let (day, cs) ← number 2 0 cs
  if 1 ≤ month ∧ month ≤ 12 ∧ 1 ≤ day ∧ (day : Int) ≤ daysIn month year then
    some (⟨year, month, day⟩, cs)
  else none

def readClock (cs : List Char) : Option (Int × List Char) := do
  let (hour, cs) ← number 2 0 cs
  let cs ← literal ':' cs
  let (minute, cs) ← number 2 0 cs
  let cs ← literal ':' cs
  let (second, cs) ← number 2 0 cs
  if hour ≤ 23 ∧ minute ≤ 59 ∧ second ≤ 59 then some (3600 * hour + 60 * minute + second, cs)
  else none

def parse (text : String) : Option Int := do
  let (d, cs) ← readDate text.toList
  let cs ← literal 'T' cs
  let (clock, cs) ← readClock cs
  let cs ← literal 'Z' cs
  if cs = [] then some (86400 * (d.days - epoch) + clock) else none

theorem yearDigits_of_lt {n : Nat} (h : n < 10000) : yearDigits n = digits 4 n := by
  rw [yearDigits, if_pos h]

theorem readDate_text {d : Civil} (hvalid : d.Valid) (hyear : 0 ≤ d.year ∧ d.year ≤ 9999)
    (rest : List Char) : readDate (d.text ++ rest) = some (d, rest) := by
  obtain ⟨year, month, day⟩ := d
  obtain ⟨⟨hmonth, hmonth'⟩, hday, hday'⟩ := hvalid
  dsimp only at hyear hmonth hmonth' hday hday'
  have hle := daysIn_le month year
  have hy : year.toNat < 10 ^ 4 := by omega
  have hm : month.toNat < 10 ^ 2 := by omega
  have hd : day.toNat < 10 ^ 2 := by omega
  have heq : ((year.toNat : Int) = year) ∧ (month.toNat : Int) = month ∧ (day.toNat : Int) = day :=
    ⟨Int.toNat_of_nonneg hyear.1, Int.toNat_of_nonneg (by omega), Int.toNat_of_nonneg (by omega)⟩
  rw [Civil.text, yearText, if_neg (Int.not_lt.mpr hyear.1), yearDigits_of_lt hy]
  simp only [readDate, List.append_assoc, List.cons_append, number_digits_of_lt hy, literal_cons,
    number_digits_of_lt hm, number_digits_of_lt hd, Option.bind_eq_bind, Option.bind_some, heq.1,
    heq.2.1, heq.2.2]
  rw [if_pos ⟨by omega, by omega, by omega, hday'⟩]

theorem readClock_text {seconds : Int} (h : 0 ≤ seconds) (h' : seconds < 86400)
    (rest : List Char) : readClock (clockText seconds ++ rest) = some (seconds, rest) := by
  have hhour : (seconds / 3600).toNat < 10 ^ 2 := by omega
  have hminute : (seconds / 60 % 60).toNat < 10 ^ 2 := by omega
  have hsecond : (seconds % 60).toNat < 10 ^ 2 := by omega
  simp only [readClock, clockText, List.append_assoc, List.cons_append,
    number_digits_of_lt hhour, literal_cons, number_digits_of_lt hminute,
    number_digits_of_lt hsecond, Option.bind_eq_bind, Option.bind_some]
  rw [if_pos ⟨by omega, by omega, by omega⟩]
  congr 2
  omega

theorem parse_format {seconds : Int}
    (h : 0 ≤ (date seconds).year ∧ (date seconds).year ≤ 9999) :
    parse (format seconds) = some seconds := by
  have hclock := @readClock_text (seconds % 86400) (by omega) (by omega)
  simp only [parse, format, String.toList_ofList, readDate_text (Civil.valid_ofDays _) h,
    literal_cons, hclock, Option.bind_eq_bind, Option.bind_some, date, Civil.days_ofDays]
  rw [if_pos trivial]
  congr 1
  omega

-- A year before 0 starts with a sign, and one after 9999 has a digit in the place of the dash.
theorem readDate_of_year {d : Civil} (h : ¬ (0 ≤ d.year ∧ d.year ≤ 9999)) (rest : List Char) :
    readDate (d.text ++ rest) = none := by
  by_cases hneg : d.year < 0
  · rw [Civil.text, yearText, if_pos hneg]
    rfl
  · have hlarge : ¬ d.year.toNat < 10000 := by omega
    have hlog : 4 ≤ Nat.log 10 d.year.toNat :=
      Nat.le_log_of_pow_le (by omega) (by omega)
    obtain ⟨more, hmore⟩ := Nat.exists_eq_add_of_le hlog
    rw [Civil.text, yearText, if_neg hneg, yearDigits, if_neg hlarge, hmore, List.append_assoc]
    obtain ⟨a, c, cs, hnumber, hdigit⟩ := number_longer 4 more d.year.toNat 0
      ('-' :: (digits 2 d.month.toNat ++ '-' :: digits 2 d.day.toNat) ++ rest)
    have hne : c ≠ '-' := by
      rintro rfl
      exact absurd hdigit (by decide)
    simp only [readDate, hnumber, literal, if_neg hne, Option.bind_eq_bind, Option.bind_some,
      Option.bind_none]

theorem parse_format_iff {seconds : Int} :
    parse (format seconds) = some seconds
      ↔ 0 ≤ (date seconds).year ∧ (date seconds).year ≤ 9999 := by
  refine ⟨fun hparse => ?_, parse_format⟩
  by_contra hyear
  simp only [parse, format, String.toList_ofList, readDate_of_year hyear, Option.bind_eq_bind,
    Option.bind_none] at hparse
  cases hparse

example : format 0 = "1970-01-01T00:00:00Z" := rfl

example : parse "2024-02-29T23:59:59Z" = some 1709251199 := rfl

end Rfc3339
