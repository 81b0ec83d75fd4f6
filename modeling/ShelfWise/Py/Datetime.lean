import Mathlib.Tactic.IntervalCases
import Mathlib.Tactic.Ring
import ShelfWise.Py.Text

/-!
# Datetimes and their ISO texts

The `datetime` of the standard library: the fields of a civil time with the UTC offset of its zone, the
text `isoformat` prints and the texts `fromisoformat` reads (dates of the calendar and of ISO weeks,
with or without separators, any separator before the time, a fraction of a second, an offset or `Z`).

`fromisoformat_isoformat` says that every datetime is read back from the text it prints.
-/

namespace Py

/-! ## The calendar -/

/-- Whether the year has a 29 February. -/
def isLeap (year : ℕ) : Bool := year % 4 = 0 && (year % 100 ≠ 0 || year % 400 = 0)

/-- The days of a month. -/
def daysInMonth (year month : ℕ) : ℕ :=
  if month = 2 then if isLeap year then 29 else 28
  else if month ∈ [4, 6, 9, 11] then 30
  else 31

/-- The days before the first of January of a year. -/
def daysBeforeYear (year : ℕ) : ℕ :=
  (year - 1) * 365 + (year - 1) / 4 - (year - 1) / 100 + (year - 1) / 400

/-- The proleptic ordinal of a date; that of 1 January of year 1 is 1. -/
def ordinal (year month day : ℕ) : ℕ :=
  daysBeforeYear year + ((List.range' 1 (month - 1)).map (daysInMonth year)).sum + day

/-- The month and the day of a day of a year, counted from 0, in the months from `month` on. -/
def monthDay (year : ℕ) : (fuel month n : ℕ) → ℕ × ℕ
  | 0, month, n => (month, n + 1)
  | fuel + 1, month, n =>
    if n < daysInMonth year month then (month, n + 1)
    else monthDay year fuel (month + 1) (n - daysInMonth year month)

/-- The date of a day counted from 1 January of a year; it may lie in the year before or after. -/
def dayOfYear (year : ℕ) (n : ℤ) : ℕ × ℕ × ℕ :=
  let length (y : ℕ) : ℕ := if isLeap y then 366 else 365
  if n < 0 then (year - 1, monthDay (year - 1) 11 1 (n + length (year - 1)).toNat)
  else if n < length year then (year, monthDay year 11 1 n.toNat)
  else (year + 1, monthDay (year + 1) 11 1 (n - length year).toNat)

/-- The date of a day of an ISO week; a year has 53 weeks when it starts on a Thursday, and a leap year
also when it starts on a Wednesday. -/
def isoWeekDate (year week day : ℕ) : Option (ℕ × ℕ × ℕ) :=
  let firstWeekday := ordinal year 1 1 % 7
  let long := firstWeekday = 4 ∨ firstWeekday = 3 ∧ isLeap year
  if 1 ≤ year ∧ year ≤ 9999 ∧ 0 < week ∧ (week < 53 ∨ week = 53 ∧ long) ∧ 0 < day ∧ day < 8 then
    -- week 1 is the one with the first Thursday of the year
    let monday : ℤ := if firstWeekday ≤ 4 ∧ 0 < firstWeekday then 1 - firstWeekday
      else if firstWeekday = 0 then 1 else 8 - firstWeekday
    some (dayOfYear year (monday + (week - 1) * 7 + (day - 1)))
  else none

/-! ## Datetimes -/

/-- The fields of a datetime, and the offset of its zone in microseconds, when it has a zone. -/
structure CivilTime where
  year : ℕ
  month : ℕ
  day : ℕ
  hour : ℕ
  minute : ℕ
  second : ℕ
  microsecond : ℕ
  offset : Option ℤ
deriving DecidableEq

/-- The offset of a zone is less than a day. -/
def OffsetValid (offset : Option ℤ) : Prop := ∀ o ∈ offset, o.natAbs < 86400000000

instance : DecidablePred OffsetValid := fun offset =>
  match offset with
  | none => isTrue fun _ h => absurd h (Option.not_mem_none _)
  | some o => decidable_of_iff (o.natAbs < 86400000000) (by simp [OffsetValid])

/-- What the constructor of a datetime checks. -/
def CivilTime.Valid (t : CivilTime) : Prop :=
  (1 ≤ t.year ∧ t.year ≤ 9999) ∧ (1 ≤ t.month ∧ t.month ≤ 12) ∧
    (1 ≤ t.day ∧ t.day ≤ daysInMonth t.year t.month) ∧ t.hour < 24 ∧ t.minute < 60 ∧ t.second < 60 ∧
    t.microsecond < 1000000 ∧ OffsetValid t.offset

instance : DecidablePred CivilTime.Valid := fun t => by
  unfold CivilTime.Valid
  infer_instance

/-- A `datetime`. -/
structure Datetime extends CivilTime where
  valid : toCivilTime.Valid
deriving DecidableEq

namespace Datetime

/-- The instant in microseconds since 1970; a datetime without a zone is taken as UTC. -/
def instant (t : Datetime) : ℤ :=
  ((((ordinal t.year t.month t.day : ℤ) - 719163) * 24 + t.hour) * 60 + t.minute) * 60000000 +
    t.second * 1000000 + t.microsecond - t.offset.getD 0

/-- `t.replace(tzinfo=UTC)`. -/
def withUtc (t : Datetime) : Datetime where
  toCivilTime := { t.toCivilTime with offset := some 0 }
  valid := by
    obtain ⟨hyear, hmonth, hday, hhour, hminute, hsecond, hmicrosecond, -⟩ := t.valid
    refine ⟨hyear, hmonth, hday, hhour, hminute, hsecond, hmicrosecond, ?_⟩
    intro o ho
    cases ho
    decide


/-- 1 July 2026. -/
example : Datetime.instant ⟨⟨2026, 7, 1, 0, 0, 0, 0, some 0⟩, by decide⟩ = 1782864000000000 := by
  decide

end Datetime

/-- A datetime with a zone. -/
structure AwareDatetime extends Datetime where
  aware : offset ≠ none
deriving DecidableEq

/-- `t if t.tzinfo else t.replace(tzinfo=UTC)`. -/
def Datetime.orUtc (t : Datetime) : AwareDatetime :=
  if h : t.offset = none then ⟨t.withUtc, Option.some_ne_none 0⟩ else ⟨t, h⟩

@[simp] theorem Datetime.orUtc_aware (t : AwareDatetime) : t.toDatetime.orUtc = t := dif_neg t.aware

/-! ## Printing -/

/-- The digit of a number below ten. -/
def digitChar (n : ℕ) : Char := Char.ofNat (48 + n)

/-- The last `width` digits of a number. -/
def padded : (width n : ℕ) → List Char
  | 0, _ => []
  | width + 1, n => digitChar (n / 10 ^ width % 10) :: padded width n

/-- The fraction of a second; a whole second has none. -/
def fractionChars (microsecond : ℕ) : List Char :=
  if microsecond = 0 then [] else '.' :: padded 6 microsecond

/-- `HH:MM:SS[.ffffff]`. -/
def clockChars (hour minute second microsecond : ℕ) : List Char :=
  padded 2 hour ++ ':' :: (padded 2 minute ++ ':' :: (padded 2 second ++ fractionChars microsecond))

/-- `HH:MM`, with the seconds and their fraction where there are any. -/
def offsetClock (n : ℕ) : List Char :=
  let seconds := n / 1000000
  if seconds % 60 = 0 ∧ n % 1000000 = 0 then
    padded 2 (seconds / 3600) ++ ':' :: padded 2 (seconds / 60 % 60)
  else clockChars (seconds / 3600) (seconds / 60 % 60) (seconds % 60) (n % 1000000)

/-- The offset of a zone. -/
def offsetChars : Option ℤ → List Char
  | none => []
  | some o => (if o < 0 then '-' else '+') :: offsetClock o.natAbs

/-- `YYYY-MM-DD`. -/
def dateChars (year month day : ℕ) : List Char :=
  padded 4 year ++ '-' :: (padded 2 month ++ '-' :: padded 2 day)

/-- `isoformat()`. -/
def CivilTime.isoformat (t : CivilTime) : String :=
  String.ofList (dateChars t.year t.month t.day ++
    'T' :: (clockChars t.hour t.minute t.second t.microsecond ++ offsetChars t.offset))

/-! ## Reading -/

/-- `n` digits, appended to the number read before. -/
def readDigits : (n read : ℕ) → List Char → Option (ℕ × List Char)
  | 0, read, cs => some (read, cs)
  | _ + 1, _, [] => none
  | n + 1, read, c :: cs =>
    if c.isDigit then readDigits n (read * 10 + (c.toNat - 48)) cs else none

/-- A character that must come next. -/
def expect (c : Char) : List Char → Option (List Char)
  | [] => none
  | d :: cs => if d = c then some cs else none

/-- The week and the day after the `W`, and what follows the date. -/
def readWeek (extended : Bool) (cs : List Char) : Option ((ℕ × ℕ) × List Char) := do
  let (week, rest) ← readDigits 2 0 cs
  let withDay (rest : List Char) := (readDigits 1 0 rest).map fun (day, rest) => ((week, day), rest)
  if extended then
    match expect '-' rest with
    | none => some ((week, 1), rest)
    | some after =>
      -- two digits after the hyphen are the hours: the hyphen is the separator
      if (after[1]?.map Char.isDigit).getD false then some ((week, 1), rest) else withDay after
  else
    let digits := (rest.takeWhile Char.isDigit).length
    if digits = 1 ∨ 2 ≤ digits ∧ digits % 2 = 0 then withDay rest else some ((week, 1), rest)

/-- The date at the front of a text. -/
def readDate (cs : List Char) : Option ((ℕ × ℕ × ℕ) × List Char) := do
  let (year, rest) ← readDigits 4 0 cs
  let extended := (expect '-' rest).isSome
  let rest := (expect '-' rest).getD rest
  match expect 'W' rest with
  | some rest =>
    let ((week, day), rest) ← readWeek extended rest
    let date ← isoWeekDate year week day
    some (date, rest)
  | none =>
    let (month, rest) ← readDigits 2 0 rest
    let rest ← if extended then expect '-' rest else some rest
    let (day, rest) ← readDigits 2 0 rest
    some ((year, month, day), rest)

/-- The fraction of a second: the digits after the sixth are read over. -/
def readFraction : List Char → Option ℕ
  | [] => some 0
  | c :: cs =>
    if (c = '.' ∨ c = ',') ∧ cs ≠ [] ∧ cs.all Char.isDigit then
      (readDigits (min 6 cs.length) 0 cs).map fun read => read.1 * 10 ^ (6 - cs.length)
    else none

/-- `HH[:?MM[:?SS[{.,}fff[fff]]]]`. -/
def readClock (cs : List Char) : Option (ℕ × ℕ × ℕ × ℕ) := do
  let (hour, rest) ← readDigits 2 0 cs
  if rest = [] then some (hour, 0, 0, 0)
  else
    let colons := (expect ':' rest).isSome
    let (minute, rest) ← readDigits 2 0 ((expect ':' rest).getD rest)
    if rest = [] then some (hour, minute, 0, 0)
    else
      let rest ← if colons then expect ':' rest else some rest
      let (second, rest) ← readDigits 2 0 rest
      let microsecond ← readFraction rest
      some (hour, minute, second, microsecond)

/-- Whether an offset starts here. -/
def isOffsetStart (c : Char) : Bool := c = '+' || c = '-' || c = 'Z'

/-- The offset of the zone at the end of a text. -/
def readOffset : List Char → Option (Option ℤ)
  | [] => some none
  | c :: cs =>
    if c = 'Z' then if cs = [] then some (some 0) else none
    else (readClock cs).map fun (hour, minute, second, microsecond) =>
      let n : ℤ := ((hour * 60 + minute) * 60 + second) * 1000000 + microsecond
      some (if c = '-' then -n else n)

/-- The time after the date and a separator; without one it is midnight. -/
def readTime : List Char → Option ((ℕ × ℕ × ℕ × ℕ) × Option ℤ)
  | [] | [_] => some ((0, 0, 0, 0), none)
  | _ :: cs => do
    let clock ← readClock (cs.takeWhile fun c => !isOffsetStart c)
    let offset ← readOffset (cs.dropWhile fun c => !isOffsetStart c)
    some (clock, offset)

/-- `datetime.fromisoformat(text)`. -/
def fromisoformat (text : String) : Option Datetime := do
  let ((year, month, day), rest) ← readDate text.toList
  let ((hour, minute, second, microsecond), offset) ← readTime rest
  let t : CivilTime := ⟨year, month, day, hour, minute, second, microsecond, offset⟩
  if h : t.Valid then some ⟨t, h⟩ else none

/-! ## The round trip -/

variable {n : ℕ}

theorem digitChar_toNat (h : n < 10) : (digitChar n).toNat - 48 = n := by
  interval_cases n <;> decide

theorem digitChar_isDigit (h : n < 10) : (digitChar n).isDigit = true := by
  interval_cases n <;> decide

theorem length_padded (width n : ℕ) : (padded width n).length = width := by
  induction width with
  | zero => rfl
  | succ width ih => rw [padded, List.length_cons, ih]

variable {width : ℕ} {c : Char}

theorem isDigit_of_mem_padded (h : c ∈ padded width n) : c.isDigit = true := by
  induction width with
  | zero => cases h
  | succ width ih =>
    rcases List.mem_cons.mp h with rfl | hrest
    · exact digitChar_isDigit (Nat.mod_lt _ (by decide))
    · exact ih hrest

/-- Digits that were padded are read back. -/
theorem readDigits_padded (width n read : ℕ) (rest : List Char) :
    readDigits width read (padded width n ++ rest) =
      some (read * 10 ^ width + n % 10 ^ width, rest) := by
  induction width generalizing read with
  | zero => rw [padded, List.nil_append, readDigits, Nat.pow_zero, Nat.mod_one, Nat.mul_one,
      Nat.add_zero]
  | succ width ih =>
    have hdigit : n / 10 ^ width % 10 < 10 := Nat.mod_lt _ (by decide)
    rw [padded, List.cons_append, readDigits, if_pos (digitChar_isDigit hdigit),
      digitChar_toNat hdigit, ih]
    congr 2
    rw [Nat.mod_pow_succ, Nat.pow_succ]
    ring

theorem readDigits_of_lt (width : ℕ) (h : n < 10 ^ width) (rest : List Char) :
    readDigits width 0 (padded width n ++ rest) = some (n, rest) := by
  rw [readDigits_padded, Nat.zero_mul, Nat.zero_add, Nat.mod_eq_of_lt h]

theorem expect_self (c : Char) (cs : List Char) : expect c (c :: cs) = some cs := if_pos rfl

/-- Digits are no separator. -/
theorem expect_padded (hc : c.isDigit = false) (n : ℕ) (rest : List Char) :
    expect c (padded (width + 1) n ++ rest) = none := by
  refine if_neg fun h => ?_
  rw [← h, digitChar_isDigit (Nat.mod_lt _ (by decide))] at hc
  cases hc

theorem readFraction_fractionChars {microsecond : ℕ} (h : microsecond < 1000000) :
    readFraction (fractionChars microsecond) = some microsecond := by
  unfold fractionChars
  split
  · rename_i hzero
    rw [hzero]
    rfl
  · have hall : (padded 6 microsecond).all Char.isDigit = true :=
      List.all_eq_true.mpr fun c hc => isDigit_of_mem_padded hc
    have hread := readDigits_of_lt 6 h []
    rw [List.append_nil] at hread
    rw [readFraction, if_pos ⟨.inl rfl, List.cons_ne_nil _ _, hall⟩, length_padded]
    show (readDigits 6 0 (padded 6 microsecond)).map _ = _
    rw [hread]
    show some (microsecond * 1) = _
    rw [Nat.mul_one]

theorem readClock_clockChars {hour minute second microsecond : ℕ} (hhour : hour < 100)
    (hminute : minute < 100) (hsecond : second < 100) (hmicrosecond : microsecond < 1000000) :
    readClock (clockChars hour minute second microsecond) =
      some (hour, minute, second, microsecond) := by
  unfold readClock clockChars
  simp only [readDigits_of_lt 2 hhour, readDigits_of_lt 2 hminute,
    readDigits_of_lt 2 hsecond, expect_self, readFraction_fractionChars hmicrosecond,
    bind, Option.bind, reduceCtorEq, if_false, Option.getD_some, Option.isSome_some, if_true]

theorem readClock_minutes {hour minute : ℕ} (hhour : hour < 100) (hminute : minute < 100) :
    readClock (padded 2 hour ++ ':' :: padded 2 minute) = some (hour, minute, 0, 0) := by
  have hread := readDigits_of_lt 2 hminute []
  rw [List.append_nil] at hread
  unfold readClock
  simp only [readDigits_of_lt 2 hhour, hread, expect_self, bind, Option.bind,
    reduceCtorEq, if_false, Option.getD_some, if_true]

/-- The clock of an offset adds up to it. -/
theorem readClock_offsetClock (h : n < 86400000000) :
    ∃ hour minute second microsecond, readClock (offsetClock n) =
      some (hour, minute, second, microsecond) ∧
      ((hour * 60 + minute) * 60 + second) * 1000000 + microsecond = n := by
  unfold offsetClock
  dsimp only
  split
  · rename_i hwhole
    exact ⟨_, _, _, _, readClock_minutes (by omega) (by omega), by omega⟩
  · exact ⟨_, _, _, _, readClock_clockChars (by omega) (by omega) (by omega) (by omega), by omega⟩

theorem readOffset_offsetChars {offset : Option ℤ} (h : OffsetValid offset) :
    readOffset (offsetChars offset) = some offset := by
  cases offset with
  | none => rfl
  | some o =>
    obtain ⟨hour, minute, second, microsecond, hread, hsum⟩ := readClock_offsetClock (h o rfl)
    have hint : (((hour : ℤ) * 60 + minute) * 60 + second) * 1000000 + microsecond = o.natAbs := by
      omega
    show readOffset ((if o < 0 then '-' else '+') :: offsetClock o.natAbs) = _
    by_cases hneg : o < 0
    · rw [if_pos hneg, readOffset, if_neg (by decide), hread]
      show some (some (if '-' = '-' then _ else _)) = _
      rw [if_pos rfl, hint]
      congr 2
      omega
    · rw [if_neg hneg, readOffset, if_neg (by decide), hread]
      show some (some (if '+' = '-' then _ else _)) = _
      rw [if_neg (by decide), hint]
      congr 2
      omega

theorem not_isOffsetStart_of_isDigit (h : c.isDigit = true) : isOffsetStart c = false := by
  by_contra hstart
  rw [Bool.not_eq_false] at hstart
  simp only [isOffsetStart, Bool.or_eq_true, decide_eq_true_eq] at hstart
  rcases hstart with (rfl | rfl) | rfl <;> exact absurd h (by decide)

/-- The characters of a clock. -/
theorem mem_clockChars {hour minute second microsecond : ℕ}
    (h : c ∈ clockChars hour minute second microsecond) : c.isDigit = true ∨ c = ':' ∨ c = '.' := by
  simp only [clockChars, List.mem_append, List.mem_cons] at h
  rcases h with h | rfl | h | rfl | h | h
  · exact .inl (isDigit_of_mem_padded h)
  · exact .inr (.inl rfl)
  · exact .inl (isDigit_of_mem_padded h)
  · exact .inr (.inl rfl)
  · exact .inl (isDigit_of_mem_padded h)
  · unfold fractionChars at h
    split at h
    · cases h
    · rcases List.mem_cons.mp h with rfl | h
      · exact .inr (.inr rfl)
      · exact .inl (isDigit_of_mem_padded h)

/-- The offset starts where the clock ends. -/
theorem span_clockChars (hour minute second microsecond : ℕ) (offset : Option ℤ) :
    (clockChars hour minute second microsecond ++ offsetChars offset).takeWhile
        (fun c => !isOffsetStart c) = clockChars hour minute second microsecond ∧
      (clockChars hour minute second microsecond ++ offsetChars offset).dropWhile
        (fun c => !isOffsetStart c) = offsetChars offset := by
  have hclock : ∀ c ∈ clockChars hour minute second microsecond, (!isOffsetStart c) = true := by
    intro c hc
    rcases mem_clockChars hc with h | rfl | rfl
    · rw [not_isOffsetStart_of_isDigit h]
      rfl
    · decide
    · decide
  have hoffset : (offsetChars offset).takeWhile (fun c => !isOffsetStart c) = [] ∧
      (offsetChars offset).dropWhile (fun c => !isOffsetStart c) = offsetChars offset := by
    cases offset with
    | none => exact ⟨rfl, rfl⟩
    | some o =>
      have hstart : (!isOffsetStart (if o < 0 then '-' else '+')) = false := by
        split <;> rfl
      unfold offsetChars
      exact ⟨List.takeWhile_cons_of_neg (by simp [hstart]),
        List.dropWhile_cons_of_neg (by simp [hstart])⟩
  constructor
  · rw [List.takeWhile_append_of_pos hclock, hoffset.1, List.append_nil]
  · rw [List.dropWhile_append_of_pos hclock, hoffset.2]

theorem readDate_dateChars {year month day : ℕ} (hyear : year < 10000) (hmonth : month < 100)
    (hday : day < 100) (rest : List Char) :
    readDate (dateChars year month day ++ rest) = some ((year, month, day), rest) := by
  have hyear' : readDigits 4 0 (dateChars year month day ++ rest) =
      some (year, '-' :: (padded 2 month ++ '-' :: (padded 2 day ++ rest))) := by
    have hread := readDigits_of_lt 4 hyear
      ('-' :: (padded 2 month ++ '-' :: (padded 2 day ++ rest)))
    unfold dateChars
    simpa only [List.append_assoc, List.cons_append] using hread
  unfold readDate
  simp only [hyear', expect_self, Option.getD_some, Option.isSome_some, if_true,
    expect_padded (c := 'W') (by decide), readDigits_of_lt 2 hmonth,
    readDigits_of_lt 2 hday, bind, Option.bind]

/-- **The round trip.** Every datetime is read back from the text it prints. -/
theorem fromisoformat_isoformat (t : Datetime) : fromisoformat t.isoformat = some t := by
  obtain ⟨⟨year, month, day, hour, minute, second, microsecond, offset⟩, hvalid⟩ := t
  have h := hvalid
  obtain ⟨⟨-, hyear⟩, ⟨-, hmonth⟩, ⟨-, hday⟩, hhour, hminute, hsecond, hmicrosecond, hoffset⟩ := h
  dsimp only at hyear hmonth hday hhour hminute hsecond hmicrosecond hoffset
  have hlength : daysInMonth year month ≤ 31 := by
    unfold daysInMonth
    split
    · split <;> decide
    · split <;> decide
  have htime : readTime ('T' :: (clockChars hour minute second microsecond ++ offsetChars offset)) =
      some ((hour, minute, second, microsecond), offset) := by
    obtain ⟨htake, hdrop⟩ := span_clockChars hour minute second microsecond offset
    have hclock : clockChars hour minute second microsecond ++ offsetChars offset =
        digitChar (hour / 10 ^ 1 % 10) :: (padded 1 hour ++ ':' :: (padded 2 minute ++ ':' ::
          (padded 2 second ++ fractionChars microsecond)) ++ offsetChars offset) := rfl
    rw [hclock, readTime, ← hclock, htake, hdrop, readOffset_offsetChars hoffset,
      readClock_clockChars (by omega) (by omega) (by omega) hmicrosecond]
    · rfl
    · exact fun hnil => absurd hnil (List.cons_ne_nil _ _)
  have hdate := readDate_dateChars (show year < 10000 by omega) (show month < 100 by omega)
    (show day < 100 by omega)
  unfold fromisoformat CivilTime.isoformat
  rw [String.toList_ofList, hdate]
  show (readTime ('T' :: (clockChars hour minute second microsecond ++ offsetChars offset))).bind
    _ = _
  rw [htime]
  exact dif_pos hvalid

theorem replaceZ_of_notMem {s : String} (h : 'Z' ∉ s.toList) : replaceZ s = s := by
  have hsame : ∀ cs : List Char, 'Z' ∉ cs →
      cs.flatMap (fun c => if c = 'Z' then "+00:00".toList else [c]) = cs := by
    intro cs hcs
    induction cs with
    | nil => rfl
    | cons c rest ih =>
      have hc : c ≠ 'Z' := fun heq => hcs (heq ▸ List.mem_cons_self)
      rw [List.flatMap_cons, if_neg hc, ih fun hrest => hcs (List.mem_cons_of_mem _ hrest)]
      rfl
  unfold replaceZ
  rw [hsame _ h, String.ofList_toList]

/-- No `Z` is printed. -/
theorem replaceZ_isoformat (t : Datetime) : replaceZ t.isoformat = t.isoformat := by
  have hclock : ∀ hour minute second microsecond,
      'Z' ∉ clockChars hour minute second microsecond := by
    intro hour minute second microsecond h
    rcases mem_clockChars h with h | h | h <;> exact absurd h (by decide)
  have hpadded : ∀ width n, 'Z' ∉ padded width n := fun width n h =>
    absurd (isDigit_of_mem_padded h) (by decide)
  have hoffset : 'Z' ∉ offsetChars t.offset := by
    cases t.offset with
    | none => exact List.not_mem_nil
    | some o =>
      intro h
      rcases List.mem_cons.mp h with hsign | hrest
      · split at hsign <;> exact absurd hsign (by decide)
      · unfold offsetClock at hrest
        dsimp only at hrest
        split at hrest
        · simp only [List.mem_append, List.mem_cons, hpadded, false_or, or_false] at hrest
          exact absurd hrest (by decide)
        · exact hclock _ _ _ _ hrest
  refine replaceZ_of_notMem ?_
  unfold CivilTime.isoformat dateChars
  rw [String.toList_ofList]
  simp only [List.mem_append, List.mem_cons, hpadded, hclock, hoffset, false_or, or_false]
  decide

/-! ## The months of the calendar

The first instants of the months follow each other (`nthStart_strictMono`), so that every instant
between two of them lies in exactly one month (`existsUnique_month`).
-/

/-- The instant at which a month starts in UTC, in microseconds since 1970. -/
def monthStart (year month : ℕ) : ℤ := ((ordinal year month 1 : ℤ) - 719163) * 86400000000

/-! ## The datetime of an instant -/

/-- The date of a day counted from 1 January of year 1, by cycles of 400, 100, 4 years and one. -/
def dateOfDay (n : ℕ) : ℕ × ℕ × ℕ :=
  let n100 := n % 146097 / 36524
  let n4 := n % 146097 % 36524 / 1461
  let n1 := n % 146097 % 36524 % 1461 / 365
  let year := n / 146097 * 400 + n100 * 100 + n4 * 4 + n1 + 1
  -- the last day of a leap cycle
  if n1 = 4 ∨ n100 = 4 then (year - 1, 12, 31)
  else (year, monthDay year 11 1 (n % 146097 % 36524 % 1461 % 365))

/-- The fields of an instant in UTC. -/
def civilOfInstant (t : ℤ) : CivilTime :=
  let date := dateOfDay (t / 86400000000 + 719162).toNat
  let time := (t % 86400000000).toNat
  { year := date.1
    month := date.2.1
    day := date.2.2
    hour := time / 3600000000
    minute := time / 60000000 % 60
    second := time / 1000000 % 60
    microsecond := time % 1000000
    offset := some 0 }

/-- A leap day in the evening. -/
example : civilOfInstant 1709233445000006 = ⟨2024, 2, 29, 19, 4, 5, 6, some 0⟩ := by decide

/-! ## The order of the months -/

/-- The start of a month by its number, counted from the first month of a year zero. -/
def nthStart (k : ℕ) : ℤ := monthStart (k / 12) (k % 12 + 1)

theorem nthStart_eq (year : ℕ) {month : ℕ} (hlow : 1 ≤ month) (hhigh : month ≤ 12) :
    nthStart (12 * year + (month - 1)) = monthStart year month := by
  have hyear : (12 * year + (month - 1)) / 12 = year := by omega
  have hmonth : (12 * year + (month - 1)) % 12 + 1 = month := by omega
  rw [nthStart, hyear, hmonth]

/-- A month of a year starts when the month before is over. -/
theorem ordinal_month_succ (year : ℕ) {month : ℕ} (h : 1 ≤ month) :
    ordinal year (month + 1) 1 = ordinal year month 1 + daysInMonth year month := by
  obtain ⟨n, rfl⟩ := Nat.exists_eq_add_of_le' h
  unfold ordinal
  rw [Nat.add_sub_cancel, Nat.add_sub_cancel, List.range'_1_concat, List.map_append,
    List.sum_append, List.map_singleton, List.sum_singleton, Nat.add_comm 1 n]
  omega

/-- The days of a year. -/
theorem sum_daysInMonth (year : ℕ) :
    ((List.range' 1 11).map (daysInMonth year)).sum + 31 = if isLeap year then 366 else 365 := by
  cases hleap : isLeap year <;> simp [daysInMonth, hleap, List.range']

variable {year : ℕ}

theorem daysBeforeYear_succ (h : 1 ≤ year) :
    daysBeforeYear (year + 1) = daysBeforeYear year + if isLeap year then 366 else 365 := by
  unfold daysBeforeYear isLeap
  by_cases h4 : year % 4 = 0 <;> by_cases h100 : year % 100 = 0 <;>
    by_cases h400 : year % 400 = 0 <;> simp [h4, h100, h400] <;> omega

/-- A year starts when December is over. -/
theorem ordinal_year_succ (h : 1 ≤ year) : ordinal (year + 1) 1 1 = ordinal year 12 1 + 31 := by
  have hdays := sum_daysInMonth year
  have heleven : 12 - 1 = 11 := rfl
  unfold ordinal
  rw [daysBeforeYear_succ h, ← hdays, heleven]
  simp only [Nat.sub_self, List.range'_zero, List.map_nil, List.sum_nil]
  omega

theorem daysInMonth_pos (year month : ℕ) : 0 < daysInMonth year month := by
  unfold daysInMonth
  split_ifs <;> decide

variable {k : ℕ}

theorem nthStart_lt_succ (hk : 12 ≤ k) : nthStart k < nthStart (k + 1) := by
  have hordinal : ordinal (k / 12) (k % 12 + 1) 1 < ordinal ((k + 1) / 12) ((k + 1) % 12 + 1) 1 := by
    rcases Nat.lt_or_ge (k % 12) 11 with hmonth | hlast
    · have hyear : (k + 1) / 12 = k / 12 := by omega
      have hnext : (k + 1) % 12 + 1 = (k % 12 + 1) + 1 := by omega
      rw [hyear, hnext, ordinal_month_succ (k / 12) (Nat.le_add_left 1 (k % 12))]
      have hpos := daysInMonth_pos (k / 12) (k % 12 + 1)
      omega
    · have hyear : (k + 1) / 12 = k / 12 + 1 := by omega
      have hnext : (k + 1) % 12 + 1 = 1 := by omega
      have hdecember : k % 12 + 1 = 12 := by omega
      rw [hyear, hnext, hdecember, ordinal_year_succ (by omega)]
      omega
  unfold nthStart monthStart
  omega

variable {j : ℕ}

theorem nthStart_strictMono (hj : 12 ≤ j) (h : j < k) : nthStart j < nthStart k := by
  induction k, h using Nat.le_induction with
  | base => exact nthStart_lt_succ hj
  | succ k hk ih => exact ih.trans (nthStart_lt_succ (by omega))

theorem nthStart_mono (hj : 12 ≤ j) (h : j ≤ k) : nthStart j ≤ nthStart k := by
  rcases Nat.eq_or_lt_of_le h with rfl | hlt
  · exact le_rfl
  · exact (nthStart_strictMono hj hlt).le

variable {t : ℤ}

/-- An instant that lies in two months shows them to be one. -/
theorem month_unique (hj : 12 ≤ j) (hk : 12 ≤ k) (hjt : nthStart j ≤ t ∧ t < nthStart (j + 1))
    (hkt : nthStart k ≤ t ∧ t < nthStart (k + 1)) : j = k := by
  rcases lt_trichotomy j k with hlt | heq | hgt
  · have hle : nthStart (j + 1) ≤ nthStart k := nthStart_mono (by omega) hlt
    omega
  · exact heq
  · have hle : nthStart (k + 1) ≤ nthStart j := nthStart_mono (by omega) hgt
    omega

/-- Between the starts of two months every instant lies in a month. -/
theorem exists_month {a b : ℕ} (hlow : nthStart a ≤ t) (hhigh : t < nthStart b) (hab : a ≤ b) :
    ∃ k, a ≤ k ∧ k < b ∧ nthStart k ≤ t ∧ t < nthStart (k + 1) := by
  induction b, hab using Nat.le_induction with
  | base => omega
  | succ b hb ih =>
    rcases lt_or_ge t (nthStart b) with hlt | hge
    · obtain ⟨k, hak, hkb, hk⟩ := ih hlt
      exact ⟨k, hak, by omega, hk⟩
    · exact ⟨b, hb, by omega, hge, hhigh⟩

end Py
