import ParityGrid.Foundation.Framing
import ParityGrid.Foundation.Validation

/-!
# Instants and durations

A `UtcTimestamp` is an aware instant normalized to UTC with microsecond
precision.  Parsing accepts any known offset of less than a day and moves the
calendar date by at most one day.
-/

namespace ParityGrid.Domain

open Foundation

/-! ## The proleptic calendar -/

def isLeapYear (year : Nat) : Bool :=
  year % 4 == 0 && (year % 100 != 0 || year % 400 == 0)

def daysInMonth (year month : Nat) : Nat :=
  if month = 2 then
    if isLeapYear year then 29 else 28
  else if month = 4 ∨ month = 6 ∨ month = 9 ∨ month = 11 then 30
  else 31

/-- Calendar fields, as the `datetime` constructor takes them. -/
@[ext]
structure Civil where
  year : Nat
  month : Nat
  day : Nat
  hour : Nat
  minute : Nat
  second : Nat
  microsecond : Nat
deriving DecidableEq

/-- The ranges that the `datetime` constructor accepts. -/
def Civil.isValid (civil : Civil) : Bool :=
  1 ≤ civil.year && civil.year ≤ 9999 &&
    1 ≤ civil.month && civil.month ≤ 12 &&
    1 ≤ civil.day && civil.day ≤ daysInMonth civil.year civil.month &&
    civil.hour ≤ 23 && civil.minute ≤ 59 && civil.second ≤ 59 &&
    civil.microsecond ≤ 999999

/-- One day earlier; `none` before the first representable day. -/
def Civil.previousDay (civil : Civil) : Option Civil :=
  if 1 < civil.day then
    some { civil with day := civil.day - 1 }
  else if 1 < civil.month then
    some { civil with
      month := civil.month - 1
      day := daysInMonth civil.year (civil.month - 1) }
  else if 1 < civil.year then
    some { civil with year := civil.year - 1, month := 12, day := 31 }
  else
    none

/-- One day later; `none` after the last representable day. -/
def Civil.nextDay (civil : Civil) : Option Civil :=
  if civil.day < daysInMonth civil.year civil.month then
    some { civil with day := civil.day + 1 }
  else if civil.month < 12 then
    some { civil with month := civil.month + 1, day := 1 }
  else if civil.year < 9999 then
    some { civil with year := civil.year + 1, month := 1, day := 1 }
  else
    none

/-- Subtract an offset of less than a day, in minutes. -/
def Civil.minusOffset (civil : Civil) (offset : Int) : Option Civil :=
  let total : Int := civil.hour * 60 + civil.minute - offset
  let place (base : Option Civil) (minutes : Int) : Option Civil :=
    base.map fun date =>
      { date with
        hour := minutes.toNat / 60
        minute := minutes.toNat % 60 }
  if total < 0 then place civil.previousDay (total + 1440)
  else if 1440 ≤ total then place civil.nextDay (total - 1440)
  else place (some civil) total

theorem daysInMonth_ge (year month : Nat) : 28 ≤ daysInMonth year month := by
  simp only [daysInMonth]
  split
  · split <;> omega
  · split <;> omega

theorem Civil.isValid_iff {civil : Civil} :
    civil.isValid ↔
      (1 ≤ civil.year ∧ civil.year ≤ 9999) ∧
      (1 ≤ civil.month ∧ civil.month ≤ 12) ∧
      (1 ≤ civil.day ∧ civil.day ≤ daysInMonth civil.year civil.month) ∧
      civil.hour ≤ 23 ∧ civil.minute ≤ 59 ∧ civil.second ≤ 59 ∧
      civil.microsecond ≤ 999999 := by
  simp only [isValid, Bool.and_eq_true, decide_eq_true_eq]
  tauto

theorem Civil.previousDay_isValid {civil previous : Civil}
    (valid : civil.isValid) (moved : civil.previousDay = some previous) :
    previous.isValid := by
  rw [isValid_iff] at valid ⊢
  have length := daysInMonth_ge civil.year (civil.month - 1)
  simp only [previousDay] at moved
  split at moved
  · cases moved
    dsimp only
    omega
  split at moved
  · cases moved
    dsimp only
    omega
  split at moved
  · cases moved
    have december : daysInMonth (civil.year - 1) 12 = 31 := rfl
    dsimp only
    omega
  · cases moved

theorem Civil.nextDay_isValid {civil next : Civil}
    (valid : civil.isValid) (moved : civil.nextDay = some next) :
    next.isValid := by
  rw [isValid_iff] at valid ⊢
  simp only [nextDay] at moved
  split at moved
  · cases moved
    dsimp only
    omega
  split at moved
  · cases moved
    have length := daysInMonth_ge civil.year (civil.month + 1)
    dsimp only
    omega
  split at moved
  · cases moved
    have length := daysInMonth_ge (civil.year + 1) 1
    dsimp only
    omega
  · cases moved

theorem Civil.minusOffset_isValid {civil utc : Civil} {offset : Int}
    (valid : civil.isValid) (small : -1440 < offset ∧ offset < 1440)
    (moved : civil.minusOffset offset = some utc) :
    utc.isValid := by
  have ranges := isValid_iff.mp valid
  simp only [minusOffset] at moved
  split at moved
  · obtain ⟨date, date_eq, rfl⟩ := Option.map_eq_some_iff.mp moved
    have dateValid :=
      isValid_iff.mp (previousDay_isValid valid date_eq)
    rw [isValid_iff]
    dsimp only
    omega
  split at moved
  · obtain ⟨date, date_eq, rfl⟩ := Option.map_eq_some_iff.mp moved
    have dateValid := isValid_iff.mp (nextDay_isValid valid date_eq)
    rw [isValid_iff]
    dsimp only
    omega
  · obtain ⟨date, date_eq, rfl⟩ := Option.map_eq_some_iff.mp moved
    cases date_eq
    rw [isValid_iff]
    dsimp only
    omega

/-! ## Timestamps -/

structure UtcTimestamp where
  civil : Civil
  valid : civil.isValid
deriving DecidableEq

theorem UtcTimestamp.ext {left right : UtcTimestamp}
    (equal : left.civil = right.civil) :
    left = right := by
  cases left
  cases right
  cases equal
  rfl

/-- Read exactly `width` digits. -/
def readDigits (width : Nat) (t : Text) : Option (Nat × Text) :=
  let digits := t.take width
  if digits.length = width && digits.all isDigit then
    some (numeral digits, t.drop width)
  else
    none

/-- Read one literal character. -/
def readPoint (c : CodePoint) : Text → Option Text
  | [] => none
  | d :: rest => if d = c then some rest else none

/-- The optional fraction of a second, in microseconds. -/
def readFraction (t : Text) : Option (Nat × Text) :=
  match t with
  | [] => some (0, t)
  | c :: rest =>
      if c = point '.' then
        let digits := rest.takeWhile isDigit
        if 1 ≤ digits.length && digits.length ≤ 6 then
          some (numeral digits * 10 ^ (6 - digits.length),
            rest.drop digits.length)
        else
          none
      else
        some (0, t)

/-- How the offset of a timestamp is written. -/
inductive OffsetText where
  | utc
  | numeric (negative : Bool) (hours minutes : Nat)
deriving DecidableEq

def readOffset : Text → Option OffsetText
  | [] => none
  | c :: rest =>
      if c = point 'Z' then
        if rest = [] then some .utc else none
      else if c = point '+' ∨ c = point '-' then do
        let (hours, rest) ← readDigits 2 rest
        let rest ← readPoint (point ':') rest
        let (minutes, rest) ← readDigits 2 rest
        if rest = [] then some (.numeric (c == point '-') hours minutes)
        else none
      else
        none

/-- `_TIMESTAMP_PATTERN.fullmatch`. -/
def matchTimestamp (t : Text) : Option (Civil × OffsetText) := do
  let (year, t) ← readDigits 4 t
  let t ← readPoint (point '-') t
  let (month, t) ← readDigits 2 t
  let t ← readPoint (point '-') t
  let (day, t) ← readDigits 2 t
  let t ← readPoint (point 'T') t
  let (hour, t) ← readDigits 2 t
  let t ← readPoint (point ':') t
  let (minute, t) ← readDigits 2 t
  let t ← readPoint (point ':') t
  let (second, t) ← readDigits 2 t
  let (microsecond, t) ← readFraction t
  let offset ← readOffset t
  pure ({ year, month, day, hour, minute, second, microsecond }, offset)

/--
The offset in minutes, when it is a known one.  `-00:00` and offsets of a day
or more raise.
-/
def OffsetText.minutes : OffsetText → Option Int
  | .utc => some 0
  | .numeric negative hours minutes =>
      if negative && hours == 0 && minutes == 0 then none
      else if 23 < hours ∨ 59 < minutes then none
      else if negative then some (-(hours * 60 + minutes : Int))
      else some (hours * 60 + minutes : Int)

theorem OffsetText.minutes_small {offset : OffsetText} {minutes : Int}
    (known : offset.minutes = some minutes) :
    -1440 < minutes ∧ minutes < 1440 := by
  cases offset with
  | utc =>
      cases known
      decide
  | numeric negative hours minute =>
      simp only [OffsetText.minutes] at known
      split at known
      · cases known
      split at known
      · cases known
      split at known <;> cases known <;> omega

/-- `UtcTimestamp.parse`. -/
def UtcTimestamp.parse (value : Text) : Except PythonError UtcTimestamp :=
  match matchTimestamp value with
  | none =>
      .error (.valueError (text
        "timestamp must use an ISO-8601 date, time, and explicit offset"))
  | some (civil, offset) =>
      match known : offset.minutes with
      | none =>
          .error (.valueError (text
            "timestamp contains an invalid date, time, or offset"))
      | some minutes =>
          if valid : civil.isValid then
            match moved : civil.minusOffset minutes with
            | none =>
                .error (.valueError (text
                  "timestamp offset exceeds the supported datetime range"))
            | some utc =>
                .ok ⟨utc, Civil.minusOffset_isValid valid
                  (OffsetText.minutes_small known) moved⟩
          else
            .error (.valueError (text
              "timestamp contains an invalid date, time, or offset"))

theorem UtcTimestamp.parse_raises (value : Text) :
    RaisesOnlyValueErrors (UtcTimestamp.parse value) := by
  intro error raised
  simp only [UtcTimestamp.parse] at raised
  repeat' split at raised
  all_goals
    cases raised
    try rfl

/-- `str(timestamp)`. -/
def UtcTimestamp.toText (timestamp : UtcTimestamp) : Text :=
  let civil := timestamp.civil
  zeroPadded 4 civil.year ++ point '-' :: zeroPadded 2 civil.month ++
    point '-' :: zeroPadded 2 civil.day ++
    point 'T' :: zeroPadded 2 civil.hour ++
    point ':' :: zeroPadded 2 civil.minute ++
    point ':' :: zeroPadded 2 civil.second ++
    point '.' :: zeroPadded 6 civil.microsecond ++ [point 'Z']

theorem Civil.daysInMonth_le (year month : Nat) :
    daysInMonth year month ≤ 31 := by
  simp only [daysInMonth]
  split
  · split <;> omega
  · split <;> omega

theorem UtcTimestamp.toText_ascii (timestamp : UtcTimestamp) :
    timestamp.toText.all isAscii := by
  have dash : isAscii (point '-') := by decide
  have marker : isAscii (point 'T') := by decide
  have colon : isAscii (point ':') := by decide
  have period : isAscii (point '.') := by decide
  have zone : isAscii (point 'Z') := by decide
  simp only [toText, List.all_append, List.all_cons, List.all_nil,
    zeroPadded_ascii, dash, marker, colon, period, zone, Bool.and_self]

/-- Every field has a fixed width, so the text determines the instant. -/
theorem UtcTimestamp.toText_injective :
    Function.Injective UtcTimestamp.toText := by
  intro left right equal
  have leftRanges := Civil.isValid_iff.mp left.valid
  have rightRanges := Civil.isValid_iff.mp right.valid
  have leftDays :=
    Civil.daysInMonth_le left.civil.year left.civil.month
  have rightDays :=
    Civil.daysInMonth_le right.civil.year right.civil.month
  simp only [toText, List.append_assoc, List.cons_append] at equal
  obtain ⟨year, equal⟩ :=
    zeroPadded_append (by omega) (by omega) equal
  obtain ⟨month, equal⟩ :=
    zeroPadded_append (by omega) (by omega) equal
  obtain ⟨day, equal⟩ :=
    zeroPadded_append (by omega) (by omega) equal
  obtain ⟨hour, equal⟩ :=
    zeroPadded_append (by omega) (by omega) equal
  obtain ⟨minute, equal⟩ :=
    zeroPadded_append (by omega) (by omega) equal
  obtain ⟨second, equal⟩ :=
    zeroPadded_append (by omega) (by omega) equal
  obtain ⟨microsecond, _⟩ :=
    zeroPadded_append (by omega) (by omega) equal
  exact UtcTimestamp.ext
    (Civil.ext year month day hour minute second microsecond)

/-! ## Durations -/

/-- `Duration.MAX_MICROSECONDS`: one year. -/
def maxDurationMicroseconds : Int := 365 * 86400 * 1000000

/-- `_validate_duration`. -/
def validateDuration (microseconds : Int) : Except PythonError Unit :=
  require (0 ≤ microseconds && microseconds ≤ maxDurationMicroseconds)
    (.valueError (text "duration must be between zero and one year"))

structure Duration where
  microseconds : Int
  valid : validateDuration microseconds = .ok ()
deriving DecidableEq

theorem Duration.ext {left right : Duration}
    (equal : left.microseconds = right.microseconds) :
    left = right := by
  cases left
  cases right
  cases equal
  rfl

/-- An offset moves the calendar across midnight into the next year. -/
example :
    (UtcTimestamp.parse (text "2024-12-31T23:30:00.5-01:15")).toOption.map
        UtcTimestamp.toText =
      some (text "2025-01-01T00:45:00.500000Z") := by
  decide +kernel

end ParityGrid.Domain
