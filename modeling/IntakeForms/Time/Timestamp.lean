/-!
Civil dates with a time of day to the microsecond and, if known, an offset from
universal time in minutes.  `instant` puts them in order; `iso` and `isoPlain`
are their two written forms, and `described` spells them out.
-/

namespace IntakeForms

def leapYear (y : Nat) : Bool := y % 4 == 0 && (y % 100 != 0 || y % 400 == 0)

def daysInMonth (y m : Nat) : Nat :=
  if m = 2 then if leapYear y then 29 else 28
  else if m = 4 ∨ m = 6 ∨ m = 9 ∨ m = 11 then 30
  else 31

structure Timestamp where
  year : Nat
  month : Nat
  day : Nat
  hour : Nat
  minute : Nat
  second : Nat
  micro : Nat
  offset : Option Int
deriving DecidableEq, Repr, Inhabited

namespace Timestamp

structure Valid (t : Timestamp) : Prop where
  year_pos : 1 ≤ t.year
  year_lt : t.year < 10000
  month_pos : 1 ≤ t.month
  month_le : t.month ≤ 12
  day_pos : 1 ≤ t.day
  day_le : t.day ≤ daysInMonth t.year t.month
  hour_lt : t.hour < 24
  minute_lt : t.minute < 60
  second_lt : t.second < 60
  micro_lt : t.micro < 1000000
  offset_lt : ∀ o ∈ t.offset, o.natAbs < 1440

def daysFromEpoch (y m d : Nat) : Int :=
  let y' : Int := if m ≤ 2 then (y : Int) - 1 else y
  let era := y' / 400
  let yearOfEra := y' - era * 400
  let month : Int := if m ≤ 2 then (m : Int) + 9 else (m : Int) - 3
  let dayOfYear := (153 * month + 2) / 5 + d - 1
  era * 146097 + yearOfEra * 365 + yearOfEra / 4 - yearOfEra / 100 + dayOfYear - 719468

def civil (days : Int) : Nat × Nat × Nat :=
  let z := days + 719468
  let era := z / 146097
  let dayOfEra := z - era * 146097
  let yearOfEra := (dayOfEra - dayOfEra / 1460 + dayOfEra / 36524 - dayOfEra / 146096) / 365
  let dayOfYear := dayOfEra - (365 * yearOfEra + yearOfEra / 4 - yearOfEra / 100)
  let m := (5 * dayOfYear + 2) / 153
  let d := dayOfYear - (153 * m + 2) / 5 + 1
  let month := if m < 10 then m + 3 else m - 9
  let year := yearOfEra + era * 400 + if month ≤ 2 then 1 else 0
  (year.toNat, month.toNat, d.toNat)

def ofMicros (us : Int) : Timestamp :=
  let day := us / 86400000000
  let rest := (us - day * 86400000000).toNat
  let (y, m, d) := civil day
  { year := y, month := m, day := d
    hour := rest / 3600000000
    minute := rest / 60000000 % 60
    second := rest / 1000000 % 60
    micro := rest % 1000000
    offset := some 0 }

/-- Microseconds since 1970 began in universal time; an unknown offset counts as none. -/
def instant (t : Timestamp) : Int :=
  let seconds := daysFromEpoch t.year t.month t.day * 86400 +
    (t.hour * 3600 + t.minute * 60 + t.second : Nat) - t.offset.getD 0 * 60
  seconds * 1000000 + t.micro

def padded : (width : Nat) → Nat → List Char
  | 0, _ => []
  | w + 1, n => padded w (n / 10) ++ [Char.ofNat (48 + n % 10)]

def date (t : Timestamp) : List Char :=
  padded 4 t.year ++ '-' :: padded 2 t.month ++ '-' :: padded 2 t.day

def clock (t : Timestamp) : List Char :=
  padded 2 t.hour ++ ':' :: padded 2 t.minute ++ ':' :: padded 2 t.second ++
    if t.micro = 0 then [] else '.' :: padded 6 t.micro

def hoursMinutes (o : Int) : List Char :=
  (if o < 0 then '-' else '+') :: padded 2 (o.natAbs / 60) ++ ':' :: padded 2 (o.natAbs % 60)

def iso (t : Timestamp) : String :=
  String.ofList (t.date ++ 'T' :: t.clock ++ match t.offset with
    | none => []
    | some o => if o = 0 then ['Z'] else hoursMinutes o)

def isoPlain (separator : Char) (t : Timestamp) : String :=
  String.ofList (t.date ++ separator :: t.clock ++ match t.offset with
    | none => []
    | some o => hoursMinutes o)

def universal (t : Timestamp) : Timestamp := ofMicros t.instant

/-- The hour and the minute, and further parts up to the last one that is not zero. -/
def clockParts (t : Timestamp) : List Nat :=
  if t.micro ≠ 0 then [t.hour, t.minute, t.second, t.micro]
  else if t.second ≠ 0 then [t.hour, t.minute, t.second]
  else [t.hour, t.minute]

/-- The offset spelled out as days and seconds, where the seconds are not negative. -/
def offsetParts (o : Int) : String :=
  if o = 0 then "datetime.timezone.utc"
  else
    let days := if o < 0 then "days=-1, " else ""
    "datetime.timezone(datetime.timedelta(" ++ days ++ "seconds=" ++
      toString (o * 60 % 86400) ++ "))"

def described (t : Timestamp) : String :=
  let parts := [t.year, t.month, t.day] ++ t.clockParts
  let zone := match t.offset with
    | none => ""
    | some o => ", tzinfo=" ++ offsetParts o
  "datetime.datetime(" ++ ", ".intercalate (parts.map toString) ++ zone ++ ")"

end Timestamp

end IntakeForms
