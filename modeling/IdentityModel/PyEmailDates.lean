import IdentityModel.PyNumbers

/-!
# Dates of e-mail headers in Python

`parsedate_to_datetime` of `email.utils` in Python 3.13, over `_parsedate_tz`, `timedelta`, `timezone`
and `datetime`. The letter case and the digits of Unicode belong to the interpreter. Of the errors only
those are told apart that are no `ValueError`.
-/
namespace IdentityModel.Py.EmailDates

open Url (afterLast splitAll)

/-- Of the interpreter: its numbers, `str.isdigit` of a character, `str.lower` and `str.upper`. -/
structure Unicode where
  numbers : NumberPlatform
  isDigit : Char → Bool
  lower : List Char → List Char
  upper : List Char → List Char

/-- `_monthnames`. -/
def monthNames : List String :=
  ["jan", "feb", "mar", "apr", "may", "jun", "jul", "aug", "sep", "oct", "nov", "dec",
    "january", "february", "march", "april", "may", "june", "july", "august", "september", "october",
    "november", "december"]

/-- `_daynames`. -/
def dayNames : List String := ["mon", "tue", "wed", "thu", "fri", "sat", "sun"]

/-- `_timezones`: hours and minutes, as in an offset. -/
def timezones : List (String × ℤ) :=
  [("UT", 0), ("UTC", 0), ("GMT", 0), ("Z", 0), ("AST", -400), ("ADT", -300), ("EST", -500),
    ("EDT", -400), ("CST", -600), ("CDT", -500), ("MST", -700), ("MDT", -600), ("PST", -800),
    ("PDT", -700)]

/-- The words behind the name of a day. -/
def skipDay (u : Unicode) : List (List Char) → List (List Char)
  | [] => []
  | first :: rest =>
      if first.getLast? = some ',' ∨ String.ofList (u.lower first) ∈ dayNames then rest
      else afterLast ',' first :: rest

/-- RFC 850 writes the day with hyphens. -/
def splitHyphens : List (List Char) → List (List Char)
  | [first, time, zone] =>
      let stuff := splitAll '-' first
      if stuff.length = 3 then stuff ++ [time, zone] else [first, time, zone]
  | data => data

/-- The offset may follow the time at once. -/
def splitZone : List (List Char) → List (List Char)
  | [dd, mm, yy, s] =>
      match (s.idxOf? '+').or (s.idxOf? '-') with
      | some (i + 1) => [dd, mm, yy, s.take (i + 1), s.drop (i + 1)]
      | _ => [dd, mm, yy, s, []]
  | data => data

/-- The number of a month. -/
def month? (name : List Char) : Option ℤ :=
  (monthNames.idxOf? (String.ofList name)).map fun i =>
    if 12 < i + 1 then (i : ℤ) + 1 - 12 else i + 1

/-- The day and the month, in either order. -/
def dayAndMonth? (u : Unicode) (dd mm : List Char) : Option (List Char × ℤ) :=
  match month? (u.lower mm) with
  | some month => some (dd, month)
  | none => (month? (u.lower dd)).map fun month => (u.lower mm, month)

def dropComma (s : List Char) : List Char := if s.getLast? = some ',' then s.dropLast else s

/-- Hours, minutes and seconds. -/
def clock? (tm : List Char) : Option (List Char × List Char × List Char) :=
  match splitAll ':' tm with
  | [thh, tmm] => some (thh, tmm, ['0'])
  | [thh, tmm, tss] => some (thh, tmm, tss)
  | [time] =>
      match splitAll '.' time with
      | [thh, tmm] => some (thh, tmm, ['0'])
      | [thh, tmm, tss] => some (thh, tmm, tss)
      | _ => none
  | _ => none

/-- A year of two digits lies between 1969 and 2068. -/
def fullYear (year : ℤ) : ℤ :=
  if year < 100 then if 68 < year then year + 1900 else year + 2000 else year

/-- The offset in seconds; `-0000` is none. -/
def offset? (u : Unicode) (tz : List Char) : Option ℤ :=
  let tz := u.upper tz
  let hhmm := match timezones.lookup (String.ofList tz) with
    | some hhmm => some hhmm
    | none => (int? u.numbers tz).filter fun hhmm => ¬(hhmm = 0 ∧ tz.head? = some '-')
  hhmm.map fun hhmm => hhmm.sign * (hhmm.natAbs / 100 * 3600 + hhmm.natAbs % 100 * 60)

/-- The fields that are read of a date. -/
structure Fields where
  year : ℤ
  month : ℤ
  day : ℤ
  hour : ℤ
  minute : ℤ
  second : ℤ
  offset : Option ℤ
  deriving DecidableEq, Repr

/-- `_parsedate_tz`. -/
def parsedateTz (u : Unicode) (data : String) : Option Fields :=
  match splitZone (splitHyphens (skipDay u ((pySplit data).map String.toList))) with
  | dd :: mm :: yy :: tm :: tz :: _ =>
      if dd = [] ∨ mm = [] ∨ yy = [] then none
      else do
        let (dd, month) ← dayAndMonth? u dd mm
        let (yy, tm) := if 0 < (yy.idxOf? ':').getD 0 then (tm, yy) else (yy, tm)
        let yy := dropComma yy
        guard (yy ≠ [])
        let (yy, tz) := if yy.head?.any u.isDigit then (yy, tz) else (tz, yy)
        let (thh, tmm, tss) ← clock? (dropComma tm)
        let year ← int? u.numbers yy
        let day ← int? u.numbers (dropComma dd)
        let hour ← int? u.numbers thh
        let minute ← int? u.numbers tmm
        let second ← int? u.numbers tss
        return ⟨fullYear year, month, day, hour, minute, second, offset? u tz⟩
  | _ => none

/-- What is raised: a `ValueError`, or an `OverflowError`. -/
inductive DateError
  | value
  | overflow (message : String)
  deriving DecidableEq, Repr

def isLeap (year : ℤ) : Bool := year % 4 = 0 && (year % 100 ≠ 0 || year % 400 = 0)

/-- `_DAYS_IN_MONTH`, of a common year. -/
def monthLengths : List ℤ := [31, 28, 31, 30, 31, 30, 31, 31, 30, 31, 30, 31]

def daysInMonth (year month : ℤ) : ℤ :=
  if month = 2 ∧ isLeap year then 29 else monthLengths.getD (month.toNat - 1) 0

/-- `_days_before_month`. -/
def daysBeforeMonth (year month : ℤ) : ℤ :=
  (monthLengths.take (month.toNat - 1)).sum + if 2 < month ∧ isLeap year then 1 else 0

/-- `_days_before_year`. -/
def daysBeforeYear (year : ℤ) : ℤ :=
  let y := year - 1
  y * 365 + y / 4 - y / 100 + y / 400

namespace Fields

/-- `_check_date_fields` and `_check_time_fields`. -/
def Valid (f : Fields) : Prop :=
  (1 ≤ f.year ∧ f.year ≤ 9999) ∧ (1 ≤ f.month ∧ f.month ≤ 12) ∧
    (1 ≤ f.day ∧ f.day ≤ daysInMonth f.year f.month) ∧ (0 ≤ f.hour ∧ f.hour ≤ 23) ∧
    (0 ≤ f.minute ∧ f.minute ≤ 59) ∧ 0 ≤ f.second ∧ f.second ≤ 59

instance (f : Fields) : Decidable f.Valid := inferInstanceAs (Decidable (_ ∧ _))

/-- The numbers that `datetime` takes. -/
def numbers (f : Fields) : List ℤ := [f.year, f.month, f.day, f.hour, f.minute, f.second]

/-- The seconds since 1970; without an offset in UTC. -/
def seconds (f : Fields) : ℤ :=
  let ordinal := daysBeforeYear f.year + daysBeforeMonth f.year f.month + f.day
  (ordinal - 719163) * 86400 + f.hour * 3600 + f.minute * 60 + f.second - f.offset.getD 0

end Fields

/-- A `datetime`. -/
abbrev Datetime := {f : Fields // f.Valid}

/-- `timestamp`, with UTC in the place of no offset. -/
def timestamp (t : Datetime) : Float64 := .ofRat t.val.seconds

/-- What keeps a number from a C `int`. -/
def cIntError (n : ℤ) : Option String :=
  if n < -2 ^ 63 ∨ 2 ^ 63 ≤ n then some "Python int too large to convert to C long"
  else if 2 ^ 31 ≤ n then some "signed integer is greater than maximum"
  else if n < -2 ^ 31 then some "signed integer is less than minimum"
  else none

/-- `timezone(timedelta(seconds=...))`. -/
def timezone (seconds : ℤ) : Except DateError Unit :=
  let days := seconds / 86400
  if days < -2 ^ 31 ∨ 2 ^ 31 ≤ days then .error (.overflow "Python int too large to convert to C int")
  else if 999999999 < |days| then
    .error (.overflow ("days=" ++ toString days ++ "; must have magnitude <= 999999999"))
  else if 86400 ≤ |seconds| then .error .value
  else .ok ()

/-- `datetime`. -/
def datetime (f : Fields) : Except DateError Datetime :=
  match f.numbers.findSome? cIntError with
  | some message => .error (.overflow message)
  | none => if h : f.Valid then .ok ⟨f, h⟩ else .error .value

/-- `parsedate_to_datetime`: the offset is made before the date. -/
def parsedateToDatetime (u : Unicode) (data : String) : Except DateError Datetime :=
  match parsedateTz u data with
  | none => .error .value
  | some f =>
      match f.offset.map timezone with
      | some (.error e) => .error e
      | _ => datetime f

end IdentityModel.Py.EmailDates
