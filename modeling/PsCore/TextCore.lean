import PsCore.TypesCore

/-!
The text and calendar primitives of the source language that the services use:
falsy defaults, joined parts, `str.split`, `strftime` and `strptime`.
-/

namespace PsCore

def orText (text fallback : String) : String :=
  if text = "" then fallback else text

def joinParts (separator : String) (parts : List String) : String :=
  separator.intercalate (parts.filter (· ≠ ""))

def charFieldErrors (field : String) (maxLength : Nat) (blank : Bool) (value : String) : List (String × String) :=
  if value = "" then (if blank then [] else [(field, "This field cannot be blank.")])
  else if maxLength < value.length then
    [(field, "Ensure this value has at most " ++ toString maxLength ++ " characters (it has " ++
      toString value.length ++ ").")]
  else []

def isSpace (character : Char) : Bool :=
  let code := character.toNat
  (0x9 ≤ code && code ≤ 0xD) || (0x1C ≤ code && code ≤ 0x20) || code == 0x85 || code == 0xA0 ||
  code == 0x1680 || (0x2000 ≤ code && code ≤ 0x200A) || code == 0x2028 || code == 0x2029 ||
  code == 0x202F || code == 0x205F || code == 0x3000

/-- The zeros of the Unicode decimal digit ranges; each range runs from its zero to its nine. -/
def digitZeros : List Nat :=
  [0x30, 0x660, 0x6F0, 0x7C0, 0x966, 0x9E6, 0xA66, 0xAE6, 0xB66, 0xBE6, 0xC66, 0xCE6, 0xD66,
    0xDE6, 0xE50, 0xED0, 0xF20, 0x1040, 0x1090, 0x17E0, 0x1810, 0x1946, 0x19D0, 0x1A80, 0x1A90,
    0x1B50, 0x1BB0, 0x1C40, 0x1C50, 0xA620, 0xA8D0, 0xA900, 0xA9D0, 0xA9F0, 0xAA50, 0xABF0,
    0xFF10, 0x104A0, 0x10D30, 0x11066, 0x110F0, 0x11136, 0x111D0, 0x112F0, 0x11450, 0x114D0,
    0x11650, 0x116C0, 0x11730, 0x118E0, 0x11950, 0x11C50, 0x11D50, 0x11DA0, 0x11F50, 0x16A60,
    0x16AC0, 0x16B50, 0x1D7CE, 0x1D7D8, 0x1D7E2, 0x1D7EC, 0x1D7F6, 0x1E140, 0x1E2F0, 0x1E4F0,
    0x1E950, 0x1FBF0]

def digitValue (character : Char) : Option Nat :=
  (digitZeros.find? fun first => first ≤ character.toNat && character.toNat ≤ first + 9).map
    fun first => character.toNat - first

def padded (width number : Nat) : String :=
  let digits := Nat.toDigits 10 number
  String.ofList (List.replicate (width - digits.length) '0' ++ digits)

def formatAmount (amount : Money) : String :=
  (if amount < 0 then "-" else "") ++ toString (amount.natAbs / 100) ++ "." ++ padded 2 (amount.natAbs % 100)

/-- In microseconds, as every time of day and instant. -/
def minute : Nat := 60000000

def hour : Nat := 60 * minute

def day : Nat := 24 * hour

def localDate (now : Instant) : Date := now / day

def localTime (now : Instant) : TimeOfDay := now % day

def combine (date : Date) (time : TimeOfDay) : Instant := date * day + time

/-- Year, month and day of a date counted in days from 1 January 1970. -/
def civil (date : Date) : Nat × Nat × Nat :=
  let shifted := date + 719468
  let era := shifted / 146097
  let dayOfEra := shifted % 146097
  let yearOfEra := (dayOfEra - dayOfEra / 1460 + dayOfEra / 36524 - dayOfEra / 146096) / 365
  let dayOfYear := dayOfEra - (365 * yearOfEra + yearOfEra / 4 - yearOfEra / 100)
  let shiftedMonth := (5 * dayOfYear + 2) / 153
  let dayOfMonth := dayOfYear - (153 * shiftedMonth + 2) / 5 + 1
  let month := if shiftedMonth < 10 then shiftedMonth + 3 else shiftedMonth - 9
  let year := yearOfEra + era * 400
  (if month ≤ 2 then year + 1 else year, month, dayOfMonth)

example : civil 0 = (1970, 1, 1) ∧ civil 20454 = (2026, 1, 1) ∧ civil 19782 = (2024, 2, 29) := by decide

def weekday (date : Date) : Nat := (date + 3) % 7

def yearMonth (date : Date) : String :=
  let (year, month, _) := civil date
  padded 2 (year % 100) ++ padded 2 month

def isoDate (date : Date) : String :=
  let (year, month, dayOfMonth) := civil date
  padded 4 year ++ "-" ++ padded 2 month ++ "-" ++ padded 2 dayOfMonth

def hourMinute (time : TimeOfDay) : String :=
  padded 2 (time / hour) ++ ":" ++ padded 2 (time / minute % 60)

def utcOffset : Nat := 5 * hour + 30 * minute

/-- `str(now.timestamp())`: the seconds with as many decimals as the microseconds need. -/
def timestampText (now : Instant) : String :=
  let microseconds := now - utcOffset
  let decimals := ((padded 6 (microseconds % 1000000)).toList.reverse.dropWhile (· = '0')).reverse
  toString (microseconds / 1000000) ++ "." ++ (if decimals = [] then "0" else String.ofList decimals)

example : timestampText (utcOffset + 1750000000120000) = "1750000000.12" ∧
    timestampText (utcOffset + 1750000000000000) = "1750000000.0" := by decide

/-- What `%H` matches: `2[0-3]`, `[0-1]\d` or `\d`. -/
def parseHour : List Char → Option Nat
  | [digit] => digitValue digit
  | ['2', digit] => if '0' ≤ digit ∧ digit ≤ '3' then some (20 + (digit.toNat - '0'.toNat)) else none
  | [tens, digit] =>
      if tens = '0' ∨ tens = '1' then
        (digitValue digit).map fun value => 10 * (tens.toNat - '0'.toNat) + value
      else none
  | _ => none

def parseMinute : List Char → Option Nat
  | [digit] => digitValue digit
  | [tens, digit] =>
      if '0' ≤ tens ∧ tens ≤ '5' then
        (digitValue digit).map fun value => 10 * (tens.toNat - '0'.toNat) + value
      else none
  | _ => none

def strptimeHourMinute (text : String) : Option TimeOfDay :=
  let characters := text.toList
  let hourPart := characters.takeWhile (· ≠ ':')
  match characters.drop hourPart.length with
  | ':' :: minutePart => do
      let hours ← parseHour hourPart
      let minutes ← parseMinute minutePart
      pure (hours * hour + minutes * minute)
  | _ => none

def hexdigest (digest : List (Fin 256)) : String :=
  String.ofList (digest.flatMap fun byte => [Nat.digitChar (byte.val / 16), Nat.digitChar (byte.val % 16)])

def isAscii (text : String) : Bool :=
  text.toList.all fun character => character.toNat < 128

example : strptimeHourMinute "09:30" = some (9 * hour + 30 * minute) ∧ strptimeHourMinute "10:00-12:00" = none := by decide

end PsCore
