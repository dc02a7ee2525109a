import YamlOrder.Text.Integer

/-!
This module contains the date and time formats of plain scalars, and the text of a point in time.
-/

namespace YamlOrder
namespace Yaml

/-- A point in time as the clock shows it in a time zone, whose offset is in seconds. -/
structure Timestamp where
  year : Nat
  month : Nat
  day : Nat
  hour : Nat := 0
  minute : Nat := 0
  second : Nat := 0
  nanosecond : Nat := 0
  offset : Int := 0
  deriving DecidableEq, Repr, Inhabited

namespace Timestamp

/-- A number of one or two digits and what follows it. -/
def number? : Text → Option (Nat × Text)
  | a :: b :: t =>
    if Text.isDigit a then
      if Text.isDigit b then some ((a.toNat - 48) * 10 + (b.toNat - 48), t)
      else some (a.toNat - 48, b :: t)
    else
      none
  | [a] => if Text.isDigit a then some (a.toNat - 48, []) else none
  | [] => none

/-- What follows a byte. -/
def after? (b : UInt8) : Text → Option Text
  | c :: t => if c == b then some t else none
  | [] => none

def isLeapYear (year : Nat) : Bool := year % 4 == 0 && (year % 100 != 0 || year % 400 == 0)

def daysIn (year month : Nat) : Nat :=
  if month == 2 then (if isLeapYear year then 29 else 28)
  else if month == 4 || month == 6 || month == 9 || month == 11 then 30
  else 31

/-- A date with a year of four digits and what follows it. -/
def date? (t : Text) : Option (Timestamp × Text) := do
  let digits := t.takeWhile Text.isDigit
  let year ← if digits.length == 4 then Text.digits? digits else none
  let t ← after? 45 (t.drop 4)
  let (month, t) ← number? t
  let t ← after? 45 t
  let (day, t) ← number? t
  if 1 ≤ month && month ≤ 12 && 1 ≤ day && day ≤ daysIn year month then
    some ({ year, month, day }, t)
  else none

/-- The digits of a fraction of a second as nanoseconds; only the first nine count. -/
def nanoseconds (digits : Text) : Nat :=
  let digits := digits.take 9
  (Text.digits? digits).getD 0 * Nat.pow 10 (9 - digits.length)

/-- The fraction of a second, if there is one, and what follows it. -/
def fraction : Text → Nat × Text
  | p :: t =>
    let digits := t.takeWhile Text.isDigit
    if (p == 46 || p == 44) && !digits.isEmpty then (nanoseconds digits, t.dropWhile Text.isDigit)
    else (0, p :: t)
  | [] => (0, [])

/-- A time of a day and what follows it. -/
def time? (day : Timestamp) (t : Text) : Option (Timestamp × Text) := do
  let (hour, t) ← number? t
  let t ← after? 58 t
  let (minute, t) ← number? t
  let t ← after? 58 t
  let (second, t) ← number? t
  let (nanosecond, t) := fraction t
  if hour < 24 && minute < 60 && second < 60 then
    some ({ day with hour, minute, second, nanosecond }, t)
  else none

/-- The offset of a time zone: `Z`, or a sign, hours and minutes. -/
def zone? : Text → Option Int
  | [90] => some 0
  | [sign, a, b, 58, c, d] => do
    let hours ← Text.digits? [a, b]
    let minutes ← Text.digits? [c, d]
    let seconds : Int := (hours * 60 + minutes) * 60
    if hours ≤ 24 && minutes ≤ 60 then
      if sign == 43 then some seconds else if sign == 45 then some (-seconds) else none
    else
      none
  | _ => none

/--
Read a date, a date and a time separated by spaces, or a date and a time with a zone separated by a
letter T.
-/
def parse? (t : Text) : Option Timestamp := do
  match ← date? t with
  | (day, []) => return day
  | (day, b :: rest) =>
    if b == 84 || b == 116 then
      let (time, rest) ← time? day rest
      let offset ← zone? rest
      return { time with offset }
    else if b == 32 then
      let (time, rest) ← time? day (rest.dropWhile (· == 32))
      if rest.isEmpty then return time else none
    else
      none

def isTimestamp (t : Text) : Bool := (parse? t).isSome

/-! The text of a point in time. -/

/-- A number with zeros before it. -/
def padded (width n : Nat) : Text :=
  let digits := Text.ofNat n
  List.replicate (width - digits.length) 48 ++ digits

/-- A fraction of a second without the zeros at its end. -/
def fractionText (t : Timestamp) : Text :=
  if t.nanosecond == 0 then []
  else 46 :: ((padded 9 t.nanosecond).reverse.dropWhile (· == 48)).reverse

/-- The hours and minutes of an offset with its sign, separated by the given text. -/
def offsetText (separator : Text) (t : Timestamp) : Text :=
  let minutes := t.offset.natAbs / 60
  (if t.offset < 0 then 45 else 43) :: padded 2 (minutes / 60) ++ separator ++
    padded 2 (minutes % 60)

def dateText (t : Timestamp) : Text :=
  padded 4 t.year ++ 45 :: padded 2 t.month ++ 45 :: padded 2 t.day

def timeText (t : Timestamp) : Text :=
  padded 2 t.hour ++ 58 :: padded 2 t.minute ++ 58 :: padded 2 t.second ++ t.fractionText

/-- The date and the time with a letter T between them and the zone after them. -/
def toText (t : Timestamp) : Text :=
  t.dateText ++ 84 :: t.timeText ++ if t.offset == 0 then [90] else t.offsetText ":"

/--
The date, the time, the offset and the name of the zone, which is the offset again but for UTC.
-/
def display (t : Timestamp) : Text :=
  t.dateText ++ Text.space :: t.timeText ++ Text.space :: t.offsetText [] ++
    Text.space :: if t.offset == 0 then "UTC" else t.offsetText []

end Timestamp
end Yaml
end YamlOrder
