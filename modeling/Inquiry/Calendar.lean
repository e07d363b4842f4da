import Inquiry.Decimal.Digits

/-!
Instants as milliseconds since 1970-01-01 UTC in the proleptic Gregorian calendar, and their
internet date form `YYYY-MM-DDTHH:MM:SS[.fraction](Z|±HH:MM)`.
-/
namespace Inquiry.Calendar

def isLeap (year : Int) : Bool := year % 4 == 0 && (year % 100 != 0 || year % 400 == 0)

def monthLength (year : Int) (month : Nat) : Nat :=
  match month with
  | 2 => if isLeap year then 29 else 28
  | 4 | 6 | 9 | 11 => 30
  | _ => 31

def daysBeforeMonth (year : Int) : Nat → Nat
  | 0 | 1 => 0
  | month + 2 => daysBeforeMonth year (month + 1) + monthLength year (month + 1)

def daysBeforeYear (year : Int) : Int :=
  365 * year + (year + 3).fdiv 4 - (year + 99).fdiv 100 + (year + 399).fdiv 400

/-- The day of 1970-01-01, counted from the start of year 0. -/
def epochDay : Int := 719528

def dayNumber (year : Int) (month day : Nat) : Int :=
  daysBeforeYear year + daysBeforeMonth year month + (day - 1 : Int) - epochDay

def isDate (year : Int) (month day : Nat) : Bool :=
  1 ≤ month && month ≤ 12 && 1 ≤ day && day ≤ monthLength year month

structure Date where
  year : Int
  month : Nat
  day : Nat

def monthOfDay (year : Int) (day : Nat) : Nat :=
  ((List.range 12).filter fun earlier => daysBeforeMonth year (earlier + 1) ≤ day).length

def dateOfDay (days : Int) : Date :=
  let fromZero := days + epochDay
  -- the mean year has 365.2425 days, so the guess is off by one at most
  let guess := (fromZero * 400).fdiv 146097
  let year :=
    if daysBeforeYear (guess + 1) ≤ fromZero then guess + 1
    else if fromZero < daysBeforeYear guess then guess - 1 else guess
  let rest := (fromZero - daysBeforeYear year).toNat
  let month := monthOfDay year rest
  ⟨year, month, rest - daysBeforeMonth year month + 1⟩

def msPerDay : Int := 86400000

structure Moment where
  date : Date
  hour : Nat
  minute : Nat
  second : Nat
  milli : Nat

def momentOf (millis : Int) : Moment :=
  let rest := (millis.fmod msPerDay).toNat
  ⟨dateOfDay (millis.fdiv msPerDay), rest / 3600000, rest / 60000 % 60, rest / 1000 % 60,
    rest % 1000⟩

def digits? (count : Nat) (text : List Char) : Option (Nat × List Char) :=
  let front := text.take count
  if front.length = count && front.all Char.isDigit then
    some (Decimal.valueOf front, text.drop count)
  else none

def mark? (c : Char) : List Char → Option (List Char)
  | d :: rest => if d = c then some rest else none
  | [] => none

/-- Nanoseconds of a fraction, of which nine digits count; zero without one. -/
def fraction? (text : List Char) : Option (Nat × List Char) :=
  match text with
  | '.' :: rest =>
    let digits := rest.takeWhile Char.isDigit
    if digits.isEmpty then none
    else
      let nine := (digits ++ List.replicate 9 '0').take 9
      some (Decimal.valueOf nine, rest.dropWhile Char.isDigit)
  | _ => some (0, text)

/-- Minutes east of UTC; nothing may follow. -/
def offset? : List Char → Option Int
  | ['Z'] | ['z'] => some 0
  | sign :: rest => do
    let factor ← if sign = '+' then some 1 else if sign = '-' then some (-1) else none
    let (hours, rest) ← digits? 2 rest
    let rest ← mark? ':' rest
    let (minutes, rest) ← digits? 2 rest
    if hours ≤ 23 && minutes ≤ 59 && rest.isEmpty then some (factor * (60 * hours + minutes))
    else none
  | [] => none

def nanosPerMinute : Int := 60000000000

/-- A leap second can stand only at the end of the last day of a month in UTC. -/
def mayLeap (nanos : Int) : Bool :=
  let next := dateOfDay ((nanos + 1000000000).fdiv (1440 * nanosPerMinute))
  next.day == 1 && (nanos + 1000000000).fmod (1440 * nanosPerMinute) < 1000000000

/--
Nanoseconds since the epoch of a date and time with an offset. Second 60 reads as the last
nanosecond of second 59.
-/
def nanosOf? (year month day hour minute second nanos : Nat) (offset : Int) : Option Int :=
  if !(isDate year month day && hour ≤ 23 && minute ≤ 59 && second ≤ 60) then none
  else
    let minutes := dayNumber year month day * 1440 + (60 * hour + minute : Nat) - offset
    if second = 60 then
      let total := minutes * nanosPerMinute + 59999999999
      if mayLeap total then some total else none
    else some (minutes * nanosPerMinute + (second * 1000000000 + nanos : Nat))

/-- Any one ASCII character may stand between date and time. -/
def instant? (text : List Char) : Option Int := do
  let (year, rest) ← digits? 4 text
  let rest ← mark? '-' rest
  let (month, rest) ← digits? 2 rest
  let rest ← mark? '-' rest
  let (day, rest) ← digits? 2 rest
  let separator ← rest.head?
  if 0x80 ≤ separator.toNat then none
  let (hour, rest) ← digits? 2 (rest.drop 1)
  let rest ← mark? ':' rest
  let (minute, rest) ← digits? 2 rest
  let rest ← mark? ':' rest
  let (second, rest) ← digits? 2 rest
  let (nanos, rest) ← fraction? rest
  let offset ← offset? rest
  let total ← nanosOf? year month day hour minute second nanos offset
  return total.tdiv 1000000

def fractionDigits (milli : Nat) : List Char :=
  ((Decimal.padded 3 milli).reverse.dropWhile (· == '0')).reverse

def dateText (date : Date) : List Char :=
  let sign := if date.year < 0 then ['-'] else if 9999 < date.year then ['+'] else []
  sign ++ Decimal.padded 4 date.year.natAbs ++ '-' :: Decimal.padded 2 date.month
    ++ '-' :: Decimal.padded 2 date.day

/-- `YYYY-MM-DD H:MM:SS.f +00:00:00`, or the milliseconds where the year has over six digits. -/
def spacedText (millis : Int) : List Char :=
  let moment := momentOf millis
  if 999999 < moment.date.year.natAbs then Decimal.ofInt millis
  else
    let fraction := fractionDigits moment.milli
    dateText moment.date ++ ' ' :: Decimal.ofNat moment.hour ++ ':' :: Decimal.padded 2 moment.minute
      ++ ':' :: Decimal.padded 2 moment.second
      ++ '.' :: (if fraction.isEmpty then ['0'] else fraction) ++ " +00:00:00".toList

def internetText? (millis : Int) : Option (List Char) :=
  let moment := momentOf millis
  if 0 ≤ moment.date.year && moment.date.year ≤ 9999 then
    let fraction := fractionDigits moment.milli
    some <| dateText moment.date ++ 'T' :: Decimal.padded 2 moment.hour
      ++ ':' :: Decimal.padded 2 moment.minute ++ ':' :: Decimal.padded 2 moment.second
      ++ (if fraction.isEmpty then [] else '.' :: fraction) ++ ['Z']
  else none

end Inquiry.Calendar
