import RestQuery.Text.Whole

/-!
# Timestamps

Days, times of day, and days with a time of day, the latter also with their
distance from universal time. Days are days of the calendar; a minute may have
a leap second. The seconds may be left out of a time.
-/

namespace RestQuery
namespace Toml

/-- A day. -/
structure Day where
  year : Nat
  month : Nat
  day : Nat
  deriving DecidableEq

/-- A time of day. The fraction holds the digits behind the point, nine at most
and without zeros at the end. -/
structure Clock where
  hour : Nat
  minute : Nat
  second : Nat
  fraction : List Char
  deriving DecidableEq

/-- The distance of a time from universal time: a time is universal itself, or
some minutes ahead of it, or behind it where they are negative. -/
inductive Offset
  | universal
  | ahead (minutes : Int)
  deriving DecidableEq

/-- A day, a time of day, or both. -/
inductive Timestamp
  | day (date : Day)
  | clock (time : Clock)
  | moment (date : Day) (time : Clock) (offset : Option Offset)
  deriving DecidableEq

/-! ## Writing -/

/-- The digits of a number behind zeros that make them `width` many. -/
def padded (width n : Nat) : List Char :=
  let digits := Text.digits n
  List.replicate (width - digits.length) '0' ++ digits

namespace Day

/-- The written form of a day. -/
def chars (date : Day) : List Char :=
  padded 4 date.year ++ '-' :: padded 2 date.month ++ '-' :: padded 2 date.day

end Day

namespace Clock

/-- The fraction behind its point, unless there is none. -/
def fractionChars : List Char → List Char
  | [] => []
  | digits => '.' :: digits

/-- The written form of a time of day. -/
def chars (time : Clock) : List Char :=
  padded 2 time.hour ++ ':' :: padded 2 time.minute ++ ':' :: padded 2 time.second
    ++ fractionChars time.fraction

end Clock

namespace Offset

/-- Hours and minutes. -/
def minutesChars (minutes : Nat) : List Char :=
  padded 2 (minutes / 60) ++ ':' :: padded 2 (minutes % 60)

/-- The written form of a distance; no minutes at all are written as ahead. -/
def chars : Offset → List Char
  | universal => ['Z']
  | ahead minutes => (if minutes < 0 then '-' else '+') :: minutesChars minutes.natAbs

end Offset

namespace Timestamp

/-- The written form of an offset, if there is one. -/
def offsetChars : Option Offset → List Char
  | none => []
  | some offset => offset.chars

/-- The written form of a timestamp. -/
def chars : Timestamp → List Char
  | day date => date.chars
  | clock time => time.chars
  | moment date time offset => date.chars ++ 'T' :: time.chars ++ offsetChars offset

end Timestamp

/-! ## Reading -/

/-- The number that the first `count` characters are in digits, and the rest. -/
def readPlaces? (count : Nat) (s : List Char) : Option (Nat × List Char) :=
  let digits := s.take count
  if digits.length = count && digits.all Char.isDigit then
    some (Nat.ofDigitChars 10 digits 0, s.drop count)
  else none

/-- The rest behind a mark. -/
def behindMark? (mark : Char) : List Char → Option (List Char)
  | [] => none
  | c :: rest => if c == mark then some rest else none

/-- The year has a leap day. -/
def isLeapYear (year : Nat) : Bool :=
  year % 4 = 0 && (year % 100 ≠ 0 || year % 400 = 0)

/-- The number of days in a month. -/
def monthLength (year month : Nat) : Nat :=
  if month = 2 then if isLeapYear year then 29 else 28
  else if month = 4 || month = 6 || month = 9 || month = 11 then 30
  else 31

namespace Day

/-- The day is one of the calendar. -/
def isValid (date : Day) : Bool :=
  1 ≤ date.month && date.month ≤ 12 && 1 ≤ date.day
    && date.day ≤ monthLength date.year date.month

/-- Read a day at the start of a text. -/
def read? (s : List Char) : Option (Day × List Char) := do
  let (year, s) ← readPlaces? 4 s
  let (month, s) ← readPlaces? 2 (← behindMark? '-' s)
  let (day, s) ← readPlaces? 2 (← behindMark? '-' s)
  let date : Day := ⟨year, month, day⟩
  if date.isValid then some (date, s) else none

end Day

namespace Clock

/-- The time is one of a day. -/
def isValid (time : Clock) : Bool :=
  time.hour ≤ 23 && time.minute ≤ 59 && time.second ≤ 60

/-- The digits of a fraction that count. -/
def countedFraction (digits : List Char) : List Char :=
  ((digits.take 9).reverse.dropWhile (· == '0')).reverse

/-- Read a fraction, if there is one, at the start of a text. -/
def readFraction? : List Char → Option (List Char × List Char)
  | '.' :: rest =>
      let digits := rest.takeWhile Char.isDigit
      if digits.isEmpty then none
      else some (countedFraction digits, rest.dropWhile Char.isDigit)
  | s => some ([], s)

/-- Read the seconds, if there are any, at the start of a text. -/
def readSeconds? : List Char → Option (Nat × List Char × List Char)
  | ':' :: rest => do
      let (second, s) ← readPlaces? 2 rest
      let (fraction, s) ← readFraction? s
      return (second, fraction, s)
  | s => some (0, [], s)

/-- Read a time of day at the start of a text. -/
def read? (s : List Char) : Option (Clock × List Char) := do
  let (hour, s) ← readPlaces? 2 s
  let (minute, s) ← readPlaces? 2 (← behindMark? ':' s)
  let (second, fraction, s) ← readSeconds? s
  let time : Clock := ⟨hour, minute, second, fraction⟩
  if time.isValid then some (time, s) else none

end Clock

namespace Offset

/-- Read hours and minutes, as on a clock, that make up a whole text. -/
def readMinutes? (s : List Char) : Option Nat := do
  let (hours, s) ← readPlaces? 2 s
  let (minutes, s) ← readPlaces? 2 (← behindMark? ':' s)
  if s.isEmpty && hours ≤ 23 && minutes ≤ 59 then some (hours * 60 + minutes) else none

/-- Read a distance, if there is one, that makes up a whole text. -/
def read? : List Char → Option (Option Offset)
  | [] => some none
  | '+' :: rest => (readMinutes? rest).map fun minutes => some (ahead minutes)
  | '-' :: rest => (readMinutes? rest).map fun minutes => some (ahead (-minutes))
  | [c] => if c == 'Z' || c == 'z' then some (some universal) else none
  | _ => none

end Offset

namespace Timestamp

/-- The character may stand between a day and a time of day. -/
def isDivider (c : Char) : Bool := c == 'T' || c == 't' || c == ' '

/-- Read what stands behind a day. -/
def readBehindDay? (date : Day) : List Char → Option Timestamp
  | [] => some (day date)
  | c :: rest =>
      if isDivider c then do
        let (time, s) ← Clock.read? rest
        return moment date time (← Offset.read? s)
      else none

/-- Read a time of day that makes up a whole text. -/
def readClock? (s : List Char) : Option Timestamp :=
  match Clock.read? s with
  | some (time, []) => some (clock time)
  | _ => none

/-- Read a timestamp that makes up a whole text. -/
def read? (s : List Char) : Option Timestamp :=
  match Day.read? s with
  | some (date, rest) => readBehindDay? date rest
  | none => readClock? s

end Timestamp
end Toml
end RestQuery
