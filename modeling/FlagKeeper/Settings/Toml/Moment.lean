import FlagKeeper.Json.Token

/-!
# Dates and times of a settings file in TOML

A moment is a date, a time of day or both, then perhaps with a distance from universal time. Only what a calendar and a clock
show can be written: the days of February depend on the year, and a minute may have a leap second. A moment is kept as its text,
which is always written in one way.
-/

namespace FlagKeeper

namespace Toml

/-- A day of the calendar. -/
structure CalendarDay where
  year : Nat
  month : Nat
  day : Nat
  deriving DecidableEq, Repr

/-- A time of day, down to nanoseconds. -/
structure DayTime where
  hour : Nat
  minute : Nat
  second : Nat
  nanos : Nat
  deriving DecidableEq, Repr

/-- The distance of a local time from universal time. -/
inductive TimeOffset where
  /-- No distance. -/
  | universal
  /-- So many minutes ahead. -/
  | minutes (n : Int)
  deriving DecidableEq, Repr

/-- A moment. -/
inductive Moment where
  | day (d : CalendarDay)
  | time (t : DayTime)
  | both (d : CalendarDay) (t : DayTime) (offset : Option TimeOffset)
  deriving DecidableEq, Repr

/-- Whether a year has a leap day. -/
def isLeapYear (year : Nat) : Bool := year % 4 = 0 && (year % 100 != 0 || year % 400 = 0)

/-- How many days a month has. -/
def daysIn (year month : Nat) : Nat :=
  if month = 2 then if isLeapYear year then 29 else 28
  else if month = 4 || month = 6 || month = 9 || month = 11 then 30
  else 31

/-- The number that exactly `count` digits at the front write. -/
def fixedDigits? (count : Nat) (s : List Char) : Option (Nat × List Char) :=
  let ds := s.take count
  if ds.length = count && ds.all Char.isDigit then some (Json.digitsValue ds, s.drop count) else none

/-- The number between two bounds that two digits at the front write. -/
def twoDigits? (least most : Nat) (s : List Char) : Option (Nat × List Char) := do
  let (n, rest) ← fixedDigits? 2 s
  if least ≤ n && n ≤ most then some (n, rest) else none

/-- Drops a mark at the front. -/
def mark? (mark : Char) : List Char → Option (List Char)
  | c :: rest => if c = mark then some rest else none
  | [] => none

/-- A day: year, month and day of the month. -/
def calendarDay? (s : List Char) : Option (CalendarDay × List Char) := do
  let (year, rest) ← fixedDigits? 4 s
  let (month, rest) ← twoDigits? 1 12 (← mark? '-' rest)
  let (day, rest) ← twoDigits? 1 (daysIn year month) (← mark? '-' rest)
  return (⟨year, month, day⟩, rest)

/-- How many digits a fraction of a second keeps; the others are cut off. -/
def fractionPlaces : Nat := 9

/-- The nanoseconds of a fraction of a second; none where there is no point before digits. -/
def secondFraction (s : List Char) : Nat × List Char :=
  match s with
  | '.' :: rest =>
    match Json.digits rest with
    | ([], _) => (0, s)
    | (ds, rest) =>
      let kept := ds.take fractionPlaces
      (Json.digitsValue (kept ++ List.replicate (fractionPlaces - kept.length) '0'), rest)
  | _ => (0, s)

/-- A time of day. -/
def dayTime? (s : List Char) : Option (DayTime × List Char) := do
  let (hour, rest) ← twoDigits? 0 23 s
  let (minute, rest) ← twoDigits? 0 59 (← mark? ':' rest)
  let (second, rest) ← twoDigits? 0 60 (← mark? ':' rest)
  let (nanos, rest) := secondFraction rest
  return (⟨hour, minute, second, nanos⟩, rest)

/-- The minutes of a distance behind its sign. -/
def offsetMinutes? (s : List Char) : Option (Nat × List Char) := do
  let (hours, rest) ← twoDigits? 0 23 s
  let (minutes, rest) ← twoDigits? 0 59 (← mark? ':' rest)
  return (hours * 60 + minutes, rest)

/-- A distance from universal time. -/
def timeOffset? : List Char → Option (TimeOffset × List Char)
  | [] => none
  | c :: rest =>
    if c = 'Z' || c = 'z' then some (.universal, rest)
    else if c = '+' then (offsetMinutes? rest).map fun (n, rest) => (.minutes n, rest)
    else if c = '-' then (offsetMinutes? rest).map fun (n, rest) => (.minutes (-n), rest)
    else none

/-- A time of day behind the mark that separates it from a date. -/
def timeOfDate? : List Char → Option (DayTime × List Char)
  | [] => none
  | c :: rest => if c = 'T' || c = 't' || c = ' ' then dayTime? rest else none

/-- A moment. A date that no time follows stands alone. -/
def moment? (s : List Char) : Option (Moment × List Char) :=
  match calendarDay? s with
  | none => (dayTime? s).map fun (t, rest) => (.time t, rest)
  | some (d, rest) =>
    match timeOfDate? rest with
    | none => some (.day d, rest)
    | some (t, rest) =>
      match timeOffset? rest with
      | none => some (.both d t none, rest)
      | some (offset, rest) => some (.both d t (some offset), rest)

/-- The digits of a number, filled up with zeros in front. -/
def filledDigits (width n : Nat) : List Char :=
  let ds := Nat.toDigits 10 n
  List.replicate (width - ds.length) '0' ++ ds

/-- Drops the zeros at the end. -/
def dropEndZeros (ds : List Char) : List Char := (ds.reverse.dropWhile (· = '0')).reverse

/-- The text of a day. -/
def CalendarDay.text (d : CalendarDay) : List Char :=
  filledDigits 4 d.year ++ '-' :: filledDigits 2 d.month ++ '-' :: filledDigits 2 d.day

/-- The text of a time of day. Its fraction is as short as can be. -/
def DayTime.text (t : DayTime) : List Char :=
  let fraction := if t.nanos = 0 then [] else '.' :: dropEndZeros (filledDigits fractionPlaces t.nanos)
  filledDigits 2 t.hour ++ ':' :: filledDigits 2 t.minute ++ ':' :: filledDigits 2 t.second ++ fraction

/-- The text of a distance from universal time. -/
def TimeOffset.text : TimeOffset → List Char
  | .universal => ['Z']
  | .minutes n =>
    (if n < 0 then '-' else '+') :: filledDigits 2 (n.natAbs / 60) ++ ':' :: filledDigits 2 (n.natAbs % 60)

/-- The text of a moment. -/
def Moment.text : Moment → String
  | .day d => String.ofList d.text
  | .time t => String.ofList t.text
  | .both d t offset => String.ofList (d.text ++ 'T' :: t.text ++ (offset.map TimeOffset.text).getD [])

end Toml

end FlagKeeper
