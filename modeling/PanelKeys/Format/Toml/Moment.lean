import PanelKeys.Format.Toml.Blank

/-!
# Dates and times in TOML

A moment is a date, a time of day, or a date with a time and perhaps an offset.

* `moment?` — a moment in its plain form: `T` between date and time, at most nine digits of a second
  and none that is a trailing zero, a capital `Z`.
-/

namespace PanelKeys.Toml

/-- Two digits that spell a number in a range. -/
def twoDigits? (low high : Nat) : List Char → Option (List Char × List Char)
  | a :: b :: rest =>
      let n := Nat.ofDigitChars 10 [a, b] 0
      if a.isDigit && b.isDigit && low ≤ n && n ≤ high then some ([a, b], rest) else none
  | _ => none

def isLeapYear (year : Nat) : Bool := year % 4 = 0 && (year % 100 ≠ 0 || year % 400 = 0)

def daysInMonth (year month : Nat) : Nat :=
  if month = 2 then if isLeapYear year then 29 else 28
  else if month = 4 || month = 6 || month = 9 || month = 11 then 30
  else 31

/-- A day of the calendar. -/
def date? (cs : List Char) : Option (List Char × List Char) := do
  let year := cs.take 4
  if year.length < 4 || !year.all Char.isDigit then none
  else
    let (month, rest) ← twoDigits? 1 12 (← mark? '-' (cs.drop 4))
    let days := daysInMonth (Nat.ofDigitChars 10 year 0) (Nat.ofDigitChars 10 month 0)
    let (day, rest) ← twoDigits? 1 days (← mark? '-' rest)
    some (year ++ '-' :: month ++ '-' :: day, rest)

/-- Parts of a second; those below a billionth are cut off. -/
def secondParts : List Char → List Char × List Char
  | '.' :: rest =>
      let ds := rest.takeWhile Char.isDigit
      if ds.isEmpty then ([], '.' :: rest)
      else
        let shown := ((ds.take 9).reverse.dropWhile (· = '0')).reverse
        (if shown.isEmpty then [] else '.' :: shown, rest.dropWhile Char.isDigit)
  | cs => ([], cs)

/-- A time of day; a minute may have a leap second. -/
def time? (cs : List Char) : Option (List Char × List Char) := do
  let (hour, rest) ← twoDigits? 0 23 cs
  let (minute, rest) ← twoDigits? 0 59 (← mark? ':' rest)
  let (second, rest) ← twoDigits? 0 60 (← mark? ':' rest)
  let (parts, rest) := secondParts rest
  some (hour ++ ':' :: minute ++ ':' :: second ++ parts, rest)

/-- A number of hours and minutes behind its sign. -/
def hoursMinutes? (sign : Char) (cs : List Char) : Option (List Char × List Char) := do
  let (hour, rest) ← twoDigits? 0 23 cs
  let (minute, rest) ← twoDigits? 0 59 (← mark? ':' rest)
  let zero := (hour ++ minute).all (· = '0')
  some ((if zero then '+' else sign) :: hour ++ ':' :: minute, rest)

/-- The distance from universal time; without one the time is local. -/
def offset (cs : List Char) : List Char × List Char :=
  match cs with
  | 'Z' :: rest | 'z' :: rest => (['Z'], rest)
  | '+' :: rest => (hoursMinutes? '+' rest).getD ([], cs)
  | '-' :: rest => (hoursMinutes? '-' rest).getD ([], cs)
  | _ => ([], cs)

/-- A time behind a date, if there is one. -/
def timeOfDay? : List Char → Option (List Char × List Char)
  | 'T' :: rest | 't' :: rest | ' ' :: rest => time? rest
  | _ => none

/-- A moment in its plain form. -/
def moment? (cs : List Char) : Option (String × List Char) :=
  match date? cs with
  | some (date, rest) =>
      match timeOfDay? rest with
      | some (time, rest) =>
          let (zone, rest) := offset rest
          some (String.ofList (date ++ 'T' :: time ++ zone), rest)
      | none => some (String.ofList date, rest)
  | none => (time? cs).map fun (time, rest) => (String.ofList time, rest)

example : date? "1980-02-29".toList = some ("1980-02-29".toList, []) := by decide

example : date? "1979-02-29".toList = none := by decide

end PanelKeys.Toml
