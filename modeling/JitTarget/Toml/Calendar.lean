/-
  JitTarget.Toml.Calendar
  ────────────────────────────────
  **DATES AND TIMES.**

  A date has a month of the year and a day of that month.  A time behind it is
  set off by a letter or a space; where no time follows, the date stands alone.
-/
import JitTarget.Toml.Basic
import JitTarget.Toml.Number

namespace JitTarget.Toml

/-! ## §1. Fixed numbers of digits. -/

/-- Exactly `count` decimal digits, as a number. -/
def fixedDigits? : Nat → Nat → Reader Nat
  | 0, n, cs => some (n, cs)
  | count + 1, n, c :: r =>
      if isDigitOf 10 c then fixedDigits? count (n * 10 + (hexDigit? c).getD 0) r else none
  | _ + 1, _, [] => none

/-- Two digits that spell a number in a range. -/
def twoDigits? (least greatest : Nat) (cs : List Char) : Option (Nat × List Char) :=
  match fixedDigits? 2 0 cs with
  | some (n, r) => if least ≤ n ∧ n ≤ greatest then some (n, r) else none
  | none => none

/-- A given character. -/
def only? (c : Char) : List Char → Option (List Char)
  | d :: r => if d = c then some r else none
  | [] => none

/-! ## §2. Dates. -/

/-- Whether a year has a leap day. -/
def isLeapYear (year : Nat) : Bool :=
  year % 4 == 0 && (year % 100 != 0 || year % 400 == 0)

/-- The number of days in a month. -/
def daysInMonth (year month : Nat) : Nat :=
  match month with
  | 2 => if isLeapYear year then 29 else 28
  | 4 | 6 | 9 | 11 => 30
  | _ => 31

/-- A date. -/
def date? (cs : List Char) : Option (Date × List Char) := do
  let (year, r) ← fixedDigits? 4 0 cs
  let r ← only? '-' r
  let (month, r) ← twoDigits? 1 12 r
  let r ← only? '-' r
  let (day, r) ← twoDigits? 1 (daysInMonth year month) r
  return (⟨year, month, day⟩, r)

/-! ## §3. Times. -/

/-- The fraction of a second, if a point and a digit follow. -/
def secondFraction (cs : List Char) : String × List Char :=
  match cs with
  | '.' :: r =>
      match r.span (isDigitOf 10) with
      | ([], _) => ("", cs)
      | (ds, rest) => (String.ofList ds, rest)
  | _ => ("", cs)

/-- A time of day; a leap second may end a minute. -/
def time? (cs : List Char) : Option (Time × List Char) := do
  let (hour, r) ← twoDigits? 0 23 cs
  let r ← only? ':' r
  let (minute, r) ← twoDigits? 0 59 r
  let r ← only? ':' r
  let (second, r) ← twoDigits? 0 60 r
  let (fraction, r) := secondFraction r
  return (⟨hour, minute, second, fraction⟩, r)

/-- The distance from Greenwich, if one follows, in minutes. -/
def offset (cs : List Char) : Option Int × List Char :=
  let distance (sign : Int) (r : List Char) : Option (Int × List Char) := do
    let (hours, r) ← twoDigits? 0 23 r
    let r ← only? ':' r
    let (minutes, r) ← twoDigits? 0 59 r
    return (sign * (hours * 60 + minutes), r)
  match cs with
  | 'Z' :: r | 'z' :: r => (some 0, r)
  | '+' :: r => ((distance 1 r).map Prod.fst, ((distance 1 r).map Prod.snd).getD cs)
  | '-' :: r => ((distance (-1) r).map Prod.fst, ((distance (-1) r).map Prod.snd).getD cs)
  | _ => (none, cs)

/-! ## §4. Dates and times of any form. -/

/-- Whether a character sets a time off from its date. -/
def isTimeMark (c : Char) : Bool := c == 'T' || c == 't' || c == ' '

/-- A time set off from its date. -/
def markedTime? : Reader Time
  | c :: r => if isTimeMark c then time? r else none
  | [] => none

/-- A date, a time, or both. -/
def dateTime? (cs : List Char) : Option (DateTime × List Char) :=
  match date? cs with
  | some (d, r) =>
      match markedTime? r with
      | some (t, r) =>
          let (distance, r) := offset r
          some (.both d t distance, r)
      -- what follows belongs to somebody else
      | none => some (.date d, r)
  | none => (time? cs).map (fun (t, r) => (.time t, r))

end JitTarget.Toml
