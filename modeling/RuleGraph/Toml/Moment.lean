import RuleGraph.Decimal.Reading
import RuleGraph.Text.Blank

/-!
# Dates and times of day

A moment is a date, a time of day, or both, and a date may come with an offset from universal time.
`Moment.read?` takes the longest moment at the front of a configuration text, and `Moment.text`
writes it with a `T` between date and time and without zeros at the end of the second.
`Moment.ofText?` reads a text that is a moment as a whole; it is less strict about hours and
offsets.
-/
namespace RuleGraph.Toml

structure Date where
  year : Nat
  month : Nat
  day : Nat
  deriving DecidableEq, Repr

/-- A time of day; a minute may have 61 seconds. -/
structure Time where
  hour : Nat
  minute : Nat
  second : Nat
  nanos : Nat
  deriving DecidableEq, Repr

inductive Offset
  | utc
  /-- So many minutes ahead of universal time. -/
  | ahead (minutes : Int)
  deriving DecidableEq, Repr

inductive Moment
  | date (date : Date) (offset : Option Offset)
  | time (time : Time)
  | full (date : Date) (time : Time) (offset : Option Offset)
  deriving DecidableEq, Repr

/-- The number made by exactly so many digits at the front of a text. -/
def digits? (count : Nat) (cs : List Char) : Option (Nat × List Char) :=
  let ds := cs.take count
  if ds.length = count && ds.all Decimal.isDigit then some (Decimal.natOf ds, cs.drop count)
  else none

/-- Decimal digits, with zeros in front up to a width. -/
def padded (width n : Nat) : String :=
  let ds := Nat.toDigits 10 n
  String.ofList (List.replicate (width - ds.length) '0' ++ ds)

namespace Date

def isLeapYear (year : Nat) : Bool := year % 4 == 0 && (year % 100 != 0 || year % 400 == 0)

def daysIn (year month : Nat) : Nat :=
  if month = 2 then (if isLeapYear year then 29 else 28)
  else if month = 4 || month = 6 || month = 9 || month = 11 then 30
  else 31

def read? (cs : List Char) : Option (Date × List Char) := do
  let (year, cs) ← digits? 4 cs
  let cs ← Text.after? ['-'] cs
  let (month, cs) ← digits? 2 cs
  let cs ← Text.after? ['-'] cs
  let (day, cs) ← digits? 2 cs
  if 1 ≤ month && month ≤ 12 && 1 ≤ day && day ≤ daysIn year month then
    some (⟨year, month, day⟩, cs)
  else none

def text (d : Date) : String := s!"{padded 4 d.year}-{padded 2 d.month}-{padded 2 d.day}"

end Date

namespace Time

/-- Nanoseconds behind a point; digits beyond the ninth count for nothing. -/
def fraction (cs : List Char) : Nat × List Char :=
  match cs with
  | '.' :: rest =>
    let ds := rest.takeWhile Decimal.isDigit
    if ds.isEmpty then (0, cs)
    else
      let nine := ds.take 9
      (Decimal.natOf (nine ++ List.replicate (9 - nine.length) '0'),
        rest.dropWhile Decimal.isDigit)
  | _ => (0, cs)

/-- A time of day whose hour is not later than the last one. -/
def readUpTo? (lastHour : Nat) (cs : List Char) : Option (Time × List Char) := do
  let (hour, cs) ← digits? 2 cs
  let cs ← Text.after? [':'] cs
  let (minute, cs) ← digits? 2 cs
  let cs ← Text.after? [':'] cs
  let (second, cs) ← digits? 2 cs
  if hour ≤ lastHour && minute ≤ 59 && second ≤ 60 then
    let (nanos, cs) := fraction cs
    some (⟨hour, minute, second, nanos⟩, cs)
  else none

def read? (cs : List Char) : Option (Time × List Char) := readUpTo? 23 cs

def text (t : Time) : String :=
  let clock := s!"{padded 2 t.hour}:{padded 2 t.minute}:{padded 2 t.second}"
  if t.nanos = 0 then clock
  else
    let zerosLast := (padded 9 t.nanos).toList.reverse.dropWhile fun c => c == '0'
    clock ++ "." ++ String.ofList zerosLast.reverse

end Time

namespace Offset

/-- An offset whose hours and minutes are allowed. -/
def readIf? (allowed : Nat → Nat → Bool) : List Char → Option (Offset × List Char)
  | [] => none
  | c :: cs =>
    if c = 'Z' || c = 'z' then some (.utc, cs)
    else if c = '+' || c = '-' then do
      let (hours, cs) ← digits? 2 cs
      let cs ← Text.after? [':'] cs
      let (minutes, cs) ← digits? 2 cs
      if allowed hours minutes then
        let size : Int := (hours * 60 + minutes : Nat)
        some (.ahead (if c = '-' then -size else size), cs)
      else none
    else none

def read? (cs : List Char) : Option (Offset × List Char) :=
  readIf? (fun hours minutes => hours ≤ 23 && minutes ≤ 59) cs

/-- The offset that is all of a text, if there is any text. It may be as long as a day. -/
def whole? : List Char → Option (Option Offset)
  | [] => some none
  | cs =>
    match readIf? (fun hours minutes => hours * 60 + minutes ≤ 24 * 60) cs with
    | some (o, []) => some (some o)
    | _ => none

def text : Offset → String
  | .utc => "Z"
  | .ahead m =>
    let size := m.natAbs
    (if m < 0 then "-" else "+") ++ padded 2 (size / 60) ++ ":" ++ padded 2 (size % 60)

end Offset

namespace Moment

/-- What stands between a date and a time of day. -/
def isTimeMark (c : Char) : Bool := c = 'T' || c = 't' || c = ' '

/-- The time of day and the offset that may follow a date. -/
def timePart? : List Char → Option (Time × Option Offset × List Char)
  | [] => none
  | c :: cs =>
    if isTimeMark c then
      (Time.read? cs).map fun (t, rest) =>
        match Offset.read? rest with
        | some (o, rest) => (t, some o, rest)
        | none => (t, none, rest)
    else none

def read? (cs : List Char) : Option (Moment × List Char) :=
  match Date.read? cs with
  | some (d, rest) =>
    match timePart? rest with
    | some (t, o, rest) => some (.full d t o, rest)
    | none => some (.date d none, rest)
  | none => (Time.read? cs).map fun (t, rest) => (.time t, rest)

/-- The moment that a text is. The first hour of the next day may be written as the hour 24, and an
offset may follow a date alone. -/
def ofText? (s : String) : Option Moment :=
  let cs := s.toList
  if cs[2]? = some ':' then
    match Time.readUpTo? 24 cs with
    | some (t, []) => some (.time t)
    | _ => none
  else do
    let (d, rest) ← Date.read? cs
    match rest with
    | [] => some (.date d none)
    | c :: more =>
      if isTimeMark c then do
        let (t, rest) ← Time.readUpTo? 24 more
        some (.full d t (← Offset.whole? rest))
      else do some (.date d (← Offset.whole? rest))

def offsetText (offset : Option Offset) : String := (offset.map Offset.text).getD ""

def text : Moment → String
  | .date d offset => d.text ++ offsetText offset
  | .time t => t.text
  | .full d t offset => d.text ++ "T" ++ t.text ++ offsetText offset

end Moment
end RuleGraph.Toml
