import RigScript.Toml.Reader

/-! ## Dates and times

A setting may be a date, a time of day, or both, and then with an offset from universal time.
Only dates of the calendar and times of a day are read. -/

namespace RigScript.Toml

structure Date where
  year : Nat
  month : Nat
  day : Nat
  deriving DecidableEq, Repr

/-- A time of day; a minute may have a leap second. -/
structure TimeOfDay where
  hour : Nat
  minute : Nat
  second : Nat
  /-- The part of a second, in nanoseconds. -/
  nanosecond : Nat
  deriving DecidableEq, Repr

/-- The distance from universal time: none, or minutes. -/
inductive Offset where
  | zulu
  | minutes (count : Int)
  deriving DecidableEq, Repr

/-- A date, a time, or both. -/
inductive DateTime where
  | date (d : Date)
  | time (t : TimeOfDay)
  | both (d : Date) (t : TimeOfDay) (offset : Option Offset)
  deriving DecidableEq, Repr

namespace DateTime

/-! ## Reading -/

def daysIn (year month : Nat) : Nat :=
  if month = 2 then
    if year % 4 = 0 && (year % 100 != 0 || year % 400 = 0) then 29 else 28
  else if month = 4 || month = 6 || month = 9 || month = 11 then 30
  else 31

/-- A number of exactly `n` digits between two bounds. -/
def number? (n low high : Nat) (s : List Char) : Option (Nat × List Char) :=
  let digits := s.take n
  let v := Text.numeral digits
  if digits.length = n && digits.all Text.isDigit && low ≤ v && v ≤ high then
    some (v, s.drop n)
  else none

/-- `YYYY-MM-DD` -/
def date? : Reader Date := fun s => do
  let (year, s) ← number? 4 0 9999 s
  let (month, s) ← number? 2 1 12 (← mark? '-' s)
  let (day, s) ← number? 2 1 (daysIn year month) (← mark? '-' s)
  return (⟨year, month, day⟩, s)

/-- The nanoseconds of a fraction of a second; digits after the ninth are dropped. -/
def nanoseconds (digits : List Char) : Nat :=
  let kept := digits.take 9
  Text.numeral kept * Nat.pow 10 (9 - kept.length)

def fraction? : Reader Nat := fun s =>
  match s with
  | '.' :: r =>
    let digits := r.takeWhile Text.isDigit
    if digits.isEmpty then none else some (nanoseconds digits, r.dropWhile Text.isDigit)
  | _ => some (0, s)

/-- `HH:MM:SS`, with a fraction or without. -/
def time? : Reader TimeOfDay := fun s => do
  let (hour, s) ← number? 2 0 23 s
  let (minute, s) ← number? 2 0 59 (← mark? ':' s)
  let (second, s) ← number? 2 0 60 (← mark? ':' s)
  let (nanosecond, s) ← fraction? s
  return (⟨hour, minute, second, nanosecond⟩, s)

/-- `Z`, or a sign and `HH:MM`. -/
def offset? : Reader Offset := fun s => do
  match s with
  | 'Z' :: r | 'z' :: r => return (.zulu, r)
  | sign :: r =>
    if sign != '+' && sign != '-' then failure
    let (hours, r) ← number? 2 0 23 r
    let (minutes, r) ← number? 2 0 59 (← mark? ':' r)
    let count : Int := 60 * hours + minutes
    return (.minutes (if sign = '-' then -count else count), r)
  | [] => failure

/-- A time behind a date, after a `T` or a blank, with an offset or without. -/
def timeAfterDate? : Reader (TimeOfDay × Option Offset) := fun s => do
  match s with
  | 'T' :: r | 't' :: r | ' ' :: r =>
    let (t, r) ← time? r
    match offset? r with
    | some (o, r) => return ((t, some o), r)
    | none => return ((t, none), r)
  | _ => failure

def read? : Reader DateTime := fun s =>
  match date? s with
  | some (d, r) =>
    match timeAfterDate? r with
    | some ((t, o), r) => some (.both d t o, r)
    | none => some (.date d, r)
  | none => (time? s).map fun (t, r) => (.time t, r)

/-- The date, the time, or both that a whole text denotes. -/
def ofText? (text : String) : Option DateTime :=
  match read? text.toList with
  | some (d, []) => some d
  | _ => none

/-! ## Writing -/

def padded (width n : Nat) : String :=
  let s := toString n
  "".pushn '0' (width - s.length) ++ s

/-- A row of digits without the zeros at its end. -/
def dropZeros (s : List Char) : List Char := (s.reverse.dropWhile (· == '0')).reverse

def Date.render (d : Date) : String :=
  padded 4 d.year ++ "-" ++ padded 2 d.month ++ "-" ++ padded 2 d.day

def TimeOfDay.render (t : TimeOfDay) : String :=
  padded 2 t.hour ++ ":" ++ padded 2 t.minute ++ ":" ++ padded 2 t.second ++
    if t.nanosecond = 0 then ""
    else "." ++ String.ofList (dropZeros (padded 9 t.nanosecond).toList)

def Offset.render : Offset → String
  | .zulu => "Z"
  | .minutes count =>
    (if count < 0 then "-" else "+") ++ padded 2 (count.natAbs / 60) ++ ":" ++
      padded 2 (count.natAbs % 60)

/-- The date and the time as a text, with a `T` between them. -/
def render : DateTime → String
  | .date d => Date.render d
  | .time t => TimeOfDay.render t
  | .both d t offset =>
    Date.render d ++ "T" ++ TimeOfDay.render t ++ (offset.map Offset.render).getD ""

end DateTime

end RigScript.Toml
