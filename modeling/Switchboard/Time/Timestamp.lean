import Switchboard.Time.Span
import Switchboard.Unicode.Blank

/-!
Instants of universal time, to the nanosecond. They are written as year, month, day, hour, minute
and second with the letters `T` and `Z`; the reader takes more forms, with offsets and blanks, and
moves the instant to universal time.
-/

namespace Switchboard.Time

def isLeapYear (year : Int) : Bool :=
  year % 4 == 0 && (year % 100 != 0 || year % 400 == 0)

def monthLength (year : Int) (month : Nat) : Nat :=
  if month = 2 then if isLeapYear year then 29 else 28
  else if month = 4 ∨ month = 6 ∨ month = 9 ∨ month = 11 then 30
  else 31

structure Date where
  year : Int
  month : Nat
  day : Nat
  deriving DecidableEq, Inhabited

def firstYear : Int := -262143
def lastYear : Int := 262142

def Date.Valid (d : Date) : Prop :=
  firstYear ≤ d.year ∧ d.year ≤ lastYear ∧ 1 ≤ d.month ∧ d.month ≤ 12 ∧ 1 ≤ d.day ∧
    d.day ≤ monthLength d.year d.month

instance (d : Date) : Decidable d.Valid := by unfold Date.Valid; infer_instance

def Date.next (d : Date) : Date :=
  if d.day < monthLength d.year d.month then { d with day := d.day + 1 }
  else if d.month < 12 then ⟨d.year, d.month + 1, 1⟩
  else ⟨d.year + 1, 1, 1⟩

def Date.previous (d : Date) : Date :=
  if 1 < d.day then { d with day := d.day - 1 }
  else if 1 < d.month then ⟨d.year, d.month - 1, monthLength d.year (d.month - 1)⟩
  else ⟨d.year - 1, 12, 31⟩

/-- An instant; second 60 is the one that is put in now and then. -/
structure Timestamp where
  date : Date
  hour : Nat
  minute : Nat
  second : Nat
  nano : Nat
  deriving DecidableEq, Inhabited

def Timestamp.Valid (t : Timestamp) : Prop :=
  t.date.Valid ∧ t.hour < 24 ∧ t.minute < 60 ∧ t.second ≤ 60 ∧ t.nano < 1000000000

instance (t : Timestamp) : Decidable t.Valid := by unfold Timestamp.Valid; infer_instance

/-- The same instant when the clock that shows `t` is `minutes` ahead of universal time. -/
def Timestamp.behind (t : Timestamp) (minutes : Int) : Timestamp :=
  let m : Int := t.hour * 60 + t.minute - minutes
  let date := if m < 0 then t.date.previous else if 1440 ≤ m then t.date.next else t.date
  let m := (m % 1440).toNat
  { t with date, hour := m / 60, minute := m % 60 }

def yearText (year : Int) : String :=
  if 0 ≤ year ∧ year ≤ 9999 then padded 4 year.toNat
  else (if year < 0 then "-" else "+") ++ padded 4 year.natAbs

def nanoText (nano : Nat) : String :=
  if nano = 0 then ""
  else if nano % 1000000 = 0 then "." ++ padded 3 (nano / 1000000)
  else if nano % 1000 = 0 then "." ++ padded 6 (nano / 1000)
  else "." ++ padded 9 nano

def Timestamp.text (t : Timestamp) : String :=
  yearText t.date.year ++ "-" ++ padded 2 t.date.month ++ "-" ++ padded 2 t.date.day ++ "T" ++
    padded 2 t.hour ++ ":" ++ padded 2 t.minute ++ ":" ++ padded 2 t.second ++
    nanoText t.nano ++ "Z"

abbrev Parse (α : Type) := List Char → Option (α × List Char)

def skipBlanks (s : List Char) : List Char := s.dropWhile Unicode.isBlank

def digitOf (c : Char) : Nat := c.toNat - 48

def digitRun (width : Nat) (s : List Char) : Option (List Char × List Char) :=
  let ds := (s.take width).takeWhile Char.isDigit
  if ds.isEmpty then none else some (ds, s.drop ds.length)

def valueOf (ds : List Char) : Nat := ds.foldl (fun n c => n * 10 + digitOf c) 0

def number (width : Nat) : Parse Nat := fun s => do
  let (ds, rest) ← digitRun width (skipBlanks s)
  return (valueOf ds, rest)

def signedYear : Parse Int := fun s =>
  match skipBlanks s with
  | '-' :: rest => (digitRun rest.length rest).map fun (ds, rest) => (-(valueOf ds : Int), rest)
  | '+' :: rest => (digitRun rest.length rest).map fun (ds, rest) => ((valueOf ds : Int), rest)
  | rest => (digitRun 4 rest).map fun (ds, rest) => ((valueOf ds : Int), rest)

def mark (c : Char) (s : List Char) : Option (List Char) :=
  match skipBlanks s with
  | d :: rest => if d = c then some rest else none
  | [] => none

/-- The fraction of a second: nine digits count, the others are stepped over. -/
def nanos (s : List Char) : Option (Nat × List Char) :=
  match s with
  | '.' :: rest => do
    let (ds, rest) ← digitRun 9 rest
    return (valueOf ds * Nat.pow 10 (9 - ds.length), rest.dropWhile Char.isDigit)
  | _ => some (0, s)

def isSeparator (c : Char) : Bool := c == ':' || Unicode.isBlank c

def offsetMinutes : Parse Nat
  | h :: i :: rest =>
    if h.isDigit ∧ i.isDigit then
      match rest.dropWhile isSeparator with
      | m :: n :: rest =>
        if m.isDigit ∧ n.isDigit ∧ digitOf m < 6 then
          let minutes := (digitOf h * 10 + digitOf i) * 60 + digitOf m * 10 + digitOf n
          if minutes < 1440 then some (minutes, rest) else none
        else none
      | _ => none
    else none
  | _ => none

def offset (s : List Char) : Option (Int × List Char) :=
  match s with
  | 'Z' :: rest | 'z' :: rest => some (0, rest)
  | '+' :: rest => (offsetMinutes rest).map fun (m, rest) => ((m : Int), rest)
  | '-' :: rest | '\u2212' :: rest => (offsetMinutes rest).map fun (m, rest) => (-(m : Int), rest)
  | u :: t :: c :: rest =>
    if u.toUpper = 'U' ∧ t.toUpper = 'T' ∧ c.toUpper = 'C' then some (0, rest) else none
  | _ => none

def dateTimeMark : List Char → Option (List Char)
  | 'T' :: rest | 't' :: rest | ' ' :: rest => some rest
  | _ => none

def instant (s : List Char) : Option Timestamp := do
  let (year, s) ← signedYear s
  let (month, s) ← number 2 (← mark '-' s)
  let (day, s) ← number 2 (← mark '-' s)
  let (hour, s) ← number 2 (← dateTimeMark s)
  let (minute, s) ← number 2 (← mark ':' s)
  let (second, s) ← number 2 (← mark ':' s)
  let (nano, s) ← nanos s
  let (ahead, s) ← offset (skipBlanks s)
  let t : Timestamp := ⟨⟨year, month, day⟩, hour, minute, second, nano⟩
  if (skipBlanks s).isEmpty ∧ t.Valid ∧ (t.behind ahead).Valid then return t.behind ahead else none

def Timestamp.parse (s : String) : Option Timestamp := instant s.toList

end Switchboard.Time
