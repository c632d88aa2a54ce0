import Switchboard.Time.Timestamp
import Switchboard.Toml.Scan

/-!
Dates and times of a TOML document, which become text: with a `T` between date and time, a `Z` for
universal time, and no zeros at the end of a fraction.
-/

namespace Switchboard.Toml

open Time

def fixed (width : Nat) : Scan Nat := fun cs =>
  let ds := cs.take width
  if ds.length = width ∧ ds.all Char.isDigit then some (valueOf ds, cs.drop width) else none

def expect (c : Char) : List Char → Option (List Char)
  | d :: rest => if d = c then some rest else none
  | [] => none

def date : Scan String := fun cs => do
  let (year, cs) ← fixed 4 cs
  let (month, cs) ← fixed 2 (← expect '-' cs)
  let (day, cs) ← fixed 2 (← expect '-' cs)
  let d : Date := ⟨year, month, day⟩
  if d.Valid then
    return (padded 4 year ++ "-" ++ padded 2 month ++ "-" ++ padded 2 day, cs)
  else none

def secondFraction : Scan String := fun cs =>
  match cs with
  | '.' :: rest =>
    match rest.takeWhile Char.isDigit with
    | [] => none
    | ds =>
      let n := valueOf (ds.take 9) * Nat.pow 10 (9 - min ds.length 9)
      some (Time.fraction 9 n, rest.drop ds.length)
  | _ => some ("", cs)

def time : Scan String := fun cs => do
  let (hour, cs) ← fixed 2 cs
  let (minute, cs) ← fixed 2 (← expect ':' cs)
  let (second, cs) ← fixed 2 (← expect ':' cs)
  if 24 ≤ hour ∨ 60 ≤ minute ∨ 60 < second then none
  let (part, cs) ← secondFraction cs
  return (padded 2 hour ++ ":" ++ padded 2 minute ++ ":" ++ padded 2 second ++ part, cs)

def ahead : Scan String := fun cs =>
  let offset (mark : String) (cs : List Char) : Option (String × List Char) := do
    let (hour, cs) ← fixed 2 cs
    let (minute, cs) ← fixed 2 (← expect ':' cs)
    if 24 ≤ hour ∨ 60 ≤ minute then none
    let mark := if hour = 0 ∧ minute = 0 then "+" else mark
    return (mark ++ padded 2 hour ++ ":" ++ padded 2 minute, cs)
  match cs with
  | 'Z' :: rest | 'z' :: rest => some ("Z", rest)
  | '+' :: rest => offset "+" rest
  | '-' :: rest => offset "-" rest
  | _ => some ("", cs)

def timeAfterDate : Scan String := fun cs =>
  match cs with
  | c :: rest =>
    if c = 'T' ∨ c = 't' ∨ c = ' ' then
      match time rest with
      | none => some ("", cs)
      | some (t, rest) => (ahead rest).map fun (a, rest) => ("T" ++ t ++ a, rest)
    else some ("", cs)
  | [] => some ("", [])

def moment : Scan String := fun cs =>
  match date cs with
  | some (d, rest) => (timeAfterDate rest).map fun (t, rest) => (d ++ t, rest)
  | none => time cs

end Switchboard.Toml
