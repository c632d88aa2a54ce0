import Switchboard.Decimal.Reader
import Switchboard.Settings.Setting
import Switchboard.Toml.Text

/-!
Numbers of a TOML document: whole ones in four bases, and decimals. Single underscores may stand
between digits.
-/

namespace Switchboard.Toml

open Settings Decimal
open Text (isHex hexValue)

def digitRun (isDigit : Char → Bool) : Scan (List Char)
  | [] => none
  | [c] => if isDigit c then some ([c], []) else none
  | c :: d :: rest =>
    if isDigit c then
      if d = '_' then (digitRun isDigit rest).map fun (ds, rest) => (c :: ds, rest)
      else
        match digitRun isDigit (d :: rest) with
        | some (ds, rest) => some (c :: ds, rest)
        | none => some ([c], d :: rest)
    else none

def plainDigits : Scan (List Char)
  | '0' :: rest => some (['0'], rest)
  | cs => digitRun Char.isDigit cs

def sign : List Char → Bool × List Char
  | '+' :: rest => (false, rest)
  | '-' :: rest => (true, rest)
  | cs => (false, cs)

def valueIn (base : Nat) (ds : List Char) : Nat := ds.foldl (fun n d => n * base + hexValue d) 0

def inBase (base : Nat) (isDigit : Char → Bool) : Scan Setting := fun cs => do
  let (ds, rest) ← digitRun isDigit cs
  return (← Setting.ofInt? (valueIn base ds), rest)

def whole : Scan Setting
  | '0' :: 'x' :: rest => inBase 16 isHex rest
  | '0' :: 'o' :: rest => inBase 8 (fun c => '0' ≤ c && c ≤ '7') rest
  | '0' :: 'b' :: rest => inBase 2 (fun c => c == '0' || c == '1') rest
  | cs => do
    let (negative, cs) := sign cs
    let (ds, rest) ← plainDigits cs
    let n : Int := valueIn 10 ds
    return (← Setting.ofInt? (if negative then -n else n), rest)

def exponent : Scan (Option Int) := fun cs =>
  match cs with
  | c :: rest =>
    if c = 'e' ∨ c = 'E' then do
      let (negative, rest) := sign rest
      let (ds, rest) ← digitRun Char.isDigit rest
      let n : Int := valueIn 10 ds
      return (some (if negative then -n else n), rest)
    else some (none, cs)
  | [] => some (none, [])

def fraction : Scan (Option (List Char)) := fun cs =>
  match cs with
  | '.' :: rest => (digitRun Char.isDigit rest).map fun (ds, rest) => (some ds, rest)
  | _ => some (none, cs)

def decimal : Scan Setting := fun cs => do
  let (negative, cs) := sign cs
  let (ds, rest) ← plainDigits cs
  let (fs, rest) ← fraction rest
  let (e, rest) ← exponent rest
  if fs.isNone ∧ e.isNone then none
  let digits := ds ++ fs.getD []
  let x := toFloat negative (valueIn 10 digits) digits.length (e.getD 0 - (fs.getD []).length)
  if x.isInf ∧ !negative then none else return (.real x, rest)

def special : Scan Setting := fun cs =>
  match sign cs with
  | (negative, 'i' :: 'n' :: 'f' :: rest) =>
    some (.real (if negative then -(1.0 / 0.0) else 1.0 / 0.0), rest)
  | (_, 'n' :: 'a' :: 'n' :: rest) => some (.real (0.0 / 0.0), rest)
  | _ => none

def number : Scan Setting := fun cs =>
  match decimal cs with
  | some done => some done
  | none =>
    match special cs with
    | some done => some done
    | none => whole cs

end Switchboard.Toml
