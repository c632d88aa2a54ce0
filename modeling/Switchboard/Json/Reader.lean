import Switchboard.Text.Octets

/-!
Reading JSON from octets as they come: a reader takes what it needs from the front, and the first
problem on the way decides how the reading fails. `depth` is the number of nested lists and
objects that may still be opened. A reader that repeats a step recurses on `ahead`, which is at
least as long as the input: every step takes an octet or more.
-/

theorem Except.bind_eq_ok {ε α β : Type} {x : Except ε α} {f : α → Except ε β} {b : β} :
    x >>= f = .ok b ↔ ∃ a, x = .ok a ∧ f a = .ok b := by
  cases x with
  | ok a => simp [bind, Except.bind]
  | error e => simp [bind, Except.bind]

namespace Switchboard.Json

open Switchboard.Text

inductive ReadError where
  | mismatch
  | malformed
  | truncated
  deriving DecidableEq, Inhabited

def ReadError.category : ReadError → String
  | .mismatch => "data"
  | .malformed => "syntax"
  | .truncated => "eof"

abbrev Scan (α : Type) := Octets → Except ReadError (α × Octets)

abbrev Reader (α : Type) := Nat → Scan α

def isBlank (b : UInt8) : Bool := b == 0x20 || b == 0x09 || b == 0x0a || b == 0x0d

def isDigit (b : UInt8) : Bool := 0x30 ≤ b && b ≤ 0x39

def skipBlank (input : Octets) : Octets := input.dropWhile isBlank

def quote : UInt8 := ascii '"'
def backslash : UInt8 := ascii '\\'
def comma : UInt8 := ascii ','
def colon : UInt8 := ascii ':'
def listOpen : UInt8 := ascii '['
def listClose : UInt8 := ascii ']'
def objectOpen : UInt8 := ascii '{'
def objectClose : UInt8 := ascii '}'

def keyword : Octets → Octets → Except ReadError Octets
  | [], input => .ok input
  | _ :: _, [] => .error .truncated
  | e :: es, b :: input => if b = e then keyword es input else .error .malformed

def keywordNull (input : Octets) : Except ReadError Octets := keyword (octets "ull") input
def keywordTrue (input : Octets) : Except ReadError Octets := keyword (octets "rue") input
def keywordFalse (input : Octets) : Except ReadError Octets := keyword (octets "alse") input

/-! ### Strings -/

def hexValue (b : UInt8) : Option Nat :=
  if 0x30 ≤ b && b ≤ 0x39 then some (b.toNat - 0x30)
  else if 0x41 ≤ b && b ≤ 0x46 then some (b.toNat - 0x37)
  else if 0x61 ≤ b && b ≤ 0x66 then some (b.toNat - 0x57)
  else none

def hexFour : Scan Nat
  | a :: b :: c :: d :: rest =>
    match hexValue a, hexValue b, hexValue c, hexValue d with
    | some a, some b, some c, some d => .ok (((a * 16 + b) * 16 + c) * 16 + d, rest)
    | _, _, _, _ => .error .malformed
  | _ => .error .truncated

def isLeading (n : Nat) : Bool := 0xd800 ≤ n && n ≤ 0xdbff

def isTrailing (n : Nat) : Bool := 0xdc00 ≤ n && n ≤ 0xdfff

def codeOctets (n : Nat) : Octets := String.utf8EncodeChar (Char.ofNat n)

/-- A code unit of an escape; a leading surrogate must be followed by its trailing half. -/
def escapedUnit (input : Octets) : Except ReadError (Octets × Octets) := do
  let (n, rest) ← hexFour input
  if isTrailing n then throw .malformed
  if !isLeading n then return (codeOctets n, rest)
  match rest with
  | [] => throw .truncated
  | b :: rest =>
    if b != backslash then throw .malformed
    match rest with
    | [] => throw .truncated
    | b :: rest =>
      if b != ascii 'u' then throw .malformed
      let (m, rest) ← hexFour rest
      if !isTrailing m then throw .malformed
      return (codeOctets ((n - 0xd800) * 1024 + (m - 0xdc00) + 0x10000), rest)

def escapeOctet (b : UInt8) : Option UInt8 :=
  if b = quote then some quote
  else if b = backslash then some backslash
  else if b = ascii '/' then some (ascii '/')
  else if b = ascii 'b' then some 0x08
  else if b = ascii 'f' then some 0x0c
  else if b = ascii 'n' then some 0x0a
  else if b = ascii 'r' then some 0x0d
  else if b = ascii 't' then some 0x09
  else none

/-- The octets of a string after its opening quote, escapes replaced, newest first. -/
def stringOctets : Octets → Octets → Scan Octets
  | [], _, _ => .error .truncated
  | _ :: _, _, [] => .error .truncated
  | _ :: ahead, seen, b :: rest =>
    if b = quote then .ok (seen, rest)
    else if b = backslash then
      match rest with
      | [] => .error .truncated
      | e :: rest =>
        if e = ascii 'u' then
          match escapedUnit rest with
          | .error problem => .error problem
          | .ok (unit, rest) => stringOctets ahead (unit.reverse ++ seen) rest
        else
          match escapeOctet e with
          | some o => stringOctets ahead (o :: seen) rest
          | none => .error .malformed
    else if b < 0x20 then .error .malformed
    else stringOctets ahead (b :: seen) rest

def stringBody (input : Octets) : Except ReadError (String × Octets) :=
  match stringOctets input [] input with
  | .error problem => .error problem
  | .ok (seen, rest) =>
    match ofOctets? seen.reverse with
    | some s => .ok (s, rest)
    | none => .error .malformed

/-- Steps over a string after its opening quote, whatever its escapes stand for. -/
def skipString : Octets → Octets → Except ReadError Octets
  | [], _ => .error .truncated
  | _ :: _, [] => .error .truncated
  | _ :: ahead, b :: rest =>
    if b = quote then .ok rest
    else if b = backslash then
      match rest with
      | [] => .error .truncated
      | e :: rest =>
        if e = ascii 'u' then
          match hexFour rest with
          | .error problem => .error problem
          | .ok (_, rest) => skipString ahead rest
        else if (escapeOctet e).isSome then skipString ahead rest
        else .error .malformed
    else if b < 0x20 then .error .malformed
    else skipString ahead rest

/-! ### Numbers -/

inductive Number where
  | whole (n : Int)
  | real (x : Float)
  deriving Inhabited

def digitValue (b : UInt8) : Nat := b.toNat - 0x30

def wordLimit : Nat := 1 <<< 64

/-- Takes digits while the significand stays a 64 bit word: the significand, the digits taken and
the digits left. -/
def significand (start : Nat) : Octets → Nat × Nat × Octets
  | [] => (start, 0, [])
  | b :: rest =>
    if start * 10 + digitValue b < wordLimit then
      let (n, taken, left) := significand (start * 10 + digitValue b) rest
      (n, taken + 1, left)
    else (start, 0, b :: rest)

/-- Scales by powers of ten that a float holds, one division by 10 ^ 308 at a time when the
exponent is far below; none when the value leaves the range. -/
def scale : Nat → Float → Int → Option Float
  | 0, x, _ => some x
  | fuel + 1, x, e =>
    if e.natAbs ≤ 308 then
      if 0 ≤ e then
        let y := x * Float.ofScientific 1 false e.natAbs
        if y.isInf then none else some y
      else some (x / Float.ofScientific 1 false e.natAbs)
    else if x == 0.0 then some x
    else if 0 ≤ e then none
    else scale fuel (x / Float.ofScientific 1 false 308) (e + 308)

def realOf (negative : Bool) (n : Nat) (e : Int) : Except ReadError Number :=
  match scale (e.natAbs / 308 + 2) (Float.ofNat n) e with
  | some x => .ok (.real (if negative then -x else x))
  | none => .error .malformed

def exponentLimit : Nat := 1 <<< 31

def digits (input : Octets) : Octets × Octets := (input.takeWhile isDigit, input.dropWhile isDigit)

def decimalValue (ds : Octets) : Nat := ds.foldl (fun n b => n * 10 + digitValue b) 0

def exponentPart (negative : Bool) (n : Nat) (e : Int) (input : Octets) :
    Except ReadError (Number × Octets) :=
  let (down, rest) : Bool × Octets := match input with
    | b :: rest => if b = ascii '+' then (false, rest) else if b = ascii '-' then (true, rest)
      else (false, input)
    | [] => (false, [])
  match rest with
  | [] => .error .truncated
  | b :: _ =>
    if !isDigit b then .error .malformed
    else
      let (ds, rest) := digits rest
      let x := decimalValue ds
      if exponentLimit ≤ x then
        if n ≠ 0 ∧ !down then .error .malformed
        else .ok (.real (if negative then -0.0 else 0.0), rest)
      else (realOf negative n (if down then e - x else e + x)).map (·, rest)

def isExponentMark (b : UInt8) : Bool := b == ascii 'e' || b == ascii 'E'

def realTail (negative : Bool) (n : Nat) (e : Int) : Scan Number
  | b :: rest =>
    if isExponentMark b then exponentPart negative n e rest
    else (realOf negative n e).map (·, b :: rest)
  | [] => (realOf negative n e).map (·, [])

def fractionPart (negative : Bool) (n : Nat) (e : Int) (input : Octets) :
    Except ReadError (Number × Octets) :=
  let (ds, rest) := digits input
  match ds, rest with
  | [], [] => .error .truncated
  | [], _ => .error .malformed
  | _, _ =>
    let (m, taken, _) := significand n ds
    realTail negative m (e - taken) rest

def wholeNumber (negative : Bool) (n : Nat) : Number :=
  if !negative then .whole n
  else if n = 0 ∨ 1 <<< 63 < n then .real (-Float.ofNat n)
  else .whole (-n)

def numberBody (negative : Bool) : Scan Number
  | [] => .error .truncated
  | b :: rest =>
    if !isDigit b then .error .malformed
    else if b = ascii '0' ∧ (rest.headD 0 |> isDigit) then .error .malformed
    else
      let (ds, rest) := digits (b :: rest)
      let (n, _, left) := significand 0 ds
      match rest with
      | p :: tail =>
        if p = ascii '.' then fractionPart negative n left.length tail
        else if isExponentMark p then exponentPart negative n left.length tail
        else if left.isEmpty then .ok (wholeNumber negative n, rest)
        else (realOf negative n left.length).map (·, rest)
      | [] =>
        if left.isEmpty then .ok (wholeNumber negative n, [])
        else (realOf negative n left.length).map (·, [])

def skipExponent (input : Octets) : Except ReadError Octets :=
  let rest := match input with
    | b :: rest => if b = ascii '+' ∨ b = ascii '-' then rest else input
    | [] => []
  match digits rest with
  | ([], _) => .error .malformed
  | (_, rest) => .ok rest

def skipFraction (input : Octets) : Except ReadError Octets :=
  match digits input with
  | ([], _) => .error .malformed
  | (_, b :: rest) => if isExponentMark b then skipExponent rest else .ok (b :: rest)
  | (_, []) => .ok []

def skipNumber : Octets → Except ReadError Octets
  | [] => .error .malformed
  | b :: rest =>
    if !isDigit b then .error .malformed
    else if b = ascii '0' ∧ (rest.headD 0 |> isDigit) then .error .malformed
    else
      match rest.dropWhile isDigit with
      | p :: tail =>
        if p = ascii '.' then skipFraction tail
        else if isExponentMark p then skipExponent tail
        else .ok (p :: tail)
      | [] => .ok []

/-! ### Any value -/

inductive Frame where
  | list
  | object
  deriving DecidableEq

inductive Stage where
  | value
  | opened (frame : Frame)
  | closed

def closes (frame : Frame) (b : UInt8) : Bool :=
  match frame with
  | .list => b == listClose
  | .object => b == objectClose

def skipName (input : Octets) : Except ReadError Octets :=
  match skipBlank input with
  | [] => .error .truncated
  | b :: rest =>
    if b ≠ quote then .error .malformed
    else do
      let rest ← skipString rest rest
      match skipBlank rest with
      | [] => .error .truncated
      | b :: rest => if b = colon then .ok rest else .error .malformed

def skipScalar (b : UInt8) (rest : Octets) : Except ReadError (Option Frame × Octets) :=
  if b = ascii 'n' then (keywordNull rest).map (none, ·)
  else if b = ascii 't' then (keywordTrue rest).map (none, ·)
  else if b = ascii 'f' then (keywordFalse rest).map (none, ·)
  else if b = ascii '-' then (skipNumber rest).map (none, ·)
  else if isDigit b then (skipNumber (b :: rest)).map (none, ·)
  else if b = quote then (skipString rest rest).map (none, ·)
  else if b = listOpen then .ok (some .list, rest)
  else if b = objectOpen then .ok (some .object, rest)
  else .error .malformed

def skipStep (stack : List Frame) (stage : Stage) (b : UInt8) (rest : Octets) :
    Except ReadError (List Frame × Stage × Octets) :=
  let item : Except ReadError (List Frame × Stage × Octets) :=
    (skipScalar b rest).map fun
      | (none, rest) => (stack, .closed, rest)
      | (some frame, rest) => (frame :: stack, .opened frame, rest)
  match stage, stack with
  | .value, _ => item
  | .opened frame, _ =>
    if closes frame b then .ok (stack.tail, .closed, rest)
    else match frame with
      | .list => item
      | .object => (skipName (b :: rest)).map (stack, .value, ·)
  | .closed, [] => .error .malformed
  | .closed, frame :: outer =>
    if b = comma then
      match frame with
      | .list => .ok (stack, .value, rest)
      | .object => (skipName rest).map (stack, .value, ·)
    else if closes frame b then .ok (outer, .closed, rest)
    else .error .malformed

def skipFrom : Octets → List Frame → Stage → Octets → Except ReadError Octets
  | _, [], .closed, input => .ok input
  | [], _, _, _ => .error .truncated
  | _ :: ahead, stack, stage, input =>
    match skipBlank input with
    | [] => .error .truncated
    | b :: rest =>
      match skipStep stack stage b rest with
      | .error problem => .error problem
      | .ok (stack, stage, rest) => skipFrom ahead stack stage rest

def skipValue (input : Octets) : Except ReadError Octets := skipFrom input [] .value input

/-! ### Typed values -/

/-- Why the value in front is not of the wanted shape: its own grammar comes first. -/
def wrongShape (b : UInt8) (rest : Octets) : ReadError :=
  let verdict {α : Type} (r : Except ReadError α) : ReadError :=
    match r with
    | .error problem => problem
    | .ok _ => .mismatch
  if b = ascii 'n' then verdict (keywordNull rest)
  else if b = ascii 't' then verdict (keywordTrue rest)
  else if b = ascii 'f' then verdict (keywordFalse rest)
  else if b = ascii '-' then verdict (numberBody true rest)
  else if isDigit b then verdict (numberBody false (b :: rest))
  else if b = quote then verdict (stringBody rest)
  else if b = listOpen ∨ b = objectOpen then .mismatch
  else .malformed

def nested {α : Type} (depth : Nat) (inner : Nat → Except ReadError α) : Except ReadError α :=
  match depth with
  | 0 | 1 => .error .malformed
  | depth + 1 => inner depth

def readString : Reader String := fun _ input =>
  match skipBlank input with
  | [] => .error .truncated
  | b :: rest => if b = quote then stringBody rest else .error (wrongShape b rest)

def readBool : Reader Bool := fun _ input =>
  match skipBlank input with
  | [] => .error .truncated
  | b :: rest =>
    if b = ascii 't' then (keywordTrue rest).map (true, ·)
    else if b = ascii 'f' then (keywordFalse rest).map (false, ·)
    else .error (wrongShape b rest)

def readNull : Reader Unit := fun _ input =>
  match skipBlank input with
  | [] => .error .truncated
  | b :: rest =>
    if b = ascii 'n' then (keywordNull rest).map ((), ·) else .error (wrongShape b rest)

def readWord (bound : Nat) : Reader Nat := fun _ input =>
  match skipBlank input with
  | [] => .error .truncated
  | b :: rest =>
    let within : Number × Octets → Except ReadError (Nat × Octets)
      | (.whole n, rest) =>
        if 0 ≤ n ∧ n < bound then .ok (n.toNat, rest) else .error .mismatch
      | (.real _, _) => .error .mismatch
    if b = ascii '-' then (numberBody true rest).bind within
    else if isDigit b then (numberBody false (b :: rest)).bind within
    else .error (wrongShape b rest)

def readOption {α : Type} (read : Reader α) : Reader (Option α) := fun depth input =>
  match skipBlank input with
  | [] => .error .truncated
  | b :: rest =>
    if b = ascii 'n' then (keywordNull rest).map (none, ·)
    else (read depth (b :: rest)).map fun (a, rest) => (some a, rest)

def nextElement (first : Bool) (input : Octets) : Except ReadError (Bool × Octets) :=
  match skipBlank input with
  | [] => .error .truncated
  | b :: rest =>
    if b = listClose then .ok (false, b :: rest)
    else if first then .ok (true, b :: rest)
    else if b = comma then
      match skipBlank rest with
      | [] => .error .truncated
      | b :: rest => if b = listClose then .error .malformed else .ok (true, b :: rest)
    else .error .malformed

def endList (input : Octets) : Except ReadError Octets :=
  match skipBlank input with
  | [] => .error .truncated
  | b :: rest => if b = listClose then .ok rest else .error .malformed

def nextName (first : Bool) (input : Octets) : Except ReadError (Bool × Octets) :=
  match skipBlank input with
  | [] => .error .truncated
  | b :: rest =>
    if b = objectClose then .ok (false, b :: rest)
    else if first then if b = quote then .ok (true, rest) else .error .malformed
    else if b = comma then
      match skipBlank rest with
      | [] => .error .truncated
      | b :: rest => if b = quote then .ok (true, rest) else .error .malformed
    else .error .malformed

def endObject (input : Octets) : Except ReadError Octets :=
  match skipBlank input with
  | [] => .error .truncated
  | b :: rest => if b = objectClose then .ok rest else .error .malformed

def readColon (input : Octets) : Except ReadError Octets :=
  match skipBlank input with
  | [] => .error .truncated
  | b :: rest => if b = colon then .ok rest else .error .malformed

def readElements {α : Type} (read : Reader α) (depth : Nat) :
    Octets → Bool → Scan (List α)
  | [], _, _ => .error .truncated
  | _ :: ahead, first, input => do
    let (more, input) ← nextElement first input
    if more then
      let (a, input) ← read depth input
      let (as, input) ← readElements read depth ahead false input
      return (a :: as, input)
    else return ([], ← endList input)

def readList {α : Type} (read : Reader α) : Reader (List α) := fun depth input =>
  match skipBlank input with
  | [] => .error .truncated
  | b :: rest =>
    if b = listOpen then nested depth fun depth => readElements read depth rest true rest
    else .error (wrongShape b rest)

def depthLimit : Nat := 128

def readDocument {α : Type} (read : Reader α) (input : Octets) : Except ReadError α := do
  let (a, rest) ← read depthLimit input
  if (skipBlank rest).isEmpty then return a else throw .malformed

def readFront {α : Type} (read : Reader α) (input : Octets) : Except ReadError α :=
  (read depthLimit input).map Prod.fst

end Switchboard.Json
