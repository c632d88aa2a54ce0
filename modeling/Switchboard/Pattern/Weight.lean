import Switchboard.Pattern.Expr

/-!
The weight of a pattern: the octets of memory that an automaton takes which reads the text octet by
octet. A pattern that weighs too much is refused.
-/

namespace Switchboard.Pattern

open Switchboard.Unicode

def weightLimit : Nat := 10 <<< 20

def stateWeight : Nat := 32

/-- What a state with transitions by interval takes more, for each of them. -/
def transitionWeight : Nat := 8

/-- What a state that only branches takes more, for each branch. -/
def branchWeight : Nat := 4

abbrev OctetRuns := List (Nat × Nat)

def encodedLength (n : Nat) : Nat :=
  if n < 0x80 then 1 else if n < 0x800 then 2 else if n < 0x10000 then 3 else 4

def encoded (n : Nat) : List Nat :=
  (String.utf8EncodeChar (Char.ofNat n)).map UInt8.toNat

/-- Cuts an interval where a run of the last `6 * places` bits is not whole, if one is not. -/
def cut? : List Nat → Nat → Nat → Option Nat
  | [], _, _ => none
  | places :: more, low, high =>
    let unit := Nat.pow 64 places
    if low / unit = high / unit then cut? more low high
    else if low % unit ≠ 0 then some ((low / unit + 1) * unit)
    else if high % unit ≠ unit - 1 then some (high / unit * unit)
    else cut? more low high

def lengthCut? (low high : Nat) : Option Nat :=
  [0x80, 0x800, 0xd800, 0xe000, 0x10000].find? fun n => low < n && n ≤ high

def octetRuns : Nat → Nat → Nat → List OctetRuns
  | 0, _, _ => []
  | fuel + 1, low, high =>
    if high < low ∨ 0xd800 ≤ low ∧ high ≤ 0xdfff then []
    else
      match (lengthCut? low high).or (if high < 0x80 then none else cut? [1, 2, 3] low high) with
      | some n => octetRuns fuel low (n - 1) ++ octetRuns fuel n high
      | none => [(encoded low).zip (encoded high)]

def sharedLength : OctetRuns → OctetRuns → Nat
  | a :: as, b :: bs => if a = b then sharedLength as bs + 1 else 0
  | _, _ => 0

def treeSize (last : OctetRuns) : List OctetRuns → Nat
  | [] => 0
  | runs :: more => (runs.length - sharedLength last runs) + treeSize runs more

def setWeight (s : CharSet) : Nat :=
  match s with
  | [⟨low, high⟩] =>
    if low = high then encodedLength low * stateWeight else manyWeight s
  | _ => manyWeight s
where
  manyWeight (s : CharSet) : Nat :=
    if s.isAscii then 2 * stateWeight + s.length * transitionWeight
    else
      let runs := s.flatMap fun i => octetRuns 64 i.low i.high
      (2 + treeSize [] runs) * stateWeight + runs.length * branchWeight

def Expr.isSolid : Expr → Bool
  | .empty | .look _ => false
  | .set _ => true
  | .sequence a b => a.isSolid || b.isSolid
  | .choice a b => a.isSolid && b.isSolid
  | .repetition body low _ => body.isSolid && low != 0
  | .capture body => body.isSolid

/-- The weight of an expression; as a branch it takes a place in the state that branches, and a
choice inside a choice needs no state of its own. -/
def Expr.weigh (asBranch : Bool) : Expr → Nat
  | .empty | .look _ => stateWeight + place
  | .set s => setWeight s + place
  | .sequence a b => a.weigh false + b.weigh false + place
  | .choice a b => a.weigh true + b.weigh true + if asBranch then 0 else 2 * stateWeight
  | .capture body => body.weigh false + 2 * stateWeight + place
  | .repetition body low high =>
    let option := stateWeight + 2 * branchWeight
    let w := body.weigh false
    match high with
    | some high =>
      if low = high then low * w + place
      else low * w + (high - low) * (w + option) + stateWeight + place
    | none =>
      if low ≠ 0 then low * w + option + place
      else if body.isSolid then w + option + place
      else w + 2 * option + stateWeight + place
where
  place : Nat := if asBranch then branchWeight else 0

/-- What every automaton takes besides: its start, its end and the way to begin anywhere. -/
def baseWeight : Nat := 6 * stateWeight

def Expr.isTooHeavy (e : Expr) : Bool := weightLimit < e.weigh false + baseWeight

end Switchboard.Pattern
