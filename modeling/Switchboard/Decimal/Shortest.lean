/-!
The fewest decimal digits that read back as a given binary float: of the decimals of that many
digits between the float's two halfway points, the one nearest to it.
-/

namespace Switchboard.Decimal

structure Ratio where
  num : Nat
  den : Nat

def Ratio.le (a b : Ratio) : Bool := a.num * b.den ≤ b.num * a.den

def Ratio.lt (a b : Ratio) : Bool := a.num * b.den < b.num * a.den

/-- `m * 2 ^ q`, a quarter of it at a time. -/
def Ratio.quarters (m : Nat) (q : Int) : Ratio :=
  if 2 ≤ q then ⟨m <<< (q - 2).toNat, 1⟩ else ⟨m, 1 <<< (2 - q).toNat⟩

/-- The numbers that read back as one float. -/
structure Interval where
  value : Ratio
  low : Ratio
  high : Ratio
  closed : Bool

def Interval.contains (i : Interval) (r : Ratio) : Bool :=
  if i.closed then i.low.le r && r.le i.high else i.low.lt r && r.lt i.high

def Interval.ofBits (bits : Nat) : Interval :=
  let fraction := bits % (1 <<< 52)
  let biased := (bits >>> 52) % (1 <<< 11)
  let m := if biased = 0 then fraction else fraction + (1 <<< 52)
  let q : Int := ((if biased = 0 then 1 else biased : Nat) : Int) - 1075
  let below := if fraction = 0 ∧ 1 < biased then 1 else 2
  { value := .quarters (4 * m) q, low := .quarters (4 * m - below) q
    high := .quarters (4 * m + 2) q, closed := m % 2 == 0 }

def digitCount : Nat → Nat → Nat
  | 0, _ => 0
  | fuel + 1, n => if n = 0 then 0 else digitCount fuel (n / 10) + 1

def leadingPlaces : Nat → Ratio → Nat
  | 0, _ => 0
  | fuel + 1, r => if r.den ≤ r.num then 0 else leadingPlaces fuel ⟨r.num * 10, r.den⟩ + 1

/-- The place of the point before the first digit: the number is `0.d₁d₂… * 10 ^ place`. -/
def place (r : Ratio) : Int :=
  if r.den ≤ r.num then digitCount 400 (r.num / r.den) else 1 - (leadingPlaces 400 r : Int)

def units (n : Nat) (e : Int) : Ratio :=
  if 0 ≤ e then ⟨n * Nat.pow 10 e.toNat, 1⟩ else ⟨n, Nat.pow 10 (-e).toNat⟩

def nearerBelow (r a b : Ratio) : Bool :=
  2 * r.num * a.den * b.den ≤ (a.num * b.den + b.num * a.den) * r.den

def onGrid (i : Interval) (e : Int) : Option Nat :=
  let quotient := if 0 ≤ e then i.value.num / (i.value.den * Nat.pow 10 e.toNat)
    else i.value.num * Nat.pow 10 (-e).toNat / i.value.den
  let below := units quotient e
  let above := units (quotient + 1) e
  match i.contains below, i.contains above with
  | true, true => if nearerBelow i.value below above then some quotient else some (quotient + 1)
  | true, false => some quotient
  | false, true => some (quotient + 1)
  | false, false => none

structure Numeral where
  digits : Nat
  exponent : Int

def search (i : Interval) (p : Int) : Nat → Nat → Numeral
  | 0, n => ⟨i.value.num, p - n⟩
  | fuel + 1, n =>
    match onGrid i (p - n) with
    | some d => ⟨d, p - n⟩
    | none => search i p fuel (n + 1)

def Numeral.trim : Nat → Numeral → Numeral
  | 0, d => d
  | fuel + 1, d =>
    if d.digits ≠ 0 ∧ d.digits % 10 = 0 then trim fuel ⟨d.digits / 10, d.exponent + 1⟩ else d

def shortest (bits : Nat) : Numeral :=
  let i := Interval.ofBits bits
  (search i (place i.value) 18 1).trim 400

def zeros (n : Nat) : String := String.ofList (List.replicate n '0')

def Numeral.positional (d : Numeral) : String :=
  let ds := toString d.digits
  if 0 ≤ d.exponent then ds ++ zeros d.exponent.toNat
  else
    let places := d.exponent.natAbs
    let padded := zeros (places + 1 - ds.length) ++ ds
    let cut := padded.length - places
    String.ofList (padded.toList.take cut) ++ "." ++ String.ofList (padded.toList.drop cut)

def Numeral.scientific (d : Numeral) : String := toString d.digits ++ "e" ++ toString d.exponent

def textBy (layout : Numeral → String) (x : Float) : String :=
  if x.isNaN then "NaN"
  else
    let bits := x.toBits.toNat
    let magnitude := bits % (1 <<< 63)
    let sign := if bits < 1 <<< 63 then "" else "-"
    if x.isInf then sign ++ "inf"
    else if magnitude = 0 then sign ++ layout ⟨0, 0⟩
    else sign ++ layout (shortest magnitude)

def plain : Float → String := textBy fun d => d.positional

def scaled : Float → String := textBy fun d => d.scientific

end Switchboard.Decimal
