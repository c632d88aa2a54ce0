/-!
The float nearest to a decimal.
-/

namespace Switchboard.Decimal

/-- The most digits, and the farthest exponents, at which a decimal is neither too large nor too
small for any float. -/
def reachOfFloats : Int := 1200

/-- `± n * 10 ^ e`, for `n` of `width` digits. -/
def toFloat (negative : Bool) (n width : Nat) (e : Int) : Float :=
  let magnitude : Float :=
    if n = 0 then 0.0
    else if reachOfFloats < e + width then 1.0 / 0.0
    else if e + width < -reachOfFloats then 0.0
    else Float.ofScientific n (e < 0) e.natAbs
  if negative then -magnitude else magnitude

end Switchboard.Decimal
