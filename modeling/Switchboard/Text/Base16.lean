import Switchboard.Text.Octets

/-!
Octets as pairs of hexadecimal digits, small letters.
-/

namespace Switchboard.Text

def lowDigit (n : Nat) : Char := Char.ofNat (if n < 10 then 48 + n else 87 + n)

def base16Digits (b : UInt8) : List Char := [lowDigit (b.toNat / 16), lowDigit (b.toNat % 16)]

def base16 (o : Octets) : String := String.ofList (o.flatMap base16Digits)

def isHex (c : Char) : Bool := c.isDigit || ('a' ≤ c && c ≤ 'f') || ('A' ≤ c && c ≤ 'F')

def hexValue (c : Char) : Nat :=
  if c.isDigit then c.toNat - 48 else if 'a' ≤ c then c.toNat - 87 else c.toNat - 55

def base16Value (c : Char) : Option Nat := if isHex c then some (hexValue c) else none

def ofBase16Digits : List Char → Option Octets
  | [] => some []
  | [_] => none
  | a :: b :: rest => do
    let high ← base16Value a
    let low ← base16Value b
    let os ← ofBase16Digits rest
    return (high * 16 + low).toUInt8 :: os

def ofBase16? (s : String) : Option Octets := ofBase16Digits s.toList

end Switchboard.Text
