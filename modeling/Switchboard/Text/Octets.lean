/-!
Text as its UTF-8 octets. Every text is the reading of its own octets (`ofOctets?_octets`), and
`precedes` is the order of identifiers: octet by octet, the shorter first.
-/

namespace Switchboard.Text

abbrev Octets := List UInt8

def octets (s : String) : Octets := s.toByteArray.data.toList

def ofOctets? (o : Octets) : Option String :=
  if h : (ByteArray.mk o.toArray).validateUTF8 = true then
    some (String.ofByteArray _ (ByteArray.validateUTF8_eq_true_iff.mp h))
  else none

theorem octets_toArray (s : String) : ByteArray.mk (octets s).toArray = s.toByteArray := by
  simp [octets]

theorem ofOctets?_octets (s : String) : ofOctets? (octets s) = some s := by
  have h : (ByteArray.mk (octets s).toArray).validateUTF8 = true := by
    rw [octets_toArray]
    exact ByteArray.validateUTF8_eq_true_iff.mpr s.isValidUTF8
  rw [ofOctets?, dif_pos h]
  congr 1

theorem octets_injective {s t : String} (h : octets s = octets t) : s = t := by
  have := congrArg ofOctets? h
  simpa [ofOctets?_octets] using this

def precedes (a b : String) : Bool := decide (octets a < octets b)

def ascii (c : Char) : UInt8 := c.toNat.toUInt8

end Switchboard.Text
