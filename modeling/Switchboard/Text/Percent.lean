import Switchboard.Text.Base16

/-!
Percent-encoded text: `%` and two hexadecimal digits stand for an octet, any other `%` for itself.
-/

namespace Switchboard.Text

def percentOctets : List Char → Octets
  | [] => []
  | '%' :: a :: b :: rest =>
    match base16Value a, base16Value b with
    | some high, some low => (high * 16 + low).toUInt8 :: percentOctets rest
    | _, _ => ascii '%' :: percentOctets (a :: b :: rest)
  | c :: rest => String.utf8EncodeChar c ++ percentOctets rest

def percentDecode? (s : String) : Option String := ofOctets? (percentOctets s.toList)

end Switchboard.Text
