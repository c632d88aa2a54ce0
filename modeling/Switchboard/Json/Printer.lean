import Switchboard.Text.Octets

/-!
Writing JSON without blanks. A string is written octet by octet: quotes, backslashes and control
characters are escaped, all else stands for itself.
-/

namespace Switchboard.Json

open Switchboard.Text

def hexDigit (n : Nat) : UInt8 := if n < 10 then (0x30 + n).toUInt8 else (0x57 + n).toUInt8

def shortEscape (letter : Char) : Octets := [ascii '\\', ascii letter]

def unitEscape (b : UInt8) : Octets :=
  octets "\\u00" ++ [hexDigit (b.toNat / 16), hexDigit (b.toNat % 16)]

def escapeOctets (b : UInt8) : Octets :=
  if b = ascii '"' then shortEscape '"'
  else if b = ascii '\\' then shortEscape '\\'
  else if 0x20 ≤ b then [b]
  else if b = 0x08 then shortEscape 'b'
  else if b = 0x09 then shortEscape 't'
  else if b = 0x0a then shortEscape 'n'
  else if b = 0x0c then shortEscape 'f'
  else if b = 0x0d then shortEscape 'r'
  else unitEscape b

def writeString (s : String) : Octets :=
  ascii '"' :: (octets s).flatMap escapeOctets ++ [ascii '"']

def writeBool (b : Bool) : Octets := octets (if b then "true" else "false")

def writeNull : Octets := octets "null"

def writeNat (n : Nat) : Octets := octets (toString n)

def writeOption {α : Type} (write : α → Octets) : Option α → Octets
  | none => writeNull
  | some a => write a

def separated : List Octets → Octets
  | [] => []
  | [part] => part
  | part :: parts => part ++ ascii ',' :: separated parts

def writeList {α : Type} (write : α → Octets) (as : List α) : Octets :=
  ascii '[' :: separated (as.map write) ++ [ascii ']']

def writeMember (name : String) (value : Octets) : Octets :=
  writeString name ++ ascii ':' :: value

def writeObject (members : List (String × Octets)) : Octets :=
  ascii '{' :: separated (members.map fun m => writeMember m.1 m.2) ++ [ascii '}']

end Switchboard.Json
