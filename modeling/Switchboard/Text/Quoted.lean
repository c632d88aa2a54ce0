import Switchboard.Unicode.Category
import Switchboard.Unicode.Property

/-!
Text in quotes, as messages show it: control characters, the quote, the backslash and all that
would not be seen on its own are escaped.
-/

namespace Switchboard.Text

open Switchboard.Unicode

def setOf (t : Table) (names : List String) : CharSet :=
  names.foldl (fun s name => s.union ((t.find? name).getD [])) []

/-- Unassigned, private, control and format characters, and blanks other than the space. -/
def unseen : CharSet :=
  CharSet.diff (setOf categories ["cc", "cf", "co", "cn", "zl", "zp", "zs"]) (.ofChar ' ')

def joining : CharSet := setOf properties ["graphemeextend"]

def hexDigits (n : Nat) : String := String.ofList (Nat.toDigits 16 n)

def codeEscape (c : Char) : List Char :=
  '\\' :: 'u' :: '{' :: (hexDigits c.toNat).toList ++ ['}']

def escaped (mark c : Char) : List Char :=
  if c = '\x00' then ['\\', '0']
  else if c = '\t' then ['\\', 't']
  else if c = '\r' then ['\\', 'r']
  else if c = '\n' then ['\\', 'n']
  else if c = '\\' ∨ c = mark then ['\\', c]
  else if c.toNat < 0x7f ∧ 0x20 ≤ c.toNat then [c]
  else if joining.contains c.toNat ∨ unseen.contains c.toNat then codeEscape c
  else [c]

def quoted (s : String) : String :=
  String.ofList ('"' :: s.toList.flatMap (escaped '"') ++ ['"'])

def quotedChar (c : Char) : String := String.ofList ('\'' :: escaped '\'' c ++ ['\''])

end Switchboard.Text
