/-!
The marks between the values of a TOML document: blanks, line ends, comments and names. A reader
that repeats a step recurses on `ahead`, which is at least as long as the text left to read.
-/

namespace Switchboard.Toml

abbrev Scan (α : Type) := List Char → Option (α × List Char)

def isBlank (c : Char) : Bool := c == ' ' || c == '\t'

def skipBlanks (cs : List Char) : List Char := cs.dropWhile isBlank

def isPrintable (c : Char) : Bool := c == '\t' || (0x20 ≤ c.toNat && c.toNat != 0x7f)

def newline? : List Char → Option (List Char)
  | '\n' :: rest => some rest
  | '\r' :: '\n' :: rest => some rest
  | _ => none

def skipComment : List Char → List Char
  | '#' :: rest => rest.dropWhile isPrintable
  | cs => cs

def endLine (cs : List Char) : Option (List Char) :=
  match skipComment (skipBlanks cs) with
  | [] => some []
  | rest => newline? rest

def skipLines : List Char → List Char → List Char
  | [], cs => cs
  | _ :: ahead, cs =>
    match newline? (skipComment (skipBlanks cs)) with
    | some rest => skipLines ahead rest
    | none => skipComment (skipBlanks cs)

def skipSpace (cs : List Char) : List Char := skipLines cs cs

def isNameChar (c : Char) : Bool := c.isAlphanum || c == '_' || c == '-'

end Switchboard.Toml
