import Switchboard.Text.Base16
import Switchboard.Toml.Scan

/-!
Texts of a TOML document: in double quotes with escapes, in single quotes as they are, and both on
several lines in three quotes, whose line ends are all written the same.
-/

namespace Switchboard.Toml

open Text (isHex hexValue)

def hexChar (width : Nat) : Scan Char := fun cs =>
  let ds := cs.take width
  let n := ds.foldl (fun n d => n * 16 + hexValue d) 0
  if ds.length = width ∧ ds.all isHex ∧ n.isValidChar then some (Char.ofNat n, cs.drop width)
  else none

def escape : Scan Char
  | [] => none
  | c :: rest =>
    match c with
    | 'b' => some ('\x08', rest)
    | 't' => some ('\t', rest)
    | 'n' => some ('\n', rest)
    | 'f' => some ('\x0c', rest)
    | 'r' => some ('\r', rest)
    | '"' => some ('"', rest)
    | '\\' => some ('\\', rest)
    | 'u' => hexChar 4 rest
    | 'U' => hexChar 8 rest
    | _ => none

def basicBody : List Char → Scan (List Char)
  | [], _ => none
  | _ :: ahead, cs =>
    match cs with
    | [] => none
    | '"' :: rest => some ([], rest)
    | '\\' :: rest => do
      let (c, rest) ← escape rest
      let (text, rest) ← basicBody ahead rest
      return (c :: text, rest)
    | c :: rest =>
      if isPrintable c then (basicBody ahead rest).map fun (text, rest) => (c :: text, rest)
      else none

def literalBody : Scan (List Char) := fun cs =>
  match cs.dropWhile fun c => c != '\'' && isPrintable c with
  | '\'' :: rest => some (cs.takeWhile fun c => c != '\'' && isPrintable c, rest)
  | _ => none

def skipFolded : List Char → List Char → List Char
  | [], cs => cs
  | _ :: ahead, cs =>
    match newline? (skipBlanks cs) with
    | some rest => skipFolded ahead rest
    | none => skipBlanks cs

/-- The quotes that end a text on several lines; one or two before them belong to it. -/
def closing (mark : Char) (cs : List Char) : Option (List Char × List Char) :=
  let run := (cs.take 5).takeWhile (· == mark)
  if 3 ≤ run.length then some (run.drop 3, cs.drop run.length) else none

def longBody (mark : Char) : List Char → Scan (List Char)
  | [], _ => none
  | _ :: ahead, cs =>
    match closing mark cs with
    | some done => some done
    | none =>
      match newline? cs with
      | some rest => (longBody mark ahead rest).map fun (text, rest) => ('\n' :: text, rest)
      | none =>
        match cs with
        | [] => none
        | c :: rest =>
          if c = '\\' ∧ mark = '"' then
            match newline? (skipBlanks rest) with
            | some rest => longBody mark ahead (skipFolded rest rest)
            | none => do
              let (c, rest) ← escape rest
              let (text, rest) ← longBody mark ahead rest
              return (c :: text, rest)
          else if isPrintable c then
            (longBody mark ahead rest).map fun (text, rest) => (c :: text, rest)
          else none

/-- A line end right after the opening quotes does not count. -/
def longText (mark : Char) : Scan (List Char) := fun cs =>
  longBody mark cs ((newline? cs).getD cs)

def shortText : Scan String
  | '"' :: rest => (basicBody rest rest).map fun (t, rest) => (.ofList t, rest)
  | '\'' :: rest => (literalBody rest).map fun (t, rest) => (.ofList t, rest)
  | _ => none

def text : Scan String
  | '"' :: '"' :: '"' :: rest => (longText '"' rest).map fun (t, rest) => (.ofList t, rest)
  | '\'' :: '\'' :: '\'' :: rest => (longText '\'' rest).map fun (t, rest) => (.ofList t, rest)
  | cs => shortText cs

def name : Scan String := fun cs =>
  match cs.takeWhile isNameChar with
  | [] => shortText cs
  | bare => some (.ofList bare, cs.drop bare.length)

end Switchboard.Toml
