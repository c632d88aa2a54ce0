import Switchboard.Pattern.Tree
import Switchboard.Unicode.Age
import Switchboard.Unicode.Blank
import Switchboard.Unicode.Category
import Switchboard.Unicode.Property
import Switchboard.Unicode.Script
import Switchboard.Unicode.ScriptExtension
import Switchboard.Unicode.Segment
import Switchboard.Unicode.Word

/-!
The characters that the classes of a pattern stand for. Names of properties and of their values
are compared in small letters, without blanks, dashes, underscores and an `is` in front.
-/

namespace Switchboard.Pattern

open Switchboard.Unicode

def isSeparator (c : Char) : Bool := c == ' ' || c == '_' || c == '-'

def plainName (cs : List Char) : List Char :=
  (cs.filter fun c => c.toNat < 128 && !isSeparator c).map Char.toLower

def normalName (name : String) : String :=
  match name.toList with
  | i :: s :: rest =>
    if i.toLower = 'i' ∧ s.toLower = 's' then
      let rest := plainName rest
      if rest = ['c'] then "isc" else .ofList rest
    else .ofList (plainName (i :: s :: rest))
  | cs => .ofList (plainName cs)

def categoriesOf (names : List String) : CharSet :=
  names.foldl (fun s name => s.union ((categories.find? name).getD [])) []

def categorySet (name : String) : Option CharSet :=
  match name with
  | "any" => some .all
  | "ascii" => some [⟨0, 127⟩]
  | "assigned" => some (categoriesOf ["cn"]).complement
  | "l" | "letter" => some (categoriesOf ["lu", "ll", "lt", "lm", "lo"])
  | "lc" | "casedletter" => some (categoriesOf ["lu", "ll", "lt"])
  | "m" | "mark" | "combiningmark" => some (categoriesOf ["mn", "mc", "me"])
  | "n" | "number" => some (categoriesOf ["nd", "nl", "no"])
  | "p" | "punctuation" | "punct" =>
    some (categoriesOf ["pc", "pd", "ps", "pe", "pi", "pf", "po"])
  | "s" | "symbol" => some (categoriesOf ["sm", "sc", "sk", "so"])
  | "z" | "separator" => some (categoriesOf ["zs", "zl", "zp"])
  | "c" | "other" => some (categoriesOf ["cc", "cf", "cn", "co"])
  | _ => categories.find? name

/-- What was in the database by a version: all that came with it or before. -/
def ageSet (name : String) : Option CharSet :=
  let before := ages.takeWhile fun r => !r.names.contains name
  (ages.find? name).map fun s => before.foldl (fun s r => s.union r.set) s

def valueSet (property value : String) : Option CharSet :=
  match property with
  | "gc" | "generalcategory" => categorySet value
  | "sc" | "script" => scripts.find? value
  | "scx" | "scriptextensions" => scriptExtensions.find? value
  | "age" => ageSet value
  | "gcb" | "graphemeclusterbreak" => clusterBreaks.find? value
  | "wb" | "wordbreak" => wordBreaks.find? value
  | "sb" | "sentencebreak" => sentenceBreaks.find? value
  | _ => none

def Query.set? : Query → Option CharSet
  | .named name =>
    let name := normalName name
    (properties.find? name).or ((categorySet name).or (scripts.find? name))
  | .valued property value => valueSet (normalName property) (normalName value)

def interval (a b : Char) : Interval := ⟨a.toNat, b.toNat⟩

def asciiDigits : CharSet := [interval '0' '9']

def asciiSpaces : CharSet := [interval '\t' '\r', interval ' ' ' ']

def asciiWord : CharSet :=
  [interval '0' '9', interval 'A' 'Z', interval '_' '_', interval 'a' 'z']

def decimalDigits : CharSet := categoriesOf ["nd"]

def blanks : CharSet := (properties.find? "whitespace").getD []

def LetterClass.set (unicode : Bool) : LetterClass → CharSet
  | .digit => if unicode then decimalDigits else asciiDigits
  | .space => if unicode then blanks else asciiSpaces
  | .word => if unicode then wordSet else asciiWord

def NamedClass.set : NamedClass → CharSet
  | .alnum => [interval '0' '9', interval 'A' 'Z', interval 'a' 'z']
  | .alpha => [interval 'A' 'Z', interval 'a' 'z']
  | .ascii => [⟨0, 127⟩]
  | .blank => [interval '\t' '\t', interval ' ' ' ']
  | .cntrl => [⟨0, 31⟩, ⟨127, 127⟩]
  | .digit => asciiDigits
  | .graph => [interval '!' '~']
  | .lower => [interval 'a' 'z']
  | .print => [interval ' ' '~']
  | .punct => [interval '!' '/', interval ':' '@', interval '[' '\x60', interval '{' '~']
  | .space => asciiSpaces
  | .upper => [interval 'A' 'Z']
  | .word => asciiWord
  | .xdigit => [interval '0' '9', interval 'A' 'F', interval 'a' 'f']

end Switchboard.Pattern
