/-!
Settings as they come from files and from the environment, before they are given a type.
-/

namespace Switchboard.Settings

inductive Setting where
  | nothing
  | bool (b : Bool)
  | whole (n : Int)
  | real (x : Float)
  | text (s : String)
  | list (items : List Setting)
  | table (entries : List (String × Setting))
  deriving Inhabited

def put {α : Type} (name : String) (value : α) : List (String × α) → List (String × α)
  | [] => [(name, value)]
  | (k, v) :: more => if k = name then (k, value) :: more else (k, v) :: put name value more

/-- A name in small letters, as far as a name of ASCII letters can come of it: the Kelvin sign is
the only other letter whose small form is one of those. -/
def smallLetters (name : String) : String :=
  name.map fun c => if c = '\u212a' then 'k' else c.toLower

def wholeLimit : Int := 0x8000000000000000

def Setting.ofInt? (n : Int) : Option Setting :=
  if -wholeLimit ≤ n ∧ n < wholeLimit then some (.whole n) else none

end Switchboard.Settings
