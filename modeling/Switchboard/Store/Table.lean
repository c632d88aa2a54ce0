import Switchboard.Text.Octets

/-!
Documents of one kind, in ascending order of their ids.
-/

namespace Switchboard.Store

open Text

structure Table where
  entries : List (String × Octets)
  deriving DecidableEq, Inhabited

namespace Table

def empty : Table := ⟨[]⟩

def get? (t : Table) (id : String) : Option Octets := t.entries.lookup id

def contains (t : Table) (id : String) : Bool := (t.get? id).isSome

def place (id : String) (data : Octets) : List (String × Octets) → List (String × Octets)
  | [] => [(id, data)]
  | e :: es => if precedes id e.1 then (id, data) :: e :: es else e :: place id data es

def insert (t : Table) (id : String) (data : Octets) : Table := ⟨place id data t.entries⟩

def erase (t : Table) (id : String) : Table := ⟨t.entries.filter fun e => e.1 ≠ id⟩

def documents (t : Table) : List Octets := t.entries.map Prod.snd

end Table

end Switchboard.Store
