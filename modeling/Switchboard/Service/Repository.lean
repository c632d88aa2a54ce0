import Switchboard.Registry.Routing
import Switchboard.Service.Plan

/-!
Records in the store: each sort of record is kept under its kind and its own id, as JSON. Failures
of the store are passed on with what was being done; a document that is no record of its kind is an
internal failure.
-/

namespace Switchboard.Service

open Store Text Json

structure Entity (α : Type) where
  kind : Kind
  id : α → String
  codec : Codec α

def trunkEntity : Entity Trunk := ⟨.trunk, Trunk.id, Trunk.codec⟩

def ruleEntity : Entity Rule := ⟨.rule, Rule.id, Rule.codec⟩

def participantEntity : Entity Participant := ⟨.participant, Participant.id, Participant.codec⟩

namespace Entity

variable {α : Type} (e : Entity α)

def decode (data : Octets) : Outcome α :=
  match e.codec.decode data with
  | .ok a => .ok a
  | .error _ => .error (.internal (e.kind.name ++ " decode:"))

def decodeAll : List Octets → Outcome (List α)
  | [] => .ok []
  | data :: more => do return (← e.decode data) :: (← decodeAll more)

def request (verb id : String) (r : Store.Request) : Operation r.Answer :=
  (Operation.store r).within (e.kind.name ++ " " ++ verb ++ " " ++ id)

def insert (a : α) : Operation Unit :=
  e.request "insert" (e.id a) (.insert e.kind (e.id a) (e.codec.encode a))

def find (id : String) : Operation (Option α) := do
  match ← e.request "get" id (.get e.kind id) with
  | none => return none
  | some data => return some (← .ofOutcome (e.decode data))

def load (id : String) : Operation α := do
  match ← e.find id with
  | some a => return a
  | none => throw (.notFound (e.kind.title id))

/-- Deletes a record that was loaded; meanwhile it may have gone. -/
def delete (a : α) : Operation Unit := do
  if ← e.request "delete" (e.id a) (.delete e.kind (e.id a)) then return ()
  else throw (.notFound (e.kind.title (e.id a)))

def list : Operation (List α) := do
  let rows ← (Operation.store (.list e.kind)).within (e.kind.name ++ " list")
  .ofOutcome (e.decodeAll rows)

def remove (id : String) (check : α → Outcome Unit) : Operation α := do
  let a ← e.load id
  .ofOutcome (check a)
  e.delete a
  return a

end Entity

end Switchboard.Service
