import Switchboard.Json.Tree
import Switchboard.Store.Memory

/-!
A database whose pool of connections is closed: nothing reaches it. What is to be inserted is still
looked at first, since the database takes JSON only.
-/

namespace Switchboard.Store.ClosedPool

open Text Json

def reason : String := "attempted to acquire a connection on a closed pool"

def unavailable : Failure := .notReady ("Database unavailable: " ++ reason)

def complaint : Request → Option String
  | .get k id => some ("Failed to get " ++ k.title id)
  | .insert k id _ => some ("Failed to create " ++ k.title id)
  | .delete k id => some ("Failed to delete " ++ k.title id)
  | .list k => some ("Failed to list " ++ k.name)
  | .ping => none

def refuse (r : Request) : Served r.Answer Unit :=
  ⟨.error unavailable, (complaint r).toList.map fun c => ⟨.error, c ++ ": " ++ reason⟩, ()⟩

def serve : (r : Request) → Served r.Answer Unit
  | .insert k id data =>
    if (Tree.ofOctets? data).isSome then refuse (.insert k id data)
    else ⟨.error (.internal "document is not JSON:"), [], ()⟩
  | r => refuse r

end Switchboard.Store.ClosedPool

namespace Switchboard.Store

inductive Backend where
  | memory (m : Memory)
  | closedPool
  deriving Inhabited

def Backend.serve : Backend → (r : Request) → Served r.Answer Backend
  | .memory m, r =>
    let served := m.serve r
    ⟨served.outcome, served.notices, .memory served.store⟩
  | .closedPool, r =>
    let served := ClosedPool.serve r
    ⟨served.outcome, served.notices, .closedPool⟩

end Switchboard.Store
