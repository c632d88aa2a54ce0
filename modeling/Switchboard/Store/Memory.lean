import Switchboard.Notice
import Switchboard.Store.Request
import Switchboard.Store.Table

/-!
A store in memory: a table for each kind. Each request is one step.
-/

namespace Switchboard.Store

open Text

structure Memory where
  trunks : Table
  rules : Table
  participants : Table
  deriving DecidableEq, Inhabited

structure Served (β σ : Type) where
  outcome : Outcome β
  notices : List Notice
  store : σ

namespace Memory

def empty : Memory := ⟨.empty, .empty, .empty⟩

def table (m : Memory) : Kind → Table
  | .trunk => m.trunks
  | .rule => m.rules
  | .participant => m.participants

def withTable (m : Memory) (k : Kind) (t : Table) : Memory :=
  match k with
  | .trunk => { m with trunks := t }
  | .rule => { m with rules := t }
  | .participant => { m with participants := t }

def serve (m : Memory) : (r : Request) → Served r.Answer Memory
  | .get k id => ⟨.ok ((m.table k).get? id), [], m⟩
  | .insert k id data =>
    if (m.table k).contains id then ⟨.error (.alreadyExists (k.title id)), [], m⟩
    else
      ⟨.ok (), [⟨.debug, "Stored " ++ k.title id⟩], m.withTable k ((m.table k).insert id data)⟩
  | .delete k id =>
    if (m.table k).contains id then
      ⟨.ok true, [⟨.debug, "Removed " ++ k.title id⟩], m.withTable k ((m.table k).erase id)⟩
    else ⟨.ok false, [], m⟩
  | .list k => ⟨.ok (m.table k).documents, [], m⟩
  | .ping => ⟨.ok (), [], m⟩

end Memory

end Switchboard.Store
