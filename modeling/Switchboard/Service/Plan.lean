import Switchboard.Notice
import Switchboard.Registry.Digits
import Switchboard.Registry.Participant
import Switchboard.Store.Fault

/-!
Operations as plans: what to ask of the store and of the call channel, one request after the
other, and what to do with each answer. A plan is data; `Plan.run` carries it out in a world that
answers, fails, delays or never answers, and gives up when the waiting exceeds a limit.
-/

namespace Switchboard.Service

open Store Time

inductive Request where
  | store (r : Store.Request)
  | send (recipient : Participant) (digits : Digits)

abbrev Request.Answer : Request → Type
  | .store r => r.Answer
  | .send .. => SentDigits

inductive Plan (α : Type) where
  | done (a : α)
  | ask (r : Request) (next : Outcome r.Answer → Plan α)
  | allocate (start : String) (next : String → Plan α)
  | clock (next : Timestamp → Plan α)
  | note (n : Notice) (next : Plan α)

namespace Plan

variable {α β : Type}

def bind : Plan α → (α → Plan β) → Plan β
  | done a, k => k a
  | ask r next, k => ask r fun answer => (next answer).bind k
  | allocate start next, k => allocate start fun id => (next id).bind k
  | clock next, k => clock fun now => (next now).bind k
  | note n next, k => note n (next.bind k)

instance : Monad Plan where
  pure := done
  bind := bind

end Plan

abbrev Operation (α : Type) := ExceptT Failure Plan α

namespace Operation

def ofOutcome {α : Type} (o : Outcome α) : Operation α := ExceptT.mk (.done o)

def ask (r : Request) : Operation r.Answer := ExceptT.mk (.ask r .done)

def store (r : Store.Request) : Operation r.Answer := ask (.store r)

def allocate (start : String) : Operation String :=
  ExceptT.mk (.allocate start fun id => .done (.ok id))

def clock : Operation Timestamp := ExceptT.mk (.clock fun now => .done (.ok now))

def note (level : Level) (text : String) : Operation Unit :=
  ExceptT.mk (.note ⟨level, text⟩ (.done (.ok ())))

def within {α : Type} (context : String) (op : Operation α) : Operation α :=
  ExceptT.mk do
    match ← op.run with
    | .ok a => return .ok a
    | .error f => return .error (f.within context)

end Operation

structure World (σ : Type) where
  disturb : Request → σ → Disturbance × σ
  answer : (r : Request) → σ → Outcome r.Answer × σ
  allocate : String → σ → String × σ
  clock : σ → Timestamp
  note : Notice → σ → σ

def Request.vacant? : (r : Request) → Option r.Answer
  | .store r => r.vacant?
  | .send .. => none

/-- Carries a plan out, `waited` having passed; gives no result if the limit is exceeded. A request
that is delayed past the limit never arrives. -/
def Plan.run {σ α : Type} (w : World σ) (limit : Span) : Plan α → Span → σ → Option α × σ
  | .done a, _, s => (some a, s)
  | .allocate start next, waited, s =>
    let (id, s) := w.allocate start s
    (next id).run w limit waited s
  | .clock next, waited, s => (next (w.clock s)).run w limit waited s
  | .note n next, waited, s => next.run w limit waited (w.note n s)
  | .ask r next, waited, s =>
    let (disturbance, s) := w.disturb r s
    let arrive (waited : Span) (s : σ) :=
      let (outcome, s) := w.answer r s
      (next outcome).run w limit waited s
    match disturbance with
    | .none => arrive waited s
    | .fail f => (next (.error f)).run w limit waited s
    | .hang => (none, s)
    | .delay d => if limit < waited + d then (none, s) else arrive (waited + d) s
    | .absent =>
      match r.vacant? with
      | some answer => (next (.ok answer)).run w limit waited s
      | none => arrive waited s

end Switchboard.Service
