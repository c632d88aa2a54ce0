import Mathlib
import Switchboard.Service.Session

/-! One action at a time on a store in memory, in surroundings of any sort: they give out ids, tell
the time, deliver digits, and may keep a request from its answer. -/

namespace Switchboard.Service

open Store Time

inductive Hindrance where
  | none
  | fail (f : Failure)
  | hang
  | delay (s : Span)

def Hindrance.disturbance : Hindrance → Disturbance
  | none => .none
  | fail f => .fail f
  | hang => .hang
  | delay s => .delay s

/-- All that an action meets with except the store; it may change from step to step. -/
structure Surroundings (ε : Type) where
  hinder : Request → ε → Hindrance × ε
  allocate : String → ε → String × ε
  clock : ε → {t : Timestamp // t.Valid}
  send : Participant → Digits → ε → Outcome SentDigits × ε

namespace Surroundings

variable {ε : Type} (w : Surroundings ε)

def calm : Surroundings ε :=
  { w with
    hinder := fun
      | .store _, e => (.none, e)
      | .send p d, e => w.hinder (.send p d) e }

def disturb (r : Request) : ε × Memory → Disturbance × ε × Memory
  | (e, m) =>
    let (h, e) := w.hinder r e
    (h.disturbance, e, m)

def answer : (r : Request) → ε × Memory → Outcome r.Answer × ε × Memory
  | .store r, (e, m) =>
    let served := m.serve r
    (served.outcome, e, served.store)
  | .send p d, (e, m) =>
    let (o, e) := w.send p d e
    (o, e, m)

def world : World (ε × Memory) where
  disturb := w.disturb
  answer := w.answer
  allocate start s :=
    let (id, e) := w.allocate start s.1
    (id, e, s.2)
  clock s := w.clock s.1
  note _ s := s

def carryOut (limit : Span) (a : Action) (plan : Plan (Outcome a.Result)) (s : ε × Memory) :
    Outcome a.Result × ε × Memory :=
  let (result, s) := plan.run w.world limit ⟨0⟩ s
  (Session.conclude a limit result, s)

def perform (limit : Span) (controlled : Bool) (a : Action) (s : ε × Memory) :
    Outcome a.Result × ε × Memory :=
  w.carryOut limit a (a.operation ⟨true, controlled⟩).run s

end Surroundings

end Switchboard.Service
