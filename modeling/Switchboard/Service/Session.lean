import Switchboard.Metrics.Tally
import Switchboard.Service.Action
import Switchboard.Store.ClosedPool

/-!
The service at work: a store, a call channel, ids to give out, a clock, a limit on the time an
action may wait, and what has been logged and counted.
-/

namespace Switchboard.Service

open Store Time Metrics

inductive Control where
  | echo
  | fail (f : Failure)
  | hang
  deriving DecidableEq, Inhabited

structure Session where
  store : Option Backend
  control : Option Control
  faults : List Fault
  spareIds : List String
  allocated : Nat
  now : Timestamp
  limit : Span
  notices : List Notice
  tally : Tally
  deriving Inhabited

namespace Session

def defaultLimit : Span := .ofSeconds 10

def equipment (s : Session) : Equipment := ⟨s.store.isSome, s.control.isSome⟩

def note (n : Notice) (s : Session) : Session := { s with notices := s.notices ++ [n] }

/-- The suffix of the id given out next: one that was laid up, or a number. -/
def nextSuffix (s : Session) : String :=
  (s.spareIds[s.allocated]?).getD (padded 4 (s.allocated + 1))

def allocate (start : String) (s : Session) : String × Session :=
  (start ++ s.nextSuffix, { s with allocated := s.allocated + 1 })

def askStore (r : Store.Request) (s : Session) : Outcome r.Answer × Session :=
  match s.store with
  | none => (.error notConnected, s)
  | some backend =>
    let served := backend.serve r
    (served.outcome, { s with store := some served.store, notices := s.notices ++ served.notices })

def send (recipient : Participant) (digits : Digits) : Option Control → Outcome SentDigits
  | some (.fail f) => .error f
  | _ => .ok ⟨recipient.id, digits.text⟩

def answer : (r : Request) → Session → Outcome r.Answer × Session
  | .store r, s => s.askStore r
  | .send recipient digits, s => (send recipient digits s.control, s)

def disturb : Request → Session → Disturbance × Session
  | .store r, s =>
    let (d, faults) := Store.disturb r s.faults
    (d, { s with faults })
  | .send .., s => (if s.control = some .hang then .hang else .none, s)

def world : World Session := ⟨disturb, answer, allocate, Session.now, note⟩

def conclude (a : Action) (limit : Span) : Option (Outcome a.Result) → Outcome a.Result
  | some outcome => outcome
  | none =>
    .error (.deadlineExceeded (a.name ++ " did not finish within " ++ limit.text))

def warnOf (a : Action) : Outcome a.Result → List Notice
  | .ok _ => []
  | .error f => [⟨.warning, a.name ++ " failed: " ++ f.text⟩]

def counted (a : Action) (outcome : Outcome a.Result) (t : Tally) : Tally :=
  let t := { t with operations := t.operations.add ⟨a.name, outcome.label "ok"⟩ }
  match a with
  | .matchCall _ => { t with dispatches := t.dispatches.add (outcome.label "routed") }
  | _ => t

def account (a : Action) (outcome : Outcome a.Result) (s : Session) : Session :=
  { s with notices := s.notices ++ warnOf a outcome, tally := counted a outcome s.tally }

def perform (a : Action) (s : Session) : Outcome a.Result × Session :=
  let plan := (a.operation s.equipment).run
  let (result, s) := plan.run world s.limit ⟨0⟩ s
  let outcome := conclude a s.limit result
  (outcome, account a outcome s)

end Session

end Switchboard.Service
