import Switchboard.Api.Front
import Switchboard.Proofs.Service.Surroundings
import Switchboard.Proofs.Service.Worlds

/-! What the front may work on: sessions, and services in surroundings of any sort that keep what is
logged, counted and answered. What the front notes and counts is nothing to the actions. -/

namespace Switchboard.Service

open Store Time Metrics

def Session.bare (s : Session) : Session :=
  { s with notices := [], tally := { s.tally with requests := .empty } }

def Session.bareWorld : World Session where
  disturb r s := ((Session.disturb r s).1, (Session.disturb r s).2.bare)
  answer r s := ((Session.answer r s).1, (Session.answer r s).2.bare)
  allocate start s := ((Session.allocate start s).1, (Session.allocate start s).2.bare)
  clock := Session.now
  note _ s := s

lemma Session.maps_bare : Session.world.Maps Session.bareWorld Session.bare where
  disturb r s := by cases r <;> rfl
  answer r s := by
    cases r with
    | send p d => rfl
    | store r =>
      obtain ⟨store, control, faults, spareIds, allocated, now, limit, notices, tally⟩ := s
      cases store <;> rfl
  allocate start s := rfl
  clock s := rfl
  note n s := rfl

lemma Session.bare_account (a : Action) (o : Outcome a.Result) (s : Session) :
    (account a o s).bare = (account a o s.bare).bare := by
  cases a <;> rfl

lemma Session.bare_run {α : Type} (p : Plan α) (limit waited : Span) (s : Session) :
    (p.run world limit waited s).1 = (p.run world limit waited s.bare).1 ∧
      (p.run world limit waited s).2.bare = (p.run world limit waited s.bare).2.bare := by
  have h := maps_bare.run p limit waited s
  have hb := maps_bare.run p limit waited s.bare
  -- a bare session is its own bare session
  exact Prod.mk.inj (h.symm.trans hb)

lemma Session.bare_perform (a : Action) (s : Session) :
    (s.perform a).1 = (s.bare.perform a).1 ∧ (s.perform a).2.bare = (s.bare.perform a).2.bare := by
  obtain ⟨ho, hs⟩ := bare_run (a.operation s.equipment).run s.limit ⟨0⟩ s
  have hl : _ = _ := congrArg Session.limit hs
  have hc : (s.perform a).1 = (s.bare.perform a).1 := congrArg₂ (conclude a) hl ho
  refine ⟨hc, ?_⟩
  change (account a (s.perform a).1 _).bare = (account a (s.bare.perform a).1 _).bare
  rw [bare_account, hs, hc, ← bare_account]
  rfl

/-- A service with a store in memory, what it has logged and counted, and the outcomes of its
actions so far. -/
structure Post (ε : Type) where
  rest : ε
  memory : Memory
  notices : List Notice
  tally : Tally
  outcomes : List (Σ a : Action, Outcome a.Result)

def Post.bare {ε : Type} (s : Post ε) : (ε × Memory) × List (Σ a : Action, Outcome a.Result) :=
  ((s.rest, s.memory), s.outcomes)

namespace Surroundings

variable {ε : Type} (w : Surroundings ε)

def logged : World ((ε × Memory) × List Notice) where
  disturb r s := ((w.disturb r s.1).1, (w.disturb r s.1).2, s.2)
  answer
    | .store r, s => ((s.1.2.serve r).outcome, (s.1.1, (s.1.2.serve r).store),
        s.2 ++ (s.1.2.serve r).notices)
    | .send p d, s => ((w.send p d s.1.1).1, ((w.send p d s.1.1).2, s.1.2), s.2)
  allocate start s := ((w.allocate start s.1.1).1, ((w.allocate start s.1.1).2, s.1.2), s.2)
  clock s := w.clock s.1.1
  note n s := (s.1, s.2 ++ [n])

lemma maps_logged : w.logged.Maps w.world Prod.fst where
  disturb r s := rfl
  answer r s := by cases r <;> rfl
  allocate start s := rfl
  clock s := rfl
  note n s := rfl

def attend (limit : Span) (controlled : Bool) (a : Action) (s : Post ε) :
    Outcome a.Result × Post ε :=
  let plan := (a.operation ⟨true, controlled⟩).run
  let (result, (rest, memory), notices) := plan.run w.logged limit ⟨0⟩ ((s.rest, s.memory), [])
  let o := Session.conclude a limit result
  (o, ⟨rest, memory, s.notices ++ notices ++ Session.warnOf a o, Session.counted a o s.tally,
    s.outcomes ++ [⟨a, o⟩]⟩)

lemma attend_bare (limit : Span) (controlled : Bool) (a : Action) (s : Post ε) :
    let x := w.perform limit controlled a s.bare.1
    (w.attend limit controlled a s).1 = x.1 ∧
      (w.attend limit controlled a s).2.bare = (x.2, s.outcomes ++ [⟨a, x.1⟩]) := by
  have h := w.maps_logged.run (a.operation ⟨true, controlled⟩).run limit ⟨0⟩
    ((s.rest, s.memory), [])
  intro x
  have hx : x = ((w.attend limit controlled a s).1, (w.attend limit controlled a s).2.bare.1) := by
    simp only [x, perform, carryOut, attend, Post.bare]
    rw [h]
  rw [hx]
  exact ⟨rfl, rfl⟩

end Surroundings

end Switchboard.Service

namespace Switchboard.Api

open Store Time Metrics Service

def postHost {ε : Type} (w : Surroundings ε) (limit : Span) (controlled : Bool) :
    Host (Post ε) where
  perform := w.attend limit controlled
  note ns s := { s with notices := s.notices ++ ns }
  count key s := { s with tally := { s.tally with requests := s.tally.requests.add key } }
  tally := Post.tally

/-- What the front notes and counts makes no difference to `bare`, and that is all that actions
depend on. -/
structure Host.Oblivious {σ β : Type} (h : Host σ) (bare : σ → β) : Prop where
  note : ∀ ns s, bare (h.note ns s) = bare s
  count : ∀ key s, bare (h.count key s) = bare s
  perform : ∀ a s s', bare s = bare s' →
    (h.perform a s).1 = (h.perform a s').1 ∧ bare (h.perform a s).2 = bare (h.perform a s').2

lemma sessionHost_oblivious : sessionHost.Oblivious Session.bare where
  note ns s := rfl
  count key s := rfl
  perform a s s' h := by
    obtain ⟨ho, hs⟩ := s.bare_perform a
    obtain ⟨ho', hs'⟩ := s'.bare_perform a
    rw [h] at ho hs
    exact ⟨ho.trans ho'.symm, hs.trans hs'.symm⟩

lemma postHost_oblivious {ε : Type} (w : Surroundings ε) (limit : Span) (controlled : Bool) :
    (postHost w limit controlled).Oblivious Post.bare where
  note ns s := rfl
  count key s := rfl
  perform a s s' h := by
    obtain ⟨ho, hs⟩ := w.attend_bare limit controlled a s
    obtain ⟨ho', hs'⟩ := w.attend_bare limit controlled a s'
    have hout : s.outcomes = s'.outcomes := congrArg Prod.snd h
    rw [h] at ho hs
    rw [hout] at hs
    exact ⟨ho.trans ho'.symm, hs.trans hs'.symm⟩

end Switchboard.Api
