import Mathlib
import Switchboard.Service.Session

/-! A world and the same world seen through a map of its states: what is left out of the states
makes no difference to plans. So a record can be kept of what is asked, and nobody notices. -/

namespace Switchboard.Service

open Store Time

variable {σ τ : Type}

/-- What plans see and do in one world is what they see and do in the other, through `f`. -/
structure World.Maps (w : World σ) (w' : World τ) (f : σ → τ) : Prop where
  disturb : ∀ r s, w'.disturb r (f s) = ((w.disturb r s).1, f (w.disturb r s).2)
  answer : ∀ r s, w'.answer r (f s) = ((w.answer r s).1, f (w.answer r s).2)
  allocate : ∀ start s, w'.allocate start (f s) = ((w.allocate start s).1, f (w.allocate start s).2)
  clock : ∀ s, w'.clock (f s) = w.clock s
  note : ∀ n s, w'.note n (f s) = f (w.note n s)

lemma World.Maps.run {w : World σ} {w' : World τ} {f : σ → τ} (h : w.Maps w' f) {α : Type}
    (p : Plan α) (limit waited : Span) (s : σ) :
    p.run w' limit waited (f s) =
      ((p.run w limit waited s).1, f (p.run w limit waited s).2) := by
  induction p generalizing waited s with
  | done a => rfl
  | allocate start next ih =>
    simp only [Plan.run, h.allocate]
    exact ih _ waited _
  | clock next ih =>
    simp only [Plan.run, h.clock]
    exact ih _ waited s
  | note n next ih =>
    simp only [Plan.run, h.note]
    exact ih waited _
  | ask r next ih =>
    have harrive (waited : Span) (s : σ) :
        (next (w'.answer r (f s)).1).run w' limit waited (w'.answer r (f s)).2 =
          (((next (w.answer r s).1).run w limit waited (w.answer r s).2).1,
            f ((next (w.answer r s).1).run w limit waited (w.answer r s).2).2) := by
      rw [h.answer]
      exact ih _ waited _
    simp only [Plan.run, h.disturb]
    cases (w.disturb r s).1 with
    | none => exact harrive waited _
    | fail f => exact ih _ waited _
    | hang => rfl
    | delay d =>
      simp only
      split_ifs
      · rfl
      · exact harrive _ _
    | absent =>
      cases r.vacant? with
      | none => exact harrive waited _
      | some answer => exact ih _ waited _

structure Exchange where
  request : Request
  outcome : Option (Outcome request.Answer)

def Request.returned? (r : Request) : Disturbance → Option (Outcome r.Answer)
  | .fail f => some (.error f)
  | .absent => r.vacant?.map .ok
  | _ => none

lemma Plan.run_ask {α : Type} (w : World σ) (limit waited : Span) (r : Request)
    (next : Outcome r.Answer → Plan α) (s : σ) :
    let (d, t) := w.disturb r s
    (Plan.ask r next).run w limit waited s = (none, t) ∧ r.returned? d = none ∨
    (∃ o, r.returned? d = some o ∧
      (Plan.ask r next).run w limit waited s = (next o).run w limit waited t) ∨
    ∃ waited', (Plan.ask r next).run w limit waited s =
      (next (w.answer r t).1).run w limit waited' (w.answer r t).2 := by
  simp only [Plan.run]
  cases (w.disturb r s).1 with
  | none => exact .inr (.inr ⟨waited, rfl⟩)
  | fail f => exact .inr (.inl ⟨.error f, rfl, rfl⟩)
  | hang => exact .inl ⟨rfl, rfl⟩
  | delay d =>
    simp only
    split_ifs
    · exact .inl ⟨rfl, rfl⟩
    · exact .inr (.inr ⟨waited + d, rfl⟩)
  | absent =>
    cases hv : r.vacant? with
    | none => exact .inr (.inr ⟨waited, rfl⟩)
    | some a => exact .inr (.inl ⟨.ok a, by rw [Request.returned?, hv]; rfl, rfl⟩)

namespace World

variable (w : World σ)

/-- The world with a record of the requests, newest first. A request is put down when it is made,
and what came back is added when it comes. -/
def watched : World (List Exchange × σ) where
  disturb r s :=
    let (d, t) := w.disturb r s.2
    (d, ⟨r, r.returned? d⟩ :: s.1, t)
  answer r s :=
    let (o, t) := w.answer r s.2
    (o, ⟨r, some o⟩ :: s.1.tail, t)
  allocate start s :=
    let (id, t) := w.allocate start s.2
    (id, s.1, t)
  clock s := w.clock s.2
  note n s := (s.1, w.note n s.2)

lemma maps_watched : w.watched.Maps w Prod.snd where
  disturb _ _ := rfl
  answer _ _ := rfl
  allocate _ _ := rfl
  clock _ := rfl
  note _ _ := rfl

def perform (limit : Span) (q : Equipment) (a : Action) (s : σ) :
    Outcome a.Result × List Exchange × σ :=
  let (result, record, s) := (a.operation q).run.run w.watched limit ⟨0⟩ ([], s)
  (Session.conclude a limit result, record, s)

lemma perform_run (limit : Span) (q : Equipment) (a : Action) (s : σ) :
    let result := (a.operation q).run.run w limit ⟨0⟩ s
    (w.perform limit q a s).1 = Session.conclude a limit result.1 ∧
      (w.perform limit q a s).2.2 = result.2 := by
  have h := w.maps_watched.run (a.operation q).run limit ⟨0⟩ ([], s)
  intro result
  simp only [result, perform]
  rw [h]
  exact ⟨rfl, rfl⟩

end World

structure World.Keeps {β : Type} (w : World σ) (f : σ → β) : Prop where
  disturb : ∀ r s, f (w.disturb r s).2 = f s
  answer : ∀ r s, f (w.answer r s).2 = f s
  allocate : ∀ start s, f (w.allocate start s).2 = f s
  note : ∀ n s, f (w.note n s) = f s

lemma World.Keeps.run {β α : Type} {w : World σ} {f : σ → β} (h : w.Keeps f) (p : Plan α)
    (limit waited : Span) (s : σ) : f (p.run w limit waited s).2 = f s := by
  induction p generalizing waited s with
  | done a => rfl
  | allocate start next ih => exact (ih _ waited _).trans (h.allocate start s)
  | clock next ih => exact ih _ waited s
  | note n next ih => exact (ih waited _).trans (h.note n s)
  | ask r next ih =>
    have hd := h.disturb r s
    rcases Plan.run_ask w limit waited r next s with ⟨hr, -⟩ | ⟨o, -, hr⟩ | ⟨waited', hr⟩
    · rw [hr]
      exact hd
    · rw [hr]
      exact (ih o waited _).trans hd
    · rw [hr]
      exact (ih _ waited' _).trans ((h.answer r _).trans hd)

lemma Session.keeps_limit : world.Keeps Session.limit where
  disturb r s := by cases r <;> rfl
  answer r s := by
    cases r with
    | send p d => rfl
    | store r =>
      obtain ⟨store, control, faults, spareIds, allocated, now, limit, notices, tally⟩ := s
      cases store <;> rfl
  allocate _ _ := rfl
  note _ _ := rfl

theorem Session.perform_eq_world (a : Action) (s : Session) :
    let result := world.perform s.limit s.equipment a s
    s.perform a = (result.1, account a result.1 result.2.2) := by
  obtain ⟨ho, hs⟩ := world.perform_run s.limit s.equipment a s
  have hl := keeps_limit.run (a.operation s.equipment).run s.limit ⟨0⟩ s
  intro result
  simp only [result, ho, hs, perform, hl]

end Switchboard.Service
