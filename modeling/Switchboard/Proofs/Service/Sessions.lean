import Switchboard.Proofs.Service.SingleWrite

/-! A session with a store in memory, none of whose faults passes for an empty store, carries out
its actions as surroundings do; so what holds in all surroundings holds of sessions. -/

namespace Switchboard.Service

open Store Time

/-- What remains of a disturbance when no answer is made up on the way. -/
def Hindrance.ofDisturbance : Disturbance → Hindrance
  | .none | .absent => .none
  | .fail f => .fail f
  | .hang => .hang
  | .delay t => .delay t

lemma disturbance_ofDisturbance {d : Disturbance} (h : d ≠ .absent) :
    (Hindrance.ofDisturbance d).disturbance = d := by
  cases d with
  | absent => exact absurd rfl h
  | _ => rfl

/-- No fault answers in place of the store. -/
def Forthright (fs : List Fault) : Prop := ∀ f ∈ fs, f.effect ≠ .absent

lemma Forthright.disturb {fs : List Fault} (h : Forthright fs) (r : Store.Request) :
    (disturb r fs).1 ≠ .absent ∧ Forthright (disturb r fs).2 := by
  induction fs with
  | nil => exact ⟨nofun, h⟩
  | cons f fs ih =>
    have hf := h f (by simp)
    have hfs : Forthright fs := fun g hg => h g (by simp [hg])
    obtain ⟨hd, hr⟩ := ih hfs
    unfold Store.disturb
    split_ifs with hm hs
    · refine ⟨hf, fun g hg => ?_⟩
      rcases List.mem_cons.mp hg with rfl | hg
      · exact hf
      · exact hfs g hg
    all_goals
      refine ⟨hd, fun g hg => ?_⟩
      rcases List.mem_cons.mp hg with rfl | hg
      · exact hf
      · exact hr g hg

abbrev Rest : Type := List Fault × ℕ

namespace Session

def surroundings (s : Session) (hv : s.now.Valid) : Surroundings Rest where
  hinder
    | .store r, (fs, n) =>
      let (d, fs) := Store.disturb r fs
      (.ofDisturbance d, fs, n)
    | .send .., rest => (if s.control = some .hang then .hang else .none, rest)
  allocate start rest :=
    (start ++ (s.spareIds[rest.2]?).getD (padded 4 (rest.2 + 1)), rest.1, rest.2 + 1)
  clock _ := ⟨s.now, hv⟩
  send p digits rest := (Session.send p digits s.control, rest)

structure Stands (s t : Session) (rest : Rest) (m : Memory) : Prop where
  store : t.store = some (.memory m)
  faults : t.faults = rest.1
  allocated : t.allocated = rest.2
  control : t.control = s.control
  spare : t.spareIds = s.spareIds
  now : t.now = s.now
  limit : t.limit = s.limit
  forthright : Forthright rest.1

variable {α : Type} {s t : Session} {rest : Rest} {m : Memory}

lemma Stands.disturb (h : Stands s t rest m) (hv : s.now.Valid) (r : Request) :
    (world.disturb r t).1 = ((s.surroundings hv).hinder r rest).1.disturbance ∧
      Stands s (world.disturb r t).2 ((s.surroundings hv).hinder r rest).2 m := by
  obtain ⟨hs, hf, ha, hc, hp, hn, hl, hr⟩ := h
  cases r with
  | store r =>
    obtain ⟨hd, hr'⟩ := hr.disturb r
    refine ⟨?_, hs, ?_, ha, hc, hp, hn, hl, hr'⟩
    · simp [world, Session.disturb, surroundings, hf, disturbance_ofDisturbance hd]
    · simp [world, Session.disturb, surroundings, hf]
  | send p digits =>
    refine ⟨?_, hs, hf, ha, hc, hp, hn, hl, hr⟩
    simp only [world, Session.disturb, surroundings, hc]
    split_ifs <;> rfl

lemma Stands.answer (h : Stands s t rest m) (hv : s.now.Valid) (r : Request) :
    (world.answer r t).1 = ((s.surroundings hv).answer r (rest, m)).1 ∧
      Stands s (world.answer r t).2 ((s.surroundings hv).answer r (rest, m)).2.1
        ((s.surroundings hv).answer r (rest, m)).2.2 := by
  obtain ⟨hs, hf, ha, hc, hp, hn, hl, hr⟩ := h
  cases r with
  | store r =>
    have hserve : t.askStore r = ((m.serve r).outcome,
        { t with store := some (.memory (m.serve r).store),
                 notices := t.notices ++ (m.serve r).notices }) := by
      simp [askStore, hs, Backend.serve]
    simp only [world, Session.answer, hserve]
    exact ⟨rfl, rfl, hf, ha, hc, hp, hn, hl, hr⟩
  | send p digits =>
    refine ⟨?_, hs, hf, ha, hc, hp, hn, hl, hr⟩
    simp [world, Session.answer, Surroundings.answer, surroundings, hc]

lemma Stands.run (h : Stands s t rest m) (hv : s.now.Valid) (limit : Span) (p : Plan α)
    (waited : Span) :
    let result := p.run (s.surroundings hv).world limit waited (rest, m)
    (p.run world limit waited t).1 = result.1 ∧
      Stands s (p.run world limit waited t).2 result.2.1 result.2.2 := by
  induction p generalizing t rest m waited with
  | done a => exact ⟨rfl, h⟩
  | allocate start next ih =>
    have hid : (Session.allocate start t).1 = ((s.surroundings hv).allocate start rest).1 := by
      simp [Session.allocate, nextSuffix, surroundings, h.allocated, h.spare]
    have hs : Stands s (Session.allocate start t).2 ((s.surroundings hv).allocate start rest).2 m :=
      ⟨h.store, h.faults, congrArg (· + 1) h.allocated, h.control, h.spare, h.now, h.limit,
        h.forthright⟩
    simp only [Plan.run, world, Surroundings.world]
    rw [hid]
    exact ih _ hs waited
  | clock next ih =>
    simp only [Plan.run, world, Surroundings.world, h.now]
    exact ih _ h waited
  | note n next ih =>
    have hs : Stands s (Session.note n t) rest m :=
      ⟨h.store, h.faults, h.allocated, h.control, h.spare, h.now, h.limit, h.forthright⟩
    simp only [Plan.run]
    exact ih hs waited
  | ask r next ih =>
    obtain ⟨hd, hs⟩ := h.disturb hv r
    have hw : (s.surroundings hv).world.disturb r (rest, m) =
        (((s.surroundings hv).hinder r rest).1.disturbance,
          ((s.surroundings hv).hinder r rest).2, m) := rfl
    have harrive {t : Session} {rest : Rest} (hs : Stands s t rest m) (waited : Span) :
        let x := (s.surroundings hv).answer r (rest, m)
        let result := (next x.1).run (s.surroundings hv).world limit waited x.2
        let y := world.answer r t
        ((next y.1).run world limit waited y.2).1 = result.1 ∧
          Stands s ((next y.1).run world limit waited y.2).2 result.2.1 result.2.2 := by
      obtain ⟨ho, hs'⟩ := hs.answer hv r
      intro x result y
      simp only [y, ho]
      exact ih _ hs' waited
    simp only [Plan.run, hw, hd]
    cases ((s.surroundings hv).hinder r rest).1 with
    | none => exact harrive hs waited
    | fail f => exact ih _ hs waited
    | hang => exact ⟨rfl, hs⟩
    | delay d =>
      simp only [Hindrance.disturbance]
      split_ifs
      · exact ⟨rfl, hs⟩
      · exact harrive hs (waited + d)

theorem perform_eq {s : Session} {m : Memory} (hm : s.store = some (.memory m))
    (hf : Forthright s.faults) (hv : s.now.Valid) (a : Action) :
    let result := (s.surroundings hv).perform s.limit s.control.isSome a
      ((s.faults, s.allocated), m)
    (s.perform a).1 = result.1 ∧ (s.perform a).2.store = some (.memory result.2.2) := by
  have hs : Stands s s (s.faults, s.allocated) m := ⟨hm, rfl, rfl, rfl, rfl, rfl, rfl, hf⟩
  have hq : s.equipment = ⟨true, s.control.isSome⟩ := by simp [equipment, hm]
  obtain ⟨ho, hs'⟩ := hs.run hv s.limit (a.operation ⟨true, s.control.isSome⟩).run ⟨0⟩
  intro result
  refine ⟨?_, ?_⟩
  · simp only [perform, hq, ho, hs'.limit]
    rfl
  · simp only [perform, hq]
    exact hs'.store

theorem perform_changes {s : Session} {m : Memory} (hm : s.store = some (.memory m)) (hk : m.Kept)
    (hf : Forthright s.faults) (hv : s.now.Valid) (a : Action) :
    ∃ m', (s.perform a).2.store = some (.memory m') ∧
      Change.Between (a.change? (s.perform a).1) m m' := by
  obtain ⟨ho, hs⟩ := perform_eq hm hf hv a
  refine ⟨_, hs, ?_⟩
  rw [ho]
  exact between_of_kept hk _ _ _ a _

end Session

end Switchboard.Service
