import Switchboard.Proofs.Service.Brevity

/-! An action passes on the first failure of its store, whatever it has found before: it asks for
nothing more, of the store or of the call channel, and fails in the same way, with the request
named. -/

namespace Switchboard.Service

open Store Time

variable {σ α : Type}

def Exchange.Failed (x : Exchange) : Prop := ∃ r f, x = ⟨.store r, some (.error f)⟩

lemma Exchange.failed_iff {r : Store.Request} {o : Option (Outcome r.Answer)} :
    Failed ⟨.store r, o⟩ ↔ ∃ f, o = some (.error f) := by
  refine ⟨fun ⟨r', f, h⟩ => ?_, fun ⟨f, h⟩ => ⟨r, f, h ▸ rfl⟩⟩
  obtain ⟨hr, ho⟩ := Exchange.mk.inj h
  obtain rfl := Request.store.inj hr
  exact ⟨f, eq_of_heq ho⟩

def EndsIn (result : Option (Outcome α)) (record : List Exchange) : Prop :=
  ∀ later r f earlier, record = later ++ ⟨.store r, some (.error f)⟩ :: earlier →
    later = [] ∧ (∀ x ∈ earlier, ¬ x.Failed) ∧ result = some (.error ⟨f.kind, r.tells f.message⟩)

section

variable {record : List Exchange}

lemma endsIn_unfailed {result : Option (Outcome α)} (h : ∀ x ∈ record, ¬ x.Failed) :
    EndsIn result record := by
  intro later r f earlier hr
  exact absurd ⟨r, f, rfl⟩ (h _ (by simp [hr]))

lemma endsIn_failed {r : Store.Request} {f : Failure} (h : ∀ x ∈ record, ¬ x.Failed) :
    EndsIn (α := α) (some (.error ⟨f.kind, r.tells f.message⟩))
      (⟨.store r, some (.error f)⟩ :: record) := by
  intro later r' f' earlier hr
  cases later with
  | nil =>
    obtain ⟨hx, rfl⟩ := List.cons.inj hr
    obtain ⟨hr', ho⟩ := Exchange.mk.inj hx
    obtain rfl := Request.store.inj hr'
    obtain rfl := Except.error.inj (Option.some.inj (eq_of_heq ho))
    exact ⟨rfl, h, rfl⟩
  | cons x later =>
    obtain ⟨-, hr⟩ := List.cons.inj hr
    exact absurd ⟨r', f', rfl⟩ (h _ (by simp [hr]))

lemma unfailed_cons {x : Exchange} (hx : ¬ x.Failed) (h : ∀ x ∈ record, ¬ x.Failed) :
    ∀ y ∈ x :: record, ¬ y.Failed := List.forall_mem_cons.mpr ⟨hx, h⟩

end

lemma Plan.Brief.endsIn (w : World σ) (limit : Span) {p : Plan (Outcome α)} {writing : Bool}
    (hp : p.Brief writing) {record : List Exchange} (h : ∀ x ∈ record, ¬ x.Failed) (waited : Span)
    (s : σ) :
    EndsIn (p.run w.watched limit waited (record, s)).1
      (p.run w.watched limit waited (record, s)).2.1 := by
  induction p generalizing record waited s with
  | done o => exact endsIn_unfailed h
  | allocate start next ih => exact ih _ (hp _) h waited _
  | clock next ih => exact ih _ (hp _) h waited s
  | note n next ih => exact ih hp h waited _
  | ask r next ih =>
    -- whatever comes back, be it an answer or what stands in its place
    have hreturned (o : Outcome r.Answer) (waited : Span) (s : σ) :
        EndsIn ((next o).run w.watched limit waited (⟨r, some o⟩ :: record, s)).1
          ((next o).run w.watched limit waited (⟨r, some o⟩ :: record, s)).2.1 := by
      cases r with
      | send p d => exact ih _ (hp o) (unfailed_cons (by rintro ⟨r, f, hx⟩; cases hx) h) waited s
      | store r =>
        cases o with
        | ok a =>
          exact ih _ (hp.2.2 a) (unfailed_cons (by simp [Exchange.failed_iff]) h) waited s
        | error f =>
          rw [hp.1 f]
          exact endsIn_failed h
    rcases Plan.run_ask w.watched limit waited r next (record, s) with
      ⟨hr, hd⟩ | ⟨o, hd, hr⟩ | ⟨waited', hr⟩
    · rw [hr]
      have hopen : ¬ Exchange.Failed ⟨r, r.returned? (w.disturb r s).1⟩ := by
        rw [show r.returned? (w.disturb r s).1 = none from hd]
        rintro ⟨r, f, hx⟩
        cases hx
      exact endsIn_unfailed (unfailed_cons hopen h)
    · rw [hr]
      simp only [World.watched] at hd ⊢
      rw [hd]
      exact hreturned o waited _
    · rw [hr]
      exact hreturned _ waited' _

/-- Whatever the store is and whatever was found before it failed. -/
theorem failed_request_last (w : World σ) (limit : Span) (q : Equipment) (a : Action) (s : σ)
    {later earlier : List Exchange} {r : Store.Request} {f : Failure}
    (h : (w.perform limit q a s).2.1 = later ++ ⟨.store r, some (.error f)⟩ :: earlier) :
    later = [] ∧ (∀ x ∈ earlier, ¬ x.Failed) ∧
      (w.perform limit q a s).1 = .error ⟨f.kind, r.tells f.message⟩ := by
  obtain ⟨hlater, hearlier, hresult⟩ := (brief_operation q a).endsIn w limit (List.forall_mem_nil _)
    ⟨0⟩ s later r f earlier h
  exact ⟨hlater, hearlier, congrArg (Session.conclude a limit) hresult⟩

/-- A session without trunks whose store fails the second time it is to get one. -/
def faltering : Session where
  store := some (.memory .empty)
  control := none
  faults := [⟨.get, some .trunk, .fail (.notReady "connection lost"), 1, 1⟩]
  spareIds := []
  allocated := 0
  now := ⟨⟨2024, 2, 29⟩, 12, 0, 0, 0⟩
  limit := Session.defaultLimit
  notices := []
  tally := .empty

theorem failed_request_last_lookup :
    let result := Session.world.perform faltering.limit faltering.equipment
      (.createRule ⟨.direct "lobby", ["ST_1", "ST_2"], false⟩) faltering
    result.2.1 = [] ++ ⟨.store (.get .trunk "ST_2"), some (.error (.notReady "connection lost"))⟩ ::
      [⟨.store (.get .trunk "ST_1"), some (.ok none)⟩] ∧
    result.1 = .error (.notReady "sip_trunk get ST_2: connection lost") := by
  intro result
  have hrecord : result.2.1 =
      [] ++ ⟨.store (.get .trunk "ST_2"), some (.error (.notReady "connection lost"))⟩ ::
        [⟨.store (.get .trunk "ST_1"), some (.ok none)⟩] := by rfl
  exact ⟨hrecord, (failed_request_last Session.world _ _ _ _ hrecord).2.2⟩

end Switchboard.Service
