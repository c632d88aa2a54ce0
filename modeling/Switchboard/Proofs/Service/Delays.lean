import Switchboard.Proofs.Service.Brevity

/-! An action whose requests are delayed comes to what it comes to without the delays if these are
shorter, together, than it may wait; if they are longer it is cut off, and has written nothing. Only
the delays of the requests that it makes without delays count. -/

namespace Switchboard.Service

open Store Time

variable {σ α : Type}

section

variable {w : World σ} {delay : ℕ → Span} {limit waited : Span} {r : Request}
  {next : Outcome r.Answer → Plan α} {record : List Exchange} {n : ℕ} {s : σ}

end

def Exchange.Unwritten (x : Exchange) : Prop :=
  ∀ r, x.request = .store r → r.writes → x.outcome = none

lemma Plan.Silent.run (w : World σ) (limit : Span) {p : Plan α} (h : p.Silent) (waited : Span)
    (s : σ) : (p.run w limit waited s).1 ≠ none := by
  induction p generalizing waited s with
  | done a => exact nofun
  | ask r next ih => exact absurd h id
  | allocate start next ih => exact ih _ (h _) waited _
  | clock next ih => exact ih _ (h _) waited s
  | note n next ih => exact ih h waited _

lemma Plan.Brief.unwritten (w : World σ) (limit : Span) {p : Plan (Outcome α)} {writing : Bool}
    (hp : p.Brief writing) {record : List Exchange} (h : ∀ x ∈ record, x.Unwritten) (waited : Span)
    (s : σ) (hn : (p.run w.watched limit waited (record, s)).1 = none) :
    ∀ x ∈ (p.run w.watched limit waited (record, s)).2.1, x.Unwritten := by
  induction p generalizing record waited s with
  | done o => exact absurd hn nofun
  | allocate start next ih => exact ih _ (hp _) h waited _ hn
  | clock next ih => exact ih _ (hp _) h waited s hn
  | note n next ih => exact ih hp h waited _ hn
  | ask r next ih =>
    -- after a write that succeeded the plan is silent, and cannot be cut off
    have hreturned (o : Outcome r.Answer) (waited : Span) (s : σ)
        (hn : ((next o).run w.watched limit waited (⟨r, some o⟩ :: record, s)).1 = none) :
        ∀ x ∈ ((next o).run w.watched limit waited (⟨r, some o⟩ :: record, s)).2.1,
          x.Unwritten := by
      cases r with
      | send p d =>
        have hsent : Exchange.Unwritten ⟨.send p d, some o⟩ := by
          intro r hr
          cases hr
        exact ih o (hp o) (List.forall_mem_cons.mpr ⟨hsent, h⟩) waited s hn
      | store r =>
        cases o with
        | error f =>
          rw [hp.1 f] at hn
          exact absurd hn nofun
        | ok a =>
          refine ih _ (hp.2.2 a) (List.forall_mem_cons.mpr ⟨?_, h⟩) waited s hn
          intro r' hr' hw
          obtain rfl := Request.store.inj hr'
          exact absurd hn (((hp.2.1 hw).2 a).run _ limit waited _)
    rcases Plan.run_ask w.watched limit waited r next (record, s) with
      ⟨hr, hd⟩ | ⟨o, hd, hr⟩ | ⟨waited', hr⟩
    · rw [hr]
      exact List.forall_mem_cons.mpr ⟨fun _ _ _ => hd, h⟩
    · rw [hr] at hn ⊢
      simp only [World.watched] at hd hn ⊢
      rw [hd] at hn ⊢
      exact hreturned o waited _ hn
    · rw [hr] at hn ⊢
      exact hreturned _ waited' _ hn

end Switchboard.Service
