import Mathlib
import Switchboard.Service.Action

/-! What holds of a plan in every course that it can take: whatever it is answered, it asks only
what it may, given what went before, and what it ends with satisfies a condition. -/

namespace Switchboard.Service

open Store Time

inductive Event where
  | asked (r : Request) (o : Outcome r.Answer)
  | allocated (start id : String)
  | clocked (now : Timestamp)
  | noted (n : Notice)

variable {α β : Type}

/-- The past is a list of events, newest first. -/
def Plan.Meets (may : Request → List Event → Prop) (ends : α → List Event → Prop) :
    Plan α → List Event → Prop
  | .done a, past => ends a past
  | .ask r next, past => may r past ∧ ∀ o, (next o).Meets may ends (.asked r o :: past)
  | .allocate start next, past => ∀ id, (next id).Meets may ends (.allocated start id :: past)
  | .clock next, past =>
    ∀ now : Timestamp, now.Valid → (next now).Meets may ends (.clocked now :: past)
  | .note n next, past => next.Meets may ends (.noted n :: past)

variable {may : Request → List Event → Prop}

lemma Plan.Meets.mono {ends ends' : α → List Event → Prop} {p : Plan α} {past : List Event}
    (h : p.Meets may ends past) (he : ∀ a past, ends a past → ends' a past) :
    p.Meets may ends' past := by
  induction p generalizing past with
  | done a => exact he a past h
  | ask r next ih => exact ⟨h.1, fun o => ih o (h.2 o)⟩
  | allocate start next ih => exact fun id => ih id (h id)
  | clock next ih => exact fun now hv => ih now (h now hv)
  | note n next ih => exact ih h

lemma Plan.Meets.imp {may' : Request → List Event → Prop} {ends : α → List Event → Prop}
    {p : Plan α} {past : List Event} (h : p.Meets may ends past)
    (hm : ∀ r past, may r past → may' r past) : p.Meets may' ends past := by
  induction p generalizing past with
  | done a => exact h
  | ask r next ih => exact ⟨hm r past h.1, fun o => ih o (h.2 o)⟩
  | allocate start next ih => exact fun id => ih id (h id)
  | clock next ih => exact fun now hv => ih now (h now hv)
  | note n next ih => exact ih h

lemma Plan.Meets.and {may' : Request → List Event → Prop} {ends ends' : α → List Event → Prop}
    {p : Plan α} {past : List Event} (h : p.Meets may ends past) (h' : p.Meets may' ends' past) :
    p.Meets (fun r past => may r past ∧ may' r past) (fun a past => ends a past ∧ ends' a past)
      past := by
  induction p generalizing past with
  | done a => exact ⟨h, h'⟩
  | ask r next ih => exact ⟨⟨h.1, h'.1⟩, fun o => ih o (h.2 o) (h'.2 o)⟩
  | allocate start next ih => exact fun id => ih id (h id) (h' id)
  | clock next ih => exact fun now hv => ih now (h now hv) (h' now hv)
  | note n next ih => exact ih h h'

lemma Plan.Meets.completes {ends : α → List Event → Prop} {p : Plan α} {past : List Event}
    (h : p.Meets may ends past) : ∃ a past', ends a past' ∧ past ⊆ past' := by
  induction p generalizing past with
  | done a => exact ⟨a, past, h, List.Subset.refl past⟩
  | ask r next ih =>
    obtain ⟨a, past', ha, hs⟩ := ih (.error default) (h.2 (.error default))
    exact ⟨a, past', ha, List.Subset.trans (List.subset_cons_self _ _) hs⟩
  | allocate start next ih =>
    obtain ⟨a, past', ha, hs⟩ := ih "" (h "")
    exact ⟨a, past', ha, List.Subset.trans (List.subset_cons_self _ _) hs⟩
  | clock next ih =>
    have hv : Timestamp.Valid ⟨⟨1970, 1, 1⟩, 0, 0, 0, 0⟩ := by decide
    obtain ⟨a, past', ha, hs⟩ := ih _ (h _ hv)
    exact ⟨a, past', ha, List.Subset.trans (List.subset_cons_self _ _) hs⟩
  | note n next ih =>
    obtain ⟨a, past', ha, hs⟩ := ih h
    exact ⟨a, past', ha, List.Subset.trans (List.subset_cons_self _ _) hs⟩

lemma Plan.meets_bind (p : Plan α) (k : α → Plan β) (ends : β → List Event → Prop)
    (past : List Event) :
    (p.bind k).Meets may ends past ↔ p.Meets may (fun a => (k a).Meets may ends) past := by
  induction p generalizing past with
  | done a => rfl
  | ask r next ih => exact and_congr_right fun _ => forall_congr' fun o => ih o _
  | allocate start next ih => exact forall_congr' fun id => ih id _
  | clock next ih => exact forall_congr' fun now => imp_congr_right fun _ => ih now _
  | note n next ih => exact ih _

namespace Operation

def Meets (may : Request → List Event → Prop) (ends : Outcome α → List Event → Prop)
    (op : Operation α) (past : List Event) : Prop :=
  Plan.Meets may ends op.run past

variable {ends : Outcome α → List Event → Prop} {past : List Event}

lemma Meets.mono {ends' : Outcome α → List Event → Prop} {op : Operation α}
    (h : op.Meets may ends past) (he : ∀ o past, ends o past → ends' o past) :
    op.Meets may ends' past :=
  Plan.Meets.mono h he

@[simp] lemma meets_pure (a : α) :
    (pure a : Operation α).Meets may ends past ↔ ends (.ok a) past := Iff.rfl

@[simp] lemma meets_bind (op : Operation α) (k : α → Operation β)
    (ends : Outcome β → List Event → Prop) :
    (op >>= k).Meets may ends past ↔ op.Meets may (fun o past => match o with
      | .ok a => (k a).Meets may ends past
      | .error f => ends (.error f) past) past := by
  refine (Plan.meets_bind op.run _ ends past).trans ⟨fun h => h.mono ?_, fun h => h.mono ?_⟩ <;>
  · rintro (f | a) past h <;> exact h

@[simp] lemma meets_ofOutcome (o : Outcome α) :
    (ofOutcome o).Meets may ends past ↔ ends o past := Iff.rfl

@[simp] lemma meets_allocate (start : String) (ends : Outcome String → List Event → Prop) :
    (allocate start).Meets may ends past ↔ ∀ id, ends (.ok id) (.allocated start id :: past) :=
  Iff.rfl

@[simp] lemma meets_clock (ends : Outcome Timestamp → List Event → Prop) :
    clock.Meets may ends past ↔
      ∀ now : Timestamp, now.Valid → ends (.ok now) (.clocked now :: past) := Iff.rfl

@[simp] lemma meets_within (context : String) (op : Operation α) :
    (op.within context).Meets may ends past ↔
      op.Meets may (fun o => ends (o.mapError (·.within context))) past := by
  refine (Plan.meets_bind op.run _ ends past).trans ⟨fun h => h.mono ?_, fun h => h.mono ?_⟩ <;>
  · rintro (f | a) past h <;> exact h

end Operation

namespace Entity

open Operation

variable (e : Entity α) {past : List Event}

lemma meets_request (verb id : String) (r : Store.Request)
    (ends : Outcome r.Answer → List Event → Prop) :
    (e.request verb id r).Meets may ends past ↔ may (.store r) past ∧ ∀ o : Outcome r.Answer,
      ends (o.mapError (·.within (e.kind.name ++ " " ++ verb ++ " " ++ id)))
        (.asked (.store r) o :: past) :=
  (meets_within _ _).trans Iff.rfl

end Entity

end Switchboard.Service
