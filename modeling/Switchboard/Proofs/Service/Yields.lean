import Switchboard.Proofs.Service.Documents

/-! Operations that come to an outcome without waiting: what follows them goes on from there. -/

namespace Switchboard.Service

open Store Time

variable {σ α β γ : Type}

lemma Plan.bind_done (p : Plan α) : p.bind .done = p := by
  induction p with
  | done a => rfl
  | ask r next ih => exact congrArg (Plan.ask r) (funext ih)
  | allocate start next ih => exact congrArg (Plan.allocate start) (funext ih)
  | clock next ih => exact congrArg Plan.clock (funext ih)
  | note n next ih => exact congrArg (Plan.note n) ih

lemma Plan.bind_assoc (p : Plan α) (f : α → Plan β) (g : β → Plan γ) :
    (p.bind f).bind g = p.bind fun a => (f a).bind g := by
  induction p with
  | done a => rfl
  | ask r next ih => exact congrArg (Plan.ask r) (funext ih)
  | allocate start next ih => exact congrArg (Plan.allocate start) (funext ih)
  | clock next ih => exact congrArg Plan.clock (funext ih)
  | note n next ih => exact congrArg (Plan.note n) ih

namespace Operation

/-- Whatever comes after the operation gets the outcome `o` and is carried out from `s'`, with no
time gone. -/
def Yields (w : World σ) (op : Operation α) (s : σ) (o : Outcome α) (s' : σ) : Prop :=
  ∀ ⦃β : Type⦄ (next : Outcome α → Plan β) (limit waited : Span),
    (op.run.bind next).run w limit waited s = (next o).run w limit waited s'

variable {w : World σ} {op : Operation α} {k : α → Operation β} {s s' s'' : σ}

lemma Yields.run {o : Outcome α} (h : op.Yields w s o s') (limit waited : Span) :
    op.run.run w limit waited s = (some o, s') := by
  have hr := h .done limit waited
  rwa [Plan.bind_done] at hr

lemma Yields.run_bind {a : α} (h : op.Yields w s (.ok a) s') (k : α → Operation β)
    (limit waited : Span) :
    (op >>= k).run.run w limit waited s = (k a).run.run w limit waited s' :=
  h _ limit waited

lemma Yields.bind {a : α} {o : Outcome β} (h : op.Yields w s (.ok a) s')
    (hk : (k a).Yields w s' o s'') : (op >>= k).Yields w s o s'' := by
  intro γ next limit waited
  refine Eq.trans ?_ (hk next limit waited)
  exact (congrArg (Plan.run w limit · waited s) (Plan.bind_assoc _ _ next)).trans
    (h (fun o => _) limit waited)

lemma Yields.bind_error {f : Failure} (h : op.Yields w s (.error f) s') :
    (op >>= k).Yields w s (.error f) s' := by
  intro γ next limit waited
  exact (congrArg (Plan.run w limit · waited s) (Plan.bind_assoc _ _ next)).trans
    (h (fun o => _) limit waited)

lemma yields_ofOutcome (o : Outcome α) (s : σ) : (ofOutcome o).Yields w s o s := fun _ _ _ _ => rfl

lemma yields_pure (a : α) (s : σ) : (pure a : Operation α).Yields w s (.ok a) s :=
  fun _ _ _ _ => rfl

lemma yields_throw (f : Failure) (s : σ) : (throw f : Operation α).Yields w s (.error f) s :=
  fun _ _ _ _ => rfl

lemma Yields.within {o : Outcome α} (h : op.Yields w s o s') (context : String) :
    (op.within context).Yields w s (o.mapError (·.within context)) s' := by
  intro γ next limit waited
  refine ((congrArg (Plan.run w limit · waited s) (Plan.bind_assoc _ _ next)).trans
    (h (fun o => _) limit waited)).trans ?_
  cases o <;> rfl

lemma yields_note (level : Level) (text : String) (s : σ) :
    (note level text).Yields w s (.ok ()) (w.note ⟨level, text⟩ s) := fun _ _ _ _ => rfl

lemma yields_allocate (start : String) (s : σ) :
    (allocate start).Yields w s (.ok (w.allocate start s).1) (w.allocate start s).2 :=
  fun _ _ _ _ => rfl

lemma yields_clock (s : σ) : (clock).Yields w s (.ok (w.clock s)) s := fun _ _ _ _ => rfl

lemma yields_ask {r : Request} (h : (w.disturb r s).1 = .none) :
    (ask r).Yields w s (w.answer r (w.disturb r s).2).1 (w.answer r (w.disturb r s).2).2 := by
  intro γ next limit waited
  change Plan.run w limit (.ask r next) waited s = _
  simp only [Plan.run, h]

section

variable {k : Kind} {id : String}

lemma Yields.list {docs : List Text.Octets} {rs : List k.Record}
    (h : (store (.list k)).Yields w s (.ok docs) s') (hd : k.entity.decodeAll docs = .ok rs) :
    k.entity.list.Yields w s (.ok rs) s' := by
  unfold Entity.list
  rw [entity_kind]
  refine (h.within _).bind ?_
  rw [hd]
  exact yields_ofOutcome _ _

lemma Yields.find {data : Option Text.Octets} {found : Option k.Record}
    (h : (store (.get k id)).Yields w s (.ok data) s')
    (hd : data.mapM k.entity.decode = .ok found) :
    (k.entity.find id).Yields w s (.ok found) s' := by
  unfold Entity.find Entity.request
  rw [entity_kind]
  refine (h.within _).bind ?_
  cases data with
  | none =>
    obtain rfl := Except.ok.inj hd
    exact yields_pure none _
  | some data =>
    cases hr : k.entity.decode data with
    | error f => simp [hr] at hd
    | ok r =>
      obtain rfl : some r = found := by simpa [hr] using hd
      have hdecode : (ofOutcome (k.entity.decode data)).Yields w s' (.ok r) s' := by
        rw [hr]
        exact yields_ofOutcome _ _
      exact hdecode.bind (yields_pure (some r) _)

lemma Yields.load {found : Option k.Record} (h : (k.entity.find id).Yields w s (.ok found) s') :
    (k.entity.load id).Yields w s (found.elim (.error (.notFound (k.title id))) .ok) s' := by
  unfold Entity.load
  rw [entity_kind]
  refine h.bind ?_
  cases found with
  | none => exact yields_throw _ _
  | some r => exact yields_pure r _

end

end Operation

end Switchboard.Service
