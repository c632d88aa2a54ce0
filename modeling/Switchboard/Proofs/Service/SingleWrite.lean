import Switchboard.Proofs.Service.Scenes
import Switchboard.Proofs.Service.Surroundings

/-! An action changes the store by what its outcome tells of and by nothing else, whatever keeps
its requests from their answers and whenever its time runs out. -/

namespace Switchboard.Service

open Store Time

def Change.Between : Option Change → Memory → Memory → Prop
  | none, m, m' => m' = m
  | some (.added k r), m, m' => Memory.Added k (k.entity.id r) (k.document r) m m'
  | some (.removed k r), m, m' => Memory.Added k (k.entity.id r) (k.document r) m' m

/-- What the past of one action tells of a store that was `m₀` before it. -/
structure Since (m₀ : Memory) (past : List Event) (m : Memory) : Prop where
  store : m = (writes past).foldr Write.apply m₀
  fresh : ∀ k id data, .put k id data ∈ writes past → m₀.get? k id = none
  loaded : ∀ k id data, .asked (.store (.get k id)) (.ok (some data)) ∈ past →
    m₀.get? k id = some data

namespace Since

variable {m₀ m : Memory} {past : List Event}

lemma start (m₀ : Memory) : Since m₀ [] m₀ := ⟨rfl, by simp, by simp⟩

lemma unwritten (h : Since m₀ past m) (hw : writes past = []) : m = m₀ := by
  simpa [hw] using h.store

lemma idle (h : Since m₀ past m) {e : Event} (hw : e.written = none)
    (hl : ∀ k id data, e ≠ .asked (.store (.get k id)) (.ok (some data))) :
    Since m₀ (e :: past) m := by
  have hes : writes (e :: past) = writes past := List.filterMap_cons_none hw
  refine ⟨hes ▸ h.store, fun k id data hp => h.fresh k id data (hes ▸ hp), fun k id data hg => ?_⟩
  exact h.loaded k id data ((List.mem_cons.mp hg).resolve_left fun he => hl k id data he.symm)

lemma serve (h : Since m₀ past m) (hw : writes past = []) (r : Store.Request) :
    Since m₀ (.asked (.store r) (m.serve r).outcome :: past) (m.serve r).store := by
  obtain rfl := h.unwritten hw
  have hes : writes (.asked (.store r) (m.serve r).outcome :: past) =
      (r.written (m.serve r).outcome).toList := by simp [hw]
  refine ⟨?_, fun k id data hp => ?_, fun k id data hg => ?_⟩
  · rw [hes]
    cases hr : r.written (m.serve r).outcome with
    | none => exact Memory.serve_unwritten hr
    | some v =>
      cases v with
      | put k id data => exact (Memory.serve_put hr).2.2
      | drop k id => exact (Memory.serve_drop hr).2.2
  · rw [hes, Option.mem_toList] at hp
    exact (Memory.serve_put hp).2.1
  · rcases List.mem_cons.mp hg with he | hg
    · obtain ⟨hr, ho⟩ := Event.asked.inj he
      obtain rfl := Request.store.inj hr
      exact (Except.ok.inj (eq_of_heq ho)).symm
    · exact h.loaded k id data hg

end Since

def Event.Idle (e : Event) : Prop := ∀ r a, e ≠ .asked (.store r) (.ok a)

lemma Event.Idle.unwritten {e : Event} (h : e.Idle) : e.written = none := by
  rcases e with ⟨r | _, f | a⟩ | _ | _ | _
  · exact written_error r f
  · exact absurd rfl (h r a)
  all_goals rfl

lemma idle_error (r : Request) (f : Failure) : (Event.asked r (.error f)).Idle := by
  intro r' a he
  obtain ⟨rfl, ho⟩ := Event.asked.inj he
  cases ho

section

variable {ε α : Type} {m₀ m : Memory} {past : List Event} {ends : α → List Event → Prop}
  {may : Request → List Event → Prop}

/-- What holds of the past of an action and the store, and goes on to hold while the action asks
what it may and is alone with the store. -/
structure Lasting (may : Request → List Event → Prop) (holds : List Event → Memory → Prop) :
    Prop where
  idle : ∀ past m e, e.Idle → holds past m → holds (e :: past) m
  serve : ∀ past m r, may (.store r) past → holds past m →
    holds (.asked (.store r) (m.serve r).outcome :: past) (m.serve r).store

def Lasted (may : Request → List Event → Prop) (ends : α → List Event → Prop)
    (holds : List Event → Memory → Prop) (result : Option α × ε × Memory) : Prop :=
  ∃ past, holds past result.2.2 ∧ (∀ a, result.1 = some a → ends a past) ∧
    (result.1 = none → ∃ r, may r past)

lemma Lasting.run {holds : List Event → Memory → Prop} (hl : Lasting may holds)
    (w : Surroundings ε) (limit : Span) {p : Plan α} (hp : p.Meets may ends past)
    (h : holds past m) (waited : Span) (e : ε) :
    Lasted may ends holds (p.run w.world limit waited (e, m)) := by
  induction p generalizing past waited e m with
  | done a => exact ⟨past, h, fun b hb => Option.some.inj hb ▸ hp, nofun⟩
  | allocate start next ih => exact ih _ (hp _) (hl.idle _ _ _ nofun h) waited _
  | clock next ih => exact ih _ (hp _ (w.clock e).2) (hl.idle _ _ _ nofun h) waited e
  | note n next ih => exact ih hp (hl.idle _ _ _ nofun h) waited e
  | ask r next ih =>
    -- only here can time run out
    have hn (e : ε) : Lasted may ends holds ((none : Option α), e, m) :=
      ⟨past, h, nofun, fun _ => ⟨r, hp.1⟩⟩
    have ha (waited : Span) (e : ε) : Lasted may ends holds
        ((next (w.answer r (e, m)).1).run w.world limit waited (w.answer r (e, m)).2) := by
      cases r with
      | store r => exact ih _ (hp.2 _) (hl.serve _ _ r hp.1 h) waited e
      | send p d => exact ih _ (hp.2 _) (hl.idle _ _ _ nofun h) waited _
    simp only [Plan.run, Surroundings.world, Surroundings.disturb]
    cases hh : (w.hinder r e).1 with
    | none => exact ha waited _
    | fail f => exact ih _ (hp.2 _) (hl.idle _ _ _ (idle_error r f) h) waited _
    | hang => exact hn _
    | delay d =>
      simp only [Hindrance.disturbance]
      split_ifs
      · exact hn _
      · exact ha (waited + d) _

lemma lasting_since (m₀ : Memory) : Lasting Orderly (Since m₀) where
  idle _ _ _ he h := h.idle he.unwritten fun _ _ _ => he _ _
  serve _ _ r hm h := h.serve (orderly_writes hm) r

def Settled (m₀ : Memory) (ends : α → List Event → Prop) (result : Option α × ε × Memory) : Prop :=
  (∀ a, result.1 = some a → ∃ past, ends a past ∧ Since m₀ past result.2.2) ∧
    (result.1 = none → result.2.2 = m₀)

lemma run_settled (w : Surroundings ε) (limit : Span) {p : Plan α} (hp : p.Meets Orderly ends past)
    (hs : Since m₀ past m) (waited : Span) (e : ε) :
    Settled m₀ ends (p.run w.world limit waited (e, m)) := by
  obtain ⟨past', hs', hsome, hnone⟩ := (lasting_since m₀).run w limit hp hs waited e
  refine ⟨fun a ha => ⟨past', hsome a ha, hs'⟩, fun hn => ?_⟩
  -- a request was due when time ran out, and nothing is written before a request
  obtain ⟨r, hr⟩ := hnone hn
  exact hs'.unwritten (orderly_writes hr)

end

lemma Action.Concludes.between {a : Action} {o : Outcome a.Result} {past : List Event}
    {m m' : Memory} (h : a.Concludes o past) (hs : Since m past m') (hk : m.Kept) :
    Change.Between (a.change? o) m m' := by
  obtain ⟨hst, hf, hl⟩ := hs
  cases hc : a.change? o with
  | none =>
    rw [h.wrote, hc] at hst
    exact hst
  | some c =>
    rw [h.wrote, hc] at hst hf
    subst hst
    cases c with
    | added k r => exact Memory.added_put (hf k _ (k.document r) (by simp [Change.write])) _
    | removed k r =>
      obtain ⟨id, data, -, hg, hd⟩ := h.removed k r hc
      have hm := hl k id data hg
      obtain ⟨r', hr', rfl, rfl⟩ := hk.documents hm
      rw [decode_document hr', Except.ok.injEq] at hd
      subst hd
      exact Memory.added_drop (hk k).1 hm

lemma between_of_kept {m : Memory} (hk : m.Kept) {ε : Type} (w : Surroundings ε)
    (limit : Span) (controlled : Bool) (a : Action) (e : ε) :
    let result := w.perform limit controlled a (e, m)
    Change.Between (a.change? result.1) m result.2.2 := by
  intro result
  obtain ⟨hsome, hnone⟩ := run_settled w limit (a.meets ⟨true, controlled⟩) (.start m) ⟨0⟩ e
  simp only [result, Surroundings.perform, Surroundings.carryOut]
  cases hr : ((a.operation ⟨true, controlled⟩).run.run w.world limit ⟨0⟩ (e, m)).1 with
  | none =>
    rw [Session.conclude, a.change?_error]
    exact hnone hr
  | some o =>
    obtain ⟨past, hc, hs⟩ := hsome o hr
    exact hc.between hs hk

theorem perform_between {ε : Type} (w : Surroundings ε) (limit : Span) (controlled : Bool)
    (a : Action) (moves : List Move) (e : ε) :
    let m := (Scene.play moves).memory
    let result := w.perform limit controlled a (e, m)
    Change.Between (a.change? result.1) m result.2.2 :=
  between_of_kept (Scene.play_sound moves).told.kept w limit controlled a e

end Switchboard.Service
