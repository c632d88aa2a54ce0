import Switchboard.Proofs.Service.Conduct

/-! Many actions under way at once on one store. Clients come when they like and take turns in any
order; in a turn a client takes one step of its plan. -/

namespace Switchboard.Service

open Store Time

variable {α : Type}

/-- An action under way: what is left of its plan, and what it has done, newest first. -/
structure Client where
  action : Action
  plan : Plan (Outcome action.Result)
  past : List Event

inductive Turn where
  | serve
  | fail (f : Failure)
  | reply (o : Outcome SentDigits)
  | grant (id : String)
  | tick (now : {t : Timestamp // t.Valid})
  | log

def Plan.turn : Plan α → Turn → Memory → Option (Event × Plan α × Memory)
  | .ask (.store r) next, .serve, m =>
    let served := m.serve r
    some (.asked (.store r) served.outcome, next served.outcome, served.store)
  | .ask r next, .fail f, m => some (.asked r (.error f), next (.error f), m)
  | .ask (.send p d) next, .reply o, m => some (.asked (.send p d) o, next o, m)
  | .allocate start next, .grant id, m => some (.allocated start id, next id, m)
  | .clock next, .tick now, m => some (.clocked now, next now, m)
  | .note n next, .log, m => some (.noted n, next, m)
  | _, _, _ => none

structure Scene where
  clients : List Client
  memory : Memory

inductive Move where
  | start (controlled : Bool) (action : Action)
  | turn (client : ℕ) (turn : Turn)

namespace Scene

def opening : Scene := ⟨[], .empty⟩

/-- A turn that nobody can take changes nothing. -/
def move (s : Scene) : Move → Scene
  | .start controlled a =>
    { s with clients := s.clients ++ [⟨a, (a.operation ⟨true, controlled⟩).run, []⟩] }
  | .turn i t =>
    match s.clients[i]? with
    | none => s
    | some c =>
      match c.plan.turn t s.memory with
      | none => s
      | some (e, plan, memory) => ⟨s.clients.set i ⟨c.action, plan, e :: c.past⟩, memory⟩

def event? (s : Scene) : Move → Option (ℕ × Event)
  | .start .. => none
  | .turn i t => s.clients[i]?.bind fun c => (c.plan.turn t s.memory).map fun next => (i, next.1)

def play (moves : List Move) : Scene := moves.foldl move opening

def events (s : Scene) : List Event := s.clients.flatMap Client.past

end Scene

lemma Plan.turn_cases {p p' : Plan α} {t : Turn} {m m' : Memory} {e : Event}
    (h : p.turn t m = some (e, p', m')) :
    (∃ r, e = .asked (.store r) (m.serve r).outcome ∧ m' = (m.serve r).store) ∨
      (m' = m ∧ e.written = none ∧
        ∀ k id data, e ≠ .asked (.store (.get k id)) (.ok (some data))) := by
  unfold Plan.turn at h
  split at h
  · cases h
    exact .inl ⟨_, rfl, rfl⟩
  all_goals cases h
  · rename_i r next f
    refine .inr ⟨rfl, ?_, fun k id data he => ?_⟩
    · cases r with
      | store r => exact written_error r f
      | send p d => rfl
    · obtain ⟨rfl, ho⟩ := Event.asked.inj he
      cases ho
  all_goals exact .inr ⟨rfl, rfl, fun k id data he => by cases he⟩

lemma Plan.Meets.turn {may : Request → List Event → Prop} {ends : α → List Event → Prop}
    {p p' : Plan α} {past : List Event} {t : Turn} {m m' : Memory} {e : Event}
    (hp : p.Meets may ends past) (h : p.turn t m = some (e, p', m')) :
    p'.Meets may ends (e :: past) ∧ ∀ r o, e = .asked r o → may r past := by
  unfold Plan.turn at h
  split at h <;> cases h
  · exact ⟨hp.2 _, fun r o he => by cases he; exact hp.1⟩
  · exact ⟨hp.2 _, fun r o he => by cases he; exact hp.1⟩
  · exact ⟨hp.2 _, fun r o he => by cases he; exact hp.1⟩
  · exact ⟨hp _, fun r o he => by cases he⟩
  · rename_i now
    exact ⟨hp _ now.2, fun r o he => by cases he⟩
  · exact ⟨hp, fun r o he => by cases he⟩

lemma Scene.events_turn {s : Scene} {i : ℕ} {c : Client} (hc : s.clients[i]? = some c) (e : Event)
    (plan : Plan (Outcome c.action.Result)) (m : Memory) :
    List.Perm (e :: s.events)
      (Scene.events ⟨s.clients.set i ⟨c.action, plan, e :: c.past⟩, m⟩) := by
  obtain ⟨hi, he⟩ := List.getElem?_eq_some_iff.mp hc
  obtain ⟨before, after, hl, -, hs⟩ : ∃ before after, s.clients = before ++ s.clients[i] :: after ∧
      before.length = i ∧ s.clients.set i ⟨c.action, plan, e :: c.past⟩ =
        before ++ ⟨c.action, plan, e :: c.past⟩ :: after := List.exists_of_set hi
  rw [he] at hl
  simp only [events, hs]
  simp only [hl, List.flatMap_append, List.flatMap_cons, List.cons_append]
  exact List.perm_middle.symm

namespace Scene

lemma move_cases (s : Scene) (v : Move) :
    (∃ controlled a, v = .start controlled a ∧ s.event? v = none ∧ s.move v =
      ⟨s.clients ++ [⟨a, (a.operation ⟨true, controlled⟩).run, []⟩], s.memory⟩) ∨
    (s.event? v = none ∧ s.move v = s) ∨
    ∃ i t c e plan m, v = .turn i t ∧ s.clients[i]? = some c ∧
      c.plan.turn t s.memory = some (e, plan, m) ∧ s.event? v = some (i, e) ∧
      s.move v = ⟨s.clients.set i ⟨c.action, plan, e :: c.past⟩, m⟩ := by
  cases v with
  | start controlled a => exact .inl ⟨controlled, a, rfl, rfl, rfl⟩
  | turn i t =>
    refine .inr ?_
    cases hc : s.clients[i]? with
    | none => exact .inl ⟨by simp [event?, hc], by simp [move, hc]⟩
    | some c =>
      cases ht : c.plan.turn t s.memory with
      | none => exact .inl ⟨by simp [event?, hc, ht], by simp [move, hc, ht]⟩
      | some next =>
        obtain ⟨e, plan, m⟩ := next
        exact .inr ⟨i, t, c, e, plan, m, rfl, hc, ht, by simp [event?, hc, ht],
          by simp [move, hc, ht]⟩

lemma play_snoc (moves : List Move) (v : Move) : play (moves ++ [v]) = (play moves).move v :=
  List.foldl_append

lemma play_meets {may : Action → Request → List Event → Prop}
    {ends : (a : Action) → Outcome a.Result → List Event → Prop}
    (h : ∀ q (a : Action), (a.operation q).Meets (may a) (ends a) []) (moves : List Move)
    {c : Client} (hc : c ∈ (play moves).clients) :
    c.plan.Meets (may c.action) (ends c.action) c.past := by
  induction moves using List.reverseRecOn generalizing c with
  | nil => cases hc
  | append_singleton moves v ih =>
    rw [play_snoc] at hc
    rcases move_cases (play moves) v with
      ⟨controlled, a, _, _, hs⟩ | ⟨_, hs⟩ | ⟨j, t, d, e, plan, m, _, hd, ht, _, hs⟩
    · rw [hs] at hc
      rcases List.mem_append.mp hc with hc | hc
      · exact ih hc
      · obtain rfl := List.mem_singleton.mp hc
        exact h _ a
    · exact ih (hs ▸ hc)
    · rw [hs] at hc
      rcases List.mem_or_eq_of_mem_set hc with hc | rfl
      · exact ih hc
      · exact ((ih (List.mem_of_getElem? hd)).turn ht).1

end Scene

/-- What a list of events, in any order, tells of a store that was empty at first. -/
structure Told (es : List Event) (m : Memory) : Prop where
  kept : m.Kept
  balance : ∀ k id, (writes es).countP (Write.puts k id) =
    (writes es).countP (Write.drops k id) + if (m.get? k id).isSome then 1 else 0
  stored : ∀ k id data, m.get? k id = some data → .put k id data ∈ writes es
  loaded : ∀ k id data, .asked (.store (.get k id)) (.ok (some data)) ∈ es →
    .put k id data ∈ writes es

namespace Told

variable {es es' : List Event} {m : Memory}

lemma writes_perm (hp : es.Perm es') : (writes es).Perm (writes es') := hp.filterMap _

lemma opening : Told [] .empty where
  kept := kept_empty
  balance k id := by cases k <;> rfl
  stored k id data h := by cases k <;> cases h
  loaded k id data h := by cases h

lemma perm (h : Told es m) (hp : es.Perm es') : Told es' m where
  kept := h.kept
  balance k id := by
    rw [← (writes_perm hp).countP_eq, ← (writes_perm hp).countP_eq]
    exact h.balance k id
  stored k id data hg := (writes_perm hp).mem_iff.mp (h.stored k id data hg)
  loaded k id data hg := (writes_perm hp).mem_iff.mp (h.loaded k id data (hp.mem_iff.mpr hg))

lemma idle (h : Told es m) {e : Event} (hw : e.written = none)
    (hl : ∀ k id data, e ≠ .asked (.store (.get k id)) (.ok (some data))) : Told (e :: es) m := by
  have hes : writes (e :: es) = writes es := List.filterMap_cons_none hw
  refine ⟨h.kept, fun k id => ?_, fun k id data hg => ?_, fun k id data hg => ?_⟩
  · rw [hes]
    exact h.balance k id
  · rw [hes]
    exact h.stored k id data hg
  · rw [hes]
    exact h.loaded k id data ((List.mem_cons.mp hg).resolve_left fun he => hl k id data he.symm)

section

variable {r : Store.Request} {k : Kind} {id : String} {data : Text.Octets} {w : Write}

lemma loaded_before (h : Told es m) {o : Outcome r.Answer} (hw : r.written o = some w)
    (hg : .asked (.store (.get k id)) (.ok (some data)) ∈ Event.asked (.store r) o :: es) :
    .put k id data ∈ writes es := by
  rcases List.mem_cons.mp hg with he | hg
  · obtain ⟨hr, -⟩ := Event.asked.inj he
    obtain rfl := Request.store.inj hr
    cases hw
  · exact h.loaded k id data hg

lemma unwritten (h : Told es m) (hw : r.written (m.serve r).outcome = none) :
    Told (.asked (.store r) (m.serve r).outcome :: es) m := by
  have hes : writes (.asked (.store r) (m.serve r).outcome :: es) = writes es := by simp [hw]
  refine ⟨h.kept, fun l other => ?_, fun l other data hg => ?_, fun l other data hg => ?_⟩
  · rw [hes]
    exact h.balance l other
  · rw [hes]
    exact h.stored l other data hg
  · rw [hes]
    rcases List.mem_cons.mp hg with he | hg
    · obtain ⟨hr, ho⟩ := Event.asked.inj he
      obtain rfl := Request.store.inj hr
      exact h.stored l other data (Except.ok.inj (eq_of_heq ho)).symm
    · exact h.loaded l other data hg

lemma put (h : Told es m) (hw : r.written (m.serve r).outcome = some (.put k id data))
    (hd : k.Documents id data) :
    Told (.asked (.store r) (m.serve r).outcome :: es) ((Write.put k id data).apply m) := by
  have hf := (Memory.serve_put hw).2.1
  have hes : writes (.asked (.store r) (m.serve r).outcome :: es) =
      .put k id data :: writes es := by simp [hw]
  refine ⟨h.kept.put hf hd, fun l other => ?_, fun l other data' hg => ?_,
    fun l other data' hg => ?_⟩
  · rw [hes, List.countP_cons, List.countP_cons, Memory.get?_put hf, h.balance l other]
    by_cases hl : l = k ∧ other = id
    · obtain ⟨rfl, rfl⟩ := hl
      simp [Write.puts, Write.drops, hf]
    · have hl' : ¬(k = l ∧ id = other) := fun hc => hl ⟨hc.1.symm, hc.2.symm⟩
      simp [Write.puts, Write.drops, hl, hl']
  · rw [hes]
    rw [Memory.get?_put hf] at hg
    split_ifs at hg with hl
    · obtain ⟨rfl, rfl⟩ := hl
      cases hg
      exact .head _
    · exact .tail _ (h.stored l other data' hg)
  · rw [hes]
    exact .tail _ (h.loaded_before hw hg)

lemma drop (h : Told es m) (hw : r.written (m.serve r).outcome = some (.drop k id)) :
    Told (.asked (.store r) (m.serve r).outcome :: es) ((Write.drop k id).apply m) := by
  obtain ⟨data, hf⟩ := (Memory.serve_drop hw).2.1
  have hes : writes (.asked (.store r) (m.serve r).outcome :: es) = .drop k id :: writes es := by
    simp [hw]
  refine ⟨h.kept.drop k id, fun l other => ?_, fun l other data' hg => ?_,
    fun l other data' hg => ?_⟩
  · rw [hes, List.countP_cons, List.countP_cons, Memory.get?_drop, h.balance l other]
    by_cases hl : l = k ∧ other = id
    · obtain ⟨rfl, rfl⟩ := hl
      simp [Write.puts, Write.drops, hf]
    · have hl' : ¬(k = l ∧ id = other) := fun hc => hl ⟨hc.1.symm, hc.2.symm⟩
      simp [Write.puts, Write.drops, hl, hl']
  · rw [hes]
    rw [Memory.get?_drop] at hg
    split_ifs at hg with hl
    exact .tail _ (h.stored l other data' hg)
  · rw [hes]
    exact .tail _ (h.loaded_before hw hg)

lemma serve (h : Told es m) (hd : ∀ k id data, r = .insert k id data → k.Documents id data) :
    Told (.asked (.store r) (m.serve r).outcome :: es) (m.serve r).store := by
  cases hw : r.written (m.serve r).outcome with
  | none =>
    rw [Memory.serve_unwritten hw]
    exact h.unwritten hw
  | some w =>
    cases w with
    | put k id data =>
      obtain ⟨hr, -, hs⟩ := Memory.serve_put hw
      rw [hs]
      exact h.put hw (hd k id data hr)
    | drop k id =>
      rw [(Memory.serve_drop hw).2.2]
      exact h.drop hw

end

end Told

namespace Scene

structure Sound (s : Scene) : Prop where
  told : Told s.events s.memory
  conduct : ∀ c ∈ s.clients, c.plan.Meets Orderly c.action.Concludes c.past

lemma Sound.told_move {s : Scene} (h : s.Sound) (v : Move) :
    Told (s.move v).events (s.move v).memory := by
  rcases move_cases s v with
    ⟨controlled, a, _, _, hs⟩ | ⟨_, hs⟩ | ⟨i, t, c, e, plan, m, _, hc, ht, _, hs⟩
  · rw [hs]
    simpa [events] using h.told
  · rw [hs]
    exact h.told
  · rw [hs]
    have he := ((h.conduct c (List.mem_of_getElem? hc)).turn ht).2
    -- the event is the newest of the client's past, and somewhere among those of the scene
    refine Told.perm ?_ (events_turn hc e plan m)
    rcases Plan.turn_cases ht with ⟨r, rfl, rfl⟩ | ⟨rfl, hw, hl⟩
    · refine h.told.serve fun k id data hr => ?_
      subst hr
      exact (he _ _ rfl).2
    · exact h.told.idle hw hl

theorem play_sound (moves : List Move) : (play moves).Sound := by
  refine ⟨?_, fun c hc => play_meets Action.meets moves hc⟩
  induction moves using List.reverseRecOn with
  | nil => exact Told.opening
  | append_singleton moves v ih =>
    rw [play_snoc]
    exact Sound.told_move ⟨ih, fun c hc => play_meets Action.meets moves hc⟩ v

end Scene

end Switchboard.Service
