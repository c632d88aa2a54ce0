import Switchboard.Proofs.Service.Balance

/-! In which order things happen in a scene, and what is stored at each moment of it. A moment is
told by the moves that lead to it. -/

namespace Switchboard.Service

open Store

lemma Plan.turn_asked {α : Type} {p p' : Plan α} {t : Turn} {m m' : Memory} {r : Store.Request}
    {o : Outcome r.Answer} (h : p.turn t m = some (.asked (.store r) o, p', m')) :
    (m.serve r).outcome = o ∧ m' = (m.serve r).store ∨ ∃ f, t = .fail f ∧ o = .error f := by
  unfold Plan.turn at h
  split at h <;> simp only [Option.some.injEq, Prod.mk.injEq, reduceCtorEq, false_and] at h
  · obtain ⟨he, -, hm⟩ := h
    obtain ⟨hr, ho⟩ := Event.asked.inj he
    obtain rfl := Request.store.inj hr
    exact .inl ⟨eq_of_heq ho, hm.symm⟩
  · obtain ⟨hr, ho⟩ := Event.asked.inj h.1
    subst hr
    exact .inr ⟨_, rfl, (eq_of_heq ho).symm⟩
  · cases (Event.asked.inj h.1).1

def doings (i : ℕ) (es : List (ℕ × Event)) : List Event :=
  es.filterMap fun x => if x.1 = i then some x.2 else none

lemma mem_doings (i : ℕ) (es : List (ℕ × Event)) (e : Event) : e ∈ doings i es ↔ (i, e) ∈ es := by
  simp only [doings, List.mem_filterMap, Option.ite_none_right_eq_some, Option.some.injEq]
  constructor
  · rintro ⟨⟨j, e'⟩, hm, rfl, rfl⟩
    exact hm
  · intro hm
    exact ⟨(i, e), hm, rfl, rfl⟩

lemma doings_append (i : ℕ) (es es' : List (ℕ × Event)) :
    doings i (es ++ es') = doings i es ++ doings i es' := List.filterMap_append

lemma doings_sublist (i : ℕ) (es : List (ℕ × Event)) :
    ((doings i es).map (Prod.mk i)).Sublist es := by
  induction es with
  | nil => exact List.Sublist.slnil
  | cons x es ih =>
    obtain ⟨j, e⟩ := x
    by_cases hj : j = i
    · subst hj
      simpa [doings] using ih
    · simpa [doings, hj] using ih.cons (j, e)

namespace Scene

def playOn (s : Scene) (moves : List Move) : Scene := moves.foldl move s

def chronicle (s : Scene) : List Move → List (ℕ × Event)
  | [] => []
  | v :: vs => (s.event? v).toList ++ (s.move v).chronicle vs

def pastOf (s : Scene) (i : ℕ) : List Event := s.clients[i]?.elim [] Client.past

variable {s : Scene} {v : Move} {vs : List Move} {i : ℕ} {e : Event} {k : Kind} {id : String}
  {data : Text.Octets}

lemma playOn_cons (s : Scene) (v : Move) (vs : List Move) :
    s.playOn (v :: vs) = (s.move v).playOn vs := rfl

lemma playOn_append (s : Scene) (us vs : List Move) :
    s.playOn (us ++ vs) = (s.playOn us).playOn vs := List.foldl_append

lemma play_append (us vs : List Move) : play (us ++ vs) = (play us).playOn vs := List.foldl_append

lemma chronicle_cons (s : Scene) (v : Move) (vs : List Move) :
    s.chronicle (v :: vs) = (s.event? v).toList ++ (s.move v).chronicle vs := rfl

lemma chronicle_append (s : Scene) (us vs : List Move) :
    s.chronicle (us ++ vs) = s.chronicle us ++ (s.playOn us).chronicle vs := by
  induction us generalizing s with
  | nil => rfl
  | cons u us ih =>
    rw [List.cons_append, chronicle_cons, chronicle_cons, ih, List.append_assoc]
    rfl

lemma event_turn (h : s.event? v = some (i, e)) :
    ∃ t c plan m, v = .turn i t ∧ s.clients[i]? = some c ∧
      c.plan.turn t s.memory = some (e, plan, m) ∧
      s.move v = ⟨s.clients.set i ⟨c.action, plan, e :: c.past⟩, m⟩ := by
  rcases move_cases s v with ⟨_, _, _, he, _⟩ | ⟨he, _⟩ | ⟨j, t, c, e', plan, m, hv, hc, ht, he, hs⟩
  · simp [h] at he
  · simp [h] at he
  · obtain ⟨rfl, rfl⟩ : j = i ∧ e' = e := by simpa [h, eq_comm] using he
    exact ⟨t, c, plan, m, hv, hc, ht, hs⟩

lemma pastOf_move (s : Scene) (v : Move) (i : ℕ) :
    (s.move v).pastOf i = (doings i (s.event? v).toList).reverse ++ s.pastOf i := by
  rcases move_cases s v with ⟨_, _, _, he, hs⟩ | ⟨he, hs⟩ | ⟨j, t, c, e, plan, m, _, hc, _, he, hs⟩
  · rw [he, hs]
    simp only [pastOf, List.getElem?_append]
    split_ifs with hi
    · rfl
    · rw [List.getElem?_eq_none (not_lt.mp hi), List.getElem?_singleton]
      split_ifs <;> rfl
  · rw [he, hs]
    rfl
  · obtain ⟨hj, rfl⟩ := List.getElem?_eq_some_iff.mp hc
    rw [he, hs]
    by_cases hij : j = i
    · subst hij
      simp [pastOf, doings, hj]
    · simp [pastOf, doings, hij, List.getElem?_set_ne hij]

lemma events_move (s : Scene) (v : Move) :
    ((s.event? v).toList.map Prod.snd ++ s.events).Perm (s.move v).events := by
  rcases move_cases s v with ⟨_, _, _, he, hs⟩ | ⟨he, hs⟩ | ⟨j, t, c, e, plan, m, _, hc, _, he, hs⟩
  · simp [he, hs, events]
  · simp [he, hs]
  · rw [he, hs]
    exact events_turn hc e plan m

lemma clients_move (s : Scene) (v : Move) {c : Client} (hc : s.clients[i]? = some c) :
    ∃ plan past, (s.move v).clients[i]? = some ⟨c.action, plan, past⟩ ∧
      ∀ (may : Request → List Event → Prop) (ends : Outcome c.action.Result → List Event → Prop),
        c.plan.Meets may ends c.past → plan.Meets may ends past := by
  have hi := (List.getElem?_eq_some_iff.mp hc).1
  rcases move_cases s v with ⟨_, _, _, _, hs⟩ | ⟨_, hs⟩ | ⟨j, t, d, e, plan, m, _, hd, ht, _, hs⟩
  · exact ⟨c.plan, c.past, by rw [hs, List.getElem?_append_left hi, hc], fun _ _ h => h⟩
  · exact ⟨c.plan, c.past, by rw [hs, hc], fun _ _ h => h⟩
  · rw [hs]
    by_cases hij : j = i
    · subst hij
      obtain rfl := Option.some.inj (hd.symm.trans hc)
      exact ⟨plan, e :: d.past, List.getElem?_set_self hi, fun _ _ h => (h.turn ht).1⟩
    · exact ⟨c.plan, c.past, by rw [List.getElem?_set_ne hij, hc], fun _ _ h => h⟩

lemma event_ok {r : Store.Request} {a : r.Answer}
    (h : s.event? v = some (i, .asked (.store r) (.ok a))) :
    (s.memory.serve r).outcome = .ok a ∧ (s.move v).memory = (s.memory.serve r).store := by
  obtain ⟨t, c, plan, m, -, -, ht, hs⟩ := event_turn h
  rw [hs]
  exact (Plan.turn_asked ht).resolve_right (by rintro ⟨f, -, ho⟩; cases ho)

lemma holds_of_listed {docs : List Text.Octets} {rs : List k.Record}
    (h : s.event? v = some (i, .asked (.store (.list k)) (.ok docs)))
    (hd : k.entity.decodeAll docs = .ok rs) : s.memory.Holds k rs := by
  have hl : (s.memory.table k).documents = docs := Except.ok.inj (event_ok h).1
  rw [Memory.Holds, hl, hd]

lemma memory_move (s : Scene) (v : Move) :
    ((s.move v).memory = s.memory ∧ ∀ x ∈ s.event? v, x.2.written = none) ∨
      ∃ x ∈ s.event? v, ∃ w, x.2.written = some w ∧ w.Fits s.memory ∧
        (s.move v).memory = w.apply s.memory := by
  rcases move_cases s v with ⟨_, _, _, he, hs⟩ | ⟨he, hs⟩ | ⟨j, t, c, e, plan, m, _, hc, ht, he, hs⟩
  · exact .inl ⟨by rw [hs], by simp [he]⟩
  · exact .inl ⟨by rw [hs], by simp [he]⟩
  · rw [he, hs]
    rcases Plan.turn_cases ht with ⟨r, rfl, rfl⟩ | ⟨rfl, hw, -⟩
    · cases hw : r.written (s.memory.serve r).outcome with
      | none => exact .inl ⟨Memory.serve_unwritten hw, by simpa [Event.written] using hw⟩
      | some w => exact .inr ⟨_, rfl, w, hw, Write.fits_of_serve hw⟩
    · exact .inl ⟨rfl, by simpa using hw⟩

lemma event_written {x : ℕ × Event} {w : Write} (h : s.event? v = some x)
    (hw : x.2.written = some w) : w.Fits s.memory ∧ (s.move v).memory = w.apply s.memory := by
  rcases memory_move s v with ⟨-, hno⟩ | ⟨y, hy, w', hw', hf, hm⟩
  · simp [hno x h] at hw
  · obtain rfl := Option.some.inj (hy.symm.trans h)
    obtain rfl := Option.some.inj (hw'.symm.trans hw)
    exact ⟨hf, hm⟩

lemma chronicle_split {before after : List (ℕ × Event)} {x : ℕ × Event}
    (h : s.chronicle vs = before ++ x :: after) :
    ∃ us v ws, vs = us ++ v :: ws ∧ s.chronicle us = before ∧ (s.playOn us).event? v = some x ∧
      ((s.playOn us).move v).chronicle ws = after := by
  induction vs generalizing s before with
  | nil => simp [chronicle] at h
  | cons v vs ih =>
    rw [chronicle_cons] at h
    -- a move that leaves no event goes to the moves before the cut
    cases he : s.event? v with
    | none =>
      rw [he] at h
      obtain ⟨us, v', ws, rfl, hu, hx, hw⟩ := ih h
      exact ⟨v :: us, v', ws, rfl, by rw [chronicle_cons, he, hu]; rfl, hx, hw⟩
    | some y =>
      rw [he] at h
      cases before with
      | nil =>
        obtain ⟨rfl, hw⟩ := List.cons.inj h
        exact ⟨[], v, vs, rfl, rfl, he, hw⟩
      | cons z before =>
        obtain ⟨rfl, ht⟩ := List.cons.inj h
        obtain ⟨us, v', ws, rfl, hu, hx, hw⟩ := ih ht
        exact ⟨v :: us, v', ws, rfl, by rw [chronicle_cons, he, hu]; rfl, hx, hw⟩

lemma pastOf_playOn (s : Scene) (vs : List Move) (i : ℕ) :
    (s.playOn vs).pastOf i = (doings i (s.chronicle vs)).reverse ++ s.pastOf i := by
  induction vs generalizing s with
  | nil => rfl
  | cons v vs ih =>
    rw [playOn_cons, ih, pastOf_move, chronicle_cons, doings_append, List.reverse_append,
      List.append_assoc]

lemma events_playOn (s : Scene) (vs : List Move) :
    ((s.chronicle vs).map Prod.snd ++ s.events).Perm (s.playOn vs).events := by
  induction vs generalizing s with
  | nil => exact List.Perm.refl _
  | cons v vs ih =>
    rw [playOn_cons, chronicle_cons, List.map_append, List.append_assoc]
    refine (List.perm_append_comm_assoc _ _ _).trans ?_
    exact ((events_move s v).append_left _).trans (ih (s.move v))

lemma clients_playOn (s : Scene) (vs : List Move) {c : Client} (hc : s.clients[i]? = some c) :
    ∃ plan past, (s.playOn vs).clients[i]? = some ⟨c.action, plan, past⟩ ∧
      ∀ (may : Request → List Event → Prop) (ends : Outcome c.action.Result → List Event → Prop),
        c.plan.Meets may ends c.past → plan.Meets may ends past := by
  induction vs generalizing s c with
  | nil => exact ⟨c.plan, c.past, hc, fun _ _ h => h⟩
  | cons v vs ih =>
    obtain ⟨plan, past, hc', hm⟩ := clients_move s v hc
    obtain ⟨plan', past', hc'', hm'⟩ := ih (s.move v) hc'
    exact ⟨plan', past', hc'', fun may ends h => hm' may ends (hm may ends h)⟩

lemma get?_playOn (hg : (s.playOn vs).memory.get? k id = some data) :
    s.memory.get? k id = some data ∨
      ∃ x ∈ s.chronicle vs, x.2.written = some (.put k id data) := by
  induction vs generalizing s with
  | nil => exact .inl hg
  | cons v vs ih =>
    rw [chronicle_cons]
    rcases ih hg with hg | ⟨x, hx, hw⟩
    · rcases memory_move s v with ⟨hm, -⟩ | ⟨x, hx, w, hw, hf, hm⟩
      · exact .inl (hm ▸ hg)
      · rcases Write.get?_of_apply hf (hm ▸ hg) with hg | rfl
        · exact .inl hg
        · exact .inr ⟨x, List.mem_append_left _ (Option.mem_toList.mpr hx), hw⟩
    · exact .inr ⟨x, List.mem_append_right _ hx, hw⟩

lemma get?_playOn_of_get? (hg : s.memory.get? k id = some data) :
    (s.playOn vs).memory.get? k id = some data ∨
      ∃ x ∈ s.chronicle vs, x.2.written = some (.drop k id) := by
  induction vs generalizing s with
  | nil => exact .inl hg
  | cons v vs ih =>
    rw [chronicle_cons]
    have hv : (s.move v).memory.get? k id = some data ∨
        ∃ x ∈ s.event? v, x.2.written = some (.drop k id) := by
      rcases memory_move s v with ⟨hm, -⟩ | ⟨x, hx, w, hw, hf, hm⟩
      · exact .inl (hm ▸ hg)
      · rcases Write.get?_apply hf hg with hg | rfl
        · exact .inl (hm ▸ hg)
        · exact .inr ⟨x, hx, hw⟩
    rcases hv with hg | ⟨x, hx, hw⟩
    · rcases ih hg with hg | ⟨x, hx, hw⟩
      · exact .inl hg
      · exact .inr ⟨x, List.mem_append_right _ hx, hw⟩
    · exact .inr ⟨x, List.mem_append_left _ (Option.mem_toList.mpr hx), hw⟩

lemma table_playOn (h : ∀ x ∈ s.chronicle vs, ∀ w, x.2.written = some w → w.kind ≠ k) :
    (s.playOn vs).memory.table k = s.memory.table k := by
  induction vs generalizing s with
  | nil => rfl
  | cons v vs ih =>
    rw [chronicle_cons] at h
    have hv : (s.move v).memory.table k = s.memory.table k := by
      rcases memory_move s v with ⟨hm, -⟩ | ⟨x, hx, w, hw, hf, hm⟩
      · rw [hm]
      · rw [hm]
        exact Write.table_apply (h x (List.mem_append_left _ (Option.mem_toList.mpr hx)) w hw)
    exact (ih fun x hx => h x (List.mem_append_right _ hx)).trans hv

lemma client_turn {a : Action} {p p' : Plan (Outcome a.Result)} {past : List Event} {t : Turn}
    {m : Memory} (hc : s.clients[i]? = some ⟨a, p, past⟩)
    (ht : p.turn t s.memory = some (e, p', m)) :
    (s.move (.turn i t)).clients[i]? = some ⟨a, p', e :: past⟩ := by
  have hi := (List.getElem?_eq_some_iff.mp hc).1
  simp [move, hc, ht, List.getElem?_set_self hi]

def CanFinish (s : Scene) (i : ℕ) : Prop :=
  ∃ turns : List Turn, (∀ f, .fail f ∉ turns) ∧
    ∃ c, (s.playOn (turns.map (.turn i))).clients[i]? = some c ∧ c.plan.result?.isSome

lemma CanFinish.turn {t : Turn} (h : (s.move (.turn i t)).CanFinish i) (hf : ∀ f, .fail f ≠ t) :
    s.CanFinish i := by
  obtain ⟨turns, hturns, hc⟩ := h
  exact ⟨t :: turns, fun f hm => (List.mem_cons.mp hm).elim (hf f) (hturns f), hc⟩

lemma canFinish {a : Action} {p : Plan (Outcome a.Result)} {past : List Event}
    (hc : s.clients[i]? = some ⟨a, p, past⟩) : s.CanFinish i := by
  induction p generalizing s past with
  | done o => exact ⟨[], nofun, _, hc, rfl⟩
  | ask r next ih =>
    cases r with
    | store r => exact CanFinish.turn (t := .serve) (ih _ (client_turn hc rfl)) nofun
    | send q d =>
      exact CanFinish.turn (t := .reply (.error default)) (ih _ (client_turn hc rfl)) nofun
  | allocate start next ih =>
    exact CanFinish.turn (t := .grant "") (ih _ (client_turn hc rfl)) nofun
  | clock next ih =>
    have hv : Time.Timestamp.Valid ⟨⟨1970, 1, 1⟩, 0, 0, 0, 0⟩ := by decide
    exact CanFinish.turn (t := .tick ⟨_, hv⟩) (ih _ (client_turn hc rfl)) nofun
  | note n next ih => exact CanFinish.turn (t := .log) (ih (client_turn hc rfl)) nofun

lemma play_split {moves : List Move} {before after : List (ℕ × Event)} {x : ℕ × Event}
    (h : opening.chronicle moves = before ++ x :: after) :
    ∃ us v ws, moves = us ++ v :: ws ∧ opening.chronicle us = before ∧
      (play us).event? v = some x ∧ (play (us ++ [v])).chronicle ws = after := by
  obtain ⟨us, v, ws, hm, hu, hv, hw⟩ := chronicle_split h
  refine ⟨us, v, ws, hm, hu, hv, ?_⟩
  rw [play_snoc]
  exact hw

lemma pastOf_play (moves : List Move) (i : ℕ) :
    (play moves).pastOf i = (doings i (opening.chronicle moves)).reverse :=
  (pastOf_playOn opening moves i).trans (List.append_nil _)

lemma events_play (moves : List Move) :
    ((opening.chronicle moves).map Prod.snd).Perm (play moves).events := by
  have h := events_playOn opening moves
  rwa [show opening.events = [] from rfl, List.append_nil] at h

lemma may_of_asked {may : Action → Request → List Event → Prop}
    {ends : (a : Action) → Outcome a.Result → List Event → Prop}
    (h : ∀ q (a : Action), (a.operation q).Meets (may a) (ends a) []) {moves : List Move}
    {before after : List (ℕ × Event)} {r : Request} {o : Outcome r.Answer}
    (he : opening.chronicle moves = before ++ (i, .asked r o) :: after) :
    ∃ c, (play moves).clients[i]? = some c ∧ may c.action r (doings i before).reverse := by
  obtain ⟨us, v, ws, rfl, hu, hx, -⟩ := play_split he
  obtain ⟨t, c, plan, m, -, hc, ht, -⟩ := event_turn hx
  obtain ⟨plan', past', hc', -⟩ := clients_playOn (play us) (v :: ws) hc
  have hp : (play us).pastOf i = c.past := congrArg (Option.elim · [] Client.past) hc
  rw [← play_append] at hc'
  rw [← hu, ← pastOf_play, hp]
  exact ⟨_, hc', ((play_meets h us (List.mem_of_getElem? hc)).turn ht).2 r o rfl⟩

end Scene

end Switchboard.Service
