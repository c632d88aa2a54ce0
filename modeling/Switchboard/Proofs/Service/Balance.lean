import Switchboard.Proofs.Service.Scenes

/-! When all clients have finished, the records that were created and not deleted are those that
are stored; and if no id is given out twice, no record is deleted twice. -/

namespace Switchboard.Service

open Store

namespace Change

def adds (k : Kind) (id : String) : Change → Bool
  | added l r => l = k ∧ l.entity.id r = id
  | removed .. => false

def removes (k : Kind) (id : String) : Change → Bool
  | added .. => false
  | removed l r => l = k ∧ l.entity.id r = id

lemma write_puts (k : Kind) (id : String) (c : Change) : c.write.puts k id = c.adds k id := by
  cases c <;> rfl

lemma write_drops (k : Kind) (id : String) (c : Change) : c.write.drops k id = c.removes k id := by
  cases c <;> rfl

lemma adds_iff (k : Kind) (id : String) (c : Change) :
    c.adds k id ↔ ∃ r, c = .added k r ∧ k.entity.id r = id := by
  cases c with
  | added l r =>
    refine ⟨fun h => ?_, fun ⟨r', h, hi⟩ => ?_⟩
    · obtain ⟨rfl, hi⟩ : l = k ∧ l.entity.id r = id := by simpa [adds] using h
      exact ⟨r, rfl, hi⟩
    · cases h
      simpa [adds] using hi
  | removed l r => simp [adds]

lemma removes_iff (k : Kind) (id : String) (c : Change) :
    c.removes k id ↔ ∃ r, c = .removed k r ∧ k.entity.id r = id := by
  cases c with
  | added l r => simp [removes]
  | removed l r =>
    refine ⟨fun h => ?_, fun ⟨r', h, hi⟩ => ?_⟩
    · obtain ⟨rfl, hi⟩ : l = k ∧ l.entity.id r = id := by simpa [removes] using h
      exact ⟨r, rfl, hi⟩
    · cases h
      simpa [removes] using hi

end Change

lemma Action.target?_of_added {a : Action} {o : Outcome a.Result} {k : Kind} {r : k.Record}
    (h : a.change? o = some (.added k r)) : a.target? = none := by
  cases a <;> first | rfl | (cases o <;> cases h)

def granted (es : List Event) : List String :=
  es.filterMap fun
    | .allocated _ id => some id
    | _ => none

def Plan.result? {α : Type} : Plan α → Option α
  | .done a => some a
  | _ => none

namespace Client

def change? (c : Client) : Option Change := c.plan.result?.bind c.action.change?

def created (k : Kind) (id : String) (c : Client) : Bool := c.change?.any (·.adds k id)

def deleted (k : Kind) (id : String) (c : Client) : Bool :=
  c.action.target? = some (k, id) ∧ c.change?.isSome

end Client

namespace Scene

def Finished (s : Scene) : Prop := ∀ c ∈ s.clients, c.plan.result?.isSome

instance (s : Scene) : Decidable s.Finished := by unfold Finished; infer_instance

variable {s : Scene} {c : Client} {k : Kind} {id : String}

lemma Finished.done (hf : s.Finished) (hc : c ∈ s.clients) :
    ∃ o, c.plan = .done o ∧ c.change? = c.action.change? o := by
  have hd := hf c hc
  cases hp : c.plan with
  | done o => exact ⟨o, rfl, by simp [Client.change?, hp, Plan.result?]⟩
  | _ => simp [hp, Plan.result?] at hd

lemma Sound.concludes (h : s.Sound) (hf : s.Finished) (hc : c ∈ s.clients) :
    writes c.past = (c.change?.map Change.write).toList ∧
      (∀ k r, c.change? = some (.added k r) →
        k.Storable r ∧ ∃ start, .allocated start (k.entity.id r) ∈ c.past) ∧
      ∀ k r, c.change? = some (.removed k r) → ∃ id data, c.action.target? = some (k, id) ∧
        .asked (.store (.get k id)) (.ok (some data)) ∈ c.past ∧
        k.entity.decode data = .ok r := by
  obtain ⟨o, ho, he⟩ := hf.done hc
  have hm := h.conduct c hc
  rw [ho] at hm
  rw [he]
  exact ⟨hm.wrote, hm.added, hm.removed⟩

lemma Sound.writes_eq (h : s.Sound) (hf : s.Finished) :
    writes s.events = (s.clients.filterMap Client.change?).map Change.write := by
  have hw (cs : List Client) (hc : ∀ c ∈ cs, writes c.past = (c.change?.map Change.write).toList) :
      writes (cs.flatMap Client.past) = (cs.filterMap Client.change?).map Change.write := by
    induction cs with
    | nil => rfl
    | cons c cs ih =>
      have h₁ := hc c (by simp)
      have h₂ := ih fun c' hc' => hc c' (by simp [hc'])
      simp only [writes] at h₁ h₂ ⊢
      rw [List.flatMap_cons, List.filterMap_append, h₁, h₂]
      cases hch : c.change? with
      | none => simp [hch]
      | some ch => simp [hch]
  exact hw s.clients fun c hc => (h.concludes hf hc).1

lemma Sound.loaded (h : s.Sound) (hf : s.Finished) (hc : c ∈ s.clients) {data : Text.Octets}
    (hg : .asked (.store (.get k id)) (.ok (some data)) ∈ c.past) :
    ∃ r, k.Storable r ∧ k.entity.id r = id ∧ k.entity.decode data = .ok r ∧
      ∃ c' ∈ s.clients, c'.change? = some (.added k r) := by
  have hp := h.told.loaded k id data (List.mem_flatMap.mpr ⟨c, hc, hg⟩)
  rw [h.writes_eq hf, List.mem_map] at hp
  obtain ⟨ch, hch, hw⟩ := hp
  obtain ⟨c', hc', hch⟩ := List.mem_filterMap.mp hch
  cases ch with
  | removed _ _ => cases hw
  | added _ r =>
    cases hw
    obtain ⟨hs, -⟩ := (h.concludes hf hc').2.1 _ r hch
    exact ⟨r, hs, rfl, decode_document hs, c', hc', hch⟩

lemma Sound.removes_eq (h : s.Sound) (hf : s.Finished) (hc : c ∈ s.clients) :
    c.change?.any (·.removes k id) = c.deleted k id := by
  cases hch : c.change? with
  | none => simp [Client.deleted, hch]
  | some ch =>
    cases ch with
    | added l r =>
      obtain ⟨o, -, he⟩ := hf.done hc
      have ht : c.action.target? = none := Action.target?_of_added (he.symm.trans hch)
      simp [Client.deleted, Change.removes, ht]
    | removed l r =>
      obtain ⟨id', data, ht, hg, hd⟩ := (h.concludes hf hc).2.2 l r hch
      obtain ⟨r', -, hi, hd', -⟩ := h.loaded hf hc hg
      obtain rfl := Except.ok.inj (hd'.symm.trans hd)
      simp [Client.deleted, Change.removes, ht, hch, hi]

lemma Sound.puts_eq (h : s.Sound) (hf : s.Finished) (k : Kind) (id : String) :
    (writes s.events).countP (Write.puts k id) = s.clients.countP (·.created k id) := by
  rw [h.writes_eq hf, List.countP_map, List.countP_filterMap]
  refine List.countP_congr fun c _ => ?_
  cases hch : c.change? <;> simp [Client.created, hch, Change.write_puts]

lemma Sound.drops_eq (h : s.Sound) (hf : s.Finished) (k : Kind) (id : String) :
    (writes s.events).countP (Write.drops k id) = s.clients.countP (·.deleted k id) := by
  rw [h.writes_eq hf, List.countP_map, List.countP_filterMap]
  refine List.countP_congr fun c hc => ?_
  rw [← h.removes_eq hf hc]
  cases hch : c.change? <;> simp [Change.write_drops]

lemma Sound.created_le (h : s.Sound) (hf : s.Finished) (k : Kind) (id : String) :
    s.clients.countP (·.created k id) ≤ (granted s.events).count id := by
  have hg (cs : List Client) (hc : ∀ c ∈ cs, c.created k id → id ∈ granted c.past) :
      cs.countP (·.created k id) ≤ (granted (cs.flatMap Client.past)).count id := by
    induction cs with
    | nil => exact le_rfl
    | cons c cs ih =>
      have h₁ := hc c (by simp)
      have h₂ := ih fun c' hc' => hc c' (by simp [hc'])
      simp only [granted] at h₁ h₂ ⊢
      rw [List.flatMap_cons, List.filterMap_append, List.count_append, List.countP_cons]
      split_ifs with hcr
      · have hpos := List.count_pos_iff.mpr (h₁ hcr)
        omega
      · omega
  refine hg s.clients fun c hc hcr => ?_
  obtain ⟨ch, hch, ha⟩ := (Option.any_eq_true _ _).mp hcr
  obtain ⟨r, rfl, rfl⟩ := (Change.adds_iff k id ch).mp ha
  obtain ⟨-, start, hst⟩ := (h.concludes hf hc).2.1 k r hch
  exact List.mem_filterMap.mpr ⟨_, hst, rfl⟩

lemma Sound.deleted_created (h : s.Sound) (hf : s.Finished) (hc : c ∈ s.clients)
    (hd : c.deleted k id) : ∃ r, c.change? = some (.removed k r) ∧
      ∃ c' ∈ s.clients, c'.change? = some (.added k r) := by
  rw [← h.removes_eq hf hc] at hd
  obtain ⟨ch, hch, hr⟩ := (Option.any_eq_true _ _).mp hd
  obtain ⟨r, rfl, -⟩ := (Change.removes_iff k id ch).mp hr
  obtain ⟨id', data, -, hg, hdec⟩ := (h.concludes hf hc).2.2 k r hch
  obtain ⟨r', -, -, hdec', hcr⟩ := h.loaded hf hc hg
  obtain rfl := Except.ok.inj (hdec'.symm.trans hdec)
  exact ⟨r', hch, hcr⟩

end Scene

theorem play_balance (moves : List Move) (hf : (Scene.play moves).Finished) (k : Kind)
    (id : String) :
    let s := Scene.play moves
    (s.clients.countP (·.created k id) : ℤ) - s.clients.countP (·.deleted k id) =
        (if (s.memory.get? k id).isSome then 1 else 0) ∧
      ((granted s.events).Nodup → s.clients.countP (·.deleted k id) ≤ 1 ∧
        ∀ d ∈ s.clients, d.deleted k id → s.clients.countP (·.created k id) = 1 ∧
          ∃ r, d.change? = some (.removed k r) ∧
            ∃ c ∈ s.clients, c.created k id ∧ c.change? = some (.added k r)) := by
  intro s
  have h : s.Sound := Scene.play_sound moves
  have hb := h.told.balance k id
  rw [h.puts_eq hf, h.drops_eq hf] at hb
  refine ⟨by rw [hb]; push_cast; ring, fun hn => ?_⟩
  -- an id given out once is created under once at most, and deletes do not outnumber creates
  have hc := (h.created_le hf k id).trans (List.nodup_iff_count_le_one.mp hn id)
  refine ⟨by omega, fun d hd hdel => ?_⟩
  have hpos : 0 < s.clients.countP (·.deleted k id) := List.countP_pos_iff.mpr ⟨d, hd, hdel⟩
  obtain ⟨r, hr, c, hc', hcr⟩ := h.deleted_created hf hd hdel
  refine ⟨by omega, r, hr, c, hc', ?_, hcr⟩
  rw [← h.removes_eq hf hd, hr] at hdel
  simpa [Client.created, hcr, Change.adds, Change.removes] using hdel

/-- A rule is created, two clients load it, and both go on to delete it. -/
def race : List Move :=
  [.start false (.createRule ⟨.direct "lobby", [], false⟩), .turn 0 (.grant "SDR_1"),
    .turn 0 .serve, .turn 0 .log, .start false (.deleteRule "SDR_1"),
    .start false (.deleteRule "SDR_1"), .turn 1 .serve, .turn 2 .serve, .turn 2 .serve,
    .turn 1 .serve, .turn 2 .log]

theorem race_balance :
    (Scene.play race).Finished ∧ (granted (Scene.play race).events).Nodup ∧
      (∃ d ∈ (Scene.play race).clients, d.deleted .rule "SDR_1") ∧
      ((Scene.play race).clients.countP (·.created .rule "SDR_1") : ℤ) -
        (Scene.play race).clients.countP (·.deleted .rule "SDR_1") = 0 ∧
      (Scene.play race).clients.countP (·.deleted .rule "SDR_1") ≤ 1 ∧
      (Scene.play race).clients.countP (·.created .rule "SDR_1") = 1 := by
  have hf : (Scene.play race).Finished := by decide +kernel
  have hn : (granted (Scene.play race).events).Nodup := by decide +kernel
  have hd : ∃ d ∈ (Scene.play race).clients, d.deleted .rule "SDR_1" := by decide +kernel
  have hm : (Scene.play race).memory.get? .rule "SDR_1" = none := by decide +kernel
  obtain ⟨hb, hu⟩ := play_balance race hf .rule "SDR_1"
  obtain ⟨hone, heach⟩ := hu hn
  obtain ⟨d, hmem, hdel⟩ := hd
  rw [hm] at hb
  exact ⟨hf, hn, ⟨d, hmem, hdel⟩, hb, hone, (heach d hmem hdel).1⟩

end Switchboard.Service
