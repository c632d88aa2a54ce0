import Switchboard.Proofs.Service.Grounds
import Switchboard.Proofs.Service.SingleWrite

/-! Rules name trunks that are stored, as long as actions have the store to themselves, one after
the other. -/

namespace Switchboard

open Store Service

def Store.Memory.Linked (m : Memory) : Prop :=
  ∀ id data, m.get? .rule id = some data → ∃ r, ruleEntity.decode data = .ok r ∧
    ∀ t ∈ r.trunkIds, ∃ u : Trunk, u.id = t ∧ m.Stores .trunk u

namespace Store.Memory

variable {m : Memory} {k l : Kind} {id : String} {data : Text.Octets}

lemma linked_empty : Memory.empty.Linked := nofun

lemma Stores.put {r : k.Record} (h : m.Stores k r) (hf : m.get? l id = none) :
    ((Write.put l id data).apply m).Stores k r := by
  obtain ⟨data', hg, hd⟩ := h
  refine ⟨data', (Write.get?_apply (w := .put l id data) hf hg).resolve_right nofun, hd⟩

lemma Linked.put (h : m.Linked) (hf : m.get? k id = none) (hd : k.Documents id data)
    (hn : k = .rule → ∀ r, ruleEntity.decode data = .ok r →
      ∀ t ∈ r.trunkIds, ∃ u : Trunk, u.id = t ∧ m.Stores .trunk u) :
    ((Write.put k id data).apply m).Linked := by
  have hnamed (r : Rule) (hr : ∀ t ∈ r.trunkIds, ∃ u : Trunk, u.id = t ∧ m.Stores .trunk u) :
      ∀ t ∈ r.trunkIds,
        ∃ u : Trunk, u.id = t ∧ ((Write.put k id data).apply m).Stores .trunk u := by
    intro t ht
    obtain ⟨u, hu, hs⟩ := hr t ht
    exact ⟨u, hu, hs.put hf⟩
  intro other data' hg
  rcases Write.get?_of_apply (w := .put k id data) hf hg with hg | hw
  · obtain ⟨r, hr, ht⟩ := h other data' hg
    exact ⟨r, hr, hnamed r ht⟩
  · cases hw
    obtain ⟨r, hr, -, rfl⟩ := hd
    have hdec : ruleEntity.decode (Kind.rule.document r) = .ok r := decode_document (k := .rule) hr
    exact ⟨r, hdec, hnamed r (hn rfl r hdec)⟩

lemma Linked.drop (h : m.Linked) (hf : (Write.drop k id).Fits m)
    (hn : k = .trunk → ∀ r, m.Stores .rule r → id ∉ r.trunkIds) (hk : m.Kept) :
    ((Write.drop k id).apply m).Linked := by
  intro other data hg
  have hg' := (Write.get?_of_apply hf hg).resolve_right nofun
  obtain ⟨r, hr, ht⟩ := h other data hg'
  refine ⟨r, hr, fun t htr => ?_⟩
  obtain ⟨u, rfl, data', hu, hd⟩ := ht t htr
  refine ⟨u, rfl, data', (Write.get?_apply hf hu).resolve_right fun hw => ?_, hd⟩
  -- the trunk would be the one that goes, but the rule names it
  cases hw
  obtain ⟨r', -, hr', hs⟩ := hk.stores hg'
  obtain rfl := Except.ok.inj (hr'.symm.trans hr)
  exact hn rfl r' hs htr

end Store.Memory

end Switchboard

namespace Switchboard.Service

open Store Time

/-- What an action has seen of a store in which rules name trunks that are there, and which only it
writes to: until it writes, all that it was answered is still so. -/
structure Seen (past : List Event) (m : Memory) : Prop where
  kept : m.Kept
  linked : m.Linked
  current : writes past = [] → ∀ r a, .asked (.store r) (.ok a) ∈ past → (m.serve r).outcome = .ok a

variable {past : List Event} {m : Memory} {a : Action}

lemma Seen.stores (h : Seen past m) (hw : writes past = []) {k : Kind} {id : String}
    {data : Text.Octets} (hg : .asked (.store (.get k id)) (.ok (some data)) ∈ past) :
    ∃ r : k.Record, k.entity.id r = id ∧ m.Stores k r := by
  have hm : m.get? k id = some data := Except.ok.inj (h.current hw _ _ hg)
  obtain ⟨r, hr, -, hs⟩ := h.kept.stores hm
  exact ⟨r, hr, hs⟩

lemma Seen.mem (h : Seen past m) (hw : writes past = []) {k : Kind} {docs : List Text.Octets}
    {rs : List k.Record} (hl : .asked (.store (.list k)) (.ok docs) ∈ past)
    (hd : k.entity.decodeAll docs = .ok rs) {r : k.Record} (hr : m.Stores k r) : r ∈ rs := by
  have hm : (m.table k).documents = docs := Except.ok.inj (h.current hw _ _ hl)
  have hh : m.Holds k rs := by rw [Memory.Holds, hm, hd]
  exact (h.kept.mem_iff hh r).mpr hr

lemma Seen.linked_serve (h : Seen past m) {r : Store.Request} (ho : Orderly (.store r) past)
    (hg : a.Grounds (.store r) past) : (m.serve r).store.Linked := by
  have hw := orderly_writes ho
  cases hr : r.written (m.serve r).outcome with
  | none => exact (Memory.serve_unwritten hr).symm ▸ h.linked
  | some w =>
    cases w with
    | put k id data =>
      obtain ⟨rfl, hf, hs⟩ := Memory.serve_put hr
      rw [hs]
      refine h.linked.put hf ho.2 ?_
      rintro rfl rule hd t ht
      obtain ⟨found, hfound⟩ := hg.present id data rule rfl hd t ht
      exact h.stores hw hfound
    | drop k id =>
      obtain ⟨rfl, hf, hs⟩ := Memory.serve_drop hr
      rw [hs]
      refine h.linked.drop hf ?_ h.kept
      rintro rfl rule hrule
      obtain ⟨docs, rules, hl, hd, hn⟩ := hg.unnamed id rfl
      exact hn rule (h.mem (k := .rule) hw hl hd hrule)

lemma lasting_seen (a : Action) :
    Lasting (fun r past => Orderly r past ∧ a.Grounds r past) Seen where
  idle past m e he h := by
    refine ⟨h.kept, h.linked, fun hw r o ho => ?_⟩
    rw [writes, List.filterMap_cons_none he.unwritten] at hw
    exact h.current hw r o ((List.mem_cons.mp ho).resolve_left (he r o).symm)
  serve past m r hm h := by
    obtain ⟨ho, hg⟩ := hm
    refine ⟨h.kept.serve fun k id data hr => ?_, h.linked_serve ho hg, fun hw r' o ho' => ?_⟩
    · subst hr
      exact ho.2
    · rw [writes_asked, List.append_eq_nil_iff, Option.toList_eq_nil_iff] at hw
      rw [Memory.serve_unwritten hw.1]
      rcases List.mem_cons.mp ho' with he | ho'
      · obtain ⟨hr, ha⟩ := Event.asked.inj he
        obtain rfl := Request.store.inj hr
        exact (eq_of_heq ha).symm
      · exact h.current hw.2 r' o ho'

lemma perform_linked {ε : Type} (w : Surroundings ε) (limit : Span) (controlled : Bool) (a : Action)
    (e : ε) (hk : m.Kept) (hl : m.Linked) :
    let m' := (w.perform limit controlled a (e, m)).2.2
    m'.Kept ∧ m'.Linked := by
  have hseen : Seen [] m := ⟨hk, hl, fun _ _ _ h => absurd h List.not_mem_nil⟩
  have hm := a.meets_grounds ⟨true, controlled⟩
  obtain ⟨past, h, -, -⟩ := (lasting_seen a).run w limit hm hseen ⟨0⟩ e
  exact ⟨h.kept, h.linked⟩

theorem foldl_perform_linked {ε : Type} (w : Surroundings ε) (limit : Span) (controlled : Bool)
    (as : List Action) (e : ε) :
    (as.foldl (fun s a => (w.perform limit controlled a s).2) (e, Memory.empty)).2.Linked := by
  have hrun (s : ε × Memory) (hs : s.2.Kept ∧ s.2.Linked) :
      (as.foldl (fun s a => (w.perform limit controlled a s).2) s).2.Linked := by
    induction as generalizing s with
    | nil => exact hs.2
    | cons a as ih => exact ih _ (perform_linked w limit controlled a s.1 hs.1 hs.2)
  exact hrun _ ⟨kept_empty, Memory.linked_empty⟩

end Switchboard.Service
