import Switchboard.Proofs.Registry.Routes

/-! Where a call goes depends neither on the order of trunks and rules nor on those that are passed
over, as long as no two have the same id. -/

namespace Switchboard

open Text

section

variable {α : Type} {id : α → String} {names : α → List String} {name : String}
  {as as' : List α} {a : α}

lemma FirstLeast.le (h : FirstLeast id as a) {b : α} (hb : b ∈ as) :
    octets (id a) ≤ octets (id b) := by
  obtain ⟨bs, cs, rfl, hbs, hcs⟩ := h
  rcases List.mem_append.mp hb with hb | hb
  · exact List.le_of_lt (hbs b hb)
  · rcases List.mem_cons.mp hb with rfl | hb
    · exact List.le_refl _
    · exact hcs b hb

lemma FirstLeast.of_subset (hn : (as.map id).Nodup) (h : FirstLeast id as a) (hs : as' ⊆ as)
    (ha : a ∈ as') : FirstLeast id as' a := by
  obtain ⟨b, hb⟩ := exists_firstLeast id (List.ne_nil_of_mem ha)
  have hid : octets (id a) = octets (id b) := List.le_antisymm (h.le (hs hb.mem)) (hb.le ha)
  have hab : a = b := List.inj_on_of_nodup_map hn h.mem (hs hb.mem) (octets_injective hid)
  rwa [hab]

lemma mem_preferred : a ∈ preferred names name as ↔
    a ∈ as ∧ (name ∈ names a ∨ names a = [] ∧ ∀ b ∈ as, name ∉ names b) := by
  unfold preferred
  split_ifs with h
  · obtain ⟨b, hb, hn⟩ := h
    simp only [List.mem_filter, decide_eq_true_eq]
    exact and_congr_right fun _ => ⟨.inl, fun ha => ha.resolve_right fun ha => ha.2 b hb hn⟩
  · push Not at h
    simp only [List.mem_filter, decide_eq_true_eq]
    exact and_congr_right fun ha => ⟨fun hw => .inr ⟨hw, h⟩, fun hn =>
      (hn.resolve_left (h a ha)).1⟩

lemma preferred_sublist : (preferred names name as).Sublist as := by
  unfold preferred
  split_ifs <;> exact List.filter_sublist

lemma preferred_perm (h : as'.Perm as) :
    (preferred names name as').Perm (preferred names name as) := by
  unfold preferred
  simp only [h.mem_iff]
  split_ifs <;> exact h.filter _

lemma preferred_nodup (hn : (as.map id).Nodup) (q : α → Bool) :
    (((preferred names name as).filter q).map id).Nodup :=
  hn.sublist ((List.filter_sublist.trans preferred_sublist).map id)

variable (h : ∀ b ∈ as', b ∈ as ∨ names b ≠ [] ∧ name ∉ names b)
include h

lemma preferred_keeps (ha : a ∈ preferred names name as) (ha' : a ∈ as') :
    a ∈ preferred names name as' := by
  refine mem_preferred.mpr ⟨ha', (mem_preferred.mp ha).2.imp_right fun ⟨hw, hn⟩ => ⟨hw, ?_⟩⟩
  intro b hb
  rcases h b hb with hb | hb
  · exact hn b hb
  · exact hb.2

lemma preferred_subset (ha : a ∈ preferred names name as) (ha' : a ∈ as') :
    preferred names name as' ⊆ preferred names name as := by
  intro b hb
  obtain ⟨hb, hn | ⟨hw, hn⟩⟩ := mem_preferred.mp hb
  · exact mem_preferred.mpr ⟨(h b hb).resolve_right fun hb => hb.2 hn, .inl hn⟩
  · -- `a` does not name it either, so nothing did
    have hna := ((mem_preferred.mp ha).2.resolve_left (hn a ha')).2
    exact mem_preferred.mpr ⟨(h b hb).resolve_right fun hb => hb.1 hw, .inr ⟨hw, hna⟩⟩

end

section

variable {trunks trunks' : List Trunk} {rules rules' : List Rule} {call : Call}
  (ht : (trunks.map Trunk.id).Nodup) (hr : (rules.map Rule.id).Nodup)
include ht hr

lemma Routes.of_subset {d : Decision} (h : Routes trunks rules call (.ok d))
    (hts : trunks' ⊆ trunks) (htd : ∃ t ∈ trunks', t.id = d.trunkId)
    (hrs : ∀ r ∈ rules', r ∈ rules ∨ r.trunkIds ≠ [] ∧ d.trunkId ∉ r.trunkIds)
    (hrd : ∃ r ∈ rules', r ∈ rules ∧ r.id = d.ruleId) : Routes trunks' rules' call (.ok d) := by
  cases h with
  | @routed cs t r hc hp hft hfr hn =>
    subst hc
    have hmt := (List.mem_filter.mp hft.mem).1
    obtain ⟨t', ht', hid⟩ := htd
    obtain rfl : t' = t := List.inj_on_of_nodup_map ht (hts ht') (mem_of_preferred hmt) hid
    obtain ⟨r', hr', hmr, hid⟩ := hrd
    obtain rfl : r' = r := List.inj_on_of_nodup_map hr hmr (mem_of_preferred hfr.mem) hid
    have hst : ∀ b ∈ trunks', b ∈ trunks ∨ b.inboundAddresses ≠ [] ∧
        call.address ∉ b.inboundAddresses := fun b hb => .inl (hts hb)
    have hsub := preferred_subset hst hmt ht'
    refine .routed rfl (fun b hb => hp b (hsub hb)) ?_ ?_ hn
    · refine hft.of_subset (preferred_nodup ht _) (List.filter_subset _ hsub) ?_
      exact List.mem_filter.mpr ⟨preferred_keeps hst hmt ht', (List.mem_filter.mp hft.mem).2⟩
    · refine hfr.of_subset ?_ (preferred_subset hrs hfr.mem hr') (preferred_keeps hrs hfr.mem hr')
      exact hr.sublist (preferred_sublist.map _)

lemma Routes.perm {o : Outcome Decision} (h : Routes trunks rules call o)
    (hts : trunks'.Perm trunks) (hrs : rules'.Perm rules) :
    ∃ o', Routes trunks' rules' call o' ∧
      o'.mapError Failure.kind = o.mapError Failure.kind := by
  have hc : (preferred Trunk.inboundAddresses call.address trunks').Perm _ := preferred_perm hts
  have hft {t : Trunk} (hf : FirstLeast Trunk.id
      ((preferred Trunk.inboundAddresses call.address trunks).filter (·.takes call.number)) t) :
      FirstLeast Trunk.id ((preferred Trunk.inboundAddresses call.address trunks').filter
        (·.takes call.number)) t :=
    hf.of_subset (preferred_nodup ht _) (hc.filter _).subset ((hc.filter _).mem_iff.mpr hf.mem)
  have hfr {t : Trunk} {r : Rule} (hf : FirstLeast Rule.id (preferred Rule.trunkIds t.id rules) r) :
      FirstLeast Rule.id (preferred Rule.trunkIds t.id rules') r :=
    hf.of_subset (hr.sublist (preferred_sublist.map _)) (preferred_perm hrs).subset
      ((preferred_perm hrs).mem_iff.mpr hf.mem)
  cases h with
  | noTrunk hn => exact ⟨_, .noTrunk (List.perm_nil.mp (hn ▸ hc)), rfl⟩
  | @noPattern before t after fault hn hb hf =>
    obtain ⟨before', t', after', fault', hn', hb', hf'⟩ := exists_first_fault
      (preferred Trunk.inboundAddresses call.address trunks') fun hp => by
        have ht' := hp t (hc.mem_iff.mpr (by simp [hn]))
        rw [hf] at ht'
        cases ht'
    exact ⟨_, .noPattern hn' hb' hf', rfl⟩
  | @refused cs hn hne hp ha =>
    subst hn
    refine ⟨_, .refused rfl (fun he => hne ?_) (fun t h => hp t (hc.mem_iff.mp h))
      (fun t h => ha t (hc.mem_iff.mp h)), rfl⟩
    exact List.nil_perm.mp (he ▸ hc)
  | @noRule cs t hn hp hf hr' =>
    subst hn
    exact ⟨_, .noRule rfl (fun t h => hp t (hc.mem_iff.mp h)) (hft hf)
      (fun r h => hr' r (hrs.mem_iff.mp h)), rfl⟩
  | @anonymous cs t r start hn hp hf hf' hd hcaller =>
    subst hn
    exact ⟨_, .anonymous rfl (fun t h => hp t (hc.mem_iff.mp h)) (hft hf) (hfr hf') hd hcaller, rfl⟩
  | @routed cs t r hn hp hf hf' hcaller =>
    subst hn
    exact ⟨_, .routed rfl (fun t h => hp t (hc.mem_iff.mp h)) (hft hf) (hfr hf') hcaller, rfl⟩

/-- In any order of the trunks and the rules a call goes the same way, or fails for the same kind of
reason; and a decision stands whatever else is taken away, and whatever rules are put in that are
for other trunks. -/
theorem route_stable (call : Call) :
    (∀ trunks' rules', trunks'.Perm trunks → rules'.Perm rules →
      (route trunks' rules' call).mapError Failure.kind =
        (route trunks rules call).mapError Failure.kind) ∧
    ∀ d, route trunks rules call = .ok d →
      ∀ trunks' rules' others rules'', trunks' ⊆ trunks → (∃ t ∈ trunks', t.id = d.trunkId) →
        rules' ⊆ rules → (∃ r ∈ rules', r.id = d.ruleId) →
        (∀ r ∈ others, r.trunkIds ≠ [] ∧ d.trunkId ∉ r.trunkIds) →
        rules''.Perm (others ++ rules') → route trunks' rules'' call = .ok d := by
  refine ⟨fun trunks' rules' hts hrs => ?_, ?_⟩
  · obtain ⟨o, ho, hk⟩ := (routes_route trunks rules call).perm ht hr hts hrs
    rwa [ho.sound]
  · intro d hd trunks' rules' others rules'' hts htd hrs ⟨r, hrm, hid⟩ hothers hp
    refine Routes.sound (((route_eq_iff _ _ _ _).mp hd).of_subset ht hr hts htd ?_ ?_)
    · intro b hb
      rcases List.mem_append.mp (hp.mem_iff.mp hb) with hb | hb
      · exact .inr (hothers b hb)
      · exact .inl (hrs hb)
    · exact ⟨r, hp.mem_iff.mpr (List.mem_append_right _ hrm), hrs hrm, hid⟩

end

def paired : List Trunk :=
  [⟨"ST_2", ["192.0.2.1"], "", "", "", "", ""⟩, ⟨"ST_1", ["192.0.2.1"], "", "", "", "", ""⟩]

def overlapping : List Rule :=
  [⟨"SDR_1", .direct "hall", [], false⟩, ⟨"SDR_2", .direct "lobby", ["ST_1"], false⟩]

theorem route_stable_paired :
    let call : Call := ⟨"192.0.2.1", "+15550100", "+15550199"⟩
    let d : Decision := ⟨"ST_1", "SDR_2", "lobby", "sip_+15550199", some "+15550199"⟩
    let stale : Rule := ⟨"SDR_0", .direct "attic", ["ST_0"], false⟩
    (paired.map Trunk.id).Nodup ∧ (overlapping.map Rule.id).Nodup ∧
      route paired overlapping call = .ok d ∧
      (route paired.reverse overlapping.reverse call).mapError Failure.kind = .ok d ∧
      route paired.tail (stale :: overlapping.tail) call = .ok d := by
  intro call d stale
  have ht : (paired.map Trunk.id).Nodup := by decide
  have hr : (overlapping.map Rule.id).Nodup := by decide
  have hd : route paired overlapping call = .ok d := by rfl
  obtain ⟨hperm, hkeep⟩ := route_stable ht hr call
  refine ⟨ht, hr, hd, ?_, ?_⟩
  · rw [hperm _ _ (List.reverse_perm _) (List.reverse_perm _), hd]
    rfl
  · refine hkeep d hd _ overlapping.tail [stale] _ (List.tail_subset _) (by decide) (List.tail_subset _)
      (by decide) (by decide) (.refl _)

end Switchboard
