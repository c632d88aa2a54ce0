import Switchboard.Proofs.Service.Freshness

/-! How a rule comes to name a trunk that is gone. A rule looks its trunks up before it is inserted,
and who removes a trunk lists the rules before; each takes time, and in that time the other may
have its way. -/

namespace Switchboard.Service

open Store

lemma sublist_of_append {α : Type} (as bs cs ds : List α) (a b c : α) :
    [a, b, c].Sublist (as ++ a :: (bs ++ b :: (cs ++ c :: ds))) := by
  have hc : [c].Sublist (cs ++ c :: ds) := by simp
  have hb : [b, c].Sublist (bs ++ b :: (cs ++ c :: ds)) :=
    (hc.cons_cons b).trans (List.sublist_append_right bs _)
  exact (hb.cons_cons a).trans (List.sublist_append_right as _)

namespace Scene

variable {moves : List Move} {t : String} {r : Rule} {data : Text.Octets}

lemma listed_before (hn : (granted (play moves).events).Nodup) (ht : t ∈ r.trunkIds)
    (hg : (play moves).memory.get? .rule r.id = some data) (hd : ruleEntity.decode data = .ok r)
    {before between after : List (ℕ × Event)} {c d : ℕ}
    (he : opening.chronicle moves =
      before ++ (c, .asked (.store (.insert .rule r.id data)) (.ok ())) ::
        (between ++ (d, .asked (.store (.delete .trunk t)) (.ok true)) :: after)) :
    ∃ docs, (d, .asked (.store (.list .rule)) (.ok docs)) ∈ before := by
  have he' : opening.chronicle moves =
      (before ++ (c, .asked (.store (.insert .rule r.id data)) (.ok ())) :: between) ++
        (d, .asked (.store (.delete .trunk t)) (.ok true)) :: after := by simp [he]
  obtain ⟨_, -, -, hgr⟩ := may_of_asked Action.meets_grounds he'
  obtain ⟨docs, rules, hl, hdocs, hnot⟩ := hgr.unnamed t rfl
  rw [List.mem_reverse, mem_doings, List.mem_append, List.mem_cons] at hl
  rcases hl with hl | hl | hl
  · exact ⟨docs, hl⟩
  · cases hl
  -- had it listed them afterwards, the rule would have been among them
  exfalso
  obtain ⟨between', between'', rfl⟩ := List.append_of_mem hl
  obtain ⟨us, v, ws, rfl, -, hv, hws⟩ := play_split he
  rw [List.append_assoc, List.cons_append] at hws
  obtain ⟨us', v', ws', rfl, -, hv', -⟩ := chronicle_split hws
  obtain ⟨hf, hm⟩ := event_written hv rfl
  have hput : (play (us ++ [v])).memory.get? .rule r.id = some data := by
    simp [play_snoc, hm, Memory.get?_put hf]
  rw [List.append_cons] at hn hg
  have hstays : (play (us ++ [v] ++ us')).memory.get? .rule r.id = some data := by
    rw [play_append] at hg ⊢
    exact stays hn hput hg (List.prefix_append us' _)
  have hholds : (play (us ++ [v] ++ us')).memory.Holds .rule rules := by
    rw [← play_append] at hv'
    exact holds_of_listed hv' hdocs
  have hk := (play_sound (us ++ [v] ++ us')).told.kept
  exact hnot r ((hk.mem_iff hholds r).mpr ⟨data, hstays, hd⟩) ht

/-- A trunk that a stored rule names and that is not there was there when the rule's creation looked
it up. It went before the rule was inserted; or it went later, at the hands of one who had
listed the rules before. -/
theorem named_gone (hn : (granted (play moves).events).Nodup)
    (hr : (play moves).memory.Stores .rule r) (ht : t ∈ r.trunkIds)
    (hm : (play moves).memory.get? .trunk t = none) :
    ∃ c d found data,
      let looked := (c, Event.asked (.store (.get .trunk t)) (.ok (some found)))
      let inserted := (c, Event.asked (.store (.insert .rule r.id data)) (.ok ()))
      let removed := (d, Event.asked (.store (.delete .trunk t)) (.ok true))
      [looked, removed, inserted].Sublist (opening.chronicle moves) ∨
        [looked, inserted, removed].Sublist (opening.chronicle moves) ∧
          ∃ docs, [(d, Event.asked (.store (.list .rule)) (.ok docs)), inserted, removed].Sublist
            (opening.chronicle moves) := by
  obtain ⟨data, hg, hd⟩ : ∃ data, (play moves).memory.get? .rule r.id = some data ∧
    ruleEntity.decode data = .ok r := hr
  obtain ⟨⟨c, e⟩, hx, hw⟩ := put_of_stored hg
  obtain rfl := Event.written_put hw
  obtain ⟨before, after, he⟩ := List.append_of_mem hx
  obtain ⟨_, -, -, hgr⟩ := may_of_asked Action.meets_grounds he
  obtain ⟨found, hl⟩ := hgr.present r.id data r rfl hd t ht
  rw [List.mem_reverse, mem_doings] at hl
  obtain ⟨before', before'', rfl⟩ := List.append_of_mem hl
  rw [List.append_assoc, List.cons_append] at he
  obtain ⟨us, v, ws, rfl, -, hv, hws⟩ := play_split he
  obtain ⟨hlook, hsame⟩ := event_ok hv
  have hthere : (play (us ++ [v])).memory.get? .trunk t = some found := by
    rw [play_snoc, hsame]
    exact Except.ok.inj hlook
  rw [List.append_cons, play_append] at hm
  -- so it was removed since
  rcases get?_playOn_of_get? hthere with h | ⟨⟨d, e⟩, hy, hw'⟩
  · exact absurd (hm.symm.trans h) nofun
  obtain rfl := Event.written_drop hw'
  refine ⟨c, d, found, data, ?_⟩
  rw [hws] at hy
  rcases List.mem_append.mp hy with hy | hy
  · obtain ⟨bs, cs, rfl⟩ := List.append_of_mem hy
    rw [List.append_assoc, List.cons_append] at he
    rw [he]
    exact .inl (sublist_of_append before' bs cs after _ _ _)
  · obtain hy | hy := List.mem_cons.mp hy
    · cases hy
    obtain ⟨as, bs, rfl⟩ := List.append_of_mem hy
    have he' : opening.chronicle (us ++ v :: ws) =
        (before' ++ (c, .asked (.store (.get .trunk t)) (.ok (some found))) :: before'') ++
          (c, .asked (.store (.insert .rule r.id data)) (.ok ())) ::
            (as ++ (d, .asked (.store (.delete .trunk t)) (.ok true)) :: bs) := by simp [he]
    obtain ⟨docs, hdocs⟩ := listed_before hn ht hg hd he'
    obtain ⟨cs, ds, hcs⟩ := List.append_of_mem hdocs
    refine .inr ⟨?_, docs, ?_⟩
    · rw [he]
      exact sublist_of_append before' before'' as bs _ _ _
    · rw [he', hcs, List.append_assoc, List.cons_append]
      exact sublist_of_append cs ds as bs _ _ _

def lobbyRule : Rule := ⟨"SDR_1", .direct "lobby", ["ST_1"], false⟩

/-- A trunk is created, its deletion lists the rules, and a rule for it is created. -/
def answered : List Move :=
  [.start false (.createTrunk ⟨[], "", "", "", "", ""⟩), .turn 0 (.grant "ST_1"), .turn 0 .serve,
    .turn 0 .log, .start false (.deleteTrunk "ST_1"), .turn 1 .serve,
    .start false (.createRule ⟨.direct "lobby", ["ST_1"], false⟩), .turn 2 (.grant "SDR_1"),
    .turn 2 .serve, .turn 2 .serve, .turn 2 .log]

def overtaken : List Move := answered ++ [.turn 1 .serve, .turn 1 .serve, .turn 1 .log]

lemma overtaken_granted : (granted (play overtaken).events).Nodup := by decide +kernel

lemma overtaken_stores : (play overtaken).memory.Stores .rule lobbyRule :=
  ⟨Kind.rule.document lobbyRule, by decide +kernel, decode_document (k := .rule) trivial⟩

lemma overtaken_gone : (play overtaken).memory.get? .trunk "ST_1" = none := by decide +kernel

theorem named_gone_overtaken :
    ∃ c d found data,
      let looked := (c, Event.asked (.store (.get .trunk "ST_1")) (.ok (some found)))
      let inserted := (c, Event.asked (.store (.insert .rule "SDR_1" data)) (.ok ()))
      let removed := (d, Event.asked (.store (.delete .trunk "ST_1")) (.ok true))
      [looked, removed, inserted].Sublist (opening.chronicle overtaken) ∨
        [looked, inserted, removed].Sublist (opening.chronicle overtaken) ∧
          ∃ docs, [(d, Event.asked (.store (.list .rule)) (.ok docs)), inserted, removed].Sublist
            (opening.chronicle overtaken) :=
  named_gone overtaken_granted overtaken_stores (by decide) overtaken_gone

theorem overtaken_removed_after_creation :
    (granted (play overtaken).events).Nodup ∧ (play overtaken).memory.Stores .rule lobbyRule ∧
      "ST_1" ∈ lobbyRule.trunkIds ∧ (play overtaken).memory.get? .trunk "ST_1" = none ∧
      (∃ c ∈ (play answered).clients, c.created .rule "SDR_1") ∧
      ((play answered).memory.get? .trunk "ST_1").isSome ∧
      ∀ c d found data,
        let looked := (c, Event.asked (.store (.get .trunk "ST_1")) (.ok (some found)))
        let inserted := (c, Event.asked (.store (.insert .rule "SDR_1" data)) (.ok ()))
        let removed := (d, Event.asked (.store (.delete .trunk "ST_1")) (.ok true))
        ¬[looked, removed, inserted].Sublist (opening.chronicle overtaken) := by
  refine ⟨overtaken_granted, overtaken_stores, by decide, overtaken_gone, by decide +kernel,
    by decide +kernel, ?_⟩
  intro c d found data looked inserted removed hs
  -- of what was written, the trunk's removal came last
  have hw := hs.filterMap fun x => x.2.written.map (Write.drops .trunk "ST_1")
  have hlast : (opening.chronicle overtaken).filterMap
      (fun x => x.2.written.map (Write.drops .trunk "ST_1")) = [false, false, true] := by
    decide +kernel
  rw [hlast] at hw
  have hwrites : [true, false].Sublist [false, false, true] := hw
  exact absurd hwrites (by decide)

end Scene

end Switchboard.Service
