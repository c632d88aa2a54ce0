import Switchboard.Proofs.Service.Chronicle
import Switchboard.Proofs.Service.Grounds

/-! Where no id is given out twice, nothing is put under one id twice: what is gone is gone for
good. -/

namespace Switchboard.Service

open Store

variable {k : Kind} {id : String} {data data' : Text.Octets}

lemma Event.written_put {e : Event} (h : e.written = some (.put k id data)) :
    e = .asked (.store (.insert k id data)) (.ok ()) := by
  unfold Event.written Store.Request.written at h
  split at h
  · split at h <;> cases h
    rfl
  · cases h

lemma Event.written_drop {e : Event} (h : e.written = some (.drop k id)) :
    e = .asked (.store (.delete k id)) (.ok true) := by
  unfold Event.written Store.Request.written at h
  split at h
  · split at h <;> cases h
    rfl
  · cases h

namespace Scene

variable {moves us vs : List Move} {i j : ℕ}

lemma filterMap_unique {α β : Type} {f : α → Option β} {as : List α} (hn : (as.filterMap f).Nodup)
    {x y : α} {b : β} (hx : x ∈ as) (hy : y ∈ as) (hfx : f x = some b) (hfy : f y = some b) :
    x = y := by
  have : Std.Symm fun x y => ∀ b, f x = some b → ∀ b', f y = some b' → b ≠ b' :=
    ⟨fun x y h b hb b' hb' => (h b' hb' b hb).symm⟩
  rw [List.Nodup, List.pairwise_filterMap] at hn
  by_contra hxy
  exact hn.forall hx hy hxy b hfx b hfy rfl

lemma granted_unique (hn : (granted (play moves).events).Nodup) {start start' : String}
    (hi : (i, .allocated start id) ∈ opening.chronicle moves)
    (hj : (j, .allocated start' id) ∈ opening.chronicle moves) : i = j := by
  obtain ⟨g, hg, hid⟩ : ∃ g, granted = List.filterMap g ∧ ∀ start id,
      g (.allocated start id) = some id := ⟨_, rfl, fun _ _ => rfl⟩
  rw [hg, ((events_play moves).symm.filterMap g).nodup_iff, List.filterMap_map] at hn
  exact congrArg Prod.fst (filterMap_unique hn hi hj (hid start id) (hid start' id))

lemma granted_append (hn : (granted (play (us ++ vs)).events).Nodup) :
    (granted (play us).events).Nodup := by
  have hp (moves : List Move) : (granted (play moves).events).Nodup ↔
      (granted ((opening.chronicle moves).map Prod.snd)).Nodup :=
    ((events_play moves).symm.filterMap _).nodup_iff
  rw [hp, chronicle_append, List.map_append, granted, List.filterMap_append] at hn
  rw [hp]
  exact hn.of_append_left

lemma put_once (hn : (granted (play moves).events).Nodup) {before between after : List (ℕ × Event)}
    {x y : ℕ × Event} (hx : x.2.written = some (.put k id data))
    (hy : y.2.written = some (.put k id data'))
    (he : opening.chronicle moves = before ++ x :: (between ++ y :: after)) : False := by
  obtain ⟨i, e⟩ := x
  obtain ⟨j, f⟩ := y
  obtain rfl := Event.written_put hx
  obtain rfl := Event.written_put hy
  have he' : opening.chronicle moves =
      (before ++ (i, .asked (.store (.insert k id data)) (.ok ())) :: between) ++
        (j, .asked (.store (.insert k id data')) (.ok ())) :: after := by simp [he]
  obtain ⟨c, -, -, hc⟩ := may_of_asked Action.meets_grounds he
  obtain ⟨d, -, ho, hd⟩ := may_of_asked Action.meets_grounds he'
  obtain ⟨-, start, hi⟩ := hc.added k id data rfl
  obtain ⟨-, start', hj⟩ := hd.added k id data' rfl
  rw [List.mem_reverse, mem_doings] at hi hj
  -- the id was given out to one client, and that has written before
  obtain rfl : i = j := granted_unique hn
    (he ▸ List.mem_append_left _ hi) (he' ▸ List.mem_append_left _ hj)
  have hw : Write.put k id data ∈ writes (doings i
      (before ++ (i, .asked (.store (.insert k id data)) (.ok ())) :: between)).reverse :=
    List.mem_filterMap.mpr ⟨.asked (.store (.insert k id data)) (.ok ()),
      by rw [List.mem_reverse, mem_doings]; simp, rfl⟩
  simp [ho.1] at hw

lemma put_of_stored (hg : (play moves).memory.get? k id = some data) :
    ∃ x ∈ opening.chronicle moves, x.2.written = some (.put k id data) :=
  (get?_playOn hg).resolve_left (by cases k <;> nofun)

lemma not_put (hn : (granted (play (us ++ vs)).events).Nodup)
    (hg : (play us).memory.get? k id = some data) :
    ∀ x ∈ (play us).chronicle vs, ∀ data', x.2.written ≠ some (.put k id data') := by
  intro y hy data' hw'
  obtain ⟨x, hx, hw⟩ := put_of_stored hg
  obtain ⟨before, between, hu⟩ := List.append_of_mem hx
  obtain ⟨between', after, hv⟩ := List.append_of_mem hy
  have he : opening.chronicle (us ++ vs) =
      before ++ x :: ((between ++ between') ++ y :: after) := by
    rw [chronicle_append, hu, show opening.playOn us = play us from rfl, hv]
    simp
  exact put_once hn hw hw' he

lemma stays (hn : (granted (play (us ++ vs)).events).Nodup)
    (hg : (play us).memory.get? k id = some data)
    (hg' : ((play us).playOn vs).memory.get? k id = some data') {between : List Move}
    (hb : between <+: vs) : ((play us).playOn between).memory.get? k id = some data := by
  obtain ⟨ws, rfl⟩ := hb
  have hp := not_put hn hg
  rw [chronicle_append] at hp
  rw [playOn_append] at hg'
  rcases get?_playOn hg' with h | ⟨x, hx, hw⟩
  · rcases get?_playOn h with h₀ | ⟨x, hx, hw⟩
    · rwa [← hg, h₀]
    · exact absurd hw (hp x (List.mem_append_left _ hx) data')
  · exact absurd hw (hp x (List.mem_append_right _ hx) data')

lemma gone (hn : (granted (play (us ++ vs)).events).Nodup) {x : ℕ × Event}
    (hx : x ∈ opening.chronicle us) (hw : x.2.written = some (.drop k id)) :
    (play (us ++ vs)).memory.get? k id = none := by
  obtain ⟨before, after, hu⟩ := List.append_of_mem hx
  obtain ⟨us', v, ws, rfl, -, hv, -⟩ := play_split hu
  obtain ⟨⟨data, hg⟩, hm⟩ := event_written hv hw
  -- otherwise it would have stayed, across its own removal
  by_contra hs
  obtain ⟨data', hs⟩ := Option.ne_none_iff_exists'.mp hs
  rw [List.append_assoc, play_append] at hs
  rw [List.append_assoc] at hn
  have h : ((play us').move v).memory.get? k id = some data :=
    stays hn hg hs (List.prefix_append [v] (ws ++ vs))
  have hd : ((play us').move v).memory.get? k id = none := by simp [hm, Memory.get?_drop]
  exact absurd (hd.symm.trans h) nofun

lemma loaded_id {r : k.Record}
    (hx : (i, .asked (.store (.get k id)) (.ok (some data))) ∈ opening.chronicle moves)
    (hd : k.entity.decode data = .ok r) : k.entity.id r = id := by
  obtain ⟨before, after, he⟩ := List.append_of_mem hx
  obtain ⟨us, v, ws, rfl, -, hv, -⟩ := play_split he
  have hg : (play us).memory.get? k id = some data := Except.ok.inj (event_ok hv).1
  obtain ⟨r', hid, hd', -⟩ := (play_sound us).told.kept.stores hg
  obtain rfl := Except.ok.inj (hd'.symm.trans hd)
  exact hid

lemma dropped_of_deleted {c : Client} (hc : c ∈ (play moves).clients) (hd : c.deleted k id) :
    ∃ x ∈ opening.chronicle moves, x.2.written = some (.drop k id) := by
  obtain ⟨i, hi⟩ := List.getElem?_of_mem hc
  have hp : c.past = (doings i (opening.chronicle moves)).reverse := by
    rw [← pastOf_play, pastOf, hi]
    rfl
  have hmem (e : Event) (he : e ∈ c.past) : (i, e) ∈ opening.chronicle moves := by
    rwa [hp, List.mem_reverse, mem_doings] at he
  have hm := (play_sound moves).conduct c hc
  obtain ⟨a, plan, past⟩ := c
  obtain ⟨ht, hch⟩ : a.target? = some (k, id) ∧ (plan.result?.bind a.change?).isSome :=
    of_decide_eq_true hd
  cases plan with
  | done o =>
    obtain ⟨ch, hch⟩ := Option.isSome_iff_exists.mp hch
    have hcon : a.Concludes o past := hm
    have hw := hcon.wrote
    cases ch with
    | added l r => simp [Action.target?_of_added hch] at ht
    | removed l r =>
      obtain ⟨id', data, ht', hg, hdec⟩ := hcon.removed l r hch
      obtain ⟨rfl, rfl⟩ := Prod.mk.inj (Option.some.inj (ht'.symm.trans ht))
      have hid := loaded_id (hmem _ hg) hdec
      have hch' : a.change? o = some (.removed l r) := hch
      rw [hch', Option.map_some, Option.toList_some, Change.write, hid] at hw
      have hdrop : Write.drop l id' ∈ writes past := hw ▸ .head _
      obtain ⟨e, he, hew⟩ := List.mem_filterMap.mp hdrop
      exact ⟨(i, e), hmem e he, hew⟩
  | _ => cases hch

end Scene

end Switchboard.Service
