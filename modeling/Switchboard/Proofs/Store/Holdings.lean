import Switchboard.Proofs.Store.Changes

/-! A store answers as a finite map from kinds and ids to documents does, whatever it was asked
before. -/

namespace Switchboard.Store

open Switchboard.Text

def NotAfter (a b : String) : Prop := octets a ≤ octets b

instance : DecidableRel NotAfter := fun a b => inferInstanceAs (Decidable (octets a ≤ octets b))

instance : IsTrans String NotAfter where
  trans _ _ _ := List.le_trans

instance : Std.Antisymm NotAfter where
  antisymm _ _ h h' := octets_injective (List.le_antisymm h h')

instance : Std.Total NotAfter where
  total a b := List.le_total (octets a) (octets b)

lemma precedes_of_notAfter {a b : String} (h : NotAfter a b) (hne : a ≠ b) :
    precedes a b = true := by
  by_contra hp
  have hb := (precedes_iff b a).mp (precedes_of_not hne (by simpa using hp))
  exact List.not_lt.mpr h hb

abbrev Holdings := Finmap fun _ : Kind × String => Octets

abbrev Reply := (r : Request) × Outcome r.Answer

namespace Holdings

def ids (h : Holdings) (k : Kind) : List String :=
  ((h.keys.filter (·.1 = k)).image Prod.snd).sort NotAfter

def documents (h : Holdings) (k : Kind) : List Octets :=
  (h.ids k).filterMap fun id => h.lookup (k, id)

def serve (h : Holdings) : (r : Request) → Outcome r.Answer × Holdings
  | .get k id => (.ok (h.lookup (k, id)), h)
  | .insert k id data =>
    if (k, id) ∈ h then (.error (.alreadyExists (k.title id)), h)
    else (.ok (), h.insert (k, id) data)
  | .delete k id => (.ok (decide ((k, id) ∈ h)), h.erase (k, id))
  | .list k => (.ok (h.documents k), h)
  | .ping => (.ok (), h)

def replies (h : Holdings) : List Request → List Reply
  | [] => []
  | r :: rs => ⟨r, (h.serve r).1⟩ :: replies (h.serve r).2 rs

lemma mem_ids (h : Holdings) (k : Kind) (id : String) : id ∈ h.ids k ↔ (k, id) ∈ h := by
  simp only [ids, Finset.mem_sort, Finset.mem_image, Finset.mem_filter, Finmap.mem_keys]
  constructor
  · rintro ⟨⟨l, other⟩, ⟨hm, rfl⟩, rfl⟩
    exact hm
  · intro hm
    exact ⟨(k, id), ⟨hm, rfl⟩, rfl⟩

lemma ids_ascending (h : Holdings) (k : Kind) :
    (h.ids k).Pairwise fun a b => precedes a b = true := by
  have hs : (h.ids k).Pairwise NotAfter := Finset.pairwise_sort _ _
  have hn : (h.ids k).Nodup := Finset.sort_nodup _ _
  exact hs.imp₂ (fun _ _ => precedes_of_notAfter) hn

lemma lookup_insert_if (h : Holdings) (k l : Kind) (id other : String) (data : Octets) :
    (h.insert (k, id) data).lookup (l, other) =
      if l = k ∧ other = id then some data else h.lookup (l, other) := by
  by_cases hk : l = k ∧ other = id
  · obtain ⟨rfl, rfl⟩ := hk
    rw [Finmap.lookup_insert, if_pos ⟨rfl, rfl⟩]
  · rw [if_neg hk, Finmap.lookup_insert_of_ne]
    exact fun he => hk (Prod.mk.inj he)

lemma lookup_erase_if (h : Holdings) (k l : Kind) (id other : String) :
    (h.erase (k, id)).lookup (l, other) =
      if l = k ∧ other = id then none else h.lookup (l, other) := by
  by_cases hk : l = k ∧ other = id
  · obtain ⟨rfl, rfl⟩ := hk
    rw [Finmap.lookup_erase, if_pos ⟨rfl, rfl⟩]
  · rw [if_neg hk, Finmap.lookup_erase_ne]
    exact fun he => hk (Prod.mk.inj he)

end Holdings

namespace Memory

def replies (m : Memory) : List Request → List Reply
  | [] => []
  | r :: rs => ⟨r, (m.serve r).outcome⟩ :: replies (m.serve r).store rs

def after (m : Memory) (rs : List Request) : Memory := rs.foldl (fun m r => (m.serve r).store) m

structure Represents (m : Memory) (h : Holdings) : Prop where
  ordered : ∀ k, (m.table k).Ordered
  held : ∀ k id, m.get? k id = h.lookup (k, id)

namespace Represents

variable {m : Memory} {h : Holdings}

lemma empty : Represents .empty ∅ where
  ordered k := by cases k <;> exact Table.empty_ordered
  held k id := by
    rw [Finmap.lookup_empty]
    cases k <;> rfl

lemma contains_iff (hm : m.Represents h) (k : Kind) (id : String) :
    (m.table k).contains id = true ↔ (k, id) ∈ h := by
  rw [Table.contains, ← Memory.get?, hm.held, Finmap.lookup_isSome]

lemma entry_iff (hm : m.Represents h) (k : Kind) (id : String) (data : Octets) :
    (id, data) ∈ (m.table k).entries ↔ h.lookup (k, id) = some data := by
  rw [← hm.held, Memory.get?, Table.get?_eq_some_iff (hm.ordered k)]

lemma ids (hm : m.Represents h) (k : Kind) : (m.table k).entries.map Prod.fst = h.ids k := by
  have ho : ((m.table k).entries.map Prod.fst).Pairwise fun a b => precedes a b = true :=
    List.pairwise_map.mpr (hm.ordered k)
  have hi : Std.Irrefl fun a b : String => precedes a b = true := ⟨by simp [precedes_irrefl]⟩
  have ha : Std.Antisymm fun a b : String => precedes a b = true :=
    ⟨fun a b hab hba => absurd hba (by simp [precedes_asymm hab])⟩
  refine ho.eq_of_mem_iff (h.ids_ascending k) fun id => ?_
  rw [Holdings.mem_ids, Finmap.mem_iff, List.mem_map]
  constructor
  · rintro ⟨⟨_, data⟩, he, rfl⟩
    exact ⟨data, (hm.entry_iff k _ data).mp he⟩
  · rintro ⟨data, hd⟩
    exact ⟨(id, data), (hm.entry_iff k id data).mpr hd, rfl⟩

lemma documents (hm : m.Represents h) (k : Kind) : (m.table k).documents = h.documents k := by
  rw [Table.documents, Holdings.documents, ← hm.ids, List.filterMap_map, ← List.filterMap_eq_map]
  refine List.filterMap_congr fun e he => ?_
  exact ((hm.entry_iff k e.1 e.2).mp he).symm

lemma put (hm : m.Represents h) {k : Kind} {id : String} (hf : m.get? k id = none) (data : Octets) :
    ((Write.put k id data).apply m).Represents (h.insert (k, id) data) where
  ordered l := by
    by_cases hl : l = k
    · subst hl
      simpa [Write.apply] using Table.insert_ordered (hm.ordered l) hf data
    · simpa [Write.apply, hl] using hm.ordered l
  held l other := by rw [Memory.get?_put hf, Holdings.lookup_insert_if, hm.held]

lemma drop (hm : m.Represents h) (k : Kind) (id : String) :
    ((Write.drop k id).apply m).Represents (h.erase (k, id)) where
  ordered l := by
    by_cases hl : l = k
    · subst hl
      simpa [Write.apply] using Table.erase_ordered (hm.ordered l) id
    · simpa [Write.apply, hl] using hm.ordered l
  held l other := by rw [Memory.get?_drop, Holdings.lookup_erase_if, hm.held]

lemma erase_absent (hm : m.Represents h) {k : Kind} {id : String} (hn : (k, id) ∉ h) :
    m.Represents (h.erase (k, id)) where
  ordered := hm.ordered
  held l other := by
    rw [Holdings.lookup_erase_if, hm.held]
    split_ifs with hk
    · obtain ⟨rfl, rfl⟩ := hk
      exact Finmap.lookup_eq_none.mpr hn
    · rfl

lemma serve (hm : m.Represents h) (r : Request) :
    (m.serve r).outcome = (h.serve r).1 ∧ (m.serve r).store.Represents (h.serve r).2 := by
  cases r with
  | get k id => exact ⟨congrArg Except.ok (hm.held k id), hm⟩
  | insert k id data =>
    by_cases hc : (k, id) ∈ h
    · have ht := (hm.contains_iff k id).mpr hc
      simp only [Memory.serve, Holdings.serve, if_pos ht, if_pos hc]
      exact ⟨trivial, hm⟩
    · have ht : (m.table k).contains id ≠ true := fun ht => hc ((hm.contains_iff k id).mp ht)
      simp only [Memory.serve, Holdings.serve, if_neg ht, if_neg hc]
      exact ⟨trivial, hm.put ((hm.held k id).trans (Finmap.lookup_eq_none.mpr hc)) data⟩
  | delete k id =>
    by_cases hc : (k, id) ∈ h
    · have ht := (hm.contains_iff k id).mpr hc
      simp only [Memory.serve, Holdings.serve, if_pos ht, decide_eq_true hc]
      exact ⟨trivial, hm.drop k id⟩
    · have ht : (m.table k).contains id ≠ true := fun ht => hc ((hm.contains_iff k id).mp ht)
      simp only [Memory.serve, Holdings.serve, if_neg ht, decide_eq_false hc]
      exact ⟨trivial, hm.erase_absent hc⟩
  | list k => exact ⟨congrArg Except.ok (hm.documents k), hm⟩
  | ping => exact ⟨rfl, hm⟩

lemma replies (hm : m.Represents h) (rs : List Request) : m.replies rs = h.replies rs := by
  induction rs generalizing m h with
  | nil => rfl
  | cons r rs ih =>
    obtain ⟨ho, hs⟩ := hm.serve r
    rw [Memory.replies, Holdings.replies, ho, ih hs]

end Represents

lemma represented_after (rs : List Request) : ∃ h, (empty.after rs).Represents h := by
  suffices hg : ∀ m h, Represents m h → ∃ h, (m.after rs).Represents h from hg _ _ .empty
  induction rs with
  | nil => exact fun m h hm => ⟨h, hm⟩
  | cons r rs ih => exact fun m h hm => ih _ _ (hm.serve r).2

lemma after_append (m : Memory) (rs rs' : List Request) :
    m.after (rs ++ rs') = (m.after rs).after rs' := List.foldl_append

lemma replies_append (m : Memory) (rs rs' : List Request) :
    m.replies (rs ++ rs') = m.replies rs ++ (m.after rs).replies rs' := by
  induction rs generalizing m with
  | nil => rfl
  | cons r rs ih => rw [List.cons_append, replies, replies, ih, List.cons_append]; rfl

/-! ### What was put last -/

def Untouched (k : Kind) (id : String) (past : List Reply) : Prop :=
  (∀ data, ⟨.insert k id data, .ok ()⟩ ∉ past) ∧ ⟨.delete k id, .ok true⟩ ∉ past

def LastPut (k : Kind) (id : String) (data : Octets) (past : List Reply) : Prop :=
  ∃ earlier later, past = earlier ++ ⟨.insert k id data, .ok ()⟩ :: later ∧ Untouched k id later

variable {k : Kind} {id : String} {data : Octets}

lemma untouched_snoc {past : List Reply} {x : Reply} :
    Untouched k id (past ++ [x]) ↔ Untouched k id past ∧ Untouched k id [x] := by
  simp only [Untouched, List.mem_append, not_or, forall_and]
  tauto

lemma lastPut_snoc {past : List Reply} {x : Reply} :
    LastPut k id data (past ++ [x]) ↔
      x = ⟨.insert k id data, .ok ()⟩ ∨ LastPut k id data past ∧ Untouched k id [x] := by
  constructor
  · rintro ⟨earlier, later, he, hu⟩
    induction later using List.reverseRecOn with
    | nil => exact .inl (List.append_inj_right' he rfl |> List.singleton_inj.mp)
    | append_singleton later y _ =>
      rw [← List.cons_append, ← List.append_assoc] at he
      obtain ⟨rfl, hy⟩ := List.append_inj' he rfl
      obtain rfl := List.singleton_inj.mp hy
      obtain ⟨hl, hx⟩ := untouched_snoc.mp hu
      exact .inr ⟨⟨earlier, later, rfl, hl⟩, hx⟩
  · rintro (rfl | ⟨⟨earlier, later, rfl, hl⟩, hx⟩)
    · exact ⟨past, [], rfl, by simp [Untouched]⟩
    · exact ⟨earlier, later ++ [x], by simp, untouched_snoc.mpr ⟨hl, hx⟩⟩

lemma untouched_single (r : Request) (o : Outcome r.Answer) :
    Untouched k id [⟨r, o⟩] ↔
      ∀ w, r.written o = some w → w.puts k id = false ∧ w.drops k id = false := by
  cases r with
  | insert l other data' =>
    cases o with
    | ok u =>
      have hw : (Request.insert l other data').written (.ok u) = some (.put l other data') := rfl
      simp only [Untouched, hw, Option.some.injEq, forall_eq', Write.puts, Write.drops]
      grind
    | error f =>
      have hw : (Request.insert l other data').written (.error f) = none := written_error _ f
      simp [Untouched, hw]
  | delete l other =>
    cases o with
    | ok b =>
      cases b with
      | false => simp [Untouched, Request.written]
      | true =>
        have hw : (Request.delete l other).written (.ok true) = some (.drop l other) := rfl
        simp only [Untouched, hw, Option.some.injEq, forall_eq', Write.puts, Write.drops]
        grind
    | error f =>
      have hw : (Request.delete l other).written (.error f) = none := written_error _ f
      simp [Untouched, hw]
  | get l other => simp [Untouched, Request.written]
  | list l => simp [Untouched, Request.written]
  | ping => simp [Untouched, Request.written]

lemma written_insert {l : Kind} {other : String} {data' : Octets} {o : Outcome Unit} {w : Write}
    (h : (Request.insert l other data').written o = some w) : o = .ok () := by
  cases o with
  | ok u => rfl
  | error f => exact absurd (written_error (.insert l other data') f ▸ h) (by simp)

lemma get?_served (m : Memory) (r : Request) :
    (m.serve r).store.get? k id = some data ↔
      (⟨r, (m.serve r).outcome⟩ : Reply) = ⟨.insert k id data, .ok ()⟩ ∨
        m.get? k id = some data ∧ Untouched k id [⟨r, (m.serve r).outcome⟩] := by
  rw [untouched_single]
  cases hw : r.written (m.serve r).outcome with
  | none =>
    have hx : (⟨r, (m.serve r).outcome⟩ : Reply) ≠ ⟨.insert k id data, .ok ()⟩ := by
      intro hx
      obtain ⟨rfl, ho⟩ := Sigma.mk.inj hx
      rw [eq_of_heq ho] at hw
      cases hw
    simp [serve_unwritten hw, hx]
  | some w =>
    cases w with
    | put l other data' =>
      obtain ⟨rfl, hf, hs⟩ := serve_put hw
      rw [written_insert hw, hs, get?_put hf]
      by_cases hk : k = l ∧ id = other
      · obtain ⟨rfl, rfl⟩ := hk
        rw [if_pos ⟨rfl, rfl⟩, hf]
        constructor
        · intro hd
          obtain rfl := Option.some.inj hd
          exact .inl rfl
        · rintro (hx | ⟨hd, -⟩)
          · rw [(Request.insert.inj (Sigma.mk.inj hx).1).2.2]
          · cases hd
      · have hp : Write.puts k id (.put l other data') = false := by
          simp only [Write.puts, decide_eq_false_iff_not]
          exact fun he => hk ⟨he.1.symm, he.2.symm⟩
        have hx : (⟨.insert l other data', .ok ()⟩ : Reply) ≠ ⟨.insert k id data, .ok ()⟩ := by
          intro hx
          obtain ⟨rfl, rfl, -⟩ := Request.insert.inj (Sigma.mk.inj hx).1
          exact hk ⟨rfl, rfl⟩
        rw [if_neg hk]
        constructor
        · intro hg
          refine .inr ⟨hg, fun w hw => ?_⟩
          obtain rfl := Option.some.inj hw
          exact ⟨hp, rfl⟩
        · rintro (he | ⟨hg, -⟩)
          · exact absurd he hx
          · exact hg
    | drop l other =>
      obtain ⟨rfl, hf, hs⟩ := serve_drop hw
      rw [hs, get?_drop]
      by_cases hk : k = l ∧ id = other
      · obtain ⟨rfl, rfl⟩ := hk
        simp [Write.drops]
      · have hp : Write.drops k id (.drop l other) = false := by
          simp only [Write.drops, decide_eq_false_iff_not]
          exact fun he => hk ⟨he.1.symm, he.2.symm⟩
        simp [hk, hp, Write.puts]

lemma get?_after (rs : List Request) :
    (empty.after rs).get? k id = some data ↔ LastPut k id data (empty.replies rs) := by
  induction rs using List.reverseRecOn generalizing data with
  | nil =>
    have hn : empty.get? k id = none := by cases k <;> rfl
    simp [after, replies, LastPut, hn]
  | append_singleton rs r ih =>
    rw [after_append, replies_append, replies, replies, lastPut_snoc, ← ih]
    exact get?_served _ r

/-! ### Kinds apart -/

lemma kind_of_written {r : Request} {o : Outcome r.Answer} {w : Write}
    (h : r.written o = some w) : r.kind? = some w.kind := by
  cases r with
  | insert l other data =>
    obtain rfl := written_insert h
    exact congrArg (some ∘ Write.kind) (Option.some.inj h)
  | delete l other =>
    cases o with
    | ok b => cases b <;> cases h; rfl
    | error f => exact absurd (written_error (.delete l other) f ▸ h) (by simp)
  | get l other => cases h
  | list l => cases h
  | ping => cases h

lemma serve_same {m m' : Memory} {r : Request} (hr : r.kind? = some k)
    (h : m.table k = m'.table k) :
    (m.serve r).outcome = (m'.serve r).outcome ∧
      (m.serve r).store.table k = (m'.serve r).store.table k := by
  cases r with
  | ping => cases hr
  | get l id =>
    obtain rfl := Option.some.inj hr
    simp only [serve, h, and_self]
  | list l =>
    obtain rfl := Option.some.inj hr
    simp only [serve, h, and_self]
  | insert l id data =>
    obtain rfl := Option.some.inj hr
    simp only [serve, h]
    split_ifs <;> simp [h]
  | delete l id =>
    obtain rfl := Option.some.inj hr
    simp only [serve, h]
    split_ifs <;> simp [h]

lemma serve_apart (m : Memory) {r : Request} (hr : r.kind? ≠ some k) :
    (m.serve r).store.table k = m.table k := by
  cases hw : r.written (m.serve r).outcome with
  | none => rw [serve_unwritten hw]
  | some w =>
    rw [(Write.fits_of_serve hw).2, Write.table_apply]
    rintro rfl
    exact hr (kind_of_written hw)

lemma replies_kind {m m' : Memory} (h : m.table k = m'.table k) (rs : List Request) :
    (m.replies rs).filter (·.1.kind? = some k) = m'.replies (rs.filter (·.kind? = some k)) := by
  induction rs generalizing m m' with
  | nil => rfl
  | cons r rs ih =>
    by_cases hr : r.kind? = some k
    · obtain ⟨ho, ht⟩ := serve_same hr h
      rw [List.filter_cons_of_pos (by simpa using hr), replies, replies,
        List.filter_cons_of_pos (by simpa using hr), ho, ih ht]
    · rw [List.filter_cons_of_neg (by simpa using hr), replies,
        List.filter_cons_of_neg (by simpa using hr)]
      exact ih ((serve_apart m hr).trans h)

/-! ### Insertions in any order -/

def insertions (es : List (Kind × String × Octets)) : List Request :=
  es.map fun e => .insert e.1 e.2.1 e.2.2

def address (e : Kind × String × Octets) : Kind × String := (e.1, e.2.1)

lemma get?_insertion (m : Memory) (l : Kind) (other : String) (data' : Octets) (k : Kind)
    (id : String) :
    (m.serve (.insert l other data')).store.get? k id =
      if k = l ∧ id = other then some ((m.get? k id).getD data') else m.get? k id := by
  by_cases hc : (m.table l).contains other = true
  · obtain ⟨data, hd⟩ := Option.isSome_iff_exists.mp hc
    simp only [serve, if_pos hc]
    split_ifs with hk
    · obtain ⟨rfl, rfl⟩ := hk
      rw [get?, hd, Option.getD_some]
    · rfl
  · have hf : m.get? l other = none := (Table.contains_eq_false _ _).mp (by simpa using hc)
    simp only [serve, if_neg hc]
    refine (get?_put hf data' k id).trans ?_
    split_ifs with hk
    · obtain ⟨rfl, rfl⟩ := hk
      rw [hf, Option.getD_none]
    · rfl

lemma outcome_insertion {m m' : Memory} (h : m.get? k id = m'.get? k id) (data : Octets) :
    (m.serve (.insert k id data)).outcome = (m'.serve (.insert k id data)).outcome := by
  have hc : (m.table k).contains id = (m'.table k).contains id := congrArg Option.isSome h
  simp only [serve, hc]
  split_ifs <;> rfl

lemma get?_insertions {m : Memory} {es : List (Kind × String × Octets)}
    (hn : (es.map address).Nodup) : (m.after (insertions es)).get? k id = some data ↔
      m.get? k id = some data ∨ m.get? k id = none ∧ (k, id, data) ∈ es := by
  induction es generalizing m with
  | nil => simp [insertions, after]
  | cons e es ih =>
    obtain ⟨l, other, data'⟩ := e
    obtain ⟨he, hes⟩ := List.nodup_cons.mp hn
    have hi := ih (m := (m.serve (.insert l other data')).store) hes
    rw [get?_insertion] at hi
    refine hi.trans ?_
    by_cases hk : k = l ∧ id = other
    · obtain ⟨rfl, rfl⟩ := hk
      have ha : (k, id, data) ∉ es := fun hm => he (List.mem_map.mpr ⟨_, hm, rfl⟩)
      cases hg : m.get? k id with
      | none => simp [ha, eq_comm]
      | some data'' => simp [ha]
    · have hm : (k, id, data) ∈ (l, other, data') :: es ↔ (k, id, data) ∈ es := by
        rw [List.mem_cons, or_iff_right]
        exact fun he => hk ⟨congrArg Prod.fst he, congrArg (fun e => e.2.1) he⟩
      rw [if_neg hk, hm]

lemma replies_insertions {m : Memory} {es : List (Kind × String × Octets)}
    (hn : (es.map address).Nodup) :
    m.replies (insertions es) = (insertions es).map fun r => ⟨r, (m.serve r).outcome⟩ := by
  induction es generalizing m with
  | nil => rfl
  | cons e es ih =>
    obtain ⟨l, other, data⟩ := e
    obtain ⟨he, hes⟩ := List.nodup_cons.mp hn
    have hi := ih (m := (m.serve (.insert l other data)).store) hes
    rw [insertions, List.map_cons, List.map_cons, replies]
    refine congrArg _ (hi.trans (List.map_congr_left fun r hr => ?_))
    obtain ⟨⟨k, id, data'⟩, hm, rfl⟩ := List.mem_map.mp hr
    have hk : ¬ (k = l ∧ id = other) := by
      rintro ⟨rfl, rfl⟩
      exact he (List.mem_map.mpr ⟨_, hm, rfl⟩)
    have hg := get?_insertion m l other data k id
    rw [if_neg hk] at hg
    rw [outcome_insertion hg]

lemma insertions_perm (rs : List Request) {es es' : List (Kind × String × Octets)}
    (hn : (es.map address).Nodup) (hp : es.Perm es') :
    ((empty.after rs).replies (insertions es)).Perm ((empty.after rs).replies (insertions es')) ∧
      ∀ more, (empty.after (rs ++ insertions es)).replies more =
        (empty.after (rs ++ insertions es')).replies more := by
  have hn' : (es'.map address).Nodup := ((hp.map address).nodup_iff).mp hn
  constructor
  · rw [replies_insertions hn, replies_insertions hn']
    exact (hp.map _).map _
  · intro more
    obtain ⟨h, hh⟩ := represented_after (rs ++ insertions es)
    obtain ⟨h', hh'⟩ := represented_after (rs ++ insertions es')
    have he : h = h' := by
      refine Finmap.ext_lookup fun ⟨k, id⟩ => Option.ext fun data => ?_
      rw [← hh.held, ← hh'.held, after_append, after_append, get?_insertions hn,
        get?_insertions hn', hp.mem_iff]
    rw [hh.replies, hh'.replies, he]

/-- The store answers as a finite map does. What it finds is what was put last and not removed
since; it lists just what it would find, ascending by id; requests of one kind are answered as if
there were no others; and the order of insertions under different ids does not matter. -/
theorem replies_eq_holdings (rs : List Request) :
    let m := empty.after rs
    empty.replies rs = Holdings.replies ∅ rs ∧
    (∀ k id data, (m.serve (.get k id)).outcome = .ok (some data) ↔
      LastPut k id data (empty.replies rs)) ∧
    (∀ k, ∃ listed : List (String × Octets),
      (listed.map Prod.fst).Pairwise (fun a b => precedes a b = true) ∧
        (∀ id data, (id, data) ∈ listed ↔ (m.serve (.get k id)).outcome = .ok (some data)) ∧
        (m.serve (.list k)).outcome = .ok (listed.map Prod.snd)) ∧
    (∀ k, (empty.replies rs).filter (·.1.kind? = some k) =
      empty.replies (rs.filter (·.kind? = some k))) ∧
    ∀ es es', (es.map address).Nodup → es.Perm es' →
      (m.replies (insertions es)).Perm (m.replies (insertions es')) ∧
        ∀ more, (m.after (insertions es)).replies more =
          (m.after (insertions es')).replies more := by
  intro m
  have hfound (k : Kind) (id : String) (data : Octets) :
      (m.serve (.get k id)).outcome = .ok (some data) ↔ m.get? k id = some data := by
    rw [serve_get, Except.ok.injEq]
  obtain ⟨h, hm⟩ := represented_after rs
  refine ⟨Represents.empty.replies rs, ?_, fun k => ⟨(m.table k).entries, ?_, ?_, rfl⟩, ?_, ?_⟩
  · exact fun k id data => (hfound k id data).trans (get?_after rs)
  · exact List.pairwise_map.mpr (hm.ordered k)
  · intro id data
    rw [hfound, hm.entry_iff, hm.held]
  · exact fun k => replies_kind rfl rs
  · intro es es' hn hp
    simpa only [after_append] using insertions_perm rs hn hp

theorem replies_eq_holdings_swapped :
    let m := empty.after
      [.insert .trunk "ST_b" [1], .insert .rule "ST_a" [2], .delete .trunk "ST_b"]
    let es := [(.trunk, "ST_b", [3]), (.trunk, "ST_B", [4]), (.rule, "ST_b", [5])]
    (es.map address).Nodup ∧ es.Perm es.reverse ∧
      (m.after (insertions es)).replies [.list .trunk] =
        (m.after (insertions es.reverse)).replies [.list .trunk] ∧
      ((m.after (insertions es)).serve (.list .trunk)).outcome = .ok [[4], [3]] := by
  intro m es
  have hn : (es.map address).Nodup := by decide
  have hp : es.Perm es.reverse := (List.reverse_perm es).symm
  obtain ⟨-, -, -, -, ho⟩ := replies_eq_holdings
    [.insert .trunk "ST_b" [1], .insert .rule "ST_a" [2], .delete .trunk "ST_b"]
  exact ⟨hn, hp, (ho es es.reverse hn hp).2 _, by rfl⟩

end Memory

end Switchboard.Store
