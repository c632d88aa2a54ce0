import Mathlib.Data.List.Nodup
import Switchboard.Registry.Rule

/-! A rule is for the trunks that were asked for, each named once, in the order in which they were
first named. So a rule that was asked for some trunks is never for every trunk. -/

namespace Switchboard

structure FirstOccurrences (ids kept : List String) : Prop where
  nodup : kept.Nodup
  mem_iff : ∀ id, id ∈ kept ↔ id ∈ ids
  ordered : kept.Pairwise fun a b => ids.idxOf a < ids.idxOf b

namespace FirstOccurrences

variable {ids kept seen : List String} {id : String}

lemma nil : FirstOccurrences [] [] := ⟨.nil, fun _ => .rfl, .nil⟩

lemma ordered_concat (h : FirstOccurrences ids kept) (id : String) :
    kept.Pairwise fun a b => (ids ++ [id]).idxOf a < (ids ++ [id]).idxOf b := by
  refine h.ordered.imp_of_mem fun {a b} ha hb hab => ?_
  rwa [List.idxOf_append_of_mem ((h.mem_iff a).mp ha),
    List.idxOf_append_of_mem ((h.mem_iff b).mp hb)]

lemma again (h : FirstOccurrences ids kept) (hid : id ∈ ids) :
    FirstOccurrences (ids ++ [id]) kept where
  nodup := h.nodup
  mem_iff other := by
    rw [h.mem_iff, List.mem_append, List.mem_singleton]
    exact ⟨.inl, fun hm => hm.elim (fun ho => ho) fun he => he ▸ hid⟩
  ordered := h.ordered_concat id

lemma fresh (h : FirstOccurrences ids kept) (hid : id ∉ ids) :
    FirstOccurrences (ids ++ [id]) (kept ++ [id]) where
  nodup := by
    have hk : id ∉ kept := fun hm => hid ((h.mem_iff id).mp hm)
    exact List.concat_eq_append ▸ h.nodup.concat hk
  mem_iff other := by rw [List.mem_append, List.mem_append, h.mem_iff]
  ordered := by
    refine List.pairwise_append.mpr ⟨h.ordered_concat id, List.pairwise_singleton _ _, ?_⟩
    intro a ha b hb
    obtain rfl := List.mem_singleton.mp hb
    have ha' : a ∈ ids := (h.mem_iff a).mp ha
    calc (ids ++ [b]).idxOf a
      _ = ids.idxOf a := List.idxOf_append_of_mem ha'
      _ < ids.length := List.idxOf_lt_length_of_mem ha'
      _ ≤ ids.length + [b].idxOf b := Nat.le_add_right _ _
      _ = (ids ++ [b]).idxOf b := (List.idxOf_append_of_notMem hid).symm

lemma append (h : FirstOccurrences ids kept) (hseen : ∀ id, id ∈ seen ↔ id ∈ ids)
    (more : List String) : FirstOccurrences (ids ++ more) (kept ++ distinctAfter seen more) := by
  -- after each id, `kept` is what is kept of all that came so far, and `seen` has the same members
  induction more generalizing ids kept seen with
  | nil => simpa only [distinctAfter, List.append_nil] using h
  | cons id more ih =>
    rw [List.append_cons ids]
    unfold distinctAfter
    split_ifs with hid
    · have hid' : id ∈ ids := (hseen id).mp hid
      refine ih (h.again hid') fun other => ?_
      rw [hseen, ← h.mem_iff, (h.again hid').mem_iff]
    · rw [List.append_cons kept]
      refine ih (h.fresh fun hm => hid ((hseen id).mpr hm)) fun other => ?_
      rw [List.mem_cons, List.mem_append, List.mem_singleton, hseen, or_comm]

lemma of_distinctAfter (ids : List String) : FirstOccurrences ids (distinctAfter [] ids) :=
  nil.append (fun _ => .rfl) ids

lemma of_nodup (h : ids.Nodup) : FirstOccurrences ids ids where
  nodup := h
  mem_iff _ := .rfl
  ordered := List.pairwise_iff_getElem.mpr fun i j hi hj hij => by
    rwa [h.idxOf_getElem i hi, h.idxOf_getElem j hj]

lemma unique {kept' : List String} (h : FirstOccurrences ids kept)
    (h' : FirstOccurrences ids kept') : kept = kept' := by
  have hp : kept.Perm kept' := (List.perm_ext_iff_of_nodup h.nodup h'.nodup).mpr fun id =>
    (h.mem_iff id).trans (h'.mem_iff id).symm
  exact hp.eq_of_pairwise (fun _ _ _ _ hab hba => (Nat.lt_asymm hab hba).elim) h.ordered h'.ordered

end FirstOccurrences

lemma distinctAfter_of_nodup {ids : List String} (h : ids.Nodup) : distinctAfter [] ids = ids :=
  (FirstOccurrences.of_distinctAfter ids).unique (.of_nodup h)

lemma distinctAfter_eq_nil_iff (ids : List String) : distinctAfter [] ids = [] ↔ ids = [] := by
  simp only [List.eq_nil_iff_forall_not_mem, (FirstOccurrences.of_distinctAfter ids).mem_iff]

namespace Rule

def request (r : Rule) : RuleRequest := ⟨r.destination, r.trunkIds, r.hidesCaller⟩

lemma ofRequest_request {r : Rule} (h : r.trunkIds.Nodup) : ofRequest r.id r.request = r := by
  rw [ofRequest, request, distinctAfter_of_nodup h]

theorem ofRequest_trunkIds (id : String) (r : RuleRequest) :
    let rule := ofRequest id r
    FirstOccurrences r.trunkIds rule.trunkIds ∧ ofRequest rule.id rule.request = rule ∧
      (∀ t, rule.references t ↔ t ∈ r.trunkIds) ∧ (rule.isWildcard ↔ r.trunkIds = []) ∧
      ∀ t, rule.appliesTo t ↔ t ∈ r.trunkIds ∨ r.trunkIds = [] := by
  intro rule
  have hfirst : FirstOccurrences r.trunkIds rule.trunkIds := .of_distinctAfter r.trunkIds
  have hnamed (t : String) : rule.references t ↔ t ∈ r.trunkIds := by
    rw [references, decide_eq_true_eq, hfirst.mem_iff]
  have hwild : rule.isWildcard ↔ r.trunkIds = [] := by
    rw [isWildcard, List.isEmpty_iff]
    exact distinctAfter_eq_nil_iff r.trunkIds
  refine ⟨hfirst, ofRequest_request hfirst.nodup, hnamed, hwild, fun t => ?_⟩
  rw [appliesTo, Bool.or_eq_true, hnamed, hwild, or_comm]

example : (ofRequest "SDR_1" ⟨.direct "lobby", ["ST_b", "ST_a", "ST_b"], false⟩).trunkIds =
    ["ST_b", "ST_a"] := by decide

end Rule

end Switchboard
