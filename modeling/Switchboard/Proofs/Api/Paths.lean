import Switchboard.Proofs.Api.Asks

/-! Which paths lead to which resources. -/

namespace Switchboard.Api

def Segment (s : String) : Prop := s ≠ "" ∧ '/' ∉ s.toList

inductive Resource.At : String → Resource → Prop
  | health : At "/health" .health
  | metrics : At "/metrics" .metrics
  | trunks : At "/sip/trunks" .trunks
  | trunk {id : String} (h : Segment id) : At ("/sip/trunks" ++ "/" ++ id) (.trunk id)
  | rules : At "/sip/dispatch-rules" .rules
  | rule {id : String} (h : Segment id) : At ("/sip/dispatch-rules" ++ "/" ++ id) (.rule id)
  | dispatch : At "/sip/dispatch" .dispatch
  | participants : At "/sip/participants" .participants
  | participant {id : String} (h : Segment id) :
    At ("/sip/participants" ++ "/" ++ id) (.participant id)
  | tones {id : String} (h : '/' ∉ id.toList) :
    At ("/sip/participants" ++ "/" ++ id ++ "/" ++ "dtmf") (.tones id)

lemma segments_joined {cs s : List Char} {ss : List (List Char)} (h : segments cs = s :: ss) :
    cs = s ++ ss.flatMap ('/' :: ·) := by
  induction cs generalizing s ss with
  | nil =>
    cases h
    rfl
  | cons c cs ih =>
    obtain ⟨p, ps, hp⟩ := List.exists_cons_of_ne_nil (segments_ne_nil cs)
    have hcs := ih hp
    simp only [segments, hp] at h
    split_ifs at h with hc
    · cases h
      simp [hc, hcs]
    · cases h
      simp [hcs]

lemma slash_notMem_segments {cs s : List Char} (h : s ∈ segments cs) : '/' ∉ s := by
  induction cs generalizing s with
  | nil =>
    obtain rfl : s = [] := by simpa [segments] using h
    exact List.not_mem_nil
  | cons c cs ih =>
    obtain ⟨p, ps, hp⟩ := List.exists_cons_of_ne_nil (segments_ne_nil cs)
    have hpm : '/' ∉ p := ih (by simp [hp])
    have hps {s : List Char} (hs : s ∈ ps) : '/' ∉ s := ih (by simp [hp, hs])
    simp only [segments, hp] at h
    split_ifs at h with hc
    · rcases List.mem_cons.mp h with rfl | h
      · exact List.not_mem_nil
      · exact ih (hp ▸ h)
    · rcases List.mem_cons.mp h with rfl | h
      · simp [hpm, Ne.symm hc]
      · exact hps h

lemma parts_joined {path s : String} {ss : List String} (h : parts path = s :: ss) :
    path = ss.foldl (· ++ "/" ++ ·) s := by
  have hfold (ss : List String) (s : String) : (ss.foldl (· ++ "/" ++ ·) s).toList =
      s.toList ++ ss.flatMap fun s => '/' :: s.toList := by
    induction ss generalizing s with
    | nil => simp
    | cons p ps ih => simp [ih]
  obtain ⟨p, ps, hp⟩ := List.exists_cons_of_ne_nil (segments_ne_nil path.toList)
  rw [parts, hp, List.map_cons] at h
  cases h
  rw [← String.toList_inj, hfold, segments_joined hp]
  simp [List.flatMap_map]

lemma slash_notMem_parts {path s : String} (h : s ∈ parts path) : '/' ∉ s.toList := by
  obtain ⟨cs, hcs, rfl⟩ := List.mem_map.mp h
  simpa using slash_notMem_segments hcs

namespace Resource

lemma parts_under {id : String} (h : '/' ∉ id.toList) (start : String) :
    parts (start ++ "/" ++ id) = parts start ++ [id] := by
  rw [parts_append, parts_single h]

lemma At.found {path : String} {x : Resource} (h : At path x) : ofPath? path = some x := by
  have hr (path : String) : ofPath? path = ofSegments? (parts path) := rfl
  cases h with
  | health | metrics | trunks | rules | dispatch | participants => decide
  | trunk h =>
    rw [hr, parts_under h.2, parts_trunks]
    simp [ofSegments?, h.1]
  | rule h =>
    rw [hr, parts_under h.2, parts_rules]
    simp [ofSegments?, h.1]
  | participant h =>
    rw [hr, parts_under h.2, parts_participants]
    simp [ofSegments?, h.1]
  | tones h =>
    have hd : '/' ∉ ("dtmf" : String).toList := by decide
    rw [hr, parts_under hd, parts_under h, parts_participants]
    simp [ofSegments?]

lemma at_of_segments {s : String} {ss : List String} {x : Resource}
    (h : ofSegments? (s :: ss) = some x) (hs : ∀ p ∈ ss, '/' ∉ p.toList) :
    At (ss.foldl (· ++ "/" ++ ·) s) x := by
  have hid {id : String} {y : Resource} (hm : id ∈ ss)
      (hy : (if id = "" then none else some y) = some x) : Segment id ∧ y = x := by
    split_ifs at hy with hne
    exact ⟨⟨hne, hs id hm⟩, Option.some.inj hy⟩
  unfold ofSegments? at h
  split at h <;> rename_i he
  case h_1 =>
    cases he
    cases h
    exact .health
  case h_2 =>
    cases he
    cases h
    exact .metrics
  case h_3 =>
    cases he
    cases h
    exact .trunks
  case h_4 =>
    cases he
    obtain ⟨hs, rfl⟩ := hid (by simp) h
    exact .trunk hs
  case h_5 =>
    cases he
    cases h
    exact .rules
  case h_6 =>
    cases he
    obtain ⟨hs, rfl⟩ := hid (by simp) h
    exact .rule hs
  case h_7 =>
    cases he
    cases h
    exact .dispatch
  case h_8 =>
    cases he
    cases h
    exact .participants
  case h_9 =>
    cases he
    obtain ⟨hs, rfl⟩ := hid (by simp) h
    exact .participant hs
  case h_10 =>
    cases he
    cases h
    exact .tones (hs _ (by simp))
  case h_11 => cases h

theorem ofPath?_eq_some_iff (path : String) (x : Resource) : ofPath? path = some x ↔ At path x := by
  refine ⟨fun h => ?_, At.found⟩
  obtain ⟨s, ss, hp⟩ := List.exists_cons_of_ne_nil (l := parts path)
    (by simp [parts, segments_ne_nil])
  have hs (p : String) (hm : p ∈ ss) : '/' ∉ p.toList :=
    slash_notMem_parts (hp ▸ List.mem_cons_of_mem s hm)
  change ofSegments? (parts path) = some x at h
  rw [parts_joined hp]
  rw [hp] at h
  exact at_of_segments h hs

end Resource

end Switchboard.Api
