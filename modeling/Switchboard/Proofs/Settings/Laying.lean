import Switchboard.Proofs.Settings.Entries
import Switchboard.Proofs.Settings.Keys

/-! What is found under a path of names once layers are laid over one another: what the last layer
that has something there puts there, whatever else the layers hold. -/

namespace Switchboard.Settings

/-- What is under a path of names, or nothing at all if another value is in the way. -/
def look : List String → Setting → Option (Option Setting)
  | [], s => some (some s)
  | n :: ns, .table entries =>
    match entries.lookup n with
    | none => some none
    | some s => look ns s
  | _ :: _, _ => none

/-- What a value puts under a path of names; nothing, if it would be in the way. -/
def hits : List String → Setting → List Setting
  | [], s => [s]
  | n :: ns, .table entries =>
    entries.flatMap fun e => if smallLetters e.1 = n then hits ns e.2 else []
  | _ :: _, _ => [.nothing]

def nest : Path → Setting → Setting
  | [], s => s
  | .name n :: path, s => .table [(n, nest path s)]
  | .place _ :: path, s => .list [nest path s]

/-- All that a layer puts under a path of names, however its own names are spelled. -/
def given (names : List String) (layer : List (String × Setting)) : List Setting :=
  layer.flatMap fun e => hits names (nest (pathOf e.1) e.2)

def Setting.Plain : Setting → Prop
  | .nothing | .list _ | .table _ => False
  | _ => True

variable {names : List String} {n : String} {ns : List String} {s t v x : Setting}

lemma look_put (name : String) (s : Setting) (entries : List (String × Setting)) :
    look (n :: ns) (.table (put name s entries)) =
      if n = name then look ns s else look (n :: ns) (.table entries) := by
  rw [look, lookup_put]
  by_cases hn : n = name <;> simp [hn, look]

lemma look_empty (n : String) (ns : List String) : look (n :: ns) (.table []) = some none := rfl

lemma exists_table (h : look (n :: ns) s ≠ none) : ∃ entries, s = .table entries := by
  cases s with
  | table entries => exact ⟨entries, rfl⟩
  | _ => exact absurd rfl h

lemma hits_cons (m : String) (w : Setting) (more : List (String × Setting)) :
    hits (n :: ns) (.table ((m, w) :: more)) =
      (if smallLetters m = n then hits ns w else []) ++ hits (n :: ns) (.table more) := by
  simp [hits]

lemma table_of_hits_nil (h : hits ns s = []) : ns ≠ [] ∧ ∃ entries, s = .table entries := by
  cases ns with
  | nil => exact absurd h (by simp [hits])
  | cons n ns =>
    refine ⟨by simp, ?_⟩
    cases s with
    | table entries => exact ⟨entries, rfl⟩
    | _ => exact absurd h (by simp [hits])

lemma eq_or_table_of_hits (h : hits ns s = [x]) (hx : x.Plain) :
    (ns = [] ∧ s = x) ∨ ns ≠ [] ∧ ∃ entries, s = .table entries := by
  cases ns with
  | nil => exact .inl ⟨rfl, List.singleton_inj.mp h⟩
  | cons n ns =>
    refine .inr ⟨by simp, ?_⟩
    cases s with
    | table entries => exact ⟨entries, rfl⟩
    | _ =>
      obtain rfl := List.singleton_inj.mp h
      exact absurd hx id

lemma layAt_table (m : String) (more : List (String × Setting)) (t : Setting) :
    layAt m (.table more) t = .table (put (smallLetters m)
      (layAll more (((entriesOf t).lookup (smallLetters m)).getD (.table []))) (entriesOf t)) := by
  rw [layAt]

lemma layAt_plain (m : String) (hx : x.Plain) (t : Setting) :
    layAt m x t = .table (put (smallLetters m) x (entriesOf t)) := by
  cases x with
  | table more => exact absurd hx id
  | _ => rw [layAt]; simp

lemma layAt_eq (m : String) (w t : Setting) :
    ∃ w', layAt m w t = .table (put (smallLetters m) w' (entriesOf t)) := by
  cases w with
  | table more => exact ⟨_, layAt_table m more t⟩
  | _ => exact ⟨_, by rw [layAt]; simp⟩

lemma look_layAt_other {m : String} (hm : smallLetters m ≠ n) (w : Setting)
    (entries : List (String × Setting)) :
    look (n :: ns) (layAt m w (.table entries)) = look (n :: ns) (.table entries) := by
  obtain ⟨w', hw⟩ := layAt_eq m w (.table entries)
  rw [hw, look_put, if_neg (Ne.symm hm)]
  rfl

lemma look_layAll_unhit {more : List (String × Setting)} (h : hits names (.table more) = [])
    (ht : look names t ≠ none) : look names (layAll more t) = look names t := by
  -- on the names, as a table in the table is met with one name less, then on the entries
  induction names generalizing more t with
  | nil => simp [hits] at h
  | cons n ns ihn =>
    induction more generalizing t with
    | nil => rw [layAll]
    | cons e more ihm =>
      obtain ⟨m, w⟩ := e
      rw [hits_cons, List.append_eq_nil_iff] at h
      obtain ⟨hw, hmore⟩ := h
      have hstep : look (n :: ns) (layAt m w t) = look (n :: ns) t := by
        obtain ⟨entries, rfl⟩ := exists_table ht
        by_cases hm : smallLetters m = n
        · rw [if_pos hm] at hw
          obtain ⟨hns, inner, rfl⟩ := table_of_hits_nil hw
          rw [layAt_table, hm, look_put, if_pos rfl]
          obtain ⟨n', ns', rfl⟩ := List.exists_cons_of_ne_nil hns
          rw [look] at ht ⊢
          cases hl : entries.lookup n with
          | none =>
            have hl' : (entriesOf (.table entries)).lookup n = none := hl
            rw [hl', Option.getD_none, ihn hw (by simp [look_empty]), look_empty]
          | some u =>
            have hl' : (entriesOf (.table entries)).lookup n = some u := hl
            rw [hl] at ht
            rw [hl', Option.getD_some, ihn hw ht]
        · exact look_layAt_other hm w entries
      rw [layAll, ihm hmore (hstep ▸ ht), hstep]

lemma look_layAll_hit {more : List (String × Setting)} (h : hits names (.table more) = [x])
    (hx : x.Plain) (t : Setting) : look names (layAll more t) = some (some x) := by
  induction names generalizing more t with
  | nil =>
    obtain rfl := List.singleton_inj.mp h
    exact absurd hx id
  | cons n ns ihn =>
    induction more generalizing t with
    | nil => simp [hits] at h
    | cons e more ihm =>
      obtain ⟨m, w⟩ := e
      rw [hits_cons, List.append_eq_singleton_iff] at h
      rw [layAll]
      rcases h with ⟨-, hmore⟩ | ⟨hw, hmore⟩
      · exact ihm hmore _
      · have hm : smallLetters m = n := by
          by_contra hm
          simp [hm] at hw
        rw [if_pos hm] at hw
        have hstep : look (n :: ns) (layAt m w t) = some (some x) := by
          rcases eq_or_table_of_hits hw hx with ⟨rfl, rfl⟩ | ⟨-, inner, rfl⟩
          · rw [layAt_plain m hx, hm, look_put, if_pos rfl, look]
          · rw [layAt_table, hm, look_put, if_pos rfl]
            exact ihn hw _
        rw [look_layAll_unhit hmore (by simp [hstep]), hstep]

lemma layAll_single (m : String) (w t : Setting) : layAll [(m, w)] t = layAt m w t := by
  rw [layAll, layAll]

lemma layPath_nothing (b : String) (path : Path) (v : Setting) :
    layPath v (.name b :: path) .nothing = layPath v (.name b :: path) (.table []) := by
  cases path with
  | nil =>
    rw [layPath, layPath]
    cases v with
    | table more => rw [layAt_table, layAt_table]; rfl
    | _ => rw [layAt, layAt] <;> simp [entriesOf]
  | cons p path => rw [layPath, layPath] <;> simp [entriesOf]

lemma hits_name (m : String) (path : Path) (v : Setting) :
    hits (n :: ns) (nest (.name m :: path) v) =
      if smallLetters m = n then hits ns (nest path v) else [] := by
  rw [nest, hits_cons]
  simp [hits]

lemma layPath_name (m : String) (p : Step) (path : Path) (v t : Setting) :
    layPath v (.name m :: p :: path) t = .table (put (smallLetters m)
      (layPath v (p :: path) (((entriesOf t).lookup (smallLetters m)).getD .nothing))
      (entriesOf t)) := by
  rw [layPath]
  simp

lemma look_layPath_unhit {path : Path} (hp : path ≠ []) (h : hits names (nest path v) = [])
    (ht : look names t ≠ none) : look names (layPath v path t) = look names t := by
  induction path generalizing names t with
  | nil => exact absurd rfl hp
  | cons p path ih =>
    obtain ⟨hn, -⟩ := table_of_hits_nil h
    obtain ⟨n, ns, rfl⟩ := List.exists_cons_of_ne_nil hn
    cases p with
    | place i => simp [nest, hits] at h
    | name m =>
      cases path with
      | nil =>
        rw [layPath, ← layAll_single]
        exact look_layAll_unhit h ht
      | cons p path =>
        obtain ⟨entries, rfl⟩ := exists_table ht
        rw [layPath_name, look_put]
        rw [hits_name] at h
        by_cases hm : smallLetters m = n
        · rw [if_pos hm] at h
          rw [if_pos hm.symm, hm]
          obtain ⟨hns, -⟩ := table_of_hits_nil h
          obtain ⟨n', ns', rfl⟩ := List.exists_cons_of_ne_nil hns
          rw [look] at ht ⊢
          cases hl : entries.lookup n with
          | none =>
            have hl' : (entriesOf (.table entries)).lookup n = none := hl
            cases p with
            | place i => simp [nest, hits] at h
            | name b =>
              rw [hl', Option.getD_none, layPath_nothing,
                ih (by simp) h (by simp [look_empty]), look_empty]
          | some u =>
            have hl' : (entriesOf (.table entries)).lookup n = some u := hl
            rw [hl] at ht
            rw [hl', Option.getD_some, ih (by simp) h ht]
        · rw [if_neg (Ne.symm hm)]
          rfl

lemma look_layPath_hit {path : Path} (hp : path ≠ []) (h : hits names (nest path v) = [x])
    (hx : x.Plain) (t : Setting) : look names (layPath v path t) = some (some x) := by
  induction path generalizing names t with
  | nil => exact absurd rfl hp
  | cons p path ih =>
    cases names with
    | nil =>
      obtain rfl := List.singleton_inj.mp h
      cases p with
      | name m => exact absurd hx id
      | place i => exact absurd hx id
    | cons n ns =>
      cases p with
      | place i =>
        obtain rfl := List.singleton_inj.mp h
        exact absurd hx id
      | name m =>
        cases path with
        | nil =>
          rw [layPath, ← layAll_single]
          exact look_layAll_hit h hx t
        | cons p path =>
          rw [hits_name] at h
          have hm : smallLetters m = n := by
            by_contra hm
            simp [hm] at h
          rw [if_pos hm] at h
          rw [layPath_name, look_put, if_pos hm.symm]
          exact ih (by simp) h _

lemma pathOf_ne_nil (name : String) : pathOf name ≠ [] := by
  unfold pathOf
  cases hr : readName name.toList with
  | none => simp [hr]
  | some r =>
    cases hs : readSteps (r.2.length + 1) r.2 with
    | none => simp [hr, hs]
    | some steps => simp [hr, hs]

variable {layer : List (String × Setting)}

lemma look_layOver_unhit (h : given names layer = []) (ht : look names t ≠ none) :
    look names (layOver t layer) = look names t := by
  induction layer generalizing t with
  | nil => rfl
  | cons e layer ih =>
    rw [given, List.flatMap_cons, List.append_eq_nil_iff] at h
    have hstep := look_layPath_unhit (pathOf_ne_nil e.1) h.1 ht
    exact (ih h.2 (hstep ▸ ht)).trans hstep

lemma look_layOver_hit (h : given names layer = [x]) (hx : x.Plain) (t : Setting) :
    look names (layOver t layer) = some (some x) := by
  induction layer generalizing t with
  | nil => simp [given] at h
  | cons e layer ih =>
    rw [given, List.flatMap_cons, List.append_eq_singleton_iff] at h
    rcases h with ⟨-, hl⟩ | ⟨he, hl⟩
    · exact ih hl _
    · have hstep := look_layPath_hit (pathOf_ne_nil e.1) he hx t
      exact (look_layOver_unhit hl (by simp [hstep])).trans hstep

lemma look_layers {first second : Option Setting} {layer' : List (String × Setting)}
    (hf : given (n :: ns) layer = first.toList) (hs : given (n :: ns) layer' = second.toList)
    (hx : ∀ x, first = some x ∨ second = some x → x.Plain) :
    look (n :: ns) (layOver (layOver (.table []) layer) layer') = some (second.or first) := by
  have hl : look (n :: ns) (layOver (.table []) layer) = some first := by
    cases first with
    | none => exact look_layOver_unhit hf (by simp [look_empty])
    | some x => exact look_layOver_hit hf (hx x (.inl rfl)) _
  cases second with
  | none => exact (look_layOver_unhit hs (by simp [hl])).trans hl
  | some x => exact look_layOver_hit hs (hx x (.inr rfl)) _

lemma taken_of_look {k : Key} {o : Option Setting} (h : look k.path s = some o) :
    k.taken s = o.elim (.ok k.standard) k.take := by
  obtain ⟨sections, rfl⟩ := exists_table (by rw [← Key.path, h]; simp)
  rw [Key.taken_of rfl, Key.inside, takeField]
  rw [Key.path, look] at h
  cases hl : sections.lookup k.sectionName with
  | none =>
    rw [hl] at h
    obtain rfl := Option.some.inj h
    rfl
  | some t =>
    rw [hl] at h
    have ht : look [k.name] t = some o := h
    obtain ⟨fields, rfl⟩ := exists_table (by rw [ht]; simp)
    change k.within (.table fields) = _
    rw [Key.within_of rfl, takeField]
    rw [look] at ht
    cases hn : fields.lookup k.name with
    | none =>
      rw [hn] at ht
      obtain rfl := Option.some.inj ht
      rfl
    | some x =>
      rw [hn] at ht
      obtain rfl := Option.some.inj ht
      rfl

end Switchboard.Settings
