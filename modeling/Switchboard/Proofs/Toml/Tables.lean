import Switchboard.Proofs.Settings.Entries
import Switchboard.Toml.Document

/-! The tables that the lines of a document build: a line adds to them what it sets, and takes away
nothing that an earlier line has set. -/

namespace Switchboard.Toml

open Settings

/-- A value under a path of names, through tables and through lists of tables. -/
inductive Within : List String → Setting → Setting → Prop
  | here (x : Setting) : Within [] x x
  | table {name : String} {names : List String} {x s : Setting}
      {entries : List (String × Setting)} (hl : entries.lookup name = some s)
      (h : Within names x s) : Within (name :: names) x (.table entries)
  | item {names : List String} {x : Setting} {entries : List (String × Setting)}
      {items : List Setting} (hi : .table entries ∈ items) (h : Within names x (.table entries)) :
      Within names x (.list items)

inductive Has : List String → Setting → Node → Prop
  | value {names : List String} {x s : Setting} (h : Within names x s) : Has names x (.value s)
  | table {name : String} {names : List String} {x : Setting} {node : Node} {origin : Origin}
      {entries : Entries} (hl : entries.lookup name = some node) (h : Has names x node) :
      Has (name :: names) x (.table origin entries)
  | item {names : List String} {x : Setting} {entries : Entries} {items : List Entries}
      (hi : entries ∈ items) (h : Has names x (.table .heading entries)) :
      Has names x (.tables items)

lemma lookup_entrySettings (name : String) (entries : Entries) :
    (entrySettings entries).lookup name = (entries.lookup name).map Node.setting := by
  induction entries with
  | nil => rfl
  | cons e entries ih =>
    obtain ⟨k, node⟩ := e
    rw [entrySettings, lookup_entry, lookup_entry, ih]
    by_cases hk : name = k <;> simp [hk]

lemma mem_itemSettings {entries : Entries} {items : List Entries} (h : entries ∈ items) :
    .table (entrySettings entries) ∈ itemSettings items := by
  induction items with
  | nil => simp at h
  | cons e items ih =>
    rw [itemSettings]
    rcases List.mem_cons.mp h with rfl | h
    · simp
    · exact List.mem_cons_of_mem _ (ih h)

lemma Has.setting {names : List String} {x : Setting} {node : Node} (h : Has names x node) :
    Within names x node.setting := by
  induction h with
  | value h => rwa [Node.setting]
  | table hl _ ih =>
    rw [Node.setting]
    exact .table (by rw [lookup_entrySettings, hl]; rfl) ih
  | item hi _ ih =>
    simp only [Node.setting] at ih ⊢
    exact .item (mem_itemSettings hi) ih

def Grows (before after : Node) : Prop := ∀ names x, Has names x before → Has names x after

lemma Grows.refl (node : Node) : Grows node node := fun _ _ h => h

lemma Grows.trans {a b c : Node} (hab : Grows a b) (hbc : Grows b c) : Grows a c :=
  fun names x h => hbc names x (hab names x h)

section

variable {name : String} {names path : List String} {x s : Setting} {node node' : Node}
  {origin : Origin} {entries : Entries} {items : List Entries} {dotted : Bool}
  {change : Origin → Entries → Option Node}

lemma Has.of_origin (origin' : Origin) (h : Has names x (.table origin entries)) :
    Has names x (.table origin' entries) := by
  cases h with
  | table hl h => exact .table hl h

lemma grows_put (h : ∀ below, entries.lookup name = some below → Grows below node) :
    Grows (.table origin entries) (.table origin (put name node entries)) := by
  intro names x hx
  cases hx with
  | @table a _ _ below _ _ hl hx =>
    by_cases ha : a = name
    · subst ha
      exact .table (by rw [lookup_put, if_pos rfl]) (h below hl _ _ hx)
    · exact .table (by rwa [lookup_put, if_neg ha]) hx

lemma has_put (h : Has names x node) :
    Has (name :: names) x (.table origin (put name node entries)) :=
  .table (by rw [lookup_put, if_pos rfl]) h

lemma descend_grows
    (hc : ∀ o e n, change o e = some n → Grows (.table o e) n)
    (h : descend dotted change path origin entries = some node) :
    Grows (.table origin entries) node := by
  induction path generalizing origin entries node with
  | nil => exact hc _ _ _ h
  | cons name path ih =>
    rw [descend] at h
    dsimp only at h
    split at h
    · next hl =>
      obtain ⟨n, -, rfl⟩ := Option.map_eq_some_iff.mp h
      exact grows_put fun below hb => by simp [hl] at hb
    · next inner below hl =>
      rw [Option.ite_none_left_eq_some] at h
      obtain ⟨n, hn, rfl⟩ := Option.map_eq_some_iff.mp h.2
      refine grows_put fun below' hb => ?_
      obtain rfl := Option.some.inj (hl.symm.trans hb)
      exact ih hn
    · next items hl =>
      split at h
      · simp at h
      · next last before hr =>
        -- of several tables the last grows, and the others stay
        simp only [Option.bind_eq_bind, Option.bind_eq_some_iff] at h
        obtain ⟨n, hn, h⟩ := h
        split at h
        · next last' =>
          obtain rfl := Option.some.inj h
          refine grows_put fun below' hb => ?_
          obtain rfl := Option.some.inj (hl.symm.trans hb)
          intro names x hx
          cases hx with
          | @item _ _ e _ hi hx =>
            rw [← List.mem_reverse, hr, List.mem_cons] at hi
            rcases hi with rfl | hi
            · exact .item (by simp) ((ih hn _ _ hx).of_origin _)
            · exact .item (by simp [hi]) hx
        · simp at h
    · simp at h

lemma descend_has (hc : ∀ o e n, change o e = some n → Has names x n)
    (h : descend dotted change path origin entries = some node) : Has (path ++ names) x node := by
  induction path generalizing origin entries node with
  | nil => exact hc _ _ _ h
  | cons name path ih =>
    rw [descend] at h
    dsimp only at h
    split at h
    · obtain ⟨n, hn, rfl⟩ := Option.map_eq_some_iff.mp h
      exact has_put (ih hn)
    · rw [Option.ite_none_left_eq_some] at h
      obtain ⟨n, hn, rfl⟩ := Option.map_eq_some_iff.mp h.2
      exact has_put (ih hn)
    · split at h
      · simp at h
      · simp only [Option.bind_eq_bind, Option.bind_eq_some_iff] at h
        obtain ⟨n, hn, h⟩ := h
        split at h
        · obtain rfl := Option.some.inj h
          exact has_put (.item (by simp) ((ih hn).of_origin _))
        · simp at h
    · simp at h

lemma setLast_eq {isDirect : Bool} (h : setLast isDirect name s origin entries = some node) :
    entries.lookup name = none ∧ node = .table origin (put name (.value s) entries) := by
  rw [setLast, Option.ite_none_left_eq_some] at h
  cases hl : entries.lookup name with
  | none =>
    rw [hl] at h
    exact ⟨rfl, (Option.some.inj h.2).symm⟩
  | some n =>
    rw [hl] at h
    simp at h

lemma setPath_grows (h : setPath path s origin entries = some node) :
    Grows (.table origin entries) node := by
  rw [setPath] at h
  split at h
  · simp at h
  · refine descend_grows (fun o e n hn => ?_) h
    obtain ⟨hl, rfl⟩ := setLast_eq hn
    exact grows_put fun below hb => by simp [hl] at hb

lemma setPath_has (hx : Within names x s) (h : setPath path s origin entries = some node) :
    Has (path ++ names) x node := by
  rw [setPath] at h
  split at h
  · simp at h
  · next last before hr =>
    have hp : path = before.reverse ++ [last] := by
      rw [← List.reverse_reverse path, hr, List.reverse_cons]
    rw [hp, List.append_assoc]
    refine descend_has (fun o e n hn => ?_) h
    obtain ⟨-, rfl⟩ := setLast_eq hn
    exact has_put (.value hx)

lemma headTable_grows (h : headTable name origin entries = some node) :
    Grows (.table origin entries) node := by
  rw [headTable] at h
  split at h
  · next hl =>
    obtain rfl := Option.some.inj h
    exact grows_put fun below hb => by simp [hl] at hb
  · next hl =>
    obtain rfl := Option.some.inj h
    refine grows_put fun below hb => ?_
    obtain rfl := Option.some.inj (hl.symm.trans hb)
    exact fun _ _ hx => hx.of_origin _
  · simp at h

lemma headItem_grows (h : headItem name origin entries = some node) :
    Grows (.table origin entries) node := by
  rw [headItem] at h
  split at h
  · next hl =>
    obtain rfl := Option.some.inj h
    exact grows_put fun below hb => by simp [hl] at hb
  · next hl =>
    obtain rfl := Option.some.inj h
    refine grows_put fun below hb => ?_
    obtain rfl := Option.some.inj (hl.symm.trans hb)
    intro names x hx
    cases hx with
    | item hi hx => exact .item (by simp [hi]) hx
  · simp at h

lemma setAll_grows {bs : List (List String × Setting)} (h : setAll bs node = some node') :
    Grows node node' := by
  induction bs generalizing node with
  | nil =>
    obtain rfl := Option.some.inj h
    exact .refl _
  | cons b bs ih =>
    cases node with
    | table origin entries =>
      simp only [setAll, Option.bind_eq_bind, Option.bind_eq_some_iff] at h
      obtain ⟨n, hn, h⟩ := h
      exact (setPath_grows hn).trans (ih h)
    | _ => simp [setAll] at h

lemma setAll_has {bs : List (List String × Setting)} (hm : (path, s) ∈ bs)
    (hx : Within names x s) (h : setAll bs node = some node') : Has (path ++ names) x node' := by
  induction bs generalizing node with
  | nil => simp at hm
  | cons b bs ih =>
    cases node with
    | table origin entries =>
      simp only [setAll, Option.bind_eq_bind, Option.bind_eq_some_iff] at h
      obtain ⟨n, hn, h⟩ := h
      rcases List.mem_cons.mp hm with rfl | hm
      · exact setAll_grows h _ _ (setPath_has hx hn)
      · exact ih hm h
    | _ => simp [setAll] at h

end

section

variable {s s' : State} {names : List String} {v x : Setting} {cs rest : List Char}

lemma bind_grows (h : s.bind names v = some s') : Grows s.root s'.root := by
  rw [State.bind] at h
  split at h
  · next hr =>
    obtain ⟨root, hd, rfl⟩ := Option.map_eq_some_iff.mp h
    rw [hr]
    exact descend_grows (fun _ _ _ hn => setPath_grows hn) hd
  · simp at h

lemma bind_has {ns : List String} (hx : Within ns x v) (h : s.bind names v = some s') :
    Has (s.heading ++ (names ++ ns)) x s'.root := by
  rw [State.bind] at h
  split at h
  · obtain ⟨root, hd, rfl⟩ := Option.map_eq_some_iff.mp h
    exact descend_has (fun _ _ _ hn => setPath_has hx hn) hd
  · simp at h

lemma head_grows {change : String → Origin → Entries → Option Node}
    (hc : ∀ name o e n, change name o e = some n → Grows (.table o e) n)
    (h : s.head names change = some s') : Grows s.root s'.root := by
  rw [State.head] at h
  split at h
  · next hr =>
    obtain ⟨root, hd, rfl⟩ := Option.map_eq_some_iff.mp h
    rw [hr]
    exact descend_grows (hc _) hd
  · simp at h

lemma line_grows (h : line s cs = some (s', rest)) : Grows s.root s'.root := by
  unfold line at h
  split at h
  · simp only [Option.bind_eq_bind, Option.bind_eq_some_iff, Prod.exists] at h
    obtain ⟨names, c₁, -, h⟩ := h
    split at h
    · obtain ⟨s₁, hs, h⟩ := Option.bind_eq_some_iff.mp h
      obtain ⟨rfl, -⟩ := Prod.mk.inj (Option.some.inj h)
      exact head_grows (fun _ _ _ _ => headItem_grows) hs
    · simp at h
  · simp only [Option.bind_eq_bind, Option.bind_eq_some_iff, Prod.exists] at h
    obtain ⟨names, c₁, -, h⟩ := h
    split at h
    · obtain ⟨s₁, hs, h⟩ := Option.bind_eq_some_iff.mp h
      obtain ⟨rfl, -⟩ := Prod.mk.inj (Option.some.inj h)
      exact head_grows (fun _ _ _ _ => headTable_grows) hs
    · simp at h
  · simp only [Option.bind_eq_bind, Option.bind_eq_some_iff, Prod.exists] at h
    obtain ⟨names, v, c₁, -, s₁, hs, h⟩ := h
    obtain ⟨rfl, -⟩ := Prod.mk.inj (Option.some.inj h)
    exact bind_grows hs

theorem lines_grows {ahead : List Char} (h : lines ahead s cs = some s') :
    Grows s.root s'.root := by
  induction ahead generalizing s cs with
  | nil =>
    obtain rfl := Option.some.inj h
    exact .refl _
  | cons a ahead ih =>
    rw [lines] at h
    split at h
    · obtain rfl := Option.some.inj h
      exact .refl _
    · simp only [Option.bind_eq_bind, Option.bind_eq_some_iff, Prod.exists] at h
      obtain ⟨s₁, c₁, hl, c₂, -, h⟩ := h
      exact (line_grows hl).trans (ih h)

end

end Switchboard.Toml
