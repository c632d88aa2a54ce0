import Switchboard.Proofs.Settings.Sources
import Switchboard.Proofs.Toml.Bindings

/-! A document and an environment for every draft: a line for each setting that has a value, and a
variable for each. -/

namespace Switchboard.Settings

open Toml

namespace Key

def all : List Key :=
  [.text .host, .whole .port, .backend, .whole .requestTimeout, .text .url, .whole .maxConnections,
    .whole .minConnections, .whole .connectTimeout, .text .filter]

lemma mem_all (k : Key) : k ∈ all := by
  rcases k with (_ | _ | _) | (_ | _ | _ | _ | _) | _ <;> simp [all]

lemma all_nodup : all.Nodup := by decide

def token : (k : Key) → k.Value → List Char
  | text _, s => quoted s
  | whole _, n => (toString n).toList
  | backend, b => quoted b.name

def Writable : (k : Key) → k.Value → Prop
  | whole _, n => n < 2 ^ 63
  | text _, _ | backend, _ => True

def line (k : Key) (v : k.Value) : List Char :=
  k.sectionName.toList ++ '.' :: (k.name.toList ++ ' ' :: '=' :: ' ' :: (k.token v ++ ['\n']))

end Key

def Draft.lines (d : Draft) (ks : List Key) : List Char :=
  ks.flatMap fun k => (d k).elim [] k.line

def Draft.document (d : Draft) : String := .ofList (d.lines Key.all)

def Draft.exports (d : Draft) (ks : List Key) : List (String × String) :=
  ks.filterMap fun k => (d k).map fun v => (k.variableName, k.spelled v)

def Draft.environment (d : Draft) : List (String × String) := d.exports Key.all

def Draft.Writable (d : Draft) : Prop := ∀ k, ∀ v ∈ d k, k.Writable v

/-! ### Values and names -/

lemma value_whole {n : ℕ} (h : n < 2 ^ 63) {after : List Char} (ha : Ends after) (depth : ℕ) :
    value (depth + 1) ((toString n).toList ++ after) = some (.whole n, after) := by
  have hv := value_numeral ha depth (n : ℤ)
  have hn : Setting.ofInt? n = some (.whole n) := by
    rw [Setting.ofInt?, if_pos]
    simp only [wholeLimit]
    omega
  rw [hn] at hv
  exact hv

lemma value_token {k : Key} {v : k.Value} (h : k.Writable v) {after : List Char}
    (ha : Ends after) (depth : ℕ) :
    value (depth + 1) (k.token v ++ after) = some (k.written v, after) := by
  rcases k with t | w | _
  · exact value_quoted v ha depth
  · exact value_whole h ha depth
  · exact value_quoted v.name ha depth

def Bare (n : String) : Prop := n.toList ≠ [] ∧ n.toList.all Toml.isNameChar = true

lemma Key.section_bare (k : Key) : Bare k.sectionName := by
  rcases k with (_ | _ | _) | (_ | _ | _ | _ | _) | _ <;> exact ⟨by simp [sectionName], by cbv⟩

lemma Key.name_bare (k : Key) : Bare k.name := by
  rcases k with (_ | _ | _) | (_ | _ | _ | _ | _) | _ <;> exact ⟨by simp [name], by cbv⟩

lemma blank_not_name {c : Char} (h : isBlank c = true) : Toml.isNameChar c = false := by
  rw [isBlank, Bool.or_eq_true, beq_iff_eq, beq_iff_eq] at h
  rcases h with rfl | rfl <;> decide

section

variable {n : String} (hn : Bare n)

include hn

lemma Bare.exists_cons : ∃ c cs, n.toList = c :: cs ∧ Toml.isNameChar c = true := by
  obtain ⟨c, cs, hc⟩ := List.exists_cons_of_ne_nil hn.1
  have hall := List.all_eq_true.mp hn.2
  exact ⟨c, cs, hc, hall c (by simp [hc])⟩

lemma Bare.name_append {rest : List Char} (hr : ∀ c ∈ rest.head?, Toml.isNameChar c = false) :
    Toml.name (n.toList ++ rest) = some (n, rest) := by
  have ht : (n.toList ++ rest).takeWhile Toml.isNameChar = n.toList := by
    rw [List.takeWhile_append_of_pos (List.all_eq_true.mp hn.2)]
    cases rest with
    | nil => simp
    | cons c rest => simp [hr c (by simp)]
  rw [Toml.name, ht]
  split
  · next hc => exact absurd hc hn.1
  · rw [String.ofList_toList, List.drop_left]

lemma Bare.skipBlanks_append (rest : List Char) :
    skipBlanks (n.toList ++ rest) = n.toList ++ rest := by
  obtain ⟨c, cs, hc, hname⟩ := hn.exists_cons
  have hb : isBlank c = false := by
    by_contra hb
    rw [blank_not_name (by simpa using hb)] at hname
    exact absurd hname (by decide)
  simp [hc, skipBlanks, hb]

lemma Bare.dottedName_last (fuel : ℕ) (rest : List Char) :
    dottedName (fuel + 1) (n.toList ++ ' ' :: '=' :: rest) = some ([n], '=' :: rest) := by
  have hb : skipBlanks (' ' :: '=' :: rest) = '=' :: rest := by simp [skipBlanks, isBlank]
  rw [dottedName, hn.skipBlanks_append, hn.name_append (by simp; decide)]
  simp [hb]

lemma Bare.dottedName_cons (fuel : ℕ) (cs : List Char) :
    dottedName (fuel + 1) (n.toList ++ '.' :: cs) =
      (dottedName fuel cs).map fun (ns, rest) => (n :: ns, rest) := by
  have hb : skipBlanks ('.' :: cs) = '.' :: cs := by simp [skipBlanks, isBlank]
  rw [dottedName, hn.skipBlanks_append, hn.name_append (by simp; decide)]
  simp only [Option.bind_eq_bind, Option.bind_some, hb]
  exact Option.map_eq_bind.symm

end

lemma Key.path_line (k : Key) (rest : List Char) :
    Toml.path (k.sectionName.toList ++ '.' :: (k.name.toList ++ ' ' :: '=' :: rest)) =
      some (k.path, '=' :: rest) := by
  change dottedName (77 + 1 + 1) _ = _
  rw [k.section_bare.dottedName_cons, k.name_bare.dottedName_last]
  rfl

/-! ### What the lines build -/

structure Fields (below : Entries) : Prop where
  distinct : (below.map Prod.fst).Nodup
  named : ∀ e ∈ below, ∃ k : Key, e.1 = k.name

def nodeAt (k : Key) (entries : Entries) : Option Node :=
  match entries.lookup k.sectionName with
  | some (.table _ below) => below.lookup k.name
  | _ => none

structure Laid (d : Draft) (entries : Entries) : Prop where
  distinct : (entries.map Prod.fst).Nodup
  named : ∀ e ∈ entries, ∃ k : Key, e.1 = k.sectionName
  tables : ∀ e ∈ entries, ∃ below, e.2 = .table .dotted below ∧ Fields below
  found : ∀ k : Key, nodeAt k entries = (d k).map fun v => .value (k.written v)

lemma laid_nil : Laid (fun _ => none) [] where
  distinct := by simp
  named := by simp
  tables := by simp
  found k := rfl

section

variable {d : Draft} {entries : Entries}

lemma Laid.below (h : Laid d entries) (k : Key) :
    ∃ below, Fields below ∧ below.lookup k.name = (d k).map (fun v => .value (k.written v)) ∧
      (entries.lookup k.sectionName = some (.table .dotted below) ∨
        entries.lookup k.sectionName = none ∧ below = []) := by
  have hf := h.found k
  rw [nodeAt] at hf
  cases hl : entries.lookup k.sectionName with
  | none =>
    rw [hl] at hf
    exact ⟨[], ⟨by simp, by simp⟩, hf, .inr ⟨rfl, rfl⟩⟩
  | some node =>
    obtain ⟨below, hb, hfields⟩ := h.tables _ (mem_of_lookup hl)
    obtain rfl : node = .table .dotted below := hb
    rw [hl] at hf
    exact ⟨below, hfields, hf, .inl rfl⟩

lemma setPath_laid {below : Entries} {k : Key} {s : Setting}
    (hl : entries.lookup k.sectionName = some (.table .dotted below) ∨
      entries.lookup k.sectionName = none ∧ below = [])
    (hn : below.lookup k.name = none) :
    setPath k.path s .heading entries = some (.table .heading
      (put k.sectionName (.table .dotted (put k.name (.value s) below)) entries)) := by
  have hlast : setLast false k.name s .dotted below =
      some (.table .dotted (put k.name (.value s) below)) := by
    rw [setLast, hn]
    rfl
  change descend true (setLast false k.name s) [k.sectionName] .heading entries = _
  rcases hl with hl | ⟨hl, rfl⟩
  · simp [descend, hl, hlast]
  · simp [descend, hl, hlast]

lemma Fields.put {below : Entries} (h : Fields below) (k : Key) (node : Node) :
    Fields (put k.name node below) where
  distinct := nodup_put _ h.distinct
  named e he := by
    rcases mem_put he with rfl | he
    · exact ⟨k, rfl⟩
    · exact h.named e he

lemma Laid.put (h : Laid d entries) {k : Key} (v : k.Value) {below : Entries}
    (hf : Fields below)
    (hl : entries.lookup k.sectionName = some (.table .dotted below) ∨
      entries.lookup k.sectionName = none ∧ below = []) :
    Laid (Function.update d k (some v)) (put k.sectionName
      (.table .dotted (Settings.put k.name (.value (k.written v)) below)) entries) where
  distinct := nodup_put _ h.distinct
  named e he := by
    rcases mem_put he with rfl | he
    · exact ⟨k, rfl⟩
    · exact h.named e he
  tables e he := by
    rcases mem_put he with rfl | he
    · exact ⟨_, rfl, hf.put k _⟩
    · exact h.tables e he
  found j := by
    by_cases hjk : j = k
    · subst hjk
      simp [nodeAt, lookup_put]
    · rw [Function.update_of_ne hjk, ← h.found j, nodeAt, lookup_put]
      by_cases hs : j.sectionName = k.sectionName
      · have hn : j.name ≠ k.name := fun hn =>
          hjk (Key.path_inj.mp (by rw [Key.path, Key.path, hs, hn]))
        rw [if_pos hs, nodeAt, hs]
        dsimp only
        rw [lookup_put, if_neg hn]
        rcases hl with hl | ⟨hl, rfl⟩
        · rw [hl]
        · rw [hl]
          rfl
      · rw [if_neg hs, nodeAt]

/-! ### What the lines give -/

lemma entrySettings_names (entries : Entries) :
    (entrySettings entries).map Prod.fst = entries.map Prod.fst := by
  induction entries with
  | nil => rfl
  | cons e entries ih =>
    obtain ⟨name, node⟩ := e
    rw [entrySettings, List.map_cons, List.map_cons, ih]

lemma hits_of_distinct {layer : List (String × Setting)} (hd : (layer.map Prod.fst).Nodup)
    (hs : ∀ n ∈ layer.map Prod.fst, smallLetters n = n) (n : String) (ns : List String) :
    hits (n :: ns) (.table layer) = (layer.lookup n).elim [] (hits ns) := by
  rw [hits, ← flatMap_of_distinct hd]
  refine List.flatMap_congr fun e he => ?_
  rw [hs e.1 (List.mem_map.mpr ⟨e, he, rfl⟩)]

lemma given_of_names {layer : List (String × Setting)}
    (hp : ∀ n ∈ layer.map Prod.fst, pathOf n = [.name n]) (n : String) (ns : List String) :
    given (n :: ns) layer = hits (n :: ns) (.table layer) := by
  rw [given, hits]
  refine List.flatMap_congr fun e he => ?_
  rw [hp e.1 (List.mem_map.mpr ⟨e, he, rfl⟩), hits_name, nest]

lemma Key.pathOf_section (k : Key) : pathOf k.sectionName = [.name k.sectionName] := by
  rcases k with (_ | _ | _) | (_ | _ | _ | _ | _) | _ <;> cbv

lemma Fields.hits {below : Entries} (h : Fields below) (n : String) :
    hits [n] (.table (entrySettings below)) = ((below.lookup n).map Node.setting).toList := by
  rw [hits_of_distinct]
  · rw [lookup_entrySettings]
    cases below.lookup n with
    | none => rfl
    | some node => simp [Settings.hits]
  · rw [entrySettings_names]
    exact h.distinct
  · rw [entrySettings_names]
    intro m hm
    obtain ⟨e, he, rfl⟩ := List.mem_map.mp hm
    obtain ⟨k, hk⟩ := h.named e he
    rw [hk, k.smallLetters_name]

lemma Laid.given (h : Laid d entries) (k : Key) :
    given k.path (entrySettings entries) = ((d k).map k.written).toList := by
  have hnames : ∀ n ∈ (entrySettings entries).map Prod.fst, ∃ k : Key, n = k.sectionName := by
    rw [entrySettings_names]
    intro n hn
    obtain ⟨e, he, rfl⟩ := List.mem_map.mp hn
    exact h.named e he
  obtain ⟨below, hf, hfound, hl⟩ := h.below k
  rw [Key.path, given_of_names, hits_of_distinct, lookup_entrySettings]
  · rcases hl with hl | ⟨hl, rfl⟩
    · rw [hl]
      change Settings.hits [k.name] (Node.setting (.table .dotted below)) = _
      rw [Node.setting, hf.hits, hfound, Option.map_map]
      congr 2
    · rw [hl]
      have hd : d k = none := by simpa using hfound
      rw [hd]
      rfl
  · rw [entrySettings_names]
    exact h.distinct
  · intro n hn
    obtain ⟨j, rfl⟩ := hnames n hn
    exact j.smallLetters_section
  · intro n hn
    obtain ⟨j, rfl⟩ := hnames n hn
    exact j.pathOf_section

end

/-! ### Reading the lines -/

lemma Bare.skipSpace_append {n : String} (hn : Bare n) (rest : List Char) :
    skipSpace (n.toList ++ rest) = n.toList ++ rest := by
  have hb := hn.skipBlanks_append rest
  obtain ⟨c, cs, hc, hname⟩ := hn.exists_cons
  have hne (d : Char) (hd : Toml.isNameChar d = false) : c ≠ d := by
    rintro rfl
    rw [hd] at hname
    exact absurd hname (by decide)
  rw [hc, List.cons_append] at hb ⊢
  have hs : skipComment (c :: (cs ++ rest)) = c :: (cs ++ rest) := by
    simp [skipComment, hne '#' (by decide)]
  have hl : newline? (c :: (cs ++ rest)) = none := by
    simp [newline?, hne '\n' (by decide), hne '\r' (by decide)]
  rw [skipSpace, skipLines, hb, hs, hl]

lemma Key.skipBlanks_token (k : Key) (v : k.Value) (rest : List Char) :
    skipBlanks (' ' :: (k.token v ++ rest)) = k.token v ++ rest := by
  have hh : ∃ c cs, k.token v = c :: cs ∧ isBlank c = false := by
    rcases k with t | w | _
    · exact ⟨'"', _, rfl, by decide⟩
    · obtain ⟨c, cs, hc, hcd⟩ := numeral_head false v []
      have hv : (toString (v : ℕ)).toList = c :: cs := by
        simpa [minus] using hc
      refine ⟨c, cs, hv, ?_⟩
      rcases hcd with rfl | hd
      · decide
      · rw [isBlank, Bool.or_eq_false_iff]
        exact ⟨beq_false_of_ne (ne_of_digit hd (by decide)),
          beq_false_of_ne (ne_of_digit hd (by decide))⟩
    · exact ⟨'"', _, rfl, by decide⟩
  obtain ⟨c, cs, hc, hb⟩ := hh
  have hsp : isBlank ' ' = true := by decide
  rw [hc, List.cons_append, skipBlanks, List.dropWhile_cons, if_pos hsp, List.dropWhile_cons, hb]
  rfl

lemma Laid.line {d : Draft} {entries : Entries} (h : Laid d entries) {k : Key} {v : k.Value}
    (hd : d k = none) (hv : k.Writable v) (more : List Char) :
    ∃ entries', Laid (Function.update d k (some v)) entries' ∧
      Toml.line ⟨[], .table .heading entries⟩ (skipSpace (k.line v ++ more)) =
        some (⟨[], .table .heading entries'⟩, '\n' :: more) := by
  obtain ⟨below, hf, hfound, hl⟩ := h.below k
  rw [hd] at hfound
  refine ⟨_, h.put v hf hl, ?_⟩
  have hend : Ends ('\n' :: more) := by simp [Ends]
  have hvalue : value depthLimit (k.token v ++ '\n' :: more) =
      some (k.written v, '\n' :: more) := value_token hv hend _
  have hline : k.line v ++ more = k.sectionName.toList ++
      '.' :: (k.name.toList ++ ' ' :: '=' :: ' ' :: (k.token v ++ '\n' :: more)) := by
    simp [Key.line]
  rw [hline, k.section_bare.skipSpace_append, line_binding (k.path_line _),
    binding_of_path (k.path_line _), k.skipBlanks_token, hvalue]
  simp [State.bind, descend, setPath_laid hl hfound]

lemma endLine_newline (more : List Char) : endLine ('\n' :: more) = some more := by
  simp [endLine, skipBlanks, isBlank, skipComment, newline?]

def Draft.filled (d file : Draft) (ks : List Key) : Draft := fun k => if k ∈ ks then file k else d k

lemma Draft.filled_cons (d file : Draft) {k : Key} {ks : List Key} (h : k ∉ ks) :
    d.filled file (k :: ks) = filled (Function.update d k (file k)) file ks := by
  funext j
  by_cases hj : j = k
  · subst hj
    simp [filled, h]
  · simp [filled, hj]

lemma Draft.lines_cons (d : Draft) (k : Key) (ks : List Key) :
    d.lines (k :: ks) = (d k).elim [] k.line ++ d.lines ks := List.flatMap_cons

lemma Key.line_length (k : Key) (v : k.Value) : 0 < (k.line v).length := by simp [Key.line]

lemma Laid.lines {d : Draft} (file : Draft) {ks : List Key} {entries : Entries}
    {ahead : List Char} (h : Laid d entries) (hn : ks.Nodup) (hd : ∀ k ∈ ks, d k = none)
    (hw : file.Writable) (ha : (file.lines ks).length ≤ ahead.length) :
    ∃ entries', Laid (d.filled file ks) entries' ∧
      Toml.lines ahead ⟨[], .table .heading entries⟩ (file.lines ks) =
        some ⟨[], .table .heading entries'⟩ := by
  induction ks generalizing d entries ahead with
  | nil =>
    have hnil : d.filled file [] = d := funext fun k => if_neg (by simp)
    refine ⟨entries, hnil ▸ h, ?_⟩
    cases ahead with
    | nil => rfl
    | cons a ahead => rfl
  | cons k ks ih =>
    obtain ⟨hk, hn⟩ := List.nodup_cons.mp hn
    have hdk : d k = none := hd k (by simp)
    have hks : ∀ j ∈ ks, d j = none := fun j hj => hd j (List.mem_cons_of_mem _ hj)
    rw [Draft.filled_cons d file hk]
    rw [Draft.lines_cons] at ha ⊢
    cases hv : file k with
    | none =>
      -- no line, so that the state does not change
      rw [hv] at ha
      have hsame : Function.update d k none = d := by rw [← hdk, Function.update_eq_self]
      rw [hsame]
      exact ih h hn hks ha
    | some v =>
      rw [hv] at ha
      obtain ⟨entries₁, hl, hline⟩ := h.line hdk (hw k v hv) (file.lines ks)
      have hpos := k.line_length v
      cases ahead with
      | nil =>
        simp only [Option.elim_some, List.length_append, List.length_nil] at ha
        omega
      | cons a ahead =>
        simp only [Option.elim_some, List.length_append, List.length_cons] at ha
        have hd₁ : ∀ j ∈ ks, Function.update d k (some v) j = none := by
          intro j hj
          have hjk : j ≠ k := by
            rintro rfl
            exact hk hj
          rw [Function.update_of_ne hjk, hks j hj]
        have ha₁ : (file.lines ks).length ≤ ahead.length := by omega
        obtain ⟨entries', hl', he⟩ := ih hl hn hd₁ ha₁
        exact ⟨entries', hl', (lines_step hline (endLine_newline _)).trans he⟩

lemma Draft.lines_head (d : Draft) (ks : List Key) :
    d.lines ks = [] ∨ ∃ c cs, d.lines ks = c :: cs ∧ Toml.isNameChar c = true := by
  induction ks with
  | nil => exact .inl rfl
  | cons k ks ih =>
    cases hv : d k with
    | none => simpa [Draft.lines_cons, hv] using ih
    | some v =>
      obtain ⟨c, cs, hc, hname⟩ := k.section_bare.exists_cons
      exact .inr ⟨c, _, by rw [lines_cons, hv, Option.elim_some, Key.line, hc]; rfl, hname⟩

theorem Draft.inDocument {d : Draft} (h : d.Writable) : d.InDocument d.document := by
  obtain ⟨entries, hl, he⟩ := laid_nil.lines d Key.all_nodup (by simp) h le_rfl
  have hall : filled (fun _ => none) d Key.all = d := by
    funext k
    exact if_pos k.mem_all
  have hmark : skipMark d.document.toList = d.lines Key.all := by
    rw [Draft.document, String.toList_ofList]
    rcases d.lines_head Key.all with hn | ⟨c, cs, hc, hname⟩
    · rw [hn]
      rfl
    · have hm : c ≠ '\ufeff' := by
        rintro rfl
        exact absurd hname (by decide)
      rw [hc]
      simp [skipMark, hm]
  rw [hall] at hl
  refine ⟨entrySettings entries, ?_, hl.given⟩
  have hs : Toml.lines (d.lines Key.all) State.initial (d.lines Key.all) =
      some ⟨[], .table .heading entries⟩ := he
  simp [parse?, hmark, hs, Node.setting]

/-! ### The variables -/

lemma Draft.mem_exports {d : Draft} {ks : List Key} {v : String × String}
    (h : v ∈ d.exports ks) : ∃ k ∈ ks, v.1 = k.variableName := by
  obtain ⟨k, hk, hv⟩ := List.mem_filterMap.mp h
  obtain ⟨x, -, rfl⟩ := Option.map_eq_some_iff.mp hv
  exact ⟨k, hk, rfl⟩

lemma Draft.exports_cons (d : Draft) (k : Key) (ks : List Key) :
    d.exports (k :: ks) =
      ((d k).map fun v => (k.variableName, k.spelled v)).toList ++ d.exports ks := by
  cases hv : d k <;> simp [exports, hv]

lemma Draft.exports_not_mem (d : Draft) {k : Key} {ks : List Key} (h : k ∉ ks) :
    k.variableName ∉ (d.exports ks).map Prod.fst := by
  intro hm
  obtain ⟨v, hv, hk⟩ := List.mem_map.mp hm
  obtain ⟨j, hj, he⟩ := mem_exports hv
  obtain rfl := variableName_inj (hk.symm.trans he)
  exact h hj

lemma Draft.exports_nodup (d : Draft) {ks : List Key} (h : ks.Nodup) :
    ((d.exports ks).map Prod.fst).Nodup := by
  induction ks with
  | nil => exact List.nodup_nil
  | cons k ks ih =>
    rw [List.nodup_cons] at h
    rw [exports_cons]
    cases d k with
    | none => exact ih h.2
    | some v => exact List.nodup_cons.mpr ⟨d.exports_not_mem h.1, ih h.2⟩

lemma Draft.exports_lookup (d : Draft) {ks : List Key} (h : ks.Nodup) {k : Key} (hk : k ∈ ks) :
    (d.exports ks).lookup k.variableName = (d k).map k.spelled := by
  induction ks with
  | nil => simp at hk
  | cons j ks ih =>
    rw [List.nodup_cons] at h
    rw [exports_cons]
    by_cases hjk : k = j
    · subst hjk
      cases d k with
      | none => exact lookup_of_not_mem (d.exports_not_mem h.1)
      | some v => exact (lookup_entry ..).trans (if_pos rfl)
    · have hm : k ∈ ks := (List.mem_cons.mp hk).resolve_left hjk
      have hne : k.variableName ≠ j.variableName := fun he => hjk (variableName_inj he)
      cases d j with
      | none => exact ih h.2 hm
      | some v => exact (lookup_entry ..).trans ((if_neg hne).trans (ih h.2 hm))

theorem Draft.inEnvironment (d : Draft) : d.InEnvironment d.environment where
  distinct := d.exports_nodup Key.all_nodup
  lookup k := d.exports_lookup Key.all_nodup k.mem_all
  others v hv := by
    obtain ⟨k, -, hk⟩ := mem_exports hv
    exact .inl ⟨k, hk⟩

end Switchboard.Settings
