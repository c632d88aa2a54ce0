import Switchboard.Proofs.Toml.Quoted
import Switchboard.Proofs.Toml.Shortening
import Switchboard.Proofs.Toml.Tables

/-! What a document says of a number: a line that sets it, below a heading or not, with a dotted
name or not, as itself or in braces. What is so said is found in the settings of the document. -/

namespace Switchboard.Toml

open Settings

/-- Where a line of a document begins, or blank lines before it, and what has been read by then. -/
inductive Reaches (text : String) : State → List Char → Prop
  | start : Reaches text .initial (skipMark text.toList)
  | line {s s' : State} {cs rest rest' : List Char} (h : Reaches text s cs)
      (hl : line s (skipSpace cs) = some (s', rest)) (he : endLine rest = some rest') :
      Reaches text s' rest'

inductive Later (scan : Scan Setting) : List Char → List Char → Prop
  | here (cs : List Char) : Later scan cs cs
  | next {cs cs' cs'' rest : List Char} {b : List String × Setting}
      (hb : binding scan cs = some (b, rest)) (hc : skipBlanks rest = ',' :: cs')
      (h : Later scan cs' cs'') : Later scan cs cs''

/-- The text of a value that has the numeral of a number under a path of names: the numeral itself,
as it is or in quotes, or a table in braces with such a value. -/
inductive Puts (n : ℤ) : ℕ → List String → List Char → Prop
  | numeral {depth : ℕ} {after : List Char} (ha : Ends after) :
      Puts n (depth + 1) [] ((toString n).toList ++ after)
  | quoted {depth : ℕ} {after : List Char} (ha : Ends after) :
      Puts n (depth + 1) [] ('"' :: ((toString n).toList ++ '"' :: after))
  | braces {depth : ℕ} {names below : List String} {cs cs' rest : List Char}
      (hl : Later (value depth) (skipBlanks cs) cs') (hp : path cs' = some (names, '=' :: rest))
      (h : Puts n depth below (skipBlanks rest)) :
      Puts n (depth + 1) (names ++ below) ('\x7b' :: cs)

inductive Binds (text : String) (n : ℤ) : List String → Prop
  | line {s : State} {names below : List String} {cs rest : List Char} (hr : Reaches text s cs)
      (hp : path (skipSpace cs) = some (names, '=' :: rest))
      (h : Puts n depthLimit below (skipBlanks rest)) :
      Binds text n (s.heading ++ (names ++ below))

lemma dottedName_of_name {cs : List Char} (h : name (skipBlanks cs) = none) (fuel : ℕ) :
    dottedName fuel cs = none := by
  cases fuel with
  | zero => rfl
  | succ fuel => simp [dottedName, h]

lemma path_mark {c : Char} (hb : isBlank c = false) (hn : isNameChar c = false)
    (hq : c ≠ '"' ∧ c ≠ '\'') (cs : List Char) : path (c :: cs) = none := by
  have hs : skipBlanks (c :: cs) = c :: cs := by simp [skipBlanks, hb]
  exact dottedName_of_name (by simp [hs, name, hn, shortText, hq]) _

lemma path_nil : path [] = none := dottedName_of_name rfl _

lemma ofInt?_eq_some {n : ℤ} {s : Setting} (h : Setting.ofInt? n = some s) : s = .whole n := by
  rw [Setting.ofInt?, Option.ite_none_right_eq_some] at h
  exact (Option.some.inj h.2).symm

lemma later_not_brace {scan : Scan Setting} {cs cs' rest : List Char} {names : List String}
    (hl : Later scan ('}' :: cs) cs') : path cs' ≠ some (names, '=' :: rest) := by
  have hp : path ('}' :: cs) = none := path_mark (by decide) (by decide) (by decide) cs
  cases hl with
  | here => simp [hp]
  | next hb => simp [binding, hp] at hb

lemma binding_of_path {scan : Scan Setting} {cs rest : List Char} {names : List String}
    (hp : path cs = some (names, '=' :: rest)) :
    binding scan cs = (scan (skipBlanks rest)).map fun r => ((names, r.1), r.2) := by
  simp only [binding, hp, Option.bind_eq_bind, Option.bind_some]
  exact Option.map_eq_bind.symm

lemma later_bindings {scan : Scan Setting} {ahead cs cs' rest end' : List Char}
    {names : List String} {bs : List (List String × Setting)} (hl : Later scan cs cs')
    (hp : path cs' = some (names, '=' :: rest)) (h : bindings scan ahead cs = some (bs, end')) :
    ∃ s r, scan (skipBlanks rest) = some (s, r) ∧ (names, s) ∈ bs := by
  induction hl generalizing ahead bs end' with
  | here cs =>
    cases ahead with
    | nil => simp [bindings] at h
    | cons a ahead =>
      simp only [bindings, Option.bind_eq_bind, Option.bind_eq_some_iff, Prod.exists] at h
      obtain ⟨ns, s, c₁, hb, h⟩ := h
      rw [binding_of_path hp] at hb
      obtain ⟨⟨s', r⟩, hs, he⟩ := Option.map_eq_some_iff.mp hb
      simp only [Prod.mk.injEq] at he
      obtain ⟨⟨rfl, rfl⟩, rfl⟩ := he
      refine ⟨s', r, hs, ?_⟩
      split at h
      · simp only [Option.bind_eq_some_iff, Prod.exists] at h
        obtain ⟨bs', c₂, -, h⟩ := h
        obtain ⟨rfl, -⟩ := Prod.mk.inj (Option.some.inj h)
        simp
      · obtain ⟨rfl, -⟩ := Prod.mk.inj (Option.some.inj h)
        simp
      · simp at h
  | next hb hc _ ih =>
    cases ahead with
    | nil => simp [bindings] at h
    | cons a ahead =>
      simp only [bindings, hb, hc, Option.bind_eq_bind, Option.bind_some,
        Option.bind_eq_some_iff, Prod.exists] at h
      obtain ⟨bs', c₂, hbs, h⟩ := h
      obtain ⟨rfl, -⟩ := Prod.mk.inj (Option.some.inj h)
      obtain ⟨s, r, hs, hm⟩ := ih hp hbs
      exact ⟨s, r, hs, List.mem_cons_of_mem _ hm⟩

lemma Puts.within {n : ℤ} {depth : ℕ} {names : List String} {cs rest : List Char} {s : Setting}
    (h : Puts n depth names cs) (hv : value depth cs = some (s, rest)) :
    ∃ x, Gives n x ∧ Within names x s := by
  induction h generalizing s rest with
  | numeral ha =>
    rw [value_numeral ha] at hv
    obtain ⟨s', hs, he⟩ := Option.map_eq_some_iff.mp hv
    obtain rfl := ofInt?_eq_some hs
    obtain ⟨rfl, -⟩ := Prod.mk.inj he
    exact ⟨_, .whole, .here _⟩
  | @quoted depth after ha =>
    have hq := value_quoted (toString n) ha depth
    rw [quoted_numeral, List.cons_append, List.append_assoc] at hq
    obtain ⟨rfl, -⟩ := Prod.mk.inj (Option.some.inj (hq.symm.trans hv))
    exact ⟨_, .text, .here _⟩
  | @braces depth names below cs cs' rest' hl hp _ ih =>
    rw [value, Option.ite_none_left_eq_some, inlineTable] at hv
    split at hv
    · next hc =>
      rw [hc] at hl
      exact absurd hp (later_not_brace hl)
    · simp only [Option.bind_eq_bind, Option.bind_eq_some_iff, Prod.exists] at hv
      obtain ⟨-, bs, c₁, hb, node, hn, hv⟩ := hv
      obtain ⟨rfl, -⟩ := Prod.mk.inj (Option.some.inj hv)
      obtain ⟨s', r, hs, hm⟩ := later_bindings hl hp hb
      obtain ⟨x, hx, hw⟩ := ih hs
      exact ⟨x, hx, (setAll_has hm hw hn).setting⟩

lemma lines_step {s s' : State} {a : Char} {ahead cs rest rest' : List Char}
    (hl : line s (skipSpace cs) = some (s', rest)) (he : endLine rest = some rest') :
    lines (a :: ahead) s cs = lines ahead s' rest' := by
  rw [lines]
  split
  · next hc =>
    have := line_length hl
    simp [hc] at this
  · simp [hl, he]

lemma Reaches.lines {text : String} {s : State} {cs : List Char} (h : Reaches text s cs) :
    ∃ ahead : List Char, cs.length ≤ ahead.length ∧
      Toml.lines (skipMark text.toList) .initial (skipMark text.toList) =
        Toml.lines ahead s cs := by
  induction h with
  | start => exact ⟨_, le_rfl, rfl⟩
  | @line s s' cs rest rest' _ hl he ih =>
    obtain ⟨ahead, ha, hi⟩ := ih
    have := line_length hl
    have := skipSpace_length cs
    have := endLine_length he
    cases ahead with
    | nil =>
      rw [List.length_nil] at ha
      omega
    | cons a ahead =>
      rw [List.length_cons] at ha
      exact ⟨ahead, by omega, hi.trans (lines_step hl he)⟩

lemma line_binding {s : State} {cs rest : List Char} {names : List String}
    (hp : path cs = some (names, '=' :: rest)) :
    line s cs = (do
      let ((names, v), rest) ← binding (value depthLimit) cs
      return (← s.bind names v, rest)) := by
  have hb : ∀ r, cs ≠ '[' :: r := by
    rintro r rfl
    simp [path_mark (c := '[') (by decide) (by decide) (by decide) r] at hp
  rw [line]
  · exact fun r hr => hb _ hr
  · exact hb

theorem Binds.within {text : String} {n : ℤ} {names : List String}
    {layer : List (String × Setting)} (h : Binds text n names) (hp : parse? text = some layer) :
    ∃ x, Gives n x ∧ Within names x (.table layer) := by
  obtain @⟨s, names, below, cs, rest, hr, hpath, hputs⟩ := h
  obtain ⟨ahead, ha, hi⟩ := hr.lines
  simp only [parse?, Option.bind_eq_bind, Option.bind_eq_some_iff] at hp
  obtain ⟨s₁, hs₁, hp⟩ := hp
  rw [hi] at hs₁
  have hroot : s₁.root.setting = .table layer := by
    split at hp
    · next hr =>
      obtain rfl := Option.some.inj hp
      exact hr
    · simp at hp
  -- the line is read in the state that was reached, and what it sets stays to the end
  have hne : skipSpace cs ≠ [] := fun hc => by simp [hc, path_nil] at hpath
  have hlen := skipSpace_length cs
  cases ahead with
  | nil =>
    have := List.length_pos_iff.mpr hne
    rw [List.length_nil] at ha
    omega
  | cons a ahead =>
    rw [Toml.lines] at hs₁
    split at hs₁
    · next hc => exact absurd hc hne
    · simp only [line_binding hpath, binding_of_path hpath, Option.bind_eq_bind,
        Option.bind_eq_some_iff, Option.map_eq_some_iff, Prod.exists] at hs₁
      obtain ⟨s', r, ⟨_, v, _, ⟨_, _, hv, he⟩, _, hb, hs'⟩, c', -, hl⟩ := hs₁
      simp only [Prod.mk.injEq] at he
      obtain ⟨⟨rfl, rfl⟩, rfl⟩ := he
      obtain ⟨rfl, rfl⟩ := Prod.mk.inj (Option.some.inj hs')
      obtain ⟨x, hx, hw⟩ := hputs.within hv
      exact ⟨x, hx, hroot ▸ (lines_grows hl _ _ (bind_has hw hb)).setting⟩

end Switchboard.Toml
