import Switchboard.Proofs.Json.Grammar
import Switchboard.Proofs.Json.Records

/-! The texts that a tree can be rendered as, with blanks between the tokens, strings spelled in any
way and members in any order. Values are read from all of them, and records also if there are
members of other names. -/

namespace Switchboard.Json

open Switchboard.Text

/-! ### Texts with parts -/

inductive ItemsText : Bool → List Octets → Octets → Prop
  | nil {first ws} : Blank ws → ItemsText first [] (ws ++ [listClose])
  | cons {first sep v vs t} : Lead first sep → ItemsText false vs t →
      ItemsText first (v :: vs) (sep ++ (v ++ t))

inductive MembersText : Bool → List (String × Octets) → Octets → Prop
  | nil {first ws} : Blank ws → MembersText first [] (ws ++ [objectClose])
  | cons {first sep name spelled before after v ms t} : Lead first sep →
      Spelling (octets name) spelled → Blank before → Blank after → MembersText false ms t →
      MembersText first ((name, v) :: ms)
        (sep ++ quote :: (spelled ++ quote :: (before ++ colon :: (after ++ (v ++ t)))))

/-- A tree without numbers, and a text with the same value. -/
inductive Renders : Tree → Octets → Prop
  | null : Renders .null (octets "null")
  | bool (b : Bool) : Renders (.bool b) (octets (if b then "true" else "false"))
  | string {s t} : Spelling (octets s) t → Renders (.string s) (quote :: (t ++ [quote]))
  | list {items t} {parts : List (Tree × Octets)} : items = parts.map Prod.fst →
      (∀ p ∈ parts, Renders p.1 p.2) → ItemsText true (parts.map Prod.snd) t →
      Renders (.list items) (listOpen :: t)
  | object {members t} {parts : List (String × Tree × Octets)} :
      members.Perm (parts.map fun p => (p.1, p.2.1)) → (∀ p ∈ parts, Renders p.2.1 p.2.2) →
      MembersText true (parts.map fun p => (p.1, p.2.2)) t →
      Renders (.object members) (objectOpen :: t)

/-- Objects with these members, rendered in any order, and any values of other names. -/
inductive Rearranged (members : List (String × Tree)) : Octets → Prop
  | object {t} {own : List (String × Tree × Octets)} {other entries : List (String × Octets)} :
      members.Perm (own.map fun p => (p.1, p.2.1)) → (∀ p ∈ own, Renders p.2.1 p.2.2) →
      (∀ e ∈ other, e.1 ∉ members.map Prod.fst ∧ IsText .value e.2) →
      entries.Perm (own.map (fun p => (p.1, p.2.2)) ++ other) → MembersText true entries t →
      Rearranged members (objectOpen :: t)

lemma ItemsText.ends {vs : List Octets} {t : Octets} (h : ItemsText false vs t) (rest : Octets) :
    Ends (t ++ rest) := by
  cases h with
  | nil hw =>
    rw [List.append_assoc]
    exact ends_blank hw (ends_cons (.inr (.inl rfl)) _)
  | cons hs _ =>
    rw [List.append_assoc]
    exact hs.ends _

lemma MembersText.ends {ms : List (String × Octets)} {t : Octets} (h : MembersText false ms t)
    (rest : Octets) : Ends (t ++ rest) := by
  cases h with
  | nil hw =>
    rw [List.append_assoc]
    exact ends_blank hw (ends_cons (.inr (.inr rfl)) _)
  | cons hs _ _ _ _ =>
    rw [List.append_assoc]
    exact hs.ends _

lemma ItemsText.length_lt {first : Bool} {vs : List Octets} {t : Octets}
    (h : ItemsText first vs t) (hv : ∀ v ∈ vs, v ≠ []) : vs.length < t.length := by
  induction h with
  | nil _ => simp
  | @cons _ _ v _ _ _ _ ih =>
    have hi := ih fun v hv' => hv v (List.mem_cons_of_mem _ hv')
    have hp := List.length_pos_of_ne_nil (hv v List.mem_cons_self)
    simp only [List.length_append, List.length_cons]
    omega

lemma Renders.ne_nil {t : Tree} {text : Octets} (h : Renders t text) : text ≠ [] := by
  cases h with
  | null => decide
  | bool b => cases b <;> decide
  | _ => exact List.cons_ne_nil _ _

lemma MembersText.length_lt {first : Bool} {ms : List (String × Octets)} {t : Octets}
    (h : MembersText first ms t) : ms.length < t.length := by
  induction h with
  | nil _ => simp
  | cons _ _ _ _ _ ih =>
    simp only [List.length_append, List.length_cons]
    omega

/-! ### Readers of a rendering -/

structure Codec.Takes {α : Type} (c : Codec α) (levels : ℕ) (a : α) (text : Octets) : Prop where
  opens : ∃ b bs, text = b :: bs ∧ isBlank b = false ∧ b ≠ listClose
  reads : ∀ depth, levels ≤ depth → ∀ ws rest, Blank ws → Ends rest →
    c.read depth (ws ++ (text ++ rest)) = .ok (a, rest)

def Codec.Knows {α : Type} (c : Codec α) (levels : ℕ) (a : α) (t : Tree) : Prop :=
  ∀ text, Renders t text → c.Takes levels a text

lemma readString_spelled {s : String} {t : Octets} (h : Spelling (octets s) t) (depth : ℕ)
    {ws : Octets} (hw : Blank ws) (rest : Octets) :
    readString depth (ws ++ quote :: (t ++ quote :: rest)) = .ok (s, rest) := by
  have hq : isBlank quote = false := by decide
  simp only [readString, skipBlank_blank_cons hw hq, stringBody_spelled h, if_true]

lemma string_knows (n : ℕ) (s : String) : Codec.string.Knows n s (.string s) := by
  intro text ht
  cases ht with | string h =>
  refine ⟨⟨_, _, rfl, by decide, by decide⟩, fun depth _ ws rest hw _ => ?_⟩
  rw [List.cons_append, List.append_assoc]
  exact readString_spelled h depth hw rest

lemma ofText_knows {α : Type} {print : α → String} {parse : String → Option α} {a : α} (n : ℕ)
    (h : parse (print a) = some a) : (Codec.ofText print parse).Knows n a (.string (print a)) := by
  intro text ht
  obtain ⟨ho, hr⟩ := string_knows n (print a) text ht
  refine ⟨ho, fun depth hd ws rest hw he => ?_⟩
  have hs : readString depth (ws ++ (text ++ rest)) = .ok (print a, rest) :=
    hr depth hd ws rest hw he
  simp [Codec.ofText, hs, h, bind, Except.bind, pure, Except.pure]

lemma bool_knows (n : ℕ) (b : Bool) : Codec.bool.Knows n b (.bool b) := by
  intro text ht
  cases ht
  have hblank : isBlank (ascii 't') = false ∧ isBlank (ascii 'f') = false := by decide
  refine ⟨by cases b <;> exact ⟨_, _, rfl, by decide, by decide⟩, fun depth _ ws rest hw _ => ?_⟩
  cases b with
  | true =>
    have hs := skipBlank_blank_cons hw hblank.1 (octets "rue" ++ rest)
    change readBool depth (ws ++ ascii 't' :: (octets "rue" ++ rest)) = _
    rw [readBool, hs]
    rfl
  | false =>
    have hs := skipBlank_blank_cons hw hblank.2 (octets "alse" ++ rest)
    change readBool depth (ws ++ ascii 'f' :: (octets "alse" ++ rest)) = _
    rw [readBool, hs]
    rfl

/-! ### Lists -/

lemma nextElement_end {ws : Octets} (hw : Blank ws) (first : Bool) (rest : Octets) :
    nextElement first (ws ++ listClose :: rest) = .ok (false, listClose :: rest) := by
  have hc : isBlank listClose = false := by decide
  simp [nextElement, skipBlank_blank_cons hw hc]

lemma nextElement_lead {first : Bool} {sep : Octets} (hs : Lead first sep) {b : UInt8}
    (hb : isBlank b = false) (hc : b ≠ listClose) (rest : Octets) :
    nextElement first (sep ++ b :: rest) = .ok (true, b :: rest) := by
  cases first with
  | true => simp [nextElement, skipBlank_blank_cons hs hb, hc]
  | false =>
    obtain ⟨before, after, hbefore, hafter, rfl⟩ := hs
    have hcomma : isBlank comma = false := by decide
    have hcl : comma ≠ listClose := by decide
    simp [nextElement, skipBlank_blank_cons hbefore hcomma, skipBlank_blank_cons hafter hb, hc, hcl]

lemma readElements_rendered {α : Type} {c : Codec α} {levels depth : ℕ} (hd : levels ≤ depth)
    {first : Bool} {vs : List Octets} {t : Octets} (ht : ItemsText first vs t) {as : List α}
    (h : List.Forall₂ (c.Takes levels) as vs) (ahead rest : Octets)
    (hl : vs.length < ahead.length) :
    readElements c.read depth ahead first (t ++ rest) = .ok (as, rest) := by
  induction ht generalizing as ahead with
  | @nil first ws hw =>
    obtain ⟨x, ahead, rfl⟩ := List.exists_cons_of_length_pos (Nat.zero_lt_of_lt hl)
    obtain rfl := List.forall₂_nil_right_iff.mp h
    have hc : skipBlank (listClose :: rest) = listClose :: rest := by
      rw [skipBlank, List.dropWhile_cons_of_neg (by decide)]
    simp [readElements, nextElement_end hw, endList, hc, bind, Except.bind, pure, Except.pure]
  | @cons first sep v vs t hs ht ih =>
    obtain ⟨x, ahead, rfl⟩ := List.exists_cons_of_length_pos (Nat.zero_lt_of_lt hl)
    obtain ⟨a, as, ha, has, rfl⟩ := List.forall₂_cons_right_iff.mp h
    have hr := ha.reads depth hd [] (t ++ rest) (List.forall_mem_nil _) (ht.ends rest)
    have hi := ih has ahead (by simpa using hl)
    obtain ⟨b, bs, rfl, hb, hc⟩ := ha.opens
    have hn := nextElement_lead hs hb hc (bs ++ (t ++ rest))
    simp only [List.nil_append, List.cons_append] at hr
    simp [readElements, hn, hr, hi, bind, Except.bind, pure, Except.pure]

lemma takes_parts {α β : Type} {c : Codec α} {n : ℕ} {f : β → α} {form : β → Tree} (bs : List β)
    (h : ∀ b ∈ bs, c.Knows n (f b) (form b)) (parts : List (Tree × Octets))
    (hp : bs.map form = parts.map Prod.fst) (hr : ∀ p ∈ parts, Renders p.1 p.2) :
    List.Forall₂ (c.Takes n) (bs.map f) (parts.map Prod.snd) := by
  induction bs generalizing parts with
  | nil =>
    obtain rfl := List.map_eq_nil_iff.mp hp.symm
    exact .nil
  | cons b bs ih =>
    obtain ⟨p, parts, rfl, hb, hbs⟩ := List.map_eq_cons_iff.mp hp.symm
    have hv := hr p (by simp)
    rw [hb] at hv
    exact .cons (h b (by simp) _ hv) (ih (fun b hb => h b (by simp [hb])) parts hbs.symm
      fun p hp => hr p (by simp [hp]))

lemma list_knows {α β : Type} {c : Codec α} {n : ℕ} (hn : 1 ≤ n) {f : β → α} {form : β → Tree}
    (bs : List β) (h : ∀ b ∈ bs, c.Knows n (f b) (form b)) :
    (Codec.list c).Knows (n + 1) (bs.map f) (.list (bs.map form)) := by
  intro text htext
  cases htext with | @list _ t parts hp hr ht =>
  refine ⟨⟨_, _, rfl, by decide, by decide⟩, fun depth hd ws rest hw _ => ?_⟩
  have hb : isBlank listOpen = false := by decide
  have hl : (parts.map Prod.snd).length < (t ++ rest).length := by
    have hne : ∀ v ∈ parts.map Prod.snd, v ≠ [] := by
      intro v hv
      obtain ⟨p, hp, rfl⟩ := List.mem_map.mp hv
      exact (hr p hp).ne_nil
    rw [List.length_append]
    exact Nat.lt_add_right _ (ht.length_lt hne)
  have he := readElements_rendered (show n ≤ depth - 1 by omega) ht (takes_parts bs h parts hp hr)
    (t ++ rest) rest hl
  rw [List.cons_append]
  simp only [Codec.list, readList, skipBlank_blank_cons hw hb, if_true]
  rw [nested_eq _ (by omega), he]

/-! ### Objects -/

lemma nextName_close {ws : Octets} (hw : Blank ws) (first : Bool) (rest : Octets) :
    nextName first (ws ++ objectClose :: rest) = .ok (false, objectClose :: rest) := by
  have hc : isBlank objectClose = false := by decide
  simp [nextName, skipBlank_blank_cons hw hc]

lemma nextName_lead {first : Bool} {sep : Octets} (hs : Lead first sep) (rest : Octets) :
    nextName first (sep ++ quote :: rest) = .ok (true, rest) := by
  have hq : isBlank quote = false := by decide
  have hqo : quote ≠ objectClose := by decide
  cases first with
  | true => simp [nextName, skipBlank_blank_cons hs hq, hqo]
  | false =>
    obtain ⟨before, after, hbefore, hafter, rfl⟩ := hs
    have hcomma : isBlank comma = false := by decide
    have hco : comma ≠ objectClose := by decide
    simp [nextName, skipBlank_blank_cons hbefore hcomma, skipBlank_blank_cons hafter hq, hco]

lemma readColon_blank {ws : Octets} (hw : Blank ws) (rest : Octets) :
    readColon (ws ++ colon :: rest) = .ok rest := by
  have hc : isBlank colon = false := by decide
  simp [readColon, skipBlank_blank_cons hw hc]

/-! ### Records -/

def Row.Knows (levels : ℕ) : (fs : List Field) → Row fs → List (String × Tree) → Prop
  | [], _, ms => ms = []
  | f :: fs, (a, row), (name, t) :: ms =>
    name = f.name ∧ f.codec.Knows levels a t ∧ Row.Knows levels fs row ms
  | _ :: _, _, [] => False

lemma Row.Knows.names {levels : ℕ} {fs : List Field} {row : Row fs} {ms : List (String × Tree)}
    (h : Row.Knows levels fs row ms) : ms.map Prod.fst = fs.map Field.name := by
  induction fs generalizing ms with
  | nil =>
    obtain rfl : ms = [] := h
    rfl
  | cons f fs ih =>
    obtain ⟨a, row⟩ := row
    cases ms with
    | nil => exact absurd h id
    | cons m ms =>
      obtain ⟨name, t⟩ := m
      obtain ⟨rfl, -, hr⟩ := h
      simp [ih hr]

def Slots.met : (fs : List Field) → Row fs → List String → Slots fs
  | [], _, _ => ()
  | f :: fs, (a, row), seen => (if f.name ∈ seen then some a else none, Slots.met fs row seen)

lemma Slots.met_nil (fs : List Field) (row : Row fs) : Slots.met fs row [] = Slots.empty fs := by
  induction fs with
  | nil => rfl
  | cons f fs ih =>
    obtain ⟨a, row⟩ := row
    simp only [Slots.met, Slots.empty, List.not_mem_nil, if_false, ih row]
    rfl

lemma Slots.met_other {fs : List Field} {name : String} (h : name ∉ fs.map Field.name)
    (row : Row fs) (seen : List String) :
    Slots.met fs row (name :: seen) = Slots.met fs row seen := by
  induction fs with
  | nil => rfl
  | cons f fs ih =>
    obtain ⟨a, row⟩ := row
    simp only [List.map_cons, List.mem_cons, not_or] at h
    have hf : f.name ∈ name :: seen ↔ f.name ∈ seen := by simp [Ne.symm h.1]
    simp only [Slots.met, hf, ih h.2 row]
    rfl

lemma Slots.close_met {fs : List Field} {seen : List String}
    (h : ∀ name ∈ fs.map Field.name, name ∈ seen) (row : Row fs) :
    Slots.close fs (Slots.met fs row seen) = .ok row := by
  induction fs with
  | nil => rfl
  | cons f fs ih =>
    obtain ⟨a, row⟩ := row
    have hf : f.name ∈ seen := h f.name (by simp)
    simp [Slots.met, Slots.close, hf, ih (fun n hn => h n (by simp [hn])) row, Except.map]

/-- What may come as a member when members of some names were met: a new one of the row, or any
value of another name. -/
def Comes (ms : List (String × Tree)) (seen : List String) (e : String × Octets) : Prop :=
  (e.1 ∉ seen ∧ ∃ t, (e.1, t) ∈ ms ∧ Renders t e.2) ∨
    (e.1 ∉ ms.map Prod.fst ∧ IsText .value e.2)

lemma readMember_own {levels depth : ℕ} (hd : levels ≤ depth) {fs : List Field} {row : Row fs}
    {ms : List (String × Tree)} (hr : Row.Knows levels fs row ms)
    (hf : (fs.map Field.name).Nodup) {name : String} {t : Tree} (hm : (name, t) ∈ ms)
    {seen : List String} (hs : name ∉ seen) {v : Octets} (hv : Renders t v) {before after : Octets}
    (hb : Blank before) (ha : Blank after) {rest : Octets} (he : Ends rest) :
    readMember name depth fs (Slots.met fs row seen)
        (before ++ colon :: (after ++ (v ++ rest))) =
      .ok (Slots.met fs row (name :: seen), rest) := by
  -- on the fields before the one of that name
  induction fs generalizing ms with
  | nil =>
    obtain rfl : ms = [] := hr
    exact absurd hm List.not_mem_nil
  | cons f fs ih =>
    obtain ⟨a, row⟩ := row
    cases ms with
    | nil => exact absurd hr id
    | cons m ms =>
      obtain ⟨name', t'⟩ := m
      obtain ⟨rfl, hk, hr⟩ := hr
      obtain ⟨hnot, hf⟩ := List.nodup_cons.mp hf
      rcases List.mem_cons.mp hm with heq | hm
      · obtain ⟨rfl, rfl⟩ := Prod.mk.inj heq
        have hread := (hk v hv).reads depth hd after rest ha he
        simp [readMember, Slots.met, hs, readColon_blank hb, hread, Slots.met_other hnot, bind,
          Except.bind, pure, Except.pure]
      · have hin : name ∈ fs.map Field.name := by
          rw [← hr.names]
          exact List.mem_map_of_mem (f := Prod.fst) hm
        have hne : f.name ≠ name := fun heq => hnot (heq ▸ hin)
        simp [readMember, Slots.met, hne, ih hr hf hm, Except.map]

lemma readMember_other {fs : List Field} {name : String} (hn : name ∉ fs.map Field.name)
    (depth : ℕ) (slots : Slots fs) {v : Octets} (hv : IsText .value v) {before after : Octets}
    (hb : Blank before) (ha : Blank after) {rest : Octets} (he : Ends rest) :
    readMember name depth fs slots (before ++ colon :: (after ++ (v ++ rest))) =
      .ok (slots, rest) := by
  induction fs with
  | nil =>
    simp only [readMember, readColon_blank hb, skipValue_text hv ha he, bind, Except.bind, pure,
      Except.pure]
    rfl
  | cons f fs ih =>
    obtain ⟨slot, slots⟩ := slots
    simp only [List.map_cons, List.mem_cons, not_or] at hn
    simp [readMember, Ne.symm hn.1, ih hn.2 slots, Except.map]

lemma readMember_comes {levels depth : ℕ} (hd : levels ≤ depth) {fs : List Field} {row : Row fs}
    {ms : List (String × Tree)} (hr : Row.Knows levels fs row ms)
    (hf : (fs.map Field.name).Nodup) {seen : List String} {name : String} {v : Octets}
    (hc : Comes ms seen (name, v)) {before after : Octets} (hb : Blank before) (ha : Blank after)
    {rest : Octets} (he : Ends rest) :
    readMember name depth fs (Slots.met fs row seen)
        (before ++ colon :: (after ++ (v ++ rest))) =
      .ok (Slots.met fs row (name :: seen), rest) := by
  rcases hc with ⟨hs, t, hm, hv⟩ | ⟨hn, hv⟩
  · exact readMember_own hd hr hf hm hs hv hb ha he
  · have hn : name ∉ fs.map Field.name := hr.names ▸ hn
    rw [readMember_other hn depth _ hv hb ha he, Slots.met_other hn]

def Arrives (ms : List (String × Tree)) : List String → List (String × Octets) → Prop
  | _, [] => True
  | seen, e :: es => Comes ms seen e ∧ Arrives ms (e.1 :: seen) es

lemma readSlots_rendered {levels depth : ℕ} (hd : levels ≤ depth) {fs : List Field} {row : Row fs}
    {ms : List (String × Tree)} (hr : Row.Knows levels fs row ms)
    (hf : (fs.map Field.name).Nodup) {first : Bool} {entries : List (String × Octets)} {t : Octets}
    (ht : MembersText first entries t) {seen : List String} (hc : Arrives ms seen entries)
    (ahead rest : Octets) (hl : entries.length < ahead.length) :
    readSlots fs depth ahead first (Slots.met fs row seen) (t ++ rest) =
      .ok (Slots.met fs row ((entries.map Prod.fst).reverse ++ seen), objectClose :: rest) := by
  induction ht generalizing seen ahead with
  | @nil first ws hw =>
    obtain ⟨x, ahead, rfl⟩ := List.exists_cons_of_length_pos (Nat.zero_lt_of_lt hl)
    simp [readSlots, nextName_close hw, bind, Except.bind, pure, Except.pure]
  | @cons first sep name spelled before after v es t hs hn hb ha ht ih =>
    obtain ⟨x, ahead, rfl⟩ := List.exists_cons_of_length_pos (Nat.zero_lt_of_lt hl)
    obtain ⟨hcome, hc⟩ := hc
    have hm := readMember_comes hd hr hf hcome hb ha (ht.ends rest)
    have hi := ih hc ahead (by simpa using hl)
    simp [readSlots, nextName_lead hs, stringBody_spelled hn, hm, hi, bind, Except.bind]

lemma arrives_of_nodup {ms : List (String × Tree)} (entries : List (String × Octets))
    (seen : List String)
    (hin : ∀ e ∈ entries, (∃ t, (e.1, t) ∈ ms ∧ Renders t e.2) ∨
      (e.1 ∉ ms.map Prod.fst ∧ IsText .value e.2))
    (hseen : ∀ e ∈ entries, e.1 ∈ ms.map Prod.fst → e.1 ∉ seen)
    (hnodup : ((entries.map Prod.fst).filter (· ∈ ms.map Prod.fst)).Nodup) :
    Arrives ms seen entries := by
  induction entries generalizing seen with
  | nil => trivial
  | cons e es ih =>
    refine ⟨?_, ih (e.1 :: seen) (fun e' he' => hin e' (by simp [he'])) ?_ ?_⟩
    · rcases hin e (by simp) with ⟨t, hm, hv⟩ | ho
      · exact .inl ⟨hseen e (by simp) (List.mem_map_of_mem (f := Prod.fst) hm), t, hm, hv⟩
      · exact .inr ho
    · intro e' he' hm hs
      rcases List.mem_cons.mp hs with heq | hs
      · have hm' : e.1 ∈ ms.map Prod.fst := heq ▸ hm
        rw [List.map_cons, List.filter_cons_of_pos (by simpa using hm')] at hnodup
        refine (List.nodup_cons.mp hnodup).1 ?_
        rw [← heq]
        exact List.mem_filter.mpr ⟨List.mem_map_of_mem (f := Prod.fst) he', by simpa using hm⟩
      · exact hseen e' (by simp [he']) hm hs
    · rw [List.map_cons] at hnodup
      exact hnodup.sublist ((List.sublist_cons_self _ _).filter _)

section

variable {ms : List (String × Tree)} {own : List (String × Tree × Octets)}
  {other entries : List (String × Octets)}

lemma own_names (hown : ms.Perm (own.map fun p => (p.1, p.2.1))) :
    (ms.map Prod.fst).Perm (own.map Prod.fst) := by
  have h := hown.map Prod.fst
  rwa [List.map_map] at h

lemma entries_names (hperm : entries.Perm (own.map (fun p => (p.1, p.2.2)) ++ other)) :
    (entries.map Prod.fst).Perm (own.map Prod.fst ++ other.map Prod.fst) := by
  have h := hperm.map Prod.fst
  rwa [List.map_append, List.map_map] at h

lemma arrives_rearranged (hms : (ms.map Prod.fst).Nodup)
    (hown : ms.Perm (own.map fun p => (p.1, p.2.1))) (hr : ∀ p ∈ own, Renders p.2.1 p.2.2)
    (hother : ∀ e ∈ other, e.1 ∉ ms.map Prod.fst ∧ IsText .value e.2)
    (hperm : entries.Perm (own.map (fun p => (p.1, p.2.2)) ++ other)) : Arrives ms [] entries := by
  refine arrives_of_nodup entries [] (fun e he => ?_) (fun _ _ _ => List.not_mem_nil) ?_
  · rcases List.mem_append.mp (hperm.mem_iff.mp he) with h | h
    · obtain ⟨p, hp, rfl⟩ := List.mem_map.mp h
      exact .inl ⟨p.2.1, hown.mem_iff.mpr (List.mem_map_of_mem hp), hr p hp⟩
    · exact .inr (hother e h)
  · have hkept : (own.map Prod.fst).filter (· ∈ ms.map Prod.fst) = own.map Prod.fst :=
      List.filter_eq_self.mpr fun n hn => by simpa using (own_names hown).mem_iff.mpr hn
    have hdropped : (other.map Prod.fst).filter (· ∈ ms.map Prod.fst) = [] := by
      refine List.filter_eq_nil_iff.mpr fun n hn => ?_
      obtain ⟨e, he, rfl⟩ := List.mem_map.mp hn
      simpa using (hother e he).1
    have hf := (entries_names hperm).filter (· ∈ ms.map Prod.fst)
    rw [List.filter_append, hkept, hdropped, List.append_nil] at hf
    exact hf.nodup_iff.mpr ((own_names hown).nodup_iff.mp hms)

end

lemma record_takes {α : Type} {fs : List Field} {toRow : α → Row fs} {ofRow : Row fs → α}
    {levels : ℕ} {a : α} {ms : List (String × Tree)} (hf : (fs.map Field.name).Nodup)
    (hl : 1 ≤ levels) (hr : Row.Knows levels fs (toRow a) ms) (ha : ofRow (toRow a) = a)
    {text : Octets} (ht : Rearranged ms text) :
    (Codec.record fs toRow ofRow).Takes (levels + 1) a text := by
  obtain ⟨hown, hrender, hother, hperm, ht⟩ := ht
  rename_i t own other entries
  refine ⟨⟨_, _, rfl, by decide, by decide⟩, fun depth hd ws rest hw _ => ?_⟩
  have harrives : Arrives ms [] entries :=
    arrives_rearranged (hr.names ▸ hf) hown hrender hother hperm
  have hall : ∀ name ∈ fs.map Field.name, name ∈ (entries.map Prod.fst).reverse := by
    intro name hn
    rw [← hr.names] at hn
    rw [List.mem_reverse]
    exact (entries_names hperm).mem_iff.mpr
      (List.mem_append_left _ ((own_names hown).mem_iff.mp hn))
  have hlen : entries.length < (t ++ rest).length := by
    rw [List.length_append]
    exact Nat.lt_add_right _ ht.length_lt
  have hs := readSlots_rendered (show levels ≤ depth - 1 by omega) hr hf ht harrives (t ++ rest)
    rest hlen
  rw [Slots.met_nil, List.append_nil] at hs
  have hb : isBlank objectOpen = false := by decide
  have hlo : objectOpen ≠ listOpen := by decide
  simp only [List.cons_append, Codec.record, readRow, skipBlank_blank_cons hw hb, if_neg hlo,
    if_true]
  rw [nested_eq _ (by omega)]
  simp [readObjectRow, hs, Slots.close_met hall, endObject_cons, ha, bind, Except.bind, pure,
    Except.pure, Except.map]

/-! ### Tagged values -/

lemma readTree_spelled {s : String} {t : Octets} (h : Spelling (octets s) t) {depth : ℕ}
    (hd : 1 ≤ depth) {ws : Octets} (hw : Blank ws) (rest : Octets) :
    readTree depth (ws ++ quote :: (t ++ quote :: rest)) = .ok (.string s, rest) := by
  obtain ⟨d, rfl⟩ : ∃ d, depth = d + 1 := ⟨depth - 1, by omega⟩
  have hq : isBlank quote = false := by decide
  have hn : quote ≠ ascii 'n' ∧ quote ≠ ascii 't' ∧ quote ≠ ascii 'f' ∧ quote ≠ ascii '-' ∧
      isDigit quote = false := by decide
  obtain ⟨h₁, h₂, h₃, h₄, h₅⟩ := hn
  simp [readTree, skipBlank_blank_cons hw hq, h₁, h₂, h₃, h₄, h₅, stringBody_spelled h, Except.map]

section

variable {α : Type} {key : String} {vs : List (Variant α)} {depth : ℕ} {first : Bool}
  {sep name before after : Octets}

lemma readTagged_tag {v : Variant α} (hv : findVariant vs v.tag = .ok v) (hs : Lead first sep)
    (hn : Spelling (octets key) name) (hb : Blank before) (ha : Blank after) {tag : Octets}
    (ht : Renders (.string v.tag) tag) (x : UInt8) (ahead : Octets) (members : List (String × Tree))
    (rest : Octets) :
    readTagged key vs depth (x :: ahead) first ⟨none, members⟩
        (sep ++ quote :: (name ++ quote :: (before ++ colon :: (after ++ (tag ++ rest))))) =
      readTagged key vs depth ahead false ⟨some v, members⟩ rest := by
  cases ht with | string hspelled =>
  have hread := readString_spelled hspelled depth ha rest
  simp [readTagged, nextName_lead hs, stringBody_spelled hn, readColon_blank hb, hread, hv, bind,
    Except.bind]

lemma readTagged_text {field : String} (hf : field ≠ key) (hd : 1 ≤ depth) (hs : Lead first sep)
    (hn : Spelling (octets field) name) (hb : Blank before) (ha : Blank after) {s : String}
    {text : Octets} (ht : Renders (.string s) text) (x : UInt8) (ahead : Octets) (met : Met α)
    (rest : Octets) :
    readTagged key vs depth (x :: ahead) first met
        (sep ++ quote :: (name ++ quote :: (before ++ colon :: (after ++ (text ++ rest))))) =
      readTagged key vs depth ahead false
        ⟨met.variant, (field, .string s) :: met.members⟩ rest := by
  cases ht with | string hspelled =>
  have hread := readTree_spelled hspelled hd ha rest
  simp [readTagged, nextName_lead hs, stringBody_spelled hn, readColon_blank hb, hread, hf, bind,
    Except.bind]

lemma readTagged_close {ws : Octets} (hw : Blank ws) (x : UInt8) (ahead : Octets) (met : Met α)
    (rest : Octets) :
    readTagged key vs depth (x :: ahead) first met (ws ++ objectClose :: rest) =
      .ok (met, objectClose :: rest) := by
  simp [readTagged, nextName_close hw, bind, Except.bind, pure, Except.pure]

lemma readTagged_rendered {v : Variant α} (hv : findVariant vs v.tag = .ok v) (hf : v.field ≠ key)
    (hd : 1 ≤ depth) {s : String} {tag text t : Octets} (htag : Renders (.string v.tag) tag)
    (htext : Renders (.string s) text)
    (ht : MembersText true [(key, tag), (v.field, text)] t ∨
      MembersText true [(v.field, text), (key, tag)] t)
    (rest ahead : Octets) (hl : 2 < ahead.length) :
    readTagged key vs depth ahead true ⟨none, []⟩ (t ++ rest) =
      .ok (⟨some v, [(v.field, .string s)]⟩, objectClose :: rest) := by
  match ahead, hl with
  | x :: y :: z :: ahead, _ =>
    rcases ht with ht | ht
    · cases ht with | cons hs hn hb ha ht =>
      cases ht with | cons hs' hn' hb' ha' ht =>
      cases ht with | nil hw =>
      simp only [List.append_assoc, List.cons_append, List.nil_append]
      rw [readTagged_tag hv hs hn hb ha htag, readTagged_text hf hd hs' hn' hb' ha' htext,
        readTagged_close hw]
    · cases ht with | cons hs hn hb ha ht =>
      cases ht with | cons hs' hn' hb' ha' ht =>
      cases ht with | nil hw =>
      simp only [List.append_assoc, List.cons_append, List.nil_append]
      rw [readTagged_text hf hd hs hn hb ha htext, readTagged_tag hv hs' hn' hb' ha' htag,
        readTagged_close hw]

end

lemma parts_pair {name name' : String} {value value' : Tree}
    {parts : List (String × Tree × Octets)}
    (h : [(name, value), (name', value')].Perm (parts.map fun p => (p.1, p.2.1))) :
    ∃ v v', parts = [(name, value, v), (name', value', v')] ∨
      parts = [(name', value', v'), (name, value, v)] := by
  rcases List.pair_perm.mp h with h | h
  · obtain ⟨⟨_, _, v⟩, ps, rfl, hp, hps⟩ := List.map_eq_cons_iff.mp h
    obtain ⟨⟨_, _, v'⟩, qs, rfl, hq, hqs⟩ := List.map_eq_cons_iff.mp hps
    obtain rfl := List.map_eq_nil_iff.mp hqs
    obtain ⟨rfl, rfl⟩ := Prod.mk.inj hp
    obtain ⟨rfl, rfl⟩ := Prod.mk.inj hq
    exact ⟨v, v', .inl rfl⟩
  · obtain ⟨⟨_, _, v'⟩, ps, rfl, hp, hps⟩ := List.map_eq_cons_iff.mp h
    obtain ⟨⟨_, _, v⟩, qs, rfl, hq, hqs⟩ := List.map_eq_cons_iff.mp hps
    obtain rfl := List.map_eq_nil_iff.mp hqs
    obtain ⟨rfl, rfl⟩ := Prod.mk.inj hp
    obtain ⟨rfl, rfl⟩ := Prod.mk.inj hq
    exact ⟨v, v', .inr rfl⟩

lemma tagged_knows {α : Type} {key : String} {vs : List (Variant α)}
    {view : α → Variant α × String} {a : α} (hk : (view a).1.field ≠ key)
    (hv : findVariant vs (view a).1.tag = .ok (view a).1) (ha : (view a).1.make (view a).2 = a) :
    (Codec.tagged key vs view).Knows 2 a
      (.object [(key, .string (view a).1.tag), ((view a).1.field, .string (view a).2)]) := by
  intro text htext
  cases htext with | @object _ t parts hperm hr ht =>
  refine ⟨⟨_, _, rfl, by decide, by decide⟩, fun depth hd ws rest hw _ => ?_⟩
  have hb : isBlank objectOpen = false := by decide
  obtain ⟨tag, text, htag, htext, hmembers⟩ : ∃ tag text,
      Renders (.string (view a).1.tag) tag ∧ Renders (.string (view a).2) text ∧
      (MembersText true [(key, tag), ((view a).1.field, text)] t ∨
        MembersText true [((view a).1.field, text), (key, tag)] t) := by
    obtain ⟨tag, text, rfl | rfl⟩ := parts_pair hperm
    · obtain ⟨htag, hr⟩ := List.forall_mem_cons.mp hr
      exact ⟨tag, text, htag, hr _ List.mem_cons_self, .inl ht⟩
    · obtain ⟨htext, hr⟩ := List.forall_mem_cons.mp hr
      exact ⟨tag, text, hr _ List.mem_cons_self, htext, .inr ht⟩
  have hlen : 2 < (t ++ rest).length := by
    rw [List.length_append]
    rcases hmembers with h | h
    · exact Nat.lt_add_right _ h.length_lt
    · exact Nat.lt_add_right _ h.length_lt
  have hread := readTagged_rendered hv hk (show 1 ≤ depth - 1 by omega) htag htext hmembers rest
    (t ++ rest) hlen
  simp only [List.cons_append, Codec.tagged, skipBlank_blank_cons hw hb, if_true]
  rw [nested_eq _ hd]
  simp [readTaggedObject, hread, endObject_cons, Variant.ofMembers, Variant.ofTree, ha, bind,
    Except.bind, pure, Except.pure]

/-! ### Documents -/

lemma decode_takes {α : Type} {c : Codec α} {levels : ℕ} {a : α} {text : Octets}
    (h : c.Takes levels a text) (hl : levels ≤ depthLimit) {before after : Octets}
    (hb : Blank before) (ha : Blank after) : c.decode (before ++ (text ++ after)) = .ok a := by
  have he : Ends after := by
    have hend : Ends (after ++ []) := ends_blank ha nofun
    rwa [List.append_nil] at hend
  have hr := h.reads depthLimit hl before after hb he
  simp [Codec.decode, readDocument, hr, skipBlank_all ha, bind, Except.bind, pure, Except.pure]

end Switchboard.Json
