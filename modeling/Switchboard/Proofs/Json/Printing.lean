import Switchboard.Proofs.Json.Renderings
import Switchboard.Proofs.Json.Trees

/-! What is written of a tree is one of its renderings. -/

namespace Switchboard.Json

open Switchboard.Text

lemma hexDigit_digit : ∀ d < 16, HexDigit d (hexDigit d) := by decide

lemma unitText_control {b : UInt8} (hb : b < 0x20) :
    UnitText b.toNat [0x30, 0x30, hexDigit (b.toNat / 16), hexDigit (b.toNat % 16)] := by
  have hn : b.toNat < 32 := hb
  have hz : HexDigit 0 0x30 := by decide
  have h := UnitText.digits hz hz (hexDigit_digit (b.toNat / 16) (by omega))
    (hexDigit_digit (b.toNat % 16) (by omega))
  have he : ((0 * 16 + 0) * 16 + b.toNat / 16) * 16 + b.toNat % 16 = b.toNat := by omega
  rwa [he] at h

lemma toNat_control : ∀ n < 32, (Char.ofNat n).toNat = n := by decide

lemma Spelling.escape (b : UInt8) {m t : Octets} (h : Spelling m t) :
    Spelling (b :: m) (escapeOctets b ++ t) := by
  unfold escapeOctets
  split_ifs with hq hs hp h₁ h₂ h₃ h₄ h₅
  · subst hq
    exact .short (e := (ascii '"', 0x22)) (by decide) h
  · subst hs
    exact .short (e := (ascii '\\', 0x5c)) (by decide) h
  · exact .plain ⟨hp, hq, hs⟩ h
  · subst h₁
    exact .short (e := (ascii 'b', 0x08)) (by decide) h
  · subst h₂
    exact .short (e := (ascii 't', 0x09)) (by decide) h
  · subst h₃
    exact .short (e := (ascii 'n', 0x0a)) (by decide) h
  · subst h₄
    exact .short (e := (ascii 'f', 0x0c)) (by decide) h
  · subst h₅
    exact .short (e := (ascii 'r', 0x0d)) (by decide) h
  · have hb : b < 0x20 := by simpa using hp
    have hn : b.toNat < 32 := hb
    have hc : String.utf8EncodeChar (Char.ofNat b.toNat) = [b] := by
      simpa [codeOctets] using codeOctets_control b.toNat hn
    have hu := unitText_control hb
    rw [← toNat_control b.toNat hn] at hu
    have hs := Spelling.unit (c := Char.ofNat b.toNat) hu h
    rw [hc, toNat_control b.toNat hn] at hs
    exact hs

lemma spelling_written (o : Octets) : Spelling o (o.flatMap escapeOctets) := by
  induction o with
  | nil => exact .nil
  | cons b o ih => exact ih.escape b

lemma separated_cons (part : Octets) (parts : List Octets) :
    separated (part :: parts) = part ++ parts.flatMap (comma :: ·) := by
  induction parts generalizing part with
  | nil => simp [separated]
  | cons next parts ih =>
    rw [separated, ih, List.flatMap_cons]
    · rfl
    · exact List.cons_ne_nil _ _

lemma blank_nil : Blank [] := nofun

lemma lead_comma : Lead false [comma] := ⟨[], [], blank_nil, blank_nil, rfl⟩

lemma itemsText_written (vs : List Octets) : ItemsText true vs (separated vs ++ [listClose]) := by
  have htail (vs : List Octets) : ItemsText false vs (vs.flatMap (comma :: ·) ++ [listClose]) := by
    induction vs with
    | nil => exact .nil blank_nil
    | cons v vs ih =>
      have h := ItemsText.cons (v := v) lead_comma ih
      simpa using h
  cases vs with
  | nil => exact .nil blank_nil
  | cons v vs =>
    have hlead : Lead true [] := blank_nil
    have h := ItemsText.cons (v := v) hlead (htail vs)
    rw [separated_cons]
    simpa using h

lemma membersText_written (ms : List (String × Octets)) :
    MembersText true ms (separated (ms.map fun m => writeMember m.1 m.2) ++ [objectClose]) := by
  have htail (ms : List (String × Octets)) : MembersText false ms
      ((ms.map fun m => writeMember m.1 m.2).flatMap (comma :: ·) ++ [objectClose]) := by
    induction ms with
    | nil => exact .nil blank_nil
    | cons m ms ih =>
      have h := MembersText.cons (v := m.2) lead_comma (spelling_written (octets m.1)) blank_nil
        blank_nil ih
      simpa [writeMember, writeString, colon, quote] using h
  cases ms with
  | nil => exact .nil blank_nil
  | cons m ms =>
    have hlead : Lead true [] := blank_nil
    have h := MembersText.cons (v := m.2) hlead (spelling_written (octets m.1)) blank_nil
      blank_nil (htail ms)
    rw [List.map_cons, separated_cons]
    simpa [writeMember, writeString, colon, quote] using h

def written (members : List (String × Tree)) : List (String × Tree × Octets) :=
  members.map fun m => (m.1, m.2, m.2.write)

lemma written_members (members : List (String × Tree)) :
    (written members).map (fun p => (p.1, p.2.1)) = members := by
  rw [written, List.map_map]
  exact List.map_id members

lemma written_texts (members : List (String × Tree)) :
    (written members).map (fun p => (p.1, p.2.2)) = members.map fun m => (m.1, m.2.write) := by
  rw [written, List.map_map]
  rfl

lemma written_renders {members : List (String × Tree)} (h : ∀ m ∈ members, Renders m.2 m.2.write) :
    ∀ p ∈ written members, Renders p.2.1 p.2.2 := by
  intro p hp
  obtain ⟨m, hm, rfl⟩ := List.mem_map.mp hp
  exact h m hm

lemma Tree.Fits.renders {n : ℕ} {t : Tree} (h : t.Fits n) : Renders t t.write := by
  induction h with
  | null =>
    rw [Tree.write]
    exact .null
  | bool b =>
    rw [Tree.write]
    exact .bool b
  | string s =>
    rw [Tree.write]
    exact .string (spelling_written (octets s))
  | @list n items _ ih =>
    have hitems : items = (items.map fun t => (t, t.write)).map Prod.fst := by
      rw [List.map_map]
      exact (List.map_id items).symm
    rw [write_list]
    refine .list hitems (fun p hp => ?_) ?_
    · obtain ⟨t, ht, rfl⟩ := List.mem_map.mp hp
      exact ih t ht
    · rw [List.map_map]
      exact itemsText_written (items.map Tree.write)
  | @object n members _ ih =>
    rw [write_object]
    refine .object (.of_eq (written_members members).symm) (written_renders ih) ?_
    rw [written_texts]
    exact membersText_written _

lemma rearranged_write {n : ℕ} {members members' : List (String × Tree)}
    (h : (Tree.object members).Fits n) (hp : members'.Perm members) :
    Rearranged members (Tree.object members').write := by
  have hr : ∀ m ∈ members', Renders m.2 m.2.write := by
    cases h with | object hm =>
    exact fun m hm' => (hm m (hp.mem_iff.mp hm')).renders
  have hown : members.Perm ((written members').map fun p => (p.1, p.2.1)) := by
    rw [written_members]
    exact hp.symm
  rw [write_object]
  refine .object hown (written_renders hr) (List.forall_mem_nil _) ?_ (membersText_written _)
  rw [written_texts, List.append_nil]

end Switchboard.Json
