import Switchboard.Proofs.Api.Answers
import Switchboard.Proofs.Json.Printing

/-! A record is decoded from any text with the members of its document, in whatever order they and
the members of its rule are, with any blanks between them and any values of other names beside
them. A store may keep the document as a value and forget its text. -/

namespace Switchboard

open Json Store Service Api Text

lemma texts_knows (ss : List String) : (Codec.list .string).Knows 2 ss (texts ss) := by
  have h := list_knows (f := id) le_rfl ss fun s _ => string_knows 1 s
  rwa [List.map_id] at h

lemma destination_knows (d : Destination) : Destination.codec.Knows 2 d (destinationForm d) := by
  cases d with
  | direct room => exact tagged_knows (show "room_name" ≠ "type" by decide) rfl rfl
  | individual start => exact tagged_knows (show "room_prefix" ≠ "type" by decide) rfl rfl

def fullForm (t : Trunk) : Tree :=
  .object [("sip_trunk_id", .string t.id), ("inbound_addresses", texts t.inboundAddresses),
    ("outbound_address", .string t.outboundAddress), ("outbound_number", .string t.outboundNumber),
    ("inbound_numbers_regex", .string t.numberPattern), ("username", .string t.username),
    ("password", .string t.password)]

lemma fullForm_shows (t : Trunk) : Trunk.codec.Shows t (fullForm t) :=
  record_shows ⟨rfl, string_shows _, rfl, texts_shows _, rfl, string_shows _, rfl, string_shows _,
    rfl, string_shows _, rfl, string_shows _, rfl, string_shows _, rfl⟩

lemma fullForm_fits (t : Trunk) : (fullForm t).Fits 3 :=
  members_fit ⟨.string _, texts_fits _, .string _, .string _, .string _, .string _, .string _⟩

def Store.Kind.form : (k : Kind) → k.Record → Tree
  | .trunk, t => fullForm t
  | .rule, r => ruleForm r
  | .participant, p => participantForm p

lemma document_eq (k : Kind) (r : k.Record) : k.document r = (k.form r).write := by
  cases k with
  | trunk => exact fullForm_shows r
  | rule => exact ruleForm_shows r
  | participant => exact participantForm_shows r

lemma form_fits_depth (k : Kind) (r : k.Record) : (k.form r).Fits depthLimit := by
  have hn : 3 ≤ depthLimit := by decide
  cases k with
  | trunk => exact (fullForm_fits r).mono hn
  | rule => exact (ruleForm_fits r).mono hn
  | participant => exact (participantForm_fits r).mono hn

lemma trunk_rearranged (t : Trunk) : ∃ members, fullForm t = .object members ∧
    ∀ text, Rearranged members text → Trunk.codec.Takes 3 t text := by
  refine ⟨_, rfl, fun text ht => ?_⟩
  refine record_takes (by decide) (by decide) ?_ rfl ht
  exact ⟨rfl, string_knows _ _, rfl, texts_knows _, rfl, string_knows _ _, rfl, string_knows _ _,
    rfl, string_knows _ _, rfl, string_knows _ _, rfl, string_knows _ _, rfl⟩

lemma rule_rearranged (r : Rule) : ∃ members, ruleForm r = .object members ∧
    ∀ text, Rearranged members text → Rule.codec.Takes 3 r text := by
  refine ⟨_, rfl, fun text ht => ?_⟩
  refine record_takes (by decide) (by decide) ?_ rfl ht
  exact ⟨rfl, string_knows _ _, rfl, destination_knows _, rfl, texts_knows _, rfl, bool_knows _ _,
    rfl⟩

lemma participant_rearranged {p : Participant} (h : p.createdAt.Valid) :
    ∃ members, participantForm p = .object members ∧
      ∀ text, Rearranged members text → Participant.codec.Takes 3 p text := by
  refine ⟨_, rfl, fun text ht => ?_⟩
  refine record_takes (by decide) (by decide) ?_ rfl ht
  exact ⟨rfl, string_knows _ _, rfl, string_knows _ _, rfl, string_knows _ _, rfl, string_knows _ _,
    rfl, string_knows _ _, rfl, string_knows _ _, rfl, ofText_knows _ (Time.parse_text h), rfl⟩

lemma exists_members {k : Kind} {r : k.Record} (h : k.Storable r) :
    ∃ members, k.form r = .object members ∧
      ∀ text, Rearranged members text → k.entity.codec.Takes 3 r text := by
  cases k with
  | trunk => exact trunk_rearranged r
  | rule => exact rule_rearranged r
  | participant => exact participant_rearranged h

/-- The members are those that everybody reads in the document, which is itself one of the texts. -/
theorem rearranged_decodes (k : Kind) (r : k.Record) (h : k.Storable r) :
    ∃ members, Tree.ofOctets? (k.document r) = some (.object members) ∧
      Rearranged members (k.document r) ∧
      ∀ before text after, Blank before → Rearranged members text → Blank after →
        k.entity.decode (before ++ (text ++ after)) = .ok r := by
  obtain ⟨members, hform, hread⟩ := exists_members h
  have hfits := form_fits_depth k r
  refine ⟨members, ?_, ?_, fun before text after hb ht ha => ?_⟩
  · rw [document_eq, ofOctets?_write hfits, hform]
  · rw [hform] at hfits
    rw [document_eq, hform]
    exact rearranged_write hfits (.refl members)
  · have hl : 3 ≤ depthLimit := by decide
    simp [Entity.decode, decode_takes (hread text ht) hl hb ha]

def hall : Rule := ⟨"SDR_1", .direct "hall", ["ST_a"], true⟩

def hallText : Octets :=
  octets "\x7b\"note\" : [-1.5e3, \x7b\"a\":null\x7d], \"hide_phone_number\":true" ++
    octets ",\n \"trunk_ids\":[ \"ST_a\" ] ,\"rule\":" ++
    octets "\x7b\"room_name\":\"h\\u0061ll\",\"type\":\"direct\"\x7d" ++
    octets ",\"sip_dispatch_rule_id\":\"SDR_1\"\x7d"

lemma note_text : IsText .value (octets "[-1.5e3, \x7b\"a\":null\x7d]") := by
  have hfirst : Lead true [] := blank_nil
  have hnext : Lead false [comma, 0x20] := ⟨[], [0x20], blank_nil, by simp [Blank], rfl⟩
  have hname : Literal [ascii 'a'] := .plain (by decide) .nil
  have hdigit (d : UInt8) (h : 0x30 ≤ d ∧ d ≤ 0x39) : DigitRun [d] :=
    ⟨List.cons_ne_nil _ _, by simpa using h⟩
  have hnumber := Magnitude.parts (hdigit 0x31 (by decide)) (fun _ => rfl)
    (.some (hdigit 0x35 (by decide))) (.some (.inl rfl) (.inl rfl) (hdigit 0x33 (by decide)))
  have hinner := IsText.object (.member hfirst hname blank_nil blank_nil
    (.keyword (k := "null") (by simp)) (.endMembers blank_nil))
  convert IsText.list (.item hfirst (.negative hnumber) (.item hnext hinner (.endItems blank_nil)))
    using 1
  decide +kernel

lemma hall_rule : Renders (destinationForm (.direct "hall"))
    (octets "\x7b\"room_name\":\"h\\u0061ll\",\"type\":\"direct\"\x7d") := by
  have hfirst : Lead true [] := blank_nil
  have hunit : UnitText 'a'.toNat [0x30, 0x30, 0x36, 0x31] :=
    .digits (a := 0) (b := 0) (c := 6) (d := 1) (by decide) (by decide) (by decide) (by decide)
  have hroom := Renders.string (s := "hall")
    (.plain (b := ascii 'h') (by decide) (.unit hunit (spelling_written (octets "ll"))))
  have htag := Renders.string (spelling_written (octets "direct"))
  have hparts : ∀ p ∈ [("room_name", Tree.string "hall", _), ("type", Tree.string "direct", _)],
      Renders p.2.1 p.2.2 := List.forall_mem_cons.mpr ⟨hroom, List.forall_mem_singleton.mpr htag⟩
  convert Renders.object (.swap _ _ _) hparts (.cons hfirst (spelling_written (octets "room_name"))
    blank_nil blank_nil (.cons lead_comma (spelling_written (octets "type")) blank_nil blank_nil
      (.nil blank_nil))) using 1
  · rfl
  · decide +kernel

def hallMembers : List (String × Tree) :=
  [("sip_dispatch_rule_id", .string "SDR_1"), ("rule", destinationForm (.direct "hall")),
    ("trunk_ids", texts ["ST_a"]), ("hide_phone_number", .bool true)]

lemma hall_rearranged : Rearranged hallMembers hallText := by
  have hfirst : Lead true [] := blank_nil
  have hspace : Blank [0x20] := by simp [Blank]
  have hnext : Lead false [comma, 0x20] := ⟨[], [0x20], blank_nil, hspace, rfl⟩
  have hbroken : Lead false [comma, 0x0a, 0x20] :=
    ⟨[], [0x0a, 0x20], blank_nil, by simp [Blank], rfl⟩
  have hapart : Lead false [0x20, comma] := ⟨[0x20], [], hspace, blank_nil, rfl⟩
  have hid := Renders.string (spelling_written (octets "SDR_1"))
  have hlist : Renders (texts ["ST_a"]) (octets "[ \"ST_a\" ]") := by
    have hstart : Lead true [0x20] := hspace
    have htrunk := Renders.string (spelling_written (octets "ST_a"))
    have hparts : ∀ p ∈ [(Tree.string "ST_a", _)], Renders p.1 p.2 :=
      List.forall_mem_singleton.mpr htrunk
    convert Renders.list rfl hparts (.cons hstart (.nil hspace)) using 1
    · rfl
    · decide +kernel
  have hown : ∀ p ∈ [("hide_phone_number", Tree.bool true, _), ("trunk_ids", _, _), ("rule", _, _),
      ("sip_dispatch_rule_id", Tree.string "SDR_1", _)], Renders p.2.1 p.2.2 :=
    List.forall_mem_cons.mpr ⟨.bool true, List.forall_mem_cons.mpr ⟨hlist,
      List.forall_mem_cons.mpr ⟨hall_rule, List.forall_mem_singleton.mpr hid⟩⟩⟩
  have hother : ∀ e ∈ [("note", octets "[-1.5e3, \x7b\"a\":null\x7d]")],
      e.1 ∉ hallMembers.map Prod.fst ∧ IsText .value e.2 :=
    List.forall_mem_singleton.mpr ⟨by decide, note_text⟩
  have htext : Rearranged hallMembers _ := .object ?_ hown hother List.perm_append_comm
    (.cons hfirst (spelling_written (octets "note")) hspace hspace
      (.cons hnext (spelling_written (octets "hide_phone_number")) blank_nil blank_nil
        (.cons hbroken (spelling_written (octets "trunk_ids")) blank_nil blank_nil
          (.cons hapart (spelling_written (octets "rule")) blank_nil blank_nil
            (.cons lead_comma (spelling_written (octets "sip_dispatch_rule_id")) blank_nil blank_nil
              (.nil blank_nil))))))
  · convert htext using 1
    decide +kernel
  · exact (List.reverse_perm hallMembers).symm

theorem rearranged_decodes_hall : ∃ members,
    Tree.ofOctets? (Kind.rule.document hall) = some (.object members) ∧
      Rearranged members hallText ∧
      ruleEntity.decode ([0x20] ++ (hallText ++ [0x0a])) = .ok hall := by
  obtain ⟨members, hread, -, hdecode⟩ := rearranged_decodes .rule hall trivial
  have hmembers : some (Tree.object members) = some (ruleForm hall) := by
    rw [← hread, document_eq, ofOctets?_write (form_fits_depth .rule hall)]
    rfl
  obtain rfl := Tree.object.inj (Option.some.inj hmembers)
  have hblank : Blank [0x20] ∧ Blank [0x0a] := by simp [Blank]
  exact ⟨_, hread, hall_rearranged, hdecode _ _ _ hblank.1 hall_rearranged hblank.2⟩

end Switchboard
