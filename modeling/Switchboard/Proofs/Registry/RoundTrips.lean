import Switchboard.Proofs.Service.Documents
import Switchboard.Registry.Digits

/-! All that the registry writes as JSON and also takes as JSON is read back as it was: what it
keeps, what it is asked for, and what it answers. -/

namespace Switchboard

open Json Store Service

lemma optionalString_readsBack (o : Option String) : Codec.string.option.ReadsBack 2 o :=
  option_readsBack o fun a _ => ⟨string_readsBack _ a, by
    have hw : Codec.string.write a = quote :: _ := rfl
    rw [hw, List.head?_cons]
    decide⟩

lemma trunkRequest_readsBack (r : TrunkRequest) : TrunkRequest.codec.ReadsBack 3 r :=
  record_readsBack (by decide) (by decide)
    ⟨list_readsBack le_rfl _ fun a _ => string_readsBack _ a, string_readsBack _ _,
      string_readsBack _ _, string_readsBack _ _, string_readsBack _ _, string_readsBack _ _,
      trivial⟩ rfl

lemma ruleRequest_readsBack (r : RuleRequest) : RuleRequest.codec.ReadsBack 3 r :=
  record_readsBack (by decide) (by decide)
    ⟨destination_readsBack _, list_readsBack le_rfl _ fun a _ => string_readsBack _ a,
      bool_readsBack _ _, trivial⟩ rfl

lemma participantRequest_readsBack (r : ParticipantRequest) :
    ParticipantRequest.codec.ReadsBack 3 r :=
  record_readsBack (by decide) (by decide)
    ⟨string_readsBack _ _, string_readsBack _ _, string_readsBack _ _, optionalString_readsBack _,
      trivial⟩ rfl

lemma call_readsBack (c : Call) : Call.codec.ReadsBack 3 c :=
  record_readsBack (by decide) (by decide)
    ⟨string_readsBack _ _, string_readsBack _ _, string_readsBack _ _, trivial⟩ rfl

lemma decision_readsBack (d : Decision) : Decision.codec.ReadsBack 3 d :=
  record_readsBack (by decide) (by decide)
    ⟨string_readsBack _ _, string_readsBack _ _, string_readsBack _ _, string_readsBack _ _,
      optionalString_readsBack _, trivial⟩ rfl

lemma sentDigits_readsBack (s : SentDigits) : SentDigits.codec.ReadsBack 3 s :=
  record_readsBack (by decide) (by decide) ⟨string_readsBack _ _, string_readsBack _ _, trivial⟩ rfl

lemma insert_run {k : Kind} (r : k.Record) : ∃ next, (k.entity.insert r).run =
    .ask (.store (.insert k (k.entity.id r) (k.document r))) next := by
  cases k <;> exact ⟨_, rfl⟩

/-- Whatever is in the texts, however long the lists and at whichever instant of the calendar, what
an insertion writes is decoded to the record that was to be inserted; so is what is written of a
request, a call or an answer. -/
theorem written_decodes :
    (∀ (k : Kind) (r : k.Record), k.Storable r → ∃ data next,
      (k.entity.insert r).run = .ask (.store (.insert k (k.entity.id r) data)) next ∧
        k.entity.decode data = .ok r) ∧
    (∀ r, TrunkRequest.codec.decode (TrunkRequest.codec.encode r) = .ok r) ∧
    (∀ r, RuleRequest.codec.decode (RuleRequest.codec.encode r) = .ok r) ∧
    (∀ r, ParticipantRequest.codec.decode (ParticipantRequest.codec.encode r) = .ok r) ∧
    (∀ c, Call.codec.decode (Call.codec.encode c) = .ok c) ∧
    (∀ d, Decision.codec.decode (Decision.codec.encode d) = .ok d) ∧
    ∀ s, SentDigits.codec.decode (SentDigits.codec.encode s) = .ok s := by
  have hl : 3 ≤ depthLimit := by decide
  refine ⟨fun k r h => ?_, ?_⟩
  · obtain ⟨next, hn⟩ := insert_run r
    exact ⟨k.document r, next, hn, decode_document h⟩
  · exact ⟨fun r => decode_encode (trunkRequest_readsBack r) hl,
      fun r => decode_encode (ruleRequest_readsBack r) hl,
      fun r => decode_encode (participantRequest_readsBack r) hl,
      fun c => decode_encode (call_readsBack c) hl, fun d => decode_encode (decision_readsBack d) hl,
      fun s => decode_encode (sentDigits_readsBack s) hl⟩

def awkward : Participant where
  id := "SP_\"1\""
  callId := "SCL\\1"
  trunkId := "ST\u0000\u001f\n\t"
  callTo := "+1 (555) \u007f"
  room := "Zoë's 客厅 🜚"
  identity := ""
  createdAt := ⟨⟨2024, 2, 29⟩, 23, 59, 59, 999999999⟩

theorem written_decodes_awkward : awkward.createdAt.Valid ∧ ∃ data next,
    (participantEntity.insert awkward).run =
      .ask (.store (.insert .participant awkward.id data)) next ∧
    participantEntity.decode data = .ok awkward :=
  have hv : awkward.createdAt.Valid := by decide
  ⟨hv, written_decodes.1 .participant awkward hv⟩

end Switchboard
