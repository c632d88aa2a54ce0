import Switchboard.Api.Form
import Switchboard.Proofs.Json.Leniency

/-! What clients send and what the registry is asked for are read from the same texts, though the
two are described apart. -/

namespace Switchboard.Api

open Text Json

lemma trunkForm_becomes : TrunkForm.codec.Becomes TrunkForm.request TrunkRequest.codec :=
  record_becomes fun _ => rfl

lemma ruleForm_becomes : RuleForm.codec.Becomes RuleForm.request RuleRequest.codec :=
  record_becomes fun _ => rfl

lemma callForm_becomes : CallForm.codec.Becomes CallForm.call Call.codec :=
  record_becomes fun _ => rfl

lemma participantForm_within :
    ParticipantForm.codec.Within ParticipantForm.request ParticipantRequest.codec := by
  have h : Row.Allowed [.required "sip_trunk_id" .string, .required "sip_call_to" .string,
      .required "room_name" .string, .optional "participant_identity" .string]
      ("", "", "", none, ()) :=
    ⟨required_allows _ _ _, required_allows _ _ _, required_allows _ _ _, optional_allows _ _,
      trivial⟩
  exact record_within h fun _ => rfl

theorem forms_read (text : Octets) :
    (TrunkRequest.codec.decode text = (TrunkForm.codec.decode text).map TrunkForm.request ∧
      readFront TrunkRequest.codec.read text =
        (readFront TrunkForm.codec.read text).map TrunkForm.request) ∧
    (RuleRequest.codec.decode text = (RuleForm.codec.decode text).map RuleForm.request ∧
      readFront RuleRequest.codec.read text =
        (readFront RuleForm.codec.read text).map RuleForm.request) ∧
    (Call.codec.decode text = (CallForm.codec.decode text).map CallForm.call ∧
      readFront Call.codec.read text = (readFront CallForm.codec.read text).map CallForm.call) ∧
    ∀ form,
      (ParticipantForm.codec.decode text = .ok form →
        ParticipantRequest.codec.decode text = .ok form.request) ∧
      (readFront ParticipantForm.codec.read text = .ok form →
        readFront ParticipantRequest.codec.read text = .ok form.request) :=
  ⟨⟨trunkForm_becomes.decode text, trunkForm_becomes.front text⟩,
    ⟨ruleForm_becomes.decode text, ruleForm_becomes.front text⟩,
    ⟨callForm_becomes.decode text, callForm_becomes.front text⟩,
    fun _ => ⟨participantForm_within.decode, participantForm_within.front⟩⟩

example : ParticipantForm.codec.decode (octets "[\"ST_1\", \"12\", \"hall\", null]") =
    .ok ⟨"ST_1", "12", "hall", none⟩ := by decide +kernel

/-- The registry reads what clients cannot send: a participant of which nothing is said. -/
example : ParticipantForm.codec.decode (octets "[]") = .error .mismatch ∧
    ParticipantRequest.codec.decode (octets "[]") = .ok ⟨"", "", "", none⟩ := by decide

end Switchboard.Api
