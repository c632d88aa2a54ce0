import Switchboard.Proofs.Json.Records
import Switchboard.Proofs.Time.Instants
import Switchboard.Service.Repository

/-! The documents of the registry: every record is decoded from its own document. -/

namespace Switchboard

open Json Store Service

lemma trunk_readsBack (t : Trunk) : Trunk.codec.ReadsBack 3 t :=
  record_readsBack (by decide) (by decide)
    ⟨string_readsBack _ _, list_readsBack le_rfl _ fun a _ => string_readsBack _ a,
      string_readsBack _ _, string_readsBack _ _, string_readsBack _ _, string_readsBack _ _,
      string_readsBack _ _, trivial⟩ rfl

lemma destination_readsBack (d : Destination) : Destination.codec.ReadsBack 2 d := by
  cases d with
  | direct room => exact tagged_readsBack (show "room_name" ≠ "type" by decide) rfl rfl
  | individual start => exact tagged_readsBack (show "room_prefix" ≠ "type" by decide) rfl rfl

lemma rule_readsBack (r : Rule) : Rule.codec.ReadsBack 3 r :=
  record_readsBack (by decide) (by decide)
    ⟨string_readsBack _ _, destination_readsBack _,
      list_readsBack le_rfl _ fun a _ => string_readsBack _ a, bool_readsBack _ _, trivial⟩ rfl

lemma participant_readsBack {p : Participant} (h : p.createdAt.Valid) :
    Participant.codec.ReadsBack 3 p :=
  record_readsBack (by decide) (by decide)
    ⟨string_readsBack _ _, string_readsBack _ _, string_readsBack _ _, string_readsBack _ _,
      string_readsBack _ _, string_readsBack _ _, ofText_readsBack _ (Time.parse_text h), trivial⟩
    rfl

abbrev Store.Kind.Record : Kind → Type
  | .trunk => Trunk
  | .rule => Rule
  | .participant => Participant

def Store.Kind.entity : (k : Kind) → Entity k.Record
  | .trunk => trunkEntity
  | .rule => ruleEntity
  | .participant => participantEntity

def Store.Kind.document (k : Kind) (r : k.Record) : Text.Octets := k.entity.codec.encode r

/-- Records that have a document: the instant in a participant is one of the calendar. -/
def Store.Kind.Storable : (k : Kind) → k.Record → Prop
  | .participant, p => p.createdAt.Valid
  | .trunk, _ | .rule, _ => True

@[simp] lemma entity_kind (k : Kind) : k.entity.kind = k := by cases k <;> rfl

lemma decode_document {k : Kind} {r : k.Record} (h : k.Storable r) :
    k.entity.decode (k.document r) = .ok r := by
  have hr : k.entity.codec.ReadsBack 3 r := by
    cases k with
    | trunk => exact trunk_readsBack r
    | rule => exact rule_readsBack r
    | participant => exact participant_readsBack h
  simp [Entity.decode, Store.Kind.document, decode_encode hr (by decide)]

lemma decodeAll_documents {k : Kind} (rs : List k.Record) (h : ∀ r ∈ rs, k.Storable r) :
    k.entity.decodeAll (rs.map k.document) = .ok rs := by
  induction rs with
  | nil => rfl
  | cons r rs ih =>
    have hi := ih fun s hs => h s (by simp [hs])
    have hd := decode_document (h r (by simp))
    simp [Entity.decodeAll, hd, hi, bind, Except.bind, pure, Except.pure]

end Switchboard
