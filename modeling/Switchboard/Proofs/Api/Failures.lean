import Switchboard.Api.Envelope
import Switchboard.Proofs.Json.Records

/-! The response to a failure tells the failure: its kind by the status and the code, and its
message, with all that was put in front of it, by the text. -/

namespace Switchboard

lemma FailureKind.code_inj {k l : FailureKind} : k.code = l.code ↔ k = l := by
  constructor
  · cases k <;> cases l <;> decide
  · exact congrArg code

namespace Failure

variable (f : Failure) (contexts : List String)

lemma kind_foldl_within : (contexts.foldl within f).kind = f.kind := by
  induction contexts generalizing f with
  | nil => rfl
  | cons c contexts ih => exact ih (f.within c)

lemma message_foldl_within :
    (contexts.foldl within f).message =
      String.join (contexts.reverse.map (· ++ ": ")) ++ f.message := by
  induction contexts generalizing f with
  | nil => simp
  | cons c contexts ih =>
    rw [List.foldl_cons, ih, List.reverse_cons, List.map_append, String.join_append]
    simp [within, String.append_assoc]

lemma text_foldl_within :
    (contexts.foldl within f).text =
      f.kind.label ++ ": " ++ String.join (contexts.reverse.map (· ++ ": ")) ++ f.message := by
  rw [text, kind_foldl_within, message_foldl_within]
  simp only [String.append_assoc]

variable {f}

lemma eq_of_text {g : Failure} (hk : f.kind = g.kind) (ht : f.text = g.text) : f = g := by
  obtain ⟨kind, message⟩ := f
  obtain ⟨kind', message'⟩ := g
  obtain rfl : kind = kind' := hk
  obtain rfl : message = message' := (String.append_right_inj _).mp ht
  rfl

end Failure

namespace Api

open Json

lemma statusOf_inj {k l : FailureKind} : statusOf k = statusOf l ↔ k = l := by
  constructor
  · cases k <;> cases l <;> decide
  · exact congrArg statusOf

lemma failure_readsBack {α : Type} (c : Codec α) (f : Failure) :
    (Envelope.codec c).ReadsBack 3 (.ofFailure f) := by
  have hs (s : String) : Codec.string.option.ReadsBack 2 (some s) :=
    option_readsBack _ fun a _ => ⟨string_readsBack _ a, by
      have hw : Codec.string.write a = quote :: _ := rfl
      rw [hw, List.head?_cons]
      decide⟩
  have hd : c.option.ReadsBack 2 none := option_readsBack _ fun a ha => nomatch ha
  have hn : ["success", "data", "error", "code"].Nodup := by decide
  exact record_readsBack hn (by decide) ⟨bool_readsBack _ _, hd, hs _, hs _, trivial⟩ rfl

lemma failureResponse_body {α : Type} (c : Codec α) (f : Failure) :
    (failureResponse f).body = (Envelope.codec c).encode (.ofFailure f) := rfl

lemma failureResponse_decode {α : Type} (c : Codec α) (f : Failure) :
    (Envelope.codec c).decode (failureResponse f).body = .ok (.ofFailure f) := by
  rw [failureResponse_body c]
  exact decode_encode (failure_readsBack c f) (by decide)

lemma eq_of_body {f g : Failure} (h : (failureResponse f).body = (failureResponse g).body) :
    f = g := by
  have he := failureResponse_decode Codec.null f
  rw [h, failureResponse_decode] at he
  simp only [Envelope.ofFailure, Except.ok.injEq, Envelope.mk.injEq, Option.some.injEq] at he
  obtain ⟨-, -, ht, hc⟩ := he
  exact Failure.eq_of_text (FailureKind.code_inj.mp hc).symm ht.symm

/-- Two failures, in whatever contexts they arose, are answered alike only if they are the same.
The status and the code are those of the kind and tell it; the text has the contexts in front of
the message, the last of them first. -/
theorem failureResponse_lossless (kind kind' : FailureKind) (message message' : String)
    (contexts contexts' : List String) :
    let f : Failure := contexts.foldl Failure.within ⟨kind, message⟩
    let f' : Failure := contexts'.foldl Failure.within ⟨kind', message'⟩
    let r := failureResponse f
    let r' := failureResponse f'
    ((r.status = r'.status ∧ r.body = r'.body) ↔ f = f') ∧
    (r.status = statusOf kind ∧ f.kind.code = kind.code) ∧
    (r.status = r'.status ↔ kind = kind') ∧ (f.kind.code = f'.kind.code ↔ kind = kind') ∧
    ∀ {α : Type} (c : Codec α), (Envelope.codec c).decode r.body = .ok
      { success := false
        data := none
        error := some (kind.label ++ ": " ++ String.join (contexts.reverse.map (· ++ ": ")) ++
          message)
        code := some kind.code } := by
  intro f f' r r'
  have hk : f.kind = kind := Failure.kind_foldl_within _ _
  have hk' : f'.kind = kind' := Failure.kind_foldl_within _ _
  have hs : r.status = statusOf kind := congrArg statusOf hk
  have hs' : r'.status = statusOf kind' := congrArg statusOf hk'
  refine ⟨⟨fun h => eq_of_body h.2, fun h => ?_⟩, ⟨hs, congrArg _ hk⟩, ?_, ?_, fun c => ?_⟩
  · have hr : r = r' := congrArg failureResponse h
    exact ⟨congrArg _ hr, congrArg _ hr⟩
  · rw [hs, hs', statusOf_inj]
  · rw [hk, hk', FailureKind.code_inj]
  · have ht := Failure.text_foldl_within ⟨kind, message⟩ contexts
    rw [failureResponse_decode, Envelope.ofFailure, hk, ht]

end Api

end Switchboard
