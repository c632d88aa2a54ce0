import Switchboard.Proofs.Registry.Routes

/-! What the answer to a call tells of its caller: a rule that hides callers puts a digest in the
place of the number, any other rule the number itself. -/

namespace Switchboard

open Text

@[simp] lemma bigEndian_length (width n : ℕ) : (Sha256.bigEndian width n).length = width := by
  induction width with
  | zero => rfl
  | succ width ih => rw [Sha256.bigEndian, List.length_cons, ih]

lemma sha256_length (message : Octets) : (sha256 message).length = 32 := by
  simp [sha256, Sha256.State.octets]

lemma lowDigit_mem {n : ℕ} (h : n < 16) : lowDigit n ∈ "0123456789abcdef".toList := by
  have hd : ∀ n < 16, lowDigit n ∈ "0123456789abcdef".toList := by decide
  exact hd n h

lemma base16_shape (o : Octets) :
    (base16 o).toList.length = 2 * o.length ∧
      ∀ a ∈ (base16 o).toList, a ∈ "0123456789abcdef".toList := by
  simp only [base16, String.toList_ofList]
  induction o with
  | nil => exact ⟨rfl, nofun⟩
  | cons b o ih =>
    obtain ⟨hl, hd⟩ := ih
    rw [List.flatMap_cons]
    refine ⟨?_, fun a ha => ?_⟩
    · simp only [base16Digits, List.length_append, List.length_cons, List.length_nil, hl]
      omega
    · rcases List.mem_append.mp ha with ha | ha
      · have hb := b.toNat_lt
        simp only [base16Digits, List.mem_cons, List.not_mem_nil, or_false] at ha
        rcases ha with rfl | rfl <;> exact lowDigit_mem (by omega)
      · exact hd a ha

lemma redacted_shape (caller : String) :
    (redacted caller).toList.length = 16 ∧
      ∀ a ∈ (redacted caller).toList, a ∈ "0123456789abcdef".toList := by
  obtain ⟨hl, hd⟩ := base16_shape ((sha256 (octets caller)).take 8)
  rw [List.length_take, sha256_length] at hl
  exact ⟨hl, hd⟩

def choose (trunks : List Trunk) (rules : List Rule) (address number : String) :
    Outcome (Trunk × Rule) := do
  let trunk ← selectTrunk trunks address number
  match selectRule rules trunk.id with
  | none => throw (.notFound ("no dispatch rule for trunk " ++ trunk.id))
  | some rule => return (trunk, rule)

namespace Rule

def Individual (r : Rule) : Prop := ∃ start, r.destination = .individual start

def lacksCaller (r : Rule) : Failure :=
  .invalidArgument ("dispatch rule " ++ r.id ++ " gives each caller a room and needs a caller number")

def answer (t : Trunk) (r : Rule) (caller : String) : Outcome Decision :=
  match r.destination, caller with
  | .individual _, "" => .error r.lacksCaller
  | _, _ => .ok (r.decision t caller)

variable {t : Trunk} {r : Rule} {c c' : String} {d d' : Decision}

lemma answer_anonymous (hi : r.Individual) : r.answer t "" = .error r.lacksCaller := by
  obtain ⟨start, hd⟩ := hi
  simp [answer, hd]

lemma answer_ok (h : r.Individual → c ≠ "") : r.answer t c = .ok (r.decision t c) := by
  unfold answer
  split
  · exact absurd rfl (h ⟨_, ‹_›⟩)
  · rfl

lemma answer_eq_ok (h : r.answer t c = .ok d) : d = r.decision t c := by
  by_cases hc : r.Individual → c ≠ ""
  · rw [answer_ok hc] at h
    exact (Except.ok.inj h).symm
  · push Not at hc
    obtain ⟨hi, rfl⟩ := hc
    rw [answer_anonymous hi] at h
    cases h

lemma answer_error_iff : (∃ f, r.answer t c = .error f ∧ f.kind = .invalidArgument) ↔
    r.Individual ∧ c = "" := by
  constructor
  · rintro ⟨f, hf, -⟩
    by_contra hn
    rw [answer_ok fun hi hc => hn ⟨hi, hc⟩] at hf
    cases hf
  · rintro ⟨hi, rfl⟩
    exact ⟨_, answer_anonymous hi, rfl⟩

lemma decision_hidden_iff (h : r.hidesCaller = true) :
    r.decision t c = r.decision t c' ↔ redacted c = redacted c' := by
  constructor
  · intro he
    have hi := congrArg Decision.identity he
    simpa [decision, h] using hi
  · intro he
    simp [decision, h, he]

lemma decision_shown_iff (h : r.hidesCaller = false) :
    r.decision t c = r.decision t c' ↔ c = c' := by
  constructor
  · intro he
    have hc := congrArg Decision.caller he
    simpa [decision, h] using hc
  · rintro rfl
    rfl

lemma answer_shown_iff (h : r.hidesCaller = false) : r.answer t c = r.answer t c' ↔ c = c' := by
  refine ⟨fun he => ?_, fun he => by rw [he]⟩
  by_cases hc : r.Individual ∧ c = ""
  · -- the failure is the other's too
    obtain ⟨-, hc'⟩ := answer_error_iff.mp (he ▸ answer_error_iff.mpr hc)
    rw [hc.2, hc']
  · by_cases hc' : r.Individual ∧ c' = ""
    · obtain ⟨-, h⟩ := answer_error_iff.mp (he ▸ answer_error_iff.mpr hc')
      rw [hc'.2, h]
    · rw [answer_ok fun hi h => hc ⟨hi, h⟩, answer_ok fun hi h => hc' ⟨hi, h⟩] at he
      exact (decision_shown_iff h).mp (Except.ok.inj he)

lemma room_shown_iff (hi : r.Individual) (h : r.hidesCaller = false) :
    (r.decision t c).room = (r.decision t c').room ↔ c = c' := by
  obtain ⟨start, hd⟩ := hi
  simp [decision, hd, h]

lemma assign_answer (t : Trunk) (r : Rule) (c : String) :
    (do
      let place ← r.assign c
      return ⟨t.id, r.id, place.room, place.identity, place.caller⟩ : Outcome Decision) =
      r.answer t c := by
  cases hd : r.destination with
  | direct room => simp [assign, answer, decision, hd, bind, Except.bind, pure, Except.pure]
  | individual start =>
    by_cases hc : c = ""
    · simp [assign, answer, lacksCaller, hd, hc, bind, Except.bind]
    · rw [answer_ok fun _ => hc]
      simp [assign, decision, hd, hc, bind, Except.bind, pure, Except.pure]

end Rule

lemma route_eq_choose (trunks : List Trunk) (rules : List Rule) (call : Call) :
    route trunks rules call =
      (choose trunks rules call.address call.number).bind fun x => x.2.answer x.1 call.caller := by
  unfold route choose
  cases selectTrunk trunks call.address call.number with
  | error f => rfl
  | ok t =>
    simp only [bind, Except.bind]
    cases hr : selectRule rules t.id with
    | none => rfl
    | some r => exact Rule.assign_answer t r call.caller

/-- What becomes of calls from any callers to whom a trunk and a rule are given. -/
structure Discloses {σ : Type} (t : Trunk) (r : Rule) (m : String → Outcome Decision × σ) :
    Prop where
  chosen : ∀ c d, (m c).1 = .ok d → d.trunkId = t.id ∧ d.ruleId = r.id
  decided : ∀ c, (r.Individual → c ≠ "") → ∃ d, (m c).1 = .ok d
  anonymous : ∀ c, (∃ f, (m c).1 = .error f ∧ f.kind = .invalidArgument) ↔ r.Individual ∧ c = ""
  hidden : r.hidesCaller = true →
    (∀ c c', (c = "" ↔ c' = "") → redacted c = redacted c' → m c = m c') ∧
    (∀ c d, (m c).1 = .ok d → d.caller = none) ∧
    ∀ c c', c ≠ "" → c' ≠ "" → ((m c).1 = (m c').1 ↔ redacted c = redacted c')
  shown : r.hidesCaller = false →
    (∀ c d, (m c).1 = .ok d → d.caller = some c) ∧
    (∀ c c', (m c).1 = (m c').1 ↔ c = c') ∧
    (r.Individual → ∀ c c' d d', (m c).1 = .ok d → (m c').1 = .ok d' →
      (d.room = d'.room ↔ c = c'))

lemma discloses_answer {σ : Type} (t : Trunk) (r : Rule)
    {finish : Outcome Decision → Outcome Decision × σ} (hf : ∀ o, (finish o).1 = o) :
    Discloses t r fun c => finish (r.answer t c) where
  chosen c d h := by
    rw [hf] at h
    rw [Rule.answer_eq_ok h]
    exact ⟨rfl, rfl⟩
  decided c hc := ⟨r.decision t c, by rw [hf, Rule.answer_ok hc]⟩
  anonymous c := by
    rw [hf]
    exact Rule.answer_error_iff
  hidden hh := by
    refine ⟨fun c c' he hr => ?_, fun c d h => ?_, fun c c' hc hc' => ?_⟩
    · by_cases hc : r.Individual → c ≠ ""
      · have hc' : r.Individual → c' ≠ "" := fun hi h => hc hi (he.mpr h)
        simp only [Rule.answer_ok hc, Rule.answer_ok hc', (Rule.decision_hidden_iff hh).mpr hr]
      · push Not at hc
        rw [hc.2, he.mp hc.2]
    · rw [hf] at h
      simp [Rule.answer_eq_ok h, Rule.decision, hh]
    · rw [hf, hf, Rule.answer_ok fun _ => hc, Rule.answer_ok fun _ => hc', Except.ok.injEq]
      exact Rule.decision_hidden_iff hh
  shown hs := by
    refine ⟨fun c d h => ?_, fun c c' => ?_, ?_⟩
    · rw [hf] at h
      simp [Rule.answer_eq_ok h, Rule.decision, hs]
    · rw [hf, hf]
      exact Rule.answer_shown_iff hs
    · intro hi c c' d d' h h'
      rw [hf] at h h'
      rw [Rule.answer_eq_ok h, Rule.answer_eq_ok h']
      exact Rule.room_shown_iff hi hs

end Switchboard
