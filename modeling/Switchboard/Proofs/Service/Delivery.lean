import Switchboard.Proofs.Service.Brevity
import Switchboard.Proofs.Service.Refinement
import Switchboard.Proofs.Service.Scenes

/-! Tones reach the call channel just when they are tones, the participant is stored and there is a
channel; then the channel is asked once and its answer is the outcome. -/

namespace Switchboard

open Text

def tones : List Char :=
  ['0', '1', '2', '3', '4', '5', '6', '7', '8', '9', '*', '#', 'A', 'B', 'C', 'D', 'w']

lemma tones_between {low high c : Char} (hl : low ≤ c) (hh : c ≤ high)
    (h : ∀ n ∈ List.range' low.toNat (high.toNat + 1 - low.toNat), Char.ofNat n ∈ tones) :
    c ∈ tones := by
  have hl : low.toNat ≤ c.toNat := UInt32.le_iff_toNat_le.mp hl
  have hh : c.toNat ≤ high.toNat := UInt32.le_iff_toNat_le.mp hh
  rw [← Char.ofNat_toNat c]
  exact h c.toNat (List.mem_range'_1.mpr ⟨hl, by omega⟩)

lemma isTone_iff (c : Char) : isTone c = true ↔ c ∈ tones := by
  constructor
  · intro h
    simp only [isTone, Bool.or_eq_true, Bool.and_eq_true, decide_eq_true_eq, beq_iff_eq] at h
    rcases h with (((⟨hl, hh⟩ | rfl) | rfl) | ⟨hl, hh⟩) | rfl
    · exact tones_between hl hh (by decide)
    · decide
    · decide
    · exact tones_between hl hh (by decide)
    · decide
  · intro h
    have hall : tones.all isTone = true := by decide
    exact List.all_eq_true.mp hall c h

def AreTones (text : String) : Prop := text ≠ "" ∧ ∀ c ∈ text.toList, c ∈ tones

inductive Toneless (text : String) : Failure → Prop
  | empty (h : text = "") : Toneless text (.invalidArgument "dtmf digits must not be empty")
  | illegal {before c after} (h : text.toList = before ++ c :: after)
    (hb : ∀ b ∈ before, b ∈ tones) (hc : c ∉ tones) :
    Toneless text (.invalidArgument ("invalid dtmf digit " ++ quotedChar c))

lemma Toneless.not_tones {text : String} {f : Failure} (h : Toneless text f) : ¬ AreTones text := by
  rintro ⟨hne, ht⟩
  cases h with
  | empty h => exact hne h
  | illegal h hb hc => exact hc (ht _ (by simp [h]))

lemma parse_tones {text : String} (h : AreTones text) : Digits.parse text = .ok ⟨text⟩ := by
  obtain ⟨hne, ht⟩ := h
  have hf : text.toList.find? (fun c => !isTone c) = none := by
    rw [List.find?_eq_none]
    intro c hc
    simp [(isTone_iff c).mpr (ht c hc)]
  rw [Digits.parse, if_neg hne, hf]

lemma exists_toneless {text : String} (h : ¬ AreTones text) :
    ∃ f, Toneless text f ∧ Digits.parse text = .error f := by
  by_cases hne : text = ""
  · exact ⟨_, .empty hne, by rw [Digits.parse, if_pos hne]⟩
  · cases hf : text.toList.find? (fun c => !isTone c) with
    | none =>
      refine absurd ⟨hne, fun c hc => ?_⟩ h
      have ht := List.find?_eq_none.mp hf c hc
      exact (isTone_iff c).mp (by simpa using ht)
    | some c =>
      obtain ⟨hc, before, after, ht, hb⟩ := List.find?_eq_some_iff_append.mp hf
      refine ⟨_, .illegal ht (fun b hm => ?_) fun hm => ?_, ?_⟩
      · exact (isTone_iff b).mp (by simpa using hb b hm)
      · simp [(isTone_iff c).mpr hm] at hc
      · rw [Digits.parse, if_neg hne, hf]

namespace Service

open Store Time Operation

variable {ε : Type}

/-- What is asked, newest first, what comes of it, and what is left of the surroundings. -/
inductive Sends (w : Surroundings ε) (limit : Span) (controlled : Bool) (m : Memory)
    (id text : String) (e : ε) : List Request → Outcome SentDigits × ε → Prop
  | toneless {f} (hf : Toneless text f) : Sends w limit controlled m id text e [] (.error f, e)
  | missing (ht : AreTones text) (hp : ∀ p, m.Stores .participant p → p.id ≠ id) :
    Sends w limit controlled m id text e [.store (.get .participant id)]
      (.error (.notFound ("sip_participant " ++ id)), e)
  | uncontrolled {p} (ht : AreTones text) (hp : m.Stores .participant p) (hi : p.id = id)
    (hc : controlled = false) :
    Sends w limit controlled m id text e [.store (.get .participant id)]
      (.error (.unimplemented "DTMF delivery needs a call control channel"), e)
  | delivered {p} (ht : AreTones text) (hp : m.Stores .participant p) (hi : p.id = id)
    (hc : controlled = true) :
    Sends w limit controlled m id text e [.send p ⟨text⟩, .store (.get .participant id)]
      (w.deliver limit p ⟨text⟩ e)

variable {w : Surroundings ε} {limit : Span} {controlled : Bool} {m : Memory} {id text : String}
  {e : ε} {record : List Exchange}

lemma Sends.asks_iff {asked : List Request} {result : Outcome SentDigits × ε}
    (h : Sends w limit controlled m id text e asked result) :
    (∃ p d, Request.send p d ∈ asked) ↔
      AreTones text ∧ (∃ p, m.Stores .participant p ∧ p.id = id) ∧ controlled = true := by
  cases h with
  | toneless hf => simp [hf.not_tones]
  | missing ht hp =>
    have hn : ¬∃ p, m.Stores .participant p ∧ p.id = id := fun ⟨p, hm, hi⟩ => hp p hm hi
    simp [hn]
  | uncontrolled ht hp hi hc => simp [hc]
  | @delivered p ht hp hi hc => exact ⟨fun _ => ⟨ht, ⟨p, hp, hi⟩, hc⟩, fun _ => ⟨p, _, .head _⟩⟩

lemma Sends.answered {asked : List Request} {result : Outcome SentDigits × ε} {p : Participant}
    {d : Digits} {e' : ε} (h : Sends w limit controlled m id text e asked result)
    (ha : Request.send p d ∈ asked) (hn : w.hinder (.send p d) e = (.none, e')) :
    result = w.send p d e' := by
  cases h with
  | toneless hf => simp at ha
  | missing ht hp => simp at ha
  | uncontrolled ht hp hi hc => simp at ha
  | delivered ht hp hi hc =>
    simp only [List.mem_cons, Request.send.injEq, reduceCtorEq, List.not_mem_nil, or_false] at ha
    obtain ⟨rfl, rfl⟩ := ha
    rw [Surroundings.deliver, hn]

variable {σ α : Type}

lemma Plan.Silent.unasked {p : Plan α} (h : p.Silent) (v : World σ) (limit waited : Span) (s : σ) :
    (p.run v.watched limit waited (record, s)).2.1 = record := by
  induction p generalizing waited s with
  | done a => rfl
  | ask r next ih => exact absurd h id
  | allocate start next ih => exact ih _ (h _) waited _
  | clock next ih => exact ih _ (h _) waited s
  | note n next ih => exact ih h waited _

lemma asked_once {r : Request} {next : Outcome r.Answer → Plan α} (h : ∀ o, (next o).Silent)
    (v : World σ) (limit waited : Span) (s : σ) :
    ((Plan.ask r next).run v.watched limit waited (record, s)).2.1.map Exchange.request =
      r :: record.map Exchange.request := by
  rcases Plan.run_ask v.watched limit waited r next (record, s) with
    ⟨hr, -⟩ | ⟨o, -, hr⟩ | ⟨waited', hr⟩ <;> rw [hr]
  · rfl
  · exact congrArg (List.map Exchange.request) ((h o).unasked v limit waited _)
  · exact congrArg (List.map Exchange.request) ((h _).unasked v limit waited' _)

def lookup (m : Memory) (k : Kind) (id : String) : Exchange :=
  ⟨.store (.get k id), some (.ok (m.get? k id))⟩

lemma yields_lookup (hk : m.Kept) (record : List Exchange) (k : Kind) (id : String) : ∃ found,
    (k.entity.find id).Yields w.calm.world.watched (record, e, m) (.ok found)
      (lookup m k id :: record, e, m) ∧
    ∀ r, found = some r ↔ m.Stores k r ∧ k.entity.id r = id := by
  have hget : (Operation.store (.get k id)).Yields w.calm.world.watched (record, e, m)
      (.ok (m.get? k id)) (lookup m k id :: record, e, m) :=
    yields_ask (w := w.calm.world.watched) (r := .store (.get k id)) (s := (record, e, m)) rfl
  cases hg : m.get? k id with
  | none =>
    refine ⟨none, hget.find (by rw [hg]; rfl), fun r => ⟨nofun, ?_⟩⟩
    rintro ⟨⟨data, hr, -⟩, rfl⟩
    exact absurd (hg.symm.trans hr) nofun
  | some data =>
    obtain ⟨r, hi, hd, hs⟩ := hk.stores hg
    refine ⟨some r, hget.find (by simp [hg, hd]), fun r' => ⟨?_, ?_⟩⟩
    · intro hr
      obtain rfl := Option.some.inj hr
      exact ⟨hs, hi⟩
    · rintro ⟨⟨data', hg', hd'⟩, hi'⟩
      rw [hi', hg] at hg'
      obtain rfl := Option.some.inj hg'
      exact congrArg some (Except.ok.inj (hd.symm.trans hd'))

lemma yields_load (hk : m.Kept) (record : List Exchange) (k : Kind) (id : String) :
    ((k.entity.load id).Yields w.calm.world.watched (record, e, m) (.error (.notFound (k.title id)))
        (lookup m k id :: record, e, m) ∧ ∀ r, m.Stores k r → k.entity.id r ≠ id) ∨
      ∃ r, (k.entity.load id).Yields w.calm.world.watched (record, e, m) (.ok r)
        (lookup m k id :: record, e, m) ∧ m.Stores k r ∧ k.entity.id r = id := by
  obtain ⟨found, hf, hiff⟩ := yields_lookup (w := w) (e := e) hk record k id
  cases found with
  | none => exact .inl ⟨hf.load, fun r hs hi => absurd ((hiff r).mpr ⟨hs, hi⟩) nofun⟩
  | some r => exact .inr ⟨r, hf.load, (hiff r).mp rfl⟩

lemma delivers {p : Participant} {d : Digits} {text' : String} (limit : Span)
    (hr : ((Action.sendDigits id text).operation ⟨true, true⟩).run.run w.calm.world.watched limit
        ⟨0⟩ ([], e, m) =
      (do
        let sent ← ask (.send p d)
        note .info text'
        return sent : Operation SentDigits).run.run w.calm.world.watched limit ⟨0⟩ (record, e, m)) :
    let result := w.calm.world.perform limit ⟨true, true⟩ (.sendDigits id text) (e, m)
    result.2.1.map Exchange.request = .send p d :: record.map Exchange.request ∧
      (result.1, result.2.2.1) = w.deliver limit p d e ∧ result.2.2.2 = m := by
  intro result
  have hsent := send_carryOut (w := w) (e := e) (m := m) p d limit
    (k := fun sent => do note .info text'; return sent)
    (fun sent s => (yields_note _ _ s).bind (yields_pure sent _)) id text
  have hmaps := w.calm.world.maps_watched.run (do
    let sent ← ask (.send p d)
    note .info text'
    return sent : Operation SentDigits).run limit ⟨0⟩ (record, e, m)
  rw [Surroundings.carryOut, hmaps] at hsent
  obtain ⟨ho, hs⟩ := Prod.mk.inj hsent
  simp only [result, World.perform, hr]
  refine ⟨?_, ?_, ?_⟩
  · refine asked_once (fun o => ?_) _ _ _ _
    cases o <;> trivial
  · rw [ho, hs]
  · rw [hs]

lemma sends_of_kept (hk : m.Kept) (w : Surroundings ε) (limit : Span) (controlled : Bool)
    (id text : String) (e : ε) :
    let result := w.calm.world.perform limit ⟨true, controlled⟩ (.sendDigits id text) (e, m)
    Sends w limit controlled m id text e (result.2.1.map Exchange.request)
      (result.1, result.2.2.1) ∧ result.2.2.2 = m := by
  intro result
  have hparse {o : Outcome Digits} (h : Digits.parse text = o) :
      (ofOutcome (Digits.parse text)).Yields w.calm.world.watched ([], e, m) o ([], e, m) :=
    h ▸ yields_ofOutcome _ _
  by_cases ht : AreTones text
  · have hdigits := hparse (parse_tones ht)
    rcases yields_load (w := w) (e := e) hk [] .participant id with
      ⟨hload, hp⟩ | ⟨p, hload, hp, hi⟩
    · have hr : ((Action.sendDigits id text).operation ⟨true, controlled⟩).run.run
          w.calm.world.watched limit ⟨0⟩ ([], e, m) = _ :=
        (hdigits.bind hload.bind_error).run limit ⟨0⟩
      simp only [result, World.perform, hr]
      exact ⟨.missing ht hp, trivial⟩
    · cases controlled with
      | false =>
        have hr : ((Action.sendDigits id text).operation ⟨true, false⟩).run.run
            w.calm.world.watched limit ⟨0⟩ ([], e, m) = _ :=
          (hdigits.bind (hload.bind (yields_throw _ _))).run limit ⟨0⟩
        simp only [result, World.perform, hr]
        exact ⟨.uncontrolled ht hp hi rfl, trivial⟩
      | true =>
        obtain ⟨hasked, hgiven, hm⟩ := delivers (w := w) (e := e) (m := m) limit
          ((hdigits.run_bind _ limit ⟨0⟩).trans (hload.run_bind _ limit ⟨0⟩))
        simp only [result]
        rw [hasked, hgiven]
        exact ⟨.delivered ht hp hi rfl, hm⟩
  · obtain ⟨f, hf, hrefused⟩ := exists_toneless ht
    have hr : ((Action.sendDigits id text).operation ⟨true, controlled⟩).run.run
        w.calm.world.watched limit ⟨0⟩ ([], e, m) = _ := (hparse hrefused).bind_error.run limit ⟨0⟩
    simp only [result, World.perform, hr]
    exact ⟨.toneless hf, trivial⟩

/-- On every store that actions can bring about. The surroundings give out the ids, so none is given
out where they are left as they were. -/
theorem sendDigits_sends (w : Surroundings ε) (limit : Span) (controlled : Bool)
    (moves : List Move) (id text : String) (e : ε) :
    let m := (Scene.play moves).memory
    let result := w.calm.world.perform limit ⟨true, controlled⟩ (.sendDigits id text) (e, m)
    let asked := result.2.1.map Exchange.request
    Sends w limit controlled m id text e asked (result.1, result.2.2.1) ∧ result.2.2.2 = m ∧
      ((∃ p d, Request.send p d ∈ asked) ↔
        AreTones text ∧ (∃ p, m.Stores .participant p ∧ p.id = id) ∧ controlled = true) ∧
      ∀ p d e', Request.send p d ∈ asked → w.hinder (.send p d) e = (.none, e') →
        (result.1, result.2.2.1) = w.send p d e' := by
  intro m result asked
  obtain ⟨hs, hm⟩ := sends_of_kept (Scene.play_sound moves).told.kept w limit controlled id text e
  exact ⟨hs, hm, hs.asks_iff, fun p d e' => hs.answered⟩

end Service

end Switchboard
