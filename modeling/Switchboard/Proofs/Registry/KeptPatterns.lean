import Switchboard.Proofs.Registry.Routes
import Switchboard.Registry.PatternCache

/-! Patterns that are kept ready answer as they would if they were made ready anew for every number,
whatever was kept and dropped before. -/

namespace Switchboard

def Trunk.answersAnew (t : Trunk) (number : String) : Outcome Bool :=
  if t.numberPattern = "" then .ok true
  else
    match Matcher.ofText t.numberPattern with
    | .error fault => .error (fault.failure t.numberPattern)
    | .ok m => .ok (m.occursIn number)

lemma Trunk.accepts_eq_anew (t : Trunk) (number : String) :
    t.accepts number = t.answersAnew number := by
  rw [accepts_eq, fault?, takes, answersAnew]
  by_cases hp : t.numberPattern = ""
  · simp [hp]
  · cases hm : Matcher.ofText t.numberPattern with
    | error fault => simp [hp]
    | ok m => simp [hp]

namespace PatternCache

/-- No pattern is kept twice, none that is empty or has no meaning, and there are not too many. -/
structure Sound (c : PatternCache) : Prop where
  few : c.size ≤ 1024
  distinct : (c.entries.map Prod.fst).Nodup
  ready : ∀ e ∈ c.entries, e.1 ≠ "" ∧ Matcher.ofText e.1 = .ok e.2

variable {c : PatternCache} {pattern : String} {m : Matcher}

lemma find?_eq_none_iff : c.find? pattern = none ↔ pattern ∉ c.entries.map Prod.fst := by
  simp only [find?, List.lookup_eq_none_iff, bne_iff_ne, ne_comm, List.mem_map, not_exists, not_and]

lemma mem_of_find? (h : c.find? pattern = some m) : (pattern, m) ∈ c.entries := by
  obtain ⟨before, after, he, -⟩ := List.lookup_eq_some_iff.mp h
  rw [he]
  exact List.mem_append_right _ (.head _)

@[simp] lemma find?_add : (c.add pattern m).find? pattern = some m := by simp [add, find?]

lemma sound_empty : PatternCache.empty.Sound :=
  ⟨Nat.zero_le _, List.nodup_nil, List.forall_mem_nil _⟩

lemma Sound.add (h : c.Sound) (hf : c.find? pattern = none) (hp : pattern ≠ "")
    (hm : Matcher.ofText pattern = .ok m) : (c.add pattern m).Sound := by
  have hnew : pattern ≠ "" ∧ Matcher.ofText pattern = .ok m := ⟨hp, hm⟩
  unfold PatternCache.add
  split_ifs with hl
  · exact ⟨by simp [size], List.nodup_singleton _, List.forall_mem_singleton.mpr hnew⟩
  · refine ⟨?_, ?_, List.forall_mem_cons.mpr ⟨hnew, h.ready⟩⟩
    · rw [size, limit] at hl
      simp only [size, List.length_cons]
      omega
    · exact List.nodup_cons.mpr ⟨find?_eq_none_iff.mp hf, h.distinct⟩

lemma accepts_cases (h : c.Sound) (t : Trunk) (number : String) :
    c.accepts t number = (t.answersAnew number, c) ∨
      ∃ m, c.find? t.numberPattern = none ∧ t.numberPattern ≠ "" ∧
        Matcher.ofText t.numberPattern = .ok m ∧
        c.accepts t number = (t.answersAnew number, c.add t.numberPattern m) := by
  unfold accepts Trunk.answersAnew
  by_cases hp : t.numberPattern = ""
  · simp [hp]
  · cases hf : c.find? t.numberPattern with
    | some m =>
      have hm : Matcher.ofText t.numberPattern = .ok m := (h.ready _ (mem_of_find? hf)).2
      simp [hp, hm]
    | none =>
      cases hm : Matcher.ofText t.numberPattern with
      | error fault => simp [hp, hm, numberMatcher, Except.mapError]
      | ok m => simp [hp, hm, numberMatcher, Except.mapError]

lemma accepts_answer (h : c.Sound) (t : Trunk) (number : String) :
    (c.accepts t number).1 = t.answersAnew number := by
  rcases accepts_cases h t number with ha | ⟨m, -, -, -, ha⟩ <;> rw [ha]

lemma Sound.accepts (h : c.Sound) (t : Trunk) (number : String) : (c.accepts t number).2.Sound := by
  rcases accepts_cases h t number with ha | ⟨m, hf, hp, hm, ha⟩
  · rwa [ha]
  · rw [ha]
    exact h.add hf hp hm

lemma find?_accepts (h : c.Sound) {t : Trunk} (hp : t.numberPattern ≠ "")
    (hm : Matcher.ofText t.numberPattern = .ok m) (number : String) :
    (c.accepts t number).2.find? t.numberPattern = some m := by
  cases hf : c.find? t.numberPattern with
  | some m' =>
    have hm' := (h.ready _ (mem_of_find? hf)).2
    obtain rfl := Except.ok.inj (hm'.symm.trans hm)
    simp [PatternCache.accepts, hp, hf]
  | none => simp [PatternCache.accepts, hp, hf, hm, numberMatcher, Except.mapError]

def answers (c : PatternCache) : List (Trunk × String) → List (Outcome Bool) × PatternCache
  | [] => ([], c)
  | (t, number) :: calls =>
    let (answer, c) := c.accepts t number
    let (more, c) := c.answers calls
    (answer :: more, c)

lemma answers_sound (h : c.Sound) (calls : List (Trunk × String)) :
    (c.answers calls).1 = calls.map (fun call => call.1.answersAnew call.2) ∧
      (c.answers calls).2.Sound := by
  induction calls generalizing c with
  | nil => exact ⟨rfl, h⟩
  | cons call calls ih =>
    obtain ⟨t, number⟩ := call
    obtain ⟨hanswers, hkept⟩ := ih (h.accepts t number)
    refine ⟨?_, hkept⟩
    rw [List.map_cons, ← accepts_answer h, ← hanswers]
    rfl

/-- As the calls are any, this is so after each of them: they were answered as without a cache, which
is how calls are routed, and what is kept is sound; and it is put to use. -/
theorem answers_anew (calls : List (Trunk × String)) :
    let result := PatternCache.empty.answers calls
    result.1 = calls.map (fun call => call.1.answersAnew call.2) ∧
      result.1 = calls.map (fun call => call.1.accepts call.2) ∧ result.2.Sound ∧
      ∀ (t : Trunk) (number : String) (m : Matcher), t.numberPattern ≠ "" →
        Matcher.ofText t.numberPattern = .ok m →
        (result.2.accepts t number).2.find? t.numberPattern = some m := by
  intro result
  obtain ⟨hanswers, hsound⟩ := answers_sound sound_empty calls
  refine ⟨hanswers, ?_, hsound, fun t number m hp hm => find?_accepts hsound hp hm number⟩
  simp only [Trunk.accepts_eq_anew]
  exact hanswers

end PatternCache

end Switchboard
