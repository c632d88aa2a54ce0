import Switchboard.Proofs.Registry.Callers
import Switchboard.Proofs.Service.Keeping
import Switchboard.Proofs.Service.Yields
import Switchboard.Service.Session

/-! What a match tells of the caller: it reads what is stored before it looks at the call, and then
answers, logs and counts nothing but what becomes of the caller by the rule that is chosen. -/

namespace Switchboard.Service

open Store Time Operation

instance : LawfulMonad Plan :=
  .mk' Plan (fun p => p.bind_done) (fun _ _ => rfl) fun p f g => p.bind_assoc f g

lemma Plan.run_bind {σ α : Type} (w : World σ) (limit : Span) (p : Plan α) (waited : Span) (s : σ) :
    (∃ s', p.run w limit waited s = (none, s') ∧
      ∀ {β : Type} (k : α → Plan β), (p.bind k).run w limit waited s = (none, s')) ∨
    ∃ a waited' s', p.run w limit waited s = (some a, s') ∧
      ∀ {β : Type} (k : α → Plan β),
        (p.bind k).run w limit waited s = (k a).run w limit waited' s' := by
  induction p generalizing waited s with
  | done a => exact .inr ⟨a, waited, s, rfl, fun _ => rfl⟩
  | allocate start next ih => exact ih _ waited _
  | clock next ih => exact ih _ waited s
  | note n next ih => exact ih waited _
  | ask r next ih =>
    have harrive (waited : Span) (s : σ) := ih (w.answer r s).1 waited (w.answer r s).2
    simp only [Plan.bind, Plan.run]
    cases (w.disturb r s).1 with
    | none => exact harrive waited _
    | fail f => exact ih _ waited _
    | hang => exact .inl ⟨_, rfl, fun _ => rfl⟩
    | delay d =>
      simp only
      split_ifs
      · exact .inl ⟨_, rfl, fun _ => rfl⟩
      · exact harrive _ _
    | absent =>
      cases r.vacant? with
      | none => exact harrive waited _
      | some answer => exact ih _ waited _

def survey : Operation (List Trunk × List Rule) := do
  let trunks ← trunkEntity.list
  let rules ← ruleEntity.list
  return (trunks, rules)

def callNotice (call : Call) : Outcome Decision → Notice
  | .ok d => ⟨.debug, call.title ++ " dispatched by " ++ d.ruleId ++ " to room " ++ d.room⟩
  | .error f => ⟨.warning, call.title ++ " rejected: " ++ f.text⟩

def announce (call : Call) (o : Outcome Decision) : Operation Decision :=
  ExceptT.mk (.note (callNotice call o) (.done o))

lemma matchCall_eq (call : Call) :
    matchCall call = survey >>= fun x => announce call (route x.1 x.2 call) := by
  simp only [matchCall, survey, bind_assoc, pure_bind]
  congr
  funext trunks
  congr
  funext rules
  cases route trunks rules call <;> rfl

namespace Session

/-- The trunk and the rule that are chosen from what the store tells, if it tells in time. -/
def picked (s : Session) (address number : String) : Option (Outcome (Trunk × Rule)) :=
  ((connect s.equipment >>= fun _ => survey).run.run world s.limit ⟨0⟩ s).1.map fun o =>
    o.bind fun x => choose x.1 x.2 address number

lemma yields_held {s : Session} {m : Memory} (hs : s.store = some (.memory m)) (hf : s.faults = [])
    {k : Kind} {rs : List k.Record} (h : m.Holds k rs) : k.entity.list.Yields world s (.ok rs) s := by
  have hl : (Operation.store (.list k)).Yields world s (.ok (m.table k).documents) s := by
    obtain ⟨store, control, faults, spareIds, allocated, now, limit, notices, tally⟩ := s
    subst hs hf
    have hy := yields_ask (w := world) (r := .store (.list k))
      (s := ⟨some (.memory m), control, [], spareIds, allocated, now, limit, notices, tally⟩) rfl
    simp only [world, answer, askStore, disturb, Store.disturb, Backend.serve, Memory.serve,
      List.append_nil] at hy
    exact hy
  exact hl.list h

lemma picked_held {s : Session} {m : Memory} (hs : s.store = some (.memory m)) (hf : s.faults = [])
    {trunks : List Trunk} {rules : List Rule} (ht : m.Holds .trunk trunks) (hr : m.Holds .rule rules)
    (address number : String) :
    s.picked address number = some (choose trunks rules address number) := by
  have hc : s.equipment.connected = true := by simp [equipment, hs]
  have hy : survey.Yields world s (.ok (trunks, rules)) s :=
    (yields_held (k := .trunk) hs hf ht).bind
      ((yields_held (k := .rule) hs hf hr).bind (yields_pure _ _))
  have hy' := hy.run s.limit ⟨0⟩
  simp only [picked, connect, hc, if_true, pure_bind, hy']
  rfl

lemma account_matchCall (address number c : String) (o : Outcome Decision) (s : Session) :
    account (.matchCall ⟨address, number, c⟩) o s =
      account (.matchCall ⟨address, number, ""⟩) o s := by
  cases o <;> rfl

lemma perform_matchCall {s s' : Session} {call : Call} {o : Outcome Decision}
    (h : ((Action.matchCall call).operation s.equipment).run.run world s.limit ⟨0⟩ s =
      (some o, s')) :
    s.perform (.matchCall call) = (o, account (.matchCall ⟨call.address, call.number, ""⟩) o s') := by
  simp only [perform, h, conclude]
  rw [← account_matchCall call.address call.number call.caller]

lemma exists_finish (s : Session) (address number : String) :
    (s.picked address number = none ∧
      ∃ f s', ∀ c, s.perform (.matchCall ⟨address, number, c⟩) = (.error f, s')) ∨
    ∃ x, s.picked address number = some x ∧ ∃ finish : Outcome Decision → Outcome Decision × Session,
      (∀ o, (finish o).1 = o) ∧ ∀ c, s.perform (.matchCall ⟨address, number, c⟩) =
        finish (x.bind fun y => y.2.answer y.1 c) := by
  have hp (c : String) : (Action.matchCall ⟨address, number, c⟩).operation s.equipment =
      (connect s.equipment >>= fun _ => survey) >>= fun x =>
        announce ⟨address, number, c⟩ (route x.1 x.2 ⟨address, number, c⟩) := by
    rw [bind_assoc, ← matchCall_eq]
    rfl
  rcases (connect s.equipment >>= fun _ => survey).run.run_bind world s.limit ⟨0⟩ s with
    ⟨s', hs, hk⟩ | ⟨o, waited, s', hs, hk⟩
  · left
    let f : Failure := .deadlineExceeded
      ("match_sip_dispatch_rule" ++ " did not finish within " ++ s'.limit.text)
    refine ⟨by rw [picked, hs]; rfl, f, account (.matchCall ⟨address, number, ""⟩) (.error f) s',
      fun c => ?_⟩
    have hrun : ((Action.matchCall ⟨address, number, c⟩).operation s.equipment).run.run world
        s.limit ⟨0⟩ s = (none, s') := by
      rw [hp]
      exact hk _
    simp only [perform, hrun]
    rfl
  · right
    refine ⟨o.bind fun x => choose x.1 x.2 address number, by rw [picked, hs]; rfl, ?_⟩
    cases o with
    | error f =>
      refine ⟨fun o => (o, account (.matchCall ⟨address, number, ""⟩) o s'), fun o => rfl,
        fun c => perform_matchCall ?_⟩
      rw [hp]
      exact hk _
    | ok x =>
      refine ⟨fun o => (o, account (.matchCall ⟨address, number, ""⟩) o
        (s'.note (callNotice ⟨address, number, ""⟩ o))), fun o => rfl, fun c => perform_matchCall ?_⟩
      rw [hp, show (Except.ok x : Outcome _).bind (fun x => choose x.1 x.2 address number) =
        choose x.1 x.2 address number from rfl, ← route_eq_choose x.1 x.2 ⟨address, number, c⟩]
      exact hk _

/-- Calls from the same address to the same number are answered, logged and counted the same unless
a rule is chosen, and the same rule is chosen for all; a rule that hides callers lets nothing be seen
of them but their digests and whether they have a number. -/
theorem match_discloses (s : Session) (address number : String) :
    let m (caller : String) := s.perform (.matchCall ⟨address, number, caller⟩)
    ((∀ t r, s.picked address number ≠ some (.ok (t, r))) → ∃ f s', ∀ c, m c = (.error f, s')) ∧
    (∀ t r, s.picked address number = some (.ok (t, r)) → Discloses t r m) ∧
    (∀ memory trunks rules, s.store = some (.memory memory) → s.faults = [] →
      memory.Holds .trunk trunks → memory.Holds .rule rules →
        s.picked address number = some (choose trunks rules address number)) ∧
    ∀ c, (redacted c).toList.length = 16 ∧
      ∀ a ∈ (redacted c).toList, a ∈ "0123456789abcdef".toList := by
  intro m
  refine ⟨?_, ?_, fun _ _ _ hs hf ht hr => picked_held hs hf ht hr address number, redacted_shape⟩
  · intro hn
    rcases s.exists_finish address number with ⟨-, hm⟩ | ⟨x, hx, finish, hf, hm⟩
    · exact hm
    · cases x with
      | error f => exact ⟨f, (finish (.error f)).2, fun c => (hm c).trans (Prod.ext (hf _) rfl)⟩
      | ok y => exact absurd hx (hn y.1 y.2)
  · intro t r h
    rcases s.exists_finish address number with ⟨hx, -⟩ | ⟨x, hx, finish, hf, hm⟩
    · exact absurd (hx.symm.trans h) nofun
    · obtain rfl : x = .ok (t, r) := Option.some.inj (hx.symm.trans h)
      rw [show m = fun c => finish (r.answer t c) from funext hm]
      exact discloses_answer t r hf

end Session

end Switchboard.Service
