import Switchboard.Proofs.Service.Accounts
import Switchboard.Proofs.Service.Worlds

/-! What a session does is a run of the office: each action begins, takes its turns, ends, and has
all its pieces put down before the next. The lines that a store writes of its own are no warnings,
so that the warnings of a session are those of its office. -/

namespace Switchboard.Service

open Metrics Time

variable {α : Type}

def warnings (ns : List Notice) : List Notice := ns.filter fun n => n.level = .warning

lemma warnings_append (ns ns' : List Notice) :
    warnings (ns ++ ns') = warnings ns ++ warnings ns' := List.filter_append ns ns'

inductive Plan.Turns : Plan α → List Notice → Plan α → Prop
  | refl (p : Plan α) : Turns p [] p
  | turn {p p' : Plan α} {ns : List Notice} (g : Office.Given) :
    Turns (p.advance g).1 ns p' → Turns p ((p.advance g).2 ++ ns) p'

def Plan.Stops : Plan α → Option α → Prop
  | p, some a => p = .done a
  | p, none => ∃ r next, p = .ask r next

structure World.Warns {σ : Type} (w : World σ) (f : σ → List Notice) : Prop where
  disturb : ∀ r s, f (w.disturb r s).2 = f s
  answer : ∀ r s, f (w.answer r s).2 = f s
  allocate : ∀ start s, f (w.allocate start s).2 = f s
  note : ∀ n s, f (w.note n s) = f s ++ warnings [n]

def Office.nothing : Office.Given := ⟨fun _ => .error default, "", default⟩

lemma exists_given (r : Request) (o : Outcome r.Answer) : ∃ g : Office.Given, g.answer r = o := by
  classical
  exact ⟨{ Office.nothing with answer := fun r' => if h : r' = r then h ▸ o else .error default },
    by simp⟩

lemma World.Warns.run {σ : Type} {w : World σ} {f : σ → List Notice} (h : w.Warns f)
    (p : Plan α) (limit waited : Span) (s : σ) :
    ∃ p' ns, p.Turns ns p' ∧ p'.Stops (p.run w limit waited s).1 ∧
      f (p.run w limit waited s).2 = f s ++ warnings ns := by
  induction p generalizing waited s with
  | done a => exact ⟨.done a, [], .refl _, rfl, (List.append_nil _).symm⟩
  | allocate start next ih =>
    obtain ⟨p', ns, ht, hs, hf⟩ := ih (w.allocate start s).1 waited (w.allocate start s).2
    refine ⟨p', ns, .turn { Office.nothing with id := (w.allocate start s).1 } ht, hs, ?_⟩
    rw [← h.allocate start s]
    exact hf
  | clock next ih =>
    obtain ⟨p', ns, ht, hs, hf⟩ := ih (w.clock s) waited s
    exact ⟨p', ns, .turn { Office.nothing with now := w.clock s } ht, hs, hf⟩
  | note n next ih =>
    obtain ⟨p', ns, ht, hs, hf⟩ := ih waited (w.note n s)
    refine ⟨p', [n] ++ ns, .turn Office.nothing ht, hs, ?_⟩
    rw [warnings_append, ← List.append_assoc, ← h.note]
    exact hf
  | ask r next ih =>
    -- whatever comes back is an answer that some surroundings give
    have hreturned (o : Outcome r.Answer) (waited : Span) (t : σ) (ht : f t = f s) :
        ∃ p' ns, (Plan.ask r next).Turns ns p' ∧ p'.Stops ((next o).run w limit waited t).1 ∧
          f ((next o).run w limit waited t).2 = f s ++ warnings ns := by
      obtain ⟨g, rfl⟩ := exists_given r o
      obtain ⟨p', ns, hn, hs, hf⟩ := ih (g.answer r) waited t
      exact ⟨p', ns, .turn g hn, hs, ht ▸ hf⟩
    have hd := h.disturb r s
    rcases Plan.run_ask w limit waited r next s with ⟨hr, -⟩ | ⟨o, -, hr⟩ | ⟨waited', hr⟩
    · rw [hr]
      exact ⟨.ask r next, [], .refl _, ⟨r, next, rfl⟩, hd.trans (List.append_nil _).symm⟩
    · rw [hr]
      exact hreturned o waited _ hd
    · rw [hr]
      exact hreturned _ waited' _ ((h.answer r _).trans hd)

namespace Office

def Reaches (s s' : Office) : Prop := ∃ moves : List Move, moves.foldl move s = s'

lemma Reaches.refl (s : Office) : s.Reaches s := ⟨[], rfl⟩

lemma Reaches.trans {s s' s'' : Office} (h : s.Reaches s') (h' : s'.Reaches s'') :
    s.Reaches s'' := by
  obtain ⟨moves, rfl⟩ := h
  obtain ⟨moves', rfl⟩ := h'
  exact ⟨moves ++ moves', List.foldl_append⟩

section

variable (jobs : List Job) (log : List (ℕ × Notice)) (tally : Tally)

lemma reaches_step {j j' : Job} {t : Step} {es : List Entry} (h : j.step t = some (j', es)) :
    Reaches ⟨jobs ++ [j], log, tally⟩ ⟨jobs ++ [j'],
      log ++ (es.flatMap Entry.lines).map (jobs.length, ·),
      es.foldl (fun t e => e.count t) tally⟩ :=
  ⟨[.step jobs.length t], by simp [move, h]⟩

lemma step_turn {a : Action} (limit : Span) {p : Plan (Outcome a.Result)} (h : ∀ o, p ≠ .done o)
    (g : Given) : Job.step ⟨a, limit, .underWay p⟩ (.turn g) =
      some (⟨a, limit, .underWay (p.advance g).1⟩, (p.advance g).2.map .line) := by
  cases p with
  | done o => exact absurd rfl (h o)
  | ask r next => rfl
  | allocate start next => rfl
  | clock next => rfl
  | note n next => rfl

lemma reaches_turns {a : Action} (limit : Span) {p p' : Plan (Outcome a.Result)}
    {ns : List Notice} (h : p.Turns ns p') :
    Reaches ⟨jobs ++ [⟨a, limit, .underWay p⟩], log, tally⟩
      ⟨jobs ++ [⟨a, limit, .underWay p'⟩], log ++ ns.map (jobs.length, ·), tally⟩ := by
  induction h generalizing log with
  | refl p => simpa using Reaches.refl _
  | @turn p p' ns g h ih =>
    by_cases hd : ∃ o, p = .done o
    · -- it stays as it is, where the job would end
      obtain ⟨o, rfl⟩ := hd
      exact ih log
    · have hstep := reaches_step jobs log tally (step_turn limit (not_exists.mp hd) g)
      rw [lines_map, fold_lines] at hstep
      rw [List.map_append, ← List.append_assoc]
      exact hstep.trans (ih _)

lemma reaches_end {a : Action} (limit : Span) {p : Plan (Outcome a.Result)}
    {result : Option (Outcome a.Result)} (h : p.Stops result) :
    Reaches ⟨jobs ++ [⟨a, limit, .underWay p⟩], log, tally⟩
      ⟨jobs ++ [⟨a, limit, .ended (Session.conclude a limit result) 0⟩], log, tally⟩ := by
  cases result with
  | some o =>
    obtain rfl := h
    have ht : Job.step ⟨a, limit, .underWay (.done o)⟩ (.turn nothing) =
      some (⟨a, limit, .ended (Session.conclude a limit (some o)) 0⟩, []) := rfl
    simpa using reaches_step jobs log tally ht
  | none =>
    obtain ⟨r, next, rfl⟩ := h
    have ht : Job.step ⟨a, limit, .underWay (.ask r next)⟩ .expire =
      some (⟨a, limit, .ended (Session.conclude a limit none) 0⟩, []) := rfl
    simpa using reaches_step jobs log tally ht

lemma reaches_entered (a : Action) (limit : Span) (o : Outcome a.Result) (n : ℕ)
    (h : n ≤ (entries a o).length) :
    Reaches ⟨jobs ++ [⟨a, limit, .ended o 0⟩], log, tally⟩
      ⟨jobs ++ [⟨a, limit, .ended o n⟩],
        log ++ (((entries a o).take n).flatMap Entry.lines).map (jobs.length, ·),
        ((entries a o).take n).foldl (fun t e => e.count t) tally⟩ := by
  induction n with
  | zero => simpa using Reaches.refl _
  | succ n ih =>
    have he : (entries a o)[n]? = some (entries a o)[n] := List.getElem?_eq_getElem h
    have ht : Job.step ⟨a, limit, .ended o n⟩ .enter =
        some (⟨a, limit, .ended o (n + 1)⟩, [(entries a o)[n]]) := by
      simp [Job.step, he]
    have htake : (entries a o).take (n + 1) = (entries a o).take n ++ [(entries a o)[n]] :=
      (List.take_concat_get' _ n h).symm
    have hstep := reaches_step jobs
      (log ++ (((entries a o).take n).flatMap Entry.lines).map (jobs.length, ·))
      (((entries a o).take n).foldl (fun t e => e.count t) tally) ht
    rw [List.append_assoc, ← List.map_append, ← List.flatMap_append, ← List.foldl_append,
      ← htake] at hstep
    exact (ih (Nat.le_of_succ_le h)).trans hstep

end

end Office

namespace Session

lemma counted_eq (a : Action) (o : Outcome a.Result) (t : Tally) :
    counted a o t = (entries a o).foldl (fun t e => e.count t) t := by
  rw [entries, List.foldl_append, Office.fold_lines, List.foldl_cons]
  cases a <;> rfl

lemma warnings_memory (m : Store.Memory) (r : Store.Request) :
    warnings (m.serve r).notices = [] := by
  cases r with
  | insert k id data =>
    simp only [Store.Memory.serve]
    split_ifs <;> rfl
  | delete k id =>
    simp only [Store.Memory.serve]
    split_ifs <;> rfl
  | _ => rfl

lemma warnings_closedPool (r : Store.Request) :
    warnings (Store.ClosedPool.serve r).notices = [] := by
  cases r with
  | insert k id data =>
    simp only [Store.ClosedPool.serve]
    split_ifs <;> rfl
  | _ => rfl

lemma warnings_serve (b : Store.Backend) (r : Store.Request) :
    warnings (b.serve r).notices = [] := by
  cases b with
  | memory m => exact warnings_memory m r
  | closedPool => exact warnings_closedPool r

lemma warns_world : world.Warns fun s => warnings s.notices where
  disturb r s := by cases r <;> rfl
  answer r s := by
    cases r with
    | send p d => rfl
    | store r =>
      change warnings (s.askStore r).2.notices = warnings s.notices
      unfold askStore
      cases s.store with
      | none => rfl
      | some b =>
        exact (warnings_append _ _).trans (by rw [warnings_serve, List.append_nil])
  allocate _ _ := rfl
  note n s := warnings_append s.notices [n]

lemma keeps_tally : world.Keeps tally where
  disturb r s := by cases r <;> rfl
  answer r s := by
    cases r with
    | send p d => rfl
    | store r =>
      obtain ⟨store, control, faults, spareIds, allocated, now, limit, notices, tally⟩ := s
      cases store <;> rfl
  allocate _ _ := rfl
  note _ _ := rfl

/-- An action of a session is a job of the office, with its outcome, its counts and its warnings. -/
theorem reaches_perform (a : Action) (s : Session) (jobs : List Office.Job)
    (log : List (ℕ × Notice)) :
    let (o, t) := s.perform a
    ∃ ns, warnings t.notices = warnings s.notices ++ warnings ns ∧
      Office.Reaches ⟨jobs, log, s.tally⟩
        ⟨jobs ++ [⟨a, s.limit, .ended o (entries a o).length⟩],
          log ++ ns.map (jobs.length, ·), t.tally⟩ := by
  let plan := (a.operation s.equipment).run
  let final := (plan.run world s.limit ⟨0⟩ s).2
  let o := conclude a s.limit (plan.run world s.limit ⟨0⟩ s).1
  have htally : final.tally = s.tally := keeps_tally.run plan s.limit ⟨0⟩ s
  have hperform : s.perform a = (o, account a o final) := by
    obtain ⟨ho, hf⟩ := world.perform_run s.limit s.equipment a s
    rw [perform_eq_world, ho, hf]
  obtain ⟨p, ns, hturns, hstops, hw⟩ := warns_world.run plan s.limit ⟨0⟩ s
  have hbegin : Office.Reaches ⟨jobs, log, s.tally⟩
      ⟨jobs ++ [⟨a, s.limit, .underWay plan⟩], log, s.tally⟩ :=
    ⟨[.start s.equipment s.limit a], rfl⟩
  have hrun := Office.reaches_turns jobs log s.tally s.limit hturns
  have hend := Office.reaches_end jobs (log ++ ns.map (jobs.length, ·)) s.tally s.limit hstops
  have henter := Office.reaches_entered jobs (log ++ ns.map (jobs.length, ·)) s.tally a s.limit o
    (entries a o).length le_rfl
  rw [List.take_length, Office.entries_lines, ← counted_eq, List.append_assoc, ← List.map_append]
    at henter
  rw [hperform]
  refine ⟨ns ++ warnOf a o, ?_, ?_⟩
  · calc warnings (final.notices ++ warnOf a o)
        = warnings s.notices ++ warnings ns ++ warnings (warnOf a o) := by
          rw [warnings_append, hw]
      _ = warnings s.notices ++ warnings (ns ++ warnOf a o) := by
          rw [warnings_append, List.append_assoc]
  · have hcounted : (account a o final).tally = counted a o s.tally := by rw [← htally]; rfl
    rw [hcounted]
    exact hbegin.trans (hrun.trans (hend.trans henter))

end Session

end Switchboard.Service
