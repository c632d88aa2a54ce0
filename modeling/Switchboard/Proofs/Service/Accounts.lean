import Switchboard.Proofs.Metrics.Counters
import Switchboard.Proofs.Service.Warnings
import Switchboard.Service.Session

/-! Actions that are under way at once, whose ends are logged and counted in pieces: when all of it
is done, the counts are those of the outcomes, and each failure was logged once. The surroundings
may answer anything to anyone, in any order, and let any action wait until its time is up. -/

namespace Switchboard.Service

open Metrics Time

variable {α : Type}

/-! ### Entries -/

inductive Entry where
  | line (n : Notice)
  | operation (key : OperationKey)
  | dispatch (label : String)
  deriving DecidableEq

def Entry.lines : Entry → List Notice
  | .line n => [n]
  | .operation _ | .dispatch _ => []

def Entry.count : Entry → Tally → Tally
  | .line _, t => t
  | .operation key, t => { t with operations := t.operations.add key }
  | .dispatch label, t => { t with dispatches := t.dispatches.add label }

def dispatchOf : (a : Action) → Outcome a.Result → List Entry
  | .matchCall _, o => [.dispatch (o.label "routed")]
  | _, _ => []

/-- What is put down when an action has ended, piece by piece; others may put down theirs in
between. -/
def entries (a : Action) (o : Outcome a.Result) : List Entry :=
  (Session.warnOf a o).map .line ++ .operation ⟨a.name, o.label "ok"⟩ :: dispatchOf a o

/-! ### Jobs -/

namespace Office

inductive Stage (a : Action) where
  | underWay (plan : Plan (Outcome a.Result))
  | ended (outcome : Outcome a.Result) (entered : ℕ)

structure Job where
  action : Action
  limit : Span
  stage : Stage action

structure Given where
  answer : (r : Request) → Outcome r.Answer
  id : String
  now : Timestamp

end Office

def Plan.advance (g : Office.Given) : Plan α → Plan α × List Notice
  | .done a => (.done a, [])
  | .ask r next => (next (g.answer r), [])
  | .allocate _ next => (next g.id, [])
  | .clock next => (next g.now, [])
  | .note n next => (next, [n])

namespace Office

inductive Step where
  | turn (g : Given)
  | expire
  | enter

def Job.step (j : Job) (t : Step) : Option (Job × List Entry) :=
  match t, j.stage with
  | .turn _, .underWay (.done o) =>
    some (⟨j.action, j.limit, .ended (Session.conclude j.action j.limit (some o)) 0⟩, [])
  | .turn g, .underWay p =>
    let (plan, notices) := p.advance g
    some (⟨j.action, j.limit, .underWay plan⟩, notices.map .line)
  | .expire, .underWay (.ask ..) =>
    some (⟨j.action, j.limit, .ended (Session.conclude j.action j.limit none) 0⟩, [])
  | .enter, .ended o n =>
    (entries j.action o)[n]?.map fun e => (⟨j.action, j.limit, .ended o (n + 1)⟩, [e])
  | _, _ => none

def Job.outcome? (j : Job) : Option (Outcome j.action.Result) :=
  match j.stage with
  | .underWay _ => none
  | .ended o _ => some o

def Job.label? (success : String) (j : Job) : Option String := j.outcome?.map (·.label success)

def Job.Completed (j : Job) : Prop :=
  match j.stage with
  | .underWay _ => False
  | .ended o n => (entries j.action o).length ≤ n

instance : (j : Job) → Decidable j.Completed
  | ⟨_, _, .underWay _⟩ => isFalse id
  | ⟨a, _, .ended o n⟩ => inferInstanceAs (Decidable ((entries a o).length ≤ n))

end Office

structure Office where
  jobs : List Office.Job
  log : List (ℕ × Notice)
  tally : Tally

namespace Office

inductive Move where
  | start (q : Equipment) (limit : Span) (a : Action)
  | step (job : ℕ) (t : Step)

def opening : Office := ⟨[], [], .empty⟩

def begin (q : Equipment) (limit : Span) (a : Action) : Job :=
  ⟨a, limit, .underWay (a.operation q).run⟩

def move (s : Office) : Move → Office
  | .start q limit a => { s with jobs := s.jobs ++ [begin q limit a] }
  | .step i t =>
    match s.jobs[i]? with
    | none => s
    | some j =>
      match j.step t with
      | none => s
      | some (j, es) =>
        ⟨s.jobs.set i j, s.log ++ (es.flatMap Entry.lines).map (i, ·),
          es.foldl (fun t e => e.count t) s.tally⟩

def play (moves : List Move) : Office := moves.foldl move opening

def lines (s : Office) (i : ℕ) : List Notice := (s.log.filter fun l => l.1 = i).map Prod.snd

/-! ### Steps -/

lemma Job.step_cases {j j' : Job} {t : Step} {es : List Entry} (h : j.step t = some (j', es)) :
    (∃ o, j.stage = .underWay (.done o) ∧ j' = ⟨j.action, j.limit, .ended o 0⟩ ∧ es = []) ∨
    (∃ p g, j.stage = .underWay p ∧ (∀ o, p ≠ .done o) ∧
      j' = ⟨j.action, j.limit, .underWay (p.advance g).1⟩ ∧ es = (p.advance g).2.map .line) ∨
    (∃ f, j' = ⟨j.action, j.limit, .ended (.error f) 0⟩ ∧ es = [] ∧
      ∃ r next, j.stage = .underWay (.ask r next)) ∨
    ∃ o n e, j.stage = .ended o n ∧ (entries j.action o)[n]? = some e ∧
      j' = ⟨j.action, j.limit, .ended o (n + 1)⟩ ∧ es = [e] := by
  obtain ⟨a, limit, stage⟩ := j
  unfold Job.step at h
  split at h
  · rename_i o hs
    cases h
    exact .inl ⟨o, hs, rfl, rfl⟩
  · rename_i g p hd hs
    cases h
    exact .inr (.inl ⟨p, g, hs, hd, rfl, rfl⟩)
  · rename_i r next hs
    cases h
    exact .inr (.inr (.inl ⟨_, rfl, rfl, r, next, hs⟩))
  · rename_i o n hs
    obtain ⟨e, he, hj⟩ := Option.map_eq_some_iff.mp h
    cases hj
    exact .inr (.inr (.inr ⟨o, n, e, hs, he, rfl, rfl⟩))
  · cases h

lemma move_cases (s : Office) (v : Move) :
    (∃ q limit a, s.move v = ⟨s.jobs ++ [begin q limit a], s.log, s.tally⟩) ∨ s.move v = s ∨
    ∃ i t j j' es, s.jobs[i]? = some j ∧ j.step t = some (j', es) ∧
      s.move v = ⟨s.jobs.set i j', s.log ++ (es.flatMap Entry.lines).map (i, ·),
        es.foldl (fun t e => e.count t) s.tally⟩ := by
  cases v with
  | start q limit a => exact .inl ⟨q, limit, a, rfl⟩
  | step i t =>
    refine .inr ?_
    cases hj : s.jobs[i]? with
    | none => exact .inl (by simp [move, hj])
    | some j =>
      cases ht : j.step t with
      | none => exact .inl (by simp [move, hj, ht])
      | some next =>
        obtain ⟨j', es⟩ := next
        exact .inr ⟨i, t, j, j', es, hj, ht, by simp [move, hj, ht]⟩

lemma lines_map (ns : List Notice) : (ns.map Entry.line).flatMap Entry.lines = ns := by
  simp [List.flatMap_map, Entry.lines]

lemma fold_lines (ns : List Notice) (t : Tally) :
    (ns.map Entry.line).foldl (fun t e => e.count t) t = t := by
  induction ns with
  | nil => rfl
  | cons n ns ih => exact ih

/-! ### Counts -/

def Job.booked (j : Job) : List Entry :=
  match j.stage with
  | .underWay _ => []
  | .ended o n => (entries j.action o).take n

lemma Job.booked_step {j j' : Job} {t : Step} {es : List Entry} (h : j.step t = some (j', es))
    {e : Entry} (he : ∀ n, e ≠ .line n) :
    j'.booked.count e = j.booked.count e + es.count e := by
  rcases Job.step_cases h with ⟨o, hs, rfl, rfl⟩ | ⟨p, g, hs, -, rfl, rfl⟩ |
    ⟨f, rfl, rfl, r, next, hs⟩ | ⟨o, n, e', hs, hn, rfl, rfl⟩
  · simp [booked, hs]
  · have hl : e ∉ (p.advance g).2.map Entry.line := by
      intro hm
      obtain ⟨n, -, hn⟩ := List.mem_map.mp hm
      exact he n hn.symm
    simp [booked, hs, List.count_eq_zero_of_not_mem hl]
  · simp [booked, hs]
  · simp [booked, hs, List.take_add_one, hn]

lemma count_fold {get : Tally → ℕ} {e₀ : Entry}
    (h : ∀ e t, get (e.count t) = get t + if e = e₀ then 1 else 0) (es : List Entry) (t : Tally) :
    get (es.foldl (fun t e => e.count t) t) = get t + es.count e₀ := by
  induction es generalizing t with
  | nil => rfl
  | cons e es ih =>
    rw [List.foldl_cons, ih, h, List.count_cons]
    simp only [beq_iff_eq]
    omega

lemma get_operation (key : OperationKey) (e : Entry) (t : Tally) :
    (e.count t).operations.get key =
      t.operations.get key + if e = .operation key then 1 else 0 := by
  cases e with
  | operation k => simp [Entry.count, Counter.get_add]
  | line n => simp [Entry.count]
  | dispatch l => simp [Entry.count]

lemma get_dispatch (label : String) (e : Entry) (t : Tally) :
    (e.count t).dispatches.get label =
      t.dispatches.get label + if e = .dispatch label then 1 else 0 := by
  cases e with
  | dispatch l => simp [Entry.count, Counter.get_add]
  | line n => simp [Entry.count]
  | operation k => simp [Entry.count]

lemma booked_set {jobs : List Job} {i : ℕ} {j : Job} (hj : jobs[i]? = some j) (j' : Job)
    (e : Entry) :
    ((jobs.set i j').flatMap Job.booked).count e + j.booked.count e =
      (jobs.flatMap Job.booked).count e + j'.booked.count e := by
  obtain ⟨hi, he⟩ := List.getElem?_eq_some_iff.mp hj
  obtain ⟨before, after, hl, -, hs⟩ : ∃ before after, jobs = before ++ jobs[i] :: after ∧
      before.length = i ∧ jobs.set i j' = before ++ j' :: after := List.exists_of_set hi
  rw [he] at hl
  rw [hs, hl]
  simp only [List.flatMap_append, List.flatMap_cons, List.count_append]
  omega

structure Counted (s : Office) : Prop where
  operations : ∀ key,
    s.tally.operations.get key = (s.jobs.flatMap Job.booked).count (.operation key)
  dispatches : ∀ label,
    s.tally.dispatches.get label = (s.jobs.flatMap Job.booked).count (.dispatch label)

lemma counted_step {s : Office} {i : ℕ} {j j' : Job} {t : Step} {es : List Entry}
    (hj : s.jobs[i]? = some j) (ht : j.step t = some (j', es)) (get : Tally → ℕ) (e₀ : Entry)
    (hl : ∀ n, e₀ ≠ .line n) (hg : ∀ e t, get (e.count t) = get t + if e = e₀ then 1 else 0)
    (h : get s.tally = (s.jobs.flatMap Job.booked).count e₀) :
    get (es.foldl (fun t e => e.count t) s.tally) =
      ((s.jobs.set i j').flatMap Job.booked).count e₀ := by
  have hs := Job.booked_step ht hl
  have hset := booked_set hj j' e₀
  rw [count_fold hg, h]
  omega

lemma play_snoc (moves : List Move) (v : Move) : play (moves ++ [v]) = (play moves).move v :=
  List.foldl_append

lemma play_counted (moves : List Move) : (play moves).Counted := by
  induction moves using List.reverseRecOn with
  | nil => exact ⟨fun _ => rfl, fun _ => rfl⟩
  | append_singleton moves v ih =>
    rw [play_snoc]
    rcases move_cases (play moves) v with ⟨q, limit, a, hs⟩ | hs | ⟨i, t, j, j', es, hj, ht, hs⟩
    · rw [hs]
      refine ⟨fun key => ?_, fun label => ?_⟩
      · simpa [List.flatMap_append, Job.booked, begin] using ih.operations key
      · simpa [List.flatMap_append, Job.booked, begin] using ih.dispatches label
    · rwa [hs]
    · rw [hs]
      exact ⟨fun key => counted_step hj ht (fun t => t.operations.get key) (.operation key)
          (by simp) (get_operation key) (ih.operations key),
        fun label => counted_step hj ht (fun t => t.dispatches.get label) (.dispatch label)
          (by simp) (get_dispatch label) (ih.dispatches label)⟩

/-! ### Lines -/

def Clean (a : Action) (fails : Prop) (ns : List Notice) : Prop :=
  (∀ n ∈ ns, ¬ a.Reports n) ∧ ((∃ n ∈ ns, n.level = .warning) → fails)

def Job.Logged (j : Job) (ns : List Notice) : Prop :=
  match j.stage with
  | .underWay p => p.Warns j.action.Reports ∧ Clean j.action (∃ f, p = .done (.error f)) ns
  | .ended o n => ∃ before, ns = before ++ ((entries j.action o).take n).flatMap Entry.lines ∧
      Clean j.action (∃ f, o = .error f) before

lemma logged_begin (q : Equipment) (limit : Span) (a : Action) : (begin q limit a).Logged [] :=
  ⟨warns_operation q a, List.forall_mem_nil _, fun ⟨_, hn, _⟩ => absurd hn List.not_mem_nil⟩

lemma Clean.advance {a : Action} {p : Plan (Outcome a.Result)} (hp : p.Warns a.Reports)
    (hd : ∀ o, p ≠ .done o) {ns : List Notice} (h : Clean a (∃ f, p = .done (.error f)) ns)
    (g : Given) : (p.advance g).1.Warns a.Reports ∧
      Clean a (∃ f, (p.advance g).1 = .done (.error f)) (ns ++ (p.advance g).2) := by
  have hcalm (fails : Prop) : Clean a fails (ns ++ []) := by
    rw [List.append_nil]
    refine ⟨h.1, fun hw => ?_⟩
    obtain ⟨f, hf⟩ := h.2 hw
    exact absurd hf (hd _)
  cases p with
  | done o => exact absurd rfl (hd o)
  | ask r next => exact ⟨hp _, hcalm _⟩
  | allocate start next => exact ⟨hp _, hcalm _⟩
  | clock next => exact ⟨hp _, hcalm _⟩
  | note n next =>
    obtain ⟨hn, hp⟩ := hp
    refine ⟨hp, fun m hm hr => ?_, fun ⟨m, hm, hw⟩ => ?_⟩
    · rcases List.mem_append.mp hm with hm | hm
      · exact h.1 m hm hr
      · obtain rfl := List.mem_singleton.mp hm
        obtain ⟨text, rfl⟩ := hr
        exact (hn rfl).1 ⟨text, rfl⟩
    · rcases List.mem_append.mp hm with hm | hm
      · obtain ⟨f, hf⟩ := h.2 ⟨m, hm, hw⟩
        exact absurd hf (hd _)
      · obtain rfl := List.mem_singleton.mp hm
        exact (hn hw).2

lemma Job.Logged.step {j j' : Job} {t : Step} {es : List Entry} {ns : List Notice}
    (h : j.Logged ns) (ht : j.step t = some (j', es)) :
    j'.Logged (ns ++ es.flatMap Entry.lines) := by
  unfold Job.Logged at h
  rcases Job.step_cases ht with ⟨o, hs, rfl, rfl⟩ | ⟨p, g, hs, hd, rfl, rfl⟩ |
    ⟨f, rfl, rfl, r, next, hs⟩ | ⟨o, n, e, hs, hn, rfl, rfl⟩
  · rw [hs] at h
    refine ⟨ns, by simp, h.2.1, fun hw => ?_⟩
    obtain ⟨f, hf⟩ := h.2.2 hw
    exact ⟨f, Plan.done.inj hf⟩
  · rw [hs] at h
    rw [lines_map]
    exact h.2.advance h.1 hd g
  · rw [hs] at h
    exact ⟨ns, by simp, h.2.1, fun _ => ⟨f, rfl⟩⟩
  · rw [hs] at h
    obtain ⟨before, rfl, hb⟩ := h
    refine ⟨before, ?_, hb⟩
    simp [List.take_add_one, hn, List.flatMap_append]

structure Kept (s : Office) : Prop where
  logged : ∀ (i : ℕ) (j : Job), s.jobs[i]? = some j → j.Logged (s.lines i)
  nothing : ∀ i, s.jobs.length ≤ i → s.lines i = []

lemma lines_append (jobs : List Job) (log : List (ℕ × Notice)) (tally : Tally) (i k : ℕ)
    (ns : List Notice) : lines ⟨jobs, log ++ ns.map (i, ·), tally⟩ k =
      lines ⟨jobs, log, tally⟩ k ++ if i = k then ns else [] := by
  simp only [lines, List.filter_append, List.map_append, List.filter_map]
  congr 1
  split_ifs with h <;> simp [h, Function.comp_def]

lemma Kept.start {s : Office} (h : s.Kept) (q : Equipment) (limit : Span) (a : Action) :
    Kept ⟨s.jobs ++ [begin q limit a], s.log, s.tally⟩ where
  logged i j hj := by
    rcases Nat.lt_or_ge i s.jobs.length with hi | hi
    · rw [List.getElem?_append_left hi] at hj
      exact h.logged i j hj
    · -- the number of a job that begins is on no line yet
      rw [List.getElem?_append_right hi] at hj
      obtain rfl := List.mem_singleton.mp (List.mem_of_getElem? hj)
      change (begin q limit a).Logged (s.lines i)
      rw [h.nothing i hi]
      exact logged_begin q limit a
  nothing i hi := by
    rw [List.length_append, List.length_singleton] at hi
    exact h.nothing i (by omega)

lemma Kept.step {s : Office} (h : s.Kept) {i : ℕ} {j j' : Job} {t : Step} {es : List Entry}
    (hj : s.jobs[i]? = some j) (ht : j.step t = some (j', es)) (tally : Tally) :
    Kept ⟨s.jobs.set i j', s.log ++ (es.flatMap Entry.lines).map (i, ·), tally⟩ where
  logged k j₁ hj₁ := by
    rw [lines_append]
    rw [List.getElem?_set] at hj₁
    split_ifs at hj₁ with hk hlt
    · subst hk
      obtain rfl := Option.some.inj hj₁
      rw [if_pos rfl]
      exact (h.logged i j hj).step ht
    · rw [if_neg hk, List.append_nil]
      exact h.logged k j₁ hj₁
  nothing k hk := by
    rw [List.length_set] at hk
    have hi := (List.getElem?_eq_some_iff.mp hj).1
    rw [lines_append, if_neg (by omega), List.append_nil]
    exact h.nothing k hk

lemma play_kept (moves : List Move) : (play moves).Kept := by
  induction moves using List.reverseRecOn with
  | nil => exact ⟨fun i j hj => by simp [play, opening] at hj, fun _ _ => rfl⟩
  | append_singleton moves v ih =>
    rw [play_snoc]
    rcases move_cases (play moves) v with ⟨q, limit, a, hs⟩ | hs | ⟨i, t, j, j', es, hj, ht, hs⟩
    · rw [hs]
      exact ih.start q limit a
    · rwa [hs]
    · rw [hs]
      exact ih.step hj ht _

/-! ### When all is put down -/

lemma Job.booked_completed {j : Job} (h : j.Completed) {o : Outcome j.action.Result}
    (ho : j.outcome? = some o) : j.booked = entries j.action o := by
  obtain ⟨a, limit, stage⟩ := j
  cases stage with
  | underWay p => exact absurd h id
  | ended o' n =>
    obtain rfl := Option.some.inj ho
    exact List.take_of_length_le h

lemma Job.Completed.exists_outcome {j : Job} (h : j.Completed) : ∃ o, j.outcome? = some o := by
  obtain ⟨a, limit, stage⟩ := j
  cases stage with
  | underWay p => exact absurd h id
  | ended o n => exact ⟨o, rfl⟩

lemma count_operation (a : Action) (o : Outcome a.Result) (name label : String) :
    (entries a o).count (.operation ⟨name, label⟩) =
      if a.name = name ∧ o.label "ok" = label then 1 else 0 := by
  have hline : Entry.operation ⟨name, label⟩ ∉ (Session.warnOf a o).map Entry.line := by simp
  have hdispatch : Entry.operation ⟨name, label⟩ ∉ dispatchOf a o := by
    cases a <;> simp [dispatchOf]
  rw [entries, List.count_append, List.count_cons, List.count_eq_zero_of_not_mem hline,
    List.count_eq_zero_of_not_mem hdispatch]
  simp

lemma count_dispatch (a : Action) (o : Outcome a.Result) (label : String) :
    (entries a o).count (.dispatch label) =
      if a.name = "match_sip_dispatch_rule" ∧ o.label "routed" = label then 1 else 0 := by
  have hline : Entry.dispatch label ∉ (Session.warnOf a o).map Entry.line := by simp
  rw [entries, List.count_append, List.count_cons, List.count_eq_zero_of_not_mem hline]
  cases a with
  | matchCall c => simp [dispatchOf, Action.name, List.count_cons]
  | _ => simp [dispatchOf, Action.name]

lemma entries_lines (a : Action) (o : Outcome a.Result) :
    (entries a o).flatMap Entry.lines = Session.warnOf a o := by
  have hdispatch : (dispatchOf a o).flatMap Entry.lines = [] := by cases a <;> rfl
  rw [entries, List.flatMap_append, List.flatMap_cons, hdispatch, lines_map]
  simp [Entry.lines]

lemma count_jobs {jobs : List Job} {e : Entry} {p : Job → Bool}
    (h : ∀ j ∈ jobs, j.booked.count e = if p j then 1 else 0) :
    (jobs.flatMap Job.booked).count e = jobs.countP p := by
  induction jobs with
  | nil => rfl
  | cons j jobs ih =>
    have hj := h j (by simp)
    have hi := ih fun j' hj' => h j' (by simp [hj'])
    rw [List.flatMap_cons, List.count_append, hj, hi, List.countP_cons]
    omega

/-! ### Labels -/

def outcomeLabels : List String := "ok" :: FailureKind.all.map FailureKind.code

lemma label_mem (o : Outcome α) : o.label "ok" ∈ outcomeLabels := by
  cases o with
  | ok a => exact .head _
  | error f =>
    have hk : f.kind ∈ FailureKind.all := by cases f.kind <;> decide
    exact .tail _ (List.mem_map_of_mem (f := FailureKind.code) hk)

lemma outcomeLabels_nodup : outcomeLabels.Nodup := by decide

lemma label_eq_iff {success success' : String} (h : ∀ k : FailureKind, k.code ≠ success)
    (h' : ∀ k : FailureKind, k.code ≠ success') (o : Outcome α) :
    o.label success = success ↔ o.label success' = success' := by
  cases o with
  | ok a => exact iff_of_true rfl rfl
  | error f => exact iff_of_false (h f.kind) (h' f.kind)

lemma label_code_iff {success success' : String} (h : ∀ k : FailureKind, k.code ≠ success)
    (h' : ∀ k : FailureKind, k.code ≠ success') (k : FailureKind) (o : Outcome α) :
    o.label success = k.code ↔ o.label success' = k.code := by
  cases o with
  | ok a => exact iff_of_false (Ne.symm (h k)) (Ne.symm (h' k))
  | error f => exact Iff.rfl

lemma sum_indicator (label : String) (labels : List String) :
    (labels.map fun l => if label = l then 1 else 0).sum = labels.count label := by
  induction labels with
  | nil => rfl
  | cons l labels ih =>
    rw [List.map_cons, List.sum_cons, ih, List.count_cons, Nat.add_comm]
    simp only [beq_iff_eq, eq_comm (a := l)]

lemma sum_labels {jobs : List Job} (h : ∀ j ∈ jobs, j.Completed) (name : String) :
    (outcomeLabels.map fun label =>
        jobs.countP fun j => j.action.name = name ∧ j.label? "ok" = some label).sum =
      jobs.countP fun j => j.action.name = name := by
  induction jobs with
  | nil => simp
  | cons j jobs ih =>
    obtain ⟨o, ho⟩ := (h j (by simp)).exists_outcome
    -- one of the labels, and no other, is the outcome's
    have hone : (outcomeLabels.map fun l => if o.label "ok" = l then 1 else 0).sum = 1 := by
      rw [sum_indicator]
      exact List.count_eq_one_of_mem outcomeLabels_nodup (label_mem o)
    have hi := ih fun j' hj' => h j' (by simp [hj'])
    simp only [List.countP_cons, List.sum_map_add, hi]
    congr 1
    by_cases hn : j.action.name = name
    · simpa [hn, Job.label?, ho] using hone
    · simp [hn]

/-! ### The balance -/

structure Balanced (s : Office) : Prop where
  operations : ∀ name label, s.tally.operations.get ⟨name, label⟩ =
    s.jobs.countP fun j => j.action.name = name ∧ j.label? "ok" = some label
  total : ∀ name, (outcomeLabels.map fun label => s.tally.operations.get ⟨name, label⟩).sum =
    s.jobs.countP fun j => j.action.name = name
  routed : s.tally.dispatches.get "routed" =
    s.tally.operations.get ⟨"match_sip_dispatch_rule", "ok"⟩
  unrouted : ∀ k : FailureKind, s.tally.dispatches.get k.code =
    s.tally.operations.get ⟨"match_sip_dispatch_rule", k.code⟩
  silent : ∀ (i : ℕ) (j : Job) (x : j.action.Result), s.jobs[i]? = some j →
    j.outcome? = some (.ok x) → ∀ n ∈ s.lines i, n.level ≠ .warning
  reported : ∀ (i : ℕ) (j : Job) (f : Failure), s.jobs[i]? = some j →
    j.outcome? = some (.error f) →
      (s.lines i).count ⟨.warning, j.action.name ++ " failed: " ++ f.text⟩ = 1 ∧
      ∀ text, ⟨.warning, j.action.name ++ " failed: " ++ text⟩ ∈ s.lines i → text = f.text

section

variable {s : Office}

lemma Counted.operation (h : s.Counted) (hc : ∀ j ∈ s.jobs, j.Completed) (name label : String) :
    s.tally.operations.get ⟨name, label⟩ =
      s.jobs.countP fun j => j.action.name = name ∧ j.label? "ok" = some label := by
  rw [h.operations]
  refine count_jobs fun j hj => ?_
  obtain ⟨o, ho⟩ := (hc j hj).exists_outcome
  rw [Job.booked_completed (hc j hj) ho, count_operation]
  simp [Job.label?, ho]

lemma Counted.dispatch (h : s.Counted) (hc : ∀ j ∈ s.jobs, j.Completed) (label : String) :
    s.tally.dispatches.get label = s.jobs.countP fun j =>
      j.action.name = "match_sip_dispatch_rule" ∧ j.label? "routed" = some label := by
  rw [h.dispatches]
  refine count_jobs fun j hj => ?_
  obtain ⟨o, ho⟩ := (hc j hj).exists_outcome
  rw [Job.booked_completed (hc j hj) ho, count_dispatch]
  simp [Job.label?, ho]

lemma Kept.completed (h : s.Kept) (hc : ∀ j ∈ s.jobs, j.Completed) {i : ℕ} {j : Job}
    (hj : s.jobs[i]? = some j) {o : Outcome j.action.Result} (ho : j.outcome? = some o) :
    ∃ before, s.lines i = before ++ Session.warnOf j.action o ∧
      Clean j.action (∃ f, o = .error f) before := by
  have hlogged := h.logged i j hj
  have hcompleted := hc j (List.mem_of_getElem? hj)
  obtain ⟨a, limit, stage⟩ := j
  cases stage with
  | underWay p => exact absurd hcompleted id
  | ended o' n =>
    obtain rfl := Option.some.inj ho
    obtain ⟨before, hl, hb⟩ := hlogged
    rw [List.take_of_length_le hcompleted, entries_lines] at hl
    exact ⟨before, hl, hb⟩

end

lemma code_ne (k : FailureKind) : k.code ≠ "ok" ∧ k.code ≠ "routed" := by cases k <;> decide

/-- However the actions are interleaved, whatever they are answered, and whichever run out of
time. -/
theorem play_balanced (moves : List Move) (h : ∀ j ∈ (play moves).jobs, j.Completed) :
    (play moves).Balanced where
  operations := (play_counted moves).operation h
  total name := by
    simp only [(play_counted moves).operation h]
    exact sum_labels h name
  routed := by
    rw [(play_counted moves).operation h, (play_counted moves).dispatch h]
    refine List.countP_congr fun j hj => ?_
    obtain ⟨o, ho⟩ := (h j hj).exists_outcome
    have hl := label_eq_iff (fun k => (code_ne k).2) (fun k => (code_ne k).1) o
    simp [Job.label?, ho, hl]
  unrouted k := by
    rw [(play_counted moves).operation h, (play_counted moves).dispatch h]
    refine List.countP_congr fun j hj => ?_
    obtain ⟨o, ho⟩ := (h j hj).exists_outcome
    have hl := label_code_iff (fun k => (code_ne k).2) (fun k => (code_ne k).1) k o
    simp [Job.label?, ho, hl]
  silent i j x hj ho n hn hw := by
    obtain ⟨before, hl, -, hb⟩ := (play_kept moves).completed h hj ho
    rw [hl, Session.warnOf, List.append_nil] at hn
    obtain ⟨f, hf⟩ := hb ⟨n, hn, hw⟩
    cases hf
  reported i j f hj ho := by
    obtain ⟨before, hl, hb, -⟩ := (play_kept moves).completed h hj ho
    have hnot (text : String) : ⟨.warning, j.action.name ++ " failed: " ++ text⟩ ∉ before :=
      fun hm => hb _ hm ⟨text, rfl⟩
    rw [hl, Session.warnOf]
    refine ⟨?_, fun text hm => ?_⟩
    · rw [List.count_append, List.count_eq_zero_of_not_mem (hnot f.text), List.count_singleton_self]
    · have hline := List.mem_singleton.mp ((List.mem_append.mp hm).resolve_left (hnot text))
      exact (String.append_right_inj _).mp (congrArg Notice.text hline)

def bare : Given where
  answer
    | .store (.list _) => .ok []
    | _ => .error (.notReady "connection lost")
  id := ""
  now := ⟨⟨2024, 2, 29⟩, 12, 0, 0, 0⟩

/-- A call that is not accepted, a ping that fails, a listing that runs out of time, and one that
succeeds while the others' ends are put down. -/
def mixedEnds : List Move :=
  [.start ⟨true, false⟩ Session.defaultLimit (.matchCall ⟨"10.0.0.1", "+1555", "+1444"⟩),
    .start ⟨true, false⟩ Session.defaultLimit .ping,
    .step 0 (.turn bare), .step 1 (.turn bare), .step 1 (.turn bare),
    .start ⟨true, false⟩ Session.defaultLimit .listTrunks,
    .step 0 (.turn bare), .step 0 (.turn bare), .step 0 (.turn bare), .step 2 .expire,
    .start ⟨true, false⟩ Session.defaultLimit .listRules,
    .step 0 .enter, .step 1 .enter, .step 3 (.turn bare), .step 2 .enter, .step 0 .enter,
    .step 3 (.turn bare), .step 2 .enter, .step 1 .enter, .step 3 (.turn bare), .step 3 .enter,
    .step 0 .enter]

theorem play_balanced_after_failures :
    (∀ j ∈ (play mixedEnds).jobs, j.Completed) ∧ (play mixedEnds).Balanced :=
  have h : ∀ j ∈ (play mixedEnds).jobs, j.Completed := by decide +kernel
  ⟨h, play_balanced mixedEnds h⟩

end Office

end Switchboard.Service
