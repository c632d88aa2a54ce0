import Switchboard.Proofs.Api.Asks
import Switchboard.Proofs.Api.Hosts
import Switchboard.Proofs.Service.Refinement

/-! The front simulates the service: a run of requests is a run of the actions they ask for, each
performed once, and each answered by its outcome. -/

namespace Switchboard.Api

open Store Time Service

section

variable {σ β : Type} {h : Host σ} {bare : σ → β}

def serveAll (h : Host σ) : List HttpRequest → σ → List HttpResponse × σ
  | [], s => ([], s)
  | q :: qs, s =>
    let (r, s) := serveOn h q s
    let (rs, s) := serveAll h qs s
    (r :: rs, s)

lemma serveOn_leads {q : HttpRequest} {x : Resource} {line : Option String} {a : Action}
    (hq : Leads q x line a) (h : Host σ) (s : σ) :
    let y := h.perform a (h.note (line.toList.map (⟨.info, ·⟩)) s)
    serveOn h q s = (openToAll (respond a y.1),
      h.count ⟨q.method, x.pattern, (respond a y.1).status⟩ (h.note (complaintsOf y.1) y.2)) := by
  simp only [serveOn, hq.resource, hq.plain.1, if_false, hq.method, if_true, hq.verdict,
    Verdict.carryOut, trim, hq.plain.2]

lemma openToAll_answers (a : Action) (o : Outcome a.Result) :
    Answers a o (openToAll (respond a o)) :=
  { respond_answers a o with type := by cases o <;> rfl }

lemma serveOn_asks (hh : h.Oblivious bare) {q : HttpRequest} {a : Action} (hq : Asks q a)
    {s s' : σ} (hs : bare s = bare s') :
    Answers a (h.perform a s').1 (serveOn h q s).1 ∧
      bare (serveOn h q s).2 = bare (h.perform a s').2 := by
  obtain ⟨x, line, hl⟩ := hq.leads
  obtain ⟨ho, hp⟩ := hh.perform a (h.note (line.toList.map (⟨.info, ·⟩)) s) s'
    ((hh.note _ s).trans hs)
  rw [serveOn_leads hl h s]
  refine ⟨?_, ?_⟩
  · rw [ho]
    exact openToAll_answers a _
  · rw [hh.count, hh.note, hp]

lemma serveAll_asks (hh : h.Oblivious bare) {qs : List HttpRequest} {as : List Action}
    (hq : List.Forall₂ Asks qs as) {s s' : σ} (hs : bare s = bare s') :
    List.Forall₂ (fun x r => Answers x.1 x.2 r) (results h.perform as s') (serveAll h qs s).1 ∧
      bare (serveAll h qs s).2 = bare (as.foldl (fun s a => (h.perform a s).2) s') := by
  induction hq generalizing s s' with
  | nil => exact ⟨.nil, hs⟩
  | cons hqa _ ih =>
    obtain ⟨ha, hs₁⟩ := serveOn_asks hh hqa hs
    obtain ⟨has, hs₂⟩ := ih hs₁
    exact ⟨.cons ha has, hs₂⟩

end

section

variable {ε : Type} (w : Surroundings ε) (limit : Span) (controlled : Bool)

lemma attend_run (as : List Action) (s : Post ε) :
    results (w.attend limit controlled) as s = results (w.perform limit controlled) as s.bare.1 ∧
      (as.foldl (fun s a => (w.attend limit controlled a s).2) s).bare =
        (as.foldl (fun x a => (w.perform limit controlled a x).2) s.bare.1,
          s.outcomes ++ results (w.perform limit controlled) as s.bare.1) := by
  induction as generalizing s with
  | nil => exact ⟨rfl, by simp [results, Post.bare]⟩
  | cons a as ih =>
    obtain ⟨ho, hs⟩ := w.attend_bare limit controlled a s
    obtain ⟨hr, hf⟩ := ih (w.attend limit controlled a s).2
    have hout : (w.attend limit controlled a s).2.outcomes = _ := congrArg Prod.snd hs
    rw [hs] at hr hf
    refine ⟨?_, ?_⟩
    · rw [results, results, ho, hr]
    · rw [List.foldl_cons, hf, hout]
      simp [results]

end

/-- A run of requests whose ids and bodies can be read performs, one after the other, just the
actions that they ask for, each answered by its outcome, and leaves the service as these do: so it
is for sessions, and for services in surroundings of any sort. -/
theorem serve_simulates {qs : List HttpRequest} {as : List Action} (hq : List.Forall₂ Asks qs as) :
    (∀ s : Session,
      let x := serveAll sessionHost qs s
      List.Forall₂ (fun y r => Answers y.1 y.2 r) (results Session.perform as s) x.1 ∧
        x.2.bare = (as.foldl (fun s a => (s.perform a).2) s).bare) ∧
    ∀ (ε : Type) (w : Surroundings ε) (limit : Span) (controlled : Bool) (s : Post ε),
      let x := serveAll (postHost w limit controlled) qs s
      let rs := results (w.perform limit controlled) as (s.rest, s.memory)
      List.Forall₂ (fun y r => Answers y.1 y.2 r) rs x.1 ∧
        (x.2.rest, x.2.memory) =
          as.foldl (fun z a => (w.perform limit controlled a z).2) (s.rest, s.memory) ∧
        x.2.outcomes = s.outcomes ++ rs := by
  refine ⟨fun s => serveAll_asks sessionHost_oblivious hq rfl, fun ε w limit controlled s => ?_⟩
  obtain ⟨ha, hb⟩ := serveAll_asks (postHost_oblivious w limit controlled) hq (rfl : s.bare = s.bare)
  obtain ⟨hr, hf⟩ := attend_run w limit controlled as s
  have hb' := hb.trans hf
  refine ⟨?_, congrArg Prod.fst hb', congrArg Prod.snd hb'⟩
  exact hr ▸ ha

def offered : TrunkForm := ⟨["192.0.2.1"], "sip.example.com", "+15550100", "", "carrier", "s\"cr\\t"⟩

def sending (f : TrunkForm) : HttpRequest :=
  ⟨"POST", "/sip/trunks", some "application/json", TrunkForm.codec.encode f⟩

lemma sending_asks (f : TrunkForm) (hs : (TrunkForm.codec.encode f).length ≤ bodyLimit) :
    Asks (sending f) (.createTrunk f.request) :=
  -- the path does not depend on the body
  have hp : HttpRequest.path ⟨"POST", "/sip/trunks", none, []⟩ = "/sip/trunks" := by decide
  .createTrunk f rfl hp (carries_encode (trunkForm_readsBack f) (by decide) hs _ _)

def visit (f : TrunkForm) : List HttpRequest :=
  [sending f, ⟨"GET", "/sip/trunks?page=1", none, []⟩,
    ⟨"DELETE", "/sip/trunks/ST%5F0001", none, []⟩]

def visited (f : TrunkForm) : List Action :=
  [.createTrunk f.request, .listTrunks, .deleteTrunk "ST_0001"]

lemma visit_asks : List.Forall₂ Asks (visit offered) (visited offered) := by
  have hd : Asks ⟨"DELETE", "/sip/trunks/ST%5F0001", none, []⟩ (.deleteTrunk "ST_0001") := by
    refine .deleteTrunk _ rfl ⟨"ST%5F0001", ?_, ?_, ?_, ?_⟩ <;> decide +kernel
  exact .cons (sending_asks offered (by decide +kernel)) (.cons (.listTrunks rfl (by decide))
    (.cons hd .nil))

def vacant : Session := { (default : Session) with store := some (.memory .empty) }

theorem serve_simulates_visit :
    let x := serveAll sessionHost (visit offered) vacant
    let rs := results Session.perform (visited offered) vacant
    List.Forall₂ Asks (visit offered) (visited offered) ∧
      List.Forall₂ (fun y r => Answers y.1 y.2 r) rs x.1 ∧
      x.2.bare = ((visited offered).foldl (fun s a => (s.perform a).2) vacant).bare ∧
      rs.map (fun y => y.2.label "ok") = ["ok", "ok", "ok"] :=
  have h := (serve_simulates visit_asks).1 vacant
  ⟨visit_asks, h.1, h.2, by decide +kernel⟩

end Switchboard.Api
