import Switchboard.Proofs.Api.Paths
import Switchboard.Proofs.Api.Simulation

/-! Requests that are refused: for which reasons, and that the service never learns of them. -/

namespace Switchboard.Api

open Text Json Time Service

def Reaches (q : HttpRequest) : Prop :=
  (∃ a, Asks q a) ∨ q.method = "GET" ∧ (q.path = "/health" ∨ q.path = "/metrics")

inductive Takes (q : HttpRequest) : {α : Type} → Codec α → Prop
  | trunk (hp : q.path = "/sip/trunks") : Takes q TrunkForm.codec
  | rule (hp : q.path = "/sip/dispatch-rules") : Takes q RuleForm.codec
  | call (hp : q.path = "/sip/dispatch") : Takes q CallForm.codec
  | participant (hp : q.path = "/sip/participants") : Takes q ParticipantForm.codec
  | digits {id : String} (hn : Names q "/sip/participants" "/dtmf" id) : Takes q DigitsForm.codec

inductive Unread {α : Type} (q : HttpRequest) (c : Codec α) : ℕ → Prop
  | type (hj : q.isJson = false) : Unread q c 415
  | length (hj : q.isJson = true) (hl : bodyLimit < q.body.length) : Unread q c 413
  | form {e : ReadError} (hj : q.isJson = true) (hl : q.body.length ≤ bodyLimit)
    (hb : readFront c.read q.body = .error e) : Unread q c (if e = .mismatch then 422 else 400)

inductive Refused (q : HttpRequest) : ℕ → Prop
  | preflight (hm : q.method = "OPTIONS") : Refused q 200
  | unknown (hm : q.method ≠ "OPTIONS") (hp : ∀ x, ¬Resource.At q.path x) : Refused q 404
  | method {x : Resource} (hm : q.method ≠ "OPTIONS") (hx : Resource.At q.path x)
    (hn : q.method ∉ x.methods) : Refused q 405
  | id {x : Resource} {segment : String} (hx : Resource.At q.path x) (hm : q.method ∈ x.methods)
    (hs : x ∈ [.trunk segment, .rule segment, .participant segment, .tones segment])
    (hd : percentDecode? segment = none) : Refused q 400
  | body {α : Type} {c : Codec α} {n : ℕ} (hm : q.method = "POST") (ht : Takes q c)
    (hu : Unread q c n) : Refused q n

inductive Stopped (q : HttpRequest) : ℕ → Prop
  | preflight (hm : q.method = "OPTIONS") : Stopped q 200
  | unknown (hm : q.method ≠ "OPTIONS") (hr : Resource.ofPath? q.path = none) : Stopped q 404
  | method {x : Resource} (hm : q.method ≠ "OPTIONS") (hr : Resource.ofPath? q.path = some x)
    (hn : q.method ∉ x.methods) : Stopped q 405
  | reply {x : Resource} {r : HttpResponse} (hr : Resource.ofPath? q.path = some x)
    (hm : q.method ∈ x.methods) (hv : x.verdict q = .reply r) : Stopped q r.status

lemma options_notMem_methods (x : Resource) : "OPTIONS" ∉ x.methods := by
  cases x <;> simp [Resource.methods]

section

variable {q : HttpRequest} {n : ℕ}

section

variable {α : Type} {c : Codec α}

lemma carries_or_unread (q : HttpRequest) (c : Codec α) :
    (∃ form, Carries q c form) ∨ ∃ n, Unread q c n := by
  cases hj : q.isJson with
  | false => exact .inr ⟨415, .type hj⟩
  | true =>
    by_cases hl : bodyLimit < q.body.length
    · exact .inr ⟨413, .length hj hl⟩
    cases hb : readFront c.read q.body with
    | error e => exact .inr ⟨_, .form hj (not_lt.mp hl) hb⟩
    | ok form => exact .inl ⟨form, hj, not_lt.mp hl, hb⟩

lemma Unread.read (h : Unread q c n) : ∃ r, readBody c q = .error r ∧ r.status = n := by
  have hread : readBody c q = if q.isJson then
      if bodyLimit < q.body.length then .error tooLarge
      else (readFront c.read q.body).mapError badBody
    else .error notJson := rfl
  rw [hread]
  cases h with
  | type hj => exact ⟨notJson, by simp [hj], rfl⟩
  | length hj hl => exact ⟨tooLarge, by simp [hj, hl], rfl⟩
  | @form e hj hl hb =>
    refine ⟨badBody e, by simp [hj, not_lt.mpr hl, hb, Except.mapError], ?_⟩
    cases e <;> rfl

lemma Takes.asks (hm : q.method = "POST") (ht : Takes q c) {form : α} (hc : Carries q c form) :
    ∃ a, Asks q a := by
  cases ht with
  | trunk hp => exact ⟨_, .createTrunk form hm hp hc⟩
  | rule hp => exact ⟨_, .createRule form hm hp hc⟩
  | call hp => exact ⟨_, .matchCall form hm hp hc⟩
  | participant hp => exact ⟨_, .createParticipant form hm hp hc⟩
  | digits hn => exact ⟨_, .sendDigits _ form hm hn hc⟩

lemma Takes.verdict (hm : q.method = "POST") (ht : Takes q c) {r : HttpResponse}
    (hr : readBody c q = .error r) : ∃ x, Resource.ofPath? q.path = some x ∧
      q.method ∈ x.methods ∧ x.verdict q = .reply r := by
  have hmx {x : Resource} (h : "POST" ∈ x.methods) : q.method ∈ x.methods := hm ▸ h
  cases ht with
  | trunk hp =>
    refine ⟨.trunks, by rw [hp]; decide, hmx (by decide), ?_⟩
    simp only [Resource.verdict, hm, if_true, hr]
    rfl
  | rule hp =>
    refine ⟨.rules, by rw [hp]; decide, hmx (by decide), ?_⟩
    simp only [Resource.verdict, hm, if_true, hr]
    rfl
  | call hp =>
    refine ⟨.dispatch, by rw [hp]; decide, hmx (by decide), ?_⟩
    simp only [Resource.verdict, hr]
    rfl
  | participant hp =>
    refine ⟨.participants, by rw [hp]; decide, hmx (by decide), ?_⟩
    simp only [Resource.verdict, hm, if_true, hr]
    rfl
  | digits hn =>
    obtain ⟨segment, hid, hp⟩ := hn.found_under
    refine ⟨.tones segment, ?_, hmx (.head _), ?_⟩
    · simp [hp, parts_participants, Resource.ofSegments?]
    · simp only [Resource.verdict, hid, hr]
      rfl

lemma Takes.reaches_or_refused (hm : q.method = "POST") (ht : Takes q c) :
    Reaches q ∨ ∃ n, Refused q n := by
  rcases carries_or_unread q c with ⟨form, hc⟩ | ⟨n, hu⟩
  · exact .inl (.inl (ht.asks hm hc))
  · exact .inr ⟨n, .body hm ht hu⟩

end

lemma names_or_refused {start rest segment : String} {x : Resource}
    (hp : q.path = start ++ "/" ++ segment ++ rest) (hne : rest = "" → segment ≠ "")
    (hs : '/' ∉ segment.toList) (hx : Resource.At q.path x) (hm : q.method ∈ x.methods)
    (hxs : x ∈ [.trunk segment, .rule segment, .participant segment, .tones segment]) :
    (∃ id, Names q start rest id) ∨ Refused q 400 := by
  cases hd : percentDecode? segment with
  | none => exact .inr (.id hx hm hxs hd)
  | some id => exact .inl ⟨id, segment, hp, hne, hs, hd⟩

lemma posted_or_listed {α : Type} {c : Codec α} {a : Action} (ht : Takes q c)
    (ha : q.method = "GET" → Asks q a) (hm : q.method ∈ ["POST", "GET", "HEAD"])
    (hh : q.method ≠ "HEAD") : Reaches q ∨ ∃ n, Refused q n := by
  obtain hm | hm : q.method = "POST" ∨ q.method = "GET" := by simpa [hh] using hm
  · exact ht.reaches_or_refused hm
  · exact .inl (.inl ⟨a, ha hm⟩)

lemma deleted_or_refused {start segment : String} {x : Resource}
    (hp : q.path = start ++ "/" ++ segment) (hs : Segment segment) (hx : Resource.At q.path x)
    (hm : q.method ∈ x.methods)
    (hxs : x ∈ [.trunk segment, .rule segment, .participant segment, .tones segment])
    (ha : ∀ id, Names q start "" id → ∃ a, Asks q a) : Reaches q ∨ ∃ n, Refused q n := by
  rw [← String.append_empty (s := start ++ "/" ++ segment)] at hp
  rcases names_or_refused hp (fun _ => hs.1) hs.2 hx hm hxs with ⟨id, hn⟩ | hr
  · exact .inl (.inl (ha id hn))
  · exact .inr ⟨400, hr⟩

lemma reaches_or_refused (hh : q.method ≠ "HEAD") : Reaches q ∨ ∃ n, Refused q n := by
  by_cases ho : q.method = "OPTIONS"
  · exact .inr ⟨200, .preflight ho⟩
  by_cases hx : ∃ x, Resource.At q.path x
  swap
  · exact .inr ⟨404, .unknown ho fun x h => hx ⟨x, h⟩⟩
  obtain ⟨x, hx⟩ := hx
  by_cases hm : q.method ∈ x.methods
  swap
  · exact .inr ⟨405, .method ho hx hm⟩
  have hgot (hm : q.method ∈ ["GET", "HEAD"]) : q.method = "GET" := by simpa [hh] using hm
  have hx' := hx
  generalize hp : q.path = path at hx'
  cases hx' with
  | health => exact .inl (.inr ⟨hgot hm, .inl hp⟩)
  | metrics => exact .inl (.inr ⟨hgot hm, .inr hp⟩)
  | trunks => exact posted_or_listed (.trunk hp) (.listTrunks · hp) hm hh
  | trunk hs =>
    exact deleted_or_refused hp hs hx hm (by simp) fun id hn =>
      ⟨_, .deleteTrunk id (List.mem_singleton.mp hm) hn⟩
  | rules => exact posted_or_listed (.rule hp) (.listRules · hp) hm hh
  | rule hs =>
    exact deleted_or_refused hp hs hx hm (by simp) fun id hn =>
      ⟨_, .deleteRule id (List.mem_singleton.mp hm) hn⟩
  | dispatch => exact (Takes.call hp).reaches_or_refused (List.mem_singleton.mp hm)
  | participants => exact posted_or_listed (.participant hp) (.listParticipants · hp) hm hh
  | participant hs =>
    exact deleted_or_refused hp hs hx hm (by simp) fun id hn =>
      ⟨_, .deleteParticipant id (List.mem_singleton.mp hm) hn⟩
  | tones hs =>
    have hl : ("/dtmf" : String) = "/" ++ "dtmf" := by decide
    rw [String.append_assoc, ← hl] at hp
    rcases names_or_refused hp nofun hs hx hm (by simp) with ⟨id, hn⟩ | hr
    · exact (Takes.digits hn).reaches_or_refused (List.mem_singleton.mp hm)
    · exact .inr ⟨400, hr⟩

lemma Refused.stopped (h : Refused q n) : Stopped q n := by
  cases h with
  | preflight hm => exact .preflight hm
  | unknown hm hp =>
    refine .unknown hm (Option.eq_none_iff_forall_ne_some.mpr fun x hx => ?_)
    exact hp x ((Resource.ofPath?_eq_some_iff _ _).mp hx)
  | method hm hx hn => exact .method hm hx.found hn
  | @id x segment hx hm hs hd =>
    have hv : x.verdict q = .reply badId := by
      simp only [List.mem_cons, List.not_mem_nil, or_false] at hs
      rcases hs with rfl | rfl | rfl | rfl <;> simp only [Resource.verdict, readId, hd] <;> rfl
    exact .reply hx.found hm hv
  | body hm ht hu =>
    obtain ⟨r, hr, rfl⟩ := hu.read
    obtain ⟨x, hx, hmx, hv⟩ := ht.verdict hm hr
    exact .reply hx hmx hv

lemma Reaches.verdict (h : Reaches q) : ∃ x, Resource.ofPath? q.path = some x ∧
    q.method ∈ x.methods ∧ ∀ r, x.verdict q ≠ .reply r := by
  rcases h with ⟨a, ha⟩ | ⟨hm, hp | hp⟩
  · obtain ⟨x, line, hl⟩ := ha.leads
    refine ⟨x, hl.resource, hl.method, fun r => ?_⟩
    rw [hl.verdict]
    exact Verdict.noConfusion
  · exact ⟨.health, hp ▸ Resource.At.health.found, hm ▸ .head _, fun _ => Verdict.noConfusion⟩
  · exact ⟨.metrics, hp ▸ Resource.At.metrics.found, hm ▸ .head _, fun _ => Verdict.noConfusion⟩

lemma Reaches.not_stopped (h : Reaches q) : ¬Stopped q n := by
  intro hk
  obtain ⟨x, hx, hmx, hv⟩ := h.verdict
  cases hk with
  | preflight hm => exact options_notMem_methods x (hm ▸ hmx)
  | unknown hm hr => simp [hx] at hr
  | method hm hr hn =>
    cases hx.symm.trans hr
    exact hn hmx
  | reply hr hm hv' =>
    cases hx.symm.trans hr
    exact hv _ hv'

lemma not_reaches_iff (hh : q.method ≠ "HEAD") : ¬Reaches q ↔ ∃ n, Refused q n := by
  refine ⟨(reaches_or_refused hh).resolve_left, ?_⟩
  rintro ⟨n, hr⟩ h
  exact h.not_stopped hr.stopped

lemma Stopped.answer (h : Stopped q n) (hh : q.method ≠ "HEAD") : ∃ r key, r.status = n ∧
    ∀ {σ : Type} (h : Host σ) (s : σ),
      serveOn h q s = (r, if q.method = "OPTIONS" then s else h.count key s) := by
  cases h with
  | preflight hm =>
    refine ⟨Api.preflight (Resource.ofPath? q.path), default, ?_, fun h s => ?_⟩
    · cases Resource.ofPath? q.path <;> rfl
    · simp only [serveOn, hm, if_true]
  | unknown hm hr =>
    refine ⟨openToAll (.bare 404), ⟨q.method, q.path, 404⟩, rfl, fun h s => ?_⟩
    simp only [serveOn, hm, if_false, hr]
  | @method x hm hr hn =>
    refine ⟨openToAll ((HttpResponse.bare 405).withHeader "allow" x.allow),
      ⟨q.method, x.pattern, 405⟩, rfl, fun h s => ?_⟩
    simp only [serveOn, hm, if_false, hr, hn]
  | @reply x r hr hm hv =>
    have ho : q.method ≠ "OPTIONS" := fun ho => options_notMem_methods x (ho ▸ hm)
    refine ⟨openToAll r, ⟨q.method, x.pattern, r.status⟩, rfl, fun h s => ?_⟩
    simp only [serveOn, ho, if_false, hr, hm, if_true, hv, Verdict.carryOut, trim, hh]

end

section

variable {σ β : Type} {h : Host σ} {bare : σ → β}

/-- Requests with their answers, but for those at the metrics. -/
def told (h : Host σ) (qs : List HttpRequest) (s : σ) : List (HttpRequest × HttpResponse) :=
  (qs.zip (serveAll h qs s).1).filter fun x => x.1.path ≠ "/metrics"

/-- With or without the request, all later ones are told the same, and leave the same. -/
def Unnoticed (h : Host σ) (bare : σ → β) (q : HttpRequest) : Prop :=
  ∀ (qs : List HttpRequest) (s : σ),
    told h qs (serveOn h q s).2 = told h qs s ∧
      bare (serveAll h (q :: qs) s).2 = bare (serveAll h qs s).2

lemma verdictOf_bind_ne {α : Type} (y : Except HttpResponse α) {f : α → Except HttpResponse Verdict}
    (hf : ∀ a, verdictOf (f a) ≠ .metrics) : verdictOf (y >>= f) ≠ .metrics := by
  cases y with
  | error r => exact Verdict.noConfusion
  | ok a => exact hf a

lemma eq_metrics_of_verdict {q : HttpRequest} {x : Resource} (hv : x.verdict q = .metrics) :
    x = .metrics := by
  cases x with
  | metrics => rfl
  | health => cases hv
  | trunks | rules | participants =>
    simp only [Resource.verdict] at hv
    split_ifs at hv
    exact absurd hv (verdictOf_bind_ne _ fun _ => Verdict.noConfusion)
  | trunk | rule | participant | dispatch =>
    exact absurd hv (verdictOf_bind_ne _ fun _ => Verdict.noConfusion)
  | tones =>
    exact absurd hv (verdictOf_bind_ne _ fun _ => verdictOf_bind_ne _ fun _ => Verdict.noConfusion)

lemma carryOut_congr (hh : h.Oblivious bare) (v : Verdict) {s s' : σ} (hs : bare s = bare s') :
    bare (v.carryOut h s).2 = bare (v.carryOut h s').2 ∧
      (v ≠ .metrics → (v.carryOut h s).1 = (v.carryOut h s').1) := by
  cases v with
  | reply r => exact ⟨hs, fun _ => rfl⟩
  | health =>
    obtain ⟨ho, hp⟩ := hh.perform .ping s s' hs
    exact ⟨hp, fun _ => congrArg healthResponse ho⟩
  | metrics => exact ⟨hs, fun hn => absurd rfl hn⟩
  | perform line a =>
    let ns : List Notice := line.toList.map (⟨.info, ·⟩)
    obtain ⟨ho, hp⟩ := hh.perform a (h.note ns s) (h.note ns s') (by rw [hh.note, hh.note, hs])
    refine ⟨?_, fun _ => congrArg (respond a) ho⟩
    simp only [Verdict.carryOut, hh.note]
    exact hp

lemma serveOn_congr (hh : h.Oblivious bare) (q : HttpRequest) {s s' : σ} (hs : bare s = bare s') :
    bare (serveOn h q s).2 = bare (serveOn h q s').2 ∧
      (q.path ≠ "/metrics" → (serveOn h q s).1 = (serveOn h q s').1) := by
  simp only [serveOn]
  split_ifs with ho
  · exact ⟨hs, fun _ => rfl⟩
  cases hx : Resource.ofPath? q.path with
  | none => exact ⟨by rw [hh.count, hh.count, hs], fun _ => rfl⟩
  | some x =>
    simp only
    split_ifs with hm
    · obtain ⟨hb, hr⟩ := carryOut_congr hh (x.verdict q) hs
      refine ⟨by rw [hh.count, hh.count, hb], fun hp => ?_⟩
      rw [hr fun hv => hp ?_]
      rw [eq_metrics_of_verdict hv, Resource.ofPath?_eq_some_iff] at hx
      generalize q.path = path at hx ⊢
      cases hx
      rfl
    · exact ⟨by rw [hh.count, hh.count, hs], fun _ => rfl⟩

lemma serveAll_congr (hh : h.Oblivious bare) (qs : List HttpRequest) {s s' : σ}
    (hs : bare s = bare s') :
    told h qs s = told h qs s' ∧ bare (serveAll h qs s).2 = bare (serveAll h qs s').2 := by
  induction qs generalizing s s' with
  | nil => exact ⟨rfl, hs⟩
  | cons q qs ih =>
    obtain ⟨hs, hr⟩ := serveOn_congr hh q hs
    obtain ⟨ht, hs⟩ := ih hs
    refine ⟨?_, hs⟩
    simp only [told, serveAll, List.zip_cons_cons, List.filter_cons] at ht ⊢
    by_cases hp : q.path = "/metrics"
    · simpa [hp] using ht
    · simpa [hp, hr hp] using ht

lemma Stopped.unnoticed {q : HttpRequest} {n : ℕ} (hq : Stopped q n) (hm : q.method ≠ "HEAD")
    (hh : h.Oblivious bare) : Unnoticed h bare q := by
  intro qs s
  obtain ⟨r, key, -, hserve⟩ := hq.answer hm
  have hs : bare (serveOn h q s).2 = bare s := by
    rw [hserve]
    split_ifs
    · rfl
    · exact hh.count key s
  exact serveAll_congr hh qs hs

end

/-- A request reaches no action, nor the health or the metrics, just when it is refused, for one of
these reasons. Then it is answered in any state of any host without anything performed or noted, and
nothing but the counts of requests tells later on that it was sent. -/
theorem refused_unnoticed {q : HttpRequest} (hm : q.method ≠ "HEAD") :
    (¬Reaches q ↔ ∃ n, Refused q n) ∧ ∀ n, Refused q n →
      (∃ r key, r.status = n ∧ ∀ {σ : Type} (h : Host σ) (s : σ),
        serveOn h q s = (r, if q.method = "OPTIONS" then s else h.count key s)) ∧
      (∀ s : Session, ∃ counts,
        (serve q s).2 = { s with tally := { s.tally with requests := counts } }) ∧
      Unnoticed sessionHost Session.bare q ∧
      ∀ (ε : Type) (w : Surroundings ε) (limit : Span) (controlled : Bool),
        Unnoticed (postHost w limit controlled) Post.bare q := by
  refine ⟨not_reaches_iff hm, fun n hr => ⟨hr.stopped.answer hm, fun s => ?_, ?_, ?_⟩⟩
  · obtain ⟨r, key, -, hserve⟩ := hr.stopped.answer hm
    rw [serve, hserve]
    split_ifs
    · exact ⟨s.tally.requests, rfl⟩
    · exact ⟨s.tally.requests.add key, rfl⟩
  · exact hr.stopped.unnoticed hm sessionHost_oblivious
  · exact fun ε w limit controlled => hr.stopped.unnoticed hm (postHost_oblivious w limit controlled)

def untyped : HttpRequest := { sending offered with contentType := none }

theorem refused_unnoticed_untyped : untyped.method ≠ "HEAD" ∧ Refused untyped 415 ∧
    ¬Reaches untyped ∧ Unnoticed sessionHost Session.bare untyped :=
  have hm : untyped.method ≠ "HEAD" := by decide
  have hp : HttpRequest.path ⟨"POST", "/sip/trunks", none, []⟩ = "/sip/trunks" := by decide
  have hr : Refused untyped 415 := .body rfl (.trunk hp) (.type rfl)
  have h := refused_unnoticed hm
  ⟨hm, hr, h.1.mpr ⟨415, hr⟩, (h.2 415 hr).2.2.1⟩

end Switchboard.Api
