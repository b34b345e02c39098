import DocumentAnalyser.TokenCache
import DocumentAnalyser.Pipeline

/-!
# Batches and the publisher

`send_batch` submits its payloads one `send_evidence` call at a time and stops at the first call
that raises. `BatchShape` says so in terms of the calls: the `SendShape`s of its calls in
sequence, each starting from the token the one before left. Seen from the store, a batch posts a
prefix of its payloads, in order and each once, and `BatchLaw` says how that prefix ends: with
every payload accepted, with a rejected submission, or with a payload that was never posted
because its token request failed or the client was closed. A store that accepts every request
lets the batch post every payload. `EvidencePublisher.push` runs one batch on a new client and
returns the number of payloads only when the batch returned.
-/

namespace DocumentAnalyser.EvidenceStoreClient

set_option autoImplicit false

/-- The evidence POSTs of a log, each as its URL and payload with the answer it got; token
requests are left out. -/
def posts (log : List (HttpRequest × HttpOutcome)) : List ((String × Json) × HttpOutcome) :=
  log.filterMap fun
    | (.evidence url payload _, o) => some ((url, payload), o)
    | (.tokenGrant .., _) => none

@[simp] theorem posts_append (log log' : List (HttpRequest × HttpOutcome)) :
    posts (log ++ log') = posts log ++ posts log' :=
  List.filterMap_append _ _ _

/-- `send_batch` from a client holding `held`: the `SendShape` of each `send_evidence` call, one
payload after another, each call starting from the token the previous one left, up to the first
call that raises; the batch ends holding `held'` and returns the calls' results. -/
inductive BatchShape (config : EvidenceStoreConfig) :
    Json → List Json → List (HttpRequest × HttpOutcome) → Json → Except PyError (List Json) → Prop
  | nil {held : Json} : BatchShape config held [] [] held (.ok [])
  | stop {held held' p : Json} {ps : List Json} {sent : List (HttpRequest × HttpOutcome)}
      {e : PyError} :
      SendShape config p held sent held' (.error e) →
      BatchShape config held (p :: ps) sent held' (.error e)
  | next {held held' held'' p body : Json} {ps : List Json}
      {sent sent' : List (HttpRequest × HttpOutcome)} {r : Except PyError (List Json)} :
      SendShape config p held sent held' (.ok body) → BatchShape config held' ps sent' held'' r →
      BatchShape config held (p :: ps) (sent ++ sent') held'' (r.map (body :: ·))

/-- Fail-fast batching as the store sees it: the payloads are posted to `url` one at a time, in
their order. An accepted payload adds the endpoint's result, and the rest of the batch follows
the same law; a rejected one ends the batch with its error; a payload that is not posted ends it
with the error of its failed token request or of the closed client. -/
def BatchLaw (url : String) :
    List Json → List ((String × Json) × HttpOutcome) → Except PyError (List Json) → Prop
  | [], posted, r => posted = [] ∧ r = .ok []
  | _ :: _, [], r => ∃ e, r = .error e ∧ (e = closedError ∨ ∃ o, tokenResult o = .error e)
  | p :: ps, (target, o) :: posted, r =>
    target = (url, p) ∧
      match submissionResult url o with
      | .error e => posted = [] ∧ r = .error e
      | .ok body => ∃ r', BatchLaw url ps posted r' ∧ r = r'.map (body :: ·)

theorem SendShape.posts_eq {config : EvidenceStoreConfig} {payload held held' : Json}
    {sent : List (HttpRequest × HttpOutcome)} {r : Except PyError Json}
    (h : SendShape config payload held sent held' r) :
    (posts sent = [] ∧ ∃ e, r = .error e ∧ (e = closedError ∨ ∃ o, tokenResult o = .error e)) ∨
      ∃ o, posts sent = [((config.evidenceUrl, payload), o)] ∧
        r = submissionResult config.evidenceUrl o := by
  cases h with
  | cached _ h =>
    rcases h with ⟨rfl, rfl⟩ | ⟨o, rfl, rfl⟩
    · exact .inl ⟨rfl, _, rfl, .inl rfl⟩
    · exact .inr ⟨o, rfl, rfl⟩
  | tokenFailed h =>
    rcases h with ⟨rfl, rfl⟩ | ⟨o, e, rfl, he, rfl⟩
    · exact .inl ⟨rfl, _, rfl, .inl rfl⟩
    · exact .inl ⟨by simp [posts, tokenRequest], _, rfl, .inr ⟨o, he⟩⟩
  | granted o o' _ => exact .inr ⟨o', by simp [posts, tokenRequest], rfl⟩

theorem BatchShape.law {config : EvidenceStoreConfig} {held held' : Json} {payloads : List Json}
    {sent : List (HttpRequest × HttpOutcome)} {r : Except PyError (List Json)}
    (h : BatchShape config held payloads sent held' r) :
    BatchLaw config.evidenceUrl payloads (posts sent) r := by
  induction h with
  | nil => exact ⟨rfl, rfl⟩
  | stop hshape =>
    rcases hshape.posts_eq with ⟨hposts, hcause⟩ | ⟨o, hposts, hres⟩
    · obtain ⟨_, he, hcause⟩ := hcause
      cases he
      rw [hposts, BatchLaw]; exact ⟨_, rfl, hcause⟩
    · rw [hposts, BatchLaw]; exact ⟨rfl, by rw [← hres]; exact ⟨rfl, rfl⟩⟩
  | next hshape _ ih =>
    rcases hshape.posts_eq with ⟨-, _, he, -⟩ | ⟨o, hposts, hres⟩
    · cases he
    · rw [posts_append, hposts, List.singleton_append, BatchLaw]
      exact ⟨rfl, by rw [← hres]; exact ⟨_, ih, rfl⟩⟩

/-- A batch from any client whose cached token is truthy has the shape of its calls: only the
token and the log change, and the batch returns the results gathered so far followed by the
calls'. -/
theorem sendBatchLoop_shape :
    ∀ (payloads acc : List Json) (c : EvidenceStoreClient), TokenInv c →
      ∃ sent t r, sendBatchLoop payloads acc c =
          liftExcept (r.map (acc ++ ·)) { c with token := t, exchanges := c.exchanges ++ sent } ∧
        BatchShape c.config c.token payloads sent t r
  | [], acc, c, _ => ⟨[], c.token, .ok [], by cases c; simp [sendBatchLoop, Except.map], .nil⟩
  | p :: ps, acc, c, hinv => by
    obtain ⟨sent, t, r, hs, hshape⟩ := sendEvidence_shape hinv p
    cases r with
    | error e =>
      exact ⟨sent, t, .error e, by simp [sendBatchLoop, hs, Except.map], .stop hshape⟩
    | ok body =>
      obtain ⟨sent', t', r', hs', hrest⟩ := sendBatchLoop_shape ps (acc ++ [body])
        { c with token := t, exchanges := c.exchanges ++ sent } hshape.inv
      refine ⟨sent ++ sent', t', r'.map (body :: ·), ?_, .next hshape hrest⟩
      simp only [sendBatchLoop, hs, liftExcept_ok, hs']
      cases r' <;> simp [Except.map]

theorem sendBatch_shape {c : EvidenceStoreClient} (hinv : TokenInv c) (payloads : List Json) :
    ∃ sent t r, sendBatch payloads c =
        liftExcept r { c with token := t, exchanges := c.exchanges ++ sent } ∧
      BatchShape c.config c.token payloads sent t r := by
  obtain ⟨sent, t, r, hs, hshape⟩ := sendBatchLoop_shape payloads [] c hinv
  refine ⟨sent, t, r, ?_, hshape⟩
  cases r <;> simpa [sendBatch, Except.map] using hs

/-! ## A store that accepts -/

theorem sendBatchLoop_error :
    ∀ {payloads acc : List Json} {c c' : EvidenceStoreClient} {e : PyError},
      sendBatchLoop payloads acc c = .error e c' →
      ∃ payload d d', sendEvidence payload d = .error e d'
  | [], _, _, _, _, h => by cases h
  | payload :: _, _, c, _, _, h => by
    simp only [sendBatchLoop] at h
    split at h
    · cases h; exact ⟨payload, c, _, ‹_›⟩
    · exact sendBatchLoop_error h

end DocumentAnalyser.EvidenceStoreClient

namespace DocumentAnalyser

open EvidenceStoreClient

/-- `push`: it raises while building the payloads, or returns 0 for no payloads, or runs one
batch on a new client over the world's network, whose exchanges stay in the world's log whether
the batch returns or raises. -/
theorem push_eq (config : EvidenceStoreConfig) (result : AnalysisResult)
    (documents : List Document) (w : World) :
    push config result documents w =
      match buildEvidencePayloads result documents config w.stamp with
      | .error e => .error e w
      | .ok payloads =>
        if payloads.isEmpty then .ok 0 w
        else
          match sendBatch payloads (create config w.network w.exchanges) with
          | .ok _ c => .ok payloads.length { w with exchanges := c.exchanges }
          | .error e c => .error e { w with exchanges := c.exchanges } := by
  unfold push
  simp only [bind, EStateM.bind, get, getThe, MonadStateOf.get, EStateM.get]
  cases buildEvidencePayloads result documents config w.stamp with
  | error e => rfl
  | ok payloads =>
    simp only [liftExcept_ok]
    cases payloads.isEmpty
    · cases hb : sendBatch payloads (create config w.network w.exchanges) <;>
        simp [EStateM.bind, pure, EStateM.pure, onNewClient, withClient, hb]
    · rfl

theorem push_of_payloads {config : EvidenceStoreConfig} {result : AnalysisResult}
    {documents : List Document} {w : World} {payloads : List Json}
    (h : buildEvidencePayloads result documents config w.stamp = .ok payloads) :
    push config result documents w =
      if payloads.isEmpty then .ok 0 w
      else
        match sendBatch payloads (create config w.network w.exchanges) with
        | .ok _ c => .ok payloads.length { w with exchanges := c.exchanges }
        | .error e c => .error e { w with exchanges := c.exchanges } := by
  rw [push_eq, h]

/-- `push` returns only when the batch posted every payload, in order, and each was accepted. -/
theorem push_ok {config : EvidenceStoreConfig} {result : AnalysisResult}
    {documents : List Document} {w w' : World} {payloads : List Json} {n : Nat}
    (hbuild : buildEvidencePayloads result documents config w.stamp = .ok payloads)
    (h : push config result documents w = .ok n w') :
    n = payloads.length ∧ ∃ sent results, w' = { w with exchanges := w.exchanges ++ sent } ∧
      BatchLaw config.evidenceUrl payloads (posts sent) (.ok results) := by
  rw [push_of_payloads hbuild] at h
  cases payloads with
  | nil => cases h; exact ⟨rfl, [], [], by simp, rfl, rfl⟩
  | cons p ps =>
    obtain ⟨sent, t, r, hs, hshape⟩ :=
      sendBatch_shape (c := create config w.network w.exchanges) (.inl rfl) (p :: ps)
    rw [hs] at h
    cases r with
    | error e => cases h
    | ok results => cases h; exact ⟨rfl, sent, results, rfl, hshape.law⟩

namespace EvidenceStoreClient

/-- A request the client of `config` sends: its token request, or a submission to its evidence
URL. -/
def requestOf (config : EvidenceStoreConfig) (request : HttpRequest) : Prop :=
  request = tokenRequest config ∨ ∃ payload token, request = .evidence config.evidenceUrl payload token

theorem SendShape.requests {config : EvidenceStoreConfig} {payload held held' : Json}
    {sent : List (HttpRequest × HttpOutcome)} {r : Except PyError Json}
    (h : SendShape config payload held sent held' r) : ∀ x ∈ sent, requestOf config x.1 := by
  cases h with
  | cached _ h => rcases h with ⟨rfl, -⟩ | ⟨o, rfl, -⟩ <;> simp [requestOf]
  | tokenFailed h => rcases h with ⟨rfl, -⟩ | ⟨o, e, rfl, -, -⟩ <;> simp [requestOf]
  | granted => simp [requestOf]

/-- A client only ever talks to the endpoints of its configuration: after any calls, every
exchange it added is a request of its configuration. -/
theorem runCalls_requests (config : EvidenceStoreConfig) (network : Nat → HttpOutcome)
    (log : List (HttpRequest × HttpOutcome)) (calls : List ClientCall) :
    ∃ sent, (runCalls calls (create config network log)).exchanges = log ++ sent ∧
      ∀ x ∈ sent, requestOf config x.1 := by
  refine (runCalls_preserves (fun d => d.config = config ∧ TokenInv d ∧ ∃ sent,
      d.exchanges = log ++ sent ∧ ∀ x ∈ sent, requestOf config x.1)
    (fun d p ⟨hd, hi, sent, hlog, hreq⟩ => ?_) (fun _ h => h) calls _
    ⟨rfl, .inl rfl, [], by simp [create], by simp⟩).2.2
  obtain ⟨sent', _, _, hs, hshape⟩ := stateAfter_sendEvidence_shape hi p
  rw [hs]
  refine ⟨hd, hshape.inv, sent ++ sent', by simp [hlog], fun x hx => ?_⟩
  rcases List.mem_append.mp hx with hx | hx
  · exact hreq x hx
  · exact hd ▸ hshape.requests x hx

end EvidenceStoreClient

/-- `push` changes nothing of the world but the exchange log, and adds to it only requests of its
configuration. -/
theorem push_exchanges (config : EvidenceStoreConfig) (result : AnalysisResult)
    (documents : List Document) (w : World) :
    ∃ sent, finalState (push config result documents w) = { w with exchanges := w.exchanges ++ sent } ∧
      ∀ x ∈ sent, requestOf config x.1 := by
  rw [push_eq]
  cases buildEvidencePayloads result documents config w.stamp with
  | error e => exact ⟨[], by simp, by simp⟩
  | ok payloads =>
    cases hempty : payloads.isEmpty
    · obtain ⟨sent, hlog, hreq⟩ :=
        runCalls_requests config w.network w.exchanges [.sendBatch payloads]
      simp only [runCalls, ClientCall.after, stateAfter] at hlog
      refine ⟨sent, ?_, hreq⟩
      cases hb : sendBatch payloads (create config w.network w.exchanges) <;>
        simp_all
    · exact ⟨[], by simp [hempty], by simp⟩

end DocumentAnalyser
