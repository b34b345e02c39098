import DocumentAnalyser.EvidenceStore

/-!
# The token cache of the evidence store client

A client moves between two protocol states: no token, or a cached token. One `send_evidence`
call appends one of three shapes of exchange to its connection's log (`SendShape`): with a
cached token, at most one submission carrying it; without one, a failed token request and
nothing else, or a granted token followed by one submission carrying it. From that shape and
the invariant that a cached token is truthy, every sequence of calls keeps the token once it is
cached, whatever the endpoints answer.
-/

namespace DocumentAnalyser.EvidenceStoreClient

set_option autoImplicit false

/-- The client after `m`, whether `m` returned or raised. -/
def stateAfter {α : Type} (m : ClientM α) (c : EvidenceStoreClient) : EvidenceStoreClient :=
  finalState (m c)

/-- A call a caller can make on one client. -/
inductive ClientCall where
  | sendEvidence (payload : Json)
  | sendBatch (payloads : List Json)
  | close

/-- The client after a call, whatever the call returned or raised. -/
def ClientCall.after : ClientCall → EvidenceStoreClient → EvidenceStoreClient
  | .sendEvidence payload => stateAfter (EvidenceStoreClient.sendEvidence payload)
  | .sendBatch payloads => stateAfter (EvidenceStoreClient.sendBatch payloads)
  | .close => stateAfter EvidenceStoreClient.close

/-- The client after a sequence of calls, each made whatever the previous ones ended with. -/
def runCalls : List ClientCall → EvidenceStoreClient → EvidenceStoreClient
  | [], c => c
  | call :: calls, c => runCalls calls (call.after c)

/-- No token is cached, or a truthy one. -/
def TokenInv (c : EvidenceStoreClient) : Prop := c.token = .null ∨ c.token.truthy

/-- The error of a request on a closed client. -/
def closedError : PyError := .runtimeError "Cannot send a request, as the client has been closed."

/-- The exchanges one `send_evidence` call from a client holding `held` appends, the token
`held'` it ends with, and what it returns or raises. -/
inductive SendShape (config : EvidenceStoreConfig) (payload : Json) :
    Json → List (HttpRequest × HttpOutcome) → Json → Except PyError Json → Prop
  /-- A cached token is used as it is: one submission carrying it, answered by the endpoint
  (none on a closed client). -/
  | cached {t : Json} {sent : List (HttpRequest × HttpOutcome)} {r : Except PyError Json}
      (ht : t.truthy) :
      (sent = [] ∧ r = .error closedError) ∨
        (∃ o, sent = [(.evidence config.evidenceUrl payload t, o)] ∧
          r = submissionResult config.evidenceUrl o) →
      SendShape config payload t sent t r
  /-- The token request fails, or cannot be sent: no submission, and still no token. -/
  | tokenFailed {sent : List (HttpRequest × HttpOutcome)} {r : Except PyError Json} :
      (sent = [] ∧ r = .error closedError) ∨
        (∃ o e, sent = [(tokenRequest config, o)] ∧ tokenResult o = .error e ∧ r = .error e) →
      SendShape config payload .null sent .null r
  /-- A token is granted, truthy, and cached, then one submission carries it. -/
  | granted {t : Json} (o o' : HttpOutcome) (ht : tokenResult o = .ok t) (htruthy : t.truthy) :
      SendShape config payload .null
        [(tokenRequest config, o), (.evidence config.evidenceUrl payload t, o')] t
        (submissionResult config.evidenceUrl o')

/-- What `_get_token` makes of the token endpoint's answer: a truthy token, or an
`EvidenceStoreError`, what `json.loads` raises on the body, or the `AttributeError` of `.get` on a
body that is not a dict. -/
theorem tokenResult_cases (o : HttpOutcome) :
    (∃ t, tokenResult o = .ok t ∧ t.truthy) ∨
      (∃ msg, tokenResult o = .error (.evidenceStoreError msg)) ∨
      (∃ e, tokenResult o = .error e ∧
        (e = .jsonDecodeError ∨ ∃ n, e = Json.intDigitsError Json.maxStrDigits n)) ∨
      ∃ x : Json, tokenResult o = .error (x.noAttribute "get") := by
  unfold tokenResult
  split
  · exact .inr (.inl ⟨_, rfl⟩)
  · split
    · exact .inr (.inl ⟨_, rfl⟩)
    · simp only [bind, Except.bind]
      cases hloads : Json.loads _ with
      | error e => exact .inr (.inr (.inl ⟨e, rfl, Json.loads_error hloads⟩))
      | ok payload =>
        dsimp only
        cases hget : payload.get "access_token" with
        | error e => exact .inr (.inr (.inr ⟨payload, by rw [Json.get_error hget]⟩))
        | ok token =>
          by_cases ht : token.truthy
          · exact .inl ⟨token, by simp [ht], ht⟩
          · exact .inr (.inl ⟨"OAuth token response missing access_token.", by simp [ht]⟩)

theorem tokenResult_truthy {o : HttpOutcome} {t : Json} (h : tokenResult o = .ok t) :
    t.truthy := by
  rcases tokenResult_cases o with ⟨_, h', ht⟩ | ⟨_, h'⟩ | ⟨_, h', -⟩ | ⟨_, h'⟩ <;> rw [h'] at h <;>
    cases h
  exact ht

@[simp] theorem post_closed {request : HttpRequest} {c : EvidenceStoreClient} (h : c.closed = true) :
    post request c = .error closedError c := by
  simp [post, h, closedError]

@[simp] theorem post_open {request : HttpRequest} {c : EvidenceStoreClient} (h : c.closed = false) :
    post request c = .ok (c.network c.exchanges.length)
      { c with exchanges := c.exchanges ++ [(request, c.network c.exchanges.length)] } := by
  simp [post, h]

/-- One `send_evidence` call, from any client whose cached token is truthy: only the token and
the log change, the log grows by one of the three shapes, and the call's result is the shape's. -/
theorem sendEvidence_shape {c : EvidenceStoreClient} (hinv : TokenInv c) (payload : Json) :
    ∃ sent t r, sendEvidence payload c =
        liftExcept r { c with token := t, exchanges := c.exchanges ++ sent } ∧
      SendShape c.config payload c.token sent t r := by
  by_cases ht : c.token.truthy
  · cases hc : c.closed
    · exact ⟨_, _, _, by simp [sendEvidence, getToken, ht, hc],
        .cached ht (.inr ⟨c.network c.exchanges.length, rfl, rfl⟩)⟩
    · exact ⟨[], c.token, _, by cases c; simp_all [sendEvidence, getToken, closedError],
        .cached ht (.inl ⟨rfl, rfl⟩)⟩
  · have hnull : c.token = .null := hinv.resolve_right ht
    rw [hnull]
    cases hc : c.closed
    · cases hr : tokenResult (c.network c.exchanges.length) with
      | error e =>
        exact ⟨_, .null, _, by simp [sendEvidence, getToken, hnull, hc, hr, Json.truthy],
          .tokenFailed (.inr ⟨_, e, rfl, hr, rfl⟩)⟩
      | ok t =>
        exact ⟨_, t, _, by simp [sendEvidence, getToken, hnull, hc, hr, Json.truthy],
          .granted _ (c.network (c.exchanges.length + 1)) hr (tokenResult_truthy hr)⟩
    · exact ⟨[], .null, _, by cases c; simp_all [sendEvidence, getToken, Json.truthy, closedError],
        .tokenFailed (.inl ⟨rfl, rfl⟩)⟩

theorem stateAfter_sendEvidence_shape {c : EvidenceStoreClient} (hinv : TokenInv c) (payload : Json) :
    ∃ sent t r, stateAfter (sendEvidence payload) c = { c with token := t, exchanges := c.exchanges ++ sent } ∧
      SendShape c.config payload c.token sent t r := by
  obtain ⟨sent, t, r, hs, hshape⟩ := sendEvidence_shape hinv payload
  exact ⟨sent, t, r, by simp [stateAfter, hs], hshape⟩

namespace SendShape

variable {config : EvidenceStoreConfig} {payload held held' : Json}
  {sent : List (HttpRequest × HttpOutcome)} {r : Except PyError Json}

theorem inv (h : SendShape config payload held sent held' r) : held' = .null ∨ held'.truthy := by
  cases h with
  | cached ht => exact .inr ht
  | tokenFailed => exact .inl rfl
  | granted _ _ _ ht => exact .inr ht

theorem keep (h : SendShape config payload held sent held' r) (ht : held.truthy) : held' = held := by
  cases h with
  | cached => rfl
  | tokenFailed | granted => simp [Json.truthy] at ht

end SendShape

/-- Whatever `send_evidence` keeps, a whole batch keeps: the batch stops at its first failure. -/
theorem sendBatchLoop_preserves (P : EvidenceStoreClient → Prop)
    (hP : ∀ c payload, P c → P (stateAfter (sendEvidence payload) c)) :
    ∀ (payloads results : List Json) (c : EvidenceStoreClient),
      P c → P (stateAfter (sendBatchLoop payloads results) c)
  | [], _, _, h => h
  | payload :: payloads, results, c, h => by
    have hs := hP c payload h
    simp only [stateAfter] at hs ⊢
    simp only [sendBatchLoop]
    cases hr : sendEvidence payload c with
    | error e c' => simpa [hr] using hs
    | ok r c' =>
      simpa [stateAfter] using sendBatchLoop_preserves P hP payloads _ c' (by simpa [hr] using hs)

/-- Whatever `send_evidence` and closing keep, every sequence of calls keeps. -/
theorem runCalls_preserves (P : EvidenceStoreClient → Prop)
    (hsend : ∀ c payload, P c → P (stateAfter (sendEvidence payload) c))
    (hclose : ∀ c, P c → P { c with closed := true }) :
    ∀ (calls : List ClientCall) (c : EvidenceStoreClient), P c → P (runCalls calls c)
  | [], _, h => h
  | call :: calls, c, h => by
    refine runCalls_preserves P hsend hclose calls _ ?_
    cases call with
    | sendEvidence payload => exact hsend c payload h
    | sendBatch payloads => exact sendBatchLoop_preserves P hsend payloads [] c h
    | close => exact hclose c h

/-- A client created for `config`, after any calls: still for `config` and its network, and its
token cache holds the invariant. -/
theorem runCalls_create_inv (config : EvidenceStoreConfig) (network : Nat → HttpOutcome)
    (log : List (HttpRequest × HttpOutcome)) (calls : List ClientCall) :
    (runCalls calls (create config network log)).config = config ∧
      (runCalls calls (create config network log)).network = network ∧
      TokenInv (runCalls calls (create config network log)) := by
  refine runCalls_preserves (fun d => d.config = config ∧ d.network = network ∧ TokenInv d)
    (fun d p ⟨hd, hn, hi⟩ => ?_) (fun _ h => h) calls _ ⟨rfl, rfl, .inl rfl⟩
  obtain ⟨_, _, _, hs, hshape⟩ := stateAfter_sendEvidence_shape hi p
  rw [hs]
  exact ⟨hd, hn, hshape.inv⟩

/-- The token cache of one client, over every sequence of `send_evidence`, `send_batch` and
`close` calls and every answer of the endpoints: the cached token is truthy, so non-empty, and
stays for the rest of the client's life; and each further `send_evidence` call, also each one a
batch makes, appends exchanges of one of the three `SendShape`s. So the token endpoint is asked
at most once per call and only while nothing is cached, every submission carries the token the
client holds, and a failed token request leaves no submission and no token. -/
theorem token_cache_protocol (config : EvidenceStoreConfig) (network : Nat → HttpOutcome)
    (log : List (HttpRequest × HttpOutcome)) (calls : List ClientCall) (payload : Json) :
    let c := runCalls calls (create config network log)
    TokenInv c ∧
    (∀ more : List ClientCall, c.token ≠ .null → (runCalls more c).token = c.token) ∧
    ∃ sent t r, sendEvidence payload c =
        liftExcept r { c with token := t, exchanges := c.exchanges ++ sent } ∧
      SendShape config payload c.token sent t r := by
  intro c
  obtain ⟨hconfig, -, hinv⟩ := runCalls_create_inv config network log calls
  refine ⟨hinv, fun more hne => ?_, hconfig ▸ sendEvidence_shape hinv payload⟩
  have ht : c.token.truthy := hinv.resolve_left hne
  refine (runCalls_preserves (fun d => d.token = c.token ∧ TokenInv d)
    (fun d p ⟨hd, hi⟩ => ?_) (fun _ h => h) more c ⟨rfl, hinv⟩).1
  obtain ⟨_, _, _, hs, hshape⟩ := stateAfter_sendEvidence_shape hi p
  rw [hs]
  exact ⟨(hshape.keep (hd ▸ ht)).trans hd, hshape.inv⟩

/-- A closed client raises on every `send_evidence` call, before sending anything and whether or
not it holds a token. -/
theorem sendEvidence_closed {c : EvidenceStoreClient} (hc : c.closed = true) (payload : Json) :
    sendEvidence payload c = .error closedError c := by
  unfold sendEvidence getToken
  by_cases ht : c.token.truthy <;> simp [ht, post_closed hc]

/-- A closed client stays as it is: whatever calls follow, it sends no request and keeps its token
and its log, and every `send_evidence` call raises the `RuntimeError` of a closed client. -/
theorem runCalls_closed {c : EvidenceStoreClient} (hc : c.closed = true) (calls : List ClientCall)
    (payload : Json) :
    runCalls calls c = c ∧ sendEvidence payload (runCalls calls c) = .error closedError c := by
  have hinert : runCalls calls c = c := by
    refine runCalls_preserves (· = c) (fun d p hd => ?_) (fun d hd => ?_) calls c rfl
    · subst hd; simp [stateAfter, sendEvidence_closed hc]
    · subst hd; cases d; simp_all
  exact ⟨hinert, by rw [hinert]; exact sendEvidence_closed hc payload⟩

theorem runCalls_closed_after_batch :
    let c : EvidenceStoreClient := { create (EvidenceStoreConfig.fromEnv fun _ => none)
      (fun _ => .response 200 "\x7b\"access_token\": \"t\"\x7d") [] with closed := true }
    c.closed = true ∧ runCalls [.sendBatch [.obj []], .close] c = c ∧
      sendEvidence (.obj []) (runCalls [.sendBatch [.obj []], .close] c) = .error closedError c :=
  ⟨rfl, runCalls_closed rfl _ _⟩

end DocumentAnalyser.EvidenceStoreClient
