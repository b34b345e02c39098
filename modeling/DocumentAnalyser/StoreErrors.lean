import DocumentAnalyser.Publish

/-!
# What escapes the evidence store client

`send_evidence` turns transport errors and error statuses into `EvidenceStoreError`, but it reads
every answer under 400 with an unguarded `response.json()`, and the token answer with an
unguarded `payload.get`. So a body that is not JSON escapes as `JSONDecodeError`, one holding an
integer literal over the digit limit as `ValueError`, a token answer that is not a dict as
`AttributeError`, and a submission answer that is JSON but no object is returned as it is. These,
with the `RuntimeError` of a closed client, are all it can raise.
-/

namespace DocumentAnalyser

set_option autoImplicit false

open EvidenceStoreClient

/-- The errors `send_evidence` can raise: an `EvidenceStoreError`, what `json.loads` raises on an
answer's body, an `AttributeError` from reading a token answer that is not a dict, and the
`RuntimeError` of a closed client. -/
def PyError.IsSendError (e : PyError) : Prop :=
  (∃ msg, e = .evidenceStoreError msg) ∨ e = .jsonDecodeError ∨
    (∃ n, e = Json.intDigitsError Json.maxStrDigits n) ∨ (∃ msg, e = .attributeError msg) ∨
    e = closedError

namespace EvidenceStoreClient

theorem tokenResult_isSendError {o : HttpOutcome} {e : PyError} (h : tokenResult o = .error e) :
    e.IsSendError := by
  rcases tokenResult_cases o with ⟨_, h', -⟩ | ⟨_, h'⟩ | ⟨_, h', hdecode⟩ | ⟨_, h'⟩ <;>
    rw [h'] at h <;> cases h
  · exact .inl ⟨_, rfl⟩
  · exact .inr (hdecode.imp id .inl)
  · exact .inr (.inr (.inr (.inl ⟨_, rfl⟩)))

theorem submissionResult_isSendError {url : String} {o : HttpOutcome} {e : PyError}
    (h : submissionResult url o = .error e) : e.IsSendError := by
  unfold submissionResult at h
  split at h
  · cases h; exact .inl ⟨_, rfl⟩
  · split at h
    · cases h; exact .inl ⟨_, rfl⟩
    · split at h
      · cases h
      · exact .inr ((Json.loads_error h).imp id .inl)

theorem post_isSendError {request : HttpRequest} {c c' : EvidenceStoreClient} {e : PyError}
    (h : post request c = .error e c') : e.IsSendError := by
  unfold post at h
  split at h <;> cases h
  exact .inr (.inr (.inr (.inr rfl)))

theorem getToken_isSendError {c c' : EvidenceStoreClient} {e : PyError}
    (h : getToken c = .error e c') : e.IsSendError := by
  unfold getToken at h
  split at h
  · cases h
  · split at h
    · cases h; exact post_isSendError ‹_›
    · split at h
      · cases h
      · cases h; exact tokenResult_isSendError ‹_›

/-- From any client state and whatever the endpoints answer, `send_evidence` raises nothing but
the errors of `PyError.IsSendError`. -/
theorem sendEvidence_isSendError {payload : Json} {c c' : EvidenceStoreClient} {e : PyError}
    (h : sendEvidence payload c = .error e c') : e.IsSendError := by
  unfold sendEvidence at h
  split at h
  · cases h; exact getToken_isSendError ‹_›
  · split at h
    · cases h; exact post_isSendError ‹_›
    · exact submissionResult_isSendError (liftExcept_eq_error h)

theorem sendBatch_isSendError {payloads : List Json} {c c' : EvidenceStoreClient} {e : PyError}
    (h : sendBatch payloads c = .error e c') : e.IsSendError := by
  obtain ⟨_, _, _, hs⟩ := sendBatchLoop_error h
  exact sendEvidence_isSendError hs

/-- The answers `send_evidence` leaves untranslated. From any client state and whatever the
endpoints answer, it raises only the errors of `PyError.IsSendError`. On a new client, a token
answer under 400 whose body `json.loads` refuses raises the decoder's exception
(`JSONDecodeError`, or `ValueError` for an integer over the digit limit), and one that is JSON but
not a dict raises the `AttributeError` of its `.get`. Once a token is granted, a submission answer
under 400 other than 204 raises the decoder's exception when `json.loads` refuses its body, and
otherwise is returned decoded, whatever JSON value it is. -/
theorem sendEvidence_untranslated_answers (config : EvidenceStoreConfig)
    (network : Nat → HttpOutcome) (log : List (HttpRequest × HttpOutcome)) (payload : Json)
    (status : Nat) (text : String) (hstatus : status < 400) :
    let c := create config network log
    (∀ (d d' : EvidenceStoreClient) (e : PyError), sendEvidence payload d = .error e d' →
      e.IsSendError) ∧
    (network log.length = .response status text →
      (∀ e, Json.loads text = .error e → ∃ c', sendEvidence payload c = .error e c') ∧
      ∀ x, Json.loads text = .ok x → (∀ fields, x ≠ .obj fields) →
        ∃ c', sendEvidence payload c = .error (x.noAttribute "get") c') ∧
    ∀ t, tokenResult (network log.length) = .ok t →
      network (log.length + 1) = .response status text → status ≠ 204 →
      (∀ e, Json.loads text = .error e → ∃ c', sendEvidence payload c = .error e c') ∧
      ∀ x, Json.loads text = .ok x → ∃ c', sendEvidence payload c = .ok x c' := by
  have hlt : ¬400 ≤ status := by omega
  refine ⟨fun _ _ _ h => sendEvidence_isSendError h, fun hnet => ⟨fun e hloads => ?_, fun x hloads hx => ?_⟩,
    fun t ht hnet h204 => ⟨fun e hloads => ?_, fun x hloads => ?_⟩⟩
  · simp [sendEvidence, getToken, create, Json.truthy, hnet, tokenResult, hlt, hloads, bind,
      Except.bind]
  · simp [sendEvidence, getToken, create, Json.truthy, hnet, tokenResult, hlt, hloads, bind,
      Except.bind, Json.get_of_not_obj _ hx]
  · simp [sendEvidence, getToken, create, Json.truthy, ht, hnet, submissionResult, hlt, h204,
      hloads]
  · simp [sendEvidence, getToken, create, Json.truthy, ht, hnet, submissionResult, hlt, h204,
      hloads]

theorem sendEvidence_html_and_list_answers :
    (∃ c', sendEvidence (.obj [("id", .str "evidence-1")])
        (create (EvidenceStoreConfig.fromEnv fun _ => none) (fun _ => .response 200 "<html></html>")
          []) = .error .jsonDecodeError c') ∧
    (∃ c', sendEvidence (.obj [("id", .str "evidence-1")])
        (create (EvidenceStoreConfig.fromEnv fun _ => none) (fun _ => .response 200 "[]") []) =
      .error (.attributeError "'list' object has no attribute 'get'") c') ∧
    ∃ c', sendEvidence (.obj [("id", .str "evidence-1")])
        (create (EvidenceStoreConfig.fromEnv fun _ => none)
          (fun n => if n = 0 then .response 200 "\x7b\"access_token\": \"t\"\x7d"
            else .response 200 "[1]") []) =
      .ok (.arr [.num (.int 1)]) c' :=
  ⟨((sendEvidence_untranslated_answers _ _ [] _ 200 "<html></html>" (by decide)).2.1 rfl).1 _ rfl,
    ((sendEvidence_untranslated_answers _ _ [] _ 200 "[]" (by decide)).2.1 rfl).2 (.arr []) rfl
      (fun _ => nofun),
    ((sendEvidence_untranslated_answers _ _ [] _ 200 "[1]" (by decide)).2.2 (.str "t") (by rfl)
      (by rfl) (by decide)).2 _ (by rfl)⟩

end EvidenceStoreClient

end DocumentAnalyser
