import DocumentAnalyser.StoreErrors
import DocumentAnalyser.RequirementAnalysis

/-!
# Runs of the pipeline

`DocumentAnalysisPipeline.run` is load, then extract, then push, with no handler between them:
each stage's error is the run's, and the extraction reaches the caller only when the push, if
there is one, returns. Both extraction modes refuse an empty document list before any model
call, so the payload builder's `documents[idx % len(documents)]` always has a document to pick,
and no run raises `ZeroDivisionError`. General mode raises while building its messages, before
the model is called.
-/

namespace DocumentAnalyser

set_option autoImplicit false

open EvidenceStoreClient

/-- `e` is a `ZeroDivisionError`. -/
def PyError.isZeroDivision : PyError → Bool
  | .zeroDivisionError _ => true
  | _ => false

theorem run_eq (pipeline : DocumentAnalysisPipeline) (paths : List String) (focus : Option String)
    (maxItems : Int) (requirements : Option (List RequirementPrompt)) (pushEvidence : Bool)
    (w : World) :
    pipeline.run paths focus maxItems requirements pushEvidence w =
      match loadDocuments w.files paths with
      | .error e => .error e w
      | .ok documents =>
        match extract documents focus maxItems requirements w.llm with
        | .error e llm => .error e { w with llm := llm }
        | .ok result llm =>
          match pushEvidence, pipeline.publisher with
          | true, some config =>
            match push config result documents { w with llm := llm } with
            | .ok n w' => .ok (result, n) w'
            | .error e w' => .error e w'
          | _, _ => .ok (result, 0) { w with llm := llm } := by
  unfold DocumentAnalysisPipeline.run
  simp only [bind, EStateM.bind, get, getThe, MonadStateOf.get, EStateM.get]
  cases loadDocuments w.files paths with
  | error e => rfl
  | ok documents =>
    simp only [liftExcept_ok, onModel]
    cases extract documents focus maxItems requirements w.llm with
    | error e llm => rfl
    | ok result llm =>
      cases pipeline.publisher with
      | none => cases pushEvidence <;> rfl
      | some config =>
        cases pushEvidence
        · rfl
        · show EStateM.bind (push config result documents) _ { w with llm := llm } = _
          simp only [EStateM.bind]
          cases push config result documents { w with llm := llm } <;> rfl

/-! ## Where a `ZeroDivisionError` can come from -/

theorem loadDocuments_error_not_division (fs : FileSystem) :
    ∀ {paths : List String} {e : PyError}, loadDocuments fs paths = .error e →
      e.isZeroDivision = false
  | [], _, h => by cases h
  | path :: paths, e, h => by
    unfold loadDocuments at h
    split at h
    · cases h
    · rename_i hd
      cases h
      simp only [loadAnyDocument] at hd
      split at hd <;> cases hd <;> rfl
    · cases h; exact loadDocuments_error_not_division fs ‹_›

theorem requirementLoop_error_not_division (mergedText sourceName : String) :
    ∀ {requirements : List RequirementPrompt} {items : List Json} {llm llm' : LLMClient}
      {e : PyError}, requirementLoop mergedText sourceName requirements items llm = .error e llm' →
      e.isZeroDivision = false
  | [], _, _, _, _, h => by cases h
  | r :: rs, items, llm, llm', e, h => by
    rw [requirementLoop_cons] at h
    split at h
    · exact requirementLoop_error_not_division mergedText sourceName h
    · cases h
      rcases requirementEvidence_error ‹_› with ⟨_, rfl⟩ | ⟨_, rfl⟩ <;> rfl

theorem extract_error_not_division {documents : List Document} {focus : Option String}
    {maxItems : Int} {requirements : Option (List RequirementPrompt)} {llm llm' : LLMClient}
    {e : PyError} (h : extract documents focus maxItems requirements llm = .error e llm') :
    e.isZeroDivision = false := by
  unfold extract at h
  split at h
  · simp only [bind, EStateM.bind, analyseRequirements] at h
    cases documents with
    | nil => cases h; rfl
    | cons =>
      split at h
      · cases h
      · rename_i h'
        simp only [List.isEmpty_cons, Bool.false_eq_true, if_false] at h'
        cases h; exact requirementLoop_error_not_division _ _ h'
  · simp only [analyse, bind, EStateM.bind, buildMessages, liftExcept] at h
    cases documents <;> cases h <;> rfl

theorem extract_nil (focus : Option String) (maxItems : Int)
    (requirements : Option (List RequirementPrompt)) (llm : LLMClient) :
    extract [] focus maxItems requirements llm =
      .error (.valueError "No documents provided for analysis.") llm := by
  unfold extract
  split <;> rfl

theorem evidencePayload_error_not_division {config : EvidenceStoreConfig} {stamp : Stamp}
    {idx : Nat} {doc : Document} {item : Json} {e : PyError}
    (h : evidencePayload config stamp idx doc item = .error e) : e.isZeroDivision = false := by
  unfold evidencePayload at h
  split at h
  · simp only [bind, Except.bind] at h
    split at h
    · rename_i hkey
      cases h
      unfold Json.asKey at hkey
      split at hkey <;> cases hkey <;> rfl
    · cases h
  · cases h; rfl

theorem payloadLoop_error_not_division {config : EvidenceStoreConfig} {stamp : Nat → Stamp}
    {documents : List Document} (hdocs : documents ≠ []) :
    ∀ {idx : Nat} {items : List Json} {e : PyError},
      payloadLoop config stamp documents idx items = .error e → e.isZeroDivision = false
  | _, [], _, h => by cases h
  | idx, item :: items, e, h => by
    have hdoc : documentAt documents idx = .ok _ := dif_pos (List.length_pos.mpr hdocs)
    simp only [payloadLoop, hdoc, bind, Except.bind] at h
    split at h
    · cases h; exact evidencePayload_error_not_division ‹_›
    · split at h
      · cases h; exact payloadLoop_error_not_division hdocs ‹_›
      · cases h

theorem buildEvidencePayloads_error_not_division {result : AnalysisResult}
    {documents : List Document} {config : EvidenceStoreConfig} {stamp : Nat → Stamp}
    {e : PyError} (hdocs : documents ≠ [])
    (h : buildEvidencePayloads result documents config stamp = .error e) :
    e.isZeroDivision = false := by
  unfold buildEvidencePayloads at h
  simp only [bind, Except.bind] at h
  split at h
  · rename_i hget
    cases h; rw [Json.get_error hget]; rfl
  · split at h
    · exact payloadLoop_error_not_division hdocs h
    · cases h

/-- No error of the store client, whatever its state and the endpoints' answers, is a
`ZeroDivisionError`. -/
theorem PyError.isZeroDivision_of_isSendError {e : PyError} (h : e.IsSendError) :
    e.isZeroDivision = false := by
  rcases h with ⟨_, rfl⟩ | rfl | ⟨_, rfl⟩ | ⟨_, rfl⟩ | rfl <;> rfl

theorem push_error_not_division {config : EvidenceStoreConfig} {result : AnalysisResult}
    {documents : List Document} {w w' : World} {e : PyError} (hdocs : documents ≠ [])
    (h : push config result documents w = .error e w') : e.isZeroDivision = false := by
  rw [push_eq] at h
  split at h
  · cases h; exact buildEvidencePayloads_error_not_division hdocs ‹_›
  · split at h
    · cases h
    · split at h
      · cases h
      · cases h; exact PyError.isZeroDivision_of_isSendError (sendBatch_isSendError ‹_›)

/-- No run raises `ZeroDivisionError`: without documents it raises `ValueError` before any model
call, payload or store request, leaving the world as it was; and a run that gets as far as the
payload builder has documents to cite. -/
theorem run_never_divides_by_zero (pipeline : DocumentAnalysisPipeline) (paths : List String)
    (focus : Option String) (maxItems : Int) (requirements : Option (List RequirementPrompt))
    (pushEvidence : Bool) (w : World) :
    pipeline.run [] focus maxItems requirements pushEvidence w =
        .error (.valueError "No documents provided for analysis.") w ∧
    ∀ e w', pipeline.run paths focus maxItems requirements pushEvidence w = .error e w' →
      e.isZeroDivision = false := by
  refine ⟨by rw [run_eq]; simp [loadDocuments, extract_nil], fun e w' h => ?_⟩
  rw [run_eq] at h
  split at h
  · cases h; exact loadDocuments_error_not_division _ ‹_›
  · rename_i documents _
    split at h
    · cases h; exact extract_error_not_division ‹_›
    · rename_i hextract
      have hdocs : documents ≠ [] := by
        rintro rfl
        rw [extract_nil] at hextract
        cases hextract
      split at h
      · split at h
        · cases h
        · cases h; exact push_error_not_division hdocs ‹_›
      · cases h

/-! ## Publishing after extraction -/

/-- With a publisher and `push=True`, a run whose loading and extraction complete ends as its
push ends: it returns the extraction with the count only if the push returns, and when the
store fails anywhere in the batch the run raises the store's error, so the extraction is lost. -/
theorem run_outcome_is_push_outcome (config : EvidenceStoreConfig) (paths : List String)
    (focus : Option String) (maxItems : Int) (requirements : Option (List RequirementPrompt))
    (w : World) (documents : List Document) (result : AnalysisResult) (llm : LLMClient)
    (hload : loadDocuments w.files paths = .ok documents)
    (hextract : extract documents focus maxItems requirements w.llm = .ok result llm) :
    (DocumentAnalysisPipeline.mk (some config)).run paths focus maxItems requirements true w =
      (match push config result documents { w with llm := llm } with
        | .ok n w' => .ok (result, n) w'
        | .error e w' => .error e w') ∧
    ∀ (payloads : List Json) (e : PyError) (c : EvidenceStoreClient),
      buildEvidencePayloads result documents config w.stamp = .ok payloads →
      sendBatch payloads (create config w.network w.exchanges) = .error e c →
      (DocumentAnalysisPipeline.mk (some config)).run paths focus maxItems requirements true w =
        .error e { w with llm := llm, exchanges := c.exchanges } := by
  have hrun : (DocumentAnalysisPipeline.mk (some config)).run paths focus maxItems requirements
      true w = (match push config result documents { w with llm := llm } with
        | .ok n w' => .ok (result, n) w'
        | .error e w' => .error e w') := by
    rw [run_eq, hload]
    simp only [hextract]
  refine ⟨hrun, fun payloads e c hbuild hbatch => ?_⟩
  rw [hrun, push_of_payloads (w := { w with llm := llm }) hbuild]
  cases payloads with
  | nil => cases hbatch
  | cons p ps => simp [hbatch]

/-- A world with one policy file, a model that answers `{}` and an evidence store whose token
endpoint refuses every request. -/
def refusingStoreWorld : World where
  files := fun path => if path = "policy.txt" then .present (.ok "Backups run nightly.") else .missing
  llm := ⟨fun _ => "{}", []⟩
  network := fun _ => .response 401 "unauthorized"
  exchanges := []
  stamp := fun i => ⟨s!"evidence-{i}", "2026-01-01T00:00:00Z"⟩

/-- Extraction completes, the store refuses the token, and the run raises the store's error. -/
theorem run_outcome_is_push_outcome_refused_token :
    ∃ documents result llm payloads e c,
      loadDocuments refusingStoreWorld.files ["policy.txt"] = .ok documents ∧
      extract documents none 8 (some [backupRequirement]) refusingStoreWorld.llm =
        .ok result llm ∧
      buildEvidencePayloads result documents (EvidenceStoreConfig.fromEnv fun _ => none)
        refusingStoreWorld.stamp = .ok payloads ∧
      sendBatch payloads (create (EvidenceStoreConfig.fromEnv fun _ => none)
        refusingStoreWorld.network refusingStoreWorld.exchanges) = .error e c ∧
      (DocumentAnalysisPipeline.mk (some (EvidenceStoreConfig.fromEnv fun _ => none))).run
          ["policy.txt"] none 8 (some [backupRequirement]) true refusingStoreWorld =
        .error e { refusingStoreWorld with llm := llm, exchanges := c.exchanges } :=
  ⟨_, _, _, _, _, _, rfl, rfl, rfl, rfl,
    (run_outcome_is_push_outcome _ ["policy.txt"] none 8 (some [backupRequirement])
      refusingStoreWorld _ _ _ rfl rfl).2 _ _ _ rfl rfl⟩

def restoreRequirement : RequirementPrompt :=
  { id := "E94", name := "Restore tests", prompt := "Restores are tested regularly." }

/-- The world of `refusingStoreWorld` with a store that grants a token, accepts the first
submission and answers 500 to the second. -/
def secondSubmissionRefusedWorld : World :=
  { refusingStoreWorld with
    network := fun n =>
      if n = 0 then .response 200 "\x7b\"access_token\": \"t\"\x7d"
      else if n = 1 then .response 201 "\x7b\x7d" else .response 500 "unavailable" }

/-- Extraction completes and the store publishes the first of the two payloads, then refuses the
second: the run raises the store's error, so the extraction is not returned, nor is the count of
what was published. -/
theorem run_discards_result_after_partial_push :
    ∃ e w', (DocumentAnalysisPipeline.mk (some (EvidenceStoreConfig.fromEnv fun _ => none))).run
        ["policy.txt"] none 8 (some [backupRequirement, restoreRequirement]) true
        secondSubmissionRefusedWorld = .error e w' ∧ (∃ msg, e = .evidenceStoreError msg) ∧
      w'.exchanges.map Prod.snd = [.response 200 "\x7b\"access_token\": \"t\"\x7d",
        .response 201 "\x7b\x7d", .response 500 "unavailable"] :=
  ⟨_, _, rfl, ⟨_, rfl⟩, rfl⟩

/-! ## General mode -/

/-- General mode never reaches the model: for every non-empty document list, `analyse` raises the
`NameError` of the undefined `SYSTEM_PROMPT` while building its messages, with the model's call
log unchanged, and `extract` given no requirement raises the same. -/
theorem analyse_raises_before_model_call {documents : List Document} (hdocs : documents ≠ [])
    (focus : Option String) (maxItems : Int) (llm : LLMClient) :
    analyse documents focus maxItems llm =
        .error (.nameError "name 'SYSTEM_PROMPT' is not defined") llm ∧
      ∀ requirements : Option (List RequirementPrompt), (requirements = none ∨ requirements = some []) →
        extract documents focus maxItems requirements llm =
          .error (.nameError "name 'SYSTEM_PROMPT' is not defined") llm := by
  have hanalyse : analyse documents focus maxItems llm =
      .error (.nameError "name 'SYSTEM_PROMPT' is not defined") llm := by
    cases documents with
    | nil => exact absurd rfl hdocs
    | cons => rfl
  exact ⟨hanalyse, by rintro _ (rfl | rfl) <;> exact hanalyse⟩

theorem analyse_policy_raises_before_model_call :
    analyse [⟨"policy.txt", "Backups run nightly."⟩] none 8 refusingStoreWorld.llm =
        .error (.nameError "name 'SYSTEM_PROMPT' is not defined") refusingStoreWorld.llm ∧
      ∀ requirements : Option (List RequirementPrompt), (requirements = none ∨ requirements = some []) →
        extract [⟨"policy.txt", "Backups run nightly."⟩] none 8 requirements refusingStoreWorld.llm =
          .error (.nameError "name 'SYSTEM_PROMPT' is not defined") refusingStoreWorld.llm :=
  analyse_raises_before_model_call (List.cons_ne_nil _ _) none 8 _

end DocumentAnalyser
