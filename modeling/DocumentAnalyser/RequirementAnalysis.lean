import DocumentAnalyser.Extractor

/-!
# Requirement mode

`analyse_requirements` makes one model call per requirement, in order, and turns each reply
into an evidence dict. A reply that is not valid JSON counts as `{}`; a reply that decodes to a
JSON object is read field by field; any other decoded value makes `parsed.get` raise, and so
does the decoder's `ValueError` on an integer literal over the digit limit, which the
`except json.JSONDecodeError` clause does not catch: either ends the whole batch. Over the
replies the loop accepts, the result is the requirements mapped, position by position, through
one function of the requirement and its own reply.
-/

namespace DocumentAnalyser

set_option autoImplicit false

/-- A reply the loop body takes: not valid JSON, or a JSON object `json.loads` decodes. -/
def isObjectOrMalformed (raw : String) : Bool :=
  match Json.loadsOr (.obj []) raw with
  | .ok (.obj _) => true
  | _ => false

/-- The fields the loop body reads from a reply: a decoded dict's, none for malformed text. -/
def replyFields (raw : String) : List (String × Json) :=
  match Json.loadsOr (.obj []) raw with
  | .ok (.obj fields) => fields
  | _ => []

/-- The evidence dict `requirement` gets from a reply the loop body takes. -/
def requirementItem (requirement : RequirementPrompt) (raw : String) : Json :=
  evidenceItem requirement (replyFields raw)

/-- The chat call the loop makes for `requirement`. -/
def requirementCall (mergedText sourceName : String) (requirement : RequirementPrompt) : ChatCall :=
  ⟨buildRequirementMessages mergedText requirement (some sourceName), some "json"⟩

theorem requirementEvidence_of_accepted {raw : String} (h : isObjectOrMalformed raw = true)
    (requirement : RequirementPrompt) :
    requirementEvidence requirement raw = .ok (requirementItem requirement raw) := by
  unfold isObjectOrMalformed at h
  unfold requirementEvidence requirementItem replyFields
  split at h <;> simp_all [bind, Except.bind]

theorem requirementEvidence_error {r : RequirementPrompt} {raw : String} {e : PyError}
    (h : requirementEvidence r raw = .error e) :
    (∃ x : Json, e = x.noAttribute "get") ∨ ∃ n, e = Json.intDigitsError Json.maxStrDigits n := by
  unfold requirementEvidence at h
  cases hl : Json.loadsOr (.obj []) raw with
  | error e' => simp only [hl, bind, Except.bind] at h; cases h; exact .inr (Json.loadsOr_error hl)
  | ok v => cases v <;> simp only [hl, bind, Except.bind] at h <;> cases h <;> exact .inl ⟨_, rfl⟩

theorem requirementLoop_cons (mergedText sourceName : String) (r : RequirementPrompt)
    (rs : List RequirementPrompt) (items : List Json) (llm : LLMClient) :
    requirementLoop mergedText sourceName (r :: rs) items llm =
      match requirementEvidence r (llm.reply llm.calls.length) with
      | .ok item => requirementLoop mergedText sourceName rs (items ++ [item])
          { llm with calls := llm.calls ++ [requirementCall mergedText sourceName r] }
      | .error e => .error e { llm with calls := llm.calls ++ [requirementCall mergedText sourceName r] } := by
  simp only [requirementLoop, bind, EStateM.bind, LLMClient.chat, requirementCall]
  cases requirementEvidence r (llm.reply llm.calls.length) <;> rfl

/-- Over replies the body takes, the loop appends one item per requirement and makes one call
per requirement, in order. -/
theorem requirementLoop_accepted (mergedText sourceName : String) :
    ∀ (requirements : List RequirementPrompt) (items : List Json) (llm : LLMClient),
    (∀ i < requirements.length, isObjectOrMalformed (llm.reply (llm.calls.length + i)) = true) →
    requirementLoop mergedText sourceName requirements items llm =
      .ok (items ++ requirements.mapIdx fun i r => requirementItem r (llm.reply (llm.calls.length + i)))
        { llm with calls := llm.calls ++ requirements.map (requirementCall mergedText sourceName) }
  | [], items, llm, _ => by simp [requirementLoop, pure, EStateM.pure]
  | r :: rs, items, llm, h => by
    have h0 : isObjectOrMalformed (llm.reply llm.calls.length) = true := by simpa using h 0
    rw [requirementLoop_cons, requirementEvidence_of_accepted h0]
    dsimp only
    rw [requirementLoop_accepted mergedText sourceName rs _ _ fun i hi => by
      simpa [Nat.add_assoc, Nat.add_comm 1] using h (i + 1) (by simp; omega)]
    simp [Nat.add_assoc, Nat.add_comm 1]

theorem isObjectOrMalformed_of_requirementEvidence {r : RequirementPrompt} {raw : String}
    {item : Json} (h : requirementEvidence r raw = .ok item) : isObjectOrMalformed raw = true := by
  unfold requirementEvidence at h
  unfold isObjectOrMalformed
  cases hl : Json.loadsOr (.obj []) raw with
  | error e => simp [hl, bind, Except.bind] at h
  | ok v => cases v <;> simp_all [bind, Except.bind]

/-- The loop returns only when every reply it read is a JSON object or not JSON at all. -/
theorem requirementLoop_ok_accepted (mergedText sourceName : String) :
    ∀ (requirements : List RequirementPrompt) (items out : List Json) (llm llm' : LLMClient),
      requirementLoop mergedText sourceName requirements items llm = .ok out llm' →
      ∀ i < requirements.length, isObjectOrMalformed (llm.reply (llm.calls.length + i)) = true
  | [], _, _, _, _, _ => by simp
  | r :: rs, items, out, llm, llm', h => by
    rw [requirementLoop_cons] at h
    split at h
    · rename_i item hitem
      have hrest := requirementLoop_ok_accepted mergedText sourceName rs _ _ _ _ h
      intro i hi
      cases i with
      | zero => exact isObjectOrMalformed_of_requirementEvidence hitem
      | succ i =>
        simpa [Nat.add_assoc, Nat.add_comm 1] using hrest i (by simpa using hi)
    · cases h

/-- Whatever the replies, the loop's calls are those of a prefix of the requirements, in order. -/
theorem requirementLoop_calls (mergedText sourceName : String) :
    ∀ (requirements : List RequirementPrompt) (items : List Json) (llm : LLMClient),
      ∃ k, (finalState (requirementLoop mergedText sourceName requirements items llm)).calls =
        llm.calls ++ (requirements.take k).map (requirementCall mergedText sourceName)
  | [], _, _ => ⟨0, by simp [requirementLoop, pure, EStateM.pure]⟩
  | r :: rs, items, llm => by
    rw [requirementLoop_cons]
    split
    · obtain ⟨k, hk⟩ := requirementLoop_calls mergedText sourceName rs
        (items ++ [‹_›]) { llm with calls := llm.calls ++ [requirementCall mergedText sourceName r] }
      exact ⟨k + 1, by simp [hk]⟩
    · exact ⟨1, by simp⟩

/-- The loop stops at a reply the body refuses: the calls up to it are made, and its error is
raised. -/
theorem requirementLoop_raises (mergedText sourceName : String) {e : PyError} :
    ∀ (requirements : List RequirementPrompt) (items : List Json) (llm : LLMClient) (k : Nat),
      k < requirements.length →
      (∀ i < k, isObjectOrMalformed (llm.reply (llm.calls.length + i)) = true) →
      (∀ r, requirementEvidence r (llm.reply (llm.calls.length + k)) = .error e) →
      requirementLoop mergedText sourceName requirements items llm =
        .error e { llm with calls := llm.calls ++
          (requirements.take (k + 1)).map (requirementCall mergedText sourceName) }
  | [], _, _, _, hk, _, _ => absurd hk (Nat.not_lt_zero _)
  | r :: rs, items, llm, 0, _, _, he => by
    rw [requirementLoop_cons, show llm.calls.length = llm.calls.length + 0 from rfl, he r]
    simp
  | r :: rs, items, llm, k + 1, hk, hbefore, he => by
    have h0 : isObjectOrMalformed (llm.reply llm.calls.length) = true := by
      simpa using hbefore 0 (by omega)
    rw [requirementLoop_cons, requirementEvidence_of_accepted h0]
    dsimp only
    rw [requirementLoop_raises mergedText sourceName rs _ _ k (by simpa using hk)
      (fun i hi => by simpa [Nat.add_assoc, Nat.add_comm 1] using hbefore (i + 1) (by omega))
      (fun r' => by simpa [Nat.add_assoc, Nat.add_comm 1] using he r')]
    simp [Nat.add_assoc, Nat.add_comm 1]

/-- Requirement mode returns only with documents, after one call per requirement, with one item
per requirement made from its own reply. -/
theorem analyseRequirements_ok {documents : List Document} {requirements : List RequirementPrompt}
    {llm llm' : LLMClient} {items : List Json}
    (h : analyseRequirements documents requirements llm = .ok items llm') :
    documents ≠ [] ∧
      items = requirements.mapIdx (fun i r => requirementItem r (llm.reply (llm.calls.length + i))) ∧
      llm'.calls = llm.calls ++
        requirements.map (requirementCall (concatenateDocuments documents) (sourceNames documents)) := by
  cases documents with
  | nil => cases h
  | cons doc docs =>
    simp only [analyseRequirements, List.isEmpty_cons, Bool.false_eq_true, if_false, bind,
      EStateM.bind, pure, EStateM.pure] at h
    rw [requirementLoop_accepted _ _ _ _ _ (requirementLoop_ok_accepted _ _ _ _ _ _ _ h)] at h
    cases h
    exact ⟨List.cons_ne_nil _ _, by simp, rfl⟩

/-- Requirement mode, over every requirement list and every reply. Over replies that are JSON
objects or not JSON at all: one call per requirement, in order, each in JSON mode with that
requirement's messages, and one item per requirement, made from that requirement and its own
reply; each item carries the requirement's name, id, resource kind and verdict field. And the
first reply holding an integer literal over the digit limit ends the batch: the calls up to it
are made, and `json.loads`'s `ValueError`, which the `except json.JSONDecodeError` clause does
not catch, is raised, so no item is returned. -/
theorem analyseRequirements_items (documents : List Document) (hdocs : documents ≠ [])
    (requirements : List RequirementPrompt) (llm : LLMClient) :
    ((∀ i < requirements.length,
        isObjectOrMalformed (llm.reply (llm.calls.length + i)) = true) →
      analyseRequirements documents requirements llm =
        .ok (requirements.mapIdx fun i r => requirementItem r (llm.reply (llm.calls.length + i)))
          { llm with
            calls := llm.calls ++ requirements.map
              (requirementCall (concatenateDocuments documents) (sourceNames documents)) }) ∧
    (∀ k n, k < requirements.length →
      (∀ i < k, isObjectOrMalformed (llm.reply (llm.calls.length + i)) = true) →
      Json.loads (llm.reply (llm.calls.length + k)) =
        .error (Json.intDigitsError Json.maxStrDigits n) →
      analyseRequirements documents requirements llm =
        .error (Json.intDigitsError Json.maxStrDigits n)
          { llm with
            calls := llm.calls ++ (requirements.take (k + 1)).map
              (requirementCall (concatenateDocuments documents) (sourceNames documents)) }) ∧
    ∀ (r : RequirementPrompt) (raw : String),
      (requirementItem r raw).get "title" = .ok (.str r.name) ∧
      (requirementItem r raw).get "requirementId" = .ok (.str r.id) ∧
      (requirementItem r raw).get "resourceType" = .ok (.str r.resourceType.tag) ∧
      (requirementItem r raw).get "responseField" = .ok (.str r.fieldName) := by
  have hne : documents.isEmpty = false := by cases documents <;> simp_all
  have hrun : analyseRequirements documents requirements llm = requirementLoop
      (concatenateDocuments documents) (sourceNames documents) requirements [] llm := by
    simp only [analyseRequirements, hne, bind, EStateM.bind, if_false, pure, EStateM.pure]
    rfl
  refine ⟨fun hreplies => ?_, fun k n hk hbefore hlimit => ?_,
    fun r raw => by simp [requirementItem, evidenceItem, List.lookup_cons]⟩
  · simpa [hrun] using requirementLoop_accepted _ _ requirements [] llm hreplies
  · rw [hrun]
    refine requirementLoop_raises _ _ requirements [] llm k hk hbefore fun r => ?_
    simp only [requirementEvidence, Json.loadsOr, hlimit, bind, Except.bind]
    rfl

def backupRequirement : RequirementPrompt :=
  { id := "E93", name := "Backups", prompt := "Regular data backups performed." }

/-- A JSON object whose one member is an integer of 4301 digits. -/
def longIntegerReply : String := "\x7b\"a\": 1" ++ String.mk (List.replicate 4300 '0') ++ "\x7d"

theorem analyseRequirements_long_integer_reply :
    (∃ fields, Json.loadsWith 0 longIntegerReply = .ok (.obj fields)) ∧
    Json.loads longIntegerReply = .error (Json.intDigitsError Json.maxStrDigits 4301) ∧
    analyseRequirements [⟨"policy.txt", "Backups run nightly."⟩] [backupRequirement]
        ⟨fun _ => longIntegerReply, []⟩ =
      .error (Json.intDigitsError Json.maxStrDigits 4301)
        ⟨fun _ => longIntegerReply, [requirementCall (concatenateDocuments [⟨"policy.txt", "Backups run nightly."⟩])
          (sourceNames [⟨"policy.txt", "Backups run nightly."⟩]) backupRequirement]⟩ := by
  have hzeros : ∀ c ∈ List.replicate 4300 '0', c.isDigit := fun c hc => by
    rw [List.eq_of_mem_replicate hc]; rfl
  have hlong := Json.loadsWith_int_member Json.maxStrDigits hzeros
  have hlifted := Json.loadsWith_int_member 0 hzeros
  rw [List.length_replicate, if_pos (by decide)] at hlong
  rw [if_neg (by decide)] at hlifted
  exact ⟨⟨_, hlifted⟩, hlong, (analyseRequirements_items [⟨"policy.txt", "Backups run nightly."⟩]
    (List.cons_ne_nil _ _) [backupRequirement] ⟨fun _ => longIntegerReply, []⟩).2.1 0 4301
    (by decide) (fun _ h => absurd h (Nat.not_lt_zero _)) hlong⟩

/-- A reply that decodes to a list makes `parsed.get` raise, and the batch ends there. -/
theorem analyseRequirements_list_reply_raises :
    analyseRequirements [⟨"policy.txt", "Backups run nightly."⟩]
        [{ id := "E93", name := "Backups", prompt := "Regular data backups performed." }]
        ⟨fun _ => "[]", []⟩ =
      .error (.attributeError "'list' object has no attribute 'get'")
        ⟨fun _ => "[]", [requirementCall (concatenateDocuments [⟨"policy.txt", "Backups run nightly."⟩])
          (sourceNames [⟨"policy.txt", "Backups run nightly."⟩])
          { id := "E93", name := "Backups", prompt := "Regular data backups performed." }]⟩ := rfl

/-- A `false` in the configured field falls through to the generic `fulfilled` field. -/
theorem analyseRequirements_false_verdict_overridden :
    ∃ items llm, analyseRequirements [⟨"policy.txt", "Backups run nightly."⟩]
        [{ id := "E93", name := "Backups", prompt := "Regular data backups performed." }]
        ⟨fun _ => "\x7b\"requirementMet\": false, \"fulfilled\": true\x7d", []⟩ = .ok items llm ∧
      items.map (fun item => (item.get "fulfilled").toOption) = [some (.bool true)] :=
  ⟨_, _, rfl, by decide⟩

end DocumentAnalyser
