import DocumentAnalyser.StripNone
import DocumentAnalyser.RequirementAnalysis

/-!
# The resource of an evidence payload

`build_evidence_payloads` puts each evidence item's verdict into the payload's resource, under
the key the item's `responseField` names, then prunes the payload. The resource is always a
`genericDocument`, whatever kind the requirement targets, and its dict display sets `raw` after
the verdict, so a verdict field named `raw` is overwritten by the snippet. The snippet falls back
to the citation before `evidence` and `statement`, so an item with a citation and no snippet gets
its citation twice in `raw`.
-/

namespace DocumentAnalyser

set_option autoImplicit false

open Json

theorem rawText_isPlaceholder {snippet : Json} (citation : Json) (h : snippet.isPlaceholder = false) :
    (rawText snippet citation).isPlaceholder = false := by
  unfold rawText
  split
  · split <;> rfl
  · exact h

/-- The fields of a dict item's `genericDocument`, as the payload's dict display sets them and
pruning leaves them: `raw` holds the merged snippet and citation; `id`, `name` and `dataLocation`
hold the document's values unless the item's `responseField` names them; and the field it names,
unless it is `raw`, holds the verdict pruned, or is gone when the verdict is a placeholder. -/
theorem evidencePayload_resource_fields (config : EvidenceStoreConfig) (stamp : Stamp) (idx : Nat)
    (doc : Document) {item : List (String × Json)} {key : String}
    (hkey : (((item.lookup "responseField").getD .null).or (.str "requirementMet")).asKey = .ok key) :
    let get := fun k => (item.lookup k).getD Json.null
    ∃ payload, evidencePayload config stamp idx doc (.obj item) = .ok payload ∧
      ∃ fields, payload.get "resource" = .ok (.obj [("genericDocument", .obj fields)]) ∧
        fields.lookup "raw" = some (stripNone (rawText
          (((((get "snippet").or (get "citation")).or (get "evidence")).or (get "statement")).or
            (.str "")) ((get "citation").or (.str "")))) ∧
        (key ≠ "id" → fields.lookup "id" = some (.str s!"{config.toolId}:document:{idx}")) ∧
        (key ≠ "name" → fields.lookup "name" = some (.str doc.name)) ∧
        (key ≠ "dataLocation" → fields.lookup "dataLocation" =
          some (.obj [("localDataLocation", .obj [("path", .str doc.path)])])) ∧
        (key ≠ "raw" → fields.lookup key = pruned (get "fulfilled")) := by
  intro get
  simp only [evidencePayload, hkey, bind, Except.bind, pure, Except.pure]
  refine ⟨_, rfl, ?_⟩
  simp [dictOf, isPlaceholder_iff, setField_ne_nil, List.lookup_cons, lookup_stripFields_of_nodup]
  refine ⟨by simp [pruned, get, rawText_isPlaceholder _ (isPlaceholder_or_str _ _)], ?_, ?_, ?_,
    fun h => by simp [lookup_setField_of_ne _ _ (Ne.symm h), get]⟩ <;>
  · intro h
    simp [lookup_setField_of_ne _ _ h, lookup_setField_of_ne, pruned, isPlaceholder, stripNone]

/-- The payload of an evidence dict: its resource is one `genericDocument` object, which holds
the dict's `fulfilled` value, pruned, under the key the dict's `responseField` names. -/
theorem evidencePayload_resource (config : EvidenceStoreConfig) (stamp : Stamp) (idx : Nat)
    (doc : Document) {item : Json} {responseField verdict : Json} {key : String}
    (hfield : item.get "responseField" = .ok responseField)
    (hkey : (responseField.or (.str "requirementMet")).asKey = .ok key) (hraw : key ≠ "raw")
    (hverdict : item.get "fulfilled" = .ok verdict) (hkept : verdict.isPlaceholder = false) :
    ∃ payload, evidencePayload config stamp idx doc item = .ok payload ∧
      ∃ fields, payload.get "resource" = .ok (.obj [("genericDocument", .obj fields)]) ∧
        fields.lookup key = some (stripNone verdict) := by
  cases item with
  | obj item =>
    simp only [get_obj, Except.ok.injEq] at hfield hverdict
    subst hfield hverdict
    obtain ⟨payload, hpayload, fields, hresource, -, -, -, -, hv⟩ :=
      evidencePayload_resource_fields config stamp idx doc hkey
    exact ⟨payload, hpayload, fields, hresource, (hv hraw).trans (by simp [pruned, hkept])⟩
  | _ => cases hverdict

/-- The payload made from the item a requirement's reply gives: its resource is one object,
under `genericDocument` whatever kind the requirement targets, and it holds the item's bool
verdict under the requirement's verdict field, the item's `responseField` and a key of the schema
hint the model was shown, as long as that field is not `raw`. -/
theorem requirement_payload_resource (r : RequirementPrompt) (raw : String)
    (config : EvidenceStoreConfig) (stamp : Stamp) (idx : Nat) (doc : Document)
    (hraw : r.fieldName ≠ "raw") :
    ∃ payload, evidencePayload config stamp idx doc (requirementItem r raw) = .ok payload ∧
      ∃ fields b, payload.get "resource" = .ok (.obj [("genericDocument", .obj fields)]) ∧
        (requirementItem r raw).get "fulfilled" = .ok (.bool b) ∧
        fields.lookup r.fieldName = some (.bool b) ∧
        (requirementItem r raw).get "responseField" = .ok (.str r.fieldName) ∧
        ∃ hint, schemaHint r = .obj hint ∧ (hint.lookup r.fieldName).isSome := by
  have hname : (Json.str r.fieldName).truthy = true := by
    simpa [Json.truthy] using r.fieldName_ne_empty
  have hfield : (requirementItem r raw).get "responseField" = .ok (.str r.fieldName) := by
    simp [requirementItem, evidenceItem, List.lookup_cons]
  obtain ⟨b, hb⟩ : ∃ b, (requirementItem r raw).get "fulfilled" = .ok (.bool b) :=
    ⟨_, by simp [requirementItem, evidenceItem, List.lookup_cons]; rfl⟩
  obtain ⟨payload, hpayload, fields, hresource, hverdict⟩ := evidencePayload_resource config stamp
    idx doc hfield (by simp [hname, Json.asKey]) hraw hb rfl
  refine ⟨payload, hpayload, fields, b, hresource, hb, hverdict, hfield, _, rfl, ?_⟩
  simp only [dictOf, List.foldl_cons, List.foldl_nil]
  exact lookup_setField_isSome _ _ (lookup_setField_isSome _ _ (lookup_setField_isSome _ _ (by simp)))

/-- The catalog's requirement X.1.1.13 targets `data`, and its payload's resource is a
`genericDocument`. -/
theorem requirement_payload_resource_catalog_data :
    ∃ r, getRequirement "X.1.1.13" = some r ∧ r.resourceType.tag = "data" ∧ r.fieldName ≠ "raw" ∧
      ∃ payload, evidencePayload (EvidenceStoreConfig.fromEnv fun _ => none)
          ⟨"evidence-0", "2026-01-01T00:00:00Z"⟩ 0 ⟨"policy.txt", "Backups run nightly."⟩
          (requirementItem r "{}") = .ok payload ∧
        ∃ fields b, payload.get "resource" = .ok (.obj [("genericDocument", .obj fields)]) ∧
          (requirementItem r "{}").get "fulfilled" = .ok (.bool b) ∧
          fields.lookup r.fieldName = some (.bool b) ∧
          (requirementItem r "{}").get "responseField" = .ok (.str r.fieldName) ∧
          ∃ hint, schemaHint r = .obj hint ∧ (hint.lookup r.fieldName).isSome :=
  ⟨_, rfl, rfl, by decide, requirement_payload_resource _ "{}" _ _ 0 _ (by decide)⟩

/-- A dict item with a falsy `snippet` and a truthy `citation`: the snippet's fallback chain takes
the citation, so `raw` holds the citation twice and the `Citation: …` branch is never taken. -/
theorem evidencePayload_citation_only_raw (config : EvidenceStoreConfig) (stamp : Stamp)
    (idx : Nat) (doc : Document) {item : List (String × Json)} {key : String}
    (hkey : (((item.lookup "responseField").getD .null).or (.str "requirementMet")).asKey = .ok key)
    (hsnippet : ((item.lookup "snippet").getD .null).truthy = false)
    (hcitation : ((item.lookup "citation").getD .null).truthy = true) :
    let c := ((item.lookup "citation").getD .null).pyStr
    ∃ payload, evidencePayload config stamp idx doc (.obj item) = .ok payload ∧
      ∃ fields, payload.get "resource" = .ok (.obj [("genericDocument", .obj fields)]) ∧
        fields.lookup "raw" = some (.str (c ++ "\nCitation: " ++ c)) := by
  obtain ⟨payload, hpayload, fields, hresource, hraw, -⟩ :=
    evidencePayload_resource_fields config stamp idx doc hkey
  refine ⟨payload, hpayload, fields, hresource, ?_⟩
  simp only [hraw, or_of_not_truthy hsnippet, or_of_truthy hcitation, rawText, hcitation, if_true]
  rfl

theorem evidencePayload_citation_page_raw :
    ∃ payload, evidencePayload (EvidenceStoreConfig.fromEnv fun _ => none)
        ⟨"evidence-0", "2026-01-01T00:00:00Z"⟩ 0 ⟨"policy.txt", "Backups run nightly."⟩
        (.obj [("citation", .str "Page 3")]) = .ok payload ∧
      ∃ fields, payload.get "resource" = .ok (.obj [("genericDocument", .obj fields)]) ∧
        fields.lookup "raw" = some (.str "Page 3\nCitation: Page 3") :=
  evidencePayload_citation_only_raw _ _ 0 _ rfl rfl rfl

end DocumentAnalyser
