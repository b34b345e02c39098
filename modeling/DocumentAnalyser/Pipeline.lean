import DocumentAnalyser.EvidenceStore

/-!
# The pipeline

`DocumentAnalysisPipeline.run` loads the documents, extracts evidence (per requirement when it
is given any, in general mode otherwise) and, when asked to and given a publisher, pushes the
payloads to the evidence store. The world it runs in holds the files the loader can read, the
model, the evidence store's network with the exchanges made with it, and the identifiers and
timestamps the payloads receive.
-/

namespace DocumentAnalyser

set_option autoImplicit false

structure World where
  files : FileSystem
  llm : LLMClient
  network : Nat → HttpOutcome
  exchanges : List (HttpRequest × HttpOutcome)
  stamp : Nat → Stamp

abbrev PipelineM := EStateM PyError World

/-- An analyser computation, run on the world's model. -/
def onModel {α : Type} (m : AnalyserM α) : PipelineM α := fun w =>
  match m w.llm with
  | .ok a llm => .ok a { w with llm := llm }
  | .error e llm => .error e { w with llm := llm }

/-- A client computation, run on a new `EvidenceStoreClient(config)` over the world's network. -/
def onNewClient {α : Type} (config : EvidenceStoreConfig) (m : ClientM α) : PipelineM α := fun w =>
  match m (EvidenceStoreClient.create config w.network w.exchanges) with
  | .ok a c => .ok a { w with exchanges := c.exchanges }
  | .error e c => .error e { w with exchanges := c.exchanges }

/-- `EvidenceExtractor.extract`: requirement mode for a non-empty requirement list. -/
def extract (documents : List Document) (focus : Option String) (maxItems : Int)
    (requirements : Option (List RequirementPrompt)) : AnalyserM AnalysisResult :=
  match requirements with
  | some (r :: rs) => do
    let evidenceItems ← analyseRequirements documents (r :: rs)
    return ⟨.obj [("document_summary", .str ""), ("evidence", .arr evidenceItems), ("gaps", .arr [])],
      "", documents.map Document.path⟩
  | _ => analyse documents focus maxItems

/-- `EvidencePublisher.push`: the number of payloads, all sent in one batch. -/
def push (config : EvidenceStoreConfig) (result : AnalysisResult) (documents : List Document) :
    PipelineM Nat := do
  let payloads ← liftExcept (buildEvidencePayloads result documents config (← get).stamp)
  if payloads.isEmpty then return 0
  let _ ← onNewClient config (EvidenceStoreClient.withClient (EvidenceStoreClient.sendBatch payloads))
  return payloads.length

/-- A pipeline and its optional publisher, given by the store configuration. -/
structure DocumentAnalysisPipeline where
  publisher : Option EvidenceStoreConfig

/-- End-to-end: load, extract, and push when asked to and a publisher is configured. -/
def DocumentAnalysisPipeline.run (pipeline : DocumentAnalysisPipeline) (paths : List String)
    (focus : Option String) (maxItems : Int) (requirements : Option (List RequirementPrompt))
    (pushEvidence : Bool) : PipelineM (AnalysisResult × Nat) := do
  let documents ← liftExcept (loadDocuments (← get).files paths)
  let result ← onModel (extract documents focus maxItems requirements)
  let pushed ← match pushEvidence, pipeline.publisher with
    | true, some config => push config result documents
    | _, _ => pure 0
  return (result, pushed)

theorem DocumentAnalysisPipeline.run_map_normalizePath (pipeline : DocumentAnalysisPipeline)
    (paths : List String) (focus : Option String) (maxItems : Int)
    (requirements : Option (List RequirementPrompt)) (pushEvidence : Bool) :
    pipeline.run (paths.map normalizePath) focus maxItems requirements pushEvidence =
      pipeline.run paths focus maxItems requirements pushEvidence := by
  simp only [DocumentAnalysisPipeline.run, loadDocuments_map_normalizePath]

end DocumentAnalyser
