import DocumentAnalyser.Decode
import DocumentAnalyser.Prompts

/-!
# The evidence analyser

`DocumentAnalyser.analyse` asks the model once for general evidence; `analyse_requirements`
asks it once per requirement and turns each reply into one evidence dict. The model is reached
through `LLMClient.chat`: the gateway answers the `k`-th call with `reply k`, and the calls made
stay recorded, also when a later step raises.
-/

namespace DocumentAnalyser

set_option autoImplicit false

structure AnalysisResult where
  data : Json
  rawResponse : String
  sources : List String
  deriving DecidableEq, Repr

/-- One call of `LLMClient.chat`: the messages and the `response_format` argument. -/
structure ChatCall where
  messages : List ChatMessage
  responseFormat : Option String
  deriving DecidableEq, Repr

/-- The language-model gateway: the text the provider returns to each call by number
(`message.content or ""`), and the calls made so far, in order. -/
structure LLMClient where
  reply : Nat → String
  calls : List ChatCall

/-- Computations that talk to the model. -/
abbrev AnalyserM := EStateM PyError LLMClient

/-- `self.llm.chat(messages, response_format=...)`. -/
def LLMClient.chat (messages : List ChatMessage) (responseFormat : Option String) :
    AnalyserM String := fun llm =>
  .ok (llm.reply llm.calls.length) { llm with calls := llm.calls ++ [⟨messages, responseFormat⟩] }

/-- `_parse_bool`: a bool as it is, a string by its stripped lower-case form, nothing else. -/
def parseBool : Json → Option Bool
  | .bool b => some b
  | .str s =>
    let normalized := pyLower (pyStrip s)
    if normalized ∈ ["true", "yes", "y", "1", "fulfilled"] then some true
    else if normalized ∈ ["false", "no", "n", "0", "unfulfilled", "not fulfilled"] then some false
    else none
  | _ => none

/-- `_parse_bool(parsed.get(field_name)) or _parse_bool(parsed.get("fulfilled"))`, then
`False` for `None`: the second field is read whenever the first is not `True`. -/
def verdict (configured generic : Json) : Bool :=
  match parseBool configured with
  | some true => true
  | _ => (parseBool generic).getD false

/-- The evidence dict appended for `requirement`, from the fields of the parsed reply. -/
def evidenceItem (requirement : RequirementPrompt) (parsed : List (String × Json)) : Json :=
  let get := fun key => (parsed.lookup key).getD Json.null
  .obj [
    ("title", .str requirement.name),
    ("evidence", ((get "statement").or (get "evidence")).or (.str "")),
    ("snippet", (get "snippet").or (.str "")),
    ("citation", (get "citation").or (.str "")),
    ("fulfilled", .bool (verdict (get requirement.fieldName) (get "fulfilled"))),
    ("responseField", .str requirement.fieldName),
    ("confidence", (get "confidence").or (.str "low")),
    ("requirementId", .str requirement.id),
    ("resourceType", .str requirement.resourceType.tag)]

/-- The loop body after the model has answered: a reply that is not valid JSON counts as `{}`,
a decoded value that is not a dict makes `parsed.get` raise, and the decoder's `ValueError`
escapes. -/
def requirementEvidence (requirement : RequirementPrompt) (rawResponse : String) :
    Except PyError Json := do
  match ← Json.loadsOr (.obj []) rawResponse with
  | .obj parsed => .ok (evidenceItem requirement parsed)
  | parsed => .error (parsed.noAttribute "get")

/-- The `for requirement in requirements` loop, appending to `items`. -/
def requirementLoop (mergedText sourceName : String) :
    List RequirementPrompt → List Json → AnalyserM (List Json)
  | [], items => pure items
  | requirement :: rest, items => do
    let messages := buildRequirementMessages mergedText requirement (some sourceName)
    let rawResponse ← LLMClient.chat messages (some "json")
    let item ← liftExcept (requirementEvidence requirement rawResponse)
    requirementLoop mergedText sourceName rest (items ++ [item])

/-- Run one evidence extraction per requirement. -/
def analyseRequirements (documents : List Document) (requirements : List RequirementPrompt) :
    AnalyserM (List Json) := do
  if documents.isEmpty then throw (.valueError "No documents provided for analysis.")
  requirementLoop (concatenateDocuments documents) (sourceNames documents) requirements []

/-- The data kept when the general reply is not valid JSON. -/
def degradedData : Json :=
  .obj [("document_summary", .str ""), ("evidence", .arr []), ("gaps", .arr []),
    ("parse_error", .str "Response was not valid JSON.")]

/-- Run the LLM over the documents for general evidence and parse the output. -/
def analyse (documents : List Document) (focus : Option String) (maxItems : Int) :
    AnalyserM AnalysisResult := do
  if documents.isEmpty then throw (.valueError "No documents provided for analysis.")
  let messages ← liftExcept
    (buildMessages (concatenateDocuments documents) (some (sourceNames documents)) focus maxItems)
  let rawResponse ← LLMClient.chat messages (some "json")
  let parsed ← liftExcept (Json.loadsOr degradedData rawResponse)
  return ⟨parsed, rawResponse, documents.map Document.path⟩

end DocumentAnalyser
