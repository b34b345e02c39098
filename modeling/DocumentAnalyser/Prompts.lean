import DocumentAnalyser.Loaders
import DocumentAnalyser.Requirements

/-!
# Prompt builders

`build_messages` renders the general extraction, `build_requirement_messages` the exchange for
one requirement. The general builder formats the module-level name `SYSTEM_PROMPT`, which
`prompts.py` neither defines nor imports, so every call of it raises `NameError` after the user
text is assembled; its local template string is never used.
-/

namespace DocumentAnalyser

set_option autoImplicit false

/-- A chat message `{"role": …, "content": …}`. -/
structure ChatMessage where
  role : String
  content : String
  deriving DecidableEq, Repr

/-- `source_name or "document"`. -/
def contextName (sourceName : Option String) : String :=
  match sourceName with
  | some name => if name = "" then "document" else name
  | none => "document"

/-- Compose the chat messages for the LLM: raises, as `SYSTEM_PROMPT` is undefined. -/
def buildMessages (_documentText : String) (_sourceName _focus : Option String) (_maxItems : Int) :
    Except PyError (List ChatMessage) :=
  .error (.nameError "name 'SYSTEM_PROMPT' is not defined")

/-- The schema hint dict shown to the model; a requirement has no `response_schema`, so it is
always this default, with the verdict field set to `True`. -/
def schemaHint (requirement : RequirementPrompt) : Json :=
  Json.dictOf [
    ("requirementId", .str requirement.id),
    (requirement.fieldName, .bool true),
    ("snippet", .str "Verbatim quote or text excerpt proving the requirement"),
    ("citation", .str "Page number, e.g., 'Page 3' (empty if unknown)"),
    ("confidence", .str "high|medium|low")]

/-- Compose messages for a single requirement, requesting an evidence snippet. -/
def buildRequirementMessages (documentText : String) (requirement : RequirementPrompt)
    (sourceName : Option String) : List ChatMessage :=
  let systemPrompt :=
    "You are Document-Analyser. Check if the document contains the required information.\n" ++
    "Return a JSON object (not an array) with these fields:\n" ++
    (schemaHint requirement).pyStr ++ "\n" ++
    "Use camelCase keys. Do not include markdown. Set the boolean field to true if the document contains the required information, otherwise false. " ++
    "Snippet must be the quote/excerpt you used. " ++
    "Citation must be the page number (e.g., \"Page 2\") if available, otherwise empty. " ++
    "If no evidence exists, set the boolean field to false, snippet and citation to empty strings, and confidence to \"low\"."
  let userPrompt :=
    "Source: " ++ contextName sourceName ++ ".\n" ++
    "Requirement: " ++ requirement.name ++ " (" ++ requirement.id ++ ").\n" ++
    "Instruction: " ++ requirement.prompt ++ "\n\n" ++
    "Return only the JSON object."
  [⟨"system", systemPrompt⟩, ⟨"user", userPrompt ++ "\n\n" ++ documentText⟩]

end DocumentAnalyser
