import DocumentAnalyser.Extractor

/-!
# The evidence store

`build_evidence_payloads` turns evidence items into wire payloads and prunes them with
`_strip_none`; `EvidenceStoreClient` fetches an OAuth token once and submits payloads with it.
The client's `httpx.Client` is the network as seen from it: the outcome the store gives each
request, by number, and the exchanges made so far. A client method that raises leaves the
client as it was at that point, as a Python object does.
-/

namespace DocumentAnalyser

set_option autoImplicit false

structure EvidenceStoreConfig where
  baseUrl : String
  tokenEndpoint : String
  clientId : String
  clientSecret : String
  toolId : String
  targetOfEvaluationId : String
  evidencePath : String := "/v1/evidence_store/evidence"
  deriving DecidableEq, Repr

/-- `s.rstrip('/')`. -/
def rstripSlash (s : String) : String :=
  String.mk (s.toList.reverse.dropWhile (· = '/')).reverse

/-- `EvidenceStoreConfig.from_env`, reading the environment `env`; `os.getenv(a) or b` falls
back on `b` when `a` is unset or empty. -/
def EvidenceStoreConfig.fromEnv (env : String → Option String) : EvidenceStoreConfig :=
  let getenv := fun name default => (env name).getD default
  let baseUrl := ((env "EVIDENCE_STORE_BASE").filter (· != "")).getD
    (getenv "CONFIRMATE_API_BASE" "http://localhost:8080")
  { baseUrl := baseUrl
    tokenEndpoint := getenv "AUTH_TOKEN_ENDPOINT" (rstripSlash baseUrl ++ "/v1/auth/token")
    clientId := getenv "AUTH_CLIENT_ID" "clouditor"
    clientSecret := getenv "AUTH_CLIENT_SECRET" "clouditor"
    toolId := getenv "EVIDENCE_TOOL_ID" "document-analyser"
    targetOfEvaluationId := getenv "TARGET_OF_EVALUATION_ID" "00000000-0000-0000-0000-000000000000"
    evidencePath := getenv "EVIDENCE_PATH" "/v1/evidence_store/evidence" }

/-- `f"{self.base_url.rstrip('/')}{self.evidence_path}"`. -/
def EvidenceStoreConfig.evidenceUrl (config : EvidenceStoreConfig) : String :=
  rstripSlash config.baseUrl ++ config.evidencePath

namespace Json

mutual
/-- `_strip_none`: recursively remove null/empty values. A dict entry is tested before its value
is pruned, a list element after. -/
def stripNone : Json → Json
  | obj fields => obj (stripFields fields)
  | arr elems => arr (stripElems elems)
  | x => x

def stripFields : List (String × Json) → List (String × Json)
  | [] => []
  | (k, v) :: rest => if v.isPlaceholder then stripFields rest else (k, stripNone v) :: stripFields rest

def stripElems : List Json → List Json
  | [] => []
  | v :: rest =>
    if (stripNone v).isPlaceholder then stripElems rest else stripNone v :: stripElems rest
end

/-- The key a value makes in the wire payload: a string is itself; `True`, `False`, `None` and
numbers as `json.dumps` writes keys; a list or dict cannot be hashed. -/
def asKey : Json → Except PyError String
  | str s => .ok s
  | bool true => .ok "true"
  | bool false => .ok "false"
  | null => .ok "null"
  | num .nan => .ok "NaN"
  | num (.infinity false) => .ok "Infinity"
  | num (.infinity true) => .ok "-Infinity"
  | num n => .ok n.render
  | arr _ => .error (.typeError "unhashable type: 'list'")
  | obj _ => .error (.typeError "unhashable type: 'dict'")

end Json

/-- The `str(uuid4())` and the UTC timestamp a payload is given when it is built. -/
structure Stamp where
  id : String
  timestamp : String

/-- `raw`: the snippet, the citation appended on its own line when there is one. -/
def rawText (snippet citation : Json) : Json :=
  if citation.truthy then
    if snippet.truthy then .str (snippet.pyStr ++ "\nCitation: " ++ citation.pyStr)
    else .str ("Citation: " ++ citation.pyStr)
  else snippet

/-- `documents[idx % len(documents)]`. -/
def documentAt (documents : List Document) (idx : Nat) : Except PyError Document :=
  if h : 0 < documents.length then .ok (documents.get ⟨idx % documents.length, Nat.mod_lt _ h⟩)
  else .error (.zeroDivisionError "integer modulo by zero")

/-- The payload for the evidence item at `idx`, citing `doc`. -/
def evidencePayload (config : EvidenceStoreConfig) (stamp : Stamp) (idx : Nat) (doc : Document) :
    Json → Except PyError Json
  | .obj item => do
    let get := fun key => (item.lookup key).getD Json.null
    let responseField := (get "responseField").or (.str "requirementMet")
    let snippet :=
      ((((get "snippet").or (get "citation")).or (get "evidence")).or (get "statement")).or (.str "")
    let citation := (get "citation").or (.str "")
    let key ← responseField.asKey
    return Json.stripNone (.obj [
      ("id", .str stamp.id),
      ("timestamp", .str stamp.timestamp),
      ("targetOfEvaluationId", .str config.targetOfEvaluationId),
      ("toolId", .str config.toolId),
      ("resource", .obj [("genericDocument", Json.dictOf [
        ("id", .str s!"{config.toolId}:document:{idx}"),
        ("name", .str doc.name),
        ("description", (get "title").or (.str "Document evidence")),
        ("filetype", .str (String.mk ((pathSuffix doc.path).toList.dropWhile (· = '.')))),
        ("dataLocation", .obj [("localDataLocation", .obj [("path", .str doc.path)])]),
        (key, get "fulfilled"),
        ("raw", rawText snippet citation)])]),
      ("experimentalRelatedResourceIds", .arr [])])
  | item => .error (item.noAttribute "get")

/-- The `for idx, item in enumerate(evidence_items)` loop, from position `idx`. -/
def payloadLoop (config : EvidenceStoreConfig) (stamp : Nat → Stamp) (documents : List Document) :
    Nat → List Json → Except PyError (List Json)
  | _, [] => .ok []
  | idx, item :: items => do
    let doc ← documentAt documents idx
    let payload ← evidencePayload config (stamp idx) idx doc item
    let rest ← payloadLoop config stamp documents (idx + 1) items
    return payload :: rest

/-- Convert analysis output into evidence store payloads. -/
def buildEvidencePayloads (result : AnalysisResult) (documents : List Document)
    (config : EvidenceStoreConfig) (stamp : Nat → Stamp) : Except PyError (List Json) := do
  match (← result.data.get "evidence").or (.arr []) with
  | .arr items => payloadLoop config stamp documents 0 items
  | _ => pure []

/-- Construct a minimal evidence payload to validate connectivity. -/
def buildTestEvidencePayload (config : EvidenceStoreConfig) (stamp : Stamp) : Json :=
  Json.stripNone (.obj [
    ("id", .str stamp.id),
    ("timestamp", .str stamp.timestamp),
    ("targetOfEvaluationId", .str config.targetOfEvaluationId),
    ("toolId", .str config.toolId),
    ("resource", .obj [("genericDocument", .obj [
      ("id", .str s!"{config.toolId}:test-resource"),
      ("name", .str "evidence-store-ping"),
      ("description", .str "Connectivity test payload"),
      ("dataLocation", .obj [("localDataLocation", .obj [("path", .str "N/A")])]),
      ("raw", .str "ping")])]),
    ("experimentalRelatedResourceIds", .arr [])])

/-! ## The client -/

/-- What an HTTP request came back with: an `httpx.HTTPError`, or a status code and a body. -/
inductive HttpOutcome where
  | transportError (msg : String)
  | response (status : Nat) (text : String)
  deriving DecidableEq, Repr

/-- The two requests the client sends. -/
inductive HttpRequest where
  /-- `POST` of the form `data` to the token endpoint with basic auth. -/
  | tokenGrant (url : String) (data : List (String × String)) (clientId clientSecret : String)
  /-- `POST` of `json=payload` with the header `Authorization: Bearer {token}`. -/
  | evidence (url : String) (payload : Json) (token : Json)
  deriving DecidableEq, Repr

/-- `EvidenceStoreClient`: its config, the cached `_token` (`None` as `null`), and its
`httpx.Client`. -/
structure EvidenceStoreClient where
  config : EvidenceStoreConfig
  token : Json
  closed : Bool
  network : Nat → HttpOutcome
  exchanges : List (HttpRequest × HttpOutcome)

/-- `EvidenceStoreClient(config)` on a network whose log so far is `exchanges`. -/
def EvidenceStoreClient.create (config : EvidenceStoreConfig) (network : Nat → HttpOutcome)
    (exchanges : List (HttpRequest × HttpOutcome)) : EvidenceStoreClient :=
  ⟨config, .null, false, network, exchanges⟩

abbrev ClientM := EStateM PyError EvidenceStoreClient

namespace EvidenceStoreClient

/-- `self._client.post(...)`: refused once the client is closed, otherwise answered by the
network and recorded. -/
def post (request : HttpRequest) : ClientM HttpOutcome := fun c =>
  if c.closed then .error (.runtimeError "Cannot send a request, as the client has been closed.") c
  else
    let outcome := c.network c.exchanges.length
    .ok outcome { c with exchanges := c.exchanges ++ [(request, outcome)] }

/-- The token request of `_get_token`. -/
def tokenRequest (config : EvidenceStoreConfig) : HttpRequest :=
  .tokenGrant config.tokenEndpoint [("grant_type", "client_credentials")] config.clientId
    config.clientSecret

/-- What `_get_token` makes of the token endpoint's answer. -/
def tokenResult : HttpOutcome → Except PyError Json
  | .transportError msg => .error (.evidenceStoreError s!"OAuth token request failed: {msg}")
  | .response status text =>
    if 400 ≤ status then
      .error (.evidenceStoreError s!"OAuth token request failed: {status} {text}")
    else do
      let payload ← Json.loads text
      let token ← payload.get "access_token"
      if token.truthy then .ok token
      else .error (.evidenceStoreError "OAuth token response missing access_token.")

/-- `_get_token`: the cached token, or a fresh one from the token endpoint, then cached. -/
def getToken : ClientM Json := fun c =>
  if c.token.truthy then .ok c.token c
  else
    match post (tokenRequest c.config) c with
    | .error e c => .error e c
    | .ok outcome c =>
      match tokenResult outcome with
      | .ok token => .ok token { c with token := token }
      | .error e => .error e c

/-- What `send_evidence` makes of the evidence endpoint's answer. -/
def submissionResult (url : String) : HttpOutcome → Except PyError Json
  | .transportError msg => .error (.evidenceStoreError s!"Failed to send evidence to {url}: {msg}")
  | .response status text =>
    if 400 ≤ status then
      .error (.evidenceStoreError s!"Evidence store rejected payload ({status}) at {url}: {text}")
    else if status = 204 then .ok (.obj [])
    else Json.loads text

def sendEvidence (payload : Json) : ClientM Json := fun c =>
  match getToken c with
  | .error e c => .error e c
  | .ok token c =>
    match post (.evidence c.config.evidenceUrl payload token) c with
    | .error e c => .error e c
    | .ok outcome c => liftExcept (submissionResult c.config.evidenceUrl outcome) c

/-- The `for payload in payloads` loop of `send_batch`, appending to `results`. -/
def sendBatchLoop : List Json → List Json → ClientM (List Json)
  | [], results => fun c => .ok results c
  | payload :: payloads, results => fun c =>
    match sendEvidence payload c with
    | .error e c => .error e c
    | .ok r c => sendBatchLoop payloads (results ++ [r]) c

def sendBatch (payloads : List Json) : ClientM (List Json) := sendBatchLoop payloads []

def close : ClientM Unit := modify fun c => { c with closed := true }

/-- `with EvidenceStoreClient(config) as client: body`: the client is closed however `body`
ends. -/
def withClient {α : Type} (body : ClientM α) : ClientM α := fun c =>
  match body c with
  | .ok a c => .ok a { c with closed := true }
  | .error e c => .error e { c with closed := true }

end EvidenceStoreClient

end DocumentAnalyser
