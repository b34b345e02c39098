import DocumentAnalyser.Pipeline

/-!
# The command line

`cli.main` after `argparse`: it checks that there is something to do, builds the model
configuration from the environment, and then either sends one test payload to the evidence store
or checks that every file exists, builds the publisher's configuration, picks the requirements
and runs the pipeline on `Path(path)` for each file, turning what it raises into an exit code and
a line on stderr. The existence test itself is outside every `try`: an `OSError` it raises
escapes `main`. The process environment
is an oracle, and so is whether Python's `float()` and `int()` accept the two numeric variables
`ModelConfig.from_env` converts. What `main` writes is kept as a list of `Output`s; the text of
`result.to_json()` and of an exception whose message the model does not carry is left to the
`Output` that names it.
-/

namespace DocumentAnalyser

set_option autoImplicit false

open EvidenceStoreClient

/-! ## Configuration -/

/-- What can leave `main`: an exception of the modelled library code, or `ConfigError`. -/
inductive CliError where
  | py (e : PyError)
  | configError (msg : String)
  deriving DecidableEq, Repr

/-- The process environment, and whether `float(text)` and `int(text)` return for a text. -/
structure Env where
  getenv : String → Option String
  floatParses : String → Bool
  intParses : String → Bool

/-- `a or b` on two optional strings: `a` unless it is `None` or empty. -/
def orElse (a b : Option String) : Option String :=
  match a with
  | some s => if s = "" then b else a
  | none => b

/-- `if value:` on an optional string: the value when it is neither `None` nor empty. -/
def given (value : Option String) : Option String := value.filter (· != "")

/-- `ModelConfig`; its `temperature` and `max_tokens` only shape the model's requests. -/
structure ModelConfig where
  apiKey : String
  model : String
  baseUrl : Option String
  deriving DecidableEq, Repr

/-- `ModelConfig.from_env`: an API key or a base URL is required, a missing key becomes
`"not-set"`, and the two numeric variables, when set, must convert. -/
def ModelConfig.fromEnv (env : Env) : Except CliError ModelConfig := do
  let apiKey := orElse (env.getenv "DOC_ANALYSER_API_KEY") (env.getenv "OPENAI_API_KEY")
  let baseUrl := orElse (env.getenv "DOC_ANALYSER_BASE_URL") (env.getenv "OPENAI_BASE_URL")
  if (given apiKey).isNone && (given baseUrl).isNone then
    throw (.configError "API key missing. Set OPENAI_API_KEY (or DOC_ANALYSER_API_KEY) or provide a DOC_ANALYSER_BASE_URL/OPENAI_BASE_URL for a local model.")
  let model := (env.getenv "DOC_ANALYSER_MODEL").getD "gpt-4o-mini"
  if let some text := env.getenv "DOC_ANALYSER_TEMPERATURE" then
    if !env.floatParses text then
      throw (.py (.valueError ("could not convert string to float: " ++ reprString text)))
  if let some text := env.getenv "DOC_ANALYSER_MAX_TOKENS" then
    if !env.intParses text then
      throw (.py (.valueError ("invalid literal for int() with base 10: " ++ reprString text)))
  return ⟨(given apiKey).getD "not-set", model, baseUrl⟩

/-- The parsed command line. `--all-requirements` is parsed but never read. -/
structure Args where
  files : List String
  focus : Option String
  model : Option String
  baseUrl : Option String
  apiKey : Option String
  maxItems : Int
  pushEvidence : Bool
  evidenceUrl : Option String
  evidenceAuth : Option String
  evidenceTargetId : Option String
  evidenceToolId : Option String
  testEvidence : Bool
  testRequirement : Option String

/-- `build_config`: the environment's configuration with the command line's overrides. -/
def buildConfig (env : Env) (args : Args) : Except CliError ModelConfig := do
  let config ← ModelConfig.fromEnv env
  let config := match given args.model with
    | some model => { config with model }
    | none => config
  let config := match given args.baseUrl with
    | some url => { config with baseUrl := some url }
    | none => config
  return match given args.apiKey with
    | some key => { config with apiKey := key }
    | none => config

/-- `s.split(":", 1)` for an `s` that holds a colon: the text before the first colon and the text
after it. -/
def splitFirstColon (s : String) : String × String :=
  (String.mk (s.toList.takeWhile (· != ':')), String.mk ((s.toList.dropWhile (· != ':')).drop 1))

/-- `build_evidence_config`: the environment's store configuration with the command line's
overrides. Only `base_url` is replaced by `--evidence-url`; the token endpoint stays the one
`from_env` derived. -/
def buildEvidenceConfig (env : String → Option String) (args : Args) :
    Except CliError EvidenceStoreConfig := do
  let config := EvidenceStoreConfig.fromEnv env
  let config := match given args.evidenceUrl with
    | some url => { config with baseUrl := url }
    | none => config
  let config ← match given args.evidenceAuth with
    | some auth =>
      if auth.contains ':' then
        pure { config with clientId := (splitFirstColon auth).1,
                           clientSecret := (splitFirstColon auth).2 }
      else throw (.configError "Evidence auth must be in client_id:client_secret format.")
    | none => pure config
  let config := match given args.evidenceTargetId with
    | some id => { config with targetOfEvaluationId := id }
    | none => config
  return match given args.evidenceToolId with
    | some id => { config with toolId := id }
    | none => config

/-- `os.getenv("EVIDENCE_AUTO_PUSH", "").lower() in {"1", "true", "yes", "on"}`. -/
def autoPush (env : Env) : Bool :=
  ["1", "true", "yes", "on"].contains (pyLower ((env.getenv "EVIDENCE_AUTO_PUSH").getD ""))

/-- `args.push_evidence or auto_push`. -/
def pushEnabled (env : Env) (args : Args) : Bool := args.pushEvidence || autoPush env

/-- `EvidencePublisher(build_evidence_config(args))` when pushing is on, else `None`. -/
def publisherConfig (env : Env) (args : Args) : Except CliError (Option EvidenceStoreConfig) :=
  if pushEnabled env args then some <$> buildEvidenceConfig env.getenv args else .ok none

/-! ## `main` -/

/-- A line `main` writes. -/
inductive Output where
  /-- `print(text)`. -/
  | stdout (text : String)
  /-- `print(result.to_json())`. -/
  | analysis (result : AnalysisResult)
  /-- `sys.stderr.write(text)`. -/
  | stderr (text : String)
  /-- `sys.stderr.write(f"{lead}{exc}\n")`. -/
  | stderrError (lead : String) (e : CliError)

/-- The world `main` acts on and what it has written so far. -/
structure Session where
  world : World
  output : List Output

abbrev CliM := EStateM CliError Session

def writeAll (lines : List Output) : CliM Unit := modify fun s => { s with output := s.output ++ lines }

def write (line : Output) : CliM Unit := writeAll [line]

@[simp] theorem writeAll_apply (lines : List Output) (s : Session) :
    writeAll lines s = .ok () { s with output := s.output ++ lines } := rfl

@[simp] theorem write_apply (line : Output) (s : Session) :
    write line s = .ok () { s with output := s.output ++ [line] } := rfl

def liftCli {α : Type} : Except CliError α → CliM α
  | .ok a => pure a
  | .error e => throw e

/-- A computation of the library on the session's world; what it raises is raised on. -/
def onWorld {α : Type} (m : PipelineM α) : CliM α := fun s =>
  match m s.world with
  | .ok a w => .ok a { s with world := w }
  | .error e w => .error (.py e) { s with world := w }

/-- The report of the `except` clauses around the test send. -/
def testErrorReport : CliError → Output
  | .py (.evidenceStoreError msg) => .stderr s!"Evidence store error during test: {msg}\n"
  | e => .stderrError "Unexpected error during test evidence send: " e

/-- The `--test-evidence` branch: one test payload through a new client, then exit. The payload's
`uuid4()` and timestamp are the world's first stamp. -/
def sendTestEvidence (env : Env) (args : Args) : CliM Nat := do
  match buildEvidenceConfig env.getenv args with
  | .error e =>
    write (testErrorReport e)
    return 1
  | .ok config =>
    let payload := buildTestEvidencePayload config ((← get).world.stamp 0)
    write (.stdout ("payload: " ++ payload.pyStr))
    tryCatch (do
        let _ ← onWorld (onNewClient config
          (EvidenceStoreClient.withClient (EvidenceStoreClient.sendEvidence payload)))
        write (.stderr "Test evidence sent successfully.\n")
        return 0)
      fun e => do
        write (testErrorReport e)
        return 1

theorem sendTestEvidence_eq (env : Env) (args : Args) (s : Session) :
    sendTestEvidence env args s =
      match buildEvidenceConfig env.getenv args with
      | .error e => .ok 1 { s with output := s.output ++ [testErrorReport e] }
      | .ok config =>
        let payload := buildTestEvidencePayload config (s.world.stamp 0)
        let shown := s.output ++ [.stdout ("payload: " ++ payload.pyStr)]
        match sendEvidence payload (create config s.world.network s.world.exchanges) with
        | .ok _ c => .ok 0 ⟨{ s.world with exchanges := c.exchanges },
            shown ++ [.stderr "Test evidence sent successfully.\n"]⟩
        | .error e c => .ok 1 ⟨{ s.world with exchanges := c.exchanges },
            shown ++ [testErrorReport (.py e)]⟩ := by
  unfold sendTestEvidence
  cases buildEvidenceConfig env.getenv args with
  | error e => rfl
  | ok config =>
    simp only [bind, EStateM.bind, get, getThe, MonadStateOf.get, EStateM.get, write_apply,
      tryCatch, tryCatchThe, MonadExceptOf.tryCatch, EStateM.tryCatch, onWorld, onNewClient,
      withClient]
    cases sendEvidence (buildTestEvidencePayload config (s.world.stamp 0))
      (create config s.world.network s.world.exchanges) <;> rfl

/-- What `main` writes after a run that returned: the push count when pushing is on. -/
def pushReport (pushEnabled : Bool) (pushed : Nat) : List Output :=
  if pushEnabled then
    if pushed ≠ 0 then [.stderr s!"Pushed {pushed} evidence item(s) to the evidence store.\n"]
    else [.stderr "No evidence items produced; skipping evidence store push.\n"]
  else []

/-- The report of the `except` clauses around `pipeline.run`. -/
def analysisErrorReport : CliError → Output
  | .py (.evidenceStoreError msg) => .stderr s!"Evidence store error: {msg}\n"
  | .py (.fileNotFoundError msg) => .stderr s!"{msg}\n"
  | e => .stderrError "Unexpected error during analysis: " e

/-- The `try` around `pipeline.run` on the document paths: the result and the count pushed, or
the exception's report. -/
def runAndReport (publisher : Option EvidenceStoreConfig) (paths : List String) (args : Args)
    (requirements : List RequirementPrompt) (pushEnabled : Bool) : CliM Nat :=
  tryCatch (do
      let (result, pushed) ← onWorld ((DocumentAnalysisPipeline.mk publisher).run paths
        args.focus args.maxItems (some requirements) pushEnabled)
      writeAll (.analysis result :: pushReport pushEnabled pushed)
      return 0)
    fun e => do
      write (analysisErrorReport e)
      return 1

theorem runAndReport_eq (publisher : Option EvidenceStoreConfig) (paths : List String) (args : Args)
    (requirements : List RequirementPrompt) (push : Bool) (s : Session) :
    runAndReport publisher paths args requirements push s =
      match (DocumentAnalysisPipeline.mk publisher).run paths args.focus args.maxItems
          (some requirements) push s.world with
      | .ok (result, pushed) w => .ok 0 ⟨w, s.output ++ .analysis result :: pushReport push pushed⟩
      | .error e w => .ok 1 ⟨w, s.output ++ [analysisErrorReport (.py e)]⟩ := by
  unfold runAndReport
  simp only [tryCatch, tryCatchThe, MonadExceptOf.tryCatch, EStateM.tryCatch, bind, EStateM.bind,
    onWorld]
  cases (DocumentAnalysisPipeline.mk publisher).run paths args.focus args.maxItems
    (some requirements) push s.world <;> rfl

/-- The `for path in args.files` check: `Path(path)` of the first path that does not exist, or
none; `Path.exists()` raises what it does not swallow. -/
def findMissing (fs : FileSystem) : List String → Except PyError (Option String)
  | [] => .ok none
  | path :: paths => do
    if ← pathExists fs path then findMissing fs paths else return some (normalizePath path)

/-- The analysis branch: every file must exist; the publisher's configuration errors are not
caught; one requirement by id, or the whole catalog; the run gets `Path(path)` for each file. -/
def analyseFiles (env : Env) (args : Args) : CliM Nat := do
  if let some target ← liftCli ((findMissing (← get).world.files args.files).mapError .py) then
    write (.stderr s!"Document not found: {target}\n")
    return 1
  let publisher ← liftCli (publisherConfig env args)
  let docPaths := args.files.map normalizePath
  match given args.testRequirement with
  | some id =>
    match getRequirement id with
    | some requirement => runAndReport publisher docPaths args [requirement] (pushEnabled env args)
    | none =>
      write (.stderr s!"Unknown requirement ID: {id}\n")
      return 1
  | none => runAndReport publisher docPaths args listRequirements (pushEnabled env args)

theorem analyseFiles_eq (env : Env) (args : Args) (s : Session) :
    analyseFiles env args s =
      match findMissing s.world.files args.files with
      | .error e => .error (.py e) s
      | .ok (some target) =>
        .ok 1 { s with output := s.output ++ [.stderr s!"Document not found: {target}\n"] }
      | .ok none =>
        match publisherConfig env args with
        | .error e => .error e s
        | .ok publisher =>
          match given args.testRequirement with
          | some id =>
            match getRequirement id with
            | some requirement => runAndReport publisher (args.files.map normalizePath) args
                [requirement] (pushEnabled env args) s
            | none => .ok 1 { s with output := s.output ++ [.stderr s!"Unknown requirement ID: {id}\n"] }
          | none =>
            runAndReport publisher (args.files.map normalizePath) args listRequirements
              (pushEnabled env args) s := by
  unfold analyseFiles
  simp only [bind, EStateM.bind, get, getThe, MonadStateOf.get, EStateM.get]
  cases findMissing s.world.files args.files with
  | error e => rfl
  | ok target =>
    cases target with
    | some target => rfl
    | none =>
      cases publisherConfig env args with
      | error e => rfl
      | ok publisher =>
        cases given args.testRequirement with
        | some id => dsimp only; cases getRequirement id <;> rfl
        | none => rfl

/-- `main` after argument parsing: the exit code, or the exception that escapes it. -/
def main (env : Env) (args : Args) : CliM Nat := do
  if !args.testEvidence && args.files.isEmpty then
    write (.stderr "No files provided. Specify one or more files, or use --test-evidence.\n")
    return 2
  match buildConfig env args with
  | .error (.configError msg) =>
    write (.stderr s!"Configuration error: {msg}\n")
    return 1
  | .error e => throw e
  | .ok _ => if args.testEvidence then sendTestEvidence env args else analyseFiles env args

theorem main_eq (env : Env) (args : Args) (s : Session) :
    main env args s =
      if !args.testEvidence && args.files.isEmpty then
        .ok 2 { s with output := s.output ++
          [.stderr "No files provided. Specify one or more files, or use --test-evidence.\n"] }
      else
        match buildConfig env args with
        | .error (.configError msg) =>
          .ok 1 { s with output := s.output ++ [.stderr s!"Configuration error: {msg}\n"] }
        | .error e => .error e s
        | .ok _ => if args.testEvidence then sendTestEvidence env args s else analyseFiles env args s := by
  unfold main
  by_cases h : (!args.testEvidence && args.files.isEmpty) = true
  · rw [if_pos h, if_pos h]; rfl
  · rw [if_neg h, if_neg h]
    show EStateM.bind (pure ()) _ s = _
    cases buildConfig env args with
    | error e => cases e <;> rfl
    | ok => exact apply_ite (fun m : CliM Nat => m s) _ _ _

end DocumentAnalyser
