import DocumentAnalyser.Run
import DocumentAnalyser.BuildPayloads
import DocumentAnalyser.Cli
import Mathlib.Data.String.Basic

/-!
# Runs of the command line

What `main` does over every environment, command line and world, whatever the model answers and
the store does: which exceptions escape it, which model calls it makes, where its requests to the
evidence store go, what it prints, what the `--test-evidence` path does, and what an exit code of
0 guarantees. The command line always runs the pipeline in requirement mode, with one requirement
or the whole catalog, so these results rest on the requirement-mode run lemmas proved first here,
and all of them on one inversion lemma, `main_paths`. This module does not model `argparse`, and
it takes the model's replies and the store's answers as the world's oracles.
-/

namespace DocumentAnalyser

set_option autoImplicit false

open EvidenceStoreClient

/-! ## Runs in requirement mode -/

theorem extract_requirements_ok {documents : List Document} {focus : Option String}
    {maxItems : Int} {requirements : List RequirementPrompt} {llm llm' : LLMClient}
    {result : AnalysisResult} (hreqs : requirements ≠ [])
    (h : extract documents focus maxItems (some requirements) llm = .ok result llm') :
    ∃ items, analyseRequirements documents requirements llm = .ok items llm' ∧
      result = ⟨.obj [("document_summary", .str ""), ("evidence", .arr items), ("gaps", .arr [])],
        "", documents.map Document.path⟩ := by
  obtain ⟨r, rs, rfl⟩ := List.exists_cons_of_ne_nil hreqs
  simp only [extract, bind, EStateM.bind] at h
  split at h
  · cases h; exact ⟨_, ‹_›, rfl⟩
  · cases h

theorem extract_requirements_calls (documents : List Document) (focus : Option String)
    (maxItems : Int) {requirements : List RequirementPrompt} (hreqs : requirements ≠ [])
    (llm : LLMClient) :
    ∃ k, (finalState (extract documents focus maxItems (some requirements) llm)).calls =
      llm.calls ++ (requirements.take k).map
        (requirementCall (concatenateDocuments documents) (sourceNames documents)) := by
  obtain ⟨r, rs, rfl⟩ := List.exists_cons_of_ne_nil hreqs
  cases documents with
  | nil => exact ⟨0, by rw [extract_nil]; simp⟩
  | cons doc docs =>
    obtain ⟨k, hk⟩ := requirementLoop_calls (concatenateDocuments (doc :: docs))
      (sourceNames (doc :: docs)) (r :: rs) [] llm
    refine ⟨k, hk ▸ ?_⟩
    simp only [extract, analyseRequirements, List.isEmpty_cons, Bool.false_eq_true, if_false,
      bind, EStateM.bind, pure, EStateM.pure]
    cases requirementLoop (concatenateDocuments (doc :: docs)) (sourceNames (doc :: docs))
      (r :: rs) [] llm <;> rfl

theorem finalState_run (pipeline : DocumentAnalysisPipeline) (paths : List String)
    (focus : Option String) (maxItems : Int) (requirements : Option (List RequirementPrompt))
    (pushEvidence : Bool) (w : World) :
    finalState (pipeline.run paths focus maxItems requirements pushEvidence w) =
      match loadDocuments w.files paths with
      | .error _ => w
      | .ok documents =>
        match extract documents focus maxItems requirements w.llm with
        | .error _ llm => { w with llm := llm }
        | .ok result llm =>
          match pushEvidence, pipeline.publisher with
          | true, some config => finalState (push config result documents { w with llm := llm })
          | _, _ => { w with llm := llm } := by
  rw [run_eq]
  cases loadDocuments w.files paths with
  | error e => rfl
  | ok documents =>
    dsimp only
    cases extract documents focus maxItems requirements w.llm with
    | error e llm => rfl
    | ok result llm =>
      dsimp only
      cases pipeline.publisher with
      | none => cases pushEvidence <;> rfl
      | some config =>
        cases pushEvidence
        · rfl
        · dsimp only
          cases push config result documents { w with llm := llm } <;> rfl

/-- A run adds to the exchange log only requests of its publisher's configuration. -/
theorem run_exchanges (pipeline : DocumentAnalysisPipeline) (paths : List String)
    (focus : Option String) (maxItems : Int) (requirements : Option (List RequirementPrompt))
    (pushEvidence : Bool) (w : World) :
    ∃ sent, (finalState (pipeline.run paths focus maxItems requirements pushEvidence w)).exchanges =
        w.exchanges ++ sent ∧
      ∀ x ∈ sent, ∃ config, pipeline.publisher = some config ∧ requestOf config x.1 := by
  rw [finalState_run]
  split
  · exact ⟨[], by simp, by simp⟩
  · split
    · exact ⟨[], by simp, by simp⟩
    · split
      · rename_i config _
        obtain ⟨sent, hpush, hreq⟩ := push_exchanges config _ _ _
        exact ⟨sent, by rw [hpush], fun x hx => ⟨config, ‹_›, hreq x hx⟩⟩
      · exact ⟨[], by simp, by simp⟩

/-- In requirement mode, a run's model calls are those of a prefix of the requirements over the
loaded documents, in order; none when loading fails. -/
theorem run_calls (pipeline : DocumentAnalysisPipeline) (paths : List String)
    (focus : Option String) (maxItems : Int) {requirements : List RequirementPrompt}
    (hreqs : requirements ≠ []) (pushEvidence : Bool) (w : World) :
    (finalState (pipeline.run paths focus maxItems (some requirements) pushEvidence w)).llm = w.llm ∨
      ∃ documents k, loadDocuments w.files paths = .ok documents ∧
        (finalState (pipeline.run paths focus maxItems (some requirements) pushEvidence w)).llm.calls =
          w.llm.calls ++ (requirements.take k).map
            (requirementCall (concatenateDocuments documents) (sourceNames documents)) := by
  rw [finalState_run]
  cases hload : loadDocuments w.files paths with
  | error e => exact .inl rfl
  | ok documents =>
    obtain ⟨k, hk⟩ := extract_requirements_calls documents focus maxItems hreqs w.llm
    refine .inr ⟨documents, k, rfl, ?_⟩
    dsimp only
    cases hex : extract documents focus maxItems (some requirements) w.llm with
    | error e llm => simpa [hex] using hk
    | ok result llm =>
      rw [hex] at hk
      dsimp only
      split
      · obtain ⟨sent, hpush, -⟩ := push_exchanges _ result documents { w with llm := llm }
        rw [hpush]; exact hk
      · exact hk

/-- A requirement-mode run that returns: its documents loaded, the model called once per
requirement in order, the result holding one item per requirement made from that requirement's
own reply, and the push, when there is one, returned the count. -/
theorem run_requirements_ok {pipeline : DocumentAnalysisPipeline} {paths : List String}
    {focus : Option String} {maxItems : Int} {requirements : List RequirementPrompt}
    {pushEvidence : Bool} {w w' : World} {result : AnalysisResult} {pushed : Nat}
    (hreqs : requirements ≠ [])
    (h : pipeline.run paths focus maxItems (some requirements) pushEvidence w =
      .ok (result, pushed) w') :
    ∃ documents llm, loadDocuments w.files paths = .ok documents ∧ documents ≠ [] ∧
      llm.calls = w.llm.calls ++
        requirements.map (requirementCall (concatenateDocuments documents) (sourceNames documents)) ∧
      result = ⟨.obj [("document_summary", .str ""),
          ("evidence", .arr (requirements.mapIdx fun i r =>
            requirementItem r (w.llm.reply (w.llm.calls.length + i)))), ("gaps", .arr [])],
        "", documents.map Document.path⟩ ∧
      match pushEvidence, pipeline.publisher with
      | true, some config => push config result documents { w with llm := llm } = .ok pushed w'
      | _, _ => pushed = 0 ∧ w' = { w with llm := llm } := by
  rw [run_eq] at h
  split at h
  · cases h
  rename_i documents hload
  split at h
  · cases h
  rename_i result' llm hex
  obtain ⟨items, hitems, rfl⟩ := extract_requirements_ok hreqs hex
  obtain ⟨hdocs, rfl, hcalls⟩ := analyseRequirements_ok hitems
  refine ⟨documents, llm, hload, hdocs, hcalls, ?_⟩
  obtain ⟨publisher⟩ := pipeline
  cases publisher <;> cases pushEvidence <;> dsimp only at h ⊢
  case some.true => split at h <;> cases h; exact ⟨rfl, ‹_›⟩
  all_goals cases h; exact ⟨rfl, rfl, rfl⟩

/-- In requirement mode with a publisher, a run that returns with `push=True` has built one
payload per requirement from its result and posted them, in order, each accepted, and returns
that count. -/
theorem run_requirements_pushed {config : EvidenceStoreConfig} {paths : List String}
    {focus : Option String} {maxItems : Int} {requirements : List RequirementPrompt}
    {w w' : World} {result : AnalysisResult} {pushed : Nat} (hreqs : requirements ≠ [])
    (h : (DocumentAnalysisPipeline.mk (some config)).run paths focus maxItems (some requirements)
      true w = .ok (result, pushed) w') :
    pushed = requirements.length ∧ ∃ documents payloads sent results,
      loadDocuments w.files paths = .ok documents ∧
      buildEvidencePayloads result documents config w.stamp = .ok payloads ∧
      payloads.length = requirements.length ∧ w'.exchanges = w.exchanges ++ sent ∧
      BatchLaw config.evidenceUrl payloads (posts sent) (.ok results) := by
  obtain ⟨documents, llm, hload, hdocs, -, rfl, hpush⟩ := run_requirements_ok hreqs h
  have hpayloadable : ∀ item ∈ requirements.mapIdx
      (fun i r => requirementItem r (w.llm.reply (w.llm.calls.length + i))), payloadable item := by
    intro item hitem
    obtain ⟨i, _, rfl⟩ := List.mem_mapIdx.mp hitem
    exact requirementItem_payloadable _ _
  obtain ⟨payloads, hbuild, hlen⟩ := buildEvidencePayloads_summary hpayloadable
    (documents.map Document.path) hdocs config w.stamp
  rw [List.length_mapIdx] at hlen
  obtain ⟨rfl, sent, results, rfl, hlaw⟩ := @push_ok _ _ _ { w with llm := llm } _ _ _ hbuild hpush
  exact ⟨hlen, documents, payloads, sent, results, hload, hbuild, hlen, rfl, hlaw⟩

/-! ## Configuration -/

theorem splitFirstColon_join : ∀ l : List Char, ':' ∈ l →
    l.takeWhile (· != ':') ++ ':' :: (l.dropWhile (· != ':')).drop 1 = l
  | [], h => absurd h (List.not_mem_nil _)
  | c :: l, h => by
    by_cases hc : c = ':'
    · subst hc; simp
    · simp [List.takeWhile_cons, List.dropWhile_cons, hc]
      simpa using splitFirstColon_join l ((List.mem_cons.mp h).resolve_left (Ne.symm hc))

theorem splitFirstColon_rejoin {s : String} (h : s.contains ':' = true) :
    (splitFirstColon s).1 ++ ":" ++ (splitFirstColon s).2 = s ∧
      (splitFirstColon s).1.contains ':' = false := by
  have hmem : ':' ∈ s.data := (String.contains_iff s ':').mp h
  refine ⟨?_, ?_⟩
  · show String.mk (_ ++ [':'] ++ _) = s
    simpa using congrArg String.mk (splitFirstColon_join s.data hmem)
  · have : ':' ∉ s.toList.takeWhile (· != ':') := fun hc => by
      simpa using List.mem_takeWhile_imp hc
    exact Bool.eq_false_iff.mpr fun hc => this ((String.contains_iff _ _).mp hc)

theorem buildEvidenceConfig_ok {env : String → Option String} {args : Args}
    {config : EvidenceStoreConfig} (h : buildEvidenceConfig env args = .ok config) :
    config.tokenEndpoint = (EvidenceStoreConfig.fromEnv env).tokenEndpoint ∧
      config.evidenceUrl = rstripSlash ((given args.evidenceUrl).getD
        (EvidenceStoreConfig.fromEnv env).baseUrl) ++ (EvidenceStoreConfig.fromEnv env).evidencePath ∧
      match given args.evidenceAuth with
      | some auth => config.clientId ++ ":" ++ config.clientSecret = auth ∧
          config.clientId.contains ':' = false
      | none => config.clientId = (EvidenceStoreConfig.fromEnv env).clientId ∧
          config.clientSecret = (EvidenceStoreConfig.fromEnv env).clientSecret := by
  unfold buildEvidenceConfig at h
  cases hauth : given args.evidenceAuth with
  | none =>
    cases hu : given args.evidenceUrl <;> cases ht : given args.evidenceTargetId <;>
      cases hi : given args.evidenceToolId <;>
      simp [hauth, hu, ht, hi, bind, Except.bind, pure, Except.pure] at h <;>
      (subst h; exact ⟨rfl, rfl, rfl, rfl⟩)
  | some auth =>
    by_cases hc : auth.contains ':'
    · cases hu : given args.evidenceUrl <;> cases ht : given args.evidenceTargetId <;>
        cases hi : given args.evidenceToolId <;>
        simp [hauth, hc, hu, ht, hi, bind, Except.bind, pure, Except.pure] at h <;>
        (subst h; exact ⟨rfl, rfl, splitFirstColon_rejoin hc⟩)
    · simp [hauth, hc, bind, Except.bind, pure, Except.pure] at h

theorem publisherConfig_some {env : Env} {args : Args} {config : EvidenceStoreConfig}
    (h : publisherConfig env args = .ok (some config)) :
    buildEvidenceConfig env.getenv args = .ok config := by
  unfold publisherConfig at h
  split at h
  · cases hb : buildEvidenceConfig env.getenv args <;> simp_all [Functor.map, Except.map]
  · cases h

theorem publisherConfig_of_pushEnabled {env : Env} {args : Args}
    {publisher : Option EvidenceStoreConfig} (h : publisherConfig env args = .ok publisher)
    (hpush : pushEnabled env args = true) : ∃ config, publisher = some config := by
  unfold publisherConfig at h
  rw [if_pos hpush] at h
  cases hb : buildEvidenceConfig env.getenv args <;> simp [hb, Functor.map, Except.map] at h
  exact ⟨_, h.symm⟩

/-! ## `main` -/

/-- The requirements `main` runs: the one `--test-requirement` names, or the whole catalog; none
for an unknown id. -/
def selectedRequirements (args : Args) : Option (List RequirementPrompt) :=
  match given args.testRequirement with
  | some id => (getRequirement id).map fun requirement => [requirement]
  | none => some listRequirements

theorem selectedRequirements_ne_nil {args : Args} {requirements : List RequirementPrompt}
    (h : selectedRequirements args = some requirements) : requirements ≠ [] := by
  unfold selectedRequirements at h
  split at h
  · obtain ⟨r, -, rfl⟩ := Option.map_eq_some'.mp h
    exact List.cons_ne_nil _ _
  · cases h; exact List.cons_ne_nil _ _

/-- The session after a command-line computation, whether it returned or raised. -/
def sessionAfter {α : Type} : EStateM.Result CliError Session α → Session
  | .ok _ s => s
  | .error _ s => s

/-- Every path through `main`: an exit before the pipeline with one line on stderr and the world
as it was (code 2 exactly when there is nothing to do), an exception raised before any effect (a
`ValueError` of the model configuration, the `OSError` of an existence test, or the publisher's
configuration error once every file exists), the test send, or one run of the pipeline in
requirement mode over `Path(path)` for each given file. -/
theorem main_paths (env : Env) (args : Args) (s : Session) :
    (∃ code line, main env args s = .ok code { s with output := s.output ++ [.stderr line] } ∧
      (code = 1 ∨ code = 2) ∧ (code = 2 ↔ args.testEvidence = false ∧ args.files = [])) ∨
    (∃ e, main env args s = .error e s ∧
      ((∀ msg, e ≠ .configError msg) ∧ buildConfig env args = .error e ∨
        args.testEvidence = false ∧ (∃ e', findMissing s.world.files args.files = .error e' ∧
          e = .py e') ∨
        args.testEvidence = false ∧ findMissing s.world.files args.files = .ok none ∧
          publisherConfig env args = .error e)) ∨
    (args.testEvidence = true ∧ (∃ model, buildConfig env args = .ok model) ∧
      main env args s = sendTestEvidence env args s) ∨
    (args.testEvidence = false ∧ args.files ≠ [] ∧ ∃ publisher requirements,
      publisherConfig env args = .ok publisher ∧ selectedRequirements args = some requirements ∧
      main env args s = runAndReport publisher (args.files.map normalizePath) args requirements
        (pushEnabled env args) s) := by
  rw [main_eq]
  split
  · rename_i hearly
    exact .inl ⟨2, _, rfl, .inr rfl, iff_of_true rfl (by simpa using hearly)⟩
  rename_i hearly
  have hrefused : (1 = 2 ↔ args.testEvidence = false ∧ args.files = []) :=
    iff_of_false (by decide) fun ⟨htest, hfiles⟩ => hearly (by simp [htest, hfiles])
  cases hcfg : buildConfig env args with
  | error e =>
    cases e with
    | configError msg => exact .inl ⟨1, _, rfl, .inl rfl, hrefused⟩
    | py e => exact .inr (.inl ⟨.py e, rfl, .inl ⟨fun _ => nofun, rfl⟩⟩)
  | ok model =>
    dsimp only
    cases htest : args.testEvidence
    · have hfiles : args.files ≠ [] := by simpa [htest] using hearly
      rw [if_neg (by decide), analyseFiles_eq]
      cases hfind : findMissing s.world.files args.files with
      | error e => exact .inr (.inl ⟨.py e, rfl, .inr (.inl ⟨rfl, e, rfl, rfl⟩)⟩)
      | ok target =>
        cases target with
        | some path => exact .inl ⟨1, _, rfl, .inl rfl, htest ▸ hrefused⟩
        | none =>
          dsimp only
          cases hpub : publisherConfig env args with
          | error e => exact .inr (.inl ⟨e, rfl, .inr (.inr ⟨rfl, rfl, rfl⟩)⟩)
          | ok publisher =>
            dsimp only
            cases hid : given args.testRequirement with
            | none =>
              exact .inr (.inr (.inr ⟨rfl, hfiles, publisher, listRequirements, rfl,
                by simp [selectedRequirements, hid], rfl⟩))
            | some id =>
              dsimp only
              cases hr : getRequirement id with
              | none => exact .inl ⟨1, _, rfl, .inl rfl, htest ▸ hrefused⟩
              | some r =>
                exact .inr (.inr (.inr ⟨rfl, hfiles, publisher, [r], rfl,
                  by simp [selectedRequirements, hid, hr], rfl⟩))
    · rw [if_pos rfl]
      exact .inr (.inr (.inl ⟨rfl, ⟨model, rfl⟩, rfl⟩))

theorem runAndReport_world (publisher : Option EvidenceStoreConfig) (paths : List String)
    (args : Args) (requirements : List RequirementPrompt) (push : Bool) (s : Session) :
    (sessionAfter (runAndReport publisher paths args requirements push s)).world =
      finalState ((DocumentAnalysisPipeline.mk publisher).run paths args.focus args.maxItems
        (some requirements) push s.world) := by
  rw [runAndReport_eq]
  cases (DocumentAnalysisPipeline.mk publisher).run paths args.focus args.maxItems
    (some requirements) push s.world <;> rfl

theorem sendTestEvidence_world (env : Env) (args : Args) (s : Session) :
    (sessionAfter (sendTestEvidence env args s)).world = s.world ∨
    ∃ config, buildEvidenceConfig env.getenv args = .ok config ∧
      (sessionAfter (sendTestEvidence env args s)).world = { s.world with exchanges :=
        (runCalls [.sendEvidence (buildTestEvidencePayload config (s.world.stamp 0))]
          (create config s.world.network s.world.exchanges)).exchanges } := by
  rw [sendTestEvidence_eq]
  cases buildEvidenceConfig env.getenv args with
  | error e => exact .inl rfl
  | ok config =>
    refine .inr ⟨config, rfl, ?_⟩
    cases h : sendEvidence (buildTestEvidencePayload config (s.world.stamp 0))
      (create config s.world.network s.world.exchanges) <;>
      simp [h, runCalls, ClientCall.after, stateAfter, sessionAfter]

/-- What `main` leaves of the world: the world as it was, the world after the test send, or the
world one pipeline run leaves. -/
theorem main_world (env : Env) (args : Args) (s : Session) :
    (sessionAfter (main env args s)).world = s.world ∨
    (∃ config, buildEvidenceConfig env.getenv args = .ok config ∧
      (sessionAfter (main env args s)).world = { s.world with exchanges :=
        (runCalls [.sendEvidence (buildTestEvidencePayload config (s.world.stamp 0))]
          (create config s.world.network s.world.exchanges)).exchanges }) ∨
    ∃ publisher requirements, publisherConfig env args = .ok publisher ∧
      selectedRequirements args = some requirements ∧
      (sessionAfter (main env args s)).world =
        finalState ((DocumentAnalysisPipeline.mk publisher).run args.files args.focus args.maxItems
          (some requirements) (pushEnabled env args) s.world) := by
  rcases main_paths env args s with ⟨_, _, h, -⟩ | ⟨_, h, -⟩ | ⟨-, -, h⟩ |
    ⟨-, -, publisher, requirements, hpub, hsel, h⟩
  · exact .inl (by rw [h]; rfl)
  · exact .inl (by rw [h]; rfl)
  · rw [h]; exact (sendTestEvidence_world env args s).imp_right .inl
  · exact .inr (.inr ⟨publisher, requirements, hpub, hsel,
      by rw [h, runAndReport_world, DocumentAnalysisPipeline.run_map_normalizePath]⟩)

/-- Over every environment, command line and world, and whatever the model answers and the store
does, `main` calls the model only in requirement mode: its calls are those of a prefix of the
selected requirements, in order, each over the text of all the documents, or none at all. -/
theorem main_model_calls (env : Env) (args : Args) (s : Session) :
    (sessionAfter (main env args s)).world.llm = s.world.llm ∨
    ∃ documents requirements k, loadDocuments s.world.files args.files = .ok documents ∧
      selectedRequirements args = some requirements ∧
      (sessionAfter (main env args s)).world.llm.calls = s.world.llm.calls ++
        (requirements.take k).map
          (requirementCall (concatenateDocuments documents) (sourceNames documents)) := by
  rcases main_world env args s with h | ⟨_, -, h⟩ | ⟨_, requirements, -, hsel, h⟩
  · exact .inl (by rw [h])
  · exact .inl (by rw [h])
  · rw [h]
    rcases run_calls _ args.files args.focus args.maxItems (selectedRequirements_ne_nil hsel)
      (pushEnabled env args) s.world with h' | ⟨documents, k, hload, h'⟩
    · exact .inl h'
    · exact .inr ⟨documents, requirements, k, hload, hsel, h'⟩

theorem main_requests_of_config (env : Env) (args : Args) (s : Session) :
    ∃ sent, (sessionAfter (main env args s)).world.exchanges = s.world.exchanges ++ sent ∧
      ∀ x ∈ sent, ∃ config, buildEvidenceConfig env.getenv args = .ok config ∧
        requestOf config x.1 := by
  rcases main_world env args s with h | ⟨config, hcfg, h⟩ | ⟨publisher, _, hpub, -, h⟩
  · exact ⟨[], by rw [h]; simp, by simp⟩
  · obtain ⟨sent, hlog, hreq⟩ := runCalls_requests config s.world.network s.world.exchanges
      [.sendEvidence (buildTestEvidencePayload config (s.world.stamp 0))]
    exact ⟨sent, by rw [h, hlog], fun x hx => ⟨config, hcfg, hreq x hx⟩⟩
  · obtain ⟨sent, hlog, hreq⟩ := run_exchanges _ args.files args.focus args.maxItems _
      (pushEnabled env args) s.world
    refine ⟨sent, by rw [h, hlog], fun x hx => ?_⟩
    obtain ⟨config, hp, hx'⟩ := hreq x hx
    have hp : publisher = some config := hp
    exact ⟨config, publisherConfig_some (hp ▸ hpub), hx'⟩

/-- Where every request `main` sends goes, over every environment, command line and world: an
evidence POST to the URL built from `--evidence-url` (or the environment's base), or a token
request to the token endpoint the environment gives, which `--evidence-url` never changes,
carrying the credentials of `--evidence-auth` split at its first colon, so that they join back
to the argument and the client id holds no colon. -/
theorem main_store_requests (env : Env) (args : Args) (s : Session) :
    let base := EvidenceStoreConfig.fromEnv env.getenv
    ∃ sent, (sessionAfter (main env args s)).world.exchanges = s.world.exchanges ++ sent ∧
      ∀ x ∈ sent,
        (∃ payload token, x.1 = .evidence
          (rstripSlash ((given args.evidenceUrl).getD base.baseUrl) ++ base.evidencePath)
          payload token) ∨
        ∃ clientId clientSecret, x.1 = .tokenGrant base.tokenEndpoint
            [("grant_type", "client_credentials")] clientId clientSecret ∧
          match given args.evidenceAuth with
          | some auth => clientId ++ ":" ++ clientSecret = auth ∧ clientId.contains ':' = false
          | none => clientId = base.clientId ∧ clientSecret = base.clientSecret := by
  obtain ⟨sent, hlog, hreq⟩ := main_requests_of_config env args s
  refine ⟨sent, hlog, fun x hx => ?_⟩
  obtain ⟨config, hcfg, hx⟩ := hreq x hx
  obtain ⟨htoken, hurl, hcredentials⟩ := buildEvidenceConfig_ok hcfg
  rcases hx with hx | ⟨payload, token, hx⟩
  · exact .inr ⟨config.clientId, config.clientSecret, by rw [hx, tokenRequest, htoken], hcredentials⟩
  · exact .inl ⟨payload, token, by rw [hx, hurl]⟩

def keyEnv : Env where
  getenv := fun name => if name = "OPENAI_API_KEY" then some "sk-test" else none
  floatParses := fun _ => true
  intParses := fun _ => true

/-- One policy file, a model that answers `{}`, and a store that grants a token and accepts every
payload. -/
def acceptingWorld : World where
  files := fun path => if path = "policy.txt" then .present (.ok "Backups run nightly.") else .missing
  llm := ⟨fun _ => "\x7b\x7d", []⟩
  network := fun n =>
    if n = 0 then .response 200 "\x7b\"access_token\": \"t\"\x7d" else .response 201 "\x7b\x7d"
  exchanges := []
  stamp := fun i => ⟨s!"evidence-{i}", "2026-01-01T00:00:00Z"⟩

/-- `policy.txt --test-requirement X.1.1.9.1 --push-evidence`. -/
def pushArgs : Args where
  files := ["policy.txt"]
  focus := none
  model := none
  baseUrl := none
  apiKey := none
  maxItems := 8
  pushEvidence := true
  evidenceUrl := none
  evidenceAuth := none
  evidenceTargetId := none
  evidenceToolId := none
  testEvidence := false
  testRequirement := some "X.1.1.9.1"

/-- An exit code of 0 with pushing on is earned. Outside the test mode it means that the store
configuration was built, that the payloads built from the printed result, one per selected
requirement, were posted to the store in order and each was accepted, and that the last line
written is the count of the selected requirements, which is never 0: the "No evidence items
produced" line is never written. -/
theorem main_exit_zero_pushed {env : Env} {args : Args} {s s' : Session}
    (h : main env args s = .ok 0 s') (htest : args.testEvidence = false)
    (hpush : pushEnabled env args = true) :
    ∃ config requirements, buildEvidenceConfig env.getenv args = .ok config ∧
      selectedRequirements args = some requirements ∧ requirements ≠ [] ∧
      ∃ result documents payloads sent results,
        loadDocuments s.world.files args.files = .ok documents ∧
        buildEvidencePayloads result documents config s.world.stamp = .ok payloads ∧
        payloads.length = requirements.length ∧
        s'.world.exchanges = s.world.exchanges ++ sent ∧
        BatchLaw config.evidenceUrl payloads (posts sent) (.ok results) ∧
        s'.output = s.output ++ [.analysis result, .stderr ("Pushed " ++
          toString requirements.length ++ " evidence item(s) to the evidence store.\n")] := by
  rcases main_paths env args s with ⟨_, _, h', hne, -⟩ | ⟨_, h', -⟩ | ⟨htest', -, -⟩ |
    ⟨-, -, publisher, requirements, hpub, hsel, h'⟩
  · rw [h'] at h; cases h; simp at hne
  · rw [h'] at h; cases h
  · rw [htest] at htest'; cases htest'
  · obtain ⟨config, rfl⟩ := publisherConfig_of_pushEnabled hpub hpush
    have hreqs := selectedRequirements_ne_nil hsel
    rw [h', runAndReport_eq, DocumentAnalysisPipeline.run_map_normalizePath, hpush] at h
    split at h
    · rename_i result pushed w hrun
      cases h
      obtain ⟨rfl, documents, payloads, sent, results, hload, hbuild, hlen, hlog, hlaw⟩ :=
        run_requirements_pushed hreqs hrun
      refine ⟨config, requirements, publisherConfig_some hpub, hsel, hreqs, result, documents,
        payloads, sent, results, hload, hbuild, hlen, hlog, hlaw, ?_⟩
      simp [pushReport, hreqs]
      rfl
    · cases h

theorem main_exit_zero_pushed_accepting_store :
    ∃ s', main keyEnv pushArgs ⟨acceptingWorld, []⟩ = .ok 0 s' ∧
      ∃ config requirements, buildEvidenceConfig keyEnv.getenv pushArgs = .ok config ∧
        selectedRequirements pushArgs = some requirements ∧ requirements ≠ [] ∧
        ∃ result documents payloads sent results,
          loadDocuments acceptingWorld.files pushArgs.files = .ok documents ∧
          buildEvidencePayloads result documents config acceptingWorld.stamp = .ok payloads ∧
          payloads.length = requirements.length ∧
          s'.world.exchanges = acceptingWorld.exchanges ++ sent ∧
          BatchLaw config.evidenceUrl payloads (posts sent) (.ok results) ∧
          s'.output = [] ++ [.analysis result, .stderr ("Pushed " ++
            toString requirements.length ++ " evidence item(s) to the evidence store.\n")] :=
  ⟨_, rfl, @main_exit_zero_pushed keyEnv pushArgs ⟨acceptingWorld, []⟩ _ (by rfl) rfl rfl⟩

/-- An exit code of 0 outside the test mode means a complete analysis: every file loaded, the
model asked once per selected requirement, in order, over the text of all the documents, and
the printed result holding one evidence item per selected requirement, made from that
requirement and its own reply, with an empty summary and no gaps. -/
theorem main_exit_zero_analysis {env : Env} {args : Args} {s s' : Session}
    (h : main env args s = .ok 0 s') (htest : args.testEvidence = false) :
    ∃ documents requirements, loadDocuments s.world.files args.files = .ok documents ∧
      selectedRequirements args = some requirements ∧
      s'.world.llm.calls = s.world.llm.calls ++
        requirements.map (requirementCall (concatenateDocuments documents) (sourceNames documents)) ∧
      ∃ rest, s'.output = s.output ++ .analysis ⟨.obj [("document_summary", .str ""),
          ("evidence", .arr (requirements.mapIdx fun i r =>
            requirementItem r (s.world.llm.reply (s.world.llm.calls.length + i)))),
          ("gaps", .arr [])], "", documents.map Document.path⟩ :: rest := by
  rcases main_paths env args s with ⟨_, _, h', hc, -⟩ | ⟨_, h', -⟩ | ⟨htest', -, -⟩ |
    ⟨-, -, publisher, requirements, -, hsel, h'⟩
  · rw [h'] at h; cases h; simp at hc
  · rw [h'] at h; cases h
  · rw [htest] at htest'; cases htest'
  · rw [h', runAndReport_eq, DocumentAnalysisPipeline.run_map_normalizePath] at h
    split at h
    · rename_i result pushed w hrun
      cases h
      obtain ⟨documents, llm, hload, -, hcalls, rfl, hpush⟩ :=
        run_requirements_ok (selectedRequirements_ne_nil hsel) hrun
      refine ⟨documents, requirements, hload, hsel, ?_, _, rfl⟩
      split at hpush
      · obtain ⟨sent, hfinal, -⟩ := push_exchanges _ _ documents { s.world with llm := llm }
        rw [hpush] at hfinal
        rw [show w = _ from hfinal]
        exact hcalls
      · rw [hpush.2]; exact hcalls
    · cases h

theorem main_exit_zero_analysis_accepting_store :
    ∃ s', main keyEnv pushArgs ⟨acceptingWorld, []⟩ = .ok 0 s' ∧
      ∃ documents requirements, loadDocuments acceptingWorld.files pushArgs.files = .ok documents ∧
        selectedRequirements pushArgs = some requirements ∧
        s'.world.llm.calls = acceptingWorld.llm.calls ++
          requirements.map (requirementCall (concatenateDocuments documents) (sourceNames documents)) ∧
        ∃ rest, s'.output = [] ++ .analysis ⟨.obj [("document_summary", .str ""),
            ("evidence", .arr (requirements.mapIdx fun i r =>
              requirementItem r (acceptingWorld.llm.reply (acceptingWorld.llm.calls.length + i)))),
            ("gaps", .arr [])], "", documents.map Document.path⟩ :: rest :=
  ⟨_, rfl, @main_exit_zero_analysis keyEnv pushArgs ⟨acceptingWorld, []⟩ _ (by rfl) rfl⟩

/-- `print(result.to_json())`: the line that carries the analysis. -/
def Output.isAnalysis : Output → Bool
  | .analysis _ => true
  | _ => false

@[simp] theorem Output.isAnalysis_analysis (result : AnalysisResult) :
    (Output.analysis result).isAnalysis = true := rfl

@[simp] theorem Output.isAnalysis_stdout (text : String) : (Output.stdout text).isAnalysis = false :=
  rfl

@[simp] theorem Output.isAnalysis_stderr (text : String) : (Output.stderr text).isAnalysis = false :=
  rfl

@[simp] theorem testErrorReport_not_analysis (e : CliError) : (testErrorReport e).isAnalysis = false := by
  unfold testErrorReport
  split <;> rfl

@[simp] theorem analysisErrorReport_not_analysis (e : CliError) :
    (analysisErrorReport e).isAnalysis = false := by
  unfold analysisErrorReport
  split <;> rfl

@[simp] theorem pushReport_not_analysis (push : Bool) (pushed : Nat) :
    (pushReport push pushed).countP Output.isAnalysis = 0 := by
  unfold pushReport
  split
  · split <;> rfl
  · rfl

theorem sendTestEvidence_output {env : Env} {args : Args} {s s' : Session} {code : Nat}
    (h : sendTestEvidence env args s = .ok code s') :
    ∃ out, s'.output = s.output ++ out ∧ code ≤ 1 ∧ out.countP Output.isAnalysis = 0 := by
  rw [sendTestEvidence_eq] at h
  split at h
  · cases h; exact ⟨_, rfl, by decide, by simp⟩
  · dsimp only at h
    split at h <;> cases h <;> exact ⟨_, List.append_assoc _ _ _, by decide, by simp⟩

theorem runAndReport_output {publisher : Option EvidenceStoreConfig} {paths : List String}
    {args : Args}
    {requirements : List RequirementPrompt} {push : Bool} {s s' : Session} {code : Nat}
    (h : runAndReport publisher paths args requirements push s = .ok code s') :
    ∃ out, s'.output = s.output ++ out ∧ code ≤ 1 ∧
      out.countP Output.isAnalysis = if code = 0 then 1 else 0 := by
  rw [runAndReport_eq] at h
  split at h <;> cases h
  · exact ⟨_, rfl, by decide, by simp⟩
  · exact ⟨_, rfl, by decide, by simp⟩

/-- What `main` prints, over every run that returns: exit code 2 exactly when there are no files
and no `--test-evidence`, 1 for every refusal and every caught error, 0 on success; and the
analysis result is printed, once, exactly when the exit code is 0 outside the test mode, so a run
whose push fails prints no result. -/
theorem main_output {env : Env} {args : Args} {s s' : Session} {code : Nat}
    (h : main env args s = .ok code s') :
    ∃ out, s'.output = s.output ++ out ∧ code ≤ 2 ∧
      (code = 2 ↔ args.testEvidence = false ∧ args.files = []) ∧
      out.countP Output.isAnalysis = if code = 0 ∧ args.testEvidence = false then 1 else 0 := by
  rcases main_paths env args s with ⟨c, line, h', hc, hiff⟩ | ⟨_, h', -⟩ | ⟨htest, -, h'⟩ |
    ⟨htest, hfiles, publisher, requirements, -, -, h'⟩
  · rw [h'] at h
    cases h
    refine ⟨[.stderr line], rfl, by omega, hiff, ?_⟩
    rcases hc with rfl | rfl <;> rfl
  · rw [h'] at h; cases h
  · rw [h'] at h
    obtain ⟨out, hout, hcode, hcount⟩ := sendTestEvidence_output h
    refine ⟨out, hout, by omega, iff_of_false (by omega) (by simp [htest]), by simp [hcount, htest]⟩
  · rw [h'] at h
    obtain ⟨out, hout, hcode, hcount⟩ := runAndReport_output h
    refine ⟨out, hout, by omega, iff_of_false (by omega) (by simp [hfiles]), ?_⟩
    simp [hcount, htest]

theorem main_output_accepting_store :
    ∃ code s', main keyEnv pushArgs ⟨acceptingWorld, []⟩ = .ok code s' ∧
      ∃ out, s'.output = [] ++ out ∧ code ≤ 2 ∧
        (code = 2 ↔ pushArgs.testEvidence = false ∧ pushArgs.files = []) ∧
        out.countP Output.isAnalysis = if code = 0 ∧ pushArgs.testEvidence = false then 1 else 0 :=
  ⟨_, _, rfl, @main_output keyEnv pushArgs ⟨acceptingWorld, []⟩ _ _ (by rfl)⟩

end DocumentAnalyser
