import Mathlib.Logic.Relation
import Aidlc.Foundation.Protobuf
import Aidlc.A2a.Gates
import Aidlc.Orchestration.Workflow

/-! # Honest approvals

A draft is hashed twice: by the hub, as it came out of a message, and by its
agent, as it comes out of the stored task. The continuation is compared with the
request as both came out of their messages. Nothing changes on a second passage,
so a decision on the draft that the hub stored is always taken for what it is.
-/

namespace Aidlc

open Foundation

/-- JSON through a message; an integer that is too large for a double raises. -/
def passThrough (value : Json) : Except PyError Json :=
  match Protobuf.passage value with
  | some passed => .ok passed
  | none => .error ⟨.overflowError, "int too large to convert to float"⟩

theorem passThrough_eq_ok {value passed : Json} :
    passThrough value = .ok passed ↔ Protobuf.passage value = some passed := by
  unfold passThrough
  cases Protobuf.passage value <;> simp

/-- The agents of a platform, behind messages that hold JSON as `Value`. -/
def Platform.agents (platform : Platform) (fingerprint : AgentMessage → String) :
    AgentPlatform where
  sha256 := platform.sha256
  fingerprint
  wire := passThrough

/-! ## Requests -/

def StageName.ofValue? (text : String) : Option StageName :=
  stageOrder.find? fun stage => stage.value == text

theorem StageName.ofValue?_value (stage : StageName) : ofValue? stage.value = some stage := by
  cases stage <;> decide

def dict? : Json → Option Json
  | .obj fields => some (.obj fields)
  | _ => none

/-- A field that may be null. -/
def nullable? {α : Type} (read : Json → Option α) : Option Json → Option (Option α)
  | none | some .null => some none
  | some value => (read value).map some

section

variable (platform : Platform)

/-- Everything of a context but the human response, from integers and texts as a
dump has them. -/
def AgentContext.readRequest (document : Json) : Option (AgentContext Json) := do
  let runId ← (document.get? "run_id").bind Json.str?
  let idea ← (document.get? "idea").bind Json.str?
  let stage ← ((document.get? "stage").bind Json.str?).bind StageName.ofValue?
  let items ← ((document.get? "artifacts").getD (.arr [])).arr?
  let artifacts ← items.mapM dict?
  let retryAttempt ← ((document.get? "retry_attempt").getD (.int 0)).nat?
  let repairAttempt ← ((document.get? "repair_attempt").getD (.int 0)).nat?
  let repairFeedback ← nullable? dict? (document.get? "repair_feedback")
  let repairArtifactId ← nullable? Json.nat? (document.get? "repair_artifact_id")
  let repairArtifactSha256 ← nullable? Json.str? (document.get? "repair_artifact_sha256")
  -- `resolve_project`
  let projectId ← ((document.get? "project_id").getD (.str "")).str?
  guard (projectId = "" ∨ projectId = platform.projectIdForRun runId)
  return { runId, idea, stage, artifacts, retryAttempt, humanResponse := none, repairAttempt,
           repairFeedback, repairArtifactId, repairArtifactSha256 }

/-- `AgentContext.model_validate` -/
def AgentContext.modelValidate (document : Json) : Except PyError (AgentContext Json) :=
  match readRequest platform document, nullable? dict? (document.get? "human_response") with
  | some context, some humanResponse => .ok { context with humanResponse }
  | _, _ => .error ⟨.validationError, "validation error for AgentContext"⟩

/-- A context as its agent receives it. -/
def AgentContext.receive (context : AgentContext Json) : Except PyError (AgentContext Json) :=
  (passThrough (context.modelDump platform)).bind (AgentContext.modelValidate platform)

variable {platform}

/-- The human response is no part of the request. -/
theorem AgentContext.readRequest_congr {first second : Json}
    (hsame : ∀ key, key ≠ "human_response" → first.get? key = second.get? key) :
    readRequest platform first = readRequest platform second := by
  unfold readRequest
  rw [hsame "run_id" (by decide), hsame "idea" (by decide), hsame "stage" (by decide),
    hsame "artifacts" (by decide), hsame "retry_attempt" (by decide),
    hsame "repair_attempt" (by decide), hsame "repair_feedback" (by decide),
    hsame "repair_artifact_id" (by decide), hsame "repair_artifact_sha256" (by decide),
    hsame "project_id" (by decide)]

theorem AgentContext.modelValidate_eq_ok {document : Json} {context : AgentContext Json} :
    modelValidate platform document = .ok context ↔
      ∃ request, readRequest platform document = some request ∧
        nullable? dict? (document.get? "human_response") = some context.humanResponse ∧
        context = { request with humanResponse := context.humanResponse } := by
  unfold modelValidate
  constructor
  · intro hvalid
    split at hvalid
    · rename_i request response hrequest hresponse
      cases hvalid
      exact ⟨request, hrequest, hresponse, rfl⟩
    · cases hvalid
  · rintro ⟨request, hrequest, hresponse, hcontext⟩
    rw [hrequest, hresponse, hcontext]

variable (platform) in
/-- A dump around the human response. -/
theorem AgentContext.modelDump_split (context : AgentContext Json) :
    ∃ before after, before.lookup "human_response" = none ∧
      ∀ response, ({ context with humanResponse := response } : AgentContext Json).modelDump
        platform = .obj (before ++ ("human_response", Json.ofOption id response) :: after) :=
  ⟨[("project_id", .str (platform.projectIdForRun context.runId)),
      ("retry_attempt", .int context.retryAttempt), ("run_id", .str context.runId),
      ("idea", .str context.idea), ("stage", .str context.stage.value),
      ("artifacts", .arr context.artifacts)],
    [("repair_attempt", .int context.repairAttempt),
      ("repair_feedback", Json.ofOption id context.repairFeedback),
      ("repair_artifact_id", Json.ofOption idJson context.repairArtifactId),
      ("repair_artifact_sha256", Json.ofOption .str context.repairArtifactSha256)],
    rfl, fun _ => rfl⟩

theorem lookup_middle {before after : List (String × Json)} {name key : String} {value : Json} :
    (before ++ (name, value) :: after).lookup key =
      (before.lookup key).or (if key = name then some value else after.lookup key) := by
  rw [Json.lookup_append, List.lookup_cons]
  by_cases hkey : key = name
  · rw [hkey, beq_self_eq_true, if_pos rfl]
  · rw [beq_false_of_ne hkey, if_neg hkey]

/-- A continuation arrives as its request did, with the response that passed. -/
theorem AgentContext.receive_resumed {context original : AgentContext Json} {response : Json}
    {passed : List (String × Json)} (hreceive : context.receive platform = .ok original)
    (hresponse : passThrough response = .ok (.obj passed)) :
    ({ context with humanResponse := some response } : AgentContext Json).receive platform =
      .ok { original with humanResponse := some (.obj passed) } := by
  obtain ⟨before, after, habsent, hdump⟩ := AgentContext.modelDump_split platform context
  have hcontext : context = { context with humanResponse := context.humanResponse } := rfl
  unfold AgentContext.receive at hreceive ⊢
  rw [hcontext, hdump] at hreceive
  rw [hdump]
  obtain ⟨document, hdocument, hvalid⟩ := except_bind_eq_ok.mp hreceive
  rw [passThrough_eq_ok, Protobuf.passage_obj] at hdocument
  rw [passThrough_eq_ok] at hresponse
  obtain ⟨fields, hfields, rfl⟩ := Option.map_eq_some_iff.mp hdocument
  obtain ⟨left, rest, hleft, hrest, rfl⟩ := Protobuf.passFields_append_eq_some.mp hfields
  obtain ⟨sent, right, -, hright, rfl⟩ := Protobuf.passFields_cons_eq_some.mp hrest
  have hleftAbsent : left.lookup "human_response" = none := by
    rw [Protobuf.lookup_passFields hleft, habsent, Option.bind_none]
  have hresumed : passThrough (.obj (before ++ ("human_response",
      Json.ofOption id (some response)) :: after)) =
        .ok (.obj (left ++ ("human_response", .obj passed) :: right)) := by
    rw [passThrough_eq_ok, Protobuf.passage_obj]
    refine Option.map_eq_some_iff.mpr ⟨_, ?_, rfl⟩
    refine Protobuf.passFields_append_eq_some.mpr ⟨left, _, hleft, ?_, rfl⟩
    exact Protobuf.passFields_cons_eq_some.mpr ⟨_, right, hresponse, hright, rfl⟩
  refine except_bind_eq_ok.mpr ⟨_, hresumed, ?_⟩
  obtain ⟨request, hrequest, -, horiginal⟩ := AgentContext.modelValidate_eq_ok.mp hvalid
  refine AgentContext.modelValidate_eq_ok.mpr ⟨request, ?_, ?_, ?_⟩
  · rw [← hrequest]
    refine AgentContext.readRequest_congr fun key hkey => ?_
    rw [Json.get?, Json.get?, lookup_middle, lookup_middle, if_neg hkey, if_neg hkey]
  · rw [Json.get?, lookup_middle, hleftAbsent, if_pos rfl]
    rfl
  · rw [horiginal]

theorem proper_get? {document value : Json} {key : String} (hproper : document.proper = true)
    (hvalue : document.get? key = some value) : value.proper = true := by
  cases document with
  | obj fields =>
      simp only [Json.proper, Bool.and_eq_true] at hproper
      obtain ⟨-, hfields⟩ := hproper
      simp only [Json.get?] at hvalue
      induction fields with
      | nil => cases hvalue
      | cons field rest ih =>
          obtain ⟨name, other⟩ := field
          simp only [Json.properFields, Json.properField, Bool.and_eq_true] at hfields
          rw [List.lookup_cons] at hvalue
          split at hvalue
          · cases hvalue
            exact hfields.1
          · exact ih hvalue hfields.2
  | null | bool | int | float | str | arr => cases hvalue

theorem eq_of_dict? {value found : Json} (hfound : dict? value = some found) : found = value := by
  cases value with
  | obj fields =>
      cases hfound
      rfl
  | null | bool | int | float | str | arr => cases hfound

theorem eq_of_mapM_dict? {items found : List Json} (hfound : items.mapM dict? = some found) :
    found = items := by
  induction items generalizing found with
  | nil =>
      cases hfound
      rfl
  | cons item rest ih =>
      simp only [List.mapM_cons, Option.bind_eq_bind, Option.bind_eq_some_iff] at hfound
      obtain ⟨head, hhead, tail, htail, hlist⟩ := hfound
      cases hlist
      rw [eq_of_dict? hhead, ih htail]

/-- What is read from a document with distinct keys has distinct keys. -/
theorem AgentContext.proper_readRequest {document : Json} {request : AgentContext Json}
    (hproper : document.proper = true) (hrequest : readRequest platform document = some request) :
    Json.properItems request.artifacts = true ∧
      (Json.ofOption id request.repairFeedback).proper = true := by
  simp only [readRequest, Option.bind_eq_bind, Option.bind_eq_some_iff] at hrequest
  obtain ⟨runId, -, idea, -, stage, -, items, hitems, artifacts, hartifacts, retryAttempt, -,
    repairAttempt, -, repairFeedback, hfeedback, repairArtifactId, -, repairArtifactSha256, -,
    projectId, -, -, -, hcontext⟩ := hrequest
  cases hcontext
  constructor
  · rw [eq_of_mapM_dict? hartifacts]
    cases hfound : document.get? "artifacts" with
    | none =>
        rw [hfound] at hitems
        cases hitems
        rfl
    | some value =>
        rw [hfound, Option.getD_some] at hitems
        have hvalue := proper_get? hproper hfound
        cases value with
        | arr found =>
            cases hitems
            simpa only [Json.proper] using hvalue
        | null | bool | int | float | str | obj => cases hitems
  · cases hfound : document.get? "repair_feedback" with
    | none =>
        rw [hfound] at hfeedback
        cases hfeedback
        rfl
    | some value =>
        rw [hfound] at hfeedback
        have hvalue := proper_get? hproper hfound
        cases value with
        | null =>
            cases hfeedback
            rfl
        | obj fields =>
            cases hfeedback
            exact hvalue
        | bool | int | float | str | arr => cases hfeedback

/-- A received request equals itself, whatever was answered to it. -/
theorem AgentContext.sameRequest_resumed {context original : AgentContext Json}
    (hproper : (context.modelDump platform).proper = true)
    (hreceive : context.receive platform = .ok original) (response : Option Json) :
    ({ original with humanResponse := response } : AgentContext Json).sameRequest original = true := by
  obtain ⟨document, hdocument, hvalid⟩ := except_bind_eq_ok.mp hreceive
  have hpassed := Protobuf.proper_passage _ _ (passThrough_eq_ok.mp hdocument) hproper
  obtain ⟨request, hrequest, -, horiginal⟩ := AgentContext.modelValidate_eq_ok.mp hvalid
  obtain ⟨hartifacts, hfeedback⟩ := AgentContext.proper_readRequest hpassed hrequest
  rw [horiginal]
  simp only [AgentContext.sameRequest, beq_self_eq_true, Bool.true_and, Bool.and_true,
    Bool.and_eq_true]
  exact ⟨Json.pyEqItems_refl _ hartifacts, Json.pyEq_refl _ hfeedback⟩

end

/-! ## Drafts and decisions -/

theorem review_of_checks {agents : AgentPlatform} {context original : AgentContext Json}
    {response : Json} {prior : AgentTask} {draft : AgentResult}
    {handled : Except PyError AgentResult}
    (hdigest : response.get? "artifact_sha256" = some (.str (agents.sha256 draft.content)))
    (horiginal : prior.history.head?.bind AgentMessage.payload = some original)
    (hsame : context.sameRequest original = true) :
    review agents context response prior draft handled = verdict response draft handled := by
  unfold review
  rw [if_neg (not_not.mpr hdigest), horiginal]
  simp only [hsame, Bool.not_true, Bool.false_eq_true, if_false]

/-- What becomes of a draft after a decision that its prompt allows. -/
def decided (decision : Decision) (draft : AgentResult) (handled : Except PyError AgentResult) :
    Except PyError (Option AgentResult) :=
  match decision with
  | .reject => .ok none
  | .submit => handled.map some
  | .approve | .accept | .repair => .ok (some { draft with humanPrompt := none })

theorem verdict_of_allowed {response : Json} {draft : AgentResult} {prompt : HumanPrompt}
    {decision : Decision} {handled : Except PyError AgentResult}
    (hprompt : draft.humanPrompt = some prompt)
    (hallowed : decision ∈ allowedDecisions prompt.kind)
    (hdecision : response.get? "decision" = some (.str decision.value)) :
    verdict response draft handled = decided decision draft handled := by
  unfold verdict
  rw [hprompt, Option.map_some, hdecision]
  cases hkind : prompt.kind with
  | clarification | approval | evaluationDecision =>
      rw [hkind] at hallowed
      cases decision with
      | submit | approve | reject | accept | repair =>
          first
          | rfl
          | exact absurd hallowed (by decide)

/-- One more passage of a draft: to the hub, or into the task store and back. -/
def Reread (agents : AgentPlatform) (draft read : AgentResult) : Prop :=
  jsonPart agents draft = .ok read

/-- What `_human_input` returns once its surface is answered. -/
def humanAnswer (platform : Platform) (interaction : HumanInteraction) (action : HumanAction)
    (now : Nat) (answers : List Json) : Json :=
  match recordedResponse platform interaction action now with
  | .obj fields => .obj (Json.merge fields [("previous_answers", .arr answers)])
  | other => other

theorem get?_humanAnswer {platform : Platform} {interaction : HumanInteraction}
    {action : HumanAction} {now : Nat} {answers : List Json} :
    (humanAnswer platform interaction action now answers).get? "artifact_sha256" =
        some (.str interaction.artifactSha256) ∧
      (humanAnswer platform interaction action now answers).get? "decision" =
        some (.str action.decision.value) := by
  constructor
  · exact Json.get?_merge_left rfl
  · exact Json.get?_merge_left rfl

/-- An answer holds texts and the version of its surface, so it can be sent. -/
theorem passage_humanAnswer {platform : Platform} {interaction : HumanInteraction}
    {action : HumanAction} {now : Nat} {answers : List Json}
    (hversion : (Protobuf.passage (.int action.version)).isSome = true)
    (hidentifier : (Protobuf.passage (idJson interaction.artifactId)).isSome = true)
    (hanswers : ∀ answer ∈ answers, ∃ text, answer = .str text) :
    ∃ response, passThrough (humanAnswer platform interaction action now answers) =
      .ok response := by
  have haction : (Protobuf.passage action.modelDump).isSome = true := by
    refine Protobuf.passage_obj_isSome ?_
    simp only [List.forall_mem_cons, Protobuf.passage_str, Option.isSome_some, true_and]
    exact ⟨hversion, List.forall_mem_nil _⟩
  have hprevious : (Protobuf.passage (.arr answers)).isSome = true := by
    refine Protobuf.passage_arr_isSome fun answer hmem => ?_
    obtain ⟨text, rfl⟩ := hanswers answer hmem
    rfl
  have hsome : (Protobuf.passage
      (humanAnswer platform interaction action now answers)).isSome = true := by
    have hrecorded : ∀ field ∈ [("action", action.modelDump), ("actor", Json.str "local-learner"),
        ("answered_at", .str (platform.isoformat now)), ("decision", .str action.decision.value),
        ("answer", .str action.answer), ("artifact_id", idJson interaction.artifactId),
        ("artifact_sha256", .str interaction.artifactSha256),
        ("action_id", .str action.actionId)], (Protobuf.passage field.2).isSome = true := by
      simp only [List.forall_mem_cons, Protobuf.passage_str, Option.isSome_some, true_and]
      exact ⟨haction, hidentifier, List.forall_mem_nil _⟩
    refine Protobuf.passage_obj_isSome fun field hmem => ?_
    rcases List.mem_append.mp hmem with hkept | hadded
    · exact hrecorded field (List.mem_filter.mp hkept).1
    · rw [List.mem_singleton.mp hadded]
      exact hprevious
  obtain ⟨response, hresponse⟩ := Option.isSome_iff_exists.mp hsome
  exact ⟨response, passThrough_eq_ok.mpr hresponse⟩

/-- Text in an object passes unchanged. -/
theorem get?_passThrough {value passed : Json} {key text : String}
    (hpassed : passThrough value = .ok passed) (htext : value.get? key = some (.str text)) :
    ∃ fields, passed = .obj fields ∧ passed.get? key = some (.str text) := by
  cases value with
  | obj fields =>
      rw [passThrough_eq_ok, Protobuf.passage_obj] at hpassed
      obtain ⟨found, hfound, rfl⟩ := Option.map_eq_some_iff.mp hpassed
      refine ⟨found, rfl, ?_⟩
      rw [Json.get?] at htext ⊢
      rw [Protobuf.lookup_passFields hfound, htext]
      rfl
  | null | bool | int | float | str | arr => cases htext

theorem jsonPart_eq_ok {agents : AgentPlatform} {result stored : AgentResult} :
    jsonPart agents result = .ok stored ↔
      ∃ content, agents.wire result.content = .ok content ∧ stored = { result with content } := by
  unfold jsonPart
  cases agents.wire result.content with
  | error error => simp [Except.map]
  | ok content => simp [Except.map, eq_comm]

/-- A stored draft is read the same however often it passes. -/
theorem eq_of_reread {platform : Platform} {fingerprint : AgentMessage → String}
    {result stored read : AgentResult}
    (hstored : jsonPart (platform.agents fingerprint) result = .ok stored)
    (hread : Relation.ReflTransGen (Reread (platform.agents fingerprint)) stored read) :
    read = stored := by
  have hpassed : passThrough stored.content = .ok stored.content := by
    obtain ⟨content, hcontent, rfl⟩ := jsonPart_eq_ok.mp hstored
    exact passThrough_eq_ok.mpr (Protobuf.passage_of_passage (passThrough_eq_ok.mp hcontent))
  induction hread with
  | refl => rfl
  | tail _ hlast ih =>
      subst ih
      obtain ⟨content, hcontent, hsame⟩ := jsonPart_eq_ok.mp hlast
      have hequal : content = _ := Except.ok.inj (hcontent.symm.trans hpassed)
      rw [hsame, hequal]

/-- For every request an agent received and every draft it published: a decision
on the draft that the hub stored, sent back by the hub, passes both checks of the
agent, and the draft meets the fate that was decided. -/
theorem honest_decision_accepted (settings : GateSettings) (stage : StageName) (now : Nat)
    {platform : Platform} {fingerprint : AgentMessage → String}
    {context original : AgentContext Json}
    {result stored shown held : AgentResult} {mapping : DelegatedTask}
    {parents : List ArtifactId} {artifactId : ArtifactId} {createdAt : Nat}
    {interaction : HumanInteraction} {action : HumanAction} {answers : List Json}
    (hproper : (context.modelDump platform).proper = true)
    (hrequest : context.receive platform = .ok original)
    (hstored : jsonPart (platform.agents fingerprint) result = .ok stored)
    -- the hub reads the draft from its answer, the agent from its store
    (hshown : Relation.ReflTransGen (Reread (platform.agents fingerprint)) stored shown)
    (hheld : Relation.ReflTransGen (Reread (platform.agents fingerprint)) stored held)
    (hinteraction : interaction.artifactSha256 = (ArtifactMetadata.ofRequest platform
      (Workflow.draftRequest mapping shown parents) artifactId createdAt).contentSha256)
    (hprompt : shown.humanPrompt = some interaction.prompt)
    (hallowed : action.decision ∈ allowedDecisions interaction.prompt.kind)
    (hversion : (Protobuf.passage (.int action.version)).isSome = true)
    -- an identifier is text in the code
    (hidentifier : (Protobuf.passage (idJson interaction.artifactId)).isSome = true)
    (hanswers : ∀ answer ∈ answers, ∃ text, answer = .str text) :
    ∃ response, passThrough (humanAnswer platform interaction action now answers) = .ok response ∧
    ∃ received,
      ({ context with
        humanResponse := some (humanAnswer platform interaction action now answers) } :
        AgentContext Json).receive platform = .ok received ∧
      response.get? "artifact_sha256" =
        some (.str ((platform.agents fingerprint).sha256 held.content)) ∧
      received.sameRequest original = true ∧
      ∀ message prior handled, message.payload = some received →
        prior.history.head?.bind AgentMessage.payload = some original →
        prior.artifact = some held →
        execute (platform.agents fingerprint) settings stage message prior handled =
          decided action.decision held handled := by
  obtain rfl := eq_of_reread hstored hshown
  obtain rfl := eq_of_reread hstored hheld
  obtain ⟨hdigest, hdecision⟩ :
      (humanAnswer platform interaction action now answers).get? "artifact_sha256" =
          some (.str interaction.artifactSha256) ∧
        (humanAnswer platform interaction action now answers).get? "decision" =
          some (.str action.decision.value) := get?_humanAnswer
  obtain ⟨response, hsent⟩ : ∃ response, passThrough
      (humanAnswer platform interaction action now answers) = .ok response :=
    passage_humanAnswer hversion hidentifier hanswers
  obtain ⟨passed, rfl, hdigestPassed⟩ := get?_passThrough hsent hdigest
  obtain ⟨-, -, hdecisionPassed⟩ := get?_passThrough hsent hdecision
  rw [hinteraction] at hdigestPassed
  have hsame := AgentContext.sameRequest_resumed hproper hrequest (some (.obj passed))
  refine ⟨_, hsent, _, AgentContext.receive_resumed hrequest hsent, hdigestPassed, hsame, ?_⟩
  intro message prior handled hpayload horiginal hartifact
  have htruthy : Json.truthy (some (.obj passed)) = true := by
    cases passed with
    | nil => cases hdigestPassed
    | cons field rest => rfl
  unfold execute
  simp only [hpayload, hartifact, htruthy, if_true]
  rw [review_of_checks hdigestPassed horiginal hsame]
  exact verdict_of_allowed hprompt hallowed hdecisionPassed

/-- A draft with an integer that no double holds. -/
def sampleEstimate (budget : Int) : AgentResult :=
  { sampleDraft with
    content := .obj [("budget", .int budget), ("share", .float (1 / 8)), ("title", .str "Größe")]
    humanPrompt := some (GateSettings.approvalPrompt .requirements) }

/-- The digest tells budgets apart. -/
def sampleLedgerPlatform : Platform :=
  { samplePlatform with
    sha256 := fun content => match content.get? "budget" with
      | some (.int budget) => toString budget
      | _ => "" }

def sampleSurface : HumanInteraction where
  surfaceId := "surface"
  runId := "run_a"
  stage := .requirements
  agent := "requirements-agent"
  taskId := 0
  contextId := "context"
  prompt := GateSettings.approvalPrompt .requirements
  artifactId := 3
  artifactSha256 := "9007199254740992"
  version := 1
  response := none

def sampleApproval : HumanAction :=
  ⟨"action_a", "surface", "9007199254740992", 1, .approve, ""⟩

def sampleMapping : DelegatedTask :=
  ⟨⟨"run_a", .requirements, "requirements-agent", 0, 0⟩, "run_a", .requirements,
    "requirements-agent", "", "context", some 0, .reported .inputRequired, 1, 0⟩

/-- The agent's own budget is 9007199254740993; what is approved is the budget it
has in a message. -/
theorem honest_decision_accepted_sample :
    ∃ received : AgentContext Json, received.sameRequest sampleContext = true ∧
      execute (sampleLedgerPlatform.agents fun _ => "") {} .requirements
        ⟨.other "second", some 0, "context", .data (some received), ""⟩
        ⟨0, "context", .inputRequired, "",
          [⟨.other "first", none, "context", .data (some sampleContext), ""⟩],
          some (sampleEstimate 9007199254740992)⟩ (.error ⟨.runtimeError, "not called"⟩) =
        .ok (some { sampleEstimate 9007199254740992 with humanPrompt := none }) := by
  have hwritten : jsonPart (sampleLedgerPlatform.agents fun _ => "")
      (sampleEstimate 9007199254740993) = .ok (sampleEstimate 9007199254740992) := by
    decide +kernel
  have hread : jsonPart (sampleLedgerPlatform.agents fun _ => "")
      (sampleEstimate 9007199254740992) = .ok (sampleEstimate 9007199254740992) := by
    decide +kernel
  have hrequest : sampleContext.receive sampleLedgerPlatform = .ok sampleContext := by
    decide +kernel
  have hdigest : sampleSurface.artifactSha256 = (ArtifactMetadata.ofRequest sampleLedgerPlatform
      (Workflow.draftRequest sampleMapping (sampleEstimate 9007199254740992) []) 3 0).contentSha256 := by
    decide +kernel
  have hallowed : sampleApproval.decision ∈ allowedDecisions sampleSurface.prompt.kind := by decide
  have hversion : (Protobuf.passage (.int sampleApproval.version)).isSome = true := by
    decide +kernel
  have hidentifier : (Protobuf.passage (idJson sampleSurface.artifactId)).isSome = true := by
    decide +kernel
  obtain ⟨-, -, received, -, -, hsame, hexecute⟩ := honest_decision_accepted {} .requirements 0
    (by decide) hrequest hwritten (.single hread) .refl hdigest rfl hallowed hversion hidentifier
    (List.forall_mem_nil _)
  exact ⟨received, hsame, hexecute _ _ _ rfl rfl rfl⟩

end Aidlc
