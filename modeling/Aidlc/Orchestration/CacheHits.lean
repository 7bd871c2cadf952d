import Aidlc.Orchestration.Budget
import Aidlc.Orchestration.Order
import Aidlc.Orchestration.Provenance

/-! # What a cache hit stands for

The hub is stopped and started with other settings, and it remembers nothing but what
it stored. Whatever is found under a cache key was returned by an invocation that had
the same inputs and ran under the same conditions.
-/

namespace Aidlc

open Foundation Workflow

/-- The record of an invocation that returned. -/
structure Returned where
  settings : HubSettings
  spec : AgentSpec
  context : AgentContext Json
  result : AgentResult

/-- The hub and its settings, the invocations that returned, and what programs of the
command line have written but not yet stored in the database. -/
structure Site where
  hub : Hub
  settings : HubSettings
  returned : List Returned
  published : List ArtifactRecord

/-- What the invocation of an agent returns with this event. -/
def Hub.returning (settings : HubSettings) (hub : Hub) : HubLabel → Option Returned
  | .client task agent event => (hub.findChild task agent).bind fun (_, _, child) =>
    match child.body with
    | .invoking invocation _ =>
      (invocation.step settings.client hub.stores.database event).bind fun turn =>
        match turn.progress with
        | .returned result => some ⟨settings, invocation.spec, invocation.context, result⟩
        | _ => none
    | _ => none
  | _ => none

inductive SiteLabel where
  | hub (label : HubLabel)
  /-- New settings take effect when a process starts. -/
  | configure (settings : HubSettings)
  /-- A program of the command line writes an artifact. -/
  | publish (request : WriteRequest)
  | index (position : Nat)

namespace Site

def start (settings : HubSettings) : Site := ⟨.empty, settings, [], []⟩

def withStores (site : Site) (stores : Stores) : Site :=
  { site with hub := site.hub.withShared (site.hub.toShared.withStores stores) }

variable (platform : Platform) in
/-- The invocations that returned, with the contexts the hub delegated. -/
def known (site : Site) : Set Completion :=
  {completion | ⟨completion.spec, completion.context⟩ ∈ site.hub.delegated ∧
    ⟨completion.settings, completion.spec, completion.context.plain platform,
      completion.result⟩ ∈ site.returned}

end Site

/-- The hub under settings that change while it is down. Other programs publish into the
same stores; none of them names a cache key. -/
def deployment {platform : Platform} (clock : Nat → Nat) (tools : HubTools platform) :
    System Site SiteLabel where
  step site
    | .configure settings =>
      if site.hub.phase = .down then some { site with settings } else none
    | .publish request =>
      if request.execution.get? "cache_key" ≠ none then none
      else match writeArtifact platform request (site.hub.stores.now clock) site.hub.stores with
        | .ok record stores =>
          some { site.withStores stores with published := site.published ++ [record] }
        | .error _ stores => some (site.withStores stores)
    | .index position =>
      (site.published[position]?).map fun record =>
        site.withStores (outcome (addArtifact platform record site.hub.stores)).2
    | .hub label =>
      ((orchestration clock tools site.settings).step site.hub label).map fun hub =>
        { site with
          hub
          returned := site.returned ++ (site.hub.returning site.settings label).toList }

/-! ## What waits -/

section Waiting

variable {platform : Platform} (tools : HubTools platform) (settings : HubSettings)
  (delegated : List Delegated) (known : Set Completion)

/-- The program writes only what invocations returned. -/
abbrev Truthful {α : Type} (routine : Routine α) : Prop :=
  routine.Meets (provenance tools settings) (fun _ _ => True) known

/-- The rest of a program that waits. -/
abbrev Expects {α : Type} (request : Request) (resume : request.Answer → Routine α) : Prop :=
  Program.Awaits (provenance tools settings) (fun _ _ => True) request resume known

/-- An invocation of the hub, whose result is awaited. -/
def Serving (invocation : Invocation) (resume : Except Raised AgentResult → Routine ArtifactId) :
    Prop :=
  ∃ context, ⟨invocation.spec, context⟩ ∈ delegated ∧ invocation.context = context.plain platform ∧
    Expects tools settings known (.invoke invocation.spec context) resume

def ChildBody.Honest : ChildBody → Prop
  | .scheduled | .finished _ => True
  | .running routine => Truthful tools settings known routine
  | .invoking invocation resume => Serving tools settings delegated known invocation resume
  | .asking invocation routine resume =>
    Truthful tools settings known routine ∧
      Serving tools settings delegated known invocation resume

structure Group.Honest (group : Group) : Prop where
  job : ReadThrough platform group.job.context.artifacts
  resume : Expects tools settings known (.runAgents group.job) group.resume
  catalog : ∀ child ∈ group.children, child.spec ∈ agentSpecs
  children : ∀ child ∈ group.children, child.body.Honest tools settings delegated known

def Body.Honest : Body → Prop
  | .scheduled => True
  | .running routine => Truthful tools settings known routine
  | .gathering group => group.Honest tools settings delegated known

/-- Whatever the hub runs or holds writes, and has written, only such outputs; it has
delegated these and maybe more. -/
structure Hub.Honest (hub : Hub) : Prop where
  since : delegated ⊆ hub.delegated
  catalog : ∀ request ∈ hub.delegated,
    request.spec ∈ agentSpecs ∧ request.context.stage = request.spec.stage
  down : hub.phase = .down → (∀ task, hub.coroutines task = none) ∧ hub.active = none
  coroutines : ∀ task coroutine, hub.coroutines task = some coroutine →
    coroutine.body.Honest tools settings hub.delegated known
  handler : ∀ runId routine, hub.active = some (.handler runId routine) →
    Truthful tools settings known routine
  rows : ∀ record ∈ hub.stores.database.artifacts, Traced tools known record.metadata

variable {tools settings delegated known} {later : List Delegated} {grown : Set Completion}
  {α β : Type}

/-- A faithful routine is truthful in every later state. -/
theorem truthful_of_faithful {program : Routine α}
    (hfaithful : Faithful tools settings known program) : Truthful tools settings known program :=
  (hfaithful known Set.Subset.rfl).mono fun _ _ _ => trivial

/-- An expectation of known completions outlives them growing. -/
theorem Expects.grow {request : Request} {resume : request.Answer → Routine α}
    (hexpects : Expects tools settings known request resume) (hgrown : known ⊆ grown) :
    Expects tools settings grown request resume :=
  hexpects.drift (fun _ _ _ => Set.Subset.trans) hgrown

/-- A truthful routine stays so when more completions are known. -/
theorem Truthful.grow {routine : Routine α} (hhonest : Truthful tools settings known routine)
    (hgrown : known ⊆ grown) : Truthful tools settings grown routine := by
  cases routine with
  | done value => trivial
  | raise raised => trivial
  | call request resume =>
      exact ⟨Request.Presumes.mono tools hhonest.1 hgrown, Expects.grow hhonest.2 hgrown⟩

/-- A child stays served when more is delegated and known. -/
theorem Serving.grow {invocation : Invocation}
    {resume : Except Raised AgentResult → Routine ArtifactId}
    (hserving : Serving tools settings delegated known invocation resume)
    (hlater : delegated ⊆ later) (hgrown : known ⊆ grown) :
    Serving tools settings later grown invocation resume := by
  obtain ⟨context, hdelegated, hcontext, hexpects⟩ := hserving
  exact ⟨context, hlater hdelegated, hcontext, Expects.grow hexpects hgrown⟩

theorem ChildBody.Honest.grow {body : ChildBody}
    (hhonest : body.Honest tools settings delegated known) (hlater : delegated ⊆ later)
    (hgrown : known ⊆ grown) : body.Honest tools settings later grown := by
  cases body with
  | scheduled => trivial
  | running routine => exact Truthful.grow hhonest hgrown
  | invoking invocation resume => exact Serving.grow hhonest hlater hgrown
  | asking invocation routine resume =>
      exact ⟨Truthful.grow hhonest.1 hgrown, Serving.grow hhonest.2 hlater hgrown⟩
  | finished result => trivial

theorem Group.Honest.grow {group : Group} (hhonest : group.Honest tools settings delegated known)
    (hlater : delegated ⊆ later) (hgrown : known ⊆ grown) :
    group.Honest tools settings later grown where
  job := hhonest.job
  resume := Expects.grow hhonest.resume hgrown
  catalog := hhonest.catalog
  children child hchild := (hhonest.children child hchild).grow hlater hgrown

theorem Body.Honest.grow {body : Body} (hhonest : body.Honest tools settings delegated known)
    (hlater : delegated ⊆ later) (hgrown : known ⊆ grown) :
    body.Honest tools settings later grown := by
  cases body with
  | scheduled => trivial
  | running routine => exact Truthful.grow hhonest hgrown
  | gathering group => exact Group.Honest.grow hhonest hlater hgrown

end Waiting

/-! ## Statements of storage -/

section Storage

variable {platform : Platform} {tools : HubTools platform} {settings : HubSettings}
  {known : Set Completion} {clock : Nat → Nat} {stores after : Stores} {runId : RunId}

variable (tools known) in
/-- Every row of the table of artifacts was written for an invocation, or names no key. -/
abbrev RowsTraced (database : Database) : Prop :=
  ∀ record ∈ database.artifacts, Traced tools known record.metadata

/-- Inserting a traced record keeps every row traced. -/
theorem rows_insertArtifact {database next : Database} {artifact : ArtifactRecord}
    (hrows : RowsTraced tools known database) (hartifact : Traced tools known artifact.metadata)
    (hinsert : database.insertArtifact artifact = .ok next) : RowsTraced tools known next := by
  obtain ⟨-, -, rfl⟩ := insertArtifact_ok hinsert
  intro record hrecord
  rcases List.mem_append.mp hrecord with hkept | hnew
  · exact hrows record (List.mem_filter.mp hkept).1
  · rw [List.mem_singleton.mp hnew]
    exact hartifact

/-- A human answer keeps every row traced, whatever it publishes. -/
theorem rows_acceptAction (action : HumanAction)
    (publishResponse : HumanInteraction → StoreM ArtifactRecord) (now : Nat)
    (hpublish : ∀ interaction artifact (before middle : Stores),
      publishResponse interaction before = .ok artifact middle →
        middle.database = before.database ∧ Traced tools known artifact.metadata)
    (hrows : RowsTraced tools known stores.database) :
    RowsTraced tools known
      (outcome (acceptAction platform runId action publishResponse now stores)).2.database := by
  cases haccept : acceptAction platform runId action publishResponse now stores with
  | error error after =>
      obtain ⟨final, -, rfl⟩ := transaction_eq_error.mp haccept
      exact hrows
  | ok result after =>
      obtain ⟨interaction, created⟩ := result
      obtain ⟨found, -, hcases⟩ := acceptAction_ok haccept
      rcases hcases with ⟨-, -, -, rfl, -⟩ | ⟨-, -, -, -, artifact, middle, inserted, hmade,
        hinsert, rfl⟩
      · exact hrows
      · obtain ⟨hsame, htraced⟩ := hpublish _ _ _ _ hmade
        rw [hsame] at hinsert
        have hinserted := rows_insertArtifact hrows htraced hinsert
        exact hinserted

/-- The response of a person names no cache key. -/
theorem traced_response {interaction : HumanInteraction} {action : HumanAction} {now : Nat}
    {artifact : ArtifactRecord} {middle : Stores}
    (hwrite : writeArtifact platform (responseRequest runId interaction action) now stores =
      .ok artifact middle) :
    middle.database = stores.database ∧ Traced tools known artifact.metadata := by
  obtain ⟨hfiles, -, hsame⟩ := writeArtifact_ok hwrite
  exact ⟨hsame, _, _, _, Or.inl rfl, (write_cases hfiles).2.1⟩

/-- The call of a human answer keeps every row traced, at whichever statement it stops. -/
theorem rows_acceptCall (action : HumanAction) (now : Nat) (fault : CallFault)
    (hrows : RowsTraced tools known stores.database) :
    RowsTraced tools known
      (outcome (acceptCall platform runId action now fault stores)).2.database := by
  cases fault with
  | none =>
      exact rows_acceptAction action
        (fun answered => writeArtifact platform (responseRequest runId answered action) now) now
        (fun _ _ _ _ hwrite => traced_response hwrite) hrows
  | publish error =>
      exact rows_acceptAction action (fun _ => throw error) now
        (fun _ _ _ _ hthrow => absurd hthrow throw_ne_ok) hrows
  | published error =>
      refine rows_acceptAction action (fun answered => do
        let _ ← writeArtifact platform (responseRequest runId answered action) now
        throw error) now (fun _ _ _ _ hthrow => ?_) hrows
      obtain ⟨_, _, -, hthrow⟩ := bind_eq_ok.mp hthrow
      exact absurd hthrow throw_ne_ok
  | statement error =>
      cases hcall : acceptCall platform runId action now (.statement error) stores with
      | error raised after =>
          obtain ⟨final, -, rfl⟩ := transaction_eq_error.mp hcall
          exact hrows
      | ok value after =>
          obtain ⟨_, _, -, hthrow⟩ := bind_eq_ok.mp (transaction_eq_ok.mp hcall)
          exact absurd hthrow throw_ne_ok

/-- Contents that were read have the digests of their records. -/
theorem digests_of_mapM {records : List ArtifactRecord} {contents : List Json}
    (hread : records.mapM (stores.files.readContent platform) = .ok contents) :
    contents.map platform.sha256 = records.map fun record => record.metadata.contentSha256 :=
  map_of_mapM_eq_ok (fun _ _ hcontent => digest_of_readContent hcontent) hread

/-- A statement that leaves the artifacts alone tells nothing of them. -/
theorem rows_of_statement {change : Except PyError Database} {value : Except PyError Unit}
    (hrows : RowsTraced tools known stores.database)
    (hchange : ∀ database, change = .ok database → database.artifacts = stores.database.artifacts)
    (hstatement : statement stores change = (value, after)) :
    RowsTraced tools known after.database := by
  rcases statement_eq hstatement with ⟨database, hdatabase, -, rfl⟩ | ⟨error, -, -, rfl⟩
  · intro record hrecord
    rw [show (stores.withDatabase database).database = database from rfl,
      hchange database hdatabase] at hrecord
    exact hrows record hrecord
  · exact hrows

theorem artifacts_saveInteraction {database next : Database} {interaction : HumanInteraction}
    (hsave : database.saveInteraction interaction = .ok next) :
    next.artifacts = database.artifacts := by
  unfold Database.saveInteraction at hsave
  split at hsave
  · cases hsave
  · split at hsave
    · cases hsave
      rfl
    · cases hsave

theorem artifacts_saveDelegatedTask {database next : Database} {mapping : DelegatedTask}
    (hsave : database.saveDelegatedTask mapping = .ok next) : next.artifacts = database.artifacts :=
  (@Invocation.confined_saveDelegatedTask database next mapping.runId true mapping hsave).artifacts

theorem artifacts_appendEvent {database next : Database} {eventType : String}
    {payload : List (String × Json)}
    (hevent : database.appendEvent runId eventType payload = .ok next) :
    next.artifacts = database.artifacts := by
  obtain ⟨-, rfl⟩ := Database.appendEvent_eq_ok.mp hevent
  rfl

theorem artifacts_createRun {database next : Database} {idea : String} {now : Nat}
    (hcreate : database.createRun runId idea now = .ok next) :
    next.artifacts = database.artifacts := by
  unfold Database.createRun at hcreate
  split at hcreate
  · cases hcreate
  · cases hcreate
    rfl

/-- A write is answered with the record of its own request. -/
theorem tells_write {request : WriteRequest} {answer : Except Raised ArtifactRecord}
    (hanswer : ∀ record, answer = .ok record → ∃ artifactId createdAt,
      record.metadata = ArtifactMetadata.ofRequest platform request artifactId createdAt) :
    (Request.write request).Tells platform settings known known answer :=
  ⟨rfl, hanswer⟩

theorem tells_error {request : Request} (raised : Raised) :
    request.Tells platform settings known known (.error raised) := by
  cases request with
  | write request => exact tells_write fun record hrecord => absurd hrecord (by simp)
  | readContents records => exact ⟨rfl, fun contents hcontents => absurd hcontents (by simp)⟩
  | invoke spec context => exact ⟨fun result hresult => absurd hresult (by simp), fun _ _ => rfl⟩
  | _ => rfl

/-- What is written is recorded with the metadata of its request. -/
theorem recorded_of_write {request : WriteRequest} {now : Nat} {record : ArtifactRecord}
    (hrows : RowsTraced tools known stores.database)
    (hwrite : writeArtifact platform request now stores = .ok record after) :
    RowsTraced tools known after.database ∧ ∃ artifactId createdAt,
      record.metadata = ArtifactMetadata.ofRequest platform request artifactId createdAt := by
  obtain ⟨hfiles, -, hsame⟩ := writeArtifact_ok hwrite
  refine ⟨fun row hrow => hrows row ?_, _, _, (write_cases hfiles).2.1⟩
  have hdatabase : after.database = stores.database := hsame
  rw [← hdatabase]
  exact hrow

/-- The answer to a request to write, and the rows it leaves. -/
theorem write_honest {request : WriteRequest} (hrows : RowsTraced tools known stores.database)
    {now : Nat} :
    RowsTraced tools known (outcome (writeArtifact platform request now stores)).2.database ∧
      (Request.write request).Tells platform settings known known
        (raisedBy (outcome (writeArtifact platform request now stores)).1) := by
  cases hwrite : writeArtifact platform request now stores with
  | error error after =>
      rw [writeArtifact_error hwrite]
      exact ⟨hrows, tells_error _⟩
  | ok record after =>
      obtain ⟨hkept, hrecorded⟩ := recorded_of_write hrows hwrite
      refine ⟨hkept, tells_write fun other hother => ?_⟩
      obtain rfl : record = other := Except.ok.inj hother
      exact hrecorded

/-- An artifact that was written for an invocation, or names no key, is stored. -/
theorem rows_addArtifact {record : ArtifactRecord}
    (hrows : RowsTraced tools known stores.database)
    (htraced : Traced tools known record.metadata) :
    RowsTraced tools known (outcome (addArtifact platform record stores)).2.database := by
  cases hadd : addArtifact platform record stores with
  | ok value after =>
      have hinserted := rows_insertArtifact hrows htraced (addArtifact_ok hadd).2.2.1
      exact hinserted
  | error error after =>
      obtain ⟨final, -, rfl⟩ := transaction_eq_error.mp hadd
      exact hrows

/-- What a statement of storage does to the artifacts, and what its answer tells. -/
theorem serve_honest {request : Request} {value : Except PyError request.Value}
    (hrows : RowsTraced tools known stores.database) (hpresumes : request.Presumes tools known)
    (hserve : stores.serve platform clock runId request = some (value, after)) :
    RowsTraced tools known after.database ∧
      request.Tells platform settings known known (raisedBy value) := by
  cases request with
  | getRun => cases hserve; exact ⟨hrows, rfl⟩
  | updateRun status currentStage error => cases hserve; exact ⟨hrows, rfl⟩
  | updateStage stage status error => cases hserve; exact ⟨hrows, rfl⟩
  | eventsAfter => cases hserve; exact ⟨hrows, rfl⟩
  | listArtifacts => cases hserve; exact ⟨hrows, rfl⟩
  | listInteractions => cases hserve; exact ⟨hrows, rfl⟩
  | listDelegatedTasks => cases hserve; exact ⟨hrows, rfl⟩
  | initializeProject idea => cases hserve; exact ⟨hrows, rfl⟩
  | appendEvent eventType payload =>
      exact ⟨rows_of_statement hrows (fun _ => artifacts_appendEvent) (Option.some.inj hserve), rfl⟩
  | saveInteraction interaction =>
      exact ⟨rows_of_statement hrows (fun _ => artifacts_saveInteraction) (Option.some.inj hserve),
        rfl⟩
  | saveDelegatedTask mapping =>
      exact ⟨rows_of_statement hrows (fun _ => artifacts_saveDelegatedTask)
        (Option.some.inj hserve), rfl⟩
  | createRun idea now =>
      exact ⟨rows_of_statement hrows (fun _ => artifacts_createRun) (Option.some.inj hserve), rfl⟩
  | readContents records =>
      cases hserve
      refine ⟨hrows, rfl, fun contents hcontents => ?_⟩
      exact digests_of_mapM (ok_of_raisedBy hcontents)
  | write request =>
      obtain ⟨rfl, rfl⟩ := Prod.mk.inj (Option.some.inj hserve)
      exact write_honest hrows
  | addArtifact record =>
      obtain ⟨rfl, rfl⟩ := Prod.mk.inj (Option.some.inj hserve)
      exact ⟨rows_addArtifact hrows hpresumes, rfl⟩
  | acceptAction action =>
      obtain ⟨-, rfl⟩ := Prod.mk.inj (Option.some.inj hserve)
      have haccepted := @rows_acceptCall platform tools known stores runId action (stores.now clock)
        .none hrows
      exact ⟨haccepted, rfl⟩
  | _ => cases hserve

/-- A statement that fails halfway leaves no row behind that it did not write. -/
theorem rows_torn (request : Request) (lost : List Location)
    (hrows : RowsTraced tools known stores.database) :
    RowsTraced tools known (stores.torn platform clock runId lost request).database := by
  cases request with
  | acceptAction action =>
      exact @rows_acceptCall platform tools known stores runId action (stores.now clock)
        (.published storageFailure) hrows
  | _ => exact hrows

/-- The stores answer every request truthfully and keep their rows traced. -/
theorem answer_honest {request : Request} {answer : request.Answer} {fault : StorageFault}
    (hrows : RowsTraced tools known stores.database) (hpresumes : request.Presumes tools known)
    (hanswer : stores.answer platform clock runId request fault = some (answer, after)) :
    RowsTraced tools known after.database ∧
      request.Tells platform settings known known answer := by
  obtain ⟨⟨value, next⟩, hserve, hresult⟩ := Option.map_eq_some_iff.mp hanswer
  obtain ⟨hserved, htells⟩ := @serve_honest platform tools settings known clock stores next runId
    request value hrows hpresumes hserve
  cases fault with
  | none =>
      cases hresult
      exact ⟨hserved, htells⟩
  | before =>
      cases hresult
      exact ⟨hrows, tells_error _⟩
  | after =>
      cases hresult
      exact ⟨hserved, tells_error _⟩
  | torn lost =>
      cases hresult
      exact ⟨rows_torn request lost hrows, tells_error _⟩

end Storage

/-! ## The hub -/

section Steps

variable {platform : Platform} {tools : HubTools platform} {settings : HubSettings}
  {delegated : List Delegated} {known grown : Set Completion} {clock : Nat → Nat}

section Programs

variable {α : Type} {request : Request} {resume : request.Answer → Routine α}

/-- A truthful answer leaves the rest of the routine truthful. -/
theorem truthful_answer {answer : request.Answer}
    (hexpects : Expects tools settings known request resume)
    (htells : request.Tells platform settings known grown answer) :
    Truthful tools settings grown (resume answer) :=
  (hexpects known Set.Subset.rfl answer grown htells).2

/-- An error leaves the rest of the routine truthful. -/
theorem truthful_error (hexpects : Expects tools settings known request resume)
    (raised : Raised) : Truthful tools settings known (resume (.error raised)) :=
  truthful_answer hexpects (tells_error raised)

end Programs

/-- Aborting a group keeps it honest. -/
theorem Group.Honest.abort {group : Group} (hhonest : group.Honest tools settings delegated known) :
    group.abort.Honest tools settings delegated known where
  job := hhonest.job
  resume := hhonest.resume
  catalog child hchild := by
    obtain ⟨other, hother, rfl⟩ := List.mem_map.mp hchild
    have hspec := hhonest.catalog other hother
    unfold Child.cancel
    split <;> exact hspec
  children child hchild := by
    obtain ⟨other, hother, rfl⟩ := List.mem_map.mp hchild
    have hbody := hhonest.children other hother
    unfold Child.cancel
    split <;> exact hbody

theorem Group.Honest.setChild {group : Group} {child : Child}
    (hhonest : group.Honest tools settings delegated known) (hspec : child.spec ∈ agentSpecs)
    (hbody : child.body.Honest tools settings delegated known) :
    (group.setChild child).Honest tools settings delegated known where
  job := hhonest.job
  resume := hhonest.resume
  catalog other hother := by
    obtain ⟨before, hbefore, rfl⟩ := List.mem_map.mp hother
    split
    next => exact hspec
    next => exact hhonest.catalog before hbefore
  children other hother := by
    obtain ⟨before, hbefore, rfl⟩ := List.mem_map.mp hother
    split
    next => exact hbody
    next => exact hhonest.children before hbefore

theorem Group.Honest.update {group : Group} {child : Child}
    (hhonest : group.Honest tools settings delegated known) (hspec : child.spec ∈ agentSpecs)
    (hbody : child.body.Honest tools settings delegated known) :
    (group.update child).Honest tools settings delegated known := by
  unfold Group.update
  split
  next => exact (hhonest.setChild hspec hbody).abort
  next => exact hhonest.setChild hspec hbody

namespace Hub

variable {hub next : Hub} {task : Nat} {coroutine : Coroutine} {group : Group} {child : Child}
  {runId : RunId} {fault : StorageFault} {current : Option Coroutine} {active : Option Active}

/-- A hub that runs a task is not down. -/
theorem Honest.up (hhonest : hub.Honest tools settings delegated known)
    (hcoroutine : hub.coroutines task = some coroutine) : hub.phase ≠ .down := by
  intro hdown
  rw [(hhonest.down hdown).1 task] at hcoroutine
  cases hcoroutine

/-- The hub stays honest when more completions are known. -/
theorem Honest.grow (hhonest : hub.Honest tools settings delegated known) (hgrown : known ⊆ grown) :
    hub.Honest tools settings delegated grown where
  since := hhonest.since
  catalog := hhonest.catalog
  down := hhonest.down
  coroutines task coroutine hcoroutine :=
    (hhonest.coroutines task coroutine hcoroutine).grow (List.Subset.refl _) hgrown
  handler runId routine hactive := Truthful.grow (hhonest.handler runId routine hactive) hgrown
  rows record hrecord := (hhonest.rows record hrecord).mono tools hgrown

/-- Nobody runs next, or somebody who is no call of the interface. -/
def Inner (active : Option Active) : Prop :=
  ∀ runId routine, active ≠ some (.handler runId routine)

theorem inner_none : Inner none := fun runId routine hactive => by cases hactive

theorem inner_coroutine (request : Request) (task : Nat) :
    Inner (if request.suspends then none else some (.coroutine task)) := by
  intro runId routine hactive
  split at hactive <;> cases hactive

theorem inner_child (request : Request) (task : Nat) (agent : String) :
    Inner (if request.suspends then none else some (.child task agent)) := by
  intro runId routine hactive
  split at hactive <;> cases hactive

theorem inner_some_child (task : Nat) (agent : String) : Inner (some (.child task agent)) := by
  intro runId routine hactive
  cases hactive

/-- One execution goes on, or ends, and another program may run next. -/
theorem Honest.setCoroutine (hhonest : hub.Honest tools settings delegated known)
    (hup : hub.phase ≠ .down)
    (hcurrent : ∀ coroutine, current = some coroutine →
      coroutine.body.Honest tools settings hub.delegated known)
    (hactive : Inner active) :
    ({ hub.setCoroutine task current with active } : Hub).Honest tools settings delegated known where
  since := hhonest.since
  catalog := hhonest.catalog
  down hdown := absurd hdown hup
  coroutines other found hfound := by
    change Function.update hub.coroutines task current other = some found at hfound
    by_cases hother : other = task
    · rw [hother, Function.update_self] at hfound
      exact hcurrent found hfound
    · rw [Function.update_of_ne hother] at hfound
      exact hhonest.coroutines other found hfound
  handler runId routine hhandler := absurd hhandler (hactive runId routine)
  rows := hhonest.rows

/-- An execution that is done. -/
theorem Honest.remove (hhonest : hub.Honest tools settings delegated known)
    (hup : hub.phase ≠ .down) :
    ({ hub.setCoroutine task none with active := none } : Hub).Honest tools settings delegated
      known :=
  hhonest.setCoroutine hup (fun coroutine hcoroutine => by cases hcoroutine)
    inner_none

/-- New stores with traced rows keep the hub honest. -/
theorem Honest.withStores (hhonest : hub.Honest tools settings delegated known) {stores : Stores}
    (hrows : RowsTraced tools known stores.database) :
    (hub.withShared (hub.toShared.withStores stores)).Honest tools settings delegated known where
  since := hhonest.since
  catalog := hhonest.catalog
  down := hhonest.down
  coroutines := hhonest.coroutines
  handler := hhonest.handler
  rows := hrows

theorem Honest.withDatabase (hhonest : hub.Honest tools settings delegated known)
    {database : Database} (hsame : database.artifacts = hub.stores.database.artifacts) :
    (hub.withShared (hub.toShared.withDatabase database)).Honest tools settings delegated known := by
  refine hhonest.withStores fun record hrecord => hhonest.rows record ?_
  rw [← hsame]
  exact hrecord

/-- Detached cancels say nothing of artifacts. -/
theorem Honest.withDetached (hhonest : hub.Honest tools settings delegated known)
    (detached : List (Delegation × CancelPhase)) :
    ({ hub with detached } : Hub).Honest tools settings delegated known :=
  ⟨hhonest.since, hhonest.catalog, hhonest.down, hhonest.coroutines, hhonest.handler, hhonest.rows⟩

/-- Recording a delegation of a catalog agent keeps the hub honest. -/
theorem Honest.delegate (hhonest : hub.Honest tools settings delegated known) {spec : AgentSpec}
    {context : AgentContext ContextItem} (hspec : spec ∈ agentSpecs)
    (hstage : context.stage = spec.stage) :
    (hub.withShared (hub.toShared.delegate spec context)).Honest tools settings delegated known where
  since := List.Subset.trans hhonest.since (List.subset_append_left _ _)
  catalog request hrequest := by
    rcases List.mem_append.mp hrequest with hbefore | hnew
    · exact hhonest.catalog request hbefore
    · obtain rfl := List.mem_singleton.mp hnew
      exact ⟨hspec, hstage⟩
  down := hhonest.down
  coroutines task coroutine hcoroutine :=
    (hhonest.coroutines task coroutine hcoroutine).grow (List.subset_append_left _ _) Set.Subset.rfl
  handler := hhonest.handler
  rows := hhonest.rows

/-- A call of the interface goes on, or is over. -/
theorem honest_settleHandler (hhonest : hub.Honest tools settings delegated known)
    (hup : hub.phase ≠ .down) {routine : Routine Unit}
    (htruthful : Truthful tools settings known routine) :
    (hub.settleHandler runId routine).Honest tools settings delegated known := by
  have hover : ({ hub with active := none } : Hub).Honest tools settings delegated known :=
    ⟨hhonest.since, hhonest.catalog, fun hdown => absurd hdown hup, hhonest.coroutines,
      fun _ _ hactive => (by cases hactive), hhonest.rows⟩
  cases routine with
  | done value => exact hover
  | raise raised => exact hover
  | call request resume =>
      refine ⟨hhonest.since, hhonest.catalog, fun hdown => absurd hdown hup, hhonest.coroutines, ?_,
        hhonest.rows⟩
      intro runId routine hactive
      cases hactive
      exact htruthful

/-- An execution goes on to its next await, or ends. -/
theorem honest_settle (hhonest : hub.Honest tools settings delegated known)
    (hup : hub.phase ≠ .down) {routine : Routine Unit}
    (htruthful : Truthful tools settings known routine) :
    (hub.settle task coroutine routine).Honest tools settings delegated known := by
  cases routine with
  | done value => exact hhonest.remove hup
  | raise raised => exact hhonest.remove hup
  | call request resume =>
      by_cases hjob : ∃ job, request = .runAgents job
      · obtain ⟨job, rfl⟩ := hjob
        refine hhonest.setCoroutine hup (fun found hfound => ?_) inner_none
        obtain rfl := Option.some.inj hfound
        refine ⟨htruthful.1, htruthful.2, fun child hchild => ?_, fun child hchild => ?_⟩ <;>
          obtain ⟨spec, hspec, rfl⟩ := List.mem_map.mp hchild
        · exact (List.mem_filter.mp hspec).1
        · trivial
      · rw [settle_call fun job hrequest => hjob ⟨job, hrequest⟩]
        refine hhonest.setCoroutine hup (fun found hfound => ?_)
          (inner_coroutine _ _)
        obtain rfl := Option.some.inj hfound
        exact htruthful

/-- Putting an honest child back keeps the hub honest. -/
theorem Honest.putChild (hhonest : hub.Honest tools settings delegated known)
    (hup : hub.phase ≠ .down) (hgroup : group.Honest tools settings hub.delegated known)
    (hspec : child.spec ∈ agentSpecs)
    (hbody : child.body.Honest tools settings hub.delegated known)
    (hactive : Inner active) :
    ({ hub.putChild task coroutine group child with active } : Hub).Honest tools settings delegated
      known := by
  refine hhonest.setCoroutine hup (fun found hfound => ?_) hactive
  obtain rfl := Option.some.inj hfound
  exact hgroup.update hspec hbody

/-- The task of an agent goes on to its next await, or ends. -/
theorem honest_settleChild (hhonest : hub.Honest tools settings delegated known)
    (hup : hub.phase ≠ .down) (hgroup : group.Honest tools settings hub.delegated known)
    (hspec : child.spec ∈ agentSpecs)
    {routine : Routine ArtifactId} (htruthful : Truthful tools settings known routine) :
    (hub.settleChild platform settings task coroutine group child routine).Honest tools settings
      delegated known := by
  cases routine with
  | done value => exact hhonest.putChild hup hgroup hspec trivial inner_none
  | raise raised => exact hhonest.putChild hup hgroup hspec trivial inner_none
  | call request resume =>
      by_cases hinvoke : ∃ spec context, request = .invoke spec context
      · obtain ⟨spec, context, rfl⟩ := hinvoke
        obtain ⟨⟨-, hagent, hstage⟩, hawaits⟩ := htruthful
        have hlater := hhonest.delegate hagent hstage
        refine hlater.putChild hup (hgroup.grow (List.subset_append_left _ _) Set.Subset.rfl) hspec
          ?_ inner_none
        exact ⟨context, List.mem_append_right _ (List.mem_singleton_self _), rfl, hawaits⟩
      · rw [settleChild_call fun spec context hrequest => hinvoke ⟨spec, context, hrequest⟩]
        exact hhonest.putChild hup hgroup hspec htruthful (inner_child _ _ _)

/-- The task of an agent goes on after a statement of its invocation. -/
theorem honest_proceed (hhonest : hub.Honest tools settings delegated known)
    (hup : hub.phase ≠ .down) (hgroup : group.Honest tools settings hub.delegated known)
    (hspec : child.spec ∈ agentSpecs)
    {invocation : Invocation} {resume : Except Raised AgentResult → Routine ArtifactId}
    (hserving : Serving tools settings hub.delegated known invocation resume)
    {turn : Turn} {returning abandoned : Prop}
    (hproceeds : invocation.Proceeds hub.stores.database returning abandoned turn)
    (hgrown : known ⊆ grown)
    (hreturned : ∀ result, turn.progress = .returned result → ∀ context,
      ⟨invocation.spec, context⟩ ∈ hub.delegated → invocation.context = context.plain platform →
        ⟨settings, invocation.spec, context, result⟩ ∈ grown) :
    (hub.proceed tools settings task coroutine group child resume turn).Honest tools settings
      delegated grown := by
  obtain ⟨context, hdelegated, hcontext, hexpects⟩ := hserving
  obtain ⟨database, posted, progress⟩ := turn
  have hwritten := hhonest.withDatabase hproceeds.confined.artifacts
  cases progress with
  | running invocation =>
      obtain ⟨hagent, hsame, -⟩ := hproceeds.running invocation rfl
      have hwaiting : Serving tools settings hub.delegated known invocation resume := by
        refine ⟨context, ?_, hsame.trans hcontext, ?_⟩ <;> rw [hagent]
        · exact hdelegated
        · exact hexpects
      refine Honest.grow ?_ hgrown
      unfold proceed
      dsimp only
      split
      next task draft hpoint =>
        refine hwritten.putChild hup hgroup hspec ⟨?_, hwaiting⟩ (inner_some_child _ _)
        exact truthful_of_faithful (faithful_humanInput _ _)
      next => exact hwritten.putChild hup hgroup hspec hwaiting inner_none
  | returned result =>
      have hmember := hreturned result rfl context hdelegated hcontext
      have hresumed : Truthful tools settings (insert ⟨settings, invocation.spec, context, result⟩
          known) (resume (.ok result)) := by
        refine truthful_answer hexpects ⟨fun other hother => ?_, fun raised hraised => ?_⟩
        · obtain rfl : result = other := Except.ok.inj hother
          rfl
        · cases hraised
      exact honest_settleChild (hwritten.grow hgrown) hup
        (hgroup.grow (List.Subset.refl _) hgrown) hspec
        (Truthful.grow hresumed (Set.insert_subset hmember hgrown))
  | raised ending left =>
      refine Honest.grow ?_ hgrown
      exact honest_settleChild (hwritten.withDetached _) hup hgroup hspec (truthful_error hexpects _)

/-- `_human_input` goes on to its next await, or its answer reaches the invocation. -/
theorem honest_settleAsking (hhonest : hub.Honest tools settings delegated known)
    (hup : hub.phase ≠ .down) (hgroup : group.Honest tools settings hub.delegated known)
    (hspec : child.spec ∈ agentSpecs)
    {invocation : Invocation} {resume : Except Raised AgentResult → Routine ArtifactId}
    (hserving : Serving tools settings hub.delegated known invocation resume)
    {routine : Routine Json} (htruthful : Truthful tools settings known routine)
    (hnext : hub.settleAsking tools settings task coroutine group child invocation resume routine =
      some next) : next.Honest tools settings delegated known := by
  have hconclude (result : Except Raised Json)
      (hturn : ((invocation.step settings.client hub.stores.database (inputEvent result)).map
        fun turn => hub.proceed tools settings task coroutine group child resume turn) =
          some next) : next.Honest tools settings delegated known := by
    obtain ⟨turn, hstep, rfl⟩ := Option.map_eq_some_iff.mp hturn
    have hproceeds := Invocation.proceeds_step hstep
    refine honest_proceed hhonest hup hgroup hspec hserving hproceeds Set.Subset.rfl
      fun other hother => ?_
    -- Only a statement of the invocation itself returns.
    obtain ⟨accepted, hadvance⟩ := hproceeds.returned other hother
    unfold inputEvent at hadvance
    split at hadvance <;> cases hadvance
  cases routine with
  | done response => exact hconclude (.ok response) hnext
  | raise raised => exact hconclude (.error raised) hnext
  | call request resume =>
      cases hnext
      exact hhonest.putChild hup hgroup hspec ⟨htruthful, hserving⟩ (inner_child _ _ _)

/-- A statement on behalf of whoever runs. -/
theorem serve_honest_hub (hhonest : hub.Honest tools settings delegated known)
    (hup : hub.phase ≠ .down) {request : Request} {answer : request.Answer}
    (hpresumes : request.Presumes tools known)
    (hserve : hub.serve platform clock runId fault request = some (answer, next)) :
    next.Honest tools settings delegated known ∧ next.phase ≠ .down ∧
      next.delegated = hub.delegated ∧ request.Tells platform settings known known answer := by
  cases request with
  | activeTask cancelable =>
      cases hserve
      exact ⟨hhonest, hup, rfl, rfl⟩
  | createTask attempt =>
      cases hserve
      refine ⟨⟨hhonest.since, hhonest.catalog, fun hdown => absurd hdown hup,
        fun other found hfound => ?_, hhonest.handler, hhonest.rows⟩, hup, rfl, rfl⟩
      change Function.update hub.coroutines hub.nextTask _ other = some found at hfound
      by_cases hnew : other = hub.nextTask
      · rw [hnew, Function.update_self, Option.some.injEq] at hfound
        rw [← hfound]
        trivial
      · rw [Function.update_of_ne hnew] at hfound
        exact hhonest.coroutines other found hfound
  | cancelTask =>
      obtain ⟨rfl, rfl⟩ := Prod.mk.inj (Option.some.inj hserve)
      cases hlive : hub.liveTask runId with
      | none => exact ⟨hhonest, hup, rfl, rfl⟩
      | some live =>
          obtain ⟨task, coroutine⟩ := live
          obtain ⟨found, -, hcoroutine⟩ := Option.bind_eq_some_iff.mp hlive
          obtain ⟨current, hcurrent, hpair⟩ := Option.map_eq_some_iff.mp hcoroutine
          cases hpair
          refine ⟨⟨hhonest.since, hhonest.catalog, fun hdown => absurd hdown hup,
            fun other found hfound => ?_, hhonest.handler, hhonest.rows⟩, hup, rfl, rfl⟩
          change Function.update hub.coroutines task _ other = some found at hfound
          by_cases hother : other = task
          · rw [hother, Function.update_self, Option.some.injEq] at hfound
            rw [← hfound]
            exact hhonest.coroutines task coroutine hcurrent
          · rw [Function.update_of_ne hother] at hfound
            exact hhonest.coroutines other found hfound
  | _ =>
      obtain ⟨after, hanswer, rfl⟩ := stored_of_serve rfl hserve
      obtain ⟨hrows, htells⟩ := answer_honest hhonest.rows hpresumes hanswer
      exact ⟨hhonest.withStores hrows, hup, rfl, htells⟩

/-- The task of an agent belongs to the group of an execution. -/
theorem Honest.find (hhonest : hub.Honest tools settings delegated known) {agent : String}
    (hfound : hub.findChild task agent = some (coroutine, group, child)) :
    hub.phase ≠ .down ∧ group.Honest tools settings hub.delegated known ∧
      child.spec ∈ agentSpecs ∧ child.body.Honest tools settings hub.delegated known := by
  obtain ⟨hcoroutine, hgathering, hmember, -⟩ := findChild_eq_some hfound
  have hbody := hhonest.coroutines task coroutine hcoroutine
  rw [hgathering] at hbody
  have hgroup : group.Honest tools settings hub.delegated known := hbody
  exact ⟨hhonest.up hcoroutine, hgroup, hgroup.catalog child hmember,
    hgroup.children child hmember⟩

/-- Whoever runs does its next statement. -/
theorem honest_advance (hhonest : hub.Honest tools settings delegated known)
    (hnext : hub.advance clock tools settings fault = some next) :
    next.Honest tools settings delegated known := by
  unfold advance at hnext
  split at hnext
  next => cases hnext
  next runId request resume hactive =>
    obtain ⟨⟨answer, after⟩, hserve, rfl⟩ := Option.map_eq_some_iff.mp hnext
    have hup : hub.phase ≠ .down := by
      intro hdown
      rw [(hhonest.down hdown).2] at hactive
      cases hactive
    have htruthful := hhonest.handler runId _ hactive
    obtain ⟨hafter, hstill, -, htells⟩ := serve_honest_hub hhonest hup htruthful.1 hserve
    exact honest_settleHandler hafter hstill (truthful_answer htruthful.2 htells)
  next => cases hnext
  next task hactive =>
    obtain ⟨coroutine, hcoroutine, hnext⟩ := Option.bind_eq_some_iff.mp hnext
    split at hnext
    next request resume hbody =>
      obtain ⟨⟨answer, after⟩, hserve, rfl⟩ := Option.map_eq_some_iff.mp hnext
      have htruthful := hhonest.coroutines task coroutine hcoroutine
      rw [hbody] at htruthful
      obtain ⟨hafter, hstill, -, htells⟩ := serve_honest_hub hhonest (hhonest.up hcoroutine)
        htruthful.1 hserve
      exact honest_settle hafter hstill (truthful_answer htruthful.2 htells)
    next => cases hnext
  next task agent hactive =>
    obtain ⟨⟨coroutine, group, child⟩, hfound, hnext⟩ := Option.bind_eq_some_iff.mp hnext
    obtain ⟨hup, hgroup, hspec, hchild⟩ := hhonest.find hfound
    dsimp only at hnext
    split at hnext
    next request resume hbody =>
      obtain ⟨⟨answer, after⟩, hserve, rfl⟩ := Option.map_eq_some_iff.mp hnext
      rw [hbody] at hchild
      obtain ⟨hafter, hstill, hsame, htells⟩ := serve_honest_hub hhonest hup hchild.1 hserve
      exact honest_settleChild hafter hstill (hsame ▸ hgroup) hspec (truthful_answer hchild.2 htells)
    next invocation request answered resume hbody =>
      obtain ⟨⟨answer, after⟩, hserve, hsettle⟩ := Option.bind_eq_some_iff.mp hnext
      rw [hbody] at hchild
      obtain ⟨hafter, hstill, hsame, htells⟩ := serve_honest_hub hhonest hup hchild.1.1 hserve
      exact honest_settleAsking hafter hstill (hsame ▸ hgroup) hspec (hsame ▸ hchild.2)
        (truthful_answer hchild.1.2 htells) hsettle
    next => cases hnext

/-- A reply of an agent is a truthful answer. -/
theorem tells_reply {reply : Reply} {request : Request} {answer : request.Answer}
    (hreply : reply.answer request = some answer) :
    request.Tells platform settings known known answer := by
  unfold Reply.answer at hreply
  split at hreply <;> first | rfl | cases hreply

/-- Beginning an execution keeps the hub honest. -/
theorem honest_begin (hhonest : hub.Honest tools settings delegated known)
    (hidle : hub.active = none) (hnext : hub.begin tools settings task = some next) :
    next.Honest tools settings delegated known := by
  obtain ⟨coroutine, hcoroutine, hnext⟩ := Option.bind_eq_some_iff.mp hnext
  have hup := hhonest.up hcoroutine
  split at hnext
  next hbody =>
    split at hnext
    next =>
      cases hnext
      have hremoved : ({ hub.setCoroutine task none with active := none } : Hub).Honest tools
        settings delegated known := hhonest.remove hup
      rw [← hidle] at hremoved
      exact hremoved
    next =>
      cases hnext
      exact honest_settle hhonest hup (truthful_of_faithful (faithful_execute _))
  next => cases hnext

theorem honest_receive (hhonest : hub.Honest tools settings delegated known) {reply : Reply}
    (hnext : hub.receive task reply = some next) : next.Honest tools settings delegated known := by
  obtain ⟨coroutine, hcoroutine, hnext⟩ := Option.bind_eq_some_iff.mp hnext
  split at hnext
  next request resume hbody =>
    split at hnext
    next => cases hnext
    next =>
      obtain ⟨answer, hreply, rfl⟩ := Option.map_eq_some_iff.mp hnext
      have htruthful := hhonest.coroutines task coroutine hcoroutine
      rw [hbody] at htruthful
      exact honest_settle hhonest (hhonest.up hcoroutine)
        (truthful_answer htruthful.2 (tells_reply hreply))
  next => cases hnext

theorem honest_interrupt (hhonest : hub.Honest tools settings delegated known)
    (hidle : hub.active = none) (hnext : hub.interrupt task = some next) :
    next.Honest tools settings delegated known := by
  obtain ⟨coroutine, hcoroutine, hnext⟩ := Option.bind_eq_some_iff.mp hnext
  have hup := hhonest.up hcoroutine
  have hbody := hhonest.coroutines task coroutine hcoroutine
  split at hnext
  next => cases hnext
  next =>
    dsimp only at hnext
    split at hnext
    next request resume hrunning =>
      rw [hrunning] at hbody
      split at hnext
      next =>
        cases hnext
        exact honest_settle hhonest hup (truthful_error hbody.2 _)
      next => cases hnext
    next group hgathering =>
      rw [hgathering] at hbody
      have hgroup : group.Honest tools settings hub.delegated known := hbody
      cases hnext
      have hset (aborted : Group) (haborted : aborted.Honest tools settings hub.delegated known) :
          (hub.setCoroutine task
            (some { coroutine with pending := false, body := .gathering aborted })).Honest tools
              settings delegated known := by
        have hput : ({ hub.setCoroutine task (some { coroutine with
            pending := false, body := .gathering aborted }) with active := none } : Hub).Honest tools
            settings delegated known := by
          refine hhonest.setCoroutine hup (fun found hfound => ?_) inner_none
          obtain rfl := Option.some.inj hfound
          exact haborted
        rw [← hidle] at hput
        exact hput
      apply hset
      split
      next => exact hgroup
      next =>
        have habort := hgroup.abort
        exact ⟨habort.job, habort.resume, habort.catalog, habort.children⟩
    next => cases hnext

theorem honest_join (hhonest : hub.Honest tools settings delegated known)
    (hnext : hub.join task = some next) : next.Honest tools settings delegated known := by
  obtain ⟨coroutine, hcoroutine, hnext⟩ := Option.bind_eq_some_iff.mp hnext
  have hbody := hhonest.coroutines task coroutine hcoroutine
  split at hnext
  next group hgathering =>
    rw [hgathering] at hbody
    have hgroup : group.Honest tools settings hub.delegated known := hbody
    split at hnext
    next => cases hnext
    next =>
      cases hnext
      exact honest_settle hhonest (hhonest.up hcoroutine) (truthful_answer hgroup.resume rfl)
  next => cases hnext

theorem honest_startChild (hhonest : hub.Honest tools settings delegated known) {agent : String}
    (hnext : hub.startChild tools settings task agent = some next) :
    next.Honest tools settings delegated known := by
  obtain ⟨⟨coroutine, group, child⟩, hfound, hnext⟩ := Option.bind_eq_some_iff.mp hnext
  obtain ⟨hup, hgroup, hspec, -⟩ := hhonest.find hfound
  dsimp only at hnext
  split at hnext
  next =>
    split at hnext
    next => cases hnext
    next =>
      cases hnext
      exact honest_settleChild hhonest hup hgroup hspec
        (truthful_of_faithful (faithful_invokeAgent hgroup.job hspec))
  next => cases hnext

theorem honest_acquire (hhonest : hub.Honest tools settings delegated known) {agent : String}
    (hnext : hub.acquire platform settings task agent = some next) :
    next.Honest tools settings delegated known := by
  obtain ⟨⟨coroutine, group, child⟩, hfound, hnext⟩ := Option.bind_eq_some_iff.mp hnext
  obtain ⟨hup, hgroup, hspec, hchild⟩ := hhonest.find hfound
  dsimp only at hnext
  split at hnext
  next resume hbody =>
    split at hnext
    next => cases hnext
    next =>
      cases hnext
      rw [hbody] at hchild
      exact honest_settleChild hhonest hup hgroup (by exact hspec) (truthful_answer hchild.2 rfl)
  next => cases hnext

/-- A client's event keeps the hub honest, once the completion it returns is known. -/
theorem honest_invoke (hhonest : hub.Honest tools settings delegated known) {agent : String}
    {event : ClientEvent} (hgrown : known ⊆ grown)
    (hreturned : ∀ returned, hub.returning settings (.client task agent event) = some returned →
      ∀ context, ⟨returned.spec, context⟩ ∈ hub.delegated →
        returned.context = context.plain platform →
          ⟨returned.settings, returned.spec, context, returned.result⟩ ∈ grown)
    (hnext : hub.invoke tools settings task agent event = some next) :
    next.Honest tools settings delegated grown := by
  obtain ⟨⟨coroutine, group, child⟩, hfound, hnext⟩ := Option.bind_eq_some_iff.mp hnext
  obtain ⟨hup, hgroup, hspec, hchild⟩ := hhonest.find hfound
  dsimp only at hnext
  split at hnext
  next invocation resume hbody =>
    rw [hbody] at hchild
    split at hnext
    next => cases hnext
    next =>
      obtain ⟨turn, hstep, rfl⟩ := Option.map_eq_some_iff.mp hnext
      refine honest_proceed hhonest hup hgroup hspec hchild (Invocation.proceeds_step hstep) hgrown
        fun result hresult => hreturned ⟨settings, invocation.spec, invocation.context, result⟩ ?_
      show (hub.findChild task agent).bind _ = some _
      rw [hfound, Option.bind_some]
      dsimp only
      rw [hbody]
      dsimp only
      rw [hstep, Option.bind_some, hresult]
  next => cases hnext

theorem honest_poll (hhonest : hub.Honest tools settings delegated known) {agent : String}
    {accepted : Bool} (hnext : hub.poll tools settings task agent accepted = some next) :
    next.Honest tools settings delegated known := by
  obtain ⟨⟨coroutine, group, child⟩, hfound, hnext⟩ := Option.bind_eq_some_iff.mp hnext
  obtain ⟨hup, hgroup, hspec, hchild⟩ := hhonest.find hfound
  dsimp only at hnext
  split at hnext
  next invocation surfaceId answered resume hbody =>
    rw [hbody] at hchild
    have hsettle (answer : Except Raised HumanInteraction)
        (hsettle : hub.settleAsking tools settings task coroutine group child invocation resume
          (answered answer) = some next) : next.Honest tools settings delegated known :=
      honest_settleAsking hhonest hup hgroup hspec hchild.2 (truthful_answer hchild.1.2 rfl) hsettle
    split at hnext
    next => cases hnext
    next =>
      split at hnext
      next =>
        split at hnext
        next =>
          split at hnext
          next => exact hsettle _ hnext
          next => cases hnext
        next => cases hnext
      next => exact hsettle _ hnext
  next => cases hnext

theorem honest_interruptChild (hhonest : hub.Honest tools settings delegated known)
    (hidle : hub.active = none) {agent : String}
    (hnext : hub.interruptChild tools settings task agent = some next) :
    next.Honest tools settings delegated known := by
  obtain ⟨⟨coroutine, group, child⟩, hfound, hnext⟩ := Option.bind_eq_some_iff.mp hnext
  obtain ⟨hup, hgroup, hspec, hchild⟩ := hhonest.find hfound
  dsimp only at hnext
  split at hnext
  next => cases hnext
  next =>
    split at hnext
    next hbody =>
      cases hnext
      have hput : ({ hub.putChild task coroutine group { child with
          pending := false, cancelled := true, body := .finished (.error .cancelled) } with
          active := none } : Hub).Honest tools settings delegated known :=
        hhonest.putChild hup hgroup (by exact hspec) trivial inner_none
      rw [← hidle] at hput
      exact hput
    next request resume hbody =>
      split at hnext
      next =>
        cases hnext
        rw [hbody] at hchild
        exact honest_settleChild hhonest hup hgroup (by exact hspec) (truthful_error hchild.2 _)
      next => cases hnext
    next invocation resume hbody =>
      obtain ⟨turn, hstep, rfl⟩ := Option.map_eq_some_iff.mp hnext
      rw [hbody] at hchild
      have hproceeds := Invocation.proceeds_step hstep
      refine honest_proceed hhonest hup hgroup (by exact hspec) hchild hproceeds Set.Subset.rfl
        fun result hresult => ?_
      obtain ⟨accepted, hadvance⟩ := hproceeds.returned result hresult
      cases hadvance
    next invocation request answered resume hbody =>
      split at hnext
      next =>
        rw [hbody] at hchild
        exact honest_settleAsking hhonest hup hgroup (by exact hspec) hchild.2
          (truthful_error hchild.1.2 _) hnext
      next => cases hnext
    next => cases hnext

theorem honest_stepDetached (hhonest : hub.Honest tools settings delegated known) {index : Nat}
    {event : ClientEvent} (hnext : hub.stepDetached index event = some next) :
    next.Honest tools settings delegated known := by
  obtain ⟨⟨delegation, phase⟩, -, hnext⟩ := Option.bind_eq_some_iff.mp hnext
  obtain ⟨turn, hstep, rfl⟩ := Option.map_eq_some_iff.mp hnext
  have hkept := (Invocation.confined_cancelStep hstep).1.artifacts
  exact (hhonest.withDatabase hkept).withDetached _

/-- A shutdown keeps the hub honest. -/
theorem honest_shutdown (hhonest : hub.Honest tools settings delegated known) :
    hub.shutdown.Honest tools settings delegated known where
  since := hhonest.since
  catalog := hhonest.catalog
  down hdown := by cases hdown
  coroutines task coroutine hcoroutine := by
    obtain ⟨before, hbefore, rfl⟩ := Option.map_eq_some_iff.mp hcoroutine
    have hbody := hhonest.coroutines task before hbefore
    split <;> exact hbody
  handler := hhonest.handler
  rows := hhonest.rows

/-- A crash keeps the hub honest: the rows are all that is left. -/
theorem honest_crash (hhonest : hub.Honest tools settings delegated known) :
    hub.crash.Honest tools settings delegated known where
  since := hhonest.since
  catalog := hhonest.catalog
  down _ := ⟨fun _ => rfl, rfl⟩
  coroutines task coroutine hcoroutine := by cases hcoroutine
  handler runId routine hactive := by cases hactive
  rows := hhonest.rows

theorem artifacts_recoverStatements (database : Database) (run : WorkflowRun) (count : Nat) :
    (database.recoverStatements run count).artifacts = database.artifacts := by
  unfold Database.recoverStatements
  split
  next =>
    dsimp only
    cases run.currentStage <;> split <;> rfl
  next => rfl

/-- A recovery that stops anywhere leaves the artifact rows alone. -/
theorem artifacts_recoverPart {database last : Database} {runs statements : Nat}
    (hlast : database.recoverPart runs statements = .ok last) :
    last.artifacts = database.artifacts := by
  unfold Database.recoverPart at hlast
  dsimp only at hlast
  cases hfold : ((database.listRuns 10000).take runs).foldlM Database.recoverRun database with
  | error error =>
      rw [hfold] at hlast
      cases hlast
  | ok recovered =>
      rw [hfold] at hlast
      have hsame := Database.artifacts_foldlM hfold
      obtain rfl := Except.ok.inj hlast
      split
      next run _ => exact (artifacts_recoverStatements recovered run statements).trans hsame
      next => exact hsame

/-- A restart keeps the hub honest. -/
theorem honest_recover (hhonest : hub.Honest tools settings delegated known)
    {cut : Option (Nat × Nat)} (hnext : hub.recover cut = some next) :
    next.Honest tools settings delegated known := by
  unfold recover at hnext
  split at hnext
  next =>
    split at hnext
    next database hrecovered =>
      cases hnext
      have hkept := hhonest.withDatabase (Database.artifacts_foldlM hrecovered)
      exact ⟨hkept.since, hkept.catalog, fun hphase => (by cases hphase), hkept.coroutines,
        hkept.handler, hkept.rows⟩
    next => cases hnext
  next =>
    split at hnext
    next database hrecovered =>
      cases hnext
      exact hhonest.withDatabase (artifacts_recoverPart hrecovered)
    next => cases hnext

/-- A command that is taken up keeps the hub honest. -/
theorem honest_handle (hhonest : hub.Honest tools settings delegated known)
    (hserving : hub.phase = .serving) (command : Command) :
    (hub.settleHandler runId (Hub.command command)).Honest tools settings delegated known := by
  have hup : hub.phase ≠ .down := by
    rw [hserving]
    decide
  apply honest_settleHandler hhonest hup
  cases command with
  | retry => exact truthful_of_faithful faithful_retry
  | cancel => exact truthful_of_faithful faithful_cancel
  | respond action => exact truthful_of_faithful (faithful_respond action)

/-- Whatever the hub does next, it stays honest. -/
theorem honest_step (hhonest : hub.Honest tools settings delegated known) {label : HubLabel}
    (hgrown : known ⊆ grown)
    (hreturned : ∀ returned, hub.returning settings label = some returned →
      ∀ context, ⟨returned.spec, context⟩ ∈ hub.delegated →
        returned.context = context.plain platform →
          ⟨returned.settings, returned.spec, context, returned.result⟩ ∈ grown)
    (hnext : (orchestration clock tools settings).step hub label = some next) :
    next.Honest tools settings delegated grown := by
  unfold orchestration at hnext
  dsimp only at hnext
  split at hnext
  next => cases hnext
  next hwaits =>
    have hidle (hlabel : label.waits = true) : hub.active = none := by
      rw [← Option.not_isSome_iff_eq_none]
      exact fun hactive => hwaits ⟨hlabel, hactive⟩
    cases label with
    | create id idea now =>
        dsimp only at hnext
        split at hnext
        next hserving =>
          cases hnext
          refine (honest_settleHandler hhonest ?_ (truthful_of_faithful (faithful_createRun idea
            now))).grow hgrown
          rw [hserving]
          decide
        next => cases hnext
    | call runId command =>
        dsimp only at hnext
        split at hnext
        next hserving =>
          cases hnext
          exact (honest_handle hhonest hserving command).grow hgrown
        next => cases hnext
    | step fault => exact (honest_advance hhonest hnext).grow hgrown
    | start task => exact (honest_begin hhonest (hidle rfl) hnext).grow hgrown
    | reply task reply => exact (honest_receive hhonest hnext).grow hgrown
    | interrupt task => exact (honest_interrupt hhonest (hidle rfl) hnext).grow hgrown
    | join task => exact (honest_join hhonest hnext).grow hgrown
    | pop runId =>
        dsimp only at hnext
        split at hnext
        next =>
          split at hnext
          next =>
            cases hnext
            have hkept := hhonest.grow hgrown
            exact ⟨hkept.since, hkept.catalog, hkept.down, hkept.coroutines, hkept.handler,
              hkept.rows⟩
          next => cases hnext
        next => cases hnext
    | startChild task agent => exact (honest_startChild hhonest hnext).grow hgrown
    | acquire task agent => exact (honest_acquire hhonest hnext).grow hgrown
    | client task agent event => exact honest_invoke hhonest hgrown hreturned hnext
    | poll task agent accepted => exact (honest_poll hhonest hnext).grow hgrown
    | interruptChild task agent =>
        exact (honest_interruptChild hhonest (hidle rfl) hnext).grow hgrown
    | detached index event => exact (honest_stepDetached hhonest hnext).grow hgrown
    | shutdown =>
        dsimp only at hnext
        split at hnext
        next =>
          cases hnext
          exact (honest_shutdown hhonest).grow hgrown
        next => cases hnext
    | crash =>
        dsimp only at hnext
        split at hnext
        next => cases hnext
        next =>
          cases hnext
          exact (honest_crash hhonest).grow hgrown
    | recover cut =>
        dsimp only at hnext
        split at hnext
        next => exact (honest_recover hhonest hnext).grow hgrown
        next => cases hnext

end Hub

end Steps

/-! ## Runs -/

namespace Site

section Runs

variable {platform : Platform} {tools : HubTools platform} {clock : Nat → Nat}
  {site next last : Site}

variable (tools) in
/-- What runs or is stored was written for invocations that returned. -/
structure Honest (site : Site) : Prop where
  hub : site.hub.Honest tools site.settings site.hub.delegated (site.known platform)
  published : ∀ record ∈ site.published, Traced tools (site.known platform) record.metadata

/-- A new site is honest: nothing is stored and nothing runs. -/
theorem honest_start (settings : HubSettings) : (Site.start settings).Honest tools where
  hub :=
    { since := List.Subset.refl _
      catalog := fun request hrequest => by cases hrequest
      down := fun _ => ⟨fun _ => rfl, rfl⟩
      coroutines := fun task coroutine hcoroutine => by cases hcoroutine
      handler := fun runId routine hactive => by cases hactive
      rows := fun record hrecord => by cases hrecord }
  published record hrecord := by cases hrecord

/-- A process that is down starts under any settings. -/
theorem Honest.configure (hhonest : site.Honest tools) (hdown : site.hub.phase = .down)
    (settings : HubSettings) : ({ site with settings } : Site).Honest tools where
  hub :=
    { since := hhonest.hub.since
      catalog := hhonest.hub.catalog
      down := hhonest.hub.down
      coroutines := fun task coroutine hcoroutine => by
        rw [(hhonest.hub.down hdown).1 task] at hcoroutine
        cases hcoroutine
      handler := fun runId routine hactive => by
        rw [(hhonest.hub.down hdown).2] at hactive
        cases hactive
      rows := hhonest.hub.rows }
  published := hhonest.published

/-- Another program writes an artifact that names no key. -/
theorem Honest.publish (hhonest : site.Honest tools) {request : WriteRequest}
    (hnone : request.execution.get? "cache_key" = none) {now : Nat} {record : ArtifactRecord}
    {after : Stores}
    (hwrite : writeArtifact platform request now site.hub.stores = .ok record after) :
    ({ site.withStores after with published := site.published ++ [record] } : Site).Honest
      tools := by
  obtain ⟨hrows, artifactId, createdAt, hmetadata⟩ := recorded_of_write hhonest.hub.rows hwrite
  refine ⟨hhonest.hub.withStores hrows, fun other hother => ?_⟩
  rcases List.mem_append.mp hother with hbefore | hnew
  · exact hhonest.published other hbefore
  · rw [List.mem_singleton.mp hnew]
    exact ⟨request, artifactId, createdAt, Or.inl hnone, hmetadata⟩

theorem honest_step {label : SiteLabel} (hhonest : site.Honest tools)
    (hnext : (deployment clock tools).step site label = some next) : next.Honest tools := by
  cases label with
  | configure settings =>
      change (if site.hub.phase = .down then _ else none) = some next at hnext
      split at hnext
      next hdown =>
        cases hnext
        exact hhonest.configure hdown settings
      next => cases hnext
  | publish request =>
      change (if request.execution.get? "cache_key" ≠ none then none else
        match writeArtifact platform request (site.hub.stores.now clock) site.hub.stores with
        | .ok record stores =>
          some { site.withStores stores with published := site.published ++ [record] }
        | .error _ stores => some (site.withStores stores)) = some next at hnext
      split at hnext
      next => cases hnext
      next hkey =>
        split at hnext
        next record stores hwrite =>
          cases hnext
          exact hhonest.publish (not_not.mp hkey) hwrite
        next error stores hwrite =>
          cases hnext
          rw [writeArtifact_error hwrite]
          exact ⟨hhonest.hub.withStores hhonest.hub.rows, hhonest.published⟩
  | index position =>
      obtain ⟨record, hrecord, rfl⟩ := Option.map_eq_some_iff.mp hnext
      have htraced := hhonest.published record (List.mem_of_getElem? hrecord)
      exact ⟨hhonest.hub.withStores (rows_addArtifact hhonest.hub.rows htraced), hhonest.published⟩
  | hub label =>
      obtain ⟨hub, hstep, rfl⟩ := Option.map_eq_some_iff.mp hnext
      have hlater : site.hub.delegated ⊆ hub.delegated :=
        (Hub.honest_step hhonest.hub (Set.subset_univ _) (fun _ _ _ _ _ => trivial) hstep).since
      have hgrown : site.known platform ⊆ known platform ⟨hub, site.settings, site.returned ++
          (site.hub.returning site.settings label).toList, site.published⟩ :=
        fun completion hcompletion => ⟨hlater hcompletion.1, List.mem_append_left _ hcompletion.2⟩
      refine ⟨{ Hub.honest_step hhonest.hub hgrown ?_ hstep with since := List.Subset.refl _ },
        fun record hrecord => (hhonest.published record hrecord).mono tools hgrown⟩
      intro returned hreturned context hdelegated hcontext
      refine ⟨hlater hdelegated, List.mem_append_right _ ?_⟩
      obtain ⟨settings, spec, plain, result⟩ := returned
      obtain rfl : plain = context.plain platform := hcontext
      rw [hreturned]
      exact List.mem_singleton_self _

/-- Every site that is reached is honest. -/
theorem honest_of_run {settings : HubSettings} {labels : List SiteLabel}
    (hrun : (deployment clock tools).run (.start settings) labels = some last) :
    last.Honest tools :=
  (deployment clock tools).run_invariant (Honest tools) (fun _ _ _ => honest_step)
    (honest_start settings) hrun

end Runs

end Site

/-! ## What is found under a key -/

section Hits

variable {platform : Platform} {tools : HubTools platform} {clock : Nat → Nat}
  {floatText : Rat → List Char} {site : Site} {spec : AgentSpec}
  {context : AgentContext ContextItem} {artifact : ArtifactRecord}

/-- What `_cached_output` returns is listed, carries the key and the inputs, and can be read. -/
theorem of_cachedOutput {stores after : Stores} {runId : RunId} {cacheKey : String}
    {inputIds : List ArtifactId}
    (hperform : stores.perform platform clock runId (cachedOutput spec cacheKey inputIds) =
      some (.ok (some artifact), after)) :
    artifact ∈ stores.database.listArtifacts runId ∧
      isCached spec cacheKey inputIds artifact.metadata = true ∧
        ∃ content, stores.files.readContent platform artifact = .ok content := by
  obtain ⟨⟨answer, read⟩, hanswer, hperform⟩ := Option.bind_eq_some_iff.mp hperform
  cases hanswer
  simp only [raisedBy, id_eq, Program.ofExcept, Program.bind] at hperform
  cases hfound : (stores.database.listArtifacts runId).reverse.find? fun artifact =>
      isCached spec cacheKey inputIds artifact.metadata with
  | none =>
      rw [hfound] at hperform
      cases hperform
  | some found =>
      rw [hfound] at hperform
      obtain ⟨⟨answer, next⟩, hanswer, hrest⟩ := Option.bind_eq_some_iff.mp hperform
      cases hanswer
      cases hread : stores.files.readContent platform found with
      | error error =>
          rw [List.mapM_cons, hread] at hrest
          cases hrest
      | ok content =>
          rw [List.mapM_cons, hread] at hrest
          cases hrest
          have hkeyed := List.find?_some hfound
          exact ⟨List.mem_reverse.mp (List.mem_of_find?_eq_some hfound), hkeyed, content, hread⟩

/-- The artifact is the output of the invocation, which is the same as the one at hand. -/
structure Reuses (tools : HubTools platform) (floatText : Rat → List Char) (site : Site)
    (spec : AgentSpec) (context : AgentContext ContextItem) (artifact : ArtifactRecord)
    (completion : Completion) : Prop where
  completed : completion ∈ site.known platform
  run : completion.context.runId = context.runId
  stage : completion.context.stage = context.stage
  same : SameInvocation floatText completion.settings site.settings completion.spec spec
    completion.context context
  written : ∃ job artifactId createdAt, artifact.metadata = ArtifactMetadata.ofRequest platform
    (resultRequest tools completion.settings job completion.spec completion.context
      completion.result) artifactId createdAt
  readable : ∃ content, site.hub.stores.files.readContent platform artifact = .ok content ∧
    dumpsCanonical floatText content = dumpsCanonical floatText completion.result.content

/-- The output of an invocation carries its key. -/
theorem key_of_resultRequest (settings : HubSettings) (job : StageJob) (result : AgentResult) :
    (resultRequest tools settings job spec context result).execution.get? "cache_key" =
      some (.str (cacheKeyOf platform settings spec context)) :=
  Json.get?_merge_right rfl

/-- Whatever is found under the key of an invocation is the output of the same one. -/
theorem reuses_of_cached (hdecimal : Decimal floatText) (hdigest : CollisionFree platform floatText)
    (hhonest : site.Honest tools) (hspec : spec ∈ agentSpecs)
    (hstage : context.stage = spec.stage) (hread : ReadThrough platform context.artifacts)
    (hlisted : artifact ∈ site.hub.stores.database.listArtifacts context.runId)
    (hcached : isCached spec (cacheKeyOf platform site.settings spec context)
      (contextInputArtifactIds context) artifact.metadata = true) {content : Json}
    (hcontent : site.hub.stores.files.readContent platform artifact = .ok content) :
    ∃ completion, Reuses tools floatText site spec context artifact completion := by
  obtain ⟨hrow, hrun⟩ := Database.mem_listArtifacts.mp hlisted
  simp only [isCached, Bool.and_eq_true, beq_iff_eq] at hcached
  obtain ⟨⟨⟨-, hkey⟩, -⟩, hparents⟩ := hcached
  obtain ⟨request, artifactId, createdAt, hsourced, hmetadata⟩ := hhonest.hub.rows artifact hrow
  rw [hmetadata] at hkey hparents hrun
  change request.execution.get? "cache_key" = _ at hkey
  rcases hsourced with hnone | ⟨completion, hknown, hearlier, job, hjob, rfl⟩
  · rw [hnone] at hkey
    cases hkey
  · rw [key_of_resultRequest, Option.some.injEq, Json.str.injEq] at hkey
    have hsame := sameInvocation_of_key hdecimal hdigest hearlier hread hkey hparents
    obtain ⟨hagent, hplaced⟩ := hhonest.hub.catalog _ hknown.1
    refine ⟨completion, hknown, hjob.symm.trans hrun, ?_, hsame, ⟨job, artifactId, createdAt,
      hmetadata⟩, content, hcontent, hdigest _ _ ?_⟩
    · rw [hstage, hplaced]
      exact stage_of_agent _ hagent _ hspec hsame.agent
    · rw [digest_of_readContent hcontent, hmetadata]
      rfl

/-- A draft that was shown to a person carries no key. -/
theorem ne_draft_of_cached {cacheKey : String} {inputIds : List ArtifactId}
    (hcached : isCached spec cacheKey inputIds artifact.metadata = true) (mapping : DelegatedTask)
    (draft : AgentResult) (parents : List ArtifactId) (artifactId : ArtifactId) (createdAt : Nat) :
    artifact.metadata ≠
      ArtifactMetadata.ofRequest platform (draftRequest mapping draft parents) artifactId
        createdAt := by
  intro hmetadata
  simp only [isCached, Bool.and_eq_true, beq_iff_eq] at hcached
  have hkey := hcached.1.1.2
  rw [hmetadata] at hkey
  cases hkey

/-- Whatever `_cached_output` finds for an agent and its context is listed, can be read and
is the output of a completed invocation that differs at most in its retry number; it is no
draft. -/
theorem cache_hit_same_invocation {settings : HubSettings} {labels : List SiteLabel}
    {task : Nat} {agent : String} {coroutine : Coroutine} {group : Group} {child : Child}
    {after : Stores} (hdecimal : Decimal floatText) (hdigest : CollisionFree platform floatText)
    (hrun : (deployment clock tools).run (.start settings) labels = some site)
    (hchild : site.hub.findChild task agent = some (coroutine, group, child))
    (hcontext : buildAgentContext child.spec group.job.run.runId group.job.run.idea
      group.job.context.artifacts group.job.repairAttempt group.job.repairFeedback
      group.job.retryAttempt = .ok context)
    (hcached : site.hub.stores.perform platform clock context.runId (cachedOutput child.spec
      (cacheKeyOf platform site.settings child.spec context) (contextInputArtifactIds context)) =
        some (.ok (some artifact), after)) :
    artifact ∈ site.hub.stores.database.listArtifacts context.runId ∧
      (∃ completion, Reuses tools floatText site child.spec context artifact completion) ∧
      ∀ mapping draft parents artifactId createdAt, artifact.metadata ≠
        ArtifactMetadata.ofRequest platform (draftRequest mapping draft parents) artifactId
          createdAt := by
  have hhonest := Site.honest_of_run hrun
  obtain ⟨-, hgroup, hspec, -⟩ := Hub.Honest.find hhonest.hub hchild
  obtain ⟨hlisted, hkeyed, content, hcontent⟩ := of_cachedOutput hcached
  refine ⟨hlisted, ?_, ne_draft_of_cached hkeyed⟩
  exact reuses_of_cached hdecimal hdigest hhonest hspec (stage_of_buildAgentContext hcontext)
    (readThrough_of_buildAgentContext hgroup.job hcontext) hlisted hkeyed hcontent

end Hits

/-- Floating-point numbers by numerator and denominator; whole ones as they are written. -/
def sampleFloatText (value : Rat) : List Char :=
  (toString value.num).toList ++ '.' :: (toString ((value.den : Int) - 1)).toList

theorem point_notMem (value : Int) : '.' ∉ (toString value).toList := by
  have hdigits (digits : Nat) : '.' ∉ digits.repr.toList := by
    rw [Nat.toList_repr]
    intro hpoint
    exact absurd (Nat.isDigit_of_mem_toDigits (by decide) (by decide) hpoint) (by decide)
  show '.' ∉ value.repr.toList
  rw [Int.repr_eq_if]
  split
  next => exact hdigits _
  next =>
    rw [String.toList_append, List.mem_append]
    rintro (hsign | hdigit)
    · exact absurd hsign (by decide)
    · exact hdigits _ hdigit

theorem takeWhile_point {text rest : List Char} (htext : '.' ∉ text) :
    (text ++ '.' :: rest).takeWhile (· != '.') = text := by
  have hall : ∀ c ∈ text, (c != '.') = true := by
    intro c hc
    rw [bne_iff_ne]
    rintro rfl
    exact htext hc
  rw [List.takeWhile_append_of_pos hall, List.takeWhile_cons]
  simp

theorem decimal_sampleFloatText : Decimal sampleFloatText where
  number value := by
    refine ⟨by simp [sampleFloatText], fun c hc => ?_⟩
    rcases List.mem_append.mp hc with hnum | hrest
    · exact (numberText_int _).chars c hnum
    · rcases List.mem_cons.mp hrest with rfl | hden
      · decide
      · exact (numberText_int _).chars c hden
  injective first second heq := by
    have hnum := congrArg (List.takeWhile (· != '.')) heq
    unfold sampleFloatText at hnum heq
    rw [takeWhile_point (point_notMem _), takeWhile_point (point_notMem _)] at hnum
    rw [hnum] at heq
    have hden := (List.cons.inj (List.append_cancel_left heq)).2
    have hsame := int_repr_inj (String.toList_inj.mp hden)
    exact Rat.ext (int_repr_inj (String.toList_inj.mp hnum)) (by omega)

def sampleHubSettings : HubSettings :=
  { evaluationScoreThreshold := 1, enforceHostPreflight := false }

/-- What the key of the requirements agent is the digest of. -/
def sampleInputs : Json :=
  .obj [("agent", .str "requirements-agent"), ("model_id", .str "provider:model"),
    ("prompt_version", .str "aidlc-agent-goals-v4"),
    ("context_contract_version", .str "aidlc-context-v3"), ("idea", .str "Build a task list"),
    ("artifact_hashes", .arr [.str "=\"A task list\""]), ("human_response", .null),
    ("repair_attempt", .int 0), ("repair_feedback", .null), ("repair_artifact_sha256", .null),
    ("runtime_profile", cacheRuntimeProfile sampleHubSettings)]

/-- A digest without collisions; it is short where a run has to be evaluated. -/
def sampleHubPlatform : Platform where
  sha256 content :=
    if content = sampleInputs then "inputs"
    else String.ofList ('=' :: dumpsCanonical sampleFloatText content)
  projectIdForRun runId := "project_" ++ runId
  isoformat now := toString now
  roundFloat value := value

theorem collisionFree_sampleHubPlatform : CollisionFree sampleHubPlatform sampleFloatText := by
  intro first second heq
  have hother (text : List Char) : "inputs" ≠ String.ofList ('=' :: text) := by
    intro hsame
    have hhead := congrArg (fun word : String => word.toList.head?) hsame
    rw [String.toList_ofList] at hhead
    exact absurd hhead (by simp)
  simp only [sampleHubPlatform] at heq
  split at heq
  next hfirst =>
    split at heq
    next hsecond => rw [hfirst, hsecond]
    next => exact absurd heq (hother _)
  next =>
    split at heq
    next => exact absurd heq.symm (hother _)
    next => exact (List.cons.inj (String.ofList_injective heq)).2

def sampleHubTools : HubTools sampleHubPlatform where
  evaluateGates _ _ := .error storageFailure
  validateGates _ := .error storageFailure
  validateEvaluation _ := .error storageFailure
  mergeSources _ := .error storageFailure
  contextBytes _ := 0
  contextSha256 _ := ""
  fingerprint _ := ""

def sampleResult (stage : String) (artifactKind : ArtifactKind) (content : String) :
    AgentTask where
  id := 1
  contextId := "run_0123456789abcdef0123456789abcdef:" ++ stage
  state := .completed
  detail := ""
  history := []
  artifact := some
    { artifactKind
      content := .str content
      markdown := ""
      humanPrompt := none
      execution := ⟨none, "provider:model", "aidlc-agent-goals-v4", none, none, none, "unknown"⟩ }

/-- A run that is cut off when the result of the requirements agent is stored, but not yet
its completion, and is retried up to the moment at which the agent would be asked again. -/
def sampleSiteLabels : List SiteLabel :=
  let statements (count : Nat) : List HubLabel := List.replicate count (.step .none)
  let host (task : Nat) : HubLabel := .reply task (.host ⟨0, true, false, "", "", "", "", []⟩)
  let begun (task : Nat) (agent : String) : List HubLabel :=
    [.startChild task agent, .acquire task agent]
  let delegated (agent : String) (result : AgentTask) : List HubLabel :=
    [.advance true, .card true, .advance true, .advance true, .receive result, .advance true,
      .advance true, .closed, .receive result, .advance true, .advance true].map (.client 0 agent)
  List.map .hub ([.recover none, .create sampleUuid "Build a task list" 0] ++ statements 4 ++
    [.start 0] ++ statements 4 ++ [host 0] ++ statements 12 ++
    begun 0 "intake-agent" ++ statements 2 ++
    delegated "intake-agent" (sampleResult "intake" .projectBrief "A task list") ++
    statements 6 ++ [.join 0] ++ statements 7 ++
    begun 0 "requirements-agent" ++ statements 3 ++
    delegated "requirements-agent" (sampleResult "requirements" .requirementsSpec "Tasks") ++
    statements 4 ++
    [.crash, .recover none, .call "run_0123456789abcdef0123456789abcdef" .retry] ++
    statements 8 ++ [.start 1] ++ statements 5 ++ [host 1] ++ statements 24 ++
    begun 1 "requirements-agent" ++ statements 1)

/-- Whether a retried agent with a cache would find its output. -/
def Site.hits {platform : Platform} (clock : Nat → Nat) (site : Site) (task : Nat)
    (agent : String) : Bool :=
  (site.hub.findChild task agent).any fun (_, group, child) =>
    child.spec.cacheable &&
    match buildAgentContext child.spec group.job.run.runId group.job.run.idea
      group.job.context.artifacts group.job.repairAttempt group.job.repairFeedback
      group.job.retryAttempt with
    | .error _ => false
    | .ok context =>
      context.retryAttempt == 1 &&
      match site.hub.stores.perform platform clock context.runId (cachedOutput child.spec
        (cacheKeyOf platform site.settings child.spec context)
        (contextInputArtifactIds context)) with
      | some (.ok (some _), _) => true
      | _ => false

theorem cache_hit_same_invocation_sample :
    ∃ (site : Site) (spec : AgentSpec) (context : AgentContext ContextItem)
      (artifact : ArtifactRecord),
      (deployment id sampleHubTools).run (.start sampleHubSettings) sampleSiteLabels = some site ∧
        spec.cacheable = true ∧ context.retryAttempt = 1 ∧
        artifact ∈ site.hub.stores.database.listArtifacts context.runId ∧
        (∃ completion,
          Reuses sampleHubTools sampleFloatText site spec context artifact completion) ∧
        ∀ mapping draft parents artifactId createdAt, artifact.metadata ≠
          ArtifactMetadata.ofRequest sampleHubPlatform (draftRequest mapping draft parents)
            artifactId createdAt := by
  have hhits : ((deployment id sampleHubTools).run (.start sampleHubSettings)
      sampleSiteLabels).any (fun site =>
        @Site.hits sampleHubPlatform id site 1 "requirements-agent") = true := by
    decide +kernel
  obtain ⟨site, hrun, hhit⟩ := (Option.any_eq_true _ _).mp hhits
  obtain ⟨⟨coroutine, group, child⟩, hchild, hhit⟩ := (Option.any_eq_true _ _).mp hhit
  obtain ⟨hcacheable, hhit⟩ := Bool.and_eq_true_iff.mp hhit
  split at hhit
  next => cases hhit
  next context hcontext =>
    obtain ⟨hretry, hhit⟩ := Bool.and_eq_true_iff.mp hhit
    split at hhit
    next artifact after hcached =>
      exact ⟨site, child.spec, context, artifact, hrun, hcacheable, beq_iff_eq.mp hretry,
        cache_hit_same_invocation decimal_sampleFloatText collisionFree_sampleHubPlatform hrun
          hchild hcontext hcached⟩
    next => cases hhit

end Aidlc
