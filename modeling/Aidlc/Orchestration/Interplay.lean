import Aidlc.A2a.Placement
import Aidlc.Orchestration.Footprints
import Aidlc.Orchestration.Growth

/-! # Programs that take turns

The programs of the hub keep to protocols over what the hub holds apart from them. Who
waits relies on what everybody else guarantees, so a property that every program keeps
by itself is kept by all of them together, in whatever order they run.
-/

namespace Aidlc

open Foundation Workflow

/-- An execution that is not done, as the others see it. -/
structure Attempt where
  runId : RunId
  retryAttempt : Nat
  /-- Its cancellation is still to be thrown. -/
  stopping : Bool

/-- The hub without its programs. -/
structure Census extends Shared where
  tasks : RunId → Option Nat
  executions : Nat → Option Attempt
  nextTask : Nat

namespace Census

def withStores (census : Census) (stores : Stores) : Census := { census with stores }

def withDatabase (census : Census) (database : Database) : Census :=
  census.withStores (census.stores.withDatabase database)

def delegate (census : Census) (spec : AgentSpec) (context : AgentContext ContextItem) : Census :=
  { census with delegated := census.delegated ++ [⟨spec, context⟩] }

/-- The census once an execution is done. -/
def forget (census : Census) (task : Nat) : Census :=
  { census with executions := Function.update census.executions task none }

/-- The census once the callback of a task that is done ran. -/
def pop (census : Census) (runId : RunId) : Census :=
  { census with tasks := Function.update census.tasks runId none }

/-- The census once the cancellation of an execution is thrown. -/
def calm (census : Census) (task : Nat) : Census :=
  { census with
    executions := Function.update census.executions task
      ((census.executions task).map fun attempt => { attempt with stopping := false }) }

/-- The census once some executions are asked to stop. -/
def stop (census : Census) (stopped : Nat → Bool) : Census :=
  { census with
    executions := fun task => (census.executions task).map fun attempt =>
      { attempt with stopping := attempt.stopping || stopped task } }

def crash (census : Census) : Census :=
  { census with tasks := fun _ => none, executions := fun _ => none }

/-- There is such an execution. -/
def Live (census : Census) (runId : RunId) (retryAttempt : Nat) : Prop :=
  ∃ task stopping, census.executions task = some ⟨runId, retryAttempt, stopping⟩

end Census

def Coroutine.attempt (coroutine : Coroutine) : Attempt :=
  ⟨coroutine.runId, coroutine.retryAttempt, coroutine.pending⟩

/-- What an execution has left to do. -/
def Coroutine.work (coroutine : Coroutine) : RunId × Nat × Body :=
  (coroutine.runId, coroutine.retryAttempt, coroutine.body)

def Hub.census (hub : Hub) : Census where
  toShared := hub.toShared
  tasks := hub.tasks
  executions task := (hub.coroutines task).map Coroutine.attempt
  nextTask := hub.nextTask

/-- Whose statement changes the hub. -/
inductive Actor where
  | handler (runId : RunId)
  | execution (runId : RunId) (retryAttempt : Nat)
  | agent (job : StageJob) (spec : AgentSpec)
  /-- The clients of the agents, and the callbacks of tasks. -/
  | surroundings

namespace Actor

/-- Neither a call of the interface, nor anybody who takes part in the execution of the run. -/
def Foreign (runId : RunId) : Actor → Prop
  | handler _ => False
  | execution run _ => run ≠ runId
  | agent job _ => job.run.runId ≠ runId
  | surroundings => True

/-- The run an actor makes its requests for. -/
def runId : Actor → Option RunId
  | handler runId | execution runId _ => some runId
  | agent job _ => some job.run.runId
  | surroundings => none

end Actor

/-- What the programs of a hub hold each other to. -/
structure Regime where
  protocol : Actor → Protocol Census Request Request.Answer
  /-- What holds between any two statements. -/
  invariant : Census → Prop
  /-- Where an execution may begin. -/
  begins : RunId → Nat → Census → Prop
  /-- Where the task of an agent may begin. -/
  starts : StageJob → AgentSpec → Census → Prop
  /-- What holds while an agent is invoked. -/
  attends : StageJob → AgentSpec → Census → Prop
  /-- What a call of the interface amounts to. -/
  calls : RunId → Census → Census → Prop
  /-- How a statement for a run may fail. -/
  permits : Census → RunId → Request → StorageFault → Prop

namespace Regime

/-- The program keeps to the protocol of its actor. -/
abbrev Keeps {ε α : Type} (regime : Regime) (actor : Actor) (post : Census → Prop)
    (program : Program Request Request.Answer ε α) (census : Census) : Prop :=
  program.Meets (regime.protocol actor) (fun _ => post) census

/-- The program waits, and keeps to the protocol once it is answered. -/
def Waits {ε α : Type} (regime : Regime) (actor : Actor) (post : Census → Prop) :
    Program Request Request.Answer ε α → Census → Prop
  | .call request resume, census => request.suspends = true ∧
    Program.Awaits (regime.protocol actor) (fun _ => post) request resume census
  | _, _ => False

/-- An invocation of the agent for the job. -/
def Serves (platform : Platform) (settings : HubSettings) (regime : Regime) (job : StageJob)
    (spec : AgentSpec) (census : Census) (invocation : Invocation)
    (resume : Except Raised AgentResult → Routine ArtifactId) : Prop :=
  ∃ context : AgentContext ContextItem, context.runId = job.run.runId ∧ context.stage = job.stage ∧
    Invocation.Placed (.initial settings.a2aBaseUrl spec (context.plain platform)) invocation ∧
      Program.Awaits (regime.protocol (.agent job spec)) (fun _ _ => True) (.invoke spec context)
        resume census

/-- What happened is no news to an agent that waits. -/
structure Stays (regime : Regime) (job : StageJob) (spec : AgentSpec) (census next : Census) :
    Prop where
  drifts : ∀ request, request.suspends = true →
    (regime.protocol (.agent job spec)).drifts request census next
  starts : regime.starts job spec census → regime.starts job spec next
  attends : regime.attends job spec census → regime.attends job spec next

/-- What happened is no news to an execution that waits, nor to its agents. -/
structure Undisturbed (regime : Regime) (runId : RunId) (retryAttempt : Nat)
    (census next : Census) : Prop where
  drifts : ∀ request, request.suspends = true →
    (regime.protocol (.execution runId retryAttempt)).drifts request census next
  begins : regime.begins runId retryAttempt census → regime.begins runId retryAttempt next
  agents : ∀ job spec, job.run.runId = runId → job.retryAttempt = retryAttempt →
    regime.Stays job spec census next

/-- What every program does by itself, and what it may rely on. -/
structure Sound {platform : Platform} (clock : Nat → Nat) (tools : HubTools platform)
    (settings : HubSettings) (regime : Regime) : Prop where
  initial : regime.invariant Hub.empty.census
  /-- No run has two executions. -/
  distinct : ∀ {census task other first second}, regime.invariant census →
    census.executions task = some first → census.executions other = some second →
      first.runId = second.runId → task = other
  /-- The next execution takes the place of none. -/
  vacant : ∀ {census}, regime.invariant census → census.executions census.nextTask = none
  -- the programs
  create : ∀ {census} (id : Uuid) (idea : String) (now : Nat), regime.invariant census →
    regime.Keeps (.handler (newRunId id)) (regime.calls (newRunId id) census)
      (Workflow.createRun idea now) census
  command : ∀ {census} (runId : RunId) (command : Command), regime.invariant census →
    regime.Keeps (.handler runId) (regime.calls runId census) (Hub.command command) census
  begin : ∀ {census task runId retryAttempt}, regime.invariant census →
    census.executions task = some ⟨runId, retryAttempt, false⟩ →
    regime.begins runId retryAttempt census →
      regime.Keeps (.execution runId retryAttempt) (fun _ => True)
        (Workflow.execute tools settings retryAttempt) census
  start : ∀ {census job spec}, regime.invariant census → spec ∈ agentsByStage job.stage →
    regime.starts job spec census →
      regime.Keeps (.agent job spec) (fun _ => True) (Workflow.invokeAgent tools settings job spec)
        census
  input : ∀ {census job spec} {mapping : DelegatedTask} {draft : AgentResult},
    regime.invariant census → spec ∈ agentsByStage job.stage → regime.attends job spec census →
      mapping.runId = job.run.runId → mapping.stage = job.stage → mapping.agent = spec.name →
        draft.artifactKind = spec.artifactKind →
          regime.Keeps (.agent job spec) (regime.attends job spec)
            (Workflow.humanInput tools settings mapping draft) census
  /-- Only the interface makes the requests of the interface. -/
  inner : ∀ {actor request census}, (∀ runId, actor ≠ .handler runId) →
    (regime.protocol actor).requires request census → request.ofInterface = false
  -- the answers
  idle : ∀ {actor request census}, (regime.protocol actor).drifts request census census
  served : ∀ {hub next : Hub} {actor runId request fault} {answer : request.Answer},
    actor.runId = some runId →
      ((∀ run, actor ≠ .handler run) → ∃ retryAttempt, hub.census.Live runId retryAttempt) →
      regime.invariant hub.census → (regime.protocol actor).requires request hub.census →
      regime.permits hub.census runId request fault →
        hub.serve platform clock runId fault request = some (answer, next) →
          (regime.protocol actor).answers request hub.census answer next.census
  replied : ∀ {runId retryAttempt task request census} {answer : request.Answer},
    census.executions task = some ⟨runId, retryAttempt, false⟩ → request.suspends = true →
      (regime.protocol (.execution runId retryAttempt)).answers request census answer census
  /-- The cancellation of an execution is thrown where it waits. -/
  refused : ∀ {runId retryAttempt task request census},
    census.executions task = some ⟨runId, retryAttempt, true⟩ → request.suspends = true →
      (regime.protocol (.execution runId retryAttempt)).answers request census (.error .cancelled)
        (census.calm task)
  responded : ∀ {job spec request census} {answer : request.Answer}, request.suspends = true →
    (∀ value, answer = .ok value → ∀ other context, request ≠ .invoke other context) →
      (regime.protocol (.agent job spec)).answers request census answer census
  returned : ∀ {job spec context census} {answer : Except Raised AgentResult},
    (∀ result, answer = .ok result → result.artifactKind = spec.artifactKind) →
      (regime.protocol (.agent job spec)).answers (.invoke spec context) census answer census
  -- the steps
  kept : ∀ {actor census next}, (regime.protocol actor).guarantees census next →
    regime.invariant census → regime.invariant next
  grouped : ∀ {census runId retryAttempt job},
    (regime.protocol (.execution runId retryAttempt)).requires (.runAgents job) census →
      job.run.runId = runId ∧ job.retryAttempt = retryAttempt ∧
        ∀ spec ∈ agentsByStage job.stage, regime.starts job spec census
  invoked : ∀ {census job spec other context}, regime.invariant census →
    census.Live job.run.runId job.retryAttempt →
    (regime.protocol (.agent job spec)).requires (.invoke other context) census →
      other = spec ∧ context.runId = job.run.runId ∧ context.stage = job.stage ∧
        (regime.protocol (.agent job spec)).guarantees census (census.delegate spec context) ∧
          (regime.protocol (.agent job spec)).drifts (.invoke spec context) census
            (census.delegate spec context) ∧
            regime.attends job spec (census.delegate spec context)
  client : ∀ {census runId database},
    Invocation.Confined runId census.stores.database database →
      (regime.protocol .surroundings).guarantees census (census.withDatabase database)
  done : ∀ {census runId retryAttempt task stopping},
    census.executions task = some ⟨runId, retryAttempt, stopping⟩ →
      (regime.protocol (.execution runId retryAttempt)).guarantees census (census.forget task)
  /-- The cancellation of an execution reaches the agents it waits for. -/
  calmed : ∀ {census runId retryAttempt task}, regime.invariant census →
    census.executions task = some ⟨runId, retryAttempt, true⟩ →
      (regime.protocol (.execution runId retryAttempt)).guarantees census (census.calm task) ∧
        (∀ job, (regime.protocol (.execution runId retryAttempt)).drifts (.runAgents job) census
          (census.calm task)) ∧
        ∀ job spec, job.run.runId = runId → job.retryAttempt = retryAttempt →
          regime.Stays job spec census (census.calm task)
  stopped : ∀ {census} (stopped : Nat → Bool),
    (regime.protocol .surroundings).guarantees census (census.stop stopped)
  popped : ∀ {census runId task}, census.tasks runId = some task →
    census.executions task = none →
      (regime.protocol .surroundings).guarantees census (census.pop runId)
  crashed : ∀ {census}, regime.invariant census → regime.invariant census.crash
  recovered : ∀ {hub next : Hub} {cut}, regime.invariant hub.census →
    (∀ task, hub.census.executions task = none) → hub.recover cut = some next →
      regime.invariant next.census
  -- what others do
  trans : ∀ {actor request first second third},
    (regime.protocol actor).drifts request first second →
      (regime.protocol actor).drifts request second third →
        (regime.protocol actor).drifts request first third
  foreign : ∀ {actor : Actor} {runId retryAttempt census next}, regime.invariant census →
    census.Live runId retryAttempt → actor.Foreign runId →
      (regime.protocol actor).guarantees census next →
        regime.Undisturbed runId retryAttempt census next
  /-- A call of the interface as a whole, which nobody sees half done. -/
  called : ∀ {runId origin final}, regime.invariant origin → regime.invariant final →
    Relation.ReflTransGen (regime.protocol (.handler runId)).guarantees origin final →
      regime.calls runId origin final →
        (∀ run retryAttempt, origin.Live run retryAttempt →
          regime.Undisturbed run retryAttempt origin final) ∧
          ∀ task attempt, origin.executions task = none → final.executions task = some attempt →
            regime.begins attempt.runId attempt.retryAttempt final
  member : ∀ {job spec census next}, regime.invariant census →
    (regime.protocol (.agent job spec)).guarantees census next →
      (regime.protocol (.execution job.run.runId job.retryAttempt)).drifts (.runAgents job) census
        next
  sibling : ∀ {job spec other census next}, regime.invariant census →
    census.Live job.run.runId job.retryAttempt → other.name ≠ spec.name →
      (regime.protocol (.agent job other)).guarantees census next →
        regime.Stays job spec census next
  own : ∀ {job spec context census next}, regime.invariant census →
    (regime.protocol (.agent job spec)).guarantees census next →
      (regime.protocol (.agent job spec)).drifts (.invoke spec context) census next

end Regime

/-! ## What waits -/

section Waiting

variable (platform : Platform) (settings : HubSettings) (regime : Regime)

/-- The task of an agent that does not run. -/
def ChildBody.Rests (job : StageJob) (spec : AgentSpec) (census : Census) : ChildBody → Prop
  | .scheduled => regime.starts job spec census
  | .running routine => regime.Waits (.agent job spec) (fun _ => True) routine census
  | .invoking invocation resume =>
    regime.Serves platform settings job spec census invocation resume ∧
      regime.attends job spec census
  | .asking invocation routine resume =>
    regime.Serves platform settings job spec census invocation resume ∧
      regime.Waits (.agent job spec) (regime.attends job spec) routine census
  | .finished _ => True

/-- A group of which at most the task of one agent runs. -/
structure Group.Rests (runId : RunId) (retryAttempt : Nat) (census : Census)
    (mover : Option String) (group : Group) : Prop where
  run : group.job.run.runId = runId
  retry : group.job.retryAttempt = retryAttempt
  distinct : (group.children.map fun child => child.spec.name).Nodup
  specs : ∀ child ∈ group.children, child.spec ∈ agentsByStage group.job.stage
  resume : Program.Awaits (regime.protocol (.execution runId retryAttempt)) (fun _ _ => True)
    (.runAgents group.job) group.resume census
  children : ∀ child ∈ group.children, some child.spec.name ≠ mover →
    child.body.Rests platform settings regime group.job child.spec census

/-- An execution that does not run. -/
def Body.Rests (runId : RunId) (retryAttempt : Nat) (census : Census) : Body → Prop
  | .scheduled => regime.begins runId retryAttempt census
  | .running routine =>
    regime.Waits (.execution runId retryAttempt) (fun _ => True) routine census
  | .gathering group => group.Rests platform settings regime runId retryAttempt census none

/-- The task of an agent that runs. -/
def ChildBody.Moves (job : StageJob) (spec : AgentSpec) (census : Census) : ChildBody → Prop
  | .running routine => regime.Keeps (.agent job spec) (fun _ => True) routine census
  | .asking invocation routine resume =>
    regime.Serves platform settings job spec census invocation resume ∧
      regime.Keeps (.agent job spec) (regime.attends job spec) routine census
  | _ => False

namespace Hub

/-- Every execution but the one that runs waits. -/
structure Rests (hub : Hub) (mover : Option Nat) : Prop where
  invariant : regime.invariant hub.census
  down : hub.phase = .down → ∀ task, hub.coroutines task = none
  coroutines : ∀ task coroutine, some task ≠ mover → hub.coroutines task = some coroutine →
    coroutine.body.Rests platform settings regime coroutine.runId coroutine.retryAttempt hub.census

/-- A call of the interface led here from where everybody waited. -/
structure Called (runId : RunId) (origin hub : Hub) : Prop where
  rests : origin.Rests platform settings regime none
  invariant : regime.invariant hub.census
  up : hub.phase ≠ .down
  chain : Relation.ReflTransGen (regime.protocol (.handler runId)).guarantees origin.census hub.census
  coroutines : ∀ task, (hub.coroutines task).map Coroutine.work =
      (origin.coroutines task).map Coroutine.work ∨
    (origin.coroutines task = none ∧
      ∃ found, hub.coroutines task = some found ∧ found.body = .scheduled)

/-- Everybody waits, or keeps to the protocol while the others wait. -/
def Disciplined (hub : Hub) : Prop :=
  match hub.active with
  | none => hub.Rests platform settings regime none
  | some (.handler runId routine) => ∃ origin, Called platform settings regime runId origin hub ∧
    regime.Keeps (.handler runId) (regime.calls runId origin.census) routine hub.census
  | some (.coroutine task) => ∃ coroutine routine, hub.coroutines task = some coroutine ∧
    coroutine.body = .running routine ∧ hub.Rests platform settings regime (some task) ∧
      regime.Keeps (.execution coroutine.runId coroutine.retryAttempt) (fun _ => True) routine
        hub.census
  | some (.child task agent) => ∃ coroutine group child, hub.coroutines task = some coroutine ∧
    coroutine.body = .gathering group ∧ group.child agent = some child ∧
      hub.Rests platform settings regime (some task) ∧
        group.Rests platform settings regime coroutine.runId coroutine.retryAttempt hub.census
          (some agent) ∧
          child.body.Moves platform settings regime group.job child.spec hub.census

end Hub

end Waiting


/-! ## What others do -/

section Drift

variable {platform : Platform} {clock : Nat → Nat} {tools : HubTools platform}
  {settings : HubSettings} {regime : Regime} (hsound : regime.Sound clock tools settings)
  {census next : Census} {actor : Actor} {job : StageJob} {spec : AgentSpec} {runId : RunId}
  {retryAttempt : Nat}

include hsound

/-- What happens while a program waits is no news to it. -/
theorem Regime.Waits.drift {ε α : Type} {post : Census → Prop}
    {routine : Program Request Request.Answer ε α} (hwaits : regime.Waits actor post routine census)
    (hdrift : ∀ request, request.suspends = true →
      (regime.protocol actor).drifts request census next) :
    regime.Waits actor post routine next := by
  cases routine with
  | done value => exact hwaits.elim
  | raise error => exact hwaits.elim
  | call request resume =>
      exact ⟨hwaits.1, hwaits.2.drift (fun _ _ _ => hsound.trans) (hdrift request hwaits.1)⟩

/-- A client stays served while the census drifts. -/
theorem Regime.Serves.drift {invocation : Invocation}
    {resume : Except Raised AgentResult → Routine ArtifactId}
    (hserves : regime.Serves platform settings job spec census invocation resume)
    (hdrift : ∀ context, (regime.protocol (.agent job spec)).drifts (.invoke spec context) census
      next) :
    regime.Serves platform settings job spec next invocation resume := by
  obtain ⟨context, hrun, hstage, hplaced, hawaits⟩ := hserves
  exact ⟨context, hrun, hstage, hplaced, hawaits.drift (fun _ _ _ => hsound.trans) (hdrift context)⟩

/-- A child stays at rest while nothing of it changes. -/
theorem ChildBody.Rests.stay {body : ChildBody}
    (hrests : body.Rests platform settings regime job spec census)
    (hstays : regime.Stays job spec census next) :
    body.Rests platform settings regime job spec next := by
  cases body with
  | scheduled => exact hstays.starts hrests
  | running routine => exact Regime.Waits.drift hsound hrests hstays.drifts
  | invoking invocation resume =>
      exact ⟨hrests.1.drift hsound fun context => hstays.drifts _ rfl, hstays.attends hrests.2⟩
  | asking invocation routine resume =>
      exact ⟨hrests.1.drift hsound fun context => hstays.drifts _ rfl,
        hrests.2.drift hsound hstays.drifts⟩
  | finished result => trivial

/-- A group stays at rest while the census drifts under it. -/
theorem Group.Rests.stay {group : Group} {mover : Option String}
    (hrests : group.Rests platform settings regime runId retryAttempt census mover)
    (hdrifts : (regime.protocol (.execution runId retryAttempt)).drifts (.runAgents group.job) census
      next)
    (hstays : ∀ child ∈ group.children, some child.spec.name ≠ mover →
      regime.Stays group.job child.spec census next) :
    group.Rests platform settings regime runId retryAttempt next mover where
  run := hrests.run
  retry := hrests.retry
  distinct := hrests.distinct
  specs := hrests.specs
  resume := hrests.resume.drift (fun _ _ _ => hsound.trans) hdrifts
  children child hchild hmover :=
    (hrests.children child hchild hmover).stay hsound (hstays child hchild hmover)

/-- An execution stays at rest while it is not disturbed. -/
theorem Body.Rests.stay {body : Body}
    (hrests : body.Rests platform settings regime runId retryAttempt census)
    (hundisturbed : regime.Undisturbed runId retryAttempt census next) :
    body.Rests platform settings regime runId retryAttempt next := by
  cases body with
  | scheduled => exact hundisturbed.begins hrests
  | running routine => exact Regime.Waits.drift hsound hrests hundisturbed.drifts
  | gathering group =>
      have hgroup : group.Rests platform settings regime runId retryAttempt census none := hrests
      exact hgroup.stay hsound (hundisturbed.drifts _ rfl) fun child _ _ =>
        hundisturbed.agents group.job child.spec hgroup.run hgroup.retry

variable (hinvariant : regime.invariant census) (hlive : census.Live runId retryAttempt)

include hinvariant hlive

/-- The tasks of the other agents, and the execution, while one agent runs. -/
theorem Group.Rests.drift_member {group : Group}
    (hrests : group.Rests platform settings regime runId retryAttempt census (some spec.name))
    (hguarantees : (regime.protocol (.agent group.job spec)).guarantees census next) :
    group.Rests platform settings regime runId retryAttempt next (some spec.name) := by
  have hmember := hsound.member hinvariant hguarantees
  rw [hrests.run, hrests.retry] at hmember
  refine hrests.stay hsound hmember fun child _ hmover => ?_
  refine hsound.sibling hinvariant ?_ (fun hname => ?_) hguarantees
  · rw [hrests.run, hrests.retry]
    exact hlive
  · exact hmover (congrArg some hname.symm)

end Drift

namespace Hub

section Moves

variable {platform : Platform} {clock : Nat → Nat} {tools : HubTools platform}
  {settings : HubSettings} {regime : Regime} {hub next : Hub} {task : Nat} {mover : Option Nat}
  {coroutine current : Coroutine} {actor : Actor}

@[simp] theorem census_withActive (active : Option Active) :
    ({ hub with active } : Hub).census = hub.census := rfl

theorem census_setCoroutine (hcoroutine : hub.coroutines task = some coroutine)
    (hattempt : current.attempt = coroutine.attempt) :
    (hub.setCoroutine task (some current)).census = hub.census := by
  have hexecutions : (fun other => (Function.update hub.coroutines task (some current) other).map
      Coroutine.attempt) = fun other => (hub.coroutines other).map Coroutine.attempt := by
    funext other
    by_cases hother : other = task
    · rw [hother, Function.update_self, hcoroutine, Option.map_some, Option.map_some, hattempt]
    · rw [Function.update_of_ne hother]
  exact congrArg (fun executions => { hub.census with executions }) hexecutions

/-- Whatever replaces an execution, the others stay. -/
theorem executions_setCoroutine (replaced : Option Coroutine) :
    (hub.setCoroutine task replaced).census.executions =
      Function.update hub.census.executions task (replaced.map Coroutine.attempt) := by
  funext other
  show (Function.update hub.coroutines task replaced other).map _ = _
  by_cases hother : other = task
  · rw [hother, Function.update_self, Function.update_self]
  · rw [Function.update_of_ne hother, Function.update_of_ne hother]
    rfl

theorem census_remove : (hub.setCoroutine task none).census = hub.census.forget task :=
  congrArg (fun executions => { hub.census with executions }) (executions_setCoroutine none)

theorem executions_of_coroutine (hcoroutine : hub.coroutines task = some coroutine) :
    hub.census.executions task = some coroutine.attempt :=
  congrArg (Option.map Coroutine.attempt) hcoroutine

/-- The cancellation of an execution is no longer pending. -/
theorem census_calm (hcoroutine : hub.coroutines task = some coroutine) :
    (hub.setCoroutine task (some { coroutine with pending := false })).census =
      hub.census.calm task := by
  refine congrArg (fun executions => { hub.census with executions }) ?_
  refine (executions_setCoroutine (some { coroutine with pending := false })).trans ?_
  rw [executions_of_coroutine hcoroutine]
  rfl

theorem live_of_coroutine (hcoroutine : hub.coroutines task = some coroutine) :
    hub.census.Live coroutine.runId coroutine.retryAttempt :=
  ⟨task, coroutine.pending, executions_of_coroutine hcoroutine⟩

/-- The execution is stored anew once it ran. -/
theorem settle_setCoroutine (other : Coroutine) (routine : Routine Unit) :
    (hub.setCoroutine task (some other)).settle task coroutine routine =
      hub.settle task coroutine routine := by
  unfold settle setCoroutine
  split <;> simp

theorem Rests.withActive (hrests : hub.Rests platform settings regime mover)
    (active : Option Active) :
    ({ hub with active } : Hub).Rests platform settings regime mover :=
  ⟨hrests.invariant, hrests.down, hrests.coroutines⟩

theorem Rests.up (hrests : hub.Rests platform settings regime mover)
    (hcoroutine : hub.coroutines task = some coroutine) : hub.phase ≠ .down := by
  intro hdown
  rw [hrests.down hdown task] at hcoroutine
  cases hcoroutine

theorem Rests.wait (hrests : hub.Rests platform settings regime none) :
    hub.Rests platform settings regime mover :=
  ⟨hrests.invariant, hrests.down, fun other found _ => hrests.coroutines other found nofun⟩

section Sound

variable (hsound : regime.Sound clock tools settings)

include hsound

/-- The others take no part in the execution that moves. -/
theorem Rests.foreign (hrests : hub.Rests platform settings regime mover)
    (hcoroutine : hub.coroutines task = some coroutine) {other : Nat} {found : Coroutine}
    (hother : some other ≠ some task) (hfound : hub.coroutines other = some found) :
    coroutine.runId ≠ found.runId := by
  intro hsame
  exact hother (congrArg some (hsound.distinct hrests.invariant (executions_of_coroutine hfound)
    (executions_of_coroutine hcoroutine) hsame.symm))

/-- While one program moves, what the others wait for stays as they left it. -/
theorem Rests.move (hrests : hub.Rests platform settings regime mover)
    (hguarantees : (regime.protocol actor).guarantees hub.census next.census)
    (hforeign : ∀ task coroutine, some task ≠ mover → hub.coroutines task = some coroutine →
      actor.Foreign coroutine.runId)
    (hsame : ∀ task, some task ≠ mover → next.coroutines task = hub.coroutines task)
    (hdown : next.phase = .down → ∀ task, next.coroutines task = none) :
    next.Rests platform settings regime mover where
  invariant := hsound.kept hguarantees hrests.invariant
  down := hdown
  coroutines other found hother hfound := by
    rw [hsame other hother] at hfound
    exact (hrests.coroutines other found hother hfound).stay hsound
      (hsound.foreign hrests.invariant (live_of_coroutine hfound)
        (hforeign other found hother hfound) hguarantees)

end Sound

/-- The execution that moves has a new body. -/
theorem Rests.setCoroutine (hrests : hub.Rests platform settings regime (some task))
    (hcoroutine : hub.coroutines task = some coroutine)
    (hattempt : current.attempt = coroutine.attempt) :
    (hub.setCoroutine task (some current)).Rests platform settings regime (some task) := by
  have hcensus := census_setCoroutine hcoroutine hattempt
  refine ⟨hcensus ▸ hrests.invariant, fun hdown => absurd hdown (hrests.up hcoroutine),
    fun other found hother hfound => ?_⟩
  have hne : other ≠ task := fun hsame => hother (congrArg some hsame)
  change Function.update hub.coroutines task (some current) other = some found at hfound
  rw [Function.update_of_ne hne] at hfound
  rw [hcensus]
  exact hrests.coroutines other found hother hfound

/-- The execution that moved waits again. -/
theorem Rests.pause (hrests : hub.Rests platform settings regime (some task))
    (hcoroutine : hub.coroutines task = some coroutine)
    (hattempt : current.attempt = coroutine.attempt)
    (hbody : current.body.Rests platform settings regime coroutine.runId coroutine.retryAttempt
      hub.census) :
    (hub.setCoroutine task (some current)).Rests platform settings regime none := by
  have hmoved := hrests.setCoroutine hcoroutine hattempt
  refine ⟨hmoved.invariant, hmoved.down, fun other found _ hfound => ?_⟩
  by_cases hother : other = task
  · subst hother
    have hsame : (hub.setCoroutine other (some current)).coroutines other = some current :=
      Function.update_self ..
    rw [hsame, Option.some.injEq] at hfound
    obtain ⟨hrun, hretry, -⟩ := Attempt.mk.inj hattempt
    rw [census_setCoroutine hcoroutine hattempt, ← hfound, hrun, hretry]
    exact hbody
  · exact hmoved.coroutines other found (fun hsame => hother (Option.some.inj hsame)) hfound

/-- A hub at rest is disciplined while nothing is active. -/
theorem Rests.disciplined (hrests : hub.Rests platform settings regime none)
    (hactive : hub.active = none) : hub.Disciplined platform settings regime := by
  unfold Disciplined
  rw [hactive]
  exact hrests

theorem Disciplined.rests (hdisciplined : hub.Disciplined platform settings regime)
    (hactive : hub.active = none) : hub.Rests platform settings regime none := by
  unfold Disciplined at hdisciplined
  rw [hactive] at hdisciplined
  exact hdisciplined

end Moves

/-! ## Executions -/

section Settling

variable {platform : Platform} {clock : Nat → Nat} {tools : HubTools platform}
  {settings : HubSettings} {regime : Regime} (hsound : regime.Sound clock tools settings)
  {hub next : Hub} {task : Nat} {coroutine current : Coroutine} {group : Group} {child : Child}
  {runId : RunId}

include hsound

/-- An execution that is done. -/
theorem Rests.remove (hrests : hub.Rests platform settings regime (some task))
    (hcoroutine : hub.coroutines task = some coroutine) :
    (hub.setCoroutine task none).Rests platform settings regime none := by
  have hguarantees := hsound.done (executions_of_coroutine hcoroutine)
  rw [← census_remove] at hguarantees
  have hmoved := hrests.move hsound hguarantees
    (fun other found hother hfound => hrests.foreign hsound hcoroutine hother hfound)
    (fun other hother => Function.update_of_ne (fun hsame => hother (congrArg some hsame)) ..)
    (fun hdown => absurd hdown (hrests.up hcoroutine))
  refine ⟨hmoved.invariant, hmoved.down, fun other found _ hfound => ?_⟩
  by_cases hother : other = task
  · change Function.update hub.coroutines task none other = some found at hfound
    rw [hother, Function.update_self] at hfound
    cases hfound
  · exact hmoved.coroutines other found (fun hsame => hother (Option.some.inj hsame)) hfound

omit hsound in
/-- Agents of one stage have different names. -/
theorem nodup_agentNames (stage : StageName) :
    ((agentsByStage stage).map AgentSpec.name).Nodup := by
  cases stage <;> decide

/-- The group of a stage, before any of its agents ran. -/
theorem rests_start {job : StageJob} {resume : Except Raised (List ArtifactId) → Routine Unit}
    {retryAttempt : Nat}
    (hkeeps : regime.Keeps (.execution runId retryAttempt) (fun _ => True)
      (Program.call (.runAgents job) resume : Routine Unit) hub.census) :
    (Group.start job resume).Rests platform settings regime runId retryAttempt hub.census none := by
  obtain ⟨hrequires, hawaits⟩ := hkeeps
  obtain ⟨hrun, hretry, hstarts⟩ := hsound.grouped hrequires
  refine ⟨hrun, hretry, ?_, fun child hchild => ?_, hawaits, fun child hchild _ => ?_⟩
  · show ((((agentsByStage job.stage).map Child.start).map fun child => child.spec.name)).Nodup
    rw [List.map_map]
    exact nodup_agentNames job.stage
  · obtain ⟨spec, hspec, rfl⟩ := List.mem_map.mp hchild
    exact hspec
  · obtain ⟨spec, hspec, rfl⟩ := List.mem_map.mp hchild
    exact hstarts spec hspec

/-- An execution that did its statement and goes on to its next await. -/
theorem disciplined_settle (hrests : hub.Rests platform settings regime (some task))
    (hcoroutine : hub.coroutines task = some coroutine)
    (hattempt : current.attempt = coroutine.attempt) {routine : Routine Unit}
    (hkeeps : regime.Keeps (.execution coroutine.runId coroutine.retryAttempt) (fun _ => True)
      routine hub.census) :
    (hub.settle task current routine).Disciplined platform settings regime := by
  cases routine with
  | done value => exact ((hrests.remove hsound hcoroutine).withActive none).disciplined rfl
  | raise raised => exact ((hrests.remove hsound hcoroutine).withActive none).disciplined rfl
  | call request resume =>
      by_cases hjob : ∃ job, request = .runAgents job
      · obtain ⟨job, rfl⟩ := hjob
        refine Rests.disciplined (Rests.withActive (hrests.pause hcoroutine ?_ ?_) none) rfl
        · exact hattempt
        · exact rests_start hsound hkeeps
      · rw [settle_call fun job hrequest => hjob ⟨job, hrequest⟩]
        cases hsuspends : request.suspends with
        | true =>
            rw [if_pos rfl]
            refine Rests.disciplined (Rests.withActive (hrests.pause hcoroutine ?_ ?_) none) rfl
            · exact hattempt
            · exact ⟨hsuspends, hkeeps.2⟩
        | false =>
            rw [if_neg Bool.false_ne_true]
            have hsame : ({ current with body := .running (.call request resume) } :
              Coroutine).attempt = coroutine.attempt := hattempt
            obtain ⟨hrun, hretry, -⟩ := Attempt.mk.inj hattempt
            refine ⟨_, _, Function.update_self .., rfl,
              (hrests.setCoroutine hcoroutine hsame).withActive _, ?_⟩
            show regime.Keeps (.execution current.runId current.retryAttempt) _ _
              (hub.setCoroutine task _).census
            rw [census_setCoroutine hcoroutine hsame, show current.runId = coroutine.runId from hrun,
              show current.retryAttempt = coroutine.retryAttempt from hretry]
            exact hkeeps

end Settling

end Hub

/-! ## Agents -/

section Groups

variable {platform : Platform} {settings : HubSettings} {regime : Regime} {census : Census}
  {group : Group} {child : Child} {runId : RunId} {retryAttempt : Nat} {mover : Option String}

/-- Asking tasks to stop changes nothing they have left to do. -/
theorem Group.Rests.abort
    (hrests : group.Rests platform settings regime runId retryAttempt census mover) :
    group.abort.Rests platform settings regime runId retryAttempt census mover := by
  have hcancel (child : Child) : child.cancel.spec = child.spec ∧ child.cancel.body = child.body := by
    unfold Child.cancel
    split <;> exact ⟨rfl, rfl⟩
  refine ⟨hrests.run, hrests.retry, ?_, fun child hchild => ?_, hrests.resume,
    fun child hchild hmover => ?_⟩
  · show ((group.children.map Child.cancel).map fun child => child.spec.name).Nodup
    rw [List.map_map, show ((fun child : Child => child.spec.name) ∘ Child.cancel) =
      fun child => child.spec.name from funext fun child => congrArg AgentSpec.name (hcancel child).1]
    exact hrests.distinct
  · obtain ⟨other, hother, rfl⟩ := List.mem_map.mp hchild
    rw [(hcancel other).1]
    exact hrests.specs other hother
  · obtain ⟨other, hother, rfl⟩ := List.mem_map.mp hchild
    rw [(hcancel other).1] at hmover ⊢
    rw [(hcancel other).2]
    exact hrests.children other hother hmover

/-- Put the task back that ran. -/
theorem Group.Rests.setChild
    (hrests : group.Rests platform settings regime runId retryAttempt census
      (some child.spec.name))
    (hspec : child.spec ∈ agentsByStage group.job.stage)
    (hbody : some child.spec.name ≠ mover →
      child.body.Rests platform settings regime group.job child.spec census) :
    (group.setChild child).Rests platform settings regime runId retryAttempt census mover := by
  refine ⟨hrests.run, hrests.retry, ?_, fun other hother => ?_, hrests.resume,
    fun other hother hrest => ?_⟩
  · have hnames : (fun child : Child => child.spec.name) ∘
        (fun other : Child => if other.spec.name = child.spec.name then child else other) =
          fun child => child.spec.name := by
      funext other
      dsimp only [Function.comp_apply]
      split
      next hname => exact hname.symm
      next => rfl
    show ((group.children.map _).map _).Nodup
    rw [List.map_map, hnames]
    exact hrests.distinct
  · obtain ⟨before, hbefore, rfl⟩ := List.mem_map.mp hother
    split
    next => exact hspec
    next => exact hrests.specs before hbefore
  · obtain ⟨before, hbefore, rfl⟩ := List.mem_map.mp hother
    by_cases hname : before.spec.name = child.spec.name
    · rw [if_pos hname] at hrest ⊢
      exact hbody hrest
    · rw [if_neg hname]
      exact hrests.children before hbefore fun hsame => hname (Option.some.inj hsame)

/-- A child put back at rest keeps its group at rest. -/
theorem Group.Rests.update
    (hrests : group.Rests platform settings regime runId retryAttempt census
      (some child.spec.name))
    (hspec : child.spec ∈ agentsByStage group.job.stage)
    (hbody : child.body.Rests platform settings regime group.job child.spec census) :
    (group.update child).Rests platform settings regime runId retryAttempt census none := by
  have hset : (group.setChild child).Rests platform settings regime runId retryAttempt census none :=
    hrests.setChild hspec fun _ => hbody
  unfold Group.update
  split
  next => exact hset.abort
  next => exact hset

/-- The task that was put back is found under its name. -/
theorem child_setChild (hpresent : ∃ other ∈ group.children, other.spec.name = child.spec.name) :
    (group.setChild child).child child.spec.name = some child := by
  unfold Group.child Group.setChild
  rw [List.find?_map]
  have hfound : (group.children.find? ((fun other : Child => other.spec.name == child.spec.name) ∘
      fun other => if other.spec.name = child.spec.name then child else other)).isSome := by
    rw [List.find?_isSome]
    obtain ⟨other, hother, hname⟩ := hpresent
    refine ⟨other, hother, ?_⟩
    simp [hname]
  obtain ⟨other, hother⟩ := Option.isSome_iff_exists.mp hfound
  rw [hother, Option.map_some]
  have hname := List.find?_some hother
  dsimp only [Function.comp_apply] at hname
  split at hname
  next hsame => rw [if_pos hsame]
  next hother => exact absurd (beq_iff_eq.mp hname) hother

end Groups

namespace Hub

/-- The task of one agent moves, and everybody else waits. -/
structure Among (platform : Platform) (settings : HubSettings) (regime : Regime) (hub : Hub)
    (task : Nat) (coroutine : Coroutine) (group : Group) (child : Child) : Prop where
  rests : hub.Rests platform settings regime (some task)
  found : hub.coroutines task = some coroutine
  members : group.Rests platform settings regime coroutine.runId coroutine.retryAttempt hub.census
    (some child.spec.name)
  known : child.spec ∈ agentsByStage group.job.stage
  present : ∃ other ∈ group.children, other.spec.name = child.spec.name

section Agents

variable {platform : Platform} {clock : Nat → Nat} {tools : HubTools platform}
  {settings : HubSettings} {regime : Regime} {hub next : Hub} {task : Nat}
  {coroutine : Coroutine} {group : Group} {child : Child} {actor : Actor}

theorem Among.replace (hamong : hub.Among platform settings regime task coroutine group child)
    {changed : Child} (hspec : changed.spec = child.spec) :
    hub.Among platform settings regime task coroutine group changed :=
  ⟨hamong.rests, hamong.found, hspec ▸ hamong.members, hspec ▸ hamong.known,
    hspec ▸ hamong.present⟩

/-- The execution of the agent. -/
theorem Among.live (hamong : hub.Among platform settings regime task coroutine group child) :
    hub.census.Live group.job.run.runId group.job.retryAttempt := by
  rw [hamong.members.run, hamong.members.retry]
  exact live_of_coroutine hamong.found

/-- The agent, or its client, did a statement. -/
theorem Among.move (hsound : regime.Sound clock tools settings)
    (hamong : hub.Among platform settings regime task coroutine group child)
    (hactor : actor = .agent group.job child.spec ∨ actor = .surroundings)
    (hguarantees : (regime.protocol actor).guarantees hub.census next.census)
    (hsame : next.coroutines = hub.coroutines) (hphase : next.phase = hub.phase) :
    next.Among platform settings regime task coroutine group child := by
  have hforeign (other : Nat) (found : Coroutine) (hother : some other ≠ some task)
      (hfound : hub.coroutines other = some found) :
      actor.Foreign found.runId := by
    rcases hactor with rfl | rfl
    · show group.job.run.runId ≠ _
      rw [hamong.members.run]
      exact hamong.rests.foreign hsound hamong.found hother hfound
    · trivial
  refine ⟨hamong.rests.move hsound hguarantees hforeign (fun other _ => congrFun hsame other) ?_,
    hsame ▸ hamong.found, ?_, hamong.known, hamong.present⟩
  · rw [hphase, hsame]
    exact hamong.rests.down
  · rcases hactor with rfl | rfl
    · exact hamong.members.drift_member hsound hamong.rests.invariant
        (live_of_coroutine hamong.found) hguarantees
    · have hforeign : Actor.surroundings.Foreign coroutine.runId := trivial
      have hundisturbed := hsound.foreign hamong.rests.invariant (live_of_coroutine hamong.found)
        hforeign hguarantees
      exact hamong.members.stay hsound (hundisturbed.drifts _ rfl) fun other _ _ =>
        hundisturbed.agents group.job other.spec hamong.members.run hamong.members.retry

/-- The task of the agent waits, or is done. -/
theorem Among.pause (hamong : hub.Among platform settings regime task coroutine group child)
    (hbody : child.body.Rests platform settings regime group.job child.spec hub.census) :
    ({ hub.putChild task coroutine group child with active := none } : Hub).Disciplined platform
      settings regime := by
  refine Rests.disciplined (Rests.withActive (hamong.rests.pause hamong.found ?_ ?_) none) rfl
  · rfl
  · exact hamong.members.update hamong.known hbody

/-- The task of the agent has its next statement to do. -/
theorem Among.run (hamong : hub.Among platform settings regime task coroutine group child)
    (hbody : child.body.Moves platform settings regime group.job child.spec hub.census) :
    ({ hub.putChild task coroutine group child with
      active := some (.child task child.spec.name) } : Hub).Disciplined platform settings
        regime := by
  have hupdate : group.update child = group.setChild child := by
    unfold Group.update
    split
    next hfinished =>
      rw [hfinished] at hbody
      exact hbody.elim
    next => rfl
  have hcensus : (hub.putChild task coroutine group child).census = hub.census :=
    census_setCoroutine hamong.found (by rfl)
  refine ⟨{ coroutine with body := .gathering (group.update child) }, group.setChild child, child,
    Function.update_self .., ?_, child_setChild hamong.present, ?_, ?_, ?_⟩
  · rw [hupdate]
  · exact Rests.withActive (hamong.rests.setCoroutine hamong.found (by rfl)) _
  · show (group.setChild child).Rests platform settings regime _ _
      (hub.putChild task coroutine group child).census _
    rw [hcensus]
    exact hamong.members.setChild hamong.known fun hmover => absurd rfl hmover
  · show child.body.Moves platform settings regime _ _
      (hub.putChild task coroutine group child).census
    rw [hcensus]
    exact hbody

section Sound

variable (hsound : regime.Sound clock tools settings)

include hsound

/-- The task of an agent that did its statement and goes on to its next await. -/
theorem disciplined_settleChild
    (hamong : hub.Among platform settings regime task coroutine group child)
    {routine : Routine ArtifactId}
    (hkeeps : regime.Keeps (.agent group.job child.spec) (fun _ => True) routine hub.census) :
    (hub.settleChild platform settings task coroutine group child routine).Disciplined platform
      settings regime := by
  cases routine with
  | done value => exact Among.pause (hamong.replace (by rfl)) trivial
  | raise raised => exact Among.pause (hamong.replace (by rfl)) trivial
  | call request resume =>
      by_cases hinvoke : ∃ spec context, request = .invoke spec context
      · obtain ⟨spec, context, rfl⟩ := hinvoke
        obtain ⟨hrequires, hawaits⟩ := hkeeps
        obtain ⟨rfl, hrun, hstage, hguarantees, hdrift, hattends⟩ :=
          hsound.invoked hamong.rests.invariant hamong.live hrequires
        have hmoved : (hub.withShared (hub.toShared.delegate child.spec context)).Among platform
            settings regime task coroutine group child :=
          hamong.move hsound (Or.inl rfl) hguarantees rfl rfl
        refine Among.pause (hmoved.replace (by rfl)) ⟨⟨context, hrun, hstage, ?_, ?_⟩, hattends⟩
        · exact Invocation.placed_initial ..
        · exact Program.Awaits.drift (fun _ _ _ => hsound.trans) hawaits hdrift
      · rw [settleChild_call fun spec context hrequest => hinvoke ⟨spec, context, hrequest⟩]
        cases hsuspends : request.suspends with
        | true =>
            rw [if_pos rfl]
            exact Among.pause (hamong.replace (by rfl)) ⟨hsuspends, hkeeps.2⟩
        | false =>
            rw [if_neg Bool.false_ne_true]
            exact Among.run (hamong.replace (by rfl)) hkeeps

/-- The task of an agent goes on after a statement of its invocation. -/
theorem disciplined_proceed
    (hamong : hub.Among platform settings regime task coroutine group child)
    {invocation : Invocation} {resume : Except Raised AgentResult → Routine ArtifactId}
    (hserves : regime.Serves platform settings group.job child.spec hub.census invocation resume)
    (hattends : regime.attends group.job child.spec hub.census) {event : ClientEvent} {turn : Turn}
    (hstep : invocation.step settings.client hub.stores.database event = some turn) :
    (hub.proceed tools settings task coroutine group child resume turn).Disciplined platform
      settings regime := by
  have hinvariant := hamong.rests.invariant
  have hproceeds := Invocation.proceeds_step hstep
  obtain ⟨context, hrun, hstage, hplaced, hawaits⟩ := hserves
  have hplaces := Invocation.places_step hplaced hstep
  have hguarantees : (regime.protocol .surroundings).guarantees hub.census
      (hub.census.withDatabase turn.database) := hsound.client hproceeds.confined
  have hmoved : (hub.withShared (hub.toShared.withDatabase turn.database)).Among platform settings
      regime task coroutine group child :=
    hamong.move hsound (Or.inr rfl) hguarantees rfl rfl
  have hforeign : Actor.surroundings.Foreign group.job.run.runId := trivial
  have hstays := (hsound.foreign hinvariant hamong.live hforeign hguarantees).agents group.job
    child.spec rfl rfl
  have hdrift := hstays.drifts (.invoke child.spec context) rfl
  have hlater := hawaits.drift (fun _ _ _ => hsound.trans) hdrift
  -- The answer of the invocation reaches the program that waits for it.
  have hresumed (answer : Except Raised AgentResult)
      (hkind : ∀ result, answer = .ok result → result.artifactKind = child.spec.artifactKind) :
      regime.Keeps (.agent group.job child.spec) (fun _ => True) (resume answer)
        (hub.census.withDatabase turn.database) :=
    (hawaits _ hdrift answer _ (hsound.returned hkind)).2
  unfold proceed
  dsimp only
  split
  next current hprogress =>
    have hcurrent := hplaces.running current hprogress
    split
    next asked draft hpoint =>
      refine Among.run (hmoved.replace (by rfl)) ⟨⟨context, hrun, hstage, hcurrent, hlater⟩, ?_⟩
      refine hsound.input hmoved.rests.invariant hamong.known (hstays.attends hattends) ?_ ?_ ?_ ?_
      · exact hcurrent.runId.trans hrun
      · exact hcurrent.stage.trans hstage
      · exact hcurrent.agent
      · exact hcurrent.draft asked draft hpoint
    next =>
      exact Among.pause (hmoved.replace (by rfl)) ⟨⟨context, hrun, hstage, hcurrent, hlater⟩,
        hstays.attends hattends⟩
  next result hprogress =>
    refine disciplined_settleChild hsound hmoved (hresumed _ fun other hother => ?_)
    cases hother
    exact hplaces.returned result hprogress
  next ending left hprogress =>
    have hdetached : ({ hub.withShared (hub.toShared.withDatabase turn.database) with
        detached := hub.detached ++ left.toList } : Hub).Among platform settings regime task
          coroutine group child :=
      ⟨⟨hmoved.rests.invariant, hmoved.rests.down, hmoved.rests.coroutines⟩, hmoved.found,
        hmoved.members, hmoved.known, hmoved.present⟩
    exact disciplined_settleChild hsound hdetached (hresumed _ fun other hother => by cases hother)

/-- `_human_input` goes on to its next await, or its answer reaches the invocation. -/
theorem disciplined_settleAsking
    (hamong : hub.Among platform settings regime task coroutine group child)
    {invocation : Invocation} {resume : Except Raised AgentResult → Routine ArtifactId}
    (hserves : regime.Serves platform settings group.job child.spec hub.census invocation resume)
    {routine : Routine Json}
    (hkeeps : regime.Keeps (.agent group.job child.spec)
      (regime.attends group.job child.spec) routine hub.census)
    (hnext : hub.settleAsking tools settings task coroutine group child invocation resume routine =
      some next) : next.Disciplined platform settings regime := by
  have hconclude (result : Except Raised Json)
      (hattends : regime.attends group.job child.spec hub.census)
      (hturn : ((invocation.step settings.client hub.stores.database (inputEvent result)).map
        fun turn => hub.proceed tools settings task coroutine group child resume turn) =
          some next) : next.Disciplined platform settings regime := by
    obtain ⟨turn, hstep, rfl⟩ := Option.map_eq_some_iff.mp hturn
    exact disciplined_proceed hsound hamong hserves hattends hstep
  cases routine with
  | done response => exact hconclude (.ok response) hkeeps hnext
  | raise raised => exact hconclude (.error raised) hkeeps hnext
  | call request answered =>
      cases hnext
      cases hsuspends : request.suspends with
      | true =>
          rw [if_pos rfl]
          exact Among.pause (hamong.replace (by rfl)) ⟨hserves, hsuspends, hkeeps.2⟩
      | false =>
          rw [if_neg Bool.false_ne_true]
          exact Among.run (hamong.replace (by rfl)) ⟨hserves, hkeeps⟩

end Sound

end Agents

end Hub

end Aidlc
