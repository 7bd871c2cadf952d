import Aidlc.Foundation.JsonParser
import Aidlc.Sandbox.Runner
import Aidlc.Sandbox.Worker

/-! # What a completed execution has verified

An execution that returns with the status completed has had every reply it
relies on, in the order of the commands. Whatever the replies are, a container
that may have been created is removed before the execution ends.
-/

namespace Aidlc

open Foundation

namespace Sandbox

variable {docker : Docker} {decoder : Decoder} {host : SandboxHost} {job : SandboxJob}
  {runtime : Runtime} {name : String} {world final : DockerWorld} {α β : Type}

/-! ## Commands -/

theorem tryCatch_apply {body : SandboxM α} {handler : SandboxError → SandboxM α}
    (world : DockerWorld) :
    (tryCatch body handler : SandboxM α) world = match body world with
      | .ok value middle => .ok value middle
      | .error error middle => handler error middle := by
  change EStateM.tryCatch body handler world = _
  unfold EStateM.tryCatch
  cases body world <;> rfl

/-- How a command that has ended goes on. -/
def ended : CaptureOutcome → SandboxM (Int × Bytes × Bytes)
  | .exited code stdout stderr => pure (code, stdout, stderr)
  | .raised error => throw error

/-- A captured command is recorded with whatever it was answered. -/
theorem capture_apply (command : DockerCommand) (world : DockerWorld) :
    capture docker command world = ended (docker.respond world.history command)
      { world with
        history := world.history ++ [(command, docker.respond world.history command)] } := by
  rfl

/-- What the `finally` block passes on. -/
def reraise : Option SandboxError → SandboxM Unit
  | some error => throw error
  | none => pure ()

/-- Whether it returns or raises, the computation issues only such commands, and
keeps the status if it does not settle it. -/
def Issues (settles : Prop) (allowed : DockerCommand → Prop) (computation : SandboxM α) : Prop :=
  ∀ world, ∃ more : DockerHistory,
    (Foundation.finalState (computation world)).history = world.history ++ more ∧
      (∀ entry ∈ more, allowed entry.1) ∧
      (settles ∨ (Foundation.finalState (computation world)).result.status = world.result.status)

namespace Issues

variable {settles : Prop} {allowed : DockerCommand → Prop}

/-- A computation that runs no command issues nothing. -/
theorem quiet {computation : SandboxM α}
    (hhistory : ∀ world, (Foundation.finalState (computation world)).history = world.history)
    (hstatus : ∀ world, settles ∨
      (Foundation.finalState (computation world)).result.status = world.result.status) :
    Issues settles allowed computation :=
  fun world => ⟨[], by rw [hhistory, List.append_nil], List.forall_mem_nil _, hstatus world⟩

theorem pure (value : α) : Issues settles allowed (Pure.pure value : SandboxM α) :=
  .quiet (fun _ => rfl) fun _ => Or.inr rfl

theorem throw (error : SandboxError) :
    Issues settles allowed (MonadExcept.throw error : SandboxM α) :=
  .quiet (fun _ => rfl) fun _ => Or.inr rfl

theorem get : Issues settles allowed (MonadState.get : SandboxM DockerWorld) :=
  .quiet (fun _ => rfl) fun _ => Or.inr rfl

theorem modifyExecution (change : SandboxExecution → SandboxExecution) :
    Issues settles allowed (modifyExecution change) := .quiet (fun _ => rfl) fun _ => Or.inr rfl

theorem setOutcome (hsettles : settles) (status : SandboxStatus) (reason : Option String) :
    Issues settles allowed (setOutcome status reason) :=
  .quiet (fun _ => rfl) fun _ => Or.inl hsettles

theorem lift (computed : Except PyError α) : Issues settles allowed (lift computed) := by
  cases computed <;> exact .quiet (fun _ => rfl) fun _ => Or.inr rfl

theorem liftError (computed : Except SandboxError α) :
    Issues settles allowed (liftError computed) := by
  cases computed <;> exact .quiet (fun _ => rfl) fun _ => Or.inr rfl

/-- What two computations issue one after the other. -/
theorem append {world middle last : DockerWorld} {more : DockerHistory}
    (hmore : middle.history = world.history ++ more) (hallowed : ∀ entry ∈ more, allowed entry.1)
    (hstatus : settles ∨ middle.result.status = world.result.status)
    (hrest : ∃ others : DockerHistory, last.history = middle.history ++ others ∧
      (∀ entry ∈ others, allowed entry.1) ∧
      (settles ∨ last.result.status = middle.result.status)) :
    ∃ others : DockerHistory, last.history = world.history ++ others ∧
      (∀ entry ∈ others, allowed entry.1) ∧
      (settles ∨ last.result.status = world.result.status) := by
  obtain ⟨others, hothers, hlater, hkept⟩ := hrest
  refine ⟨more ++ others, ?_, List.forall_mem_append.mpr ⟨hallowed, hlater⟩, ?_⟩
  · rw [hothers, hmore, List.append_assoc]
  · rcases hstatus with hsettles | hsame
    · exact Or.inl hsettles
    · exact hkept.imp_right fun hother => hother.trans hsame

/-- The next computation only runs where the first one returned. -/
theorem bind {first : SandboxM α} {rest : α → SandboxM β} (hfirst : Issues settles allowed first)
    (hrest : ∀ value, Issues settles allowed (rest value)) :
    Issues settles allowed (first >>= rest) := by
  intro world
  obtain ⟨more, hmore, hallowed, hstatus⟩ := hfirst world
  cases hresult : first world with
  | ok value middle =>
      rw [hresult] at hmore hstatus
      rw [bind_of_ok hresult]
      exact append hmore hallowed hstatus (hrest value middle)
  | error error middle =>
      rw [hresult] at hmore hstatus
      rw [bind_of_error hresult]
      exact ⟨more, hmore, hallowed, hstatus⟩

/-- A handler runs where the computation raised. -/
theorem tryCatch {body : SandboxM α} {handler : SandboxError → SandboxM α}
    (hbody : Issues settles allowed body) (hhandler : ∀ error, Issues settles allowed (handler error)) :
    Issues settles allowed (tryCatch body handler) := by
  intro world
  obtain ⟨more, hmore, hallowed, hstatus⟩ := hbody world
  rw [tryCatch_apply]
  cases hresult : body world with
  | ok value middle =>
      rw [hresult] at hmore hstatus
      exact ⟨more, hmore, hallowed, hstatus⟩
  | error error middle =>
      rw [hresult] at hmore hstatus
      exact append hmore hallowed hstatus (hhandler error middle)

theorem capture {command : DockerCommand} (hcommand : allowed command) :
    Issues settles allowed (capture docker command) := by
  intro world
  refine ⟨[(command, docker.respond world.history command)], ?_, ?_, Or.inr ?_⟩
  · rw [capture_apply]
    cases docker.respond world.history command <;> rfl
  · intro entry hentry
    rw [List.mem_singleton.mp hentry]
    exact hcommand
  · rw [capture_apply]
    cases docker.respond world.history command <;> rfl

theorem ite {condition : Prop} [Decidable condition] {first second : SandboxM α}
    (hfirst : Issues settles allowed first) (hsecond : Issues settles allowed second) :
    Issues settles allowed (if condition then first else second) := by
  split
  · exact hfirst
  · exact hsecond

theorem control {command : DockerCommand} (hcommand : allowed command) :
    Issues settles allowed (control docker decoder command) :=
  .bind (.capture hcommand) fun _ => .ite (.bind (.throw _) fun _ => .lift _) (.lift _)

end Issues

/-- The commands that may leave a container behind. -/
def DockerCommand.creates : DockerCommand → Bool
  | .create .. => true
  | .info | .imageInspect _ | .inspect _ | .start _ | .remove _ | .list _ => false

/-- Reading the runtime's version runs no command. -/
theorem runtimeVersion_issues {settles : Prop} {allowed : DockerCommand → Prop} (runtimes : Json) :
    Issues settles allowed (runtimeVersion decoder runtime runtimes) := by
  refine .bind (.lift _) fun entry => .bind (.lift _) fun status => .bind (.lift _) fun features => ?_
  refine .ite (.bind (.lift _) fun loaded => .bind (.lift _) fun annotations => ?_) (.pure _)
  exact .bind (.lift _) fun version => .modifyExecution _

theorem pinImage_issues {settles : Prop} (image : String) :
    Issues settles (fun command => DockerCommand.creates command = false)
      (pinImage docker decoder image) := by
  refine .bind (.control rfl) fun images => .bind (.liftError _) fun definition =>
    .bind (.lift _) fun architecture => ?_
  refine .ite (.bind (.throw _) fun _ => ?_) ?_
  all_goals
    refine .bind (.lift _) fun system => ?_
    refine .ite (.bind (.throw _) fun _ => ?_) ?_
    all_goals
      refine .bind (.lift _) fun identifier => .bind (.modifyExecution _) fun _ =>
        .bind (.lift _) fun config => .bind (.lift _) fun volumes => ?_
      exact .ite (.throw _) (.pure _)

/-- Before the container there are only questions. -/
theorem checkDaemon_issues {settles : Prop} (image : String) :
    Issues settles (fun command => DockerCommand.creates command = false)
      (checkDaemon docker decoder runtime image) := by
  refine .bind (.control rfl) fun info => .bind (.lift _) fun system => ?_
  refine .ite (.bind (.throw _) fun _ => ?_) ?_
  all_goals
    refine .bind (.lift _) fun architecture => .bind (.lift _) fun supported => ?_
    refine .ite (.bind (.throw _) fun _ => ?_) ?_
    all_goals
      refine .bind (.lift _) fun runtimes => .bind (.lift _) fun registered => ?_
      refine .ite ?_ (.bind (.modifyExecution _) fun _ => .pure _)
      exact .bind (runtimeVersion_issues _) fun _ => .bind (pinImage_issues _) fun _ => .pure _

theorem readState_issues {allowed : DockerCommand → Prop} (hallowed : ∀ command, allowed command)
    (code : Int) (stdout stderr : Bytes) :
    Issues True allowed (readState docker decoder job name code stdout stderr) := by
  refine .bind (.control (hallowed _)) fun definitions => .bind (.liftError _) fun definition =>
    .bind (.lift _) fun state => .bind (.lift _) fun running => ?_
  refine .ite (.bind (.throw _) fun _ => ?_) ?_
  all_goals
    refine .bind (.lift _) fun exitCode => .bind (.modifyExecution _) fun _ =>
      .bind (.lift _) fun oomKilled => .bind (.modifyExecution _) fun _ =>
      .bind (.quiet (fun _ => rfl) fun _ => Or.inr rfl) fun _ => ?_
    refine .ite (.bind (.lift _) fun accepted => .bind (.pure _) fun completed => ?_)
      (.bind (.pure _) fun completed => ?_)
    all_goals exact .quiet (fun _ => rfl) fun _ => Or.inl trivial

/-- Running the container may settle the result. -/
theorem runContainer_issues {allowed : DockerCommand → Prop}
    (hallowed : ∀ command, allowed command) :
    Issues True allowed (runContainer docker decoder host job runtime name) := by
  refine .bind .get fun world => .bind (.lift _) fun arguments =>
    .bind (.capture (hallowed _)) fun (code, output, _) => ?_
  refine .ite (.bind (.throw _) fun _ => ?_) ?_
  all_goals
    refine .bind (.lift _) fun identifier => .bind (.modifyExecution _) fun _ =>
      .bind (.control (hallowed _)) fun definitions => .bind (.liftError _) fun definition =>
      .bind (.lift _) fun applied => ?_
    refine .ite (.bind (.throw _) fun _ => ?_) ?_
    all_goals
      exact .bind (.capture (hallowed _)) fun (code, stdout, stderr) =>
        readState_issues hallowed code stdout stderr

/-- A handled failure settles the result without a command. -/
theorem handleFailure_issues {allowed : DockerCommand → Prop} (error : SandboxError) :
    Issues True allowed (handleFailure error) := by
  cases error with
  | cancelled | indexError => exact .throw _
  | timeout => exact .bind (.setOutcome trivial _ _) fun _ => .modifyExecution _
  | control message => exact .setOutcome trivial _ _
  | error raised => exact .ite (.setOutcome trivial _ _) (.throw _)
  | group overflow =>
      cases overflow with
      | true => exact .bind (.setOutcome trivial _ _) fun _ => .modifyExecution _
      | false => exact .setOutcome trivial _ _

/-! ## Teardown -/

/-- A command of the teardown is issued whatever comes of it. -/
theorem shieldedCapture_history (command : DockerCommand) (world : DockerWorld) :
    (Foundation.finalState (shieldedCapture docker command world)).history =
      world.history ++ [(command, docker.respond world.history command)] := by
  change (Foundation.finalState ((if _ then _ else _ : SandboxM (Int × Bytes × Bytes)) _)).history = _
  split
  next => rfl
  next =>
    generalize docker.respond world.history command = outcome
    cases outcome <;> rfl

theorem shieldedCapture_issues {allowed : DockerCommand → Prop} {command : DockerCommand}
    (hcommand : allowed command) : Issues True allowed (shieldedCapture docker command) := by
  intro world
  refine ⟨_, shieldedCapture_history command world, fun entry hentry => ?_, Or.inl trivial⟩
  rw [List.mem_singleton.mp hentry]
  exact hcommand

/-- The removal is the first command of the teardown, and no command of it
creates anything. -/
def Removes (name : String) (computation : SandboxM α) : Prop :=
  ∀ world, ∃ outcome more, (Foundation.finalState (computation world)).history =
    world.history ++ (DockerCommand.remove name, outcome) :: more ∧
      ∀ entry ∈ more, DockerCommand.creates entry.1 = false

/-- What follows a removal leaves the container removed if it creates none. -/
theorem Removes.bind {first : SandboxM α} {rest : α → SandboxM β} (hfirst : Removes name first)
    (hrest : ∀ value, Issues True (fun command => DockerCommand.creates command = false) (rest value)) :
    Removes name (first >>= rest) := by
  intro world
  obtain ⟨outcome, more, hmore, hquestions⟩ := hfirst world
  cases hresult : first world with
  | ok value middle =>
      rw [hresult] at hmore
      obtain ⟨others, hothers, hrestQuestions, -⟩ := hrest value middle
      refine ⟨outcome, more ++ others, ?_, List.forall_mem_append.mpr ⟨hquestions, hrestQuestions⟩⟩
      rw [bind_of_ok hresult, hothers]
      rw [show middle.history = _ from hmore, List.append_assoc, List.cons_append]
  | error error middle =>
      rw [hresult] at hmore
      rw [bind_of_error hresult]
      exact ⟨outcome, more, hmore, hquestions⟩

/-- The removal is attempted whatever it is answered. -/
theorem removeContainer_removes : Removes name (removeContainer docker name) := by
  refine Removes.bind ?_ fun (code, _, _) => ?_
  · intro world
    exact ⟨_, [], shieldedCapture_history _ world, List.forall_mem_nil _⟩
  · refine .ite (.pure _) ?_
    exact .bind (shieldedCapture_issues rfl) fun (code, remaining, _) => .pure _

theorem cleanup_removes : Removes name (cleanup docker name) := by
  intro world
  have hremoves : Removes name (removeContainer docker name) := removeContainer_removes
  obtain ⟨outcome, more, hmore, hquestions⟩ := hremoves world
  refine ⟨outcome, more, ?_, hquestions⟩
  rw [cleanup, tryCatch_apply]
  cases hresult : removeContainer docker name world with
  | ok value middle =>
      rw [hresult] at hmore
      exact hmore
  | error error middle =>
      rw [hresult] at hmore
      cases error <;> exact hmore

/-- The teardown removes the container, cancelled or not. -/
theorem teardown_removes : Removes name (teardown docker host name) := by
  intro world
  change ∃ outcome more, (Foundation.finalState ((cleanup docker name >>= _ : SandboxM Unit)
    { world with interrupts := 0 })).history = _ ∧ _
  refine Removes.bind cleanup_removes (fun succeeded => ?_) { world with interrupts := 0 }
  refine .bind (.modifyExecution _) fun _ => .bind .get fun interrupted => ?_
  refine .ite (.bind (.throw _) fun _ => ?_) ?_
  all_goals
    refine .bind (.modifyExecution _) fun _ => ?_
    exact .ite (.setOutcome trivial _ _) (.pure _)

theorem attempted_apply (body : SandboxM Unit) (world : DockerWorld) :
    ∃ raised, attempted body world = .ok raised (Foundation.finalState (body world)) := by
  unfold attempted
  cases body world with
  | ok value next => exact ⟨none, rfl⟩
  | error error next => exact ⟨some error, rfl⟩

/-- The removal of the container comes after everything done with it. -/
theorem supervise_removes (world : DockerWorld) : ∃ before outcome more,
    (Foundation.finalState (supervise docker decoder host job runtime name world)).history =
        world.history ++ before ++ (DockerCommand.remove name, outcome) :: more ∧
      ∀ entry ∈ more, DockerCommand.creates entry.1 = false := by
  let body := tryCatch (runContainer docker decoder host job runtime name) handleFailure
  have hbody : Issues True (fun _ => True) body :=
    .tryCatch (runContainer_issues fun _ => trivial) handleFailure_issues
  obtain ⟨before, hbefore, -⟩ := hbody world
  obtain ⟨raised, hraised⟩ := attempted_apply body world
  have hrest : Removes name (teardown docker host name >>= fun _ => reraise raised) := by
    refine teardown_removes.bind fun _ => ?_
    cases raised with
    | none => exact .pure _
    | some error => exact .throw _
  obtain ⟨outcome, more, hmore, hquestions⟩ := hrest (Foundation.finalState (body world))
  refine ⟨before, outcome, more, ?_, hquestions⟩
  rw [supervise, bind_of_ok hraised, ← hbefore]
  exact hmore

/-- What comes after the last entry of a kind is after every entry of the kind. -/
theorem mem_of_append_eq {α : Type} {before after start more : List α} (test : α → Bool)
    {created removed : α} (hremoved : test removed = false) (hmore : ∀ item ∈ more, test item = false)
    (hcreated : test created = true) (heq : before ++ created :: after = start ++ removed :: more) :
    removed ∈ after := by
  rcases List.append_eq_append_iff.mp heq with ⟨rest, hstart, hrest⟩ | ⟨rest, hbefore, hrest⟩
  · cases rest with
    | nil =>
        rw [List.nil_append, List.cons.injEq] at hrest
        rw [hrest.1, hremoved] at hcreated
        cases hcreated
    | cons item others =>
        rw [List.cons_append, List.cons.injEq] at hrest
        rw [hrest.2]
        exact List.mem_append_right _ List.mem_cons_self
  · have hmember : created ∈ removed :: more := by
      rw [hrest]
      exact List.mem_append_right _ List.mem_cons_self
    rcases List.mem_cons.mp hmember with rfl | hlater
    · rw [hremoved] at hcreated
      cases hcreated
    · rw [hmore created hlater] at hcreated
      cases hcreated

/-- The computation only asks questions, or the removal of the container comes
after everything that may have created it. -/
def Ends (name : String) (computation : SandboxM α) : Prop :=
  ∀ world, (∃ questions, (Foundation.finalState (computation world)).history = world.history ++ questions ∧
      ∀ entry ∈ questions, DockerCommand.creates entry.1 = false) ∨
    ∃ before outcome more, (Foundation.finalState (computation world)).history =
        world.history ++ before ++ (DockerCommand.remove name, outcome) :: more ∧
      ∀ entry ∈ more, DockerCommand.creates entry.1 = false

/-- A computation that creates no container only asks questions. -/
theorem Ends.issues {computation : SandboxM α}
    (hissues : Issues True (fun command => DockerCommand.creates command = false) computation) :
    Ends name computation := by
  intro world
  obtain ⟨questions, hquestions, hasked, -⟩ := hissues world
  exact Or.inl ⟨questions, hquestions, hasked⟩

/-- Sequencing keeps the obligation to remove. -/
theorem Ends.bind {first : SandboxM α} {rest : α → SandboxM β}
    (hfirst : Issues True (fun command => DockerCommand.creates command = false) first)
    (hrest : ∀ value, Ends name (rest value)) : Ends name (first >>= rest) := by
  intro world
  obtain ⟨questions, hquestions, hasked, -⟩ := hfirst world
  cases hresult : first world with
  | error error middle =>
      rw [hresult] at hquestions
      rw [bind_of_error hresult]
      exact Or.inl ⟨questions, hquestions, hasked⟩
  | ok value middle =>
      rw [hresult] at hquestions
      rw [bind_of_ok hresult]
      have hmiddle : middle.history = world.history ++ questions := hquestions
      rcases hrest value middle with ⟨others, hothers, hmore⟩ | ⟨before, outcome, more, hends, hmore⟩
      · refine Or.inl ⟨questions ++ others, ?_, List.forall_mem_append.mpr ⟨hasked, hmore⟩⟩
        rw [hothers, hmiddle, List.append_assoc]
      · refine Or.inr ⟨questions ++ before, outcome, more, ?_, hmore⟩
        rw [hends, hmiddle, List.append_assoc world.history]

theorem handleUnavailable_issues {settles : Prop} {allowed : DockerCommand → Prop}
    (error : SandboxError) :
    Issues settles allowed (handleUnavailable error) :=
  .ite (.bind (.modifyExecution _) fun _ => .pure _) (.throw _)

/-- A job only asks questions, or removes its container after all that may have created it.
-/
theorem executeJob_ends : Ends name (executeJob docker decoder host job runtime name) := by
  unfold executeJob
  split
  next => exact .issues (.throw _)
  next =>
    split
    next error hresolve =>
      exact .issues (.ite (.modifyExecution _) (.throw _))
    next image hresolve =>
      refine .bind (.modifyExecution _) fun _ => ?_
      split
      next => exact .issues (.modifyExecution _)
      next =>
        split
        next => exact .issues (.modifyExecution _)
        next =>
          refine .bind (.tryCatch (checkDaemon_issues image) handleUnavailable_issues) fun ready => ?_
          split
          next => exact fun world => Or.inr (supervise_removes world)
          next => exact .issues (.pure _)

/-- After every attempt to create the container there is one to remove it. -/
theorem execute_removes {before after : DockerHistory} {created : DockerCommand × CaptureOutcome}
    (hhistory : (Foundation.finalState (execute docker decoder host job runtime name)).history =
      before ++ created :: after)
    (hcreated : DockerCommand.creates created.1 = true) :
    ∃ outcome, (DockerCommand.remove name, outcome) ∈ after := by
  have hexecute : (Foundation.finalState (execute docker decoder host job runtime name)).history =
      (Foundation.finalState (executeJob docker decoder host job runtime name
        (initialWorld host job runtime))).history := by
    unfold execute
    cases hresult : executeJob docker decoder host job runtime name (initialWorld host job runtime) with
    | ok value last => rw [bind_of_ok hresult]; rfl
    | error error last => rw [bind_of_error hresult]; rfl
  rw [hexecute] at hhistory
  rcases executeJob_ends (initialWorld host job runtime) with
    ⟨questions, hquestions, hasked⟩ | ⟨start, outcome, more, hends, hmore⟩
  · rw [hquestions] at hhistory
    have hmember : created ∈ questions := by
      have hlist : questions = before ++ created :: after := hhistory
      rw [hlist]
      exact List.mem_append_right _ List.mem_cons_self
    rw [hasked created hmember] at hcreated
    cases hcreated
  · exact ⟨outcome, mem_of_append_eq (fun entry => DockerCommand.creates entry.1) rfl hmore hcreated
      (hhistory.symm.trans hends)⟩

/-! ## Completion -/

theorem lift_bind_eq_ok {computed : Except PyError α} {rest : α → SandboxM β} {result : β} :
    (lift computed >>= rest) world = .ok result final ↔
      ∃ value, computed = .ok value ∧ rest value world = .ok result final := by
  cases computed with
  | ok value =>
      change rest value world = _ ↔ _
      simp
  | error error =>
      change EStateM.Result.error (SandboxError.error error) world = _ ↔ _
      simp

theorem liftError_bind_eq_ok {computed : Except SandboxError α} {rest : α → SandboxM β}
    {result : β} : (liftError computed >>= rest) world = .ok result final ↔
      ∃ value, computed = .ok value ∧ rest value world = .ok result final := by
  cases computed with
  | ok value =>
      change rest value world = _ ↔ _
      simp
  | error error =>
      change EStateM.Result.error error world = _ ↔ _
      simp

/-- A condition under which the computation raises did not hold if it returned. -/
theorem guard_eq_ok {condition : Prop} [Decidable condition] {error : SandboxError}
    {rest : SandboxM α} {value : α}
    (hreturned : (if condition then (throw error : SandboxM PUnit) >>= fun _ => rest else rest) world =
      .ok value final) : ¬condition ∧ rest world = .ok value final := by
  by_cases hcondition : condition
  · rw [if_pos hcondition] at hreturned
    obtain ⟨_, _, hthrow, -⟩ := bind_eq_ok.mp hreturned
    exact absurd hthrow throw_ne_ok
  · rw [if_neg hcondition] at hreturned
    exact ⟨hcondition, hreturned⟩

/-- The world once a command is answered. -/
def answered (world : DockerWorld) (command : DockerCommand) (code : Int) (stdout stderr : Bytes) :
    DockerWorld :=
  { world with history := world.history ++ [(command, .exited code stdout stderr)] }

theorem capture_eq_ok {command : DockerCommand} {code : Int} {stdout stderr : Bytes}
    (hcapture : capture docker command world = .ok (code, stdout, stderr) final) :
    final = answered world command code stdout stderr := by
  unfold answered
  rw [capture_apply] at hcapture
  cases houtcome : docker.respond world.history command with
  | exited found first second =>
      rw [houtcome] at hcapture
      obtain ⟨hvalue, hfinal⟩ := pure_eq_ok.mp hcapture
      cases hvalue
      exact hfinal.symm
  | raised error =>
      rw [houtcome] at hcapture
      exact absurd hcapture throw_ne_ok

/-- What follows a captured command starts from its answer. -/
theorem capture_bind_eq_ok {command : DockerCommand} {rest : Int × Bytes × Bytes → SandboxM β}
    {result : β} (hcapture : (capture docker command >>= rest) world = .ok result final) :
    ∃ code stdout stderr, rest (code, stdout, stderr) (answered world command code stdout stderr) =
      .ok result final := by
  obtain ⟨⟨code, stdout, stderr⟩, middle, hcapture, hrest⟩ := bind_eq_ok.mp hcapture
  rw [capture_eq_ok hcapture] at hrest
  exact ⟨code, stdout, stderr, hrest⟩

/-- What follows a control command starts from its decoded output, and its code was zero. -/
theorem control_bind_eq_ok {command : DockerCommand} {rest : Json → SandboxM β} {result : β}
    (hcontrol : (control docker decoder command >>= rest) world = .ok result final) :
    ∃ value stdout stderr, decoder.loads stdout = .ok value ∧
      rest value (answered world command 0 stdout stderr) = .ok result final := by
  obtain ⟨value, middle, hcontrol, hrest⟩ := bind_eq_ok.mp hcontrol
  obtain ⟨code, stdout, stderr, hcontrol⟩ := capture_bind_eq_ok hcontrol
  obtain ⟨hcode, hloads⟩ := guard_eq_ok hcontrol
  have hzero : code = 0 := by simpa using hcode
  subst hzero
  cases hvalue : decoder.loads stdout with
  | ok found =>
      rw [hvalue] at hloads
      cases hloads
      exact ⟨value, stdout, stderr, hvalue, hrest⟩
  | error error =>
      rw [hvalue] at hloads
      cases hloads

/-- The marks that a failure leaves on an execution. -/
def marks (world : DockerWorld) : Bool × Bool :=
  (world.result.execution.timedOut, world.result.execution.outputTruncated)

/-- The runtime's version is read only where the daemon lists the runtime. -/
theorem runtimeVersion_eq_ok {runtimes : Json}
    (hversion : runtimeVersion decoder runtime runtimes world = .ok () final) :
    (∃ entry, runtimes.get? runtime.value = some entry) ∧ final.history = world.history ∧
      marks final = marks world := by
  obtain ⟨entry, hentry, hversion⟩ := lift_bind_eq_ok.mp hversion
  obtain ⟨status, -, hversion⟩ := lift_bind_eq_ok.mp hversion
  obtain ⟨features, -, hversion⟩ := lift_bind_eq_ok.mp hversion
  refine ⟨⟨entry, subscript_eq_ok.mp hentry⟩, ?_⟩
  by_cases htruthy : Json.truthy features = true
  · rw [if_pos htruthy] at hversion
    obtain ⟨loaded, -, hversion⟩ := lift_bind_eq_ok.mp hversion
    obtain ⟨annotations, -, hversion⟩ := lift_bind_eq_ok.mp hversion
    obtain ⟨version, -, hversion⟩ := lift_bind_eq_ok.mp hversion
    cases hversion
    exact ⟨rfl, rfl⟩
  · rw [if_neg htruthy] at hversion
    cases hversion
    exact ⟨rfl, rfl⟩

/-- A pinned image was inspected by its digest. -/
theorem pinImage_eq_ok {image : String}
    (hpin : pinImage docker decoder image world = .ok () final) :
    ∃ stdout stderr, final.history =
        world.history ++ [(DockerCommand.imageInspect image, .exited 0 stdout stderr)] ∧
      marks final = marks world := by
  obtain ⟨images, stdout, stderr, -, hpin⟩ := control_bind_eq_ok hpin
  obtain ⟨definition, -, hpin⟩ := liftError_bind_eq_ok.mp hpin
  obtain ⟨architecture, -, hpin⟩ := lift_bind_eq_ok.mp hpin
  obtain ⟨-, hpin⟩ := guard_eq_ok hpin
  obtain ⟨system, -, hpin⟩ := lift_bind_eq_ok.mp hpin
  obtain ⟨-, hpin⟩ := guard_eq_ok hpin
  obtain ⟨identifier, -, hpin⟩ := lift_bind_eq_ok.mp hpin
  obtain ⟨⟨⟩, _, hidentified, hpin⟩ := bind_eq_ok.mp hpin
  cases hidentified
  obtain ⟨config, -, hpin⟩ := lift_bind_eq_ok.mp hpin
  obtain ⟨volumes, -, hpin⟩ := lift_bind_eq_ok.mp hpin
  by_cases hvolumes : Json.truthy volumes = true
  · rw [if_pos hvolumes] at hpin
    cases hpin
  · rw [if_neg hvolumes] at hpin
    cases hpin
    exact ⟨stdout, stderr, rfl, rfl⟩

/-- The daemon reports the runtime among those it has. -/
def Registered (runtime : Runtime) (info : Json) : Prop :=
  ∃ runtimes entry, info.get? "Runtimes" = some runtimes ∧
    runtimes.get? runtime.value = some entry

/-- A daemon that passes was asked for its runtimes and for the image. -/
theorem checkDaemon_eq_ok {image : String}
    (hcheck : checkDaemon docker decoder runtime image world = .ok true final) :
    ∃ (info : Json) (asked found : Bytes × Bytes), decoder.loads asked.1 = .ok info ∧
      Registered runtime info ∧
      final.history = world.history ++
        [(DockerCommand.info, .exited 0 asked.1 asked.2),
          (DockerCommand.imageInspect image, .exited 0 found.1 found.2)] ∧
      marks final = marks world := by
  obtain ⟨info, stdout, stderr, hinfo, hcheck⟩ := control_bind_eq_ok hcheck
  obtain ⟨system, -, hcheck⟩ := lift_bind_eq_ok.mp hcheck
  obtain ⟨-, hcheck⟩ := guard_eq_ok hcheck
  obtain ⟨architecture, -, hcheck⟩ := lift_bind_eq_ok.mp hcheck
  obtain ⟨supported, -, hcheck⟩ := lift_bind_eq_ok.mp hcheck
  obtain ⟨-, hcheck⟩ := guard_eq_ok hcheck
  obtain ⟨runtimes, hruntimes, hcheck⟩ := lift_bind_eq_ok.mp hcheck
  obtain ⟨registered, -, hcheck⟩ := lift_bind_eq_ok.mp hcheck
  by_cases hregistered : registered = true
  · rw [if_pos hregistered] at hcheck
    obtain ⟨⟨⟩, middle, hversion, hcheck⟩ := bind_eq_ok.mp hcheck
    obtain ⟨⟨entry, hentry⟩, hsame, hmarks⟩ := runtimeVersion_eq_ok hversion
    obtain ⟨⟨⟩, last, hpin, hcheck⟩ := bind_eq_ok.mp hcheck
    obtain ⟨-, rfl⟩ := pure_eq_ok.mp hcheck
    obtain ⟨first, second, hhistory, hpinned⟩ := pinImage_eq_ok hpin
    refine ⟨info, (stdout, stderr), (first, second), hinfo,
      ⟨runtimes, entry, subscript_eq_ok.mp hruntimes, hentry⟩, ?_, hpinned.trans hmarks⟩
    rw [hhistory, hsame, answered, List.append_assoc]
    rfl
  · rw [if_neg hregistered] at hcheck
    obtain ⟨⟨⟩, _, -, hcheck⟩ := bind_eq_ok.mp hcheck
    cases hcheck

/-- The inspected container has the requested configuration in every checked field. -/
structure Applied (job : SandboxJob) (runtime : Runtime) (definition settings : Json) : Prop where
  hostConfig : definition.get? "HostConfig" = some settings
  expected : ∀ pair ∈ expectedHost job runtime, ∃ value, settings.get? pair.1 = some value ∧
    value.pyEq pair.2 = true
  binds : Json.truthy (settings.get? "Binds") = false
  devices : Json.truthy (settings.get? "Devices") = false
  mounts : Json.truthy (definition.get? "Mounts") = false
  capDrop : ∃ dropped, settings.get? "CapDrop" = some dropped ∧
    dropped.pyEq (.arr [.str "ALL"]) = true
  securityOpt : ∃ options, settings.get? "SecurityOpt" = some options ∧
    contains options "no-new-privileges=true" = .ok true
  user : ∃ config, definition.get? "Config" = some config ∧
    config.get? "User" = some (.str "65532:65532")
  tmpfs : ∃ mounted, settings.get? "Tmpfs" = some mounted ∧
    isSetOf mounted ["/workspace", "/tmp"] = .ok true

theorem getAttr_eq_ok {value : Json} {key : String} {found : Option Json}
    (hfound : getAttr value key = .ok found) : found = value.get? key := by
  cases value with
  | obj fields =>
      cases hfound
      rfl
  | null | bool | int | float | str | arr => cases hfound

theorem unless_eq_ok {condition : Prop} [Decidable condition] {rest : Except PyError Bool} :
    (if condition then pure false else rest) = .ok true ↔ ¬condition ∧ rest = .ok true := by
  by_cases hcondition : condition
  · rw [if_pos hcondition]
    exact iff_of_false (fun hsame => by cases hsame) fun hboth => hboth.1 hcondition
  · rw [if_neg hcondition, and_iff_right hcondition]

/-- A value that compares equal to something other than null is there. -/
theorem exists_of_getD_pyEq {found : Option Json} {expected : Json}
    (hequal : (found.getD .null).pyEq expected = true) (hexpected : expected ≠ .null) :
    ∃ value, found = some value ∧ value.pyEq expected = true := by
  cases found with
  | some value => exact ⟨value, rfl, hequal⟩
  | none =>
      cases expected with
      | null => exact absurd rfl hexpected
      | bool | int | float | str | arr | obj => cases hequal

/-- No expected setting is null, so a missing one never matches. -/
theorem expectedHost_ne_null : ∀ pair ∈ expectedHost job runtime, pair.2 ≠ .null := by
  intro pair hpair
  simp only [expectedHost, List.mem_cons, List.not_mem_nil, or_false] at hpair
  rcases hpair with rfl | rfl | rfl | rfl | rfl | rfl | rfl | rfl | rfl <;> exact Json.noConfusion

/-- A value that passes a test its default fails is there. -/
theorem exists_of_getOr {value default found : Json} {key : String}
    (test : Json → Except PyError Bool) (hfound : getOr value key default = .ok found)
    (htest : test found = .ok true) (hdefault : test default = .ok false) :
    ∃ stored, value.get? key = some stored ∧ test stored = .ok true := by
  obtain ⟨stored, hstored, hget⟩ := except_bind_eq_ok.mp hfound
  cases hget
  rw [← getAttr_eq_ok hstored]
  cases stored with
  | some stored => exact ⟨stored, rfl, htest⟩
  | none =>
      rw [Option.getD_none, hdefault] at htest
      cases htest

theorem mapM_getAttr {settings : Json} {expected : List (String × Json)}
    {found : List (Option Json × Json)}
    (hfound : (expected.mapM fun pair => do
      return ((← getAttr settings pair.1), pair.2) : Except PyError _) = .ok found) :
    found = expected.map fun pair => (settings.get? pair.1, pair.2) := by
  induction expected generalizing found with
  | nil =>
      cases hfound
      rfl
  | cons pair rest ih =>
      rw [List.mapM_cons, except_bind_eq_ok] at hfound
      obtain ⟨head, hhead, hfound⟩ := hfound
      rw [except_bind_eq_ok] at hhead hfound
      obtain ⟨value, hvalue, hhead⟩ := hhead
      obtain ⟨tail, htail, hfound⟩ := hfound
      cases hhead
      cases hfound
      rw [List.map_cons, ih htail, getAttr_eq_ok hvalue]

/-- The policy check passes only definitions that apply every setting. -/
theorem appliedPolicy_eq_ok {definition : Json}
    (happlied : appliedPolicy job runtime definition = .ok true) :
    ∃ settings, Applied job runtime definition settings := by
  unfold appliedPolicy at happlied
  obtain ⟨settings, hsettings, happlied⟩ := except_bind_eq_ok.mp happlied
  obtain ⟨found, hfound, happlied⟩ := except_bind_eq_ok.mp happlied
  obtain ⟨hexpected, happlied⟩ := unless_eq_ok.mp happlied
  obtain ⟨binds, hbinds, happlied⟩ := except_bind_eq_ok.mp happlied
  obtain ⟨hunbound, happlied⟩ := unless_eq_ok.mp happlied
  obtain ⟨devices, hdevices, happlied⟩ := except_bind_eq_ok.mp happlied
  obtain ⟨hundevised, happlied⟩ := unless_eq_ok.mp happlied
  obtain ⟨mounts, hmounts, happlied⟩ := except_bind_eq_ok.mp happlied
  obtain ⟨hunmounted, happlied⟩ := unless_eq_ok.mp happlied
  obtain ⟨capDrop, hcapDrop, happlied⟩ := except_bind_eq_ok.mp happlied
  obtain ⟨hdropped, happlied⟩ := unless_eq_ok.mp happlied
  obtain ⟨options, hoptions, happlied⟩ := except_bind_eq_ok.mp happlied
  obtain ⟨secure, hsecure, happlied⟩ := except_bind_eq_ok.mp happlied
  obtain ⟨hsecured, happlied⟩ := unless_eq_ok.mp happlied
  obtain ⟨config, hconfig, happlied⟩ := except_bind_eq_ok.mp happlied
  obtain ⟨user, huser, happlied⟩ := except_bind_eq_ok.mp happlied
  obtain ⟨hnobody, happlied⟩ := unless_eq_ok.mp happlied
  obtain ⟨tmpfs, htmpfs, happlied⟩ := except_bind_eq_ok.mp happlied
  rw [mapM_getAttr hfound] at hexpected
  refine ⟨settings, subscript_eq_ok.mp hsettings, ?_, ?_, ?_, ?_, ?_, ?_, ?_, ?_⟩
  · intro pair hpair
    apply exists_of_getD_pyEq _ (expectedHost_ne_null pair hpair)
    have hall := List.any_eq_false.mp (eq_false_of_ne_true hexpected) _
      (List.mem_map_of_mem hpair)
    simpa using hall
  · rw [← getAttr_eq_ok hbinds]
    exact eq_false_of_ne_true hunbound
  · rw [← getAttr_eq_ok hdevices]
    exact eq_false_of_ne_true hundevised
  · rw [← getAttr_eq_ok hmounts]
    exact eq_false_of_ne_true hunmounted
  · rw [← getAttr_eq_ok hcapDrop]
    exact exists_of_getD_pyEq (by simpa using hdropped) Json.noConfusion
  · have hprotected : contains options "no-new-privileges=true" = .ok true := by
      rw [hsecure]
      exact congrArg Except.ok (by simpa using hsecured)
    exact exists_of_getOr (contains · "no-new-privileges=true") hoptions hprotected rfl
  · have hname : user.pyEq (.str "65532:65532") = true := by simpa using hnobody
    rw [Json.pyEq_str.mp hname] at huser
    exact ⟨config, subscript_eq_ok.mp hconfig, subscript_eq_ok.mp huser⟩
  · exact exists_of_getOr (isSetOf · ["/workspace", "/tmp"]) htmpfs happlied rfl

/-- Both exit codes are accepted, and the workload was not killed for its memory. -/
structure Ended (job : SandboxJob) (code : Int) (state : Json) (execution : SandboxExecution) :
    Prop where
  attached : code ∈ acceptedCodes job.mode
  stopped : ∃ running, state.get? "Running" = some running ∧ Json.truthy running = false
  exitCode : state.get? "ExitCode" = some execution.exitCode
  exited : ∃ accepted ∈ acceptedCodes job.mode, execution.exitCode.pyEq (.int accepted) = true
  oomKilled : state.get? "OOMKilled" = some execution.oomKilled
  survived : Json.truthy execution.oomKilled = false

/-- A member of a set equals one of its items. -/
theorem inSet_eq_ok {value : Json} {items : List Json} (hmember : inSet value items = .ok true) :
    ∃ item ∈ items, value.pyEq item = true := by
  cases value with
  | arr | obj => cases hmember
  | null | bool | int | float | str =>
      rw [inSet, Except.ok.injEq, List.any_eq_true] at hmember
      exact hmember

/-- The container inspected last, as far as it was read. -/
def StateOf (decoder : Decoder) (output : Bytes) (state : Json) : Prop :=
  ∃ definitions definition, decoder.loads output = .ok definitions ∧
    first definitions = .ok definition ∧ definition.get? "State" = some state

/-- A completed result was read from the state of this container. -/
theorem readState_eq_ok {code : Int} {stdout stderr : Bytes}
    (hread : readState docker decoder job name code stdout stderr world = .ok () final)
    (hstatus : final.result.status = .completed) :
    ∃ (state : Json) (found : Bytes × Bytes), StateOf decoder found.1 state ∧
      Ended job code state final.result.execution ∧
      final.history = world.history ++ [(DockerCommand.inspect name, .exited 0 found.1 found.2)] ∧
      marks final = marks world := by
  obtain ⟨definitions, output, error, hloads, hread⟩ := control_bind_eq_ok hread
  obtain ⟨definition, hfirst, hread⟩ := liftError_bind_eq_ok.mp hread
  obtain ⟨state, hstate, hread⟩ := lift_bind_eq_ok.mp hread
  obtain ⟨running, hrunning, hread⟩ := lift_bind_eq_ok.mp hread
  obtain ⟨hstopped, hread⟩ := guard_eq_ok hread
  obtain ⟨exitCode, hexitCode, hread⟩ := lift_bind_eq_ok.mp hread
  obtain ⟨⟨⟩, _, hmodify, hread⟩ := bind_eq_ok.mp hread
  cases hmodify
  obtain ⟨oomKilled, hoomKilled, hread⟩ := lift_bind_eq_ok.mp hread
  obtain ⟨⟨⟩, _, hmodify, hread⟩ := bind_eq_ok.mp hread
  cases hmodify
  obtain ⟨⟨⟩, _, hmodify, hread⟩ := bind_eq_ok.mp hread
  cases hmodify
  by_cases hcode : code ∈ acceptedCodes job.mode
  · dsimp only at hread
    rw [if_pos hcode] at hread
    obtain ⟨accepted, haccepted, hread⟩ := lift_bind_eq_ok.mp hread
    cases hread
    have hcompleted : (accepted && !Json.truthy oomKilled) = true := by
      by_contra hnot
      have hfailed : (if (accepted && !Json.truthy oomKilled) = true then SandboxStatus.completed
        else .failed) = .completed := hstatus
      rw [if_neg hnot] at hfailed
      cases hfailed
    rw [Bool.and_eq_true, Bool.not_eq_true'] at hcompleted
    obtain ⟨item, hitem, hequal⟩ := inSet_eq_ok (hcompleted.1 ▸ haccepted)
    obtain ⟨value, hvalue, rfl⟩ := List.mem_map.mp hitem
    exact ⟨state, (output, error), ⟨definitions, definition, hloads, hfirst,
      subscript_eq_ok.mp hstate⟩, ⟨hcode, ⟨running, subscript_eq_ok.mp hrunning,
        eq_false_of_ne_true hstopped⟩, subscript_eq_ok.mp hexitCode, ⟨value, hvalue, hequal⟩,
        subscript_eq_ok.mp hoomKilled, hcompleted.2⟩, rfl, rfl⟩
  · rw [if_neg hcode] at hread
    cases hread
    cases hstatus

/-- The container created, as far as it was inspected. -/
def DefinitionOf (decoder : Decoder) (output : Bytes) (definition : Json) : Prop :=
  ∃ definitions, decoder.loads output = .ok definitions ∧ first definitions = .ok definition

/-- A completed run inspected what it created before it started it. -/
theorem runContainer_eq_ok
    (hrun : runContainer docker decoder host job runtime name world = .ok () final)
    (hstatus : final.result.status = .completed) :
    ∃ (image : String) (code : Int) (definition settings state : Json)
      (created inspected attached last : Bytes × Bytes),
      DefinitionOf decoder inspected.1 definition ∧ Applied job runtime definition settings ∧
      StateOf decoder last.1 state ∧ Ended job code state final.result.execution ∧
      final.history = world.history ++
        [(DockerCommand.create name (createArguments host job runtime name image),
            .exited 0 created.1 created.2),
          (.inspect name, .exited 0 inspected.1 inspected.2),
          (.start name, .exited code attached.1 attached.2),
          (.inspect name, .exited 0 last.1 last.2)] ∧
      marks final = marks world := by
  obtain ⟨_, _, hget, hrun⟩ := bind_eq_ok.mp hrun
  obtain ⟨rfl, rfl⟩ := get_eq_ok.mp hget
  obtain ⟨arguments, harguments, hrun⟩ := lift_bind_eq_ok.mp hrun
  obtain ⟨image, rfl⟩ : ∃ image, createArguments host job runtime name image = arguments := by
    split at harguments
    next image _ => exact ⟨image, Except.ok.inj harguments⟩
    next => cases harguments
  obtain ⟨created, output, error, hrun⟩ := capture_bind_eq_ok hrun
  obtain ⟨hcreated, hrun⟩ := guard_eq_ok hrun
  have hzero : created = 0 := by simpa using hcreated
  subst hzero
  obtain ⟨identifier, -, hrun⟩ := lift_bind_eq_ok.mp hrun
  obtain ⟨⟨⟩, _, hidentified, hrun⟩ := bind_eq_ok.mp hrun
  cases hidentified
  obtain ⟨definitions, inspected, complaint, hloads, hrun⟩ := control_bind_eq_ok hrun
  obtain ⟨definition, hfirst, hrun⟩ := liftError_bind_eq_ok.mp hrun
  obtain ⟨applied, happlied, hrun⟩ := lift_bind_eq_ok.mp hrun
  obtain ⟨hsame, hrun⟩ := guard_eq_ok hrun
  have htrue : applied = true := by simpa using hsame
  subst htrue
  obtain ⟨settings, hsettings⟩ := appliedPolicy_eq_ok happlied
  obtain ⟨code, stdout, stderr, hrun⟩ := capture_bind_eq_ok hrun
  obtain ⟨state, last, hstate, hended, hhistory, hmarks⟩ := readState_eq_ok hrun hstatus
  refine ⟨image, code, definition, settings, state, (output, error), (inspected, complaint),
    (stdout, stderr), last, ⟨definitions, hloads, hfirst⟩, hsettings, hstate, hended, ?_, hmarks⟩
  rw [hhistory]
  simp only [answered, List.append_assoc]
  rfl

/-- No handled failure is a completed result. -/
theorem handleFailure_not_completed {error : SandboxError}
    (hhandle : handleFailure error world = .ok () final) : final.result.status ≠ .completed := by
  cases error with
  | cancelled | indexError => cases hhandle
  | timeout | control =>
      cases hhandle
      exact SandboxStatus.noConfusion
  | error raised =>
      unfold handleFailure at hhandle
      by_cases hdata : raised.isData = true
      · dsimp only at hhandle
        rw [if_pos hdata] at hhandle
        cases hhandle
        exact SandboxStatus.noConfusion
      · dsimp only at hhandle
        rw [if_neg hdata] at hhandle
        cases hhandle
  | group overflow =>
      cases overflow <;>
      · cases hhandle
        exact SandboxStatus.noConfusion

/-- The container is known to be removed. -/
def Removed (name : String) (commands : DockerHistory) : Prop :=
  (∃ stdout stderr, commands = [(.remove name, .exited 0 stdout stderr)]) ∨
    ∃ outcome remaining stderr, isBlank remaining = true ∧
      commands = [(.remove name, outcome), (.list name, .exited 0 remaining stderr)]

theorem shieldedCapture_eq_ok {command : DockerCommand} {code : Int} {stdout stderr : Bytes}
    (hcapture : shieldedCapture docker command world = .ok (code, stdout, stderr) final) :
    final.history = world.history ++ [(command, .exited code stdout stderr)] ∧
      final.result = world.result := by
  obtain ⟨_, _, hget, hcapture⟩ := bind_eq_ok.mp hcapture
  obtain ⟨rfl, rfl⟩ := get_eq_ok.mp hget
  obtain ⟨⟨⟩, _, hset, hcapture⟩ := bind_eq_ok.mp hcapture
  cases hset
  obtain ⟨-, hcapture⟩ := guard_eq_ok hcapture
  cases houtcome : docker.respond world.history command with
  | exited found first second =>
      rw [houtcome] at hcapture
      cases hcapture
      exact ⟨rfl, rfl⟩
  | raised error =>
      rw [houtcome] at hcapture
      cases hcapture

/-- A confirmed removal is in the history. -/
theorem removeContainer_eq_ok
    (hremove : removeContainer docker name world = .ok true final) :
    (∃ commands, Removed name commands ∧ final.history = world.history ++ commands) ∧
      final.result = world.result := by
  obtain ⟨⟨code, stdout, stderr⟩, middle, hcapture, hremove⟩ := bind_eq_ok.mp hremove
  obtain ⟨hhistory, hresult⟩ := shieldedCapture_eq_ok hcapture
  by_cases hcode : code = 0
  · dsimp only at hremove
    rw [if_pos hcode] at hremove
    cases hremove
    subst hcode
    exact ⟨⟨_, Or.inl ⟨stdout, stderr, rfl⟩, hhistory⟩, hresult⟩
  · dsimp only at hremove
    rw [if_neg hcode] at hremove
    obtain ⟨⟨listed, remaining, complaint⟩, last, hlist, hremove⟩ := bind_eq_ok.mp hremove
    obtain ⟨hlisted, hsame⟩ := shieldedCapture_eq_ok hlist
    obtain ⟨hblank, rfl⟩ := pure_eq_ok.mp hremove
    rw [Bool.and_eq_true, decide_eq_true_eq] at hblank
    obtain ⟨rfl, hblank⟩ := hblank
    refine ⟨⟨_, Or.inr ⟨.exited code stdout stderr, remaining, complaint, hblank, rfl⟩, ?_⟩,
      hsame.trans hresult⟩
    rw [hlisted, hhistory, List.append_assoc]
    rfl

/-- A cleanup that reports success removed the container. -/
theorem cleanup_eq_ok (hcleanup : cleanup docker name world = .ok true final) :
    (∃ commands, Removed name commands ∧ final.history = world.history ++ commands) ∧
      final.result = world.result := by
  rw [cleanup, tryCatch_apply] at hcleanup
  cases hremove : removeContainer docker name world with
  | ok value last =>
      rw [hremove] at hcleanup
      cases hcleanup
      exact removeContainer_eq_ok hremove
  | error error last =>
      rw [hremove] at hcleanup
      cases error <;> cases hcleanup

/-- A teardown after which an execution still counts as completed has removed
the container and changed nothing else. -/
theorem teardown_eq_ok (hteardown : teardown docker host name world = .ok () final)
    (hstatus : final.result.status = .completed) :
    (∃ commands, Removed name commands ∧ final.history = world.history ++ commands) ∧
      final.result = { world.result with execution := { world.result.execution with
        cleanupSucceeded := true, durationMs := host.elapsed } } := by
  obtain ⟨⟨⟩, _, hmodify, hteardown⟩ := bind_eq_ok.mp hteardown
  cases hmodify
  obtain ⟨succeeded, middle, hcleanup, hteardown⟩ := bind_eq_ok.mp hteardown
  obtain ⟨⟨⟩, _, hmodify, hteardown⟩ := bind_eq_ok.mp hteardown
  cases hmodify
  obtain ⟨_, _, hget, hteardown⟩ := bind_eq_ok.mp hteardown
  obtain ⟨rfl, rfl⟩ := get_eq_ok.mp hget
  obtain ⟨-, hteardown⟩ := guard_eq_ok hteardown
  obtain ⟨⟨⟩, _, hmodify, hteardown⟩ := bind_eq_ok.mp hteardown
  cases hmodify
  cases succeeded with
  | false =>
      cases hteardown
      cases hstatus
  | true =>
      cases hteardown
      obtain ⟨hremoved, hresult⟩ := cleanup_eq_ok hcleanup
      refine ⟨hremoved, ?_⟩
      dsimp only
      rw [hresult]

/-- A completed supervision ran the container and removed it afterwards. -/
theorem supervise_eq_ok
    (hsupervise : supervise docker decoder host job runtime name world = .ok () final)
    (hstatus : final.result.status = .completed) :
    ∃ middle commands, runContainer docker decoder host job runtime name world = .ok () middle ∧
      middle.result.status = .completed ∧ Removed name commands ∧
      final.history = middle.history ++ commands ∧
      final.result = { middle.result with execution := { middle.result.execution with
        cleanupSucceeded := true, durationMs := host.elapsed } } := by
  obtain ⟨raised, last, hattempted, hrest⟩ := bind_eq_ok.mp hsupervise
  obtain ⟨⟨⟩, torn, hteardown, hrest⟩ := bind_eq_ok.mp hrest
  cases raised with
  | some error => cases hrest
  | none =>
      obtain ⟨-, rfl⟩ := pure_eq_ok.mp hrest
      obtain ⟨⟨commands, hremoved, hhistory⟩, hresult⟩ := teardown_eq_ok hteardown hstatus
      have hlast : last.result.status = .completed := by
        rw [hresult] at hstatus
        exact hstatus
      unfold attempted at hattempted
      rw [tryCatch_apply] at hattempted
      cases hrun : runContainer docker decoder host job runtime name world with
      | ok value middle =>
          rw [hrun] at hattempted
          cases hattempted
          exact ⟨last, commands, rfl, hlast, hremoved, hhistory, hresult⟩
      | error error middle =>
          rw [hrun] at hattempted
          cases hhandle : handleFailure error middle with
          | ok value handled =>
              simp only [hhandle] at hattempted
              cases hattempted
              exact absurd hlast (handleFailure_not_completed hhandle)
          | error other handled =>
              simp only [hhandle] at hattempted
              cases hattempted

/-- The image is pinned, by the configuration or by the stored build. -/
theorem resolveImage_eq_ok {image : String} (hresolve : resolveImage host = .ok image) :
    isPinnedImage image = true ∧ (host.sandboxImage = image ∨ host.sandboxImage = "" ∧
      ∃ stored, host.imageFile = .ok stored ∧ stored.get? "image" = some (.str image)) := by
  obtain ⟨value, hvalue, hresolve⟩ := except_bind_eq_ok.mp hresolve
  split at hresolve
  next text =>
    split at hresolve
    next hpinned =>
      cases hresolve
      refine ⟨hpinned, ?_⟩
      unfold configuredImage at hvalue
      split at hvalue
      next hempty =>
        refine Or.inr ⟨hempty, ?_⟩
        split at hvalue
        next found hfound =>
          cases hvalue
          obtain ⟨stored, hstored, hfound⟩ := except_bind_eq_ok.mp hfound
          exact ⟨stored, hstored, subscript_eq_ok.mp hfound⟩
        next error hfound => split at hvalue <;> cases hvalue
      next =>
        cases hvalue
        exact Or.inl rfl
    next => cases hresolve
  next => cases hresolve

/-- What stands behind a completed execution: the answers of the daemon in the
order of the commands, with all that is checked of them. -/
structure Evidence (decoder : Decoder) (host : SandboxHost) (job : SandboxJob) (runtime : Runtime)
    (name : String) (history : DockerHistory) (execution : SandboxExecution) where
  image : String
  image_pinned : isPinnedImage image = true
  image_configured : host.sandboxImage = image ∨ host.sandboxImage = "" ∧
    ∃ stored, host.imageFile = .ok stored ∧ stored.get? "image" = some (.str image)
  info : Json
  runtime_registered : Registered runtime info
  definition : Json
  settings : Json
  policy_applied : Applied job runtime definition settings
  code : Int
  state : Json
  workload_ended : Ended job code state execution
  marks_clear : execution.timedOut = false ∧ execution.outputTruncated = false
  cleanup_succeeded : execution.cleanupSucceeded = true
  asked : Bytes × Bytes
  found : Bytes × Bytes
  created : Bytes × Bytes
  inspected : Bytes × Bytes
  attached : Bytes × Bytes
  last : Bytes × Bytes
  asked_info : decoder.loads asked.1 = .ok info
  inspected_definition : DefinitionOf decoder inspected.1 definition
  last_state : StateOf decoder last.1 state
  identifier : String
  removal : DockerHistory
  container_removed : Removed name removal
  commands : history =
    [(DockerCommand.info, .exited 0 asked.1 asked.2),
      (.imageInspect image, .exited 0 found.1 found.2),
      (.create name (createArguments host job runtime name identifier),
        .exited 0 created.1 created.2),
      (.inspect name, .exited 0 inspected.1 inspected.2),
      (.start name, .exited code attached.1 attached.2),
      (.inspect name, .exited 0 last.1 last.2)] ++ removal

/-- An unavailable daemon is never taken for an available one. -/
theorem handleUnavailable_ne_true {error : SandboxError} :
    handleUnavailable error world ≠ .ok true final := by
  intro hhandle
  cases error with
  | cancelled | timeout | group | control | indexError => cases hhandle
  | error raised =>
      by_cases hdata : raised.isData = true
      · dsimp only [handleUnavailable] at hhandle
        rw [if_pos hdata] at hhandle
        cases hhandle
      · dsimp only [handleUnavailable] at hhandle
        rw [if_neg hdata] at hhandle
        cases hhandle

/-- The checks of daemon and image go on only if all of them are passed. -/
theorem checked_eq_ok {image : String}
    (hcheck : (tryCatch (checkDaemon docker decoder runtime image) handleUnavailable) world =
      .ok true final) :
    checkDaemon docker decoder runtime image world = .ok true final := by
  rw [tryCatch_apply] at hcheck
  cases hresult : checkDaemon docker decoder runtime image world with
  | ok ready last =>
      rw [hresult] at hcheck
      exact hcheck
  | error error last =>
      rw [hresult] at hcheck
      exact absurd hcheck handleUnavailable_ne_true

/-- A completed result comes with the whole evidence in its history. -/
theorem evidence_of_completed {result : SandboxResult}
    (hexecute : execute docker decoder host job runtime name = .ok result final)
    (hstatus : result.status = .completed) :
    Nonempty (Evidence decoder host job runtime name final.history result.execution) := by
  obtain ⟨⟨⟩, _, hjob, hresult⟩ := bind_eq_ok.mp hexecute
  obtain ⟨_, _, hget, hresult⟩ := bind_eq_ok.mp hresult
  obtain ⟨rfl, rfl⟩ := get_eq_ok.mp hget
  obtain ⟨rfl, rfl⟩ := pure_eq_ok.mp hresult
  unfold executeJob at hjob
  -- Every early way out has another status than completed.
  by_cases hcancelled : host.cancelled = true
  · rw [if_pos hcancelled] at hjob
    cases hjob
  rw [if_neg hcancelled] at hjob
  cases hresolve : resolveImage host with
  | error error =>
      rw [hresolve] at hjob
      by_cases hvalue : error.type ∈ [ErrorType.valueError, .validationError]
      · dsimp only at hjob
        rw [if_pos hvalue] at hjob
        cases hjob
        cases hstatus
      · dsimp only at hjob
        rw [if_neg hvalue] at hjob
        cases hjob
  | ok image =>
      rw [hresolve] at hjob
      obtain ⟨⟨⟩, _, hmodify, hjob⟩ := bind_eq_ok.mp hjob
      cases hmodify
      by_cases hdocker : (!host.docker) = true
      · rw [if_pos hdocker] at hjob
        cases hjob
        cases hstatus
      rw [if_neg hdocker] at hjob
      by_cases hkvm : runtime = .kata ∧ (!host.kvm) = true
      · rw [if_pos hkvm] at hjob
        cases hjob
        cases hstatus
      rw [if_neg hkvm] at hjob
      obtain ⟨ready, checked, hcheck, hjob⟩ := bind_eq_ok.mp hjob
      cases ready with
      | false =>
          obtain ⟨-, rfl⟩ := pure_eq_ok.mp hjob
          have hissues : Issues False (fun command => DockerCommand.creates command = false)
              (tryCatch (checkDaemon docker decoder runtime image) handleUnavailable) :=
            .tryCatch (checkDaemon_issues image) handleUnavailable_issues
          obtain ⟨-, -, -, hsame⟩ := hissues _
          rw [hcheck] at hsame
          exact absurd (hstatus.symm.trans (hsame.resolve_left id)) SandboxStatus.noConfusion
      | true =>
          -- From here on the job went all the way, and the history is read back part by part.
          obtain ⟨info, asked, found, hinfo, hregistered, hchecked, hclear⟩ :=
            checkDaemon_eq_ok (checked_eq_ok hcheck)
          obtain ⟨middle, removal, hrun, hcompleted, hremoved, hhistory, hresult⟩ :=
            supervise_eq_ok hjob hstatus
          obtain ⟨identifier, code, definition, settings, state, created, inspected, attached, last,
            hdefinition, hsettings, hstate, hended, hcommands, hmarks⟩ :=
            runContainer_eq_ok hrun hcompleted
          obtain ⟨hpinned, hconfigured⟩ := resolveImage_eq_ok hresolve
          have hfinal : marks middle = (false, false) := hmarks.trans hclear
          rw [hresult]
          exact ⟨
            { image, image_pinned := hpinned, image_configured := hconfigured, info
              runtime_registered := hregistered, definition, settings, policy_applied := hsettings
              code, state
              workload_ended := ⟨hended.attached, hended.stopped, hended.exitCode, hended.exited,
                hended.oomKilled, hended.survived⟩
              marks_clear := Prod.mk.injEq _ _ _ _ ▸ hfinal
              cleanup_succeeded := rfl, asked, found, created, inspected, attached, last
              asked_info := hinfo, inspected_definition := hdefinition, last_state := hstate
              identifier, removal, container_removed := hremoved
              commands := by rw [hhistory, hcommands, hchecked]; rfl }⟩

end Sandbox

/-- An execution that returns as completed stands on evidence for it, and every
attempt to create the container is followed by one to remove it. -/
theorem completion_verified (docker : Docker) (decoder : Decoder) (host : SandboxHost)
    (job : SandboxJob) (runtime : Runtime) (name : String) :
    (∀ result final, Sandbox.execute docker decoder host job runtime name = .ok result final →
        result.status = .completed →
        Nonempty (Sandbox.Evidence decoder host job runtime name final.history result.execution)) ∧
      ∀ (before after : DockerHistory) (created : DockerCommand × CaptureOutcome),
        (Foundation.finalState (Sandbox.execute docker decoder host job runtime name)).history =
            before ++ created :: after →
        Sandbox.DockerCommand.creates created.1 = true →
        ∃ outcome, (DockerCommand.remove name, outcome) ∈ after :=
  ⟨fun _ _ => Sandbox.evidence_of_completed, fun _ _ _ => Sandbox.execute_removes⟩

/-! ### An execution that completes -/

/-- Output in ASCII. -/
def asciiText (output : Bytes) : String :=
  String.ofList (output.map fun byte => Char.ofNat byte.toNat)

def asciiDecoder : Decoder where
  decode output := .ok (asciiText output)
  replace := asciiText
  loads output := match JsonParser.loads id (asciiText output) with
    | some value => .ok value
    | none => valueError "Expecting value"
  loadsText text := match JsonParser.loads id text with
    | some value => .ok value
    | none => valueError "Expecting value"

/-- Reads the characters without the text in between, which is most of the work. -/
def characterDecoder : Decoder where
  decode output := .ok (asciiText output)
  replace := asciiText
  loads output :=
    let chars := output.map fun byte => Char.ofNat byte.toNat
    match JsonParser.readValue id (2 * chars.length + 2) (JsonParser.skipSpace chars) with
    | some (value, rest) =>
      if JsonParser.skipSpace rest = [] then .ok value else valueError "Expecting value"
    | none => valueError "Expecting value"
  loadsText text := match JsonParser.loads id text with
    | some value => .ok value
    | none => valueError "Expecting value"

theorem asciiDecoder_eq : asciiDecoder = characterDecoder := by
  unfold asciiDecoder characterDecoder
  congr 1
  funext output
  rw [asciiText, JsonParser.loads, String.toList_ofList, String.length_ofList]
  dsimp only
  cases JsonParser.readValue id _ _ with
  | none => rfl
  | some found =>
      by_cases hrest : JsonParser.skipSpace found.2 = []
      · simp only [hrest, if_true]
      · simp only [hrest, if_false]

def sampleHost : SandboxHost where
  docker := true
  kvm := false
  kernel := "6.8.0"
  owner := "owner"
  sandboxImage := "sha256:aaaaaaaaaaaaaaaaaaaaaaaaaaaaaaaaaaaaaaaaaaaaaaaaaaaaaaaaaaaaaaaa"
  imageFile := .error ⟨.osError, "No such file or directory"⟩
  cancelled := false
  elapsed := 7

def samplePolicy : SandboxPolicy := .default

def sampleSandboxJob : SandboxJob where
  source := sampleModule
  mode := .test
  policy := samplePolicy

/-- A daemon that does what it is asked. -/
def sampleReply : DockerCommand → String
  | .info => "\x7b\"OSType\":\"linux\",\"Architecture\":\"x86_64\",\"Runtimes\":\x7b\"runc\":\x7b\x7d\x7d\x7d"
  | .imageInspect image =>
    "[\x7b\"Architecture\":\"amd64\",\"Os\":\"linux\",\"Id\":\"" ++ image ++
      "\",\"Config\":\x7b\x7d\x7d]"
  | .inspect _ =>
    "[\x7b\"Config\":\x7b\"User\":\"65532:65532\"\x7d,\"Mounts\":[],\"HostConfig\":\x7b" ++
      "\"Runtime\":\"runc\",\"NetworkMode\":\"none\",\"ReadonlyRootfs\":true," ++
      "\"Privileged\":false,\"Memory\":536870912,\"MemorySwap\":536870912," ++
      "\"NanoCpus\":1000000000,\"PidsLimit\":64,\"CgroupnsMode\":\"private\"," ++
      "\"CapDrop\":[\"ALL\"],\"SecurityOpt\":[\"no-new-privileges=true\"]," ++
      "\"Tmpfs\":\x7b\"/workspace\":\"bounded\",\"/tmp\":\"bounded\"\x7d\x7d," ++
      "\"State\":\x7b\"Running\":false,\"ExitCode\":0,\"OOMKilled\":false\x7d\x7d]"
  | .create .. | .start _ | .remove _ | .list _ => ""

def sampleDocker : Docker where
  respond _ command := .exited 0 ((sampleReply command).toList.map fun c => UInt8.ofNat c.toNat) []
  interrupts _ := 0
  late := 0

/-- The daemon says something to three commands. -/
theorem sampleDocker_eq : sampleDocker = {
    respond := fun _ command => .exited 0 (match command with
      | .info => (sampleReply .info).toList.map fun c => UInt8.ofNat c.toNat
      | .imageInspect image =>
        (sampleReply (.imageInspect image)).toList.map fun c => UInt8.ofNat c.toNat
      | .inspect name => (sampleReply (.inspect name)).toList.map fun c => UInt8.ofNat c.toNat
      | _ => []) []
    interrupts := fun _ => 0
    late := 0 } := by
  unfold sampleDocker
  congr 1
  funext _ command
  cases command <;> rfl

theorem toList_append_seven (one two three four five six seven : String) :
    (one ++ two ++ three ++ four ++ five ++ six ++ seven).toList =
      one.toList ++ two.toList ++ three.toList ++ four.toList ++ five.toList ++ six.toList ++
        seven.toList := by
  simp only [String.toList_append]

theorem completion_verified_sample :
    ∃ result final, Sandbox.execute sampleDocker asciiDecoder sampleHost sampleSandboxJob .runc
        "aidlc-sandbox-0" = .ok result final ∧
      Nonempty (Sandbox.Evidence asciiDecoder sampleHost sampleSandboxJob .runc "aidlc-sandbox-0"
        final.history result.execution) := by
  have hstatus : (returned (Sandbox.execute sampleDocker asciiDecoder sampleHost sampleSandboxJob
      .runc "aidlc-sandbox-0")).map (fun finished => finished.1.status) = some .completed := by
    -- the characters of a long text take long, those of its parts do not
    have hparts : ∀ name, (sampleReply (.inspect name)).toList = _ :=
      fun name => toList_append_seven _ _ _ _ _ _ _
    rw [asciiDecoder_eq, sampleDocker_eq]
    simp only [hparts]
    decide +kernel
  obtain ⟨⟨result, final⟩, hreturned, hcompleted⟩ := Option.map_eq_some_iff.mp hstatus
  have hexecute := eq_ok_of_returned (Option.isSome_of_eq_some hreturned)
  simp only [hreturned, Option.get_some] at hexecute
  exact ⟨result, final, hexecute,
    (completion_verified _ _ _ _ _ _).1 result final hexecute hcompleted⟩

end Aidlc
