import Aidlc.Orchestration.Conduct

/-! # The steps that keep order

A run that is over has told so and nobody works for it, in every state the hub
reaches by steps that keep order. Out of order come a run that is canceled before
its execution began, a final statement that fails, an agent that is interrupted
while it cancels its remote task, and a process that dies over unfinished work.
-/

namespace Aidlc

open Foundation Workflow

namespace Hub

/-- The request whoever runs makes next. -/
def request (hub : Hub) : Option Request :=
  match hub.active with
  | some (.handler _ (.call request _)) => some request
  | some (.coroutine task) => (hub.coroutines task).bind fun coroutine =>
    match coroutine.body with
    | .running (.call request _) => some request
    | _ => none
  | some (.child task agent) => (hub.findChild task agent).bind fun (_, _, child) =>
    match child.body with
    | .running (.call request _) | .asking _ (.call request _) _ => some request
    | _ => none
  | _ => none

/-- The task of the agent is about to cancel its remote task, or does so. -/
def abandons (hub : Hub) (task : Nat) (agent : String) : Bool :=
  (hub.findChild task agent).any fun (_, _, child) =>
    match child.body with
    | .invoking invocation _ => Invocation.canceling invocation.point
    | _ => false

/-- The steps that keep runs in order. -/
def keepsOrder (hub : Hub) : HubLabel → Bool
  | .call runId .cancel =>
    !((hub.liveTask runId).any fun live => !live.2.cancelling) ||
      (hub.stores.database.getRun runId).map WorkflowRun.status != some .pending
  | .step fault => fault == .none || !hub.request.any Request.final
  | .interruptChild task agent => !hub.abandons task agent
  | .crash => hub.active.isNone && hub.stores.database.runs.all fun run => !run.unfinished
  | _ => true

variable {platform : Platform} {clock : Nat → Nat} {settings : HubSettings}
  {tools : HubTools platform} {hub next : Hub} {runId : RunId} {task : Nat}
  {coroutine : Coroutine} {group : Group} {child : Child} {fault : StorageFault}

/-- With no actor set aside, any may be. -/
theorem Aside.mono {owner : Option RunId} {mover : Option Nat} (haside : hub.Aside none none) :
    hub.Aside owner mover where
  filed := haside.filed
  detached := haside.detached
  waiting other found _ hfound := haside.waiting other found nofun hfound
  stable other _ := haside.stable other nofun
  down := haside.down

/-- A run with an execution is open whenever the hub waits. -/
theorem Aside.open (haside : hub.Aside none none)
    (hcoroutine : hub.coroutines task = some coroutine) : (hub.view coroutine.runId).Open := by
  refine (haside.stable coroutine.runId nofun).active false ?_
  show (hub.attendance coroutine.runId).isSome = true
  rw [attendance, haside.filed.filed task coroutine hcoroutine, Option.bind_some, hcoroutine]
  rfl

/-- An orderly hub is orderly with nobody set aside, while nothing is active. -/
theorem Orderly.aside (horderly : hub.Orderly) (hactive : hub.active = none) :
    hub.Aside none none := by
  unfold Orderly at horderly
  rw [hactive] at horderly
  exact horderly

theorem Aside.orderly (haside : hub.Aside none none) (hactive : hub.active = none) :
    hub.Orderly := by
  unfold Orderly
  rw [hactive]
  exact haside

/-! ## Invocations -/

theorem Aside.withDetached {owner : Option RunId} {mover : Option Nat}
    (haside : hub.Aside owner mover) {detached : List (Delegation × CancelPhase)}
    (hnone : detached = []) : ({ hub with detached } : Hub).Aside owner mover :=
  ⟨⟨haside.filed.filed, haside.filed.owned⟩, hnone, haside.waiting, haside.stable, haside.down⟩

/-- The task of an agent goes on after a statement of its invocation. -/
theorem orderly_proceed (haside : hub.Aside (some runId) (some task))
    (hcoroutine : hub.coroutines task = some coroutine) (howner : coroutine.runId = runId)
    (hgroup : group.ServesBut runId child.spec.name) (hopen : (hub.view runId).Open)
    {resume : Except Raised AgentResult → Routine ArtifactId}
    (hresume : Resumes runId RunView.Open resume) {turn : Turn} {abandoned : Prop}
    (howns : Invocation.Owns runId hub.stores.database abandoned turn) (hkept : ¬abandoned) :
    (hub.proceed tools settings task coroutine group child resume turn).Orderly := by
  obtain ⟨database, posted, progress⟩ := turn
  obtain ⟨⟨hwrites, hruns⟩, hrunning, hleft⟩ := howns
  have hwritten : (hub.withShared (hub.toShared.withDatabase database)).Aside (some runId)
      (some task) := haside.write (haside.up hcoroutine) hwrites
  have hstill : ((hub.withShared (hub.toShared.withDatabase database)).view runId).Open := by
    obtain ⟨status, hstatus, hlive⟩ := hopen
    refine ⟨status, ?_, hlive⟩
    exact (congrArg (fun runs => (List.find? _ runs).map WorkflowRun.status) hruns).trans hstatus
  cases progress with
  | running invocation =>
      have hmapping := hrunning invocation rfl
      unfold proceed
      dsimp only
      split
      next task draft hpoint =>
        refine hwritten.runChild hcoroutine howner hgroup ⟨hmapping, ?_, ?_, hresume⟩
        · rw [hpoint]
          rfl
        · exact lively_humanInput tools settings invocation.mapping draft _ hstill
      next => exact hwritten.pauseChild hcoroutine howner hgroup ⟨hmapping, hresume⟩ hstill
  | returned result =>
      exact orderly_settleChild hwritten hcoroutine howner hgroup (hresume _ hstill _)
  | raised ending left =>
      cases left with
      | none =>
          have hnone : hub.detached ++ (none : Option (Delegation × CancelPhase)).toList = [] :=
            (List.append_nil _).trans haside.detached
          exact orderly_settleChild (hwritten.withDetached hnone) hcoroutine howner hgroup
            (hresume _ hstill _)
      | some left => exact absurd (hleft ending left rfl) hkept

theorem canceling_of_awaiting {point : Point} (hawaiting : Invocation.awaiting point = true) :
    Invocation.canceling point = false := by
  cases point <;> first | rfl | cases hawaiting

/-- `_human_input` goes on to its next await, or its answer reaches the invocation. -/
theorem orderly_settleAsking (haside : hub.Aside (some runId) (some task))
    (hcoroutine : hub.coroutines task = some coroutine) (howner : coroutine.runId = runId)
    (hgroup : group.ServesBut runId child.spec.name) {invocation : Invocation}
    (hmapping : invocation.mapping.runId = runId)
    (hpoint : Invocation.canceling invocation.point = false)
    {resume : Except Raised AgentResult → Routine ArtifactId}
    (hresume : Resumes runId RunView.Open resume) {routine : Routine Json}
    (hmeets : routine.Meets (lifecycle runId false) (fun _ => RunView.Open) (hub.view runId))
    (hnext : hub.settleAsking tools settings task coroutine group child invocation resume routine =
      some next) : next.Orderly := by
  have hconclude (result : Except Raised Json) (hopen : (hub.view runId).Open)
      (hturn : ((invocation.step settings.client hub.stores.database (inputEvent result)).map
        fun turn => hub.proceed tools settings task coroutine group child resume turn) =
          some next) : next.Orderly := by
    obtain ⟨turn, hstep, rfl⟩ := Option.map_eq_some_iff.mp hturn
    refine orderly_proceed haside hcoroutine howner hgroup hopen hresume
      (Invocation.owns_step hmapping hstep) fun habandoned => ?_
    rw [hpoint] at habandoned
    cases habandoned.2
  cases routine with
  | done response => exact hconclude (.ok response) hmeets hnext
  | raise raised => exact hconclude (.error raised) hmeets hnext
  | call request next' =>
      cases hnext
      have hgoes := Goes.of_meets hmeets
      cases hsuspends : request.suspends with
      | true =>
          rw [hsuspends, if_pos rfl] at hgoes
          rw [if_pos rfl]
          exact haside.pauseChild hcoroutine howner hgroup ⟨hmapping, hpoint, hgoes, hresume⟩
            (resumes_of_meets hsuspends hmeets).1
      | false =>
          rw [hsuspends, if_neg Bool.false_ne_true] at hgoes
          rw [if_neg Bool.false_ne_true]
          exact haside.runChild hcoroutine howner hgroup ⟨hmapping, hpoint, hgoes, hresume⟩

/-! ## Statements -/

/-- A call of the interface goes on, or is over. -/
theorem orderly_settleHandler (haside : hub.Aside (some runId) none) (hup : hub.phase ≠ .down)
    {routine : Routine Unit}
    (hmeets : routine.Meets (lifecycle runId true) (fun _ => RunView.Stable) (hub.view runId)) :
    (hub.settleHandler runId routine).Orderly := by
  have hover (hstable : (hub.view runId).Stable) : ({ hub with active := none } : Hub).Orderly := by
    refine ⟨⟨haside.filed.filed, haside.filed.owned⟩, haside.detached, haside.waiting,
      fun other _ => ?_, haside.down⟩
    by_cases hother : other = runId
    · exact hother ▸ hstable
    · exact haside.stable other fun hsame => hother (Option.some.inj hsame)
  cases routine with
  | done value => exact hover hmeets
  | raise raised => exact hover hmeets
  | call request resume => exact ⟨hup, haside.withActive _, hmeets⟩

/-- A child that is found is one of the group. -/
theorem mem_of_child {agent : String} (hchild : group.child agent = some child) :
    child ∈ group.children ∧ child.spec.name = agent := by
  unfold Group.child at hchild
  exact ⟨List.mem_of_find?_eq_some hchild, by simpa using List.find?_some hchild⟩

/-- A child found in the hub is in a group that its execution gathers. -/
theorem findChild_eq_some {agent : String}
    (hfound : hub.findChild task agent = some (coroutine, group, child)) :
    hub.coroutines task = some coroutine ∧ coroutine.body = .gathering group ∧
      child ∈ group.children ∧ child.spec.name = agent := by
  obtain ⟨current, hcurrent, hbody⟩ := Option.bind_eq_some_iff.mp hfound
  split at hbody
  next other hgathering =>
    obtain ⟨member, hmember, hpair⟩ := Option.map_eq_some_iff.mp hbody
    cases hpair
    exact ⟨hcurrent, hgathering, mem_of_child hmember⟩
  next => cases hbody

/-- Whoever runs does its next statement. -/
theorem orderly_advance (horderly : hub.Orderly) (hkeeps : hub.keepsOrder (.step fault) = true)
    (hnext : hub.advance clock tools settings fault = some next) : next.Orderly := by
  have hfault {request : Request} (hrequest : hub.request = some request)
      (hfinal : request.final = true) : fault = .none := by
    simp only [keepsOrder, hrequest, Option.any_some, hfinal, Bool.not_true, Bool.or_false,
      beq_iff_eq] at hkeeps
    exact hkeeps
  unfold Orderly at horderly
  unfold advance at hnext
  unfold Hub.request at hfault
  cases hactive : hub.active with
  | none =>
      rw [hactive] at hnext
      cases hnext
  | some who =>
      simp only [hactive] at horderly hnext hfault
      cases who with
      | handler runId routine =>
          obtain ⟨hup, haside, hmeets⟩ := horderly
          cases routine with
          | done value => cases hnext
          | raise raised => cases hnext
          | call request resume =>
              obtain ⟨⟨answer, after⟩, hserve, rfl⟩ := Option.map_eq_some_iff.mp hnext
              have hwaits : request.suspends = false := by
                rw [← Bool.not_eq_true]
                exact fun hsuspends => Bool.noConfusion (hmeets.1.1 hsuspends).1
              obtain ⟨hafter, hstill, heffect⟩ := haside.serveInterface hup (hfault rfl)
                hmeets.1.2.2 hserve
              exact orderly_settleHandler hafter hstill (meets_answer hwaits hmeets heffect)
      | coroutine task =>
          obtain ⟨coroutine, routine, hcoroutine, hbody, haside, hgoes⟩ := horderly
          simp only [hcoroutine, Option.bind_some, hbody] at hnext hfault
          cases routine with
          | done value => cases hnext
          | raise raised => cases hnext
          | call request resume =>
              obtain ⟨⟨answer, after⟩, hserve, rfl⟩ := Option.map_eq_some_iff.mp hnext
              have hinterface : request.ofInterface = false := by
                rw [← Bool.not_eq_true]
                exact fun hinterface => Bool.noConfusion (hgoes.1.2.1 hinterface)
              obtain ⟨hafter, -, hsame, heffect⟩ := haside.serve (haside.up hcoroutine) (hfault rfl)
                hinterface hserve
              exact orderly_settle hafter (hsame ▸ hcoroutine) rfl rfl rfl
                (meets_answer (serve_stores hinterface hserve).1 hgoes heffect)
      | child task agent =>
          obtain ⟨coroutine, group, hcoroutine, hgathering, haside, hgroup⟩ := horderly
          obtain ⟨⟨found, members, child⟩, hchild, hrest⟩ := Option.bind_eq_some_iff.mp hnext
          obtain ⟨hfound, hmembers, hmember, rfl⟩ := findChild_eq_some hchild
          rw [hcoroutine, Option.some.injEq] at hfound
          subst hfound
          rw [hgathering, Body.gathering.injEq] at hmembers
          subst hmembers
          have hbody := hgroup.children child hmember
          rw [if_pos rfl] at hbody
          simp only [hchild, Option.bind_some] at hfault
          cases hwhere : child.body with
          | running routine =>
              simp only [hwhere] at hrest hfault
              rw [hwhere] at hbody
              cases routine with
              | done value => cases hrest
              | raise raised => cases hrest
              | call request resume =>
                  obtain ⟨⟨answer, after⟩, hserve, rfl⟩ := Option.map_eq_some_iff.mp hrest
                  have hinterface : request.ofInterface = false := by
                    rw [← Bool.not_eq_true]
                    exact fun hinterface => Bool.noConfusion (hbody.1.2.1 hinterface)
                  obtain ⟨hafter, -, hsame, heffect⟩ := haside.serve (haside.up hcoroutine)
                    (hfault rfl) hinterface hserve
                  exact orderly_settleChild hafter (hsame ▸ hcoroutine) rfl hgroup.but
                    (meets_answer (serve_stores hinterface hserve).1 hbody heffect)
          | asking invocation routine resume =>
              simp only [hwhere] at hrest hfault
              rw [hwhere] at hbody
              obtain ⟨hmapping, hpoint, hgoes, hresume⟩ := hbody
              cases routine with
              | done value => cases hrest
              | raise raised => cases hrest
              | call request answered =>
                  obtain ⟨⟨answer, after⟩, hserve, hsettle⟩ := Option.bind_eq_some_iff.mp hrest
                  have hinterface : request.ofInterface = false := by
                    rw [← Bool.not_eq_true]
                    exact fun hinterface => Bool.noConfusion (hgoes.1.2.1 hinterface)
                  obtain ⟨hafter, -, hsame, heffect⟩ := haside.serve (haside.up hcoroutine)
                    (hfault rfl) hinterface hserve
                  exact orderly_settleAsking hafter (hsame ▸ hcoroutine) rfl hgroup.but hmapping
                    hpoint hresume
                    (meets_answer (serve_stores hinterface hserve).1 hgoes heffect) hsettle
          | scheduled => simp only [hwhere] at hrest; cases hrest
          | invoking invocation resume => simp only [hwhere] at hrest; cases hrest
          | finished result => simp only [hwhere] at hrest; cases hrest

/-- What waits for its run goes on with whatever answers it. -/
theorem resumes_of_goes {α : Type} {post : RunView → Prop} {request : Request}
    {resume : request.Answer → Routine α}
    (hgoes : Goes runId post none (.call request resume : Routine α)) :
    request.suspends = true ∧ Resumes runId post resume := hgoes

/-- Beginning an execution keeps the order. -/
theorem orderly_begin (haside : hub.Aside none none) (hidle : hub.active = none)
    (hnext : hub.begin tools settings task = some next) : next.Orderly := by
  obtain ⟨coroutine, hcoroutine, hnext⟩ := Option.bind_eq_some_iff.mp hnext
  have hopen := haside.open hcoroutine
  split at hnext
  next hbody =>
    split at hnext
    next =>
      cases hnext
      exact (haside.mono.remove hcoroutine rfl hopen.rested).orderly hidle
    next =>
      cases hnext
      exact orderly_settle haside.mono hcoroutine rfl rfl rfl
        (meets_execute tools settings _ hopen)
  next => cases hnext

theorem orderly_receive (haside : hub.Aside none none) {reply : Reply}
    (hnext : hub.receive task reply = some next) : next.Orderly := by
  obtain ⟨coroutine, hcoroutine, hnext⟩ := Option.bind_eq_some_iff.mp hnext
  have hopen := haside.open hcoroutine
  have hserves := haside.waiting task coroutine nofun hcoroutine
  split at hnext
  next request resume hbody =>
    split at hnext
    next => cases hnext
    next =>
      obtain ⟨answer, -, rfl⟩ := Option.map_eq_some_iff.mp hnext
      rw [hbody] at hserves
      exact orderly_settle haside.mono hcoroutine rfl rfl rfl
        ((resumes_of_goes hserves).2 _ hopen answer)
  next => cases hnext

theorem orderly_interrupt (haside : hub.Aside none none) (hidle : hub.active = none)
    (hnext : hub.interrupt task = some next) : next.Orderly := by
  obtain ⟨coroutine, hcoroutine, hnext⟩ := Option.bind_eq_some_iff.mp hnext
  have hopen := haside.open hcoroutine
  have hserves := haside.waiting task coroutine nofun hcoroutine
  split at hnext
  next => cases hnext
  next =>
    dsimp only at hnext
    split at hnext
    next request resume hbody =>
      rw [hbody] at hserves
      split at hnext
      next =>
        cases hnext
        exact orderly_settle haside.mono hcoroutine rfl (by rfl) (by rfl)
          ((resumes_of_goes hserves).2 _ hopen (.error .cancelled))
      next => cases hnext
    next group hgathering =>
      rw [hgathering] at hserves
      have hgroup : group.Serves coroutine.runId fun _ => none := hserves
      cases hnext
      refine Aside.orderly (haside.mono.wait hcoroutine rfl rfl rfl ?_ hopen) hidle
      show Group.Serves _ _ _
      split
      next => exact hgroup
      next => exact ⟨hgroup.abort.job, hgroup.abort.resume, hgroup.abort.children⟩
    next => cases hnext

theorem orderly_join (haside : hub.Aside none none) (hnext : hub.join task = some next) :
    next.Orderly := by
  obtain ⟨coroutine, hcoroutine, hnext⟩ := Option.bind_eq_some_iff.mp hnext
  have hopen := haside.open hcoroutine
  have hserves := haside.waiting task coroutine nofun hcoroutine
  split at hnext
  next group hgathering =>
    rw [hgathering] at hserves
    have hgroup : group.Serves coroutine.runId fun _ => none := hserves
    split at hnext
    next => cases hnext
    next =>
      cases hnext
      exact orderly_settle haside.mono hcoroutine rfl rfl rfl
        (hgroup.resume _ hopen group.outcome)
  next => cases hnext

/-- The task of an agent belongs to an execution that works for its run. -/
theorem Aside.find (haside : hub.Aside none none) {agent : String}
    (hfound : hub.findChild task agent = some (coroutine, group, child)) :
    hub.coroutines task = some coroutine ∧ (hub.view coroutine.runId).Open ∧
      group.job.run.runId = coroutine.runId ∧
        group.ServesBut coroutine.runId child.spec.name ∧
          child.body.Serves coroutine.runId none := by
  obtain ⟨hcoroutine, hgathering, hmember, -⟩ := findChild_eq_some hfound
  have hserves := haside.waiting task coroutine nofun hcoroutine
  rw [hgathering] at hserves
  have hgroup : group.Serves coroutine.runId fun _ => none := hserves
  exact ⟨hcoroutine, haside.open hcoroutine, hgroup.job, hgroup.idle _,
    hgroup.children child hmember⟩

theorem orderly_startChild (haside : hub.Aside none none) {agent : String}
    (hnext : hub.startChild tools settings task agent = some next) : next.Orderly := by
  obtain ⟨⟨coroutine, group, child⟩, hfound, hnext⟩ := Option.bind_eq_some_iff.mp hnext
  obtain ⟨hcoroutine, hopen, hjob, hgroup, -⟩ := haside.find hfound
  dsimp only at hnext
  split at hnext
  next =>
    split at hnext
    next => cases hnext
    next =>
      cases hnext
      exact orderly_settleChild haside.mono hcoroutine rfl hgroup
        (lively_invokeAgent tools settings hjob child.spec _ hopen)
  next => cases hnext

theorem orderly_acquire (haside : hub.Aside none none) {agent : String}
    (hnext : hub.acquire platform settings task agent = some next) : next.Orderly := by
  obtain ⟨⟨coroutine, group, child⟩, hfound, hnext⟩ := Option.bind_eq_some_iff.mp hnext
  obtain ⟨hcoroutine, hopen, -, hgroup, hchild⟩ := haside.find hfound
  dsimp only at hnext
  split at hnext
  next resume hbody =>
    split at hnext
    next => cases hnext
    next =>
      cases hnext
      rw [hbody] at hchild
      exact orderly_settleChild haside.mono hcoroutine rfl (by exact hgroup)
        ((resumes_of_goes hchild).2 _ hopen (.ok ()))
  next => cases hnext

/-- A client's event keeps the order. -/
theorem orderly_invoke (haside : hub.Aside none none) {agent : String} {event : ClientEvent}
    (hnext : hub.invoke tools settings task agent event = some next) : next.Orderly := by
  obtain ⟨⟨coroutine, group, child⟩, hfound, hnext⟩ := Option.bind_eq_some_iff.mp hnext
  obtain ⟨hcoroutine, hopen, -, hgroup, hchild⟩ := haside.find hfound
  dsimp only at hnext
  split at hnext
  next invocation resume hbody =>
    rw [hbody] at hchild
    obtain ⟨hmapping, hresume⟩ := hchild
    split at hnext
    next => cases hnext
    next hawaits =>
      obtain ⟨turn, hstep, rfl⟩ := Option.map_eq_some_iff.mp hnext
      refine orderly_proceed haside.mono hcoroutine rfl hgroup hopen hresume
        (Invocation.owns_step hmapping hstep) fun habandoned => ?_
      -- A timeout is only delivered where the invocation waits.
      have hawaiting : Invocation.awaiting invocation.point = true := by
        rw [← Bool.not_eq_false]
        exact fun hbusy => hawaits ⟨habandoned.1, hbusy⟩
      rw [canceling_of_awaiting hawaiting] at habandoned
      cases habandoned.2
  next => cases hnext

theorem orderly_poll (haside : hub.Aside none none) {agent : String} {accepted : Bool}
    (hnext : hub.poll tools settings task agent accepted = some next) : next.Orderly := by
  obtain ⟨⟨coroutine, group, child⟩, hfound, hnext⟩ := Option.bind_eq_some_iff.mp hnext
  obtain ⟨hcoroutine, hopen, -, hgroup, hchild⟩ := haside.find hfound
  dsimp only at hnext
  split at hnext
  next invocation surfaceId answered resume hbody =>
    rw [hbody] at hchild
    obtain ⟨hmapping, hpoint, hgoes, hresume⟩ := hchild
    have hsettle (answer : Except Raised HumanInteraction)
        (hsettle : hub.settleAsking tools settings task coroutine group child invocation resume
          (answered answer) = some next) : next.Orderly :=
      orderly_settleAsking haside.mono hcoroutine rfl hgroup hmapping hpoint hresume
        ((resumes_of_goes hgoes).2 _ hopen answer) hsettle
    split at hnext
    next => cases hnext
    next =>
      split at hnext
      next =>
        split at hnext
        next =>
          split at hnext
          next => exact hsettle _ hnext
          next => cases hnext
        next => cases hnext
      next => exact hsettle _ hnext
  next => cases hnext

/-- Cancelling a child keeps the order under the condition on the step. -/
theorem orderly_interruptChild (haside : hub.Aside none none) (hidle : hub.active = none)
    {agent : String} (hkeeps : hub.keepsOrder (.interruptChild task agent) = true)
    (hnext : hub.interruptChild tools settings task agent = some next) : next.Orderly := by
  obtain ⟨⟨coroutine, group, child⟩, hfound, hnext⟩ := Option.bind_eq_some_iff.mp hnext
  obtain ⟨hcoroutine, hopen, -, hgroup, hchild⟩ := haside.find hfound
  simp only [keepsOrder, abandons, hfound, Option.any_some, Bool.not_eq_true'] at hkeeps
  dsimp only at hnext
  split at hnext
  next => cases hnext
  next =>
    split at hnext
    next hbody =>
      cases hnext
      refine Aside.orderly ?_ hidle
      exact haside.mono.waitChild hcoroutine rfl (by exact hgroup) trivial hopen
    next request resume hbody =>
      split at hnext
      next =>
        cases hnext
        rw [hbody] at hchild
        exact orderly_settleChild haside.mono hcoroutine rfl (by exact hgroup)
          ((resumes_of_goes hchild).2 _ hopen (.error .cancelled))
      next => cases hnext
    next invocation resume hbody =>
      obtain ⟨turn, hstep, rfl⟩ := Option.map_eq_some_iff.mp hnext
      rw [hbody] at hchild hkeeps
      obtain ⟨hmapping, hresume⟩ := hchild
      have hpoint : Invocation.canceling invocation.point = false := hkeeps
      refine orderly_proceed haside.mono hcoroutine rfl (by exact hgroup) hopen hresume
        (Invocation.owns_step hmapping hstep) fun habandoned => ?_
      rw [hpoint] at habandoned
      cases habandoned.2
    next invocation request answered resume hbody =>
      split at hnext
      next =>
        rw [hbody] at hchild
        obtain ⟨hmapping, hpoint, hgoes, hresume⟩ := hchild
        exact orderly_settleAsking haside.mono hcoroutine rfl (by exact hgroup) hmapping hpoint
          hresume ((resumes_of_goes hgoes).2 _ hopen (.error .cancelled)) hnext
      next => cases hnext
    next => cases hnext

/-! ## The process -/

theorem orderly_stepDetached (haside : hub.Aside none none) {index : Nat} {event : ClientEvent}
    (hnext : hub.stepDetached index event = some next) : next.Orderly := by
  unfold stepDetached at hnext
  rw [haside.detached] at hnext
  cases hnext

/-- What is seen of a run while executions are asked to stop. -/
theorem view_shutdown (hub : Hub) (runId : RunId) :
    hub.shutdown.view runId = { hub.view runId with cancelable := false } := by
  have hattendance : hub.shutdown.attendance runId = (hub.attendance runId).map fun _ => true := by
    unfold attendance
    rw [Option.map_bind]
    refine Option.bind_congr fun task _ => ?_
    show ((hub.coroutines task).map _).map Coroutine.cancelling = ((hub.coroutines task).map
      Coroutine.cancelling).map _
    rw [Option.map_map, Option.map_map]
    refine Option.map_congr fun coroutine _ => ?_
    dsimp only [Function.comp_apply]
    split
    next hcancelling => exact hcancelling
    next => rfl
  unfold view
  rw [hattendance, Option.isSome_map]
  cases hub.attendance runId <;> rfl

/-- A shutdown keeps the order. -/
theorem orderly_shutdown (haside : hub.Aside none none) (hidle : hub.active = none) :
    hub.shutdown.Orderly := by
  refine Aside.orderly ⟨⟨fun task coroutine hcoroutine => ?_, fun runId task htask => ?_⟩,
    haside.detached, fun other coroutine _ hcoroutine => ?_, fun other _ => ?_,
    fun hdown => (by cases hdown)⟩ hidle
  · obtain ⟨before, hbefore, rfl⟩ := Option.map_eq_some_iff.mp hcoroutine
    have hfiled := haside.filed.filed task before hbefore
    split <;> exact hfiled
  · obtain ⟨hlt, howner⟩ := haside.filed.owned runId task htask
    refine ⟨hlt, fun coroutine hcoroutine => ?_⟩
    obtain ⟨before, hbefore, rfl⟩ := Option.map_eq_some_iff.mp hcoroutine
    have hrun := howner before hbefore
    split <;> exact hrun
  · obtain ⟨before, hbefore, rfl⟩ := Option.map_eq_some_iff.mp hcoroutine
    have hserves := haside.waiting other before nofun hbefore
    split <;> exact hserves
  · rw [view_shutdown]
    have hstable := haside.stable other nofun
    refine ⟨hstable.rested, fun cancelable hactive => ?_⟩
    cases cancelable with
    | true => cases hactive
    | false => exact hstable.active false hactive

/-- A crash keeps the order under the condition on the step. -/
theorem orderly_crash (haside : hub.Aside none none)
    (hkeeps : hub.keepsOrder .crash = true) : hub.crash.Orderly := by
  simp only [keepsOrder, Bool.and_eq_true, List.all_eq_true, Bool.not_eq_true'] at hkeeps
  refine Aside.orderly ⟨⟨fun task coroutine hcoroutine => ?_, fun runId task htask => ?_⟩, rfl,
    fun other coroutine _ hcoroutine => ?_, fun other _ => ?_, fun _ => ⟨fun _ => rfl, hkeeps.2⟩⟩
    rfl
  · cases hcoroutine
  · cases htask
  · cases hcoroutine
  · have hview : hub.crash.view other =
        { hub.view other with attended := false, cancelable := false } := rfl
    rw [hview]
    refine ⟨(haside.stable other nofun).rested, fun cancelable hactive => ?_⟩
    cases cancelable <;> cases hactive

/-- Recovery has nothing to do where every run is over. -/
theorem recoverPart_finished {database : Database} {runs statements : Nat}
    (hfinished : ∀ run ∈ database.runs, run.unfinished = false) :
    database.recoverPart runs statements = .ok database := by
  have hlisted : ∀ run ∈ database.listRuns 10000, run.unfinished = false :=
    fun run hrun => hfinished run (Database.mem_of_listRuns hrun)
  unfold Database.recoverPart
  dsimp only
  rw [Database.foldlM_finished fun run hrun => hlisted run (List.mem_of_mem_take hrun)]
  refine congrArg Except.ok ?_
  dsimp only
  split
  next run hrun =>
    unfold Database.recoverStatements
    rw [if_neg]
    have hover := hlisted run (List.mem_of_getElem? hrun)
    simpa [WorkflowRun.unfinished] using hover
  next => rfl

/-- A restart keeps the order. -/
theorem orderly_recover (haside : hub.Aside none none) (hidle : hub.active = none)
    (hdown : hub.phase = .down) {cut : Option (Nat × Nat)} (hnext : hub.recover cut = some next) :
    next.Orderly := by
  obtain ⟨hnone, hfinished⟩ := haside.down hdown
  cases cut with
  | none =>
      have hrecovered : hub.stores.database.recoverInterruptedRuns = .ok hub.stores.database :=
        Database.foldlM_finished fun run hrun => hfinished run (Database.mem_of_listRuns hrun)
      unfold recover at hnext
      dsimp only at hnext
      rw [hrecovered] at hnext
      cases hnext
      exact Aside.orderly ⟨⟨haside.filed.filed, haside.filed.owned⟩, haside.detached,
        haside.waiting, haside.stable, fun hphase => (by cases hphase)⟩ hidle
  | some part =>
      obtain ⟨runs, statements⟩ := part
      unfold recover at hnext
      dsimp only at hnext
      rw [recoverPart_finished hfinished] at hnext
      cases hnext
      exact haside.orderly hidle

/-- The callback of a task that is done. -/
theorem orderly_pop (haside : hub.Aside none none) (hidle : hub.active = none)
    (htask : hub.tasks runId = some task) (hdone : hub.coroutines task = none) :
    ({ hub with tasks := Function.update hub.tasks runId none } : Hub).Orderly := by
  have hothers (other : RunId) (coroutine : Coroutine) (found : Nat)
      (hfound : hub.coroutines found = some coroutine) (hother : hub.tasks other = some found) :
      other ≠ runId := by
    rintro rfl
    rw [htask, Option.some.injEq] at hother
    rw [← hother, hdone] at hfound
    cases hfound
  have hattendance (other : RunId) : ({ hub with
      tasks := Function.update hub.tasks runId none } : Hub).attendance other =
        hub.attendance other := by
    show (Function.update hub.tasks runId none other).bind
      (fun found => (hub.coroutines found).map Coroutine.cancelling) = hub.attendance other
    unfold attendance
    by_cases hother : other = runId
    · rw [hother, Function.update_self, htask, Option.bind_some, hdone]
      rfl
    · rw [Function.update_of_ne hother]
  refine Aside.orderly ⟨⟨fun found coroutine hcoroutine => ?_, fun other found hother => ?_⟩,
    haside.detached, haside.waiting, fun other _ => ?_, haside.down⟩ hidle
  · have hfiled := haside.filed.filed found coroutine hcoroutine
    show Function.update hub.tasks runId none coroutine.runId = some found
    rw [Function.update_of_ne (hothers _ coroutine found hcoroutine hfiled)]
    exact hfiled
  · change Function.update hub.tasks runId none other = some found at hother
    by_cases hsame : other = runId
    · rw [hsame, Function.update_self] at hother
      cases hother
    · rw [Function.update_of_ne hsame] at hother
      exact haside.filed.owned other found hother
  · unfold view
    rw [hattendance]
    exact haside.stable other nofun

/-- A call of the interface begins. -/
theorem orderly_call (haside : hub.Aside none none) (hserving : hub.phase = .serving)
    {command : Command} (hkeeps : hub.keepsOrder (.call runId command) = true) :
    (hub.settleHandler runId (Hub.command command)).Orderly := by
  have hup : hub.phase ≠ .down := by
    rw [hserving]
    decide
  have hstable := haside.stable runId nofun
  apply orderly_settleHandler haside.mono hup
  cases command with
  | retry => exact meets_retry hstable
  | respond action => exact meets_respond action hstable
  | cancel =>
      refine meets_cancel hstable fun hcancelable hpending => ?_
      have hactive := any_liveTask hub runId true
      simp only [Bool.true_and] at hactive
      have hseen : (hub.view runId).active true = true := hcancelable
      rw [keepsOrder, hactive, hseen] at hkeeps
      have hstatus : (hub.stores.database.getRun runId).map WorkflowRun.status = some .pending :=
        hpending
      rw [hstatus] at hkeeps
      cases hkeeps

/-- A step that keeps order leaves every run in order. -/
theorem orderly_step (horderly : hub.Orderly) {label : HubLabel}
    (hkeeps : hub.keepsOrder label = true)
    (hnext : (orchestration clock tools settings).step hub label = some next) : next.Orderly := by
  unfold orchestration at hnext
  dsimp only at hnext
  split at hnext
  next => cases hnext
  next hwaits =>
    have hidle (hlabel : label.waits = true) : hub.active = none := by
      rw [← Option.not_isSome_iff_eq_none]
      exact fun hactive => hwaits ⟨hlabel, hactive⟩
    have haside (hlabel : label.waits = true) : hub.Aside none none :=
      horderly.aside (hidle hlabel)
    cases label with
    | create id idea now =>
        dsimp only at hnext
        split at hnext
        next hserving =>
          cases hnext
          refine orderly_settleHandler (haside rfl).mono ?_
            (meets_createRun idea now ((haside rfl).stable _ nofun))
          rw [hserving]
          decide
        next => cases hnext
    | call runId command =>
        dsimp only at hnext
        split at hnext
        next hserving =>
          cases hnext
          exact orderly_call (haside rfl) hserving hkeeps
        next => cases hnext
    | step fault => exact orderly_advance horderly hkeeps hnext
    | start task => exact orderly_begin (haside rfl) (hidle rfl) hnext
    | reply task reply => exact orderly_receive (haside rfl) hnext
    | interrupt task => exact orderly_interrupt (haside rfl) (hidle rfl) hnext
    | join task => exact orderly_join (haside rfl) hnext
    | pop runId =>
        dsimp only at hnext
        split at hnext
        next task htask =>
          split at hnext
          next hdone =>
            cases hnext
            exact orderly_pop (haside rfl) (hidle rfl) htask (Option.isNone_iff_eq_none.mp hdone)
          next => cases hnext
        next => cases hnext
    | startChild task agent => exact orderly_startChild (haside rfl) hnext
    | acquire task agent => exact orderly_acquire (haside rfl) hnext
    | client task agent event => exact orderly_invoke (haside rfl) hnext
    | poll task agent accepted => exact orderly_poll (haside rfl) hnext
    | interruptChild task agent =>
        exact orderly_interruptChild (haside rfl) (hidle rfl) hkeeps hnext
    | detached index event => exact orderly_stepDetached (haside rfl) hnext
    | shutdown =>
        dsimp only at hnext
        split at hnext
        next =>
          cases hnext
          exact orderly_shutdown (haside rfl) (hidle rfl)
        next => cases hnext
    | crash =>
        dsimp only at hnext
        split at hnext
        next => cases hnext
        next =>
          cases hnext
          have hactive : hub.active = none := by
            simp only [keepsOrder, Bool.and_eq_true, Option.isNone_iff_eq_none] at hkeeps
            exact hkeeps.1
          exact orderly_crash (horderly.aside hactive) hkeeps
    | recover cut =>
        dsimp only at hnext
        split at hnext
        next hdown => exact orderly_recover (haside rfl) (hidle rfl) hdown hnext
        next => cases hnext

theorem orderly_empty : Hub.empty.Orderly :=
  Aside.orderly ⟨⟨fun _ _ hcoroutine => (by cases hcoroutine), fun _ _ htask => (by cases htask)⟩,
    rfl, fun _ _ _ hcoroutine => (by cases hcoroutine),
    fun _ _ => ⟨fun _ hstatus => (by cases hstatus), fun cancelable hactive => by
      cases cancelable <;> cases hactive⟩,
    fun _ => ⟨fun _ => rfl, fun _ hrun => (by cases hrun)⟩⟩ rfl

end Hub

end Aidlc
