import Aidlc.Orchestration.Interplay
import Aidlc.Orchestration.Order

/-! # Every program keeps to its protocol

One lemma for each kind of step of the hub: a statement, an answer, an interruption, or
what the process does as a whole. In a sound regime none of them makes a program break
its protocol, so what the protocols promise holds in every run.
-/

namespace Aidlc

open Foundation Workflow

namespace Hub

/-- The run that whoever runs makes its next request for. -/
def owner (hub : Hub) : Option RunId :=
  match hub.active with
  | some (.handler runId _) => some runId
  | some (.coroutine task) | some (.child task _) => (hub.coroutines task).map Coroutine.runId
  | none => none

/-- Who runs. -/
def actor (hub : Hub) : Option Actor :=
  match hub.active with
  | some (.handler runId _) => some (.handler runId)
  | some (.coroutine task) => (hub.coroutines task).map fun coroutine =>
    .execution coroutine.runId coroutine.retryAttempt
  | some (.child task agent) => (hub.findChild task agent).map fun (_, group, child) =>
    .agent group.job child.spec
  | none => none

/-! ## Statements -/

section Statements

variable {platform : Platform} {clock : Nat → Nat} {tools : HubTools platform}
  {settings : HubSettings} {regime : Regime} {origin hub next : Hub} {task : Nat}
  {runId : RunId} {coroutine : Coroutine} {group : Group} {child : Child} {actor : Actor}
  {fault : StorageFault} {request : Request} {answer : request.Answer}

/-- Only what is answered at once is served. -/
theorem suspends_of_serve
    (hserve : hub.serve platform clock runId fault request = some (answer, next)) :
    request.suspends = false := by
  cases hinterface : request.ofInterface with
  | true => cases request <;> first | rfl | cases hinterface
  | false => exact (serve_stores hinterface hserve).1

/-- Serving a request leaves every execution what it has left to do. -/
theorem coroutines_of_serve
    (hserve : hub.serve platform clock runId fault request = some (answer, next)) (task : Nat) :
    (next.coroutines task).map Coroutine.work = (hub.coroutines task).map Coroutine.work ∨
      (task = hub.nextTask ∧
        ∃ found, next.coroutines task = some found ∧ found.body = .scheduled) := by
  cases request with
  | activeTask cancelable =>
      cases hserve
      exact Or.inl rfl
  | createTask retryAttempt =>
      cases hserve
      by_cases hnew : task = hub.nextTask
      · subst hnew
        exact Or.inr ⟨rfl, _, Function.update_self .., rfl⟩
      · exact Or.inl (congrArg (Option.map Coroutine.work) (Function.update_of_ne hnew ..))
  | cancelTask =>
      obtain ⟨rfl, rfl⟩ := Prod.mk.inj (Option.some.inj hserve)
      left
      cases hlive : hub.liveTask runId with
      | none => rfl
      | some live =>
          obtain ⟨other, stopped⟩ := live
          obtain ⟨filed, -, hcoroutine⟩ := Option.bind_eq_some_iff.mp hlive
          obtain ⟨current, hcurrent, hpair⟩ := Option.map_eq_some_iff.mp hcoroutine
          cases hpair
          show (Function.update hub.coroutines other _ task).map Coroutine.work = _
          by_cases hother : task = other
          · subst hother
            rw [Function.update_self, hcurrent]
            rfl
          · rw [Function.update_of_ne hother]
  | _ =>
      obtain ⟨after, -, rfl⟩ := stored_of_serve rfl hserve
      exact Or.inl rfl

theorem phase_of_serve
    (hserve : hub.serve platform clock runId fault request = some (answer, next)) :
    next.phase = hub.phase := by
  cases request with
  | activeTask cancelable | createTask retryAttempt =>
      cases hserve
      rfl
  | cancelTask =>
      obtain ⟨rfl, rfl⟩ := Prod.mk.inj (Option.some.inj hserve)
      split <;> rfl
  | _ =>
      obtain ⟨after, -, rfl⟩ := stored_of_serve rfl hserve
      rfl

/-- The clients of the agents leave the runs alone. -/
theorem runs_settleAsking {invocation : Invocation}
    {resume : Except Raised AgentResult → Routine ArtifactId} {routine : Routine Json}
    (hnext : hub.settleAsking tools settings task coroutine group child invocation resume routine =
      some next) : next.stores.database.runs = hub.stores.database.runs := by
  have hconclude (result : Except Raised Json)
      (hturn : ((invocation.step settings.client hub.stores.database (inputEvent result)).map
        fun turn => hub.proceed tools settings task coroutine group child resume turn) =
          some next) : next.stores.database.runs = hub.stores.database.runs := by
    obtain ⟨turn, hstep, rfl⟩ := Option.map_eq_some_iff.mp hturn
    rw [stores_proceed]
    exact (Invocation.proceeds_step hstep).confined.runs
  cases routine with
  | done response => exact hconclude (.ok response) hnext
  | raise raised => exact hconclude (.error raised) hnext
  | call request resume =>
      cases hnext
      rfl

variable (hsound : regime.Sound clock tools settings)

include hsound

/-- A program does its next statement. -/
theorem keeps_of_serve {ε α : Type} {post : Census → Prop}
    {resume : request.Answer → Program Request Request.Answer ε α}
    (hactor : actor.runId = some runId)
    (hlive : (∀ run, actor ≠ .handler run) → ∃ retryAttempt, hub.census.Live runId retryAttempt)
    (hinvariant : regime.invariant hub.census)
    (hpermits : regime.permits hub.census runId request fault)
    (hkeeps : regime.Keeps actor post (.call request resume) hub.census)
    (hserve : hub.serve platform clock runId fault request = some (answer, next)) :
    (regime.protocol actor).guarantees hub.census next.census ∧
      regime.Keeps actor post (resume answer) next.census := by
  obtain ⟨hrequires, hawaits⟩ := hkeeps
  exact hawaits hub.census hsound.idle answer next.census
    (hsound.served hactor hlive hinvariant hrequires hpermits hserve)

omit hsound in
/-- A call of the interface begins. -/
theorem Called.start (hrests : hub.Rests platform settings regime none) (hup : hub.phase ≠ .down) :
    Called platform settings regime runId hub hub :=
  ⟨hrests, hrests.invariant, hup, .refl, fun _ => Or.inl rfl⟩

/-- A statement of the interface. -/
theorem Called.serve (hcalled : Called platform settings regime runId origin hub)
    (hguarantees : (regime.protocol (.handler runId)).guarantees hub.census next.census)
    (hserve : hub.serve platform clock runId fault request = some (answer, next)) :
    Called platform settings regime runId origin next where
  rests := hcalled.rests
  invariant := hsound.kept hguarantees hcalled.invariant
  up := phase_of_serve hserve ▸ hcalled.up
  chain := hcalled.chain.tail hguarantees
  coroutines task := by
    rcases coroutines_of_serve hserve task with hsame | ⟨rfl, hfound⟩
    · rcases hcalled.coroutines task with hbefore | ⟨hnone, found, hfound, hscheduled⟩
      · exact Or.inl (hsame.trans hbefore)
      · rw [hfound] at hsame
        obtain ⟨later, hlater, hwork⟩ := Option.map_eq_some_iff.mp hsame
        exact Or.inr ⟨hnone, later, hlater, (congrArg (fun work => work.2.2) hwork).trans hscheduled⟩
    · have hvacant : hub.coroutines hub.nextTask = none :=
        Option.map_eq_none_iff.mp (hsound.vacant hcalled.invariant)
      rcases hcalled.coroutines hub.nextTask with hbefore | ⟨-, found, hother, -⟩
      · rw [hvacant] at hbefore
        exact Or.inr ⟨Option.map_eq_none_iff.mp hbefore.symm, hfound⟩
      · rw [hvacant] at hother
        cases hother

/-- After a call of the interface everybody waits. -/
theorem Called.finished (hcalled : Called platform settings regime runId origin hub)
    (hcalls : regime.calls runId origin.census hub.census) :
    hub.Rests platform settings regime none := by
  obtain ⟨hundisturbed, hbegins⟩ := hsound.called hcalled.rests.invariant hcalled.invariant
    hcalled.chain hcalls
  refine ⟨hcalled.invariant, fun hdown => absurd hdown hcalled.up, fun task found _ hfound => ?_⟩
  rcases hcalled.coroutines task with hsame | ⟨hnone, scheduled, hscheduled, hbody⟩
  · rw [hfound] at hsame
    obtain ⟨before, hbefore, hwork⟩ := Option.map_eq_some_iff.mp hsame.symm
    obtain ⟨hrun, hretry, hbody⟩ : before.runId = found.runId ∧
        before.retryAttempt = found.retryAttempt ∧ before.body = found.body := by
      simpa [Coroutine.work] using hwork
    rw [← hrun, ← hretry, ← hbody]
    exact (hcalled.rests.coroutines task before nofun hbefore).stay hsound
      (hundisturbed _ _ (live_of_coroutine hbefore))
  · rw [hfound] at hscheduled
    cases hscheduled
    rw [hbody]
    exact hbegins task found.attempt (congrArg (Option.map Coroutine.attempt) hnone)
      (executions_of_coroutine hfound)

/-- A call of the interface goes on, or is over. -/
theorem disciplined_settleHandler (hcalled : Called platform settings regime runId origin hub)
    {routine : Routine Unit}
    (hkeeps : regime.Keeps (.handler runId) (regime.calls runId origin.census) routine hub.census) :
    (hub.settleHandler runId routine).Disciplined platform settings regime := by
  cases routine with
  | done value => exact ((hcalled.finished hsound hkeeps).withActive none).disciplined rfl
  | raise raised => exact ((hcalled.finished hsound hkeeps).withActive none).disciplined rfl
  | call request resume =>
      exact ⟨origin, ⟨hcalled.rests, hcalled.invariant, hcalled.up, hcalled.chain,
        hcalled.coroutines⟩, hkeeps⟩

/-- A statement of an execution or of an agent leaves the executions alone. -/
theorem coroutines_of_inner {ε α : Type} {post : Census → Prop}
    {resume : request.Answer → Program Request Request.Answer ε α}
    (hactor : ∀ runId, actor ≠ .handler runId)
    (hkeeps : regime.Keeps actor post (.call request resume) hub.census)
    (hserve : hub.serve platform clock runId fault request = some (answer, next)) :
    next.coroutines = hub.coroutines ∧ next.phase = hub.phase := by
  obtain ⟨-, after, -, rfl⟩ := serve_stores (hsound.inner hactor hkeeps.1) hserve
  exact ⟨rfl, rfl⟩

/-- Whoever runs does its next statement, and nobody else writes to a run. -/
theorem disciplined_advance (hdisciplined : hub.Disciplined platform settings regime)
    (hpermits : ∀ runId request, hub.owner = some runId → hub.request = some request →
      regime.permits hub.census runId request fault)
    (hnext : hub.advance clock tools settings fault = some next) :
    next.Disciplined platform settings regime ∧
      ∃ actor middle, hub.actor = some actor ∧
        (regime.protocol actor).guarantees hub.census middle ∧
          next.stores.database.runs = middle.stores.database.runs := by
  unfold Disciplined at hdisciplined
  unfold advance at hnext
  unfold Hub.request at hpermits
  unfold Hub.owner at hpermits
  unfold Hub.actor
  cases hactive : hub.active with
  | none =>
      rw [hactive] at hnext
      cases hnext
  | some who =>
      simp only [hactive] at hdisciplined hnext hpermits ⊢
      cases who with
      -- A handler runs to its next request without anyone in between.
      | handler runId routine =>
          obtain ⟨origin, hcalled, hkeeps⟩ := hdisciplined
          cases routine with
          | done value => cases hnext
          | raise raised => cases hnext
          | call request resume =>
              obtain ⟨⟨answer, after⟩, hserve, rfl⟩ := Option.map_eq_some_iff.mp hnext
              obtain ⟨hguarantees, hrest⟩ := keeps_of_serve hsound rfl
                (fun hinner => absurd rfl (hinner runId)) hcalled.invariant
                (hpermits runId request rfl rfl) hkeeps hserve
              exact ⟨disciplined_settleHandler hsound (hcalled.serve hsound hguarantees hserve) hrest,
                _, after.census, rfl, hguarantees, by rw [stores_settleHandler]; rfl⟩
      -- An execution does the next statement of its own body.
      | coroutine task =>
          obtain ⟨coroutine, routine, hcoroutine, hbody, hrests, hkeeps⟩ := hdisciplined
          simp only [hcoroutine, Option.bind_some, Option.map_some, hbody] at hnext hpermits ⊢
          cases routine with
          | done value => cases hnext
          | raise raised => cases hnext
          | call request resume =>
              obtain ⟨⟨answer, after⟩, hserve, rfl⟩ := Option.map_eq_some_iff.mp hnext
              obtain ⟨hguarantees, hrest⟩ := keeps_of_serve hsound rfl
                (fun _ => ⟨_, live_of_coroutine hcoroutine⟩) hrests.invariant
                (hpermits coroutine.runId request rfl rfl) hkeeps hserve
              have hinner (run : RunId) : Actor.execution coroutine.runId coroutine.retryAttempt ≠
                .handler run := Actor.noConfusion
              obtain ⟨hsame, hphase⟩ := coroutines_of_inner hsound hinner hkeeps hserve
              have hmoved := hrests.move hsound hguarantees
                (fun other found hother hfound => hrests.foreign hsound hcoroutine hother hfound)
                (fun other _ => congrFun hsame other)
                (fun hdown => absurd (hphase ▸ hdown) (hrests.up hcoroutine))
              exact ⟨disciplined_settle hsound hmoved (hsame ▸ hcoroutine) rfl hrest,
                _, after.census, rfl, hguarantees, by rw [stores_settle]; rfl⟩
      -- An agent's task does so on behalf of its execution.
      | child task agent =>
          obtain ⟨coroutine, group, child, hcoroutine, hgathering, hchild, hrests, hgroup, hmoves⟩ :=
            hdisciplined
          obtain ⟨hmember, rfl⟩ := mem_of_child hchild
          have hfind : hub.findChild task child.spec.name = some (coroutine, group, child) := by
            unfold findChild
            rw [hcoroutine, Option.bind_some, hgathering]
            exact congrArg (Option.map _) hchild
          have hamong : hub.Among platform settings regime task coroutine group child :=
            ⟨hrests, hcoroutine, hgroup, hgroup.specs child hmember, child, hmember, rfl⟩
          have hactor : (Actor.agent group.job child.spec).runId = some coroutine.runId :=
            congrArg some hgroup.run
          have hinner (run : RunId) : Actor.agent group.job child.spec ≠ .handler run :=
            Actor.noConfusion
          simp only [hfind, hcoroutine, Option.bind_some, Option.map_some] at hnext hpermits ⊢
          cases hwhere : child.body with
          | running routine =>
              simp only [hwhere] at hnext hpermits
              rw [hwhere] at hmoves
              cases routine with
              | done value => cases hnext
              | raise raised => cases hnext
              | call request resume =>
                  obtain ⟨⟨answer, after⟩, hserve, rfl⟩ := Option.map_eq_some_iff.mp hnext
                  obtain ⟨hguarantees, hrest⟩ := keeps_of_serve hsound hactor
                    (fun _ => ⟨_, live_of_coroutine hcoroutine⟩) hrests.invariant
                    (hpermits coroutine.runId request rfl rfl) hmoves hserve
                  obtain ⟨hsame, hphase⟩ := coroutines_of_inner hsound hinner hmoves hserve
                  exact ⟨disciplined_settleChild hsound
                    (hamong.move hsound (Or.inl rfl) hguarantees hsame hphase) hrest,
                    _, after.census, rfl, hguarantees,
                    by rw [stores_settleChild]; rfl⟩
          | asking invocation routine resume =>
              simp only [hwhere] at hnext hpermits
              rw [hwhere] at hmoves
              obtain ⟨hserves, hkeeps⟩ := hmoves
              cases routine with
              | done value => cases hnext
              | raise raised => cases hnext
              | call request answered =>
                  obtain ⟨⟨answer, after⟩, hserve, hsettle⟩ := Option.bind_eq_some_iff.mp hnext
                  obtain ⟨hguarantees, hrest⟩ := keeps_of_serve hsound hactor
                    (fun _ => ⟨_, live_of_coroutine hcoroutine⟩) hrests.invariant
                    (hpermits coroutine.runId request rfl rfl) hkeeps hserve
                  obtain ⟨hsame, hphase⟩ := coroutines_of_inner hsound hinner hkeeps hserve
                  have hstill := hserves.drift hsound fun context =>
                    hsound.own hrests.invariant hguarantees
                  exact ⟨disciplined_settleAsking hsound
                    (hamong.move hsound (Or.inl rfl) hguarantees hsame hphase) hstill hrest hsettle,
                    _, after.census, rfl, hguarantees, runs_settleAsking hsettle⟩
          | scheduled => simp only [hwhere] at hnext; cases hnext
          | invoking invocation resume => simp only [hwhere] at hnext; cases hnext
          | finished result => simp only [hwhere] at hnext; cases hnext

end Statements

/-! ## The process -/

section Steps

variable {platform : Platform} {clock : Nat → Nat} {tools : HubTools platform}
  {settings : HubSettings} {regime : Regime} {hub next : Hub} {task : Nat} {runId : RunId}
  {coroutine : Coroutine} {group : Group} {child : Child} {agent : String} {mover : Option Nat}

/-- An agent of a group that waits. -/
theorem Rests.among (hrests : hub.Rests platform settings regime none)
    (hfound : hub.findChild task agent = some (coroutine, group, child)) :
    hub.Among platform settings regime task coroutine group child ∧
      child.body.Rests platform settings regime group.job child.spec hub.census := by
  obtain ⟨hcoroutine, hgathering, hmember, -⟩ := findChild_eq_some hfound
  have hbody := hrests.coroutines task coroutine nofun hcoroutine
  rw [hgathering] at hbody
  have hgroup : group.Rests platform settings regime coroutine.runId coroutine.retryAttempt
      hub.census none := hbody
  refine ⟨⟨hrests.wait, hcoroutine, ⟨hgroup.run, hgroup.retry, hgroup.distinct, hgroup.specs,
    hgroup.resume, fun other hother _ => hgroup.children other hother nofun⟩,
    hgroup.specs child hmember, child, hmember, rfl⟩, hgroup.children child hmember nofun⟩

/-- An execution whose cancellation is not asked for. -/
theorem executions_of_calm (hcoroutine : hub.coroutines task = some coroutine)
    {pending : Bool} (hpending : coroutine.pending = pending) :
    hub.census.executions task = some ⟨coroutine.runId, coroutine.retryAttempt, pending⟩ :=
  hpending ▸ executions_of_coroutine hcoroutine

theorem census_shutdown :
    hub.shutdown.census = hub.census.stop fun task =>
      (hub.coroutines task).any fun coroutine => !coroutine.cancelling := by
  refine congrArg (fun executions => { hub.census with executions }) (funext fun task => ?_)
  show ((hub.coroutines task).map _).map _ = ((hub.coroutines task).map _).map _
  cases hcoroutine : hub.coroutines task with
  | none => rfl
  | some coroutine =>
      cases hcancelling : coroutine.cancelling <;>
        simp [Coroutine.attempt, hcancelling, hcoroutine]

variable (hsound : regime.Sound clock tools settings)

include hsound

/-- Executions that are asked to stop. -/
theorem Rests.shutdown (hrests : hub.Rests platform settings regime none) :
    hub.shutdown.Rests platform settings regime none := by
  have hguarantees : (regime.protocol .surroundings).guarantees hub.census hub.shutdown.census := by
    rw [census_shutdown]
    exact hsound.stopped _
  refine ⟨hsound.kept hguarantees hrests.invariant, fun hdown => (by cases hdown),
    fun task found _ hfound => ?_⟩
  obtain ⟨before, hbefore, rfl⟩ := Option.map_eq_some_iff.mp hfound
  have hforeign : Actor.surroundings.Foreign before.runId := trivial
  have hkept := (hrests.coroutines task before nofun hbefore).stay hsound
    (hsound.foreign hrests.invariant (live_of_coroutine hbefore) hforeign hguarantees)
  split <;> exact hkept

theorem disciplined_begin (hrests : hub.Rests platform settings regime none)
    (hidle : hub.active = none) (hnext : hub.begin tools settings task = some next) :
    next.Disciplined platform settings regime := by
  obtain ⟨coroutine, hcoroutine, hnext⟩ := Option.bind_eq_some_iff.mp hnext
  have hbody := hrests.coroutines task coroutine nofun hcoroutine
  split at hnext
  next hscheduled =>
    rw [hscheduled] at hbody
    split at hnext
    next =>
      cases hnext
      exact (hrests.wait.remove hsound hcoroutine).disciplined hidle
    next =>
      cases hnext
      exact disciplined_settle hsound hrests.wait hcoroutine rfl
        (hsound.begin hrests.invariant
          (executions_of_calm hcoroutine (Bool.eq_false_iff.mpr ‹_›)) hbody)
  next => cases hnext

theorem disciplined_receive (hrests : hub.Rests platform settings regime none) {reply : Reply}
    (hnext : hub.receive task reply = some next) : next.Disciplined platform settings regime := by
  obtain ⟨coroutine, hcoroutine, hnext⟩ := Option.bind_eq_some_iff.mp hnext
  have hbody := hrests.coroutines task coroutine nofun hcoroutine
  split at hnext
  next request resume hrunning =>
    rw [hrunning] at hbody
    split at hnext
    next => cases hnext
    next hready =>
      obtain ⟨answer, hanswer, rfl⟩ := Option.map_eq_some_iff.mp hnext
      obtain ⟨hsuspends, hawaits⟩ := hbody
      rw [hsuspends, Bool.not_true, Bool.or_false, Bool.not_eq_true] at hready
      exact disciplined_settle hsound hrests.wait hcoroutine rfl
        (hawaits _ hsound.idle answer _
          (hsound.replied (executions_of_calm hcoroutine hready) hsuspends)).2
  next => cases hnext

/-- The cancellation of an execution is thrown. -/
theorem Rests.calm (hrests : hub.Rests platform settings regime none)
    (hcoroutine : hub.coroutines task = some coroutine) (hpending : coroutine.pending = true) :
    (hub.setCoroutine task (some { coroutine with pending := false })).Rests platform settings regime
      (some task) := by
  have hguarantees := (hsound.calmed hrests.invariant (executions_of_calm hcoroutine hpending)).1
  rw [← census_calm hcoroutine] at hguarantees
  exact hrests.wait.move hsound hguarantees
    (fun other found hother hfound => hrests.foreign hsound hcoroutine hother hfound)
    (fun other hother => Function.update_of_ne (fun hsame => hother (congrArg some hsame)) ..)
    (fun hdown => absurd hdown (hrests.up hcoroutine))

theorem disciplined_interrupt (hrests : hub.Rests platform settings regime none)
    (hidle : hub.active = none) (hnext : hub.interrupt task = some next) :
    next.Disciplined platform settings regime := by
  obtain ⟨coroutine, hcoroutine, hnext⟩ := Option.bind_eq_some_iff.mp hnext
  have hbody := hrests.coroutines task coroutine nofun hcoroutine
  split at hnext
  next => cases hnext
  next hstopping =>
    have hpending : coroutine.pending = true := by simpa using hstopping
    have hexecution := executions_of_calm hcoroutine hpending
    have hcalm := hrests.calm hsound hcoroutine hpending
    have hcalmed : (hub.setCoroutine task (some { coroutine with pending := false })).coroutines task =
      some { coroutine with pending := false } := Function.update_self ..
    dsimp only at hnext
    split at hnext
    next request resume hrunning =>
      rw [hrunning] at hbody
      split at hnext
      next =>
        cases hnext
        obtain ⟨hsuspends, hawaits⟩ := hbody
        have hrefused := (hawaits _ hsound.idle _ _ (hsound.refused hexecution hsuspends)).2
        rw [← census_calm hcoroutine] at hrefused
        rw [← settle_setCoroutine { coroutine with pending := false }]
        exact disciplined_settle hsound hcalm hcalmed rfl hrefused
      next => cases hnext
    next group hgathering =>
      cases hnext
      rw [hgathering] at hbody
      have hgroup : group.Rests platform settings regime coroutine.runId coroutine.retryAttempt
          hub.census none := hbody
      obtain ⟨-, hdrifts, hstays⟩ := hsound.calmed hrests.invariant hexecution
      have hcalmGroup : group.Rests platform settings regime coroutine.runId coroutine.retryAttempt
          (hub.setCoroutine task (some { coroutine with pending := false })).census none := by
        rw [census_calm hcoroutine]
        exact hgroup.stay hsound (hdrifts group.job) fun child _ _ =>
          hstays group.job child.spec hgroup.run hgroup.retry
      have hreplaced (current : Coroutine) :
          hub.setCoroutine task (some current) =
            (hub.setCoroutine task (some { coroutine with pending := false })).setCoroutine task
              (some current) := by
        simp [setCoroutine]
      rw [hreplaced]
      refine Rests.disciplined (hcalm.pause hcalmed (by rfl) ?_) hidle
      show (if group.aborting then group else { group.abort with interrupted := true }).Rests
        platform settings regime _ _ _ none
      split
      next => exact hcalmGroup
      next =>
        have haborted := hcalmGroup.abort
        exact ⟨haborted.run, haborted.retry, haborted.distinct, haborted.specs, haborted.resume,
          haborted.children⟩
    next => cases hnext

theorem disciplined_join (hrests : hub.Rests platform settings regime none)
    (hnext : hub.join task = some next) : next.Disciplined platform settings regime := by
  obtain ⟨coroutine, hcoroutine, hnext⟩ := Option.bind_eq_some_iff.mp hnext
  have hbody := hrests.coroutines task coroutine nofun hcoroutine
  split at hnext
  next group hgathering =>
    rw [hgathering] at hbody
    have hgroup : group.Rests platform settings regime coroutine.runId coroutine.retryAttempt
      hub.census none := hbody
    split at hnext
    next => cases hnext
    next hready =>
      cases hnext
      rw [Bool.or_eq_true, not_or, Bool.not_eq_true] at hready
      exact disciplined_settle hsound hrests.wait hcoroutine rfl
        (hgroup.resume _ hsound.idle _ _
          (hsound.replied (executions_of_calm hcoroutine hready.1) rfl)).2
  next => cases hnext

theorem disciplined_startChild (hrests : hub.Rests platform settings regime none)
    (hnext : hub.startChild tools settings task agent = some next) :
    next.Disciplined platform settings regime := by
  obtain ⟨⟨coroutine, group, child⟩, hfound, hnext⟩ := Option.bind_eq_some_iff.mp hnext
  obtain ⟨hamong, hbody⟩ := hrests.among hfound
  dsimp only at hnext
  split at hnext
  next hscheduled =>
    rw [hscheduled] at hbody
    split at hnext
    next => cases hnext
    next =>
      cases hnext
      exact disciplined_settleChild hsound hamong
        (hsound.start hrests.invariant hamong.known hbody)
  next => cases hnext

theorem disciplined_acquire (hrests : hub.Rests platform settings regime none)
    (hnext : hub.acquire platform settings task agent = some next) :
    next.Disciplined platform settings regime := by
  obtain ⟨⟨coroutine, group, child⟩, hfound, hnext⟩ := Option.bind_eq_some_iff.mp hnext
  obtain ⟨hamong, hbody⟩ := hrests.among hfound
  dsimp only at hnext
  split at hnext
  next resume hrunning =>
    rw [hrunning] at hbody
    split at hnext
    next => cases hnext
    next =>
      cases hnext
      exact disciplined_settleChild hsound (hamong.replace (by rfl))
        (hbody.2 _ hsound.idle _ _
          (hsound.responded rfl fun _ _ _ _ => Request.noConfusion)).2
  next => cases hnext

theorem disciplined_invoke (hrests : hub.Rests platform settings regime none) {event : ClientEvent}
    (hnext : hub.invoke tools settings task agent event = some next) :
    next.Disciplined platform settings regime := by
  obtain ⟨⟨coroutine, group, child⟩, hfound, hnext⟩ := Option.bind_eq_some_iff.mp hnext
  obtain ⟨hamong, hbody⟩ := hrests.among hfound
  dsimp only at hnext
  split at hnext
  next invocation resume hinvoking =>
    rw [hinvoking] at hbody
    split at hnext
    next => cases hnext
    next =>
      obtain ⟨turn, hstep, rfl⟩ := Option.map_eq_some_iff.mp hnext
      exact disciplined_proceed hsound hamong hbody.1 hbody.2 hstep
  next => cases hnext

theorem disciplined_poll (hrests : hub.Rests platform settings regime none) {accepted : Bool}
    (hnext : hub.poll tools settings task agent accepted = some next) :
    next.Disciplined platform settings regime := by
  obtain ⟨⟨coroutine, group, child⟩, hfound, hnext⟩ := Option.bind_eq_some_iff.mp hnext
  obtain ⟨hamong, hbody⟩ := hrests.among hfound
  dsimp only at hnext
  split at hnext
  next invocation surfaceId answered resume hasking =>
    rw [hasking] at hbody
    obtain ⟨hserves, hsuspends, hawaits⟩ := hbody
    have hsettle (answer : Except Raised HumanInteraction)
        (hsettle : hub.settleAsking tools settings task coroutine group child invocation resume
          (answered answer) = some next) : next.Disciplined platform settings regime :=
      disciplined_settleAsking hsound hamong hserves
        (hawaits _ hsound.idle answer _
          (hsound.responded hsuspends fun _ _ _ _ => Request.noConfusion)).2 hsettle
    split at hnext
    next => cases hnext
    next =>
      split at hnext
      next =>
        split at hnext
        next =>
          split at hnext
          next => exact hsettle _ hnext
          next => cases hnext
        next => cases hnext
      next => exact hsettle _ hnext
  next => cases hnext

theorem disciplined_interruptChild (hrests : hub.Rests platform settings regime none)
    (hidle : hub.active = none)
    (hnext : hub.interruptChild tools settings task agent = some next) :
    next.Disciplined platform settings regime := by
  obtain ⟨⟨coroutine, group, child⟩, hfound, hnext⟩ := Option.bind_eq_some_iff.mp hnext
  obtain ⟨hamong, hbody⟩ := hrests.among hfound
  dsimp only at hnext
  split at hnext
  next => cases hnext
  next =>
    have hstopped : hub.Among platform settings regime task coroutine group
        { child with pending := false, cancelled := true } := hamong.replace rfl
    split at hnext
    next =>
      cases hnext
      refine Rests.disciplined (hamong.rests.pause hamong.found (by rfl) ?_) hidle
      apply Group.Rests.update
      · exact hamong.members
      · exact hamong.known
      · trivial
    next request resume hrunning =>
      split at hnext
      next hsuspends =>
        cases hnext
        rw [hrunning] at hbody
        exact disciplined_settleChild hsound hstopped
          (hbody.2 _ hsound.idle _ _
            (hsound.responded hsuspends fun _ hvalue => by cases hvalue)).2
      next => cases hnext
    next invocation resume hinvoking =>
      obtain ⟨turn, hstep, rfl⟩ := Option.map_eq_some_iff.mp hnext
      rw [hinvoking] at hbody
      exact disciplined_proceed hsound hstopped hbody.1 hbody.2 hstep
    next invocation request answered resume hasking =>
      split at hnext
      next hsuspends =>
        rw [hasking] at hbody
        obtain ⟨hserves, -, hawaits⟩ := hbody
        exact disciplined_settleAsking hsound hstopped hserves
          (hawaits _ hsound.idle _ _
            (hsound.responded hsuspends fun _ hvalue => by cases hvalue)).2 hnext
      next => cases hnext
    next => cases hnext

theorem disciplined_stepDetached (hrests : hub.Rests platform settings regime none)
    (hidle : hub.active = none) {index : Nat} {event : ClientEvent}
    (hnext : hub.stepDetached index event = some next) :
    next.Disciplined platform settings regime := by
  obtain ⟨⟨delegation, phase⟩, -, hnext⟩ := Option.bind_eq_some_iff.mp hnext
  obtain ⟨turn, hstep, rfl⟩ := Option.map_eq_some_iff.mp hnext
  have hguarantees : (regime.protocol .surroundings).guarantees hub.census
      (hub.census.withDatabase turn.database) :=
    hsound.client (Invocation.confined_cancelStep hstep).1
  have hforeign (task : Nat) (coroutine : Coroutine) (_ : some task ≠ none)
      (_ : hub.coroutines task = some coroutine) :
      Actor.surroundings.Foreign coroutine.runId := trivial
  exact Rests.disciplined
    (Rests.move hsound hrests hguarantees hforeign (fun _ _ => rfl) hrests.down) hidle

theorem disciplined_crash (hinvariant : regime.invariant hub.census) :
    hub.crash.Disciplined platform settings regime :=
  Rests.disciplined ⟨hsound.crashed hinvariant, fun _ _ => rfl,
    fun _ _ _ hcoroutine => by cases hcoroutine⟩ rfl

/-- The callback of a task that is done. -/
theorem disciplined_pop (hrests : hub.Rests platform settings regime none)
    (hidle : hub.active = none) (htask : hub.tasks runId = some task)
    (hdone : hub.coroutines task = none) :
    ({ hub with tasks := Function.update hub.tasks runId none } : Hub).Disciplined platform settings
      regime := by
  have hnone : hub.census.executions task = none := congrArg (Option.map Coroutine.attempt) hdone
  have hguarantees : (regime.protocol .surroundings).guarantees hub.census
      (hub.census.pop runId) := hsound.popped htask hnone
  have hforeign (task : Nat) (coroutine : Coroutine) (_ : some task ≠ none)
      (_ : hub.coroutines task = some coroutine) :
      Actor.surroundings.Foreign coroutine.runId := trivial
  exact Rests.disciplined
    (Rests.move hsound hrests hguarantees hforeign (fun _ _ => rfl) hrests.down) hidle

theorem disciplined_recover (hrests : hub.Rests platform settings regime none)
    (hidle : hub.active = none) (hdown : hub.phase = .down) {cut : Option (Nat × Nat)}
    (hnext : hub.recover cut = some next) : next.Disciplined platform settings regime := by
  have hnone (task : Nat) : hub.census.executions task = none :=
    congrArg (Option.map Coroutine.attempt) (hrests.down hdown task)
  have hinvariant := hsound.recovered hrests.invariant hnone hnext
  have hsame : next.active = hub.active ∧ next.coroutines = hub.coroutines := by
    unfold recover at hnext
    split at hnext <;>
    · split at hnext
      next =>
        cases hnext
        exact ⟨rfl, rfl⟩
      next => cases hnext
  refine Rests.disciplined ⟨hinvariant, fun _ task => ?_, fun task coroutine _ hcoroutine => ?_⟩
    (hsame.1.trans hidle)
  · rw [hsame.2]
    exact hrests.down hdown task
  · rw [hsame.2, hrests.down hdown task] at hcoroutine
    cases hcoroutine

omit hsound in
theorem Disciplined.invariant (hdisciplined : hub.Disciplined platform settings regime) :
    regime.invariant hub.census := by
  unfold Disciplined at hdisciplined
  split at hdisciplined
  next => exact hdisciplined.invariant
  next =>
    obtain ⟨_, hcalled, _⟩ := hdisciplined
    exact hcalled.invariant
  next =>
    obtain ⟨_, _, _, _, hrests, _⟩ := hdisciplined
    exact hrests.invariant
  next =>
    obtain ⟨_, _, _, _, _, _, hrests, _⟩ := hdisciplined
    exact hrests.invariant

end Steps

end Hub

namespace Regime

/-- The regime allows the step: a statement only fails in a way it permits. -/
def Allows (regime : Regime) (hub : Hub) : HubLabel → Prop
  | .step fault => ∀ runId request, hub.owner = some runId → hub.request = some request →
    regime.permits hub.census runId request fault
  | _ => True

section Runs

variable {platform : Platform} {clock : Nat → Nat} {tools : HubTools platform}
  {settings : HubSettings} {regime : Regime} (hsound : regime.Sound clock tools settings)
  {hub next : Hub} {label : HubLabel}

include hsound

/-- Whatever runs next, every program keeps to its protocol. -/
theorem disciplined_step (hdisciplined : hub.Disciplined platform settings regime)
    (hallows : regime.Allows hub label)
    (hnext : (orchestration clock tools settings).step hub label = some next) :
    next.Disciplined platform settings regime := by
  unfold orchestration at hnext
  dsimp only at hnext
  split at hnext
  next => cases hnext
  next hwaits =>
    have hidle (hlabel : label.waits = true) : hub.active = none := by
      rw [← Option.not_isSome_iff_eq_none]
      exact fun hactive => hwaits ⟨hlabel, hactive⟩
    have hrests (hlabel : label.waits = true) : hub.Rests platform settings regime none :=
      hdisciplined.rests (hidle hlabel)
    cases label with
    | create id idea now =>
        dsimp only at hnext
        split at hnext
        next hserving =>
          cases hnext
          refine Hub.disciplined_settleHandler hsound (Hub.Called.start (hrests rfl) ?_)
            (hsound.create id idea now (hrests rfl).invariant)
          rw [hserving]
          exact ProcessPhase.noConfusion
        next => cases hnext
    | call runId command =>
        dsimp only at hnext
        split at hnext
        next hserving =>
          cases hnext
          refine Hub.disciplined_settleHandler hsound (Hub.Called.start (hrests rfl) ?_)
            (hsound.command runId command (hrests rfl).invariant)
          rw [hserving]
          exact ProcessPhase.noConfusion
        next => cases hnext
    | step fault => exact (Hub.disciplined_advance hsound hdisciplined hallows hnext).1
    | start task => exact Hub.disciplined_begin hsound (hrests rfl) (hidle rfl) hnext
    | reply task reply => exact Hub.disciplined_receive hsound (hrests rfl) hnext
    | interrupt task => exact Hub.disciplined_interrupt hsound (hrests rfl) (hidle rfl) hnext
    | join task => exact Hub.disciplined_join hsound (hrests rfl) hnext
    | pop runId =>
        dsimp only at hnext
        split at hnext
        next task htask =>
          split at hnext
          next hdone =>
            cases hnext
            exact Hub.disciplined_pop hsound (hrests rfl) (hidle rfl) htask
              (Option.isNone_iff_eq_none.mp hdone)
          next => cases hnext
        next => cases hnext
    | startChild task agent => exact Hub.disciplined_startChild hsound (hrests rfl) hnext
    | acquire task agent => exact Hub.disciplined_acquire hsound (hrests rfl) hnext
    | client task agent event => exact Hub.disciplined_invoke hsound (hrests rfl) hnext
    | poll task agent accepted => exact Hub.disciplined_poll hsound (hrests rfl) hnext
    | interruptChild task agent =>
        exact Hub.disciplined_interruptChild hsound (hrests rfl) (hidle rfl) hnext
    | detached index event => exact Hub.disciplined_stepDetached hsound (hrests rfl) (hidle rfl) hnext
    | shutdown =>
        dsimp only at hnext
        split at hnext
        next =>
          cases hnext
          exact Hub.Rests.disciplined ((hrests rfl).shutdown hsound) (hidle rfl)
        next => cases hnext
    | crash =>
        dsimp only at hnext
        split at hnext
        next => cases hnext
        next =>
          cases hnext
          exact Hub.disciplined_crash hsound hdisciplined.invariant
    | recover cut =>
        dsimp only at hnext
        split at hnext
        next hdown => exact Hub.disciplined_recover hsound (hrests rfl) (hidle rfl) hdown hnext
        next => cases hnext

theorem disciplined_empty : Hub.empty.Disciplined platform settings regime :=
  Hub.Rests.disciplined ⟨hsound.initial, fun _ _ => rfl, fun _ _ _ hcoroutine => by cases hcoroutine⟩
    rfl

/-- In every run whose statements fail at most as permitted, every program keeps to its
protocol. -/
theorem disciplined_of_run {labels : List HubLabel}
    {condition : Hub → HubLabel → Bool}
    (hcondition : ∀ hub label, hub.Disciplined platform settings regime →
      condition hub label = true → regime.Allows hub label)
    (halong : (orchestration clock tools settings).along condition .empty labels = true)
    (hrun : (orchestration clock tools settings).run .empty labels = some hub) :
    hub.Disciplined platform settings regime :=
  (orchestration clock tools settings).run_invariant_along
    (Hub.Disciplined platform settings regime) condition
    (fun _ _ _ hallowed hdisciplined hnext =>
      disciplined_step hsound hdisciplined (hcondition _ _ hdisciplined hallowed) hnext)
    halong (disciplined_empty hsound) hrun

end Runs

end Regime

end Aidlc
