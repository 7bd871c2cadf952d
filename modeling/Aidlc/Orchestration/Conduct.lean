import Aidlc.A2a.Ownership
import Aidlc.Orchestration.Visibility
import Aidlc.Storage.Restart

/-! # The hub keeps its runs in order

Between two awaits a program may leave its run between a terminal status and the
event that tells it; nobody else runs then. Whenever the hub waits, a run that is
over has told so and nobody works for it. Four kinds of steps break this order,
and only they do.
-/

namespace Aidlc

open Foundation Workflow

variable {runId : RunId}

/-! ## What waits -/

/-- A program that goes on with an open run. -/
def Resumes {α β : Type} (runId : RunId) (post : RunView → Prop)
    (resume : Except Raised β → Routine α) : Prop :=
  ∀ view : RunView, view.Open → ∀ result,
    (resume result).Meets (lifecycle runId false) (fun _ => post) view

/-- A program that runs now, or waits until its run is open. -/
def Goes {α : Type} (runId : RunId) (post : RunView → Prop) (now : Option RunView)
    (routine : Routine α) : Prop :=
  match now, routine with
  | some view, routine => routine.Meets (lifecycle runId false) (fun _ => post) view
  | none, .call request resume => request.suspends = true ∧ Resumes runId post resume
  | none, _ => False

/-- The task of an agent works for the run. -/
def ChildBody.Serves (runId : RunId) (now : Option RunView) : ChildBody → Prop
  | .scheduled | .finished _ => True
  | .running routine => Goes runId RunView.Open now routine
  | .invoking invocation resume =>
    invocation.mapping.runId = runId ∧ Resumes runId RunView.Open resume
  | .asking invocation routine resume =>
    invocation.mapping.runId = runId ∧ Invocation.canceling invocation.point = false ∧
      Goes runId RunView.Open now routine ∧ Resumes runId RunView.Open resume

/-- A group whose tasks work for the run; the running one is named. -/
structure Group.Serves (runId : RunId) (now : String → Option RunView) (group : Group) : Prop where
  job : group.job.run.runId = runId
  resume : Resumes runId RunView.Rested group.resume
  children : ∀ child ∈ group.children, child.body.Serves runId (now child.spec.name)

/-- An execution that waits works for the run. -/
def Body.Serves (runId : RunId) : Body → Prop
  | .scheduled => True
  | .running routine => Goes runId RunView.Rested none routine
  | .gathering group => group.Serves runId fun _ => none

/-- What a request that suspends leaves to be done. -/
theorem resumes_of_meets {α : Type} {post : RunView → Prop} {request : Request}
    {resume : request.Answer → Routine α} {view : RunView} (hsuspends : request.suspends = true)
    (hmeets : (Program.call request resume : Routine α).Meets (lifecycle runId false)
      (fun _ => post) view) :
    view.Open ∧ request.Concerns runId view ∧ Resumes runId post resume := by
  obtain ⟨⟨hwaits, -, hconcerns⟩, hawaits⟩ := hmeets
  refine ⟨(hwaits hsuspends).2, hconcerns, fun drifted hopen answer => ?_⟩
  have hdrift : (lifecycle runId false).drifts request view drifted := by
    show if request.suspends = true then drifted.Open else drifted = view
    rw [if_pos hsuspends]
    exact hopen
  refine (hawaits drifted hdrift answer drifted ?_).2
  cases request <;> first | rfl | cases hsuspends

theorem meets_answer {α : Type} {interface : Bool} {post : Except Raised α → RunView → Prop}
    {request : Request} {resume : request.Answer → Routine α} {view next : RunView}
    {answer : request.Answer} (hsuspends : request.suspends = false)
    (hmeets : (Program.call request resume : Routine α).Meets (lifecycle runId interface) post view)
    (heffect : request.Effect runId view next answer) :
    (resume answer).Meets (lifecycle runId interface) post next := by
  refine (hmeets.2 view ?_ answer next heffect).2
  show if request.suspends = true then view.Open else view = view
  rw [hsuspends, if_neg Bool.false_ne_true]

theorem Goes.of_meets {α : Type} {post : RunView → Prop} {request : Request}
    {resume : request.Answer → Routine α} {view : RunView}
    (hmeets : (Program.call request resume : Routine α).Meets (lifecycle runId false)
      (fun _ => post) view) :
    Goes runId post (if request.suspends = true then none else some view)
      (.call request resume) := by
  cases hsuspends : request.suspends with
  | true =>
      rw [if_pos rfl]
      exact ⟨hsuspends, (resumes_of_meets hsuspends hmeets).2.2⟩
  | false =>
      rw [if_neg Bool.false_ne_true]
      exact hmeets

/-! ## The hub -/

namespace Hub

/-- Whether the active workflow of a run was asked to stop. -/
def attendance (hub : Hub) (runId : RunId) : Option Bool :=
  (hub.tasks runId).bind fun task => (hub.coroutines task).map Coroutine.cancelling

/-- What is seen of a run. -/
def view (hub : Hub) (runId : RunId) : RunView :=
  hub.stores.database.view runId (hub.attendance runId).isSome
    ((hub.attendance runId).any fun cancelling => !cancelling)

/-- `_tasks` holds the executions that are not done, each under its run. -/
structure Filed (hub : Hub) : Prop where
  filed : ∀ task coroutine, hub.coroutines task = some coroutine →
    hub.tasks coroutine.runId = some task
  owned : ∀ runId task, hub.tasks runId = some task → task < hub.nextTask ∧
    ∀ coroutine, hub.coroutines task = some coroutine → coroutine.runId = runId

/-- Everything but the given run and the given execution is in order. -/
structure Aside (hub : Hub) (runId : Option RunId) (task : Option Nat) : Prop where
  filed : hub.Filed
  detached : hub.detached = []
  waiting : ∀ other coroutine, some other ≠ task → hub.coroutines other = some coroutine →
    coroutine.body.Serves coroutine.runId
  stable : ∀ other, some other ≠ runId → (hub.view other).Stable
  down : hub.phase = .down → (∀ task, hub.coroutines task = none) ∧
    ∀ run ∈ hub.stores.database.runs, run.unfinished = false

/-- Every run is in order, or is brought to order by who runs. -/
def Orderly (hub : Hub) : Prop :=
  match hub.active with
  | none => hub.Aside none none
  | some (.handler runId routine) =>
    hub.phase ≠ .down ∧ hub.Aside (some runId) none ∧
      routine.Meets (lifecycle runId true) (fun _ => RunView.Stable) (hub.view runId)
  | some (.coroutine task) => ∃ coroutine routine, hub.coroutines task = some coroutine ∧
      coroutine.body = .running routine ∧ hub.Aside (some coroutine.runId) (some task) ∧
        Goes coroutine.runId RunView.Rested (some (hub.view coroutine.runId)) routine
  | some (.child task agent) => ∃ coroutine group, hub.coroutines task = some coroutine ∧
      coroutine.body = .gathering group ∧ hub.Aside (some coroutine.runId) (some task) ∧
        group.Serves coroutine.runId fun name =>
          if name = agent then some (hub.view coroutine.runId) else none

variable {hub : Hub} {task : Nat} {coroutine current : Coroutine}

/-- Replacing a coroutine by one of the same run keeps the tasks filed. -/
theorem Filed.setCoroutine (hfiled : hub.Filed) (hcoroutine : hub.coroutines task = some coroutine)
    (hrun : current.runId = coroutine.runId) : (hub.setCoroutine task (some current)).Filed where
  filed other found hfound := by
    change Function.update hub.coroutines task (some current) other = some found at hfound
    by_cases hother : other = task
    · rw [hother, Function.update_self, Option.some.injEq] at hfound
      rw [← hfound, hother, hrun]
      exact hfiled.filed task coroutine hcoroutine
    · rw [Function.update_of_ne hother] at hfound
      exact hfiled.filed other found hfound
  owned runId other hother := by
    obtain ⟨hlt, howner⟩ := hfiled.owned runId other hother
    refine ⟨hlt, fun found hfound => ?_⟩
    change Function.update hub.coroutines task (some current) other = some found at hfound
    by_cases hsame : other = task
    · rw [hsame, Function.update_self, Option.some.injEq] at hfound
      rw [← hfound, hrun]
      exact howner coroutine (hsame ▸ hcoroutine)
    · rw [Function.update_of_ne hsame] at hfound
      exact howner found hfound

theorem Filed.remove (hfiled : hub.Filed) (task : Nat) : (hub.setCoroutine task none).Filed where
  filed other found hfound := by
    change Function.update hub.coroutines task none other = some found at hfound
    by_cases hother : other = task
    · rw [hother, Function.update_self] at hfound
      cases hfound
    · rw [Function.update_of_ne hother] at hfound
      exact hfiled.filed other found hfound
  owned runId other hother := by
    obtain ⟨hlt, howner⟩ := hfiled.owned runId other hother
    refine ⟨hlt, fun found hfound => ?_⟩
    change Function.update hub.coroutines task none other = some found at hfound
    by_cases hsame : other = task
    · rw [hsame, Function.update_self] at hfound
      cases hfound
    · rw [Function.update_of_ne hsame] at hfound
      exact howner found hfound

/-- Attendance depends on whether the execution is cancelling. -/
theorem attendance_setCoroutine
    (hcoroutine : hub.coroutines task = some coroutine)
    (hcancelling : current.cancelling = coroutine.cancelling) (runId : RunId) :
    (hub.setCoroutine task (some current)).attendance runId = hub.attendance runId := by
  refine Option.bind_congr fun found _ => ?_
  by_cases hfound : found = task
  · rw [hfound, hcoroutine, Option.map_some, ← hcancelling]
    exact congrArg _ (Function.update_self ..)
  · exact congrArg _ (Function.update_of_ne hfound ..)

/-- What is seen of a run while its execution goes on. -/
theorem view_setCoroutine
    (hcoroutine : hub.coroutines task = some coroutine)
    (hcancelling : current.cancelling = coroutine.cancelling) (runId : RunId) :
    (hub.setCoroutine task (some current)).view runId = hub.view runId := by
  unfold view
  rw [attendance_setCoroutine hcoroutine hcancelling]
  rfl

/-- An execution that is done is not seen any more. -/
theorem Filed.view_remove (hfiled : hub.Filed) (hcoroutine : hub.coroutines task = some coroutine)
    (runId : RunId) :
    (hub.setCoroutine task none).view runId =
      if runId = coroutine.runId then
        { hub.view runId with attended := false, cancelable := false }
      else hub.view runId := by
  unfold view
  have hattendance : (hub.setCoroutine task none).attendance runId =
      if runId = coroutine.runId then none else hub.attendance runId := by
    split
    next hrun =>
      have htask := hfiled.filed task coroutine hcoroutine
      rw [← hrun] at htask
      show (hub.tasks runId).bind _ = none
      rw [htask, Option.bind_some]
      exact congrArg _ (Function.update_self ..)
    next hrun =>
      refine Option.bind_congr fun found hfound => ?_
      refine congrArg _ (Function.update_of_ne ?_ ..)
      rintro rfl
      exact hrun ((hfiled.owned runId found hfound).2 coroutine hcoroutine).symm
  rw [hattendance]
  split <;> rfl

variable {owner : Option RunId} {mover : Option Nat}

theorem Aside.withActive (haside : hub.Aside owner mover) (active : Option Active) :
    ({ hub with active } : Hub).Aside owner mover :=
  ⟨⟨haside.filed.filed, haside.filed.owned⟩, haside.detached, haside.waiting, haside.stable,
    haside.down⟩

theorem Aside.up (haside : hub.Aside owner mover)
    (hcoroutine : hub.coroutines task = some coroutine) : hub.phase ≠ .down := by
  intro hdown
  rw [(haside.down hdown).1 task] at hcoroutine
  cases hcoroutine

/-- The execution that moves goes on. -/
theorem Aside.setCoroutine (haside : hub.Aside owner (some task))
    (hcoroutine : hub.coroutines task = some coroutine) (hrun : current.runId = coroutine.runId)
    (hcancelling : current.cancelling = coroutine.cancelling) :
    (hub.setCoroutine task (some current)).Aside owner (some task) where
  filed := haside.filed.setCoroutine hcoroutine hrun
  detached := haside.detached
  waiting other found hother hfound := by
    have hne : other ≠ task := fun hsame => hother (congrArg some hsame)
    refine haside.waiting other found hother ?_
    rw [← hfound]
    exact (Function.update_of_ne hne ..).symm
  stable other hother := by
    rw [view_setCoroutine hcoroutine hcancelling]
    exact haside.stable other hother
  down hdown := absurd hdown (haside.up hcoroutine)

/-- The execution that moved waits again. -/
theorem Aside.rest (haside : hub.Aside (some runId) (some task))
    (hcoroutine : hub.coroutines task = some coroutine) (hrun : coroutine.runId = runId)
    (hserves : coroutine.body.Serves runId) (hstable : (hub.view runId).Stable) :
    hub.Aside none none where
  filed := haside.filed
  detached := haside.detached
  waiting other found _ hfound := by
    by_cases hother : other = task
    · subst hother
      rw [hcoroutine, Option.some.injEq] at hfound
      subst hfound
      exact hrun ▸ hserves
    · exact haside.waiting other found (fun hsame => hother (Option.some.inj hsame)) hfound
  stable other _ := by
    by_cases hother : other = runId
    · exact hother ▸ hstable
    · exact haside.stable other fun hsame => hother (Option.some.inj hsame)
  down hdown := absurd hdown (haside.up hcoroutine)

/-- An execution that asks for anything but agents is left with its request. -/
theorem settle_call {request : Request} {resume : request.Answer → Routine Unit}
    (hrequest : ∀ job, request ≠ .runAgents job) :
    hub.settle task current (.call request resume) =
      { hub.setCoroutine task (some { current with body := .running (.call request resume) }) with
        active := if request.suspends then none else some (.coroutine task) } := by
  cases request <;> first | rfl | exact absurd rfl (hrequest _)

/-- The execution that moved is done. -/
theorem Aside.remove (haside : hub.Aside (some runId) (some task))
    (hcoroutine : hub.coroutines task = some coroutine) (howner : coroutine.runId = runId)
    (hrested : (hub.view runId).Rested) : (hub.setCoroutine task none).Aside none none where
  filed := haside.filed.remove task
  detached := haside.detached
  waiting other found _ hfound := by
    change Function.update hub.coroutines task none other = some found at hfound
    by_cases hother : other = task
    · rw [hother, Function.update_self] at hfound
      cases hfound
    · rw [Function.update_of_ne hother] at hfound
      exact haside.waiting other found (fun hsame => hother (Option.some.inj hsame)) hfound
  stable other _ := by
    rw [haside.filed.view_remove hcoroutine, howner]
    split
    next hother =>
      refine ⟨hother ▸ hrested, fun cancelable hactive => ?_⟩
      cases cancelable <;> cases hactive
    next hother => exact haside.stable other fun hsame => hother (Option.some.inj hsame)
  down hdown := absurd hdown (haside.up hcoroutine)

/-- The execution that moved waits for an open run. -/
theorem Aside.wait (haside : hub.Aside (some runId) (some task))
    (hcoroutine : hub.coroutines task = some coroutine) (howner : coroutine.runId = runId)
    (hrun : current.runId = coroutine.runId) (hcancelling : current.cancelling = coroutine.cancelling)
    (hserves : current.body.Serves runId) (hopen : (hub.view runId).Open) :
    (hub.setCoroutine task (some current)).Aside none none := by
  have hmoved := haside.setCoroutine hcoroutine hrun hcancelling
  refine hmoved.rest (Function.update_self ..) (hrun.trans howner) hserves ?_
  rw [view_setCoroutine hcoroutine hcancelling]
  exact hopen.stable

/-- An execution that pauses leaves the hub orderly. -/
theorem Aside.pause (haside : hub.Aside (some runId) (some task))
    (hcoroutine : hub.coroutines task = some coroutine) (howner : coroutine.runId = runId)
    (hrun : current.runId = coroutine.runId) (hcancelling : current.cancelling = coroutine.cancelling)
    (hserves : current.body.Serves runId) (hopen : (hub.view runId).Open) :
    ({ hub.setCoroutine task (some current) with active := none } : Hub).Orderly :=
  (haside.wait hcoroutine howner hrun hcancelling hserves hopen).withActive none

/-- The execution that moved has its next statement to do. -/
theorem Aside.run (haside : hub.Aside (some runId) (some task))
    (hcoroutine : hub.coroutines task = some coroutine) (howner : coroutine.runId = runId)
    (hrun : current.runId = coroutine.runId) (hcancelling : current.cancelling = coroutine.cancelling)
    {routine : Routine Unit} (hbody : current.body = .running routine)
    (hgoes : Goes runId RunView.Rested (some (hub.view runId)) routine) :
    ({ hub.setCoroutine task (some current) with active := some (.coroutine task) } :
      Hub).Orderly := by
  have hcurrent : current.runId = runId := hrun.trans howner
  refine ⟨current, routine, Function.update_self .., hbody, ?_, ?_⟩
  · rw [hcurrent]
    exact (haside.setCoroutine hcoroutine hrun hcancelling).withActive _
  · rw [hcurrent]
    show Goes runId _ (some ((hub.setCoroutine task (some current)).view runId)) routine
    rw [view_setCoroutine hcoroutine hcancelling]
    exact hgoes

/-- An execution that did its statement and goes on to its next await. -/
theorem orderly_settle (haside : hub.Aside (some runId) (some task))
    (hcoroutine : hub.coroutines task = some coroutine) (howner : coroutine.runId = runId)
    (hrun : current.runId = coroutine.runId) (hcancelling : current.cancelling = coroutine.cancelling)
    {routine : Routine Unit}
    (hmeets : routine.Meets (lifecycle runId false) (fun _ => RunView.Rested) (hub.view runId)) :
    (hub.settle task current routine).Orderly := by
  cases routine with
  | done value => exact (haside.remove hcoroutine howner hmeets).withActive none
  | raise raised => exact (haside.remove hcoroutine howner hmeets).withActive none
  | call request resume =>
      by_cases hjob : ∃ job, request = .runAgents job
      · obtain ⟨job, rfl⟩ := hjob
        obtain ⟨hopen, hconcerns, hresumes⟩ := resumes_of_meets rfl hmeets
        refine haside.pause hcoroutine howner hrun hcancelling ⟨hconcerns, hresumes, ?_⟩ hopen
        intro child hchild
        obtain ⟨spec, -, rfl⟩ := List.mem_map.mp hchild
        trivial
      · rw [settle_call fun job hrequest => hjob ⟨job, hrequest⟩]
        have hgoes := Goes.of_meets hmeets
        cases hsuspends : request.suspends with
        | true =>
            rw [hsuspends, if_pos rfl] at hgoes
            rw [if_pos rfl]
            exact haside.pause hcoroutine howner hrun hcancelling hgoes
              (resumes_of_meets hsuspends hmeets).1
        | false =>
            rw [hsuspends, if_neg Bool.false_ne_true] at hgoes
            rw [if_neg Bool.false_ne_true]
            exact haside.run hcoroutine howner hrun hcancelling rfl hgoes

end Hub

/-! ## Agents -/

/-- Every task of the group but that of one agent waits. -/
structure Group.ServesBut (runId : RunId) (agent : String) (group : Group) : Prop where
  job : group.job.run.runId = runId
  resume : Resumes runId RunView.Rested group.resume
  children : ∀ child ∈ group.children, child.spec.name ≠ agent → child.body.Serves runId none

section Groups

variable {group : Group} {child : Child} {agent : String} {now : Option RunView}

theorem Group.Serves.but (hserves : group.Serves runId fun name => if name = agent then now else none) :
    group.ServesBut runId agent where
  job := hserves.job
  resume := hserves.resume
  children other hother hname := by
    have hbody := hserves.children other hother
    rw [if_neg hname] at hbody
    exact hbody

theorem Group.Serves.idle (hserves : group.Serves runId fun _ => none) (agent : String) :
    group.ServesBut runId agent where
  job := hserves.job
  resume := hserves.resume
  children other hother _ := hserves.children other hother

/-- Asking tasks to stop changes nothing they have left to do. -/
theorem Group.Serves.abort {now : String → Option RunView} (hserves : group.Serves runId now) :
    group.abort.Serves runId now where
  job := hserves.job
  resume := hserves.resume
  children child hchild := by
    obtain ⟨other, hother, rfl⟩ := List.mem_map.mp hchild
    have hbody := hserves.children other hother
    unfold Child.cancel
    split <;> exact hbody

theorem Group.ServesBut.setChild (hserves : group.ServesBut runId child.spec.name)
    (hbody : child.body.Serves runId now) :
    (group.setChild child).Serves runId
      fun name => if name = child.spec.name then now else none where
  job := hserves.job
  resume := hserves.resume
  children other hother := by
    obtain ⟨before, hbefore, rfl⟩ := List.mem_map.mp hother
    split
    next hname =>
      rw [if_pos rfl]
      exact hbody
    next hname =>
      have hbefore := hserves.children before hbefore hname
      simpa only [if_neg hname] using hbefore

theorem Group.ServesBut.update (hserves : group.ServesBut runId child.spec.name)
    (hbody : child.body.Serves runId now) :
    (group.update child).Serves runId
      fun name => if name = child.spec.name then now else none := by
  unfold Group.update
  split
  next => exact (hserves.setChild hbody).abort
  next => exact hserves.setChild hbody

end Groups

namespace Hub

variable {hub : Hub} {task : Nat} {coroutine : Coroutine} {group : Group} {child : Child}

/-- The task of an agent waits, or is done. -/
theorem Aside.waitChild (haside : hub.Aside (some runId) (some task))
    (hcoroutine : hub.coroutines task = some coroutine) (howner : coroutine.runId = runId)
    (hgroup : group.ServesBut runId child.spec.name) (hbody : child.body.Serves runId none)
    (hopen : (hub.view runId).Open) :
    (hub.putChild task coroutine group child).Aside none none := by
  refine haside.wait hcoroutine howner rfl rfl ?_ hopen
  have hserves := hgroup.update hbody
  simp only [ite_self] at hserves
  exact hserves

/-- A child that pauses leaves the hub orderly. -/
theorem Aside.pauseChild (haside : hub.Aside (some runId) (some task))
    (hcoroutine : hub.coroutines task = some coroutine) (howner : coroutine.runId = runId)
    (hgroup : group.ServesBut runId child.spec.name) (hbody : child.body.Serves runId none)
    (hopen : (hub.view runId).Open) :
    ({ hub.putChild task coroutine group child with active := none } : Hub).Orderly :=
  (haside.waitChild hcoroutine howner hgroup hbody hopen).withActive none

/-- The task of an agent has its next statement to do. -/
theorem Aside.runChild (haside : hub.Aside (some runId) (some task))
    (hcoroutine : hub.coroutines task = some coroutine) (howner : coroutine.runId = runId)
    (hgroup : group.ServesBut runId child.spec.name)
    (hbody : child.body.Serves runId (some (hub.view runId))) :
    ({ hub.putChild task coroutine group child with
      active := some (.child task child.spec.name) } : Hub).Orderly := by
  subst howner
  refine ⟨_, group.update child, Function.update_self .., rfl, ?_, ?_⟩
  · have hmoved : (hub.putChild task coroutine group child).Aside (some coroutine.runId)
        (some task) := haside.setCoroutine hcoroutine (by rfl) (by rfl)
    exact hmoved.withActive _
  · have hview : (hub.putChild task coroutine group child).view coroutine.runId =
        hub.view coroutine.runId := view_setCoroutine hcoroutine (by rfl) coroutine.runId
    have hserves := hgroup.update hbody
    rw [← hview] at hserves
    exact hserves

theorem Aside.withDelegated {owner : Option RunId} {mover : Option Nat}
    (haside : hub.Aside owner mover) (delegated : List Delegated) :
    ({ hub with delegated } : Hub).Aside owner mover :=
  ⟨⟨haside.filed.filed, haside.filed.owned⟩, haside.detached, haside.waiting, haside.stable,
    haside.down⟩

variable {platform : Platform} {settings : HubSettings} {tools : HubTools platform}

theorem settleChild_call {request : Request} {resume : request.Answer → Routine ArtifactId}
    (hrequest : ∀ spec context, request ≠ .invoke spec context) :
    hub.settleChild platform settings task coroutine group child (.call request resume) =
      { hub.putChild task coroutine group { child with body := .running (.call request resume) } with
        active := if request.suspends then none else some (.child task child.spec.name) } := by
  cases request <;> first | rfl | exact absurd rfl (hrequest _ _)

/-- The task of an agent that did its statement and goes on to its next await. -/
theorem orderly_settleChild (haside : hub.Aside (some runId) (some task))
    (hcoroutine : hub.coroutines task = some coroutine) (howner : coroutine.runId = runId)
    (hgroup : group.ServesBut runId child.spec.name) {routine : Routine ArtifactId}
    (hmeets : routine.Meets (lifecycle runId false) (fun _ => RunView.Open) (hub.view runId)) :
    (hub.settleChild platform settings task coroutine group child routine).Orderly := by
  cases routine with
  | done value => exact haside.pauseChild hcoroutine howner hgroup trivial hmeets
  | raise raised => exact haside.pauseChild hcoroutine howner hgroup trivial hmeets
  | call request resume =>
      by_cases hinvoke : ∃ spec context, request = .invoke spec context
      · obtain ⟨spec, context, rfl⟩ := hinvoke
        obtain ⟨hopen, hconcerns, hresumes⟩ := resumes_of_meets rfl hmeets
        exact (haside.withDelegated _).pauseChild hcoroutine howner hgroup ⟨hconcerns, hresumes⟩
          hopen
      · rw [settleChild_call fun spec context hrequest => hinvoke ⟨spec, context, hrequest⟩]
        have hgoes := Goes.of_meets hmeets
        cases hsuspends : request.suspends with
        | true =>
            rw [hsuspends, if_pos rfl] at hgoes
            rw [if_pos rfl]
            exact haside.pauseChild hcoroutine howner hgroup hgoes
              (resumes_of_meets hsuspends hmeets).1
        | false =>
            rw [hsuspends, if_neg Bool.false_ne_true] at hgoes
            rw [if_neg Bool.false_ne_true]
            exact haside.runChild hcoroutine howner hgroup hgoes

/-! ## Statements -/

variable {clock : Nat → Nat} {stores : Stores} {fault : StorageFault} {next : Hub}
  {owner : Option RunId} {mover : Option Nat}

/-- Other runs do not see a statement on behalf of one. -/
theorem view_write (hwrites : hub.stores.database.Writes runId stores.database) {other : RunId}
    (hother : other ≠ runId) :
    (hub.withShared (hub.toShared.withStores stores)).view other = hub.view other := by
  show stores.database.view other _ _ = hub.stores.database.view other _ _
  unfold Database.view
  rw [hwrites.others other hother, hwrites.eventsAfter hother]
  rfl

/-- A write of the own run leaves the others aside. -/
theorem Aside.write (haside : hub.Aside (some runId) mover) (hup : hub.phase ≠ .down)
    (hwrites : hub.stores.database.Writes runId stores.database) :
    (hub.withShared (hub.toShared.withStores stores)).Aside (some runId) mover where
  filed := ⟨haside.filed.filed, haside.filed.owned⟩
  detached := haside.detached
  waiting := haside.waiting
  stable other hother := by
    rw [view_write hwrites fun hsame => hother (congrArg some hsame)]
    exact haside.stable other hother
  down hdown := absurd hdown hup

/-- What the hub leaves to storage ends with a statement. -/
theorem stored_of_serve {request : Request} {answer : request.Answer}
    (hstored : hub.serve platform clock runId fault request =
      (hub.stores.answer platform clock runId request fault).map fun given =>
        (given.1, hub.withShared (hub.toShared.withStores given.2)))
    (hserve : hub.serve platform clock runId fault request = some (answer, next)) :
    ∃ after, hub.stores.answer platform clock runId request fault = some (answer, after) ∧
      next = hub.withShared (hub.toShared.withStores after) := by
  rw [hstored] at hserve
  obtain ⟨⟨given, after⟩, hanswer, hresult⟩ := Option.map_eq_some_iff.mp hserve
  cases hresult
  exact ⟨after, hanswer, rfl⟩

/-- A request that is not of the interface is a statement of storage. -/
theorem serve_stores {request : Request} {answer : request.Answer}
    (hinterface : request.ofInterface = false)
    (hserve : hub.serve platform clock runId fault request = some (answer, next)) :
    request.suspends = false ∧ ∃ after,
      hub.stores.answer platform clock runId request fault = some (answer, after) ∧
        next = hub.withShared (hub.toShared.withStores after) := by
  have hstored : hub.serve platform clock runId fault request =
      (hub.stores.answer platform clock runId request fault).map fun given =>
        (given.1, hub.withShared (hub.toShared.withStores given.2)) := by
    cases request <;> first | rfl | cases hinterface
  obtain ⟨after, hanswer, hnext⟩ := stored_of_serve hstored hserve
  refine ⟨?_, after, hanswer, hnext⟩
  cases request <;> first | rfl | cases hanswer

/-- A statement of a program that is not of the interface. -/
theorem Aside.serve (haside : hub.Aside (some runId) mover) (hup : hub.phase ≠ .down)
    {request : Request} {answer : request.Answer} (hfault : request.final = true → fault = .none)
    (hinterface : request.ofInterface = false)
    (hserve : hub.serve platform clock runId fault request = some (answer, next)) :
    next.Aside (some runId) mover ∧ next.phase ≠ .down ∧ next.coroutines = hub.coroutines ∧
      request.Effect runId (hub.view runId) (next.view runId) answer := by
  obtain ⟨-, after, hanswer, rfl⟩ := serve_stores hinterface hserve
  have hanswers := answer_answers hfault hanswer
  exact ⟨haside.write hup hanswers.writes, hup, rfl, hanswers.effect _ _⟩

/-- What `_tasks` tells is what is seen of the run. -/
theorem any_liveTask (hub : Hub) (runId : RunId) (cancelable : Bool) :
    ((hub.liveTask runId).any fun live => !(cancelable && live.2.cancelling)) =
      (hub.view runId).active cancelable := by
  have hactive : (hub.view runId).active cancelable =
      (hub.attendance runId).any fun cancelling => !(cancelable && cancelling) := by
    cases cancelable with
    | true => rfl
    | false =>
        show (hub.attendance runId).isSome = _
        cases hub.attendance runId <;> rfl
  rw [hactive]
  unfold liveTask attendance
  cases hub.tasks runId with
  | none => rfl
  | some task =>
      rw [Option.bind_some, Option.bind_some]
      cases hub.coroutines task <;> rfl

/-- A run that is not attended has no execution. -/
theorem Filed.idle (hfiled : hub.Filed) (hidle : (hub.view runId).attended = false) {found : Nat}
    (hcoroutine : hub.coroutines found = some coroutine) : coroutine.runId ≠ runId := by
  rintro rfl
  have hattended : (hub.attendance coroutine.runId).isSome = false := hidle
  rw [attendance, hfiled.filed found coroutine hcoroutine, Option.bind_some, hcoroutine] at hattended
  cases hattended

/-- The hub once a run was given a new execution. -/
def withTask (hub : Hub) (runId : RunId) (attempt : Nat) : Hub :=
  { hub with
    tasks := Function.update hub.tasks runId (some hub.nextTask)
    coroutines := Function.update hub.coroutines hub.nextTask
      (some ⟨runId, attempt, false, false, .scheduled⟩)
    nextTask := hub.nextTask + 1 }

/-- A new execution is filed where none attends the run. -/
theorem Filed.withTask (hfiled : hub.Filed) (hidle : (hub.view runId).attended = false)
    (attempt : Nat) : (hub.withTask runId attempt).Filed where
  filed found coroutine hfound := by
    change Function.update hub.coroutines hub.nextTask _ found = some coroutine at hfound
    show Function.update hub.tasks runId _ coroutine.runId = some found
    by_cases hnew : found = hub.nextTask
    · rw [hnew, Function.update_self, Option.some.injEq] at hfound
      rw [← hfound, hnew]
      exact Function.update_self ..
    · rw [Function.update_of_ne hnew] at hfound
      rw [Function.update_of_ne (hfiled.idle hidle hfound)]
      exact hfiled.filed found coroutine hfound
  owned other found hother := by
    change Function.update hub.tasks runId _ other = some found at hother
    by_cases hrun : other = runId
    · rw [hrun, Function.update_self, Option.some.injEq] at hother
      subst hother
      refine ⟨Nat.lt_succ_self _, fun coroutine hcoroutine => ?_⟩
      change Function.update hub.coroutines hub.nextTask _ hub.nextTask = _ at hcoroutine
      rw [Function.update_self, Option.some.injEq] at hcoroutine
      rw [← hcoroutine, hrun]
    · rw [Function.update_of_ne hrun] at hother
      obtain ⟨hlt, howner⟩ := hfiled.owned other found hother
      refine ⟨Nat.lt_succ_of_lt hlt, fun coroutine hcoroutine => howner coroutine ?_⟩
      rw [← hcoroutine]
      exact (Function.update_of_ne hlt.ne ..).symm

/-- A new execution attends its own run alone. -/
theorem view_withTask (hfiled : hub.Filed) (attempt : Nat) (other : RunId) :
    (hub.withTask runId attempt).view other =
      if other = runId then { hub.view other with attended := true, cancelable := true }
      else hub.view other := by
  have hattendance : (hub.withTask runId attempt).attendance other =
      if other = runId then some false else hub.attendance other := by
    show (Function.update hub.tasks runId (some hub.nextTask) other).bind _ = _
    split
    next hrun =>
      rw [hrun, Function.update_self, Option.bind_some]
      exact congrArg _ (Function.update_self ..)
    next hrun =>
      rw [Function.update_of_ne hrun]
      refine Option.bind_congr fun found hfound => congrArg _ (Function.update_of_ne ?_ ..)
      exact (hfiled.owned other found hfound).1.ne
  unfold view
  rw [hattendance]
  split <;> rfl

/-- Starting an execution leaves the hub orderly. -/
theorem Aside.withTask (haside : hub.Aside (some runId) none) (hup : hub.phase ≠ .down)
    (hidle : (hub.view runId).attended = false) (attempt : Nat) :
    (hub.withTask runId attempt).Aside (some runId) none where
  filed := haside.filed.withTask hidle attempt
  detached := haside.detached
  waiting other found _ hfound := by
    change Function.update hub.coroutines hub.nextTask _ other = some found at hfound
    by_cases hnew : other = hub.nextTask
    · rw [hnew, Function.update_self, Option.some.injEq] at hfound
      rw [← hfound]
      trivial
    · rw [Function.update_of_ne hnew] at hfound
      exact haside.waiting other found nofun hfound
  stable other hother := by
    rw [view_withTask haside.filed, if_neg fun hsame => hother (congrArg some hsame)]
    exact haside.stable other hother
  down hdown := absurd hdown hup

/-- The hub once the execution of a run was asked to stop. -/
def stopping (hub : Hub) (task : Nat) (coroutine : Coroutine) : Hub :=
  hub.setCoroutine task (some { coroutine with cancelling := true, pending := true })

/-- A stop is seen by its own run alone. -/
theorem view_stopping (hfiled : hub.Filed) (hcoroutine : hub.coroutines task = some coroutine)
    (other : RunId) :
    (hub.stopping task coroutine).view other =
      if other = coroutine.runId then { hub.view other with cancelable := false }
      else hub.view other := by
  have htask := hfiled.filed task coroutine hcoroutine
  by_cases hrun : other = coroutine.runId
  · have hbefore : hub.attendance other = some coroutine.cancelling := by
      rw [attendance, hrun, htask, Option.bind_some, hcoroutine, Option.map_some]
    have hafter : (hub.stopping task coroutine).attendance other = some true := by
      show (hub.tasks other).bind _ = _
      rw [hrun, htask, Option.bind_some]
      exact congrArg _ (Function.update_self ..)
    rw [if_pos hrun]
    unfold view
    rw [hbefore, hafter]
    rfl
  · have hsame : (hub.stopping task coroutine).attendance other = hub.attendance other := by
      refine Option.bind_congr fun found hfound => congrArg _ (Function.update_of_ne ?_ ..)
      rintro rfl
      exact hrun ((hfiled.owned other found hfound).2 coroutine hcoroutine).symm
    rw [if_neg hrun]
    unfold view
    rw [hsame]
    rfl

/-- Stopping an execution leaves the hub orderly. -/
theorem Aside.stopping (haside : hub.Aside (some coroutine.runId) none)
    (hcoroutine : hub.coroutines task = some coroutine) :
    (hub.stopping task coroutine).Aside (some coroutine.runId) none where
  filed := haside.filed.setCoroutine hcoroutine (by rfl)
  detached := haside.detached
  waiting other found _ hfound := by
    change Function.update hub.coroutines task _ other = some found at hfound
    by_cases hother : other = task
    · rw [hother, Function.update_self, Option.some.injEq] at hfound
      rw [← hfound]
      exact haside.waiting task coroutine nofun hcoroutine
    · rw [Function.update_of_ne hother] at hfound
      exact haside.waiting other found nofun hfound
  stable other hother := by
    rw [view_stopping haside.filed hcoroutine, if_neg fun hsame => hother (congrArg some hsame)]
    exact haside.stable other hother
  down hdown := absurd hdown (haside.up hcoroutine)

/-- A statement of the interface. -/
theorem Aside.serveInterface (haside : hub.Aside (some runId) none) (hup : hub.phase ≠ .down)
    {request : Request} {answer : request.Answer} (hfault : request.final = true → fault = .none)
    (hconcerns : request.Concerns runId (hub.view runId))
    (hserve : hub.serve platform clock runId fault request = some (answer, next)) :
    next.Aside (some runId) none ∧ next.phase ≠ .down ∧
      request.Effect runId (hub.view runId) (next.view runId) answer := by
  cases request with
  | activeTask cancelable =>
      cases hserve
      exact ⟨haside, hup, rfl, congrArg Except.ok (any_liveTask hub runId cancelable)⟩
  | createTask attempt =>
      cases hserve
      refine ⟨haside.withTask hup hconcerns.2 attempt, hup, rfl, ?_⟩
      exact (view_withTask haside.filed attempt runId).trans (if_pos rfl)
  | cancelTask =>
      obtain ⟨rfl, rfl⟩ := Prod.mk.inj (Option.some.inj hserve)
      cases hlive : hub.liveTask runId with
      | none =>
          refine ⟨haside, hup, rfl, ?_⟩
          have hcancelable : (hub.view runId).cancelable = false := by
            have hactive := any_liveTask hub runId true
            rw [hlive] at hactive
            exact hactive.symm
          show hub.view runId = { hub.view runId with cancelable := false }
          rw [← hcancelable]
      | some live =>
          obtain ⟨task, coroutine⟩ := live
          obtain ⟨found, htask, hcoroutine⟩ := Option.bind_eq_some_iff.mp hlive
          obtain ⟨current, hcurrent, hpair⟩ := Option.map_eq_some_iff.mp hcoroutine
          cases hpair
          obtain rfl := (haside.filed.owned runId task htask).2 coroutine hcurrent
          refine ⟨haside.stopping hcurrent, haside.up hcurrent, rfl, ?_⟩
          exact (view_stopping haside.filed hcurrent coroutine.runId).trans (if_pos rfl)
  | _ =>
      obtain ⟨after, hanswer, rfl⟩ := stored_of_serve rfl hserve
      have hanswers := answer_answers hfault hanswer
      exact ⟨haside.write hup hanswers.writes, hup, hanswers.effect _ _⟩

end Hub

end Aidlc
