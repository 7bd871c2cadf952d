import Aidlc.Sandbox.Recovery

/-! # Orphan recovery never removes a live job

A container of an execution exists only after the execution took its lease, and
carries the name of that lease. A recovery that holds the lease of a job has
therefore found an execution that is over, and an execution never takes its
lease again.
-/

namespace Aidlc

open Foundation

/-- Whether a creation may be under way or behind, so that the lease is not taken again. -/
def SandboxStage.hasLaunched : SandboxStage → Bool
  | .launched _ | .cleaning _ | .ended => true
  | .recovering _ | .leased _ => false

/-- No container has this identifier any more. -/
def Gone (containers : List Container) (id : ContainerId) : Prop :=
  ∀ container ∈ containers, container.id = id → container.present = false

/-- What a report may say about an identifier of the inventory. -/
def Resolved (containers : List Container) (report : RecoveryReport) (id : ContainerId) : Prop :=
  id ∈ report.removed ∨ id ∈ report.active ∨ id ∈ report.ignored ∨ Gone containers id

/-- The inventory of a recovery is worked off one identifier at a time. -/
structure Recovery.Sound (owner : String) (containers : List Container) (recovery : Recovery) :
    Prop where
  known : ∀ id ∈ recovery.identifiers, ∃ container ∈ containers, container.id = id
  resolved : recovery.report.status = .completed → ∀ id ∈ recovery.identifiers,
    id ∈ recovery.todo ∨ id ∈ recovery.report.failed ∨ Resolved containers recovery.report id
  removed : ∀ id ∈ recovery.report.removed,
    (∃ container ∈ containers, container.id = id) ∧ Gone containers id
  pending : ∀ id ∈ recovery.todo, id ∈ recovery.identifiers
  finished : recovery.point = .finished → recovery.report.status = .completed →
    recovery.todo = [] ∧ recovery.report.failed = []
  targeted : ∀ name, recovery.point.held = some name →
    ∃ id rest container, recovery.todo = id :: rest ∧ container ∈ containers ∧
      container.name = name ∧ ownJob owner id container = true

section Containers

variable {containers next : List Container}

/-- Containers are only marked as removed or added under new identifiers. -/
structure Evolves (containers next : List Container) : Prop where
  kept : ∀ container ∈ containers, ∃ later ∈ next, later.id = container.id ∧
    later.name = container.name ∧ later.labels = container.labels ∧
    later.creator = container.creator
  old : ∀ later ∈ next, (∃ container ∈ containers, container.id = later.id) →
    ∃ container ∈ containers, container.id = later.id ∧ container.name = later.name ∧
      container.labels = later.labels ∧ container.creator = later.creator ∧
      (later.present = true → container.present = true)

theorem Evolves.refl (containers : List Container) : Evolves containers containers :=
  ⟨fun container hmem => ⟨container, hmem, rfl, rfl, rfl, rfl⟩,
    fun later hmem _ => ⟨later, hmem, rfl, rfl, rfl, rfl, id⟩⟩

theorem removed_same (test : Container → Bool) {later : Container}
    (hmem : later ∈ containers.map fun container =>
      if test container then { container with present := false } else container) :
    ∃ container ∈ containers, later.name = container.name ∧ later.labels = container.labels ∧
      later.creator = container.creator := by
  obtain ⟨container, hcontainer, rfl⟩ := List.mem_map.mp hmem
  refine ⟨container, hcontainer, ?_⟩
  split <;> exact ⟨rfl, rfl, rfl⟩

theorem Evolves.removed (test : Container → Bool) :
    Evolves containers (containers.map fun container =>
      if test container then { container with present := false } else container) := by
  refine ⟨fun container hmem => ?_, fun later hmem _ => ?_⟩
  · refine ⟨_, List.mem_map_of_mem hmem, ?_⟩
    split <;> exact ⟨rfl, rfl, rfl, rfl⟩
  · obtain ⟨container, hcontainer, rfl⟩ := List.mem_map.mp hmem
    refine ⟨container, hcontainer, ?_⟩
    split
    · exact ⟨rfl, rfl, rfl, rfl, nofun⟩
    · exact ⟨rfl, rfl, rfl, rfl, id⟩

theorem Evolves.added {added : Container}
    (hnew : ∀ container ∈ containers, container.id ≠ added.id) :
    Evolves containers (containers ++ [added]) := by
  refine ⟨fun container hmem => ⟨container, List.mem_append_left _ hmem, rfl, rfl, rfl, rfl⟩,
    fun later hmem hold => ?_⟩
  rcases List.mem_append.mp hmem with hmem | hmem
  · exact ⟨later, hmem, rfl, rfl, rfl, rfl, id⟩
  · rw [List.mem_singleton] at hmem
    subst hmem
    obtain ⟨container, hcontainer, hid⟩ := hold
    exact absurd hid (hnew container hcontainer)

/-- An identifier that is gone stays gone. -/
theorem Gone.mono {id : ContainerId} (hgone : Gone containers id) (hevolves : Evolves containers next)
    (hknown : ∃ container ∈ containers, container.id = id) : Gone next id := by
  intro later hmem hid
  obtain ⟨container, hcontainer, hsame, -, -, -, hpresent⟩ :=
    hevolves.old later hmem (hid ▸ hknown)
  have habsent := hgone container hcontainer (hsame.trans hid)
  by_contra hthere
  rw [hpresent (Bool.not_eq_false _ ▸ hthere)] at habsent
  cases habsent

theorem Evolves.known (hevolves : Evolves containers next) {id : ContainerId}
    (hknown : ∃ container ∈ containers, container.id = id) :
    ∃ container ∈ next, container.id = id := by
  obtain ⟨container, hcontainer, hid⟩ := hknown
  obtain ⟨later, hlater, hsame, -⟩ := hevolves.kept container hcontainer
  exact ⟨later, hlater, hsame.trans hid⟩

theorem Recovery.Sound.mono {owner : String} {recovery : Recovery}
    (hsound : recovery.Sound owner containers) (hevolves : Evolves containers next) :
    recovery.Sound owner next where
  known id hmem := hevolves.known (hsound.known id hmem)
  resolved hcompleted id hmem := by
    rcases hsound.resolved hcompleted id hmem with htodo | hfailed | hremoved | hactive | hignored |
      hgone
    · exact Or.inl htodo
    · exact Or.inr (Or.inl hfailed)
    · exact Or.inr (Or.inr (Or.inl hremoved))
    · exact Or.inr (Or.inr (Or.inr (Or.inl hactive)))
    · exact Or.inr (Or.inr (Or.inr (Or.inr (Or.inl hignored))))
    · exact Or.inr (Or.inr (Or.inr (Or.inr (Or.inr
        (hgone.mono hevolves (hsound.known id hmem))))))
  removed id hmem := by
    obtain ⟨hknown, hgone⟩ := hsound.removed id hmem
    exact ⟨hevolves.known hknown, hgone.mono hevolves hknown⟩
  pending := hsound.pending
  finished := hsound.finished
  targeted name hheld := by
    obtain ⟨id, rest, container, htodo, hcontainer, hname, hown⟩ := hsound.targeted name hheld
    obtain ⟨later, hlater, hid, hsame, hlabels, -⟩ := hevolves.kept container hcontainer
    refine ⟨id, rest, later, htodo, hlater, hsame.trans hname, ?_⟩
    rw [← hown]
    simp only [ownJob, hid, hsame, hlabels]

end Containers

section Recoveries

variable {owner : String} {containers : List Container} {recovery : Recovery}

/-- A recovery that starts holds nothing and knows of nothing. -/
theorem Recovery.sound_start (owner : String) (containers : List Container) :
    (Recovery.start owner).Sound owner containers where
  known _ hmem := nomatch hmem
  resolved _ _ hmem := nomatch hmem
  removed _ hmem := nomatch hmem
  pending _ hmem := nomatch hmem
  finished hfinished := nomatch hfinished
  targeted _ hheld := nomatch hheld

/-- Between two jobs a recovery holds no lease. -/
theorem loop_held (recovery : Recovery) (todo : List ContainerId) (report : RecoveryReport) :
    (recovery.loop todo report).point.held = none := by
  cases todo <;> rfl

/-- The loop is sound where every identifier is resolved or still to come. -/
theorem Recovery.sound_loop {todo : List ContainerId} {report : RecoveryReport}
    (hknown : ∀ id ∈ recovery.identifiers, ∃ container ∈ containers, container.id = id)
    (hpending : ∀ id ∈ todo, id ∈ recovery.identifiers)
    (hremoved : ∀ id ∈ report.removed,
      (∃ container ∈ containers, container.id = id) ∧ Gone containers id)
    (hresolved : report.status = .completed → ∀ id ∈ recovery.identifiers,
      id ∈ todo ∨ id ∈ report.failed ∨ Resolved containers report id) :
    (recovery.loop todo report).Sound owner containers := by
  cases todo with
  | nil =>
      by_cases hfailed : report.failed = []
      · simp only [loop, hfailed, if_true]
        exact ⟨hknown, hresolved, hremoved, fun _ hmem => (nomatch hmem),
          fun _ _ => ⟨rfl, hfailed⟩, fun _ hheld => (nomatch hheld)⟩
      · simp only [loop, if_neg hfailed]
        exact ⟨hknown, fun hcompleted => (nomatch hcompleted), hremoved,
          fun _ hmem => (nomatch hmem), fun _ hcompleted => (nomatch hcompleted),
          fun _ hheld => (nomatch hheld)⟩
  | cons next rest =>
      exact ⟨hknown, hresolved, hremoved, hpending, fun hfinished => (nomatch hfinished),
        fun _ hheld => (nomatch hheld)⟩

/-- The head is resolved or failed, and the loop goes on. -/
theorem Recovery.Sound.advance (hsound : recovery.Sound owner containers) {id : ContainerId}
    {rest : List ContainerId} (htodo : recovery.todo = id :: rest) {report : RecoveryReport}
    (hstatus : report.status = recovery.report.status)
    (hkeeps : ∀ other, other ∈ recovery.report.failed ∨ Resolved containers recovery.report other →
      other ∈ report.failed ∨ Resolved containers report other)
    (hhead : id ∈ report.failed ∨ Resolved containers report id)
    (hremoved : ∀ other ∈ report.removed,
      other ∈ recovery.report.removed ∨ other = id ∧ Gone containers id) :
    (recovery.advance report).Sound owner containers := by
  have hmem : id ∈ recovery.identifiers := hsound.pending id (htodo ▸ List.mem_cons_self)
  unfold Recovery.advance
  rw [htodo, List.tail_cons]
  refine sound_loop hsound.known (fun other hother => ?_) (fun other hother => ?_)
    (fun hcompleted other hother => ?_)
  · exact hsound.pending other (htodo ▸ List.mem_cons_of_mem _ hother)
  · rcases hremoved other hother with hbefore | ⟨rfl, hgone⟩
    · exact hsound.removed other hbefore
    · exact ⟨hsound.known _ hmem, hgone⟩
  · rcases hsound.resolved (hstatus ▸ hcompleted) other hother with hpending | hresolved
    · rw [htodo, List.mem_cons] at hpending
      rcases hpending with rfl | hpending
      · exact Or.inr hhead
      · exact Or.inl hpending
    · exact Or.inr (hkeeps other hresolved)

/-- A recovery that stops early does not report that it completed. -/
theorem Recovery.Sound.stopped (hsound : recovery.Sound owner containers) {report : RecoveryReport}
    (hstatus : report.status ≠ .completed)
    (hremoved : ∀ id ∈ report.removed, id ∈ recovery.report.removed) :
    ({ recovery with report, point := .finished } : Recovery).Sound owner containers where
  known := hsound.known
  resolved hcompleted := absurd hcompleted hstatus
  removed id hmem := hsound.removed id (hremoved id hmem)
  pending := hsound.pending
  finished _ hcompleted := absurd hcompleted hstatus
  targeted _ hheld := nomatch hheld

theorem Recovery.Sound.fail (hsound : recovery.Sound owner containers) :
    recovery.fail.Sound owner containers :=
  hsound.stopped nofun fun _ hmem => hmem

theorem Recovery.Sound.expire (hsound : recovery.Sound owner containers) :
    recovery.expire.Sound owner containers :=
  hsound.stopped nofun fun _ hmem => nomatch hmem

/-- A recovery waits at another point with the same head. -/
theorem Recovery.Sound.moved (hsound : recovery.Sound owner containers) {point : RecoveryPoint}
    (hpoint : point ≠ .finished)
    (htargeted : ∀ name, point.held = some name →
      ∃ id rest container, recovery.todo = id :: rest ∧ container ∈ containers ∧
        container.name = name ∧ ownJob owner id container = true) :
    ({ recovery with point } : Recovery).Sound owner containers where
  known := hsound.known
  resolved := hsound.resolved
  removed := hsound.removed
  pending := hsound.pending
  finished hfinished := absurd hfinished hpoint
  targeted := htargeted

theorem listed_held (recovery : Recovery) (found : List ContainerId) (fault : CommandFault) :
    (recovery.listed found fault).point.held = none := by
  cases fault with
  | code | raised => rfl
  | none =>
      simp only [Recovery.listed]
      split
      · rfl
      · exact loop_held _ _ _

theorem verified_held (recovery : Recovery) (id : ContainerId) (present : Bool)
    (fault : CommandFault) : (recovery.verified id present fault).point.held = none := by
  cases fault with
  | raised => rfl
  | code => exact loop_held _ _ _
  | none => cases present <;> exact loop_held _ _ _

theorem confirmed_held (recovery : Recovery) (id : ContainerId) (present : Bool)
    (fault : CommandFault) : (recovery.confirmed id present fault).point.held = none := by
  cases fault with
  | raised => rfl
  | code => exact loop_held _ _ _
  | none => cases present <;> exact loop_held _ _ _

/-- A recovery goes on with the containers it found. -/
theorem Recovery.Sound.listed (hsound : recovery.Sound owner containers)
    {found : List ContainerId}
    (hfound : ∀ id ∈ found, ∃ container ∈ containers, container.id = id) (fault : CommandFault) :
    (recovery.listed found fault).Sound owner containers := by
  cases fault with
  | code | raised => exact hsound.fail
  | none =>
      simp only [Recovery.listed]
      split
      · exact hsound.fail
      · exact sound_loop hfound (fun _ hmem => hmem) hsound.removed fun _ _ hmem => Or.inl hmem

/-- A container found absent is gone. -/
theorem Recovery.Sound.verified (hsound : recovery.Sound owner containers) {id : ContainerId}
    {rest : List ContainerId} (htodo : recovery.todo = id :: rest) {present : Bool}
    (hgone : present = false → Gone containers id) (fault : CommandFault) :
    (recovery.verified id present fault).Sound owner containers := by
  have hfailed : (recovery.advance
      { recovery.report with failed := recovery.report.failed ++ [id] }).Sound owner containers := by
    refine hsound.advance htodo rfl (fun other hother => ?_)
      (Or.inl (List.mem_append_right _ List.mem_cons_self)) fun other hother => Or.inl hother
    exact hother.imp_left (List.mem_append_left _)
  cases fault with
  | raised => exact hsound.fail
  | code => exact hfailed
  | none =>
      cases present with
      | true => exact hfailed
      | false =>
          refine hsound.advance htodo rfl (fun _ hother => hother) ?_
            fun other hother => Or.inl hother
          exact Or.inr (Or.inr (Or.inr (Or.inr (hgone rfl))))

/-- A container whose removal is confirmed is gone. -/
theorem Recovery.Sound.confirmed (hsound : recovery.Sound owner containers) {id : ContainerId}
    {rest : List ContainerId} (htodo : recovery.todo = id :: rest) {present : Bool}
    (hgone : present = false → Gone containers id) (fault : CommandFault) :
    (recovery.confirmed id present fault).Sound owner containers := by
  cases fault with
  | raised => exact hsound.fail
  | code => exact hsound.verified htodo hgone .code
  | none =>
      cases present with
      | true => exact hsound.verified htodo hgone .none
      | false =>
          refine hsound.advance htodo rfl (fun other hother => ?_) ?_ fun other hother => ?_
          · exact hother.imp_right fun hresolved => hresolved.imp_left (List.mem_append_left _)
          · exact Or.inr (Or.inl (List.mem_append_right _ List.mem_cons_self))
          · rcases List.mem_append.mp hother with hbefore | hnew
            · exact Or.inl hbefore
            · exact Or.inr ⟨List.mem_singleton.mp hnew, hgone rfl⟩

end Recoveries

section Tasks

variable {sandboxOwner : DataDir → String} {sandboxes next : Sandboxes} {id : SandboxTaskId}
  {task : SandboxTask} {stage : SandboxStage}

/-- The lease of a task when it moves to a stage. -/
inductive Passes (sandboxes next : Sandboxes) (id : SandboxTaskId) (task : SandboxTask)
    (stage : SandboxStage) : Prop
  | kept (hheld : stage.held = task.stage.held) (hleases : next.leases = sandboxes.leases)
  | taken (name : String) (hfree : sandboxes.leases task.directory name = none)
      (hnone : task.stage.held = none) (hheld : stage.held = some name)
      (hleases : next.leases = (sandboxes.takeLease id task name).leases)
  | left (hheld : stage.held = none) (hleases : next.leases = (sandboxes.exitLease task).leases)

structure Advances (sandboxes next : Sandboxes) (id : SandboxTaskId) (task : SandboxTask)
    (stage : SandboxStage) : Prop where
  tasks : next.tasks = (sandboxes.setStage id task stage).tasks
  leases : Passes sandboxes next id task stage
  containers : next.containers = sandboxes.containers
  launched : task.stage.hasLaunched = true →
    stage.hasLaunched = true ∧ ∀ name, stage.held = some name → task.stage.held = some name

/-- What a step of a task can do. -/
inductive TaskStep (sandboxOwner : DataDir → String) (sandboxes next : Sandboxes)
    (id : SandboxTaskId) (task : SandboxTask) : Prop
  | recovering {recovery later : Recovery} (hstage : task.stage = .recovering recovery)
      (hsound : recovery.Sound (sandboxOwner task.directory) sandboxes.containers →
        later.Sound (sandboxOwner task.directory) sandboxes.containers)
      (hadvances : Advances sandboxes next id task (.recovering later))
      (hcreates : next.creates = sandboxes.creates)
      (hremovals : next.removals = sandboxes.removals ∨
        ∃ name container rest, recovery.point = .leased name ∧ recovery.todo = container :: rest ∧
          next.removals = sandboxes.removals ++ [.byId id container])
  | executing {stage : SandboxStage} (hadvances : Advances sandboxes next id task stage)
      (hexecutes : ∀ recovery, stage ≠ .recovering recovery)
      (hcreates : next.creates = sandboxes.creates ∨
        ∃ name, task.stage = .leased name ∧ stage = .launched name ∧
          next.creates = sandboxes.creates ++
            [⟨name, jobLabels (sandboxOwner task.directory) name, id⟩])
      (hremovals : ∀ issuer container,
        .byId issuer container ∈ next.removals → .byId issuer container ∈ sandboxes.removals)

/-- What the daemon does not list is gone. -/
theorem gone_of_absent {container : ContainerId}
    (habsent : sandboxes.isPresent container = false) : Gone sandboxes.containers container := by
  intro found hmem hid
  have hinspect : sandboxes.inspect container = none :=
    Option.not_isSome_iff_eq_none.mp (Bool.eq_false_iff.mp habsent)
  have hnone := List.find?_eq_none.mp hinspect found hmem
  simpa [hid] using hnone

/-- What the daemon lists is known to it. -/
theorem known_of_listJobs {owner : String} {container : ContainerId}
    (hmem : container ∈ sandboxes.listJobs owner) :
    ∃ found ∈ sandboxes.containers, found.id = container := by
  obtain ⟨found, hfound, hid⟩ := List.mem_map.mp hmem
  exact ⟨found, (List.mem_filter.mp hfound).1, hid⟩

/-- A step within the recovery of a task. -/
theorem taskStep_recovering {recovery later : Recovery} (hstage : task.stage = .recovering recovery)
    (hsound : recovery.Sound (sandboxOwner task.directory) sandboxes.containers →
      later.Sound (sandboxOwner task.directory) sandboxes.containers)
    (hpasses : Passes sandboxes next id task (.recovering later))
    (htasks : next.tasks = (sandboxes.setStage id task (.recovering later)).tasks)
    (hcontainers : next.containers = sandboxes.containers)
    (hcreates : next.creates = sandboxes.creates)
    (hremovals : next.removals = sandboxes.removals) :
    TaskStep sandboxOwner sandboxes next id task := by
  refine .recovering hstage hsound ⟨htasks, hpasses, hcontainers, fun hlaunched => ?_⟩ hcreates
    (Or.inl hremovals)
  rw [hstage] at hlaunched
  cases hlaunched

/-- The recovery leaves its lease, if it is in one. -/
theorem taskStep_left {recovery later : Recovery} (hstage : task.stage = .recovering recovery)
    (hsound : recovery.Sound (sandboxOwner task.directory) sandboxes.containers →
      later.Sound (sandboxOwner task.directory) sandboxes.containers)
    (hheld : later.point.held = none) :
    TaskStep sandboxOwner sandboxes
      ((sandboxes.exitLease task).setStage id task (.recovering later)) id task :=
  taskStep_recovering hstage hsound (.left hheld rfl) rfl rfl rfl rfl

/-- The recovery moves between points without a lease. -/
theorem taskStep_free {recovery later : Recovery} (hstage : task.stage = .recovering recovery)
    (hfree : recovery.point.held = none)
    (hsound : recovery.Sound (sandboxOwner task.directory) sandboxes.containers →
      later.Sound (sandboxOwner task.directory) sandboxes.containers)
    (hheld : later.point.held = none) :
    TaskStep sandboxOwner sandboxes (sandboxes.setStage id task (.recovering later)) id task := by
  refine taskStep_recovering hstage hsound (.kept ?_ rfl) rfl rfl rfl rfl
  rw [hstage]
  exact hheld.trans hfree.symm

theorem taskStep_inspected {recovery : Recovery} (hstage : task.stage = .recovering recovery)
    (hpoint : recovery.point = .inspecting) {container : ContainerId} {rest : List ContainerId}
    (htodo : recovery.todo = container :: rest) (fault : CommandFault) :
    TaskStep sandboxOwner sandboxes
      (sandboxes.inspected sandboxOwner id task recovery container fault) id task := by
  have hfree : recovery.point.held = none := by rw [hpoint]; rfl
  have hverify : TaskStep sandboxOwner sandboxes
      (sandboxes.setStage id task (.recovering { recovery with point := .verifying })) id task :=
    taskStep_free hstage hfree (fun hsound => hsound.moved nofun nofun) rfl
  cases fault with
  | raised => exact taskStep_free hstage hfree (fun hsound => hsound.fail) rfl
  | code => exact hverify
  | none =>
      unfold Sandboxes.inspected
      cases hinspect : sandboxes.inspect container with
      | none => exact hverify
      | some definition =>
          have hmem : definition ∈ sandboxes.containers := List.mem_of_find?_eq_some hinspect
          simp only
          split
          · rename_i hown
            cases hlease : sandboxes.leases task.directory definition.name with
            | some holder =>
                refine taskStep_free hstage hfree (fun hsound => ?_) (loop_held _ _ _)
                refine hsound.advance htodo rfl (fun other hother => ?_) ?_
                  fun _ hother => Or.inl hother
                · refine hother.imp_right fun hresolved => hresolved.imp_right fun hrest => ?_
                  exact hrest.imp_left (List.mem_append_left _)
                · exact Or.inr (Or.inr (Or.inl
                    (List.mem_append_right _ List.mem_cons_self)))
            | none =>
                refine taskStep_recovering hstage (fun hsound => ?_)
                  (.taken definition.name hlease (by rw [hstage]; exact hfree) rfl rfl)
                  rfl rfl rfl rfl
                refine hsound.moved nofun fun name hheld => ?_
                cases hheld
                exact ⟨container, rest, definition, htodo, hmem, rfl, hown⟩
          · refine taskStep_free hstage hfree (fun hsound => ?_) (loop_held _ _ _)
            refine hsound.advance htodo rfl (fun other hother => ?_) ?_
              fun _ hother => Or.inl hother
            · refine hother.imp_right fun hresolved => hresolved.imp_right fun hrest => ?_
              exact hrest.imp_right fun hmore => hmore.imp_left (List.mem_append_left _)
            · exact Or.inr (Or.inr (Or.inr (Or.inl
                (List.mem_append_right _ List.mem_cons_self))))

/-- Every step of a recovery is one of these. -/
theorem taskStep_recover {recovery : Recovery} (hstage : task.stage = .recovering recovery)
    {command : RecoveryCommand}
    (hstep : sandboxes.recover sandboxOwner id task recovery command = some next) :
    TaskStep sandboxOwner sandboxes next id task := by
  unfold Sandboxes.recover at hstep
  split at hstep
  · rename_i hpoint
    cases hstep
    exact taskStep_free hstage (by rw [hpoint]; rfl)
      (fun hsound => hsound.stopped nofun fun _ hmem => hmem) rfl
  · rename_i fault hpoint
    cases hstep
    exact taskStep_free hstage (by rw [hpoint]; rfl)
      (fun hsound => hsound.listed (fun _ => known_of_listJobs) fault) (listed_held _ _ _)
  · rename_i fault container rest hpoint htodo
    cases hstep
    exact taskStep_inspected hstage hpoint htodo fault
  · rename_i fault container rest hpoint htodo
    cases hstep
    exact taskStep_free hstage (by rw [hpoint]; rfl)
      (fun hsound => hsound.verified htodo gone_of_absent fault) (verified_held _ _ _ _)
  · rename_i name container rest hpoint htodo
    cases hstep
    refine .recovering hstage (fun hsound => ?_) ⟨rfl, .kept ?_ rfl, rfl, fun hlaunched => ?_⟩ rfl
      (Or.inr ⟨name, container, rest, hpoint, htodo, rfl⟩)
    · exact hsound.moved nofun fun other hheld => hsound.targeted other (by rw [hpoint]; exact hheld)
    · rw [hstage]
      change some name = recovery.point.held
      rw [hpoint]
      rfl
    · rw [hstage] at hlaunched
      cases hlaunched
  · cases hstep
    exact taskStep_left hstage (fun hsound => hsound.fail) rfl
  · rename_i name container rest hpoint htodo
    cases hstep
    refine taskStep_recovering hstage (fun hsound => ?_) (.kept ?_ rfl) rfl rfl rfl rfl
    · exact hsound.moved nofun fun other hheld => hsound.targeted other (by rw [hpoint]; exact hheld)
    · rw [hstage]
      change some name = recovery.point.held
      rw [hpoint]
      rfl
  · cases hstep
    exact taskStep_left hstage (fun hsound => hsound.fail) rfl
  · rename_i fault name container rest hpoint htodo
    cases hstep
    exact taskStep_left hstage (fun hsound => hsound.confirmed htodo gone_of_absent fault)
      (confirmed_held _ _ _ _)
  · cases hstep
  · cases hstep
    exact taskStep_left hstage (fun hsound => hsound.expire) rfl
  · cases hstep

theorem taskStep_execute {command : ExecutionCommand}
    (hstep : sandboxes.execute sandboxOwner id task command = some next) :
    TaskStep sandboxOwner sandboxes next id task := by
  have hended : ∀ stage : SandboxStage, stage.held = none → (∀ recovery, stage ≠ .recovering recovery) →
      stage.hasLaunched = true →
      TaskStep sandboxOwner sandboxes ((sandboxes.exitLease task).setStage id task stage) id
        task := by
    intro stage hheld hexecutes hlaunched
    refine .executing ⟨rfl, .left hheld rfl, rfl, fun _ => ⟨hlaunched, fun name hname => ?_⟩⟩
      hexecutes (Or.inl rfl) fun _ _ hmem => hmem
    rw [hheld] at hname
    cases hname
  unfold Sandboxes.execute at hstep
  split at hstep
  · rename_i uuid recovery hstage
    split at hstep
    · rename_i hready
      cases hlease : sandboxes.leases task.directory (jobName uuid) with
      | some holder =>
          simp only [hlease, Option.some.injEq] at hstep
          subst hstep
          refine .executing ⟨rfl, .kept ?_ rfl, rfl, fun _ => ⟨rfl, nofun⟩⟩ nofun (Or.inl rfl)
            fun _ _ hmem => hmem
          rw [hstage]
          change none = recovery.point.held
          rw [hready.2.1]
          rfl
      | none =>
          simp only [hlease, Option.some.injEq] at hstep
          subst hstep
          have hnone : task.stage.held = none := by
            rw [hstage]
            change recovery.point.held = none
            rw [hready.2.1]
            rfl
          refine .executing ⟨rfl, .taken (jobName uuid) hlease hnone rfl rfl, rfl,
            fun hlaunched => ?_⟩ nofun (Or.inl rfl) fun _ _ hmem => hmem
          rw [hstage] at hlaunched
          cases hlaunched
    · cases hstep
  · rename_i name hstage
    cases hstep
    refine .executing ⟨rfl, .kept (by rw [hstage]; rfl) rfl, rfl, fun hlaunched => ?_⟩ nofun
      (Or.inr ⟨name, hstage, rfl, rfl⟩) fun _ _ hmem => hmem
    rw [hstage] at hlaunched
    cases hlaunched
  · rename_i name hstage
    cases hstep
    refine .executing ⟨rfl, .kept (by rw [hstage]; rfl) rfl, rfl, fun _ => ⟨rfl, fun other hother => ?_⟩⟩
      nofun (Or.inl rfl) fun issuer container hmem => ?_
    · rw [hstage]
      exact hother
    · rcases List.mem_append.mp hmem with hbefore | hnew
      · exact hbefore
      · cases List.mem_singleton.mp hnew
  · rename_i name hstage
    cases hstep
    refine .executing ⟨rfl, .kept (by rw [hstage]; rfl) rfl, rfl, fun _ => ⟨rfl, fun other hother => ?_⟩⟩
      nofun (Or.inl rfl) fun _ _ hmem => hmem
    rw [hstage]
    exact hother
  · cases hstep
    exact hended .ended rfl nofun rfl
  · cases hstep
    exact hended .ended rfl nofun rfl
  · cases hstep
    exact hended .ended rfl nofun rfl
  · cases hstep

end Tasks

section Invariant

variable {sandboxOwner : DataDir → String} {sandboxes next : Sandboxes}

/-- The execution behind a creation: it holds no lease but the one of this job. -/
def Made (sandboxOwner : DataDir → String) (sandboxes : Sandboxes) (creator : SandboxTaskId)
    (name : String) (labels : List (String × String)) : Prop :=
  ∃ task, sandboxes.tasks creator = some task ∧ task.stage.hasLaunched = true ∧
    (∀ held, task.stage.held = some held → held = name) ∧
    labels.lookup "aidlc.owner" = some (sandboxOwner task.directory)

/-- The execution has left its lease. -/
def Over (sandboxes : Sandboxes) (creator : SandboxTaskId) : Prop :=
  ∃ task, sandboxes.tasks creator = some task ∧ task.stage.hasLaunched = true ∧
    task.stage.held = none

/-- The container of a removal is a job of the issuer's owner whose execution is over. -/
def Justified (sandboxOwner : DataDir → String) (sandboxes : Sandboxes) (issuer : SandboxTaskId)
    (id : ContainerId) : Prop :=
  ∃ task container, sandboxes.tasks issuer = some task ∧ container ∈ sandboxes.containers ∧
    ownJob (sandboxOwner task.directory) id container = true ∧
    ∀ creator, container.creator = some creator → Over sandboxes creator

/-- The locks are those of the tasks that are in a lease. -/
def Leased (sandboxes : Sandboxes) : Prop :=
  ∀ directory name id, sandboxes.leases directory name = some id ↔
    ∃ task, sandboxes.tasks id = some task ∧ task.directory = directory ∧
      task.stage.held = some name

structure Sandboxes.Sound (sandboxOwner : DataDir → String) (sandboxes : Sandboxes) : Prop where
  leased : Leased sandboxes
  made : ∀ container ∈ sandboxes.containers, ∀ creator, container.creator = some creator →
    Made sandboxOwner sandboxes creator container.name container.labels
  requested : ∀ request ∈ sandboxes.creates,
    Made sandboxOwner sandboxes request.creator request.name request.labels
  recovering : ∀ id task recovery, sandboxes.tasks id = some task →
    task.stage = .recovering recovery →
    recovery.Sound (sandboxOwner task.directory) sandboxes.containers
  removing : ∀ issuer id, .byId issuer id ∈ sandboxes.removals →
    Justified sandboxOwner sandboxes issuer id

/-- Tasks stay in their directory, and once launched take no further lease. -/
def Ages (sandboxes next : Sandboxes) : Prop :=
  ∀ id task, sandboxes.tasks id = some task → ∃ later, next.tasks id = some later ∧
    later.directory = task.directory ∧
    (task.stage.hasLaunched = true → later.stage.hasLaunched = true ∧
      ∀ name, later.stage.held = some name → task.stage.held = some name)

theorem Ages.of_eq (htasks : next.tasks = sandboxes.tasks) : Ages sandboxes next :=
  fun _ task htask =>
    ⟨task, by rw [htasks, htask], rfl, fun hlaunched => ⟨hlaunched, fun _ hheld => hheld⟩⟩

theorem Made.mono {creator : SandboxTaskId} {name : String} {labels : List (String × String)}
    (hmade : Made sandboxOwner sandboxes creator name labels) (hages : Ages sandboxes next) :
    Made sandboxOwner next creator name labels := by
  obtain ⟨task, htask, hlaunched, hheld, howner⟩ := hmade
  obtain ⟨later, hlater, hdirectory, hkeeps⟩ := hages creator task htask
  obtain ⟨hlaterLaunched, hlaterHeld⟩ := hkeeps hlaunched
  exact ⟨later, hlater, hlaterLaunched, fun held hholds => hheld held (hlaterHeld held hholds),
    by rw [hdirectory, howner]⟩

theorem Over.mono {creator : SandboxTaskId} (hover : Over sandboxes creator)
    (hages : Ages sandboxes next) : Over next creator := by
  obtain ⟨task, htask, hlaunched, hheld⟩ := hover
  obtain ⟨later, hlater, -, hkeeps⟩ := hages creator task htask
  obtain ⟨hlaterLaunched, hlaterHeld⟩ := hkeeps hlaunched
  refine ⟨later, hlater, hlaterLaunched, ?_⟩
  cases hnone : later.stage.held with
  | none => rfl
  | some name =>
      have hholds := hlaterHeld name hnone
      rw [hheld] at hholds
      cases hholds

/-- A removal stays justified. -/
theorem Justified.mono {issuer : SandboxTaskId} {id : ContainerId}
    (hjustified : Justified sandboxOwner sandboxes issuer id) (hages : Ages sandboxes next)
    (hevolves : Evolves sandboxes.containers next.containers) :
    Justified sandboxOwner next issuer id := by
  obtain ⟨task, container, htask, hcontainer, hown, hover⟩ := hjustified
  obtain ⟨later, hlater, hdirectory, -⟩ := hages issuer task htask
  obtain ⟨found, hfound, hid, hname, hlabels, hcreator⟩ := hevolves.kept container hcontainer
  refine ⟨later, found, hlater, hfound, ?_, fun creator hmade => ?_⟩
  · rw [hdirectory, ← hown]
    simp only [ownJob, hid, hname, hlabels]
  · exact (hover creator (hcreator ▸ hmade)).mono hages

/-- Tasks move on while the containers stay. -/
theorem Sandboxes.Sound.aged (hsound : sandboxes.Sound sandboxOwner) (hages : Ages sandboxes next)
    (hcontainers : next.containers = sandboxes.containers) (hleased : Leased next)
    (hcreates : ∀ request ∈ next.creates, request ∈ sandboxes.creates ∨
      Made sandboxOwner next request.creator request.name request.labels)
    (hrecovering : ∀ id task recovery, next.tasks id = some task →
      task.stage = .recovering recovery →
      (∃ before, sandboxes.tasks id = some before ∧ before.stage = task.stage ∧
        before.directory = task.directory) ∨
      recovery.Sound (sandboxOwner task.directory) sandboxes.containers)
    (hremovals : ∀ issuer id, .byId issuer id ∈ next.removals →
      .byId issuer id ∈ sandboxes.removals ∨ Justified sandboxOwner next issuer id) :
    next.Sound sandboxOwner where
  leased := hleased
  made container hmem creator hcreator := by
    rw [hcontainers] at hmem
    exact (hsound.made container hmem creator hcreator).mono hages
  requested request hmem := by
    rcases hcreates request hmem with hbefore | hmade
    · exact (hsound.requested request hbefore).mono hages
    · exact hmade
  recovering id task recovery htask hstage := by
    rw [hcontainers]
    rcases hrecovering id task recovery htask hstage with ⟨before, hbefore, hsame, hdirectory⟩ |
      hrecovery
    · rw [← hdirectory]
      exact hsound.recovering id before recovery hbefore (hsame.trans hstage)
    · exact hrecovery
  removing issuer id hmem := by
    rcases hremovals issuer id hmem with hbefore | hjustified
    · refine (hsound.removing issuer id hbefore).mono hages ?_
      rw [hcontainers]
      exact .refl _
    · exact hjustified

/-- Containers come and go while the tasks stay. -/
theorem Sandboxes.Sound.evolved (hsound : sandboxes.Sound sandboxOwner)
    (htasks : next.tasks = sandboxes.tasks) (hleases : next.leases = sandboxes.leases)
    (hevolves : Evolves sandboxes.containers next.containers)
    (hmade : ∀ container ∈ next.containers, ∀ creator, container.creator = some creator →
      Made sandboxOwner sandboxes creator container.name container.labels)
    (hcreates : ∀ request ∈ next.creates, request ∈ sandboxes.creates)
    (hremovals : ∀ removal ∈ next.removals, removal ∈ sandboxes.removals) :
    next.Sound sandboxOwner where
  leased := by
    unfold Leased
    rw [hleases, htasks]
    exact hsound.leased
  made container hmem creator hcreator :=
    (hmade container hmem creator hcreator).mono (.of_eq htasks)
  requested request hmem := (hsound.requested request (hcreates request hmem)).mono (.of_eq htasks)
  recovering id task recovery htask hstage :=
    (hsound.recovering id task recovery (htasks ▸ htask) hstage).mono hevolves
  removing issuer id hmem :=
    (hsound.removing issuer id (hremovals _ hmem)).mono (.of_eq htasks) hevolves

/-- With no tasks everything is sound. -/
theorem sound_start (sandboxOwner : DataDir → String) : Sandboxes.start.Sound sandboxOwner where
  leased _ _ _ := ⟨nofun, fun ⟨_, htask, _⟩ => nomatch htask⟩
  made _ hmem := nomatch hmem
  requested _ hmem := nomatch hmem
  recovering _ _ _ htask := nomatch htask
  removing _ _ hmem := nomatch hmem

section Steps

variable {id : SandboxTaskId} {task : SandboxTask} {stage : SandboxStage}

theorem Advances.self (hadvances : Advances sandboxes next id task stage) :
    next.tasks id = some { task with stage } := by
  rw [hadvances.tasks]
  exact if_pos rfl

theorem Advances.other (hadvances : Advances sandboxes next id task stage) {other : SandboxTaskId}
    (hne : other ≠ id) : next.tasks other = sandboxes.tasks other := by
  rw [hadvances.tasks]
  exact if_neg hne

theorem Advances.ages (hadvances : Advances sandboxes next id task stage)
    (htask : sandboxes.tasks id = some task) : Ages sandboxes next := by
  intro other found hfound
  by_cases hother : other = id
  · subst hother
    rw [htask, Option.some.injEq] at hfound
    subst hfound
    exact ⟨_, hadvances.self, rfl, hadvances.launched⟩
  · exact ⟨found, (hadvances.other hother).trans hfound, rfl,
      fun hlaunched => ⟨hlaunched, fun _ hheld => hheld⟩⟩

/-- A lease has one holder, whatever the task that moves on does with its own. -/
theorem Advances.leased (hadvances : Advances sandboxes next id task stage)
    (htask : sandboxes.tasks id = some task) (hleased : Leased sandboxes) : Leased next := by
  intro directory name other
  by_cases hother : other = id
  · subst hother
    have hnext : (∃ found, next.tasks other = some found ∧ found.directory = directory ∧
        found.stage.held = some name) ↔ task.directory = directory ∧ stage.held = some name := by
      rw [hadvances.self]
      simp
    have hbefore : sandboxes.leases directory name = some other ↔
        task.directory = directory ∧ task.stage.held = some name := by
      rw [hleased, htask]
      simp
    rw [hnext]
    cases hadvances.leases with
    | kept hsame hleases => rw [hleases, hbefore, hsame]
    | taken taken hfree hnone htaken hleases =>
        rw [hleases, htaken, Option.some.injEq]
        by_cases hkey : directory = task.directory ∧ name = taken
        · exact iff_of_true (if_pos hkey) ⟨hkey.1.symm, hkey.2.symm⟩
        · refine iff_of_false (fun hlease => ?_) fun hsame => hkey ⟨hsame.1.symm, hsame.2.symm⟩
          have hkept := hbefore.mp ((if_neg hkey).symm.trans hlease)
          rw [hnone] at hkept
          cases hkept.2
    | left hnone hleases =>
        rw [hleases, hnone]
        refine iff_of_false (fun hlease => ?_) nofun
        by_cases hkey : directory = task.directory ∧ task.stage.held = some name
        · exact absurd ((if_pos hkey).symm.trans hlease) nofun
        · have hkept := hbefore.mp ((if_neg hkey).symm.trans hlease)
          exact hkey ⟨hkept.1.symm, hkept.2⟩
  · rw [hadvances.other hother, ← hleased]
    cases hadvances.leases with
    | kept _ hleases => rw [hleases]
    | taken taken hfree _ _ hleases =>
        rw [hleases]
        by_cases hkey : directory = task.directory ∧ name = taken
        · rw [hkey.1, hkey.2, hfree]
          refine iff_of_false (fun hlease => hother ?_) nofun
          exact (Option.some.inj ((if_pos ⟨rfl, rfl⟩).symm.trans hlease)).symm
        · exact iff_of_eq (congrArg (· = some other) (if_neg hkey))
    | left _ hleases =>
        rw [hleases]
        by_cases hkey : directory = task.directory ∧ task.stage.held = some name
        · have hown := (hleased directory name id).mpr ⟨task, htask, hkey.1.symm, hkey.2⟩
          rw [hown, Option.some.injEq]
          refine iff_of_false (fun hlease => ?_) (Ne.symm hother)
          exact absurd ((if_pos hkey).symm.trans hlease) nofun
        · exact iff_of_eq (congrArg (· = some other) (if_neg hkey))

end Steps

/-- Whose lease a recovery holds, that execution is over. -/
theorem justified_of_leased (hinjective : Function.Injective sandboxOwner)
    (hsound : sandboxes.Sound sandboxOwner) {id : SandboxTaskId} {task : SandboxTask}
    {recovery : Recovery} (htask : sandboxes.tasks id = some task)
    (hstage : task.stage = .recovering recovery) {name : String}
    (hpoint : recovery.point = .leased name) {found : ContainerId} {rest : List ContainerId}
    (htodo : recovery.todo = found :: rest) : Justified sandboxOwner sandboxes id found := by
  have hheld : recovery.point.held = some name := by rw [hpoint]; rfl
  have hlease := (hsound.leased task.directory name id).mpr
    ⟨task, htask, rfl, by rw [hstage]; exact hheld⟩
  obtain ⟨head, tail, container, hsplit, hcontainer, hname, hown⟩ :=
    (hsound.recovering id task recovery htask hstage).targeted name hheld
  rw [htodo, List.cons.injEq] at hsplit
  obtain ⟨rfl, -⟩ := hsplit
  refine ⟨task, container, htask, hcontainer, hown, fun creator hcreator => ?_⟩
  obtain ⟨maker, hmaker, hlaunched, hholds, howner⟩ :=
    hsound.made container hcontainer creator hcreator
  refine ⟨maker, hmaker, hlaunched, ?_⟩
  have hlabels : container.labels.lookup "aidlc.owner" = some (sandboxOwner task.directory) := by
    simp only [ownJob, Bool.and_eq_true, beq_iff_eq] at hown
    exact hown.1.2
  have hdirectory : maker.directory = task.directory :=
    hinjective (Option.some.inj (howner.symm.trans hlabels))
  cases hnone : maker.stage.held with
  | none => rfl
  | some held =>
      -- the maker would hold the lease that the recovery holds
      have hmakerLease := (hsound.leased maker.directory held creator).mpr
        ⟨maker, hmaker, rfl, hnone⟩
      rw [hholds held hnone, hname, hdirectory, hlease, Option.some.injEq] at hmakerLease
      subst hmakerLease
      rw [htask, Option.some.injEq] at hmaker
      subst hmaker
      rw [hstage] at hlaunched
      cases hlaunched

/-- A step of one task keeps the sandboxes sound. -/
theorem Sandboxes.Sound.tasked (hinjective : Function.Injective sandboxOwner)
    (hsound : sandboxes.Sound sandboxOwner) {id : SandboxTaskId} {task : SandboxTask}
    (htask : sandboxes.tasks id = some task) (hstep : TaskStep sandboxOwner sandboxes next id task) :
    next.Sound sandboxOwner := by
  cases hstep with
  | @recovering recovery later hstage hkeeps hadvances hcreates hremovals =>
      have hages := hadvances.ages htask
      refine hsound.aged hages hadvances.containers (hadvances.leased htask hsound.leased)
        (fun request hmem => Or.inl (hcreates ▸ hmem)) (fun other found running hfound hrunning => ?_)
        fun issuer container hmem => ?_
      · by_cases hother : other = id
        · subst hother
          rw [hadvances.self, Option.some.injEq] at hfound
          subst hfound
          cases hrunning
          exact Or.inr (hkeeps (hsound.recovering other task recovery htask hstage))
        · exact Or.inl ⟨found, (hadvances.other hother).symm.trans hfound, rfl, rfl⟩
      · rcases hremovals with hsame | ⟨name, head, rest, hpoint, htodo, hnew⟩
        · exact Or.inl (hsame ▸ hmem)
        · rw [hnew] at hmem
          rcases List.mem_append.mp hmem with hbefore | hissued
          · exact Or.inl hbefore
          · cases List.mem_singleton.mp hissued
            refine Or.inr ((justified_of_leased hinjective hsound htask hstage hpoint htodo).mono
              hages ?_)
            rw [hadvances.containers]
            exact .refl _
  | @executing stage hadvances hexecutes hcreates hremovals =>
      refine hsound.aged (hadvances.ages htask) hadvances.containers
        (hadvances.leased htask hsound.leased) (fun request hmem => ?_)
        (fun other found running hfound hrunning => ?_)
        fun issuer container hmem => Or.inl (hremovals issuer container hmem)
      · rcases hcreates with hsame | ⟨name, -, rfl, hnew⟩
        · exact Or.inl (hsame ▸ hmem)
        · rw [hnew] at hmem
          rcases List.mem_append.mp hmem with hbefore | hissued
          · exact Or.inl hbefore
          · cases List.mem_singleton.mp hissued
            refine Or.inr ⟨_, hadvances.self, rfl, fun held hheld => ?_, rfl⟩
            exact (Option.some.inj hheld).symm
      · by_cases hother : other = id
        · subst hother
          rw [hadvances.self, Option.some.injEq] at hfound
          subst hfound
          exact absurd hrunning (hexecutes running)
        · exact Or.inl ⟨found, (hadvances.other hother).symm.trans hfound, rfl, rfl⟩

/-- A new task keeps the sandboxes sound. -/
theorem Sandboxes.Sound.began (hsound : sandboxes.Sound sandboxOwner) {id : SandboxTaskId}
    (hnew : sandboxes.tasks id = none) (process : ProcessId) (directory : DataDir)
    (executes : Bool) :
    { sandboxes with
      tasks := fun other =>
        if other = id then
          some ⟨process, directory, executes, .recovering (.start (sandboxOwner directory))⟩
        else sandboxes.tasks other }.Sound sandboxOwner := by
  have hother : ∀ other task, sandboxes.tasks other = some task → other ≠ id := by
    rintro other task htask rfl
    rw [hnew] at htask
    cases htask
  refine hsound.aged (fun other task htask => ?_) rfl (fun place name other => ?_)
    (fun _ hmem => Or.inl hmem) (fun other task recovery htask hstage => ?_)
    fun _ _ hmem => Or.inl hmem
  · refine ⟨task, (if_neg (hother other task htask)).trans htask, rfl, ?_⟩
    exact fun hlaunched => ⟨hlaunched, fun _ hheld => hheld⟩
  · refine (hsound.leased place name other).trans ?_
    by_cases hid : other = id
    · subst hid
      simp [hnew, SandboxStage.held, Recovery.start, RecoveryPoint.held]
    · simp [hid]
  · by_cases hid : other = id
    · cases (if_pos hid).symm.trans htask
      cases hstage
      exact Or.inr (Recovery.sound_start _ _)
    · exact Or.inl ⟨task, (if_neg hid).symm.trans htask, rfl, rfl⟩

/-- A process that dies keeps the sandboxes sound: its leases go with it. -/
theorem Sandboxes.Sound.died (hsound : sandboxes.Sound sandboxOwner) (process : ProcessId) :
    (sandboxes.die process).Sound sandboxOwner := by
  have hsurvives : ∀ id task, (sandboxes.die process).tasks id = some task →
      ∃ before, sandboxes.tasks id = some before ∧ before.directory = task.directory ∧
        (task.stage = .ended ∨ (before = task ∧ before.process ≠ process)) := by
    intro id task htask
    obtain ⟨before, hbefore, rfl⟩ := Option.map_eq_some_iff.mp htask
    by_cases hprocess : before.process = process
    · exact ⟨before, hbefore, by rw [if_pos hprocess], Or.inl (by rw [if_pos hprocess])⟩
    · rw [if_neg hprocess]
      exact ⟨before, hbefore, rfl, Or.inr ⟨rfl, hprocess⟩⟩
  refine hsound.aged (fun id task htask => ?_) rfl (fun directory name id => ?_)
    (fun _ hmem => Or.inl hmem) (fun id task recovery htask hstage => ?_)
    fun _ _ hmem => Or.inl hmem
  · by_cases hprocess : task.process = process
    · refine ⟨{ task with stage := .ended }, ?_, rfl, fun _ => ⟨rfl, nofun⟩⟩
      simp [Sandboxes.die, htask, hprocess]
    · refine ⟨task, ?_, rfl, fun hlaunched => ⟨hlaunched, fun _ hheld => hheld⟩⟩
      simp [Sandboxes.die, htask, hprocess]
  · change (sandboxes.leases directory name).filter _ = some id ↔ _
    rw [Option.filter_eq_some_iff, hsound.leased directory name id]
    constructor
    · rintro ⟨⟨task, htask, hdirectory, hheld⟩, hprocess⟩
      have halive : task.process ≠ process := by simpa [htask] using hprocess
      exact ⟨task, by simp [Sandboxes.die, htask, halive], hdirectory, hheld⟩
    · rintro ⟨task, htask, hdirectory, hheld⟩
      obtain ⟨before, hbefore, -, hended | ⟨rfl, hprocess⟩⟩ := hsurvives id task htask
      · rw [hended] at hheld
        cases hheld
      · exact ⟨⟨before, hbefore, hdirectory, hheld⟩, by simpa [hbefore] using hprocess⟩
  · obtain ⟨before, hbefore, hdirectory, hended | ⟨rfl, -⟩⟩ := hsurvives id task htask
    · rw [hended] at hstage
      cases hstage
    · exact Or.inl ⟨before, hbefore, rfl, rfl⟩

/-- The daemon adds a container under a new identifier. -/
theorem Sandboxes.Sound.contained (hsound : sandboxes.Sound sandboxOwner)
    {creates : List CreateRequest} (hcreates : ∀ request ∈ creates, request ∈ sandboxes.creates)
    {id : ContainerId} {name : String} {labels : List (String × String)}
    {creator : Option SandboxTaskId}
    (hmade : ∀ maker, creator = some maker → Made sandboxOwner sandboxes maker name labels)
    (hadd : { sandboxes with creates }.addContainer id name labels creator = some next) :
    next.Sound sandboxOwner := by
  unfold Sandboxes.addContainer at hadd
  split at hadd
  · cases hadd
  · rename_i hfree
    cases hadd
    have hnew : ∀ container ∈ sandboxes.containers, container.id ≠ id := by
      intro container hmem hid
      refine hfree (List.any_eq_true.mpr ⟨container, hmem, ?_⟩)
      simp [hid]
    refine hsound.evolved rfl rfl (.added hnew) (fun container hmem maker hmaker => ?_) hcreates
      fun _ hmem => hmem
    rcases List.mem_append.mp hmem with hbefore | hadded
    · exact hsound.made container hbefore maker hmaker
    · cases List.mem_singleton.mp hadded
      exact hmade maker hmaker

/-- Every step keeps the sandboxes sound. -/
theorem Sandboxes.Sound.step (hinjective : Function.Injective sandboxOwner)
    (hsound : sandboxes.Sound sandboxOwner) {label : SandboxLabel}
    (hstep : (sandboxing sandboxOwner).step sandboxes label = some next) :
    next.Sound sandboxOwner := by
  cases label with
  | begin id process directory executes =>
      cases htask : sandboxes.tasks id with
      | some task => simp [sandboxing, htask] at hstep
      | none =>
          simp only [sandboxing, htask, Option.some.injEq] at hstep
          subst hstep
          exact hsound.began htask process directory executes
  | recover id command =>
      cases htask : sandboxes.tasks id with
      | none => simp [sandboxing, htask] at hstep
      | some task =>
          cases hstage : task.stage with
          | recovering recovery =>
              simp only [sandboxing, htask, hstage] at hstep
              exact hsound.tasked hinjective htask (taskStep_recover hstage hstep)
          | leased | launched | cleaning | ended => simp [sandboxing, htask, hstage] at hstep
  | execute id command =>
      cases htask : sandboxes.tasks id with
      | none => simp [sandboxing, htask] at hstep
      | some task =>
          simp only [sandboxing, htask] at hstep
          exact hsound.tasked hinjective htask (taskStep_execute hstep)
  -- What the daemon creates was requested, and by whom is known.
  | daemonCreates request id =>
      simp only [sandboxing] at hstep
      split at hstep
      · rename_i hrequest
        refine hsound.contained (fun _ hmem => List.mem_of_mem_erase hmem) (fun maker hmaker => ?_)
          hstep
        cases hmaker
        exact hsound.requested request hrequest
      · cases hstep
  | daemonRemoves removal =>
      simp only [sandboxing] at hstep
      split at hstep
      · cases hstep
        refine hsound.evolved rfl rfl (.removed _) (fun container hmem creator hcreator => ?_)
          (fun _ hmem => hmem) fun _ hmem => List.mem_of_mem_erase hmem
        obtain ⟨before, hbefore, hname, hlabels, hsame⟩ := removed_same _ hmem
        rw [hname, hlabels]
        exact hsound.made before hbefore creator (hsame.symm.trans hcreator)
      · cases hstep
  | daemonDrops request =>
      cases request with
      | inl request =>
          simp only [sandboxing, Option.some.injEq] at hstep
          subst hstep
          exact hsound.evolved rfl rfl (.refl _) hsound.made
            (fun _ hmem => List.mem_of_mem_erase hmem) fun _ hmem => hmem
      | inr removal =>
          simp only [sandboxing, Option.some.injEq] at hstep
          subst hstep
          exact hsound.evolved rfl rfl (.refl _) hsound.made (fun _ hmem => hmem)
            fun _ hmem => List.mem_of_mem_erase hmem
  -- A container made by others has no maker among the tasks.
  | appears id name labels =>
      simp only [sandboxing] at hstep
      refine hsound.contained (fun _ hmem => hmem) (fun _ hmaker => ?_) hstep
      cases hmaker
  | dies process =>
      simp only [sandboxing, Option.some.injEq] at hstep
      subst hstep
      exact hsound.died process

end Invariant

section Safety

variable (sandboxOwner : DataDir → String)

/-- The recovery issues the removal of a job: its owner's, named as its label says. -/
def RemovesJob (sandboxes : Sandboxes) (issuer : SandboxTaskId) (id : ContainerId) : Prop :=
  ∃ task container, sandboxes.tasks issuer = some task ∧ container ∈ sandboxes.containers ∧
    container.id = id ∧ isJobName container.name = true ∧
    container.labels.lookup "aidlc.sandbox" = some "true" ∧
    container.labels.lookup "aidlc.owner" = some (sandboxOwner task.directory) ∧
    container.labels.lookup "aidlc.job" = some container.name ∧
    ∀ creator, container.creator = some creator →
      ∀ directory name, sandboxes.leases directory name ≠ some creator

/-- In every run of executions, recoveries, and the daemon, a removal that a
recovery has issued is, for as long as it is under way, for a job of its owner
whose execution holds no lease. A recovery that completed has resolved its whole
inventory, and what it reports as removed is gone for good. -/
theorem recovery_spares_live_jobs (hinjective : Function.Injective sandboxOwner)
    {labels : List SandboxLabel} {sandboxes : Sandboxes}
    (hrun : (sandboxing sandboxOwner).run .start labels = some sandboxes) :
    (∀ issuer id, .byId issuer id ∈ sandboxes.removals →
      RemovesJob sandboxOwner sandboxes issuer id) ∧
      ∀ id task recovery, sandboxes.tasks id = some task → task.stage = .recovering recovery →
        recovery.point = .finished → recovery.report.status = .completed →
        ∀ container ∈ recovery.identifiers,
          (container ∈ recovery.report.removed ∧ Gone sandboxes.containers container) ∨
            container ∈ recovery.report.active ∨ container ∈ recovery.report.ignored ∨
            Gone sandboxes.containers container := by
  have hsound : sandboxes.Sound sandboxOwner :=
    (sandboxing sandboxOwner).run_invariant (Sandboxes.Sound sandboxOwner)
      (fun _ _ _ hsound hstep => hsound.step hinjective hstep) (sound_start sandboxOwner) hrun
  refine ⟨fun issuer id hmem => ?_, fun id task recovery htask hstage hfinished hcompleted
    container hmem => ?_⟩
  · obtain ⟨task, container, htask, hcontainer, hown, hover⟩ := hsound.removing issuer id hmem
    simp only [ownJob, Bool.and_eq_true, beq_iff_eq] at hown
    obtain ⟨⟨⟨⟨hid, hname⟩, hsandbox⟩, howner⟩, hjob⟩ := hown
    refine ⟨task, container, htask, hcontainer, hid, hname, hsandbox, howner, hjob,
      fun creator hcreator directory name hlease => ?_⟩
    obtain ⟨found, hfound, -, hnone⟩ := hover creator hcreator
    obtain ⟨maker, hmaker, -, hheld⟩ := (hsound.leased directory name creator).mp hlease
    rw [hfound, Option.some.injEq] at hmaker
    rw [← hmaker, hnone] at hheld
    cases hheld
  · have hrecovery := hsound.recovering id task recovery htask hstage
    obtain ⟨htodo, hfailed⟩ := hrecovery.finished hfinished hcompleted
    rcases hrecovery.resolved hcompleted container hmem with hpending | hbad | hremoved | hrest
    · rw [htodo] at hpending
      cases hpending
    · rw [hfailed] at hbad
      cases hbad
    · exact Or.inl ⟨hremoved, (hrecovery.removed container hremoved).2⟩
    · exact Or.inr hrest

end Safety

section Sample

def sampleJobUuid : Uuid := ⟨"00000000000000000000000000000000", by decide, by decide⟩

def sampleContainerId : ContainerId :=
  "00000000000000000000000000000000ffffffffffffffffffffffffffffffff"

/-- An execution dies with its process after it has requested its container, and
a recovery in another process finds the container and issues its removal. -/
def abandonedJob : List SandboxLabel :=
  [.begin 0 0 "data" true, .recover 0 (.list .none), .execute 0 (.lease sampleJobUuid),
    .execute 0 .create, .begin 1 1 "data" false, .dies 0,
    .daemonCreates ⟨jobName sampleJobUuid, jobLabels "data" (jobName sampleJobUuid), 0⟩
      sampleContainerId,
    .recover 1 (.list .none), .recover 1 (.inspect .none), .recover 1 (.issue true)]

def sampleSandboxes : Option Sandboxes := (sandboxing id).run .start abandonedJob

theorem recovery_spares_live_jobs_abandoned :
    ∃ sandboxes, sampleSandboxes = some sandboxes ∧
      .byId 1 sampleContainerId ∈ sandboxes.removals ∧
      RemovesJob id sandboxes 1 sampleContainerId := by
  have hsome : sampleSandboxes.isSome = true := by decide +kernel
  have hissued : .byId 1 sampleContainerId ∈ (sampleSandboxes.get hsome).removals := by
    decide +kernel +revert
  exact ⟨_, (Option.some_get hsome).symm, hissued,
    (recovery_spares_live_jobs id Function.injective_id (Option.some_get hsome).symm).1 1
      sampleContainerId hissued⟩

end Sample

end Aidlc
