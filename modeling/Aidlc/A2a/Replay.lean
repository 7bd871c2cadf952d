import Mathlib.Data.List.Nodup
import Mathlib.Logic.Relation
import Aidlc.A2a.Gates

/-! # Replayed streams

The answer to a repeated message is a stream made from snapshots of the stored task:
the first one whole, then the artifacts with new identifiers and the status where it
changed. Whoever folds the stream knows of each artifact what the first snapshot that
had it showed.
-/

namespace Aidlc

open Foundation

/-- The status of a task: its state, and its message and timestamp. -/
structure StreamStatus where
  state : TaskState
  rest : String
  deriving DecidableEq

/-- What a stream conveys of a task. No two artifacts share an identifier. -/
@[ext] structure StreamTask (Content : Type) where
  status : StreamStatus
  artifacts : List (String × Content)
  nodup : (artifacts.map Prod.fst).Nodup

inductive StreamEvent (Content : Type) where
  | task (task : StreamTask Content)
  | artifact (id : String) (content : Content)
  | status (status : StreamStatus)

/-- `INTERRUPTING_STATES` -/
def interruptingStates : List TaskState :=
  [.completed, .failed, .canceled, .rejected, .inputRequired, .authRequired]

namespace StreamTask

variable {Content : Type}

def ids (task : StreamTask Content) : List String := task.artifacts.map Prod.fst

def isInterrupting (task : StreamTask Content) : Bool := task.status.state ∈ interruptingStates

theorem ids_set (artifacts : List (String × Content)) (id : String) (content : Content) :
    (artifacts.map fun artifact => if artifact.1 = id then (id, content) else artifact).map
      Prod.fst = artifacts.map Prod.fst := by
  rw [List.map_map]
  refine List.map_congr_left fun artifact _ => ?_
  by_cases hid : artifact.1 = id
  · simp [hid]
  · simp [hid]

/-- An artifact takes the place of the one with its identifier, or the last place. -/
def put (task : StreamTask Content) (id : String) (content : Content) : StreamTask Content where
  status := task.status
  artifacts :=
    if id ∈ task.ids then
      task.artifacts.map fun artifact => if artifact.1 = id then (id, content) else artifact
    else task.artifacts ++ [(id, content)]
  nodup := by
    split
    next => rw [ids_set]; exact task.nodup
    next hnew =>
      rw [List.map_append, List.nodup_append]
      refine ⟨task.nodup, List.nodup_singleton _, ?_⟩
      rintro other hother last hlast rfl
      rw [List.map_singleton, List.mem_singleton] at hlast
      subst hlast
      exact hnew hother

/-- What is known after an event. -/
def receive (known : Option (StreamTask Content)) : StreamEvent Content → Option (StreamTask Content)
  | .task task => some task
  | .artifact id content => known.map fun task => task.put id content
  | .status status => known.map fun task => { task with status }

/-- The events of one poll, where artifacts with these identifiers were seen before. -/
def pollEvents (seen : List String) (task latest : StreamTask Content) :
    List (StreamEvent Content) :=
  (latest.artifacts.filter fun artifact => artifact.1 ∉ seen).map
      (fun artifact => .artifact artifact.1 artifact.2) ++
    if latest.status = task.status then [] else [.status latest.status]

/-- The loop of `_replay` over what its polls find. -/
def pollLoop (seen : List String) (task : StreamTask Content) :
    List (StreamTask Content) → List (StreamEvent Content)
  | [] => []
  | latest :: later =>
    if task.isInterrupting then []
    else pollEvents seen task latest ++ pollLoop (seen ++ latest.ids) latest later

/-- `_replay` of a snapshot and what its polls find. -/
def replay (task : StreamTask Content) (polls : List (StreamTask Content)) :
    List (StreamEvent Content) :=
  .task task :: pollLoop task.ids task polls

/-- One change of the stored task. -/
inductive Writes : StreamTask Content → StreamTask Content → Prop
  | status (task : StreamTask Content) (status : StreamStatus) : Writes task { task with status }
  | artifact (task : StreamTask Content) (id : String) (content : Content) :
      Writes task (task.put id content)

/-- Any number of changes, as between two polls. -/
def Evolves : StreamTask Content → StreamTask Content → Prop := Relation.ReflTransGen Writes

/-- Polls of an evolving task: only the last one finds it interrupted. -/
inductive Polled : StreamTask Content → List (StreamTask Content) → StreamTask Content → Prop
  | ended {task : StreamTask Content} (hended : task.isInterrupting = true) : Polled task [] task
  | waited {task latest final : StreamTask Content} {later : List (StreamTask Content)}
      (hwaiting : task.isInterrupting = false) (hevolves : Evolves task latest)
      (hlater : Polled latest later final) : Polled task (latest :: later) final

/-- What the first of these snapshots that has the artifact shows. -/
def firstShown (snapshots : List (StreamTask Content)) (id : String) : Option Content :=
  snapshots.findSome? fun task => task.artifacts.lookup id

/-- How often an artifact is delivered. -/
def deliveries (events : List (StreamEvent Content)) (id : String) : Nat :=
  events.countP fun event =>
    match event with
    | .artifact other _ => other == id
    | _ => false

variable {task latest final known told : StreamTask Content} {id : String} {content : Content}
  {later : List (StreamTask Content)}

/-! ## Artifacts keep their places -/

theorem ids_put : (task.put id content).ids =
    if id ∈ task.ids then task.ids else task.ids ++ [id] := by
  unfold ids put
  dsimp only
  by_cases hid : id ∈ task.artifacts.map Prod.fst
  · rw [if_pos (show id ∈ task.ids from hid), if_pos hid, ids_set]
  · rw [if_neg (show id ∉ task.ids from hid), if_neg hid, List.map_append, List.map_singleton]

theorem ids_of_writes (hwrites : Writes task latest) : task.ids <+: latest.ids := by
  cases hwrites with
  | status status => exact List.prefix_refl _
  | artifact id content =>
      rw [ids_put]
      split
      next => exact List.prefix_refl _
      next => exact List.prefix_append _ _

theorem ids_of_evolves (hevolves : Evolves task latest) : task.ids <+: latest.ids := by
  induction hevolves with
  | refl => exact List.prefix_refl _
  | tail _ hwrites ih => exact ih.trans (ids_of_writes hwrites)

theorem Polled.ids (hpolled : Polled task later final) : task.ids <+: final.ids := by
  induction hpolled with
  | ended hended => exact List.prefix_refl _
  | waited hwaiting hevolves hlater ih => exact (ids_of_evolves hevolves).trans ih

/-! ## Looking artifacts up -/

section Lookup

variable {artifacts other : List (String × Content)}

theorem lookup_none (hid : id ∉ artifacts.map Prod.fst) : artifacts.lookup id = none := by
  rw [List.lookup_eq_none_iff]
  intro artifact hmem
  rw [bne_iff_ne]
  exact fun heq => hid (List.mem_map.mpr ⟨artifact, hmem, heq.symm⟩)

theorem lookup_mem (hnodup : (artifacts.map Prod.fst).Nodup) (hmem : (id, content) ∈ artifacts) :
    artifacts.lookup id = some content := by
  induction artifacts with
  | nil => cases hmem
  | cons artifact rest ih =>
      rw [List.map_cons, List.nodup_cons] at hnodup
      rw [List.lookup_cons]
      rcases List.mem_cons.mp hmem with rfl | hrest
      · rw [beq_self_eq_true]
      · have hne : id ≠ artifact.1 := fun heq =>
          hnodup.1 (heq ▸ List.mem_map_of_mem hrest)
        rw [beq_eq_false_iff_ne.mpr hne]
        exact ih hnodup.2 hrest

/-- Two lists with the same identifiers are the same where they are looked up alike. -/
theorem eq_of_lookup (hids : artifacts.map Prod.fst = other.map Prod.fst)
    (hnodup : (other.map Prod.fst).Nodup)
    (hlookup : ∀ artifact ∈ other, artifacts.lookup artifact.1 = some artifact.2) :
    artifacts = other := by
  refine List.ext_getElem (by simpa using congrArg List.length hids) fun index hfirst hsecond => ?_
  have hid : artifacts[index].1 = other[index].1 := by
    have hget := congrArg (fun ids => ids[index]?) hids
    simpa [hfirst, hsecond] using hget
  have hnodup' : (artifacts.map Prod.fst).Nodup := hids ▸ hnodup
  have hown : artifacts.lookup artifacts[index].1 = some artifacts[index].2 :=
    lookup_mem hnodup' (List.getElem_mem hfirst)
  have hsame := hlookup other[index] (List.getElem_mem hsecond)
  rw [← hid, hown, Option.some.injEq] at hsame
  exact Prod.ext hid hsame

theorem lookup_filter {seen : List String} :
    (artifacts.filter fun artifact => artifact.1 ∉ seen).lookup id =
      if id ∈ seen then none else artifacts.lookup id := by
  induction artifacts with
  | nil => simp
  | cons artifact rest ih =>
      rw [List.filter_cons, List.lookup_cons]
      by_cases hartifact : artifact.1 ∈ seen
      · rw [if_neg (by simpa using hartifact), ih]
        by_cases hid : id ∈ seen
        · rw [if_pos hid, if_pos hid]
        · have hne : id ≠ artifact.1 := fun heq => hid (heq ▸ hartifact)
          rw [if_neg hid, if_neg hid, beq_eq_false_iff_ne.mpr hne]
      · rw [if_pos (by simpa using hartifact), List.lookup_cons, ih]
        by_cases hid : id = artifact.1
        · have hseen : id ∉ seen := hid ▸ hartifact
          rw [if_neg hseen, if_neg hseen]
        · rw [beq_eq_false_iff_ne.mpr hid]

end Lookup

/-! ## Folding a stream -/

theorem firstShown_cons (snapshots : List (StreamTask Content)) :
    firstShown (task :: snapshots) id =
      (task.artifacts.lookup id).or (firstShown snapshots id) := by
  unfold firstShown
  rw [List.findSome?_cons]
  cases task.artifacts.lookup id <;> rfl

/-- New artifacts are put after the known ones. -/
theorem receive_fresh (fresh : List (String × Content)) (hnodup : (fresh.map Prod.fst).Nodup)
    (hnew : ∀ artifact ∈ fresh, artifact.1 ∉ known.ids) :
    ∃ told : StreamTask Content,
      (fresh.map fun artifact => .artifact artifact.1 artifact.2).foldl receive (some known) =
        some told ∧
      told.status = known.status ∧ told.artifacts = known.artifacts ++ fresh := by
  induction fresh generalizing known with
  | nil => exact ⟨known, rfl, rfl, (List.append_nil _).symm⟩
  | cons artifact rest ih =>
      rw [List.map_cons, List.nodup_cons] at hnodup
      have hput : (known.put artifact.1 artifact.2).artifacts =
          known.artifacts ++ [(artifact.1, artifact.2)] :=
        if_neg (hnew artifact List.mem_cons_self)
      obtain ⟨told, hfold, hstatus, hartifacts⟩ :=
        @ih (known.put artifact.1 artifact.2) hnodup.2 (by
          intro other hother
          rw [ids_put, if_neg (hnew artifact List.mem_cons_self), List.mem_append,
            List.mem_singleton, not_or]
          exact ⟨hnew other (List.mem_cons_of_mem _ hother),
            fun heq => hnodup.1 (heq ▸ List.mem_map_of_mem hother)⟩)
      refine ⟨told, hfold, hstatus, ?_⟩
      rw [hartifacts, hput, List.append_assoc]
      rfl

/-- The artifacts that a poll delivers are those after the ones it knew. -/
theorem ids_append_fresh {seen : List String} (hseen : ∀ id, id ∈ seen ↔ id ∈ task.ids)
    (hids : task.ids <+: latest.ids) :
    task.ids ++ (latest.artifacts.filter fun artifact => artifact.1 ∉ seen).map Prod.fst =
      latest.ids := by
  have hfilter : (latest.artifacts.filter fun artifact => artifact.1 ∉ seen).map Prod.fst =
      latest.ids.filter fun id => id ∉ task.ids := by
    unfold ids
    rw [List.filter_map]
    congr 1
    refine List.filter_congr fun artifact _ => ?_
    exact decide_eq_decide.mpr (not_congr (hseen artifact.1))
  obtain ⟨fresh, hfresh⟩ := hids
  have hnodup : (task.ids ++ fresh).Nodup := hfresh ▸ latest.nodup
  rw [hfilter, ← hfresh, List.filter_append]
  have hold : (task.ids.filter fun id => id ∉ task.ids) = [] := by
    rw [List.filter_eq_nil_iff]
    simp
  have hkept : (fresh.filter fun id => id ∉ task.ids) = fresh := by
    rw [List.filter_eq_self]
    intro id hid
    exact decide_eq_true fun hmem => (List.nodup_append.mp hnodup).2.2 id hmem id hid rfl
  rw [hold, hkept, List.nil_append]

/-- A poll tells the status and the identifiers of its snapshot, and the contents of
the artifacts that were not known. -/
theorem receive_poll {seen : List String} {told task latest : StreamTask Content}
    (hstatus : told.status = task.status) (hids : told.ids = task.ids)
    (hseen : ∀ id, id ∈ seen ↔ id ∈ task.ids) (hgrows : task.ids <+: latest.ids) :
    ∃ next : StreamTask Content,
      (pollEvents seen task latest).foldl receive (some told) = some next ∧
      next.status = latest.status ∧ next.ids = latest.ids ∧
      ∀ id, next.artifacts.lookup id =
        (told.artifacts.lookup id).or (latest.artifacts.lookup id) := by
  obtain ⟨grown, hfold, hkept, hartifacts⟩ := @receive_fresh Content told
    (latest.artifacts.filter fun artifact => artifact.1 ∉ seen)
    (latest.nodup.sublist (List.filter_sublist.map _)) (by
      intro artifact hartifact
      rw [hids, ← hseen]
      simpa using (List.mem_filter.mp hartifact).2)
  have hgrown : grown.ids = latest.ids := by
    rw [ids, hartifacts, List.map_append]
    exact (congrArg (· ++ _) hids).trans (ids_append_fresh hseen hgrows)
  have hlookup (id : String) : grown.artifacts.lookup id =
      (told.artifacts.lookup id).or (latest.artifacts.lookup id) := by
    rw [hartifacts, List.lookup_append, lookup_filter]
    by_cases hid : id ∈ seen
    · rw [if_pos hid]
      have hknown : id ∈ told.ids := hids ▸ (hseen id).mp hid
      obtain ⟨artifact, hmem, rfl⟩ := List.mem_map.mp hknown
      rw [lookup_mem told.nodup hmem]
      rfl
    · rw [if_neg hid]
  unfold pollEvents
  rw [List.foldl_append, hfold]
  by_cases hsame : latest.status = task.status
  · rw [if_pos hsame]
    exact ⟨grown, rfl, by rw [hkept, hstatus, hsame], hgrown, hlookup⟩
  · rw [if_neg hsame]
    exact ⟨{ grown with status := latest.status }, rfl, rfl, hgrown, hlookup⟩

/-- The stream tells the final status and identifiers, and of each artifact what was
first shown of it. -/
theorem receive_pollLoop (hpolled : Polled task later final) {seen : List String}
    {told : StreamTask Content} (hstatus : told.status = task.status)
    (hids : told.ids = task.ids) (hseen : ∀ id, id ∈ seen ↔ id ∈ task.ids) :
    ∃ next : StreamTask Content,
      (pollLoop seen task later).foldl receive (some told) = some next ∧
      next.status = final.status ∧ next.ids = final.ids ∧
      ∀ id, next.artifacts.lookup id =
        (told.artifacts.lookup id).or (firstShown later id) := by
  induction hpolled generalizing seen told with
  | ended hended => exact ⟨told, rfl, hstatus, hids, fun id => (Option.or_none).symm⟩
  | @waited task latest final later hwaiting hevolves hlater ih =>
      obtain ⟨grown, hfold, hgrownStatus, hgrownIds, hgrown⟩ :=
        receive_poll hstatus hids hseen (ids_of_evolves hevolves)
      obtain ⟨next, hnext, hnextStatus, hnextIds, hlookup⟩ :=
        @ih (seen ++ latest.ids) grown hgrownStatus hgrownIds (by
          intro id
          rw [List.mem_append, hseen]
          exact or_iff_right_of_imp fun hid => (ids_of_evolves hevolves).subset hid)
      refine ⟨next, ?_, hnextStatus, hnextIds, ?_⟩
      · rw [pollLoop, hwaiting, if_neg Bool.false_ne_true, List.foldl_append, hfold, hnext]
      · intro id
        rw [hlookup, hgrown, Option.or_assoc, firstShown_cons]

/-! ## Deliveries -/

theorem deliveries_append (first second : List (StreamEvent Content)) :
    deliveries (first ++ second) id = deliveries first id + deliveries second id :=
  List.countP_append

/-- A poll delivers what was not known, once. -/
theorem deliveries_poll {seen : List String} :
    deliveries (pollEvents seen task latest) id =
      if id ∈ latest.ids ∧ id ∉ seen then 1 else 0 := by
  have hstatus : deliveries (if latest.status = task.status then [] else
      [.status latest.status] : List (StreamEvent Content)) id = 0 := by
    split <;> rfl
  unfold pollEvents
  rw [deliveries_append, hstatus, Nat.add_zero, deliveries, List.countP_map, List.countP_filter]
  have hcount : latest.artifacts.countP (fun artifact => artifact.1 == id && artifact.1 ∉ seen) =
      if id ∉ seen then latest.ids.count id else 0 := by
    unfold ids List.count
    rw [List.countP_map]
    split
    next hnew =>
      refine List.countP_congr fun artifact _ => ?_
      by_cases hid : artifact.1 = id
      · simp [hid, hnew]
      · simp [hid]
    next hold =>
      rw [List.countP_eq_zero]
      intro artifact _ hboth
      rw [Bool.and_eq_true, beq_iff_eq, decide_eq_true_eq] at hboth
      exact hold (hboth.1 ▸ hboth.2)
  refine hcount.trans ?_
  by_cases hnew : id ∈ seen
  · rw [if_neg (not_not_intro hnew), if_neg fun hboth => hboth.2 hnew]
  · rw [if_pos hnew]
    by_cases hid : id ∈ latest.ids
    · rw [if_pos ⟨hid, hnew⟩]
      exact List.count_eq_one_of_mem latest.nodup hid
    · rw [if_neg fun hboth => hid hboth.1, List.count_eq_zero_of_not_mem hid]

/-- Each artifact that the first snapshot did not have is delivered once. -/
theorem deliveries_pollLoop (hpolled : Polled task later final) {seen : List String}
    (hseen : ∀ id, id ∈ seen ↔ id ∈ task.ids) :
    deliveries (pollLoop seen task later) id = if id ∈ final.ids ∧ id ∉ task.ids then 1 else 0 := by
  induction hpolled generalizing seen with
  | ended hended => rw [if_neg fun hboth => hboth.2 hboth.1]; rfl
  | @waited task latest final later hwaiting hevolves hlater ih =>
      have hgrows := (ids_of_evolves hevolves).subset
      have hkept := hlater.ids.subset
      rw [pollLoop, hwaiting, if_neg Bool.false_ne_true, deliveries_append, deliveries_poll,
        ih (by
          intro id
          rw [List.mem_append, hseen]
          exact or_iff_right_of_imp fun hid => hgrows hid)]
      by_cases hold : id ∈ task.ids
      · have hlatest : id ∈ latest.ids := hgrows hold
        have hsaw : id ∈ seen := (hseen id).mpr hold
        simp [hold, hlatest, hsaw]
      · have hnew : id ∉ seen := fun hsaw => hold ((hseen id).mp hsaw)
        by_cases hlatest : id ∈ latest.ids
        · have hfinal : id ∈ final.ids := hkept hlatest
          simp [hold, hlatest, hfinal, hnew]
        · simp [hold, hlatest]

/-! ## What a replay conveys -/

/-- A replay ends with the final status, and delivers each new artifact once. It conveys
the final task exactly where no artifact was replaced after the first snapshot with it. -/
theorem replay_conveys_iff (hpolled : Polled task later final) :
    ((∃ told, (replay task later).foldl receive none = some told ∧
        told.status = final.status ∧ told.artifacts = final.artifacts) ∧
      ∀ id ∈ final.ids, id ∉ task.ids → deliveries (replay task later) id = 1) ↔
      ∀ artifact ∈ final.artifacts,
        firstShown (task :: later) artifact.1 = some artifact.2 := by
  obtain ⟨told, hfold, hstatus, hids, hlookup⟩ :=
    receive_pollLoop hpolled rfl rfl fun id => Iff.rfl
  have hreplay : (replay task later).foldl receive none = some told := hfold
  have hshown (id : String) : told.artifacts.lookup id = firstShown (task :: later) id := by
    rw [hlookup, firstShown_cons]
  constructor
  · rintro ⟨⟨conveyed, hconveyed, -, hartifacts⟩, -⟩ artifact hartifact
    rw [hreplay, Option.some.injEq] at hconveyed
    subst hconveyed
    rw [← hshown, hartifacts]
    exact lookup_mem final.nodup hartifact
  · intro hkept
    refine ⟨⟨told, hreplay, hstatus, ?_⟩, ?_⟩
    · refine eq_of_lookup hids final.nodup fun artifact hartifact => ?_
      rw [hshown]
      exact hkept artifact hartifact
    · intro id hfinal hnew
      have hloop : deliveries (replay task later) id = deliveries (pollLoop task.ids task later) id :=
        rfl
      rw [hloop, deliveries_pollLoop hpolled fun id => Iff.rfl, if_pos ⟨hfinal, hnew⟩]

def sampleSubmitted : StreamTask String := ⟨⟨.submitted, ""⟩, [], List.nodup_nil⟩

def sampleCompleted : StreamTask String :=
  ⟨⟨.completed, ""⟩, [("result", "specification")], List.nodup_singleton _⟩

theorem replay_conveys_sample :
    (∃ told, (replay sampleSubmitted [sampleCompleted]).foldl receive none = some told ∧
      told.status = sampleCompleted.status ∧ told.artifacts = sampleCompleted.artifacts) ∧
    ∀ id ∈ sampleCompleted.ids, id ∉ sampleSubmitted.ids →
      deliveries (replay sampleSubmitted [sampleCompleted]) id = 1 := by
  have hpublished : Evolves sampleSubmitted sampleCompleted :=
    (Relation.ReflTransGen.single (.artifact sampleSubmitted "result" "specification")).tail
      (.status _ ⟨.completed, ""⟩)
  have hpolled : Polled sampleSubmitted [sampleCompleted] sampleCompleted :=
    .waited (by decide) hpublished (.ended (by decide))
  exact (replay_conveys_iff hpolled).mpr (by decide)

end StreamTask

/-! ## Tasks of a server -/

namespace AgentTask

/-- The part of a stored task that a stream conveys. Every result is published under the
same identifier. -/
def stream (task : AgentTask) : StreamTask AgentResult where
  status := ⟨task.state, task.detail⟩
  artifacts := (task.artifact.map fun result => (toString task.id ++ ":result", result)).toList
  nodup := by
    cases task.artifact with
    | none => exact List.nodup_nil
    | some result => exact List.nodup_singleton _

end AgentTask

namespace AgentServer

open StreamTask TaskStore

variable {server next : AgentServer} {owner : String} {key : String × TaskId}
  {stored task later : AgentTask}

theorem evolves_state (state : TaskState) (detail : String) :
    Evolves task.stream ({ task with state, detail } : AgentTask).stream :=
  .single (.status task.stream ⟨state, detail⟩)

theorem evolves_publish (result : AgentResult) :
    Evolves task.stream ({ task with artifact := some result } : AgentTask).stream := by
  have hput : ({ task with artifact := some result } : AgentTask).stream =
      task.stream.put (toString task.id ++ ":result") result := by
    apply StreamTask.ext
    · rfl
    · cases hartifact : task.artifact <;> simp [AgentTask.stream, put, ids, hartifact]
  rw [hput]
  exact .single (.artifact _ _ _)

/-- Saving a later version of one task leaves the others unchanged. -/
theorem evolves_saved (htasks : next.store.tasks = (server.store.save owner later).tasks)
    (hstored : ∀ stored, server.store.tasks (owner, later.id) = some stored →
      Evolves stored.stream later.stream)
    (hbefore : server.store.tasks key = some task) :
    ∃ saved, next.store.tasks key = some saved ∧ Evolves task.stream saved.stream := by
  rw [htasks]
  by_cases hkey : key = (owner, later.id)
  · subst hkey
    exact ⟨later, save_tasks_self _ _ _, hstored task hbefore⟩
  · exact ⟨task, (save_tasks_of_ne hkey).trans hbefore, .refl⟩

variable {platform : AgentPlatform} {settings : GateSettings} {stage : StageName}
  {label : ServerLabel}

/-- A step of the server changes a stored task by its status or its result. -/
theorem evolves_step (hsound : server.Sound)
    (houtcome : ServerOutcome platform settings stage server label next)
    (hbefore : server.store.tasks key = some task) :
    ∃ saved, next.store.tasks key = some saved ∧ Evolves task.stream saved.stream := by
  cases houtcome with
  | unchanged => exact ⟨task, hbefore, .refl⟩
  | reserved request freshContext reservedTask store hreserved =>
      cases hreserved with
      | continued taskId stored hfresh hmessage htask hcontext hwaiting =>
          cases hsound.task_id htask
          refine evolves_saved rfl (fun other hother => ?_) hbefore
          cases htask.symm.trans hother
          exact evolves_state .submitted stored.detail
      | created hfresh hmessage =>
          refine evolves_saved rfl (fun other hother => ?_) hbefore
          obtain ⟨hid, hlt⟩ := hsound.identified _ _ hother
          exact (Nat.lt_irrefl _ (hid ▸ hlt)).elim
  | started taskId execution found hexecution hphase htask =>
      cases hsound.task_id htask
      refine evolves_saved rfl (fun other hother => ?_) hbefore
      cases htask.symm.trans hother
      exact evolves_state .working ""
  | failed taskId handled execution prior found detail hexecution hphase htask =>
      cases hsound.task_id htask
      refine evolves_saved rfl (fun other hother => ?_) hbefore
      cases htask.symm.trans hother
      exact evolves_state .failed detail
  | published taskId handled execution prior found result hexecution hphase htask hresult =>
      cases hsound.task_id htask
      refine evolves_saved rfl (fun other hother => ?_) hbefore
      cases htask.symm.trans hother
      exact evolves_publish result
  | concluded taskId execution found prompted hexecution hphase htask =>
      cases hsound.task_id htask
      refine evolves_saved rfl (fun other hother => ?_) hbefore
      cases htask.symm.trans hother
      exact evolves_state _ ""
  | canceled holder taskId found htask hactive =>
      cases hsound.task_id htask
      refine evolves_saved rfl (fun other hother => ?_) hbefore
      cases htask.symm.trans hother
      exact evolves_state .canceled ""
  | restarted =>
      refine ⟨interrupted task, by simp [restart, recover, hbefore], ?_⟩
      unfold interrupted
      split
      next => exact evolves_state .failed "Agent process restarted"
      next => exact .refl

/-- A run of the server refines the evolution of each stored task. -/
theorem evolves_of_run (hsound : server.Sound) {labels : List ServerLabel}
    (hrun : (agentServer platform settings stage).run server labels = some next)
    (hbefore : server.store.tasks key = some task) :
    next.Sound ∧ ∃ saved, next.store.tasks key = some saved ∧ Evolves task.stream saved.stream := by
  obtain ⟨image, hevolves, hnext, saved, hsaved, rfl⟩ :=
    (agentServer platform settings stage).run_simulates Writes
      (fun server image => server.Sound ∧
        ∃ task, server.store.tasks key = some task ∧ task.stream = image)
      (fun _ => True)
      (by
        rintro server label next image - ⟨hsound, task, htask, rfl⟩ hstep
        have houtcome := outcome_of_serverStep hstep
        obtain ⟨saved, hsaved, hevolves⟩ := evolves_step hsound houtcome htask
        exact ⟨saved.stream, hevolves, hsound.step houtcome, saved, hsaved, rfl⟩)
      (fun _ _ => trivial) ⟨hsound, task, hbefore, rfl⟩ hrun
  exact ⟨hnext, saved, hsaved, hevolves⟩

/-- The polls of a stored task, the server running in between. -/
inductive Polls (platform : AgentPlatform) (settings : GateSettings) (stage : StageName)
    (key : String × TaskId) :
    AgentServer → AgentTask → List (StreamTask AgentResult) → AgentTask → Prop
  | ended {server : AgentServer} {task : AgentTask}
      (hended : task.stream.isInterrupting = true) :
      Polls platform settings stage key server task [] task
  | waited {server next : AgentServer} {task latest final : AgentTask}
      {polls : List (StreamTask AgentResult)} {labels : List ServerLabel}
      (hwaiting : task.stream.isInterrupting = false)
      (hrun : (agentServer platform settings stage).run server labels = some next)
      (hlatest : next.store.tasks key = some latest)
      (hlater : Polls platform settings stage key next latest polls final) :
      Polls platform settings stage key server task (latest.stream :: polls) final

/-- The polls of a server find an evolving task. -/
theorem polled_of_polls {polls : List (StreamTask AgentResult)} {final : AgentTask}
    (hpolls : Polls platform settings stage key server task polls final) (hsound : server.Sound)
    (htask : server.store.tasks key = some task) :
    Polled task.stream polls final.stream := by
  induction hpolls with
  | ended hended => exact .ended hended
  | waited hwaiting hrun hlatest hlater ih =>
      obtain ⟨hnext, saved, hsaved, hevolves⟩ := evolves_of_run hsound hrun htask
      rw [hlatest, Option.some.injEq] at hsaved
      subst hsaved
      exact .waited hwaiting hevolves (ih hnext hlatest)

/-- The approval of a draft, as it is sent twice. -/
def sampleContinuation : AgentMessage :=
  ⟨.other "second", some 0, "context", .data (some { sampleContext with
    humanResponse := some (.obj [("artifact_sha256", .str "draft"), ("decision", .str "approve")]) }),
    ""⟩

/-- The server when the approval has been reserved. -/
def sampleAnswered : Option AgentServer :=
  (agentServer sampleAgentPlatform {} .requirements).run .empty (approvedDraft.take 5)

def sampleApproved : Option AgentServer :=
  sampleAnswered.bind fun server =>
    (agentServer sampleAgentPlatform {} .requirements).run server (approvedDraft.drop 5)

/-- A repeated approval is answered with the draft, and never told of the result that
took its place. -/
theorem approval_not_conveyed : ∃ server task final,
    (agentServer sampleAgentPlatform {} .requirements).run .empty (approvedDraft.take 5) =
      some server ∧
    (server.store.reserve sampleAgentPlatform.fingerprint "" sampleContinuation
      "fresh").toOption.map Prod.fst = some (task, false) ∧
    Polls sampleAgentPlatform {} .requirements ("", 0) server task [final.stream] final ∧
    ¬ ∃ told, (replay task.stream [final.stream]).foldl receive none = some told ∧
      told.status = final.stream.status ∧ told.artifacts = final.stream.artifacts := by
  have hanswered : sampleAnswered.isSome = true := by decide +kernel
  have hnext : sampleApproved.isSome = true := by decide +kernel
  have htask : ((sampleAnswered.get hanswered).store.tasks ("", 0)).isSome = true := by
    decide +kernel +revert
  have hfinal : ((sampleApproved.get hnext).store.tasks ("", 0)).isSome = true := by
    decide +kernel +revert
  have hrepeated : ((sampleAnswered.get hanswered).store.reserve sampleAgentPlatform.fingerprint
      "" sampleContinuation "fresh").toOption.map Prod.fst =
      some (((sampleAnswered.get hanswered).store.tasks ("", 0)).get htask, false) := by
    decide +kernel +revert
  have hwaiting : (((sampleAnswered.get hanswered).store.tasks ("", 0)).get
      htask).stream.isInterrupting = false := by decide +kernel +revert
  have hended : (((sampleApproved.get hnext).store.tasks ("", 0)).get
      hfinal).stream.isInterrupting = true := by decide +kernel +revert
  have hdraft : ((replay (((sampleAnswered.get hanswered).store.tasks ("", 0)).get htask).stream
      [(((sampleApproved.get hnext).store.tasks ("", 0)).get hfinal).stream]).foldl receive
      none).map StreamTask.artifacts ≠
      some (((sampleApproved.get hnext).store.tasks ("", 0)).get hfinal).stream.artifacts := by
    decide +kernel +revert
  have hrun := (Option.some_get hanswered).symm
  have hlater : (agentServer sampleAgentPlatform {} .requirements).run
      (sampleAnswered.get hanswered) (approvedDraft.drop 5) = some (sampleApproved.get hnext) := by
    obtain ⟨server, hserver, happroved⟩ :=
      Option.bind_eq_some_iff.mp (Option.some_get hnext).symm
    exact Option.some.inj (hserver.symm.trans hrun) ▸ happroved
  refine ⟨sampleAnswered.get hanswered, _, _, hrun, hrepeated,
    .waited hwaiting hlater (Option.some_get hfinal).symm (.ended hended), ?_⟩
  rintro ⟨told, htold, -, hartifacts⟩
  rw [htold] at hdraft
  exact hdraft (congrArg some hartifacts)

end AgentServer

end Aidlc
