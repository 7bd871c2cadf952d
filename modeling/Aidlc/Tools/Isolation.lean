import Aidlc.Foundation.Effects
import Aidlc.Tools.Analysis

/-! # Authorised, bounded, and isolated analyses

The analyzer works only for calls that were permitted twice and are bound to a
stored source, at most as many at a time as there are slots. A report is read
only by the principal whose call saved it, and the calls of other principals
make no difference to what a principal reads.
-/

namespace Aidlc

open Foundation

variable (platform : Platform) (settings : AnalysisSettings)

/-- The source of a call is that of the stored artifact the request names. -/
structure SourceBound (view : StoreView) (work : AnalysisWork) : Prop where
  stored : view.database.getArtifact work.request.artifactId = some work.record
  named : work.record.metadata.artifactId = work.request.artifactId
  kind : work.record.metadata.kind = .codeChange ∨ work.record.metadata.kind = .integratedSource
  hash : work.record.metadata.contentSha256 = work.request.contentSha256
  content : ∃ content, view.files.readContent platform work.record = .ok content ∧
    platform.sha256 content = work.request.contentSha256 ∧
    SourceBundle.validate content = .ok work.job.source

/-- The call arrived with a permitted token and found its source. -/
def Arrived (labels : List AnalysisLabel) (id : CallId) (work : AnalysisWork) : Prop :=
  ∃ now view refusals, .arrive id work.request (some work.token) now view refusals ∈ labels ∧
    permitted now (some work.token) "analysis:run" = true ∧ SourceBound platform view work

/-- The call arrived so, and was permitted again when it got its slot. -/
def Authorised (labels : List AnalysisLabel) (id : CallId) (work : AnalysisWork) : Prop :=
  ∃ now view refusals later,
    [.arrive id work.request (some work.token) now view refusals,
      .acquire id later].Sublist labels ∧
    permitted now (some work.token) "analysis:run" = true ∧ SourceBound platform view work ∧
    permitted later (some work.token) "analysis:run" = true

/-- The report was saved when an analyzer returned to a call of this token. -/
def SavedBy (labels : List AnalysisLabel) (token : AccessToken) (report : AnalysisReport) : Prop :=
  ∃ id work result uuid now view arrival refusals database,
    [.arrive id work.request (some work.token) now view arrival,
      .complete id result uuid refusals database].Sublist labels ∧ refusals.save = none ∧
    work.token = token ∧ report = reportFor work result uuid

section Authorisation

variable {platform settings} {service next : AnalysisService} {labels : List AnalysisLabel}
  {id : CallId} {work : AnalysisWork}

/-- A source that is read is bound to its request. -/
theorem bound_of_readSource {view : StoreView} {refusals : Refusals} {caller : AccessToken}
    {request : AnalysisRequest} {record : ArtifactRecord} {source : SourceBundle}
    (hread : readSource platform view refusals request = .ok (record, source)) :
    SourceBound platform view ⟨caller, request, record, jobFor settings request source⟩ := by
  unfold readSource at hread
  obtain ⟨-, -, hread⟩ := except_bind_eq_ok.mp hread
  cases hstored : view.database.getArtifact request.artifactId with
  | none => simp [hstored] at hread
  | some found =>
      simp only [hstored] at hread
      split at hread
      · cases hread
      · split at hread
        · cases hread
        · cases hstat : view.stat found.contentPath with
          | none => simp [hstat] at hread
          | some stat =>
              simp only [hstat] at hread
              split at hread
              · cases hread
              · obtain ⟨-, -, hread⟩ := except_bind_eq_ok.mp hread
                obtain ⟨content, hcontent, hread⟩ := except_bind_eq_ok.mp hread
                obtain ⟨bundle, hbundle, hread⟩ := except_bind_eq_ok.mp hread
                cases hread
                have hkind : record.metadata.kind ∈ [.codeChange, .integratedSource] :=
                  not_not.mp ‹_›
                have hhash : record.metadata.contentSha256 = request.contentSha256 :=
                  not_not.mp ‹_›
                have hnamed := List.find?_some hstored
                refine ⟨hstored, beq_iff_eq.mp hnamed, ?_, hhash, content, hcontent, ?_, hbundle⟩
                · simpa using hkind
                · rw [digest_of_readContent hcontent, hhash]

/-- A call that has arrived stays so. -/
theorem Arrived.mono (harrived : Arrived platform labels id work) (label : AnalysisLabel) :
    Arrived platform (labels ++ [label]) id work := by
  obtain ⟨now, view, refusals, hmem, hrest⟩ := harrived
  exact ⟨now, view, refusals, List.mem_append_left _ hmem, hrest⟩

/-- What the calls and the reports of a service go back to. -/
structure Accounted (platform : Platform) (labels : List AnalysisLabel)
    (service : AnalysisService) : Prop where
  queued : ∀ id work, service.calls id = .queued work → Arrived platform labels id work
  running : ∀ id work, service.calls id = .running work → Authorised platform labels id work
  saved : ∀ row ∈ service.results, ∃ token, row.owner = principal token ∧
    row.analysisId = row.report.analysisId ∧ SavedBy labels token row.report

theorem Authorised.mono (hauthorised : Authorised platform labels id work)
    (label : AnalysisLabel) : Authorised platform (labels ++ [label]) id work := by
  obtain ⟨now, view, refusals, later, hsublist, hrest⟩ := hauthorised
  exact ⟨now, view, refusals, later, hsublist.trans (List.sublist_append_left _ _), hrest⟩

theorem SavedBy.mono {token : AccessToken} {report : AnalysisReport}
    (hsaved : SavedBy labels token report) (label : AnalysisLabel) :
    SavedBy (labels ++ [label]) token report := by
  obtain ⟨id, work, result, uuid, now, view, arrival, refusals, database, hsublist, hrest⟩ := hsaved
  exact ⟨id, work, result, uuid, now, view, arrival, refusals, database,
    hsublist.trans (List.sublist_append_left _ _), hrest⟩

theorem accounted_start (settings : AnalysisSettings) :
    Accounted platform [] (AnalysisService.start settings) where
  queued _ _ hcall := nomatch hcall
  running _ _ hcall := nomatch hcall
  saved _ hrow := nomatch hrow

/-- A result is saved under a fresh id, behind the others. -/
theorem saveResult_ok {results saved : List ResultRow} {owner : String} {report : AnalysisReport}
    (hsave : saveResult results owner report = .ok saved) :
    (∀ row ∈ results, row.analysisId ≠ report.analysisId) ∧
      saved = results ++ [⟨report.analysisId, owner, report⟩] := by
  unfold saveResult at hsave
  split at hsave
  · cases hsave
  · cases hsave
    refine ⟨fun row hrow heq => ?_, rfl⟩
    refine absurd (List.any_eq_true.mpr ⟨row, hrow, ?_⟩) ‹_›
    exact beq_iff_eq.mpr heq

/-- A call that moves on is accounted for, and the other calls still are. -/
theorem Accounted.moved (haccounted : Accounted platform labels service) {label : AnalysisLabel}
    {call : AnalysisCall} (hmoves : Moves service next id call)
    (hqueued : ∀ work, call = .queued work → Arrived platform (labels ++ [label]) id work)
    (hrunning : ∀ work, call = .running work → Authorised platform (labels ++ [label]) id work)
    (hsaved : ∀ row ∈ next.results, ∃ token, row.owner = principal token ∧
      row.analysisId = row.report.analysisId ∧ SavedBy (labels ++ [label]) token row.report) :
    Accounted platform (labels ++ [label]) next := by
  refine ⟨fun other work hcall => ?_, fun other work hcall => ?_, hsaved⟩
  · by_cases hother : other = id
    · subst hother
      exact hqueued work (hmoves.self.symm.trans hcall)
    · rw [hmoves.other hother] at hcall
      exact (haccounted.queued other work hcall).mono label
  · by_cases hother : other = id
    · subst hother
      exact hrunning work (hmoves.self.symm.trans hcall)
    · rw [hmoves.other hother] at hcall
      exact (haccounted.running other work hcall).mono label

/-- Steps that save nothing keep the saved reports accounted for. -/
theorem Accounted.reports (haccounted : Accounted platform labels service)
    (label : AnalysisLabel) (hresults : next.results = service.results) :
    ∀ row ∈ next.results, ∃ token, row.owner = principal token ∧
      row.analysisId = row.report.analysisId ∧ SavedBy (labels ++ [label]) token row.report := by
  intro row hrow
  rw [hresults] at hrow
  obtain ⟨token, howner, hid, hsaved⟩ := haccounted.saved row hrow
  exact ⟨token, howner, hid, hsaved.mono label⟩

/-- Every step keeps the calls and the reports accounted for. -/
theorem Accounted.step (haccounted : Accounted platform labels service) {label : AnalysisLabel}
    (hstep : (analysis platform settings).step service label = some next) :
    Accounted platform (labels ++ [label]) next := by
  cases progress_of_step hstep with
  | queued hpermitted hread hmoves hresults =>
      refine haccounted.moved hmoves (fun work hwork => ?_) (fun _ hcall => nomatch hcall)
        (haccounted.reports _ hresults)
      cases hwork
      exact ⟨_, _, _, List.mem_append_right _ List.mem_cons_self, hpermitted,
        bound_of_readSource hread⟩
  | started hqueued hpermitted hmoves hresults =>
      refine haccounted.moved hmoves (fun _ hcall => nomatch hcall) (fun work hwork => ?_)
        (haccounted.reports _ hresults)
      cases hwork
      obtain ⟨now, view, refusals, hmem, harrival, hbound⟩ := haccounted.queued _ _ hqueued
      refine ⟨now, view, refusals, _, ?_, harrival, hbound, hpermitted⟩
      exact (List.singleton_sublist.mpr hmem).append (List.Sublist.refl _)
  | @saved id result uuid refusals database work outcome hrunning hgranted hsave hmoves =>
      refine haccounted.moved hmoves (fun _ hcall => nomatch hcall)
        (fun _ hcall => nomatch hcall) (fun row hrow => ?_)
      rw [(saveResult_ok hsave).2] at hrow
      rcases List.mem_append.mp hrow with hold | hnew
      · exact haccounted.reports _ rfl row hold
      · rw [List.mem_singleton] at hnew
        subst hnew
        obtain ⟨now, view, arrival, later, hsublist, -⟩ := haccounted.running _ _ hrunning
        have hmem := hsublist.subset List.mem_cons_self
        refine ⟨work.token, rfl, rfl, id, work, result, uuid, now, view, arrival, refusals,
          database, ?_, hgranted, rfl, rfl⟩
        exact (List.singleton_sublist.mpr hmem).append (List.Sublist.refl _)
  | ended id outcome hmoves hresults =>
      exact haccounted.moved hmoves (fun _ hcall => nomatch hcall)
        (fun _ hcall => nomatch hcall) (haccounted.reports _ hresults)
  | read hcalls hslots hresults =>
      refine ⟨fun id work hcall => ?_, fun id work hcall => ?_, haccounted.reports _ hresults⟩
      · rw [hcalls] at hcall
        exact (haccounted.queued id work hcall).mono _
      · rw [hcalls] at hcall
        exact (haccounted.running id work hcall).mono _

/-- In every service that is reached the calls and the reports are accounted for. -/
theorem accounted_of_run
    (hrun : (analysis platform settings).run (.start settings) labels = some service) :
    Accounted platform labels service :=
  (analysis platform settings).run_history (Accounted platform)
    (fun _ _ _ _ haccounted hstep => haccounted.step hstep) (accounted_start settings) hrun

end Authorisation

section Slots

variable {platform settings} {service next : AnalysisService} {labels : List AnalysisLabel}

/-- The calls that hold a slot, which with the free slots make up all of them. -/
structure Occupied (settings : AnalysisSettings) (service : AnalysisService)
    (holders : Finset CallId) : Prop where
  holds : ∀ id, id ∈ holders ↔ (service.calls id).isRunning = true
  slots : holders.card + service.slots = settings.analysisMaxParallelJobs

/-- A call that moves takes a slot, keeps it or gives it back. -/
theorem Occupied.moved {holders : Finset CallId} (hoccupied : Occupied settings service holders)
    {id : CallId} {call : AnalysisCall} (hmoves : Moves service next id call) :
    ∃ others, Occupied settings next others := by
  have hslots := hmoves.slots
  have htotal := hoccupied.slots
  cases hafter : call.isRunning with
  | true =>
      refine ⟨insert id holders, fun other => ?_, ?_⟩
      · rw [Finset.mem_insert]
        by_cases hid : other = id
        · subst hid
          simp [hmoves.self, hafter]
        · rw [hmoves.other hid, hoccupied.holds other]
          simp [hid]
      · by_cases hmem : id ∈ holders
        · rw [Finset.insert_eq_of_mem hmem]
          rw [(hoccupied.holds id).mp hmem, hafter] at hslots
          omega
        · rw [Finset.card_insert_of_notMem hmem]
          have hbefore : (service.calls id).isRunning = false :=
            Bool.eq_false_iff.mpr fun hrunning => hmem ((hoccupied.holds id).mpr hrunning)
          rw [hbefore, hafter] at hslots
          simp only [Bool.toNat_true, Bool.toNat_false] at hslots
          omega
  | false =>
      refine ⟨holders.erase id, fun other => ?_, ?_⟩
      · rw [Finset.mem_erase]
        by_cases hid : other = id
        · subst hid
          simp [hmoves.self, hafter]
        · rw [hmoves.other hid, hoccupied.holds other]
          simp [hid]
      · by_cases hmem : id ∈ holders
        · rw [Finset.card_erase_of_mem hmem]
          have hpositive := Finset.card_pos.mpr ⟨id, hmem⟩
          rw [(hoccupied.holds id).mp hmem, hafter] at hslots
          simp only [Bool.toNat_true, Bool.toNat_false] at hslots
          omega
        · rw [Finset.erase_eq_of_notMem hmem]
          have hbefore : (service.calls id).isRunning = false :=
            Bool.eq_false_iff.mpr fun hrunning => hmem ((hoccupied.holds id).mpr hrunning)
          rw [hbefore, hafter] at hslots
          omega

theorem occupied_start (settings : AnalysisSettings) :
    Occupied settings (.start settings) ∅ :=
  ⟨fun _ => by simp [AnalysisService.start, AnalysisCall.isRunning],
    by simp [AnalysisService.start]⟩

/-- Every step keeps the count of the slots. -/
theorem occupied_step {label : AnalysisLabel}
    (hoccupied : ∃ holders, Occupied settings service holders)
    (hstep : (analysis platform settings).step service label = some next) :
    ∃ holders, Occupied settings next holders := by
  obtain ⟨holders, hoccupied⟩ := hoccupied
  cases progress_of_step hstep with
  | queued _ _ hmoves _ => exact hoccupied.moved hmoves
  | started _ _ hmoves _ => exact hoccupied.moved hmoves
  | saved _ _ _ hmoves => exact hoccupied.moved hmoves
  | ended _ _ hmoves _ => exact hoccupied.moved hmoves
  | read hcalls hslots _ =>
      exact ⟨holders, fun id => by rw [hcalls, hoccupied.holds id], by rw [hslots, hoccupied.slots]⟩

/-- In every service that is reached the count of the slots is right. -/
theorem occupied_of_run
    (hrun : (analysis platform settings).run (.start settings) labels = some service) :
    ∃ holders, Occupied settings service holders :=
  (analysis platform settings).run_invariant
    (fun service => ∃ holders, Occupied settings service holders)
    (fun _ _ _ => occupied_step) ⟨∅, occupied_start settings⟩ hrun

/-- Any calls that use the analyzer at the same time are at most the slots. -/
theorem Occupied.bound {holders running : Finset CallId}
    (hoccupied : Occupied settings service holders)
    (hrunning : ∀ id ∈ running, (service.calls id).isRunning = true) :
    running.card ≤ settings.analysisMaxParallelJobs := by
  have hsubset : running ⊆ holders := fun id hmem => (hoccupied.holds id).mpr (hrunning id hmem)
  have hcard := Finset.card_le_card hsubset
  have htotal := hoccupied.slots
  omega

end Slots

section Purge

/-- The principal whose call this is, while it is under way. -/
def AnalysisCall.owner : AnalysisCall → Option String
  | .queued work => some (principal work.token)
  | .running work => some (principal work.token)
  | .idle => none
  | .ended _ => none

/-- Whether a label belongs to a call of this principal. -/
def visibleTo (owner : String) (service : AnalysisService) : AnalysisLabel → Bool
  | .arrive _ _ token _ _ _ => token.map principal == some owner
  | .read _ token _ => token.map principal == some owner
  | .acquire id _ | .complete id _ _ _ _ | .fail id _ | .cancel id _ =>
    (service.calls id).owner == some owner

/-- `uuid4` returns the digits of no report saved before. -/
def freshUuid (service : AnalysisService) : AnalysisLabel → Bool
  | .complete _ _ uuid _ _ => service.results.all fun row => row.analysisId != "an_" ++ uuid.hex
  | _ => true

variable {platform : Platform} {settings : AnalysisSettings}
  {service next view : AnalysisService} {owner : String}

/-- The view of a principal: its own calls and reports, as if nobody else had called. -/
structure Purged (settings : AnalysisSettings) (owner : String) (service view : AnalysisService) :
    Prop where
  calls : ∀ id,
    (view.calls id = service.calls id ∧ ((service.calls id).owner = none ∨
      (service.calls id).owner = some owner)) ∨
    (view.calls id = .idle ∧ (service.calls id).owner ≠ some owner)
  results : view.results = service.results.filter fun row => row.owner == owner
  slots : ∃ holders, Occupied settings service holders
  viewSlots : ∃ holders, Occupied settings view holders

theorem purged_start (settings : AnalysisSettings) (owner : String) :
    Purged settings owner (.start settings) (.start settings) :=
  ⟨fun _ => Or.inl ⟨rfl, Or.inl rfl⟩, rfl, ⟨∅, occupied_start settings⟩,
    ⟨∅, occupied_start settings⟩⟩

/-- The call of the principal is the same in its view. -/
theorem Purged.own (hpurged : Purged settings owner service view) {id : CallId}
    (hown : (service.calls id).owner = some owner) : view.calls id = service.calls id := by
  rcases hpurged.calls id with ⟨hcall, -⟩ | ⟨-, hother⟩
  · exact hcall
  · exact absurd hown hother

/-- A slot that is free is free in the view as well. -/
theorem Purged.free (hpurged : Purged settings owner service view) (hfree : 0 < service.slots) :
    0 < view.slots := by
  obtain ⟨holders, hoccupied⟩ := hpurged.slots
  obtain ⟨others, hothers⟩ := hpurged.viewSlots
  have hsubset : others ⊆ holders := by
    intro id hmem
    rw [hoccupied.holds id]
    rw [hothers.holds id] at hmem
    rcases hpurged.calls id with ⟨hcall, -⟩ | ⟨hidle, -⟩
    · rw [← hcall]
      exact hmem
    · rw [hidle] at hmem
      cases hmem
  have hcard := Finset.card_le_card hsubset
  have htotal := hoccupied.slots
  have hviewTotal := hothers.slots
  omega

/-- Both services move the same call of the principal on in the same way. -/
theorem Purged.moved {following : AnalysisService} {id : CallId} {call : AnalysisCall}
    (hpurged : Purged settings owner service view) (hmoves : Moves service next id call)
    (hfollows : Moves view following id call)
    (howner : call.owner = none ∨ call.owner = some owner)
    (hresults : following.results = next.results.filter fun row => row.owner == owner) :
    Purged settings owner next following := by
  refine ⟨fun other => ?_, hresults, ?_, ?_⟩
  · by_cases hother : other = id
    · subst hother
      rw [hmoves.self, hfollows.self]
      exact Or.inl ⟨rfl, howner⟩
    · rw [hmoves.other hother, hfollows.other hother]
      exact hpurged.calls other
  · obtain ⟨holders, hoccupied⟩ := hpurged.slots
    exact hoccupied.moved hmoves
  · obtain ⟨holders, hoccupied⟩ := hpurged.viewSlots
    exact hoccupied.moved hfollows

/-- A call of another principal moves on while the view stays as it is. -/
theorem Purged.hidden {id : CallId} {call : AnalysisCall}
    (hpurged : Purged settings owner service view) (hmoves : Moves service next id call)
    (hidle : view.calls id = .idle) (howner : call.owner ≠ some owner)
    (hresults : next.results.filter (fun row => row.owner == owner) =
      service.results.filter fun row => row.owner == owner) :
    Purged settings owner next view := by
  refine ⟨fun other => ?_, hpurged.results.trans hresults.symm, ?_, hpurged.viewSlots⟩
  · by_cases hother : other = id
    · subst hother
      rw [hmoves.self]
      exact Or.inr ⟨hidle, howner⟩
    · rw [hmoves.other hother]
      exact hpurged.calls other
  · obtain ⟨holders, hoccupied⟩ := hpurged.slots
    exact hoccupied.moved hmoves

/-- A step that moves no call keeps the two related. -/
theorem Purged.same {following : AnalysisService} (hpurged : Purged settings owner service view)
    (hcalls : next.calls = service.calls) (hslots : next.slots = service.slots)
    (hresults : next.results = service.results) (hviewCalls : following.calls = view.calls)
    (hviewSlots : following.slots = view.slots) (hviewResults : following.results = view.results) :
    Purged settings owner next following := by
  refine ⟨fun id => ?_, ?_, ?_, ?_⟩
  · rw [hcalls, hviewCalls]
    exact hpurged.calls id
  · rw [hviewResults, hresults, hpurged.results]
  · obtain ⟨holders, hoccupied⟩ := hpurged.slots
    exact ⟨holders, fun id => by rw [hcalls, hoccupied.holds id], by rw [hslots, hoccupied.slots]⟩
  · obtain ⟨holders, hoccupied⟩ := hpurged.viewSlots
    exact ⟨holders, fun id => by rw [hviewCalls, hoccupied.holds id],
      by rw [hviewSlots, hoccupied.slots]⟩

/-- Auditing a read changes neither the calls nor the slots. -/
theorem auditRead_same (service : AnalysisService) (analysisId : String)
    (token : Option AccessToken) (now : Rat) :
    (service.auditRead analysisId token now).calls = service.calls ∧
      (service.auditRead analysisId token now).slots = service.slots ∧
      (service.auditRead analysisId token now).results = service.results := by
  unfold AnalysisService.auditRead
  cases token with
  | none => exact ⟨rfl, rfl, rfl⟩
  | some caller =>
      simp only
      split <;> exact ⟨rfl, rfl, rfl⟩

/-- With a fresh identifier, completing a call adds the same rows to every table. -/
theorem complete_moves (id : CallId) (work : AnalysisWork) (result : AnalyzerResult) (uuid : Uuid)
    (refusals : Refusals) (database : Database) :
    ∃ outcome added, (∀ row ∈ added, ResultRow.owner row = principal work.token) ∧
      ∀ service : AnalysisService, service.calls id = .running work →
        (∀ row ∈ service.results, row.analysisId ≠ "an_" ++ uuid.hex) →
        Moves service (complete service id work result uuid refusals database) id
            (.ended outcome) ∧
          (complete service id work result uuid refusals database).results =
            service.results ++ added := by
  unfold complete
  cases refusals.save with
  | some error =>
      refine ⟨.error error, [], by simp, fun service hrunning _ => ?_⟩
      exact ⟨moves_released hrunning _ rfl rfl, (List.append_nil _).symm⟩
  | none =>
      obtain ⟨outcome, hends⟩ :=
        recordReport_ends id work.token (reportFor work result uuid) refusals database
      refine ⟨outcome, [⟨"an_" ++ uuid.hex, principal work.token, reportFor work result uuid⟩],
        by simp, fun service hrunning hfresh => ?_⟩
      have hsave : saveResult service.results (principal work.token)
          (reportFor work result uuid) = .ok (service.results ++
            [⟨"an_" ++ uuid.hex, principal work.token, reportFor work result uuid⟩]) := by
        unfold saveResult
        rw [if_neg]
        · rfl
        · simpa [reportFor] using hfresh
      have hended := hends { service.release with
        results := service.results ++
          [⟨"an_" ++ uuid.hex, principal work.token, reportFor work result uuid⟩] }
      simp only [hsave]
      exact ⟨moves_released hrunning outcome hended.calls hended.slots, hended.results⟩

/-- An id that is fresh is fresh among fewer results. -/
theorem Purged.fresh (hpurged : Purged settings owner service view) {uuid : Uuid}
    (hfresh : ∀ row ∈ service.results, row.analysisId ≠ "an_" ++ uuid.hex) :
    ∀ row ∈ view.results, row.analysisId ≠ "an_" ++ uuid.hex := by
  intro row hrow
  rw [hpurged.results] at hrow
  exact hfresh row (List.mem_filter.mp hrow).1

theorem Purged.idle (hpurged : Purged settings owner service view) {id : CallId}
    (hidle : service.calls id = .idle) : view.calls id = .idle := by
  rcases hpurged.calls id with ⟨hsame, -⟩ | ⟨hviewIdle, -⟩
  · rw [hsame, hidle]
  · exact hviewIdle

/-- An arriving call takes no slot. -/
theorem moves_arrived {id : CallId} {request : AnalysisRequest} {token : Option AccessToken}
    {now : Rat} {stores : StoreView} {refusals : Refusals} {call : AnalysisCall}
    (hidle : service.calls id = .idle)
    (hnotRunning : call.isRunning = false)
    (hcalls : (arrive platform settings service id request token now stores refusals).calls =
      (service.setCall id call).calls)
    (hslots : (arrive platform settings service id request token now stores refusals).slots =
      service.slots) :
    Moves service (arrive platform settings service id request token now stores refusals) id
      call := by
  refine ⟨hcalls, ?_⟩
  rw [hslots, hidle, hnotRunning]
  rfl

/-- A call of the principal arrives at the service and at the view. -/
theorem Purged.arrived (hpurged : Purged settings owner service view) {id : CallId}
    {request : AnalysisRequest} {token : Option AccessToken} {now : Rat} {stores : StoreView}
    {refusals : Refusals} (hidle : service.calls id = .idle)
    (htoken : token.map principal = some owner) :
    Purged settings owner (arrive platform settings service id request token now stores refusals)
      (arrive platform settings view id request token now stores refusals) := by
  obtain ⟨call, hkind, hstays⟩ :=
    arrive_moves platform settings id request token now stores refusals
  have hnotRunning : call.isRunning = false := by
    rcases hkind with ⟨_, _, _, _, _, _, rfl⟩ | ⟨_, rfl⟩ <;> rfl
  have howner : call.owner = none ∨ call.owner = some owner := by
    rcases hkind with ⟨caller, record, source, rfl, -, -, rfl⟩ | ⟨error, rfl⟩
    · exact Or.inr htoken
    · exact Or.inl rfl
  obtain ⟨hcalls, hslots, hresults⟩ := hstays service
  obtain ⟨hviewCalls, hviewSlots, hviewResults⟩ := hstays view
  refine hpurged.moved (moves_arrived hidle hnotRunning hcalls hslots)
    (moves_arrived (hpurged.idle hidle) hnotRunning hviewCalls hviewSlots) howner ?_
  rw [hviewResults, hresults, hpurged.results]

/-- A queued call of the principal gets a slot of the service and of the view. -/
theorem Purged.acquired (hpurged : Purged settings owner service view) {id : CallId}
    {work : AnalysisWork} (now : Rat) (hcall : service.calls id = .queued work)
    (hsame : view.calls id = .queued work) (hfree : 0 < service.slots)
    (hown : principal work.token = owner) :
    Purged settings owner (acquire service id work now) (acquire view id work now) := by
  have hviewFree := hpurged.free hfree
  unfold acquire
  split
  · have hmoves : ∀ start : AnalysisService, start.calls id = .queued work → 0 < start.slots →
        Moves start { start.setCall id (.running work) with slots := start.slots - 1 } id
          (.running work) := by
      intro start hqueued hpositive
      refine ⟨rfl, ?_⟩
      rw [hqueued]
      exact Nat.sub_add_cancel hpositive
    exact hpurged.moved (hmoves service hcall hfree) (hmoves view hsame hviewFree)
      (Or.inr (congrArg some hown)) hpurged.results
  · refine hpurged.moved ⟨rfl, ?_⟩ ⟨rfl, ?_⟩ (Or.inl rfl) hpurged.results
    · rw [hcall]
      rfl
    · rw [hsame]
      rfl

/-- The analyzer returns to a call of the principal, in the service and in the view. -/
theorem Purged.completed (hpurged : Purged settings owner service view) {id : CallId}
    {work : AnalysisWork} {result : AnalyzerResult} {uuid : Uuid} {refusals : Refusals}
    {database : Database} (hcall : service.calls id = .running work)
    (hsame : view.calls id = .running work) (hown : principal work.token = owner)
    (hfresh : ∀ row ∈ service.results, row.analysisId ≠ "an_" ++ uuid.hex) :
    Purged settings owner (complete service id work result uuid refusals database)
      (complete view id work result uuid refusals database) := by
  obtain ⟨outcome, added, howner, hmoves⟩ := complete_moves id work result uuid refusals database
  obtain ⟨hserviceMoves, hresults⟩ := hmoves service hcall hfresh
  obtain ⟨hviewMoves, hviewResults⟩ := hmoves view hsame (hpurged.fresh hfresh)
  refine hpurged.moved hserviceMoves hviewMoves (Or.inl rfl) ?_
  have hall : added.filter (fun row => row.owner == owner) = added := by
    refine List.filter_eq_self.mpr fun row hrow => ?_
    rw [howner row hrow]
    exact beq_iff_eq.mpr hown
  rw [hviewResults, hresults, List.filter_append, hpurged.results, hall]

/-- A call of the principal is abandoned, in the service and in the view. -/
theorem Purged.abandoned (hpurged : Purged settings owner service view) {id : CallId}
    {work : AnalysisWork} {outcome : String} {error : PyError} {refusals : Refusals}
    (hcall : service.calls id = .running work) (hsame : view.calls id = .running work) :
    Purged settings owner (abandon service id work outcome error refusals)
      (abandon view id work outcome error refusals) := by
  obtain ⟨raised, habandon⟩ := abandon_moves id work outcome error refusals
  obtain ⟨hmoves, hresults⟩ := habandon service hcall
  obtain ⟨hviewMoves, hviewResults⟩ := habandon view hsame
  refine hpurged.moved hmoves hviewMoves (Or.inl rfl) ?_
  rw [hviewResults, hresults, hpurged.results]

/-- A visible step of the service is a step of the view. -/
theorem Purged.visible {label : AnalysisLabel} (hpurged : Purged settings owner service view)
    (hfresh : freshUuid service label = true) (hvisible : visibleTo owner service label = true)
    (hstep : (analysis platform settings).step service label = some next) :
    ∃ following, (analysis platform settings).step view label = some following ∧
      Purged settings owner next following := by
  have hsame : ∀ id, (service.calls id).owner = some owner →
      view.calls id = service.calls id := fun id => hpurged.own
  -- A visible step is one of the owner's, and finds its call the same in the view.
  cases label with
  | arrive id request token now stores refusals =>
      cases hcall : service.calls id with
      | idle =>
          simp only [analysis, hcall, Option.some.injEq] at hstep
          subst hstep
          simp only [analysis, hpurged.idle hcall]
          exact ⟨_, rfl, hpurged.arrived hcall (beq_iff_eq.mp hvisible)⟩
      | queued work | running work | ended outcome => simp [analysis, hcall] at hstep
  | acquire id now =>
      have hown : (service.calls id).owner = some owner := beq_iff_eq.mp hvisible
      cases hcall : service.calls id with
      | queued work =>
          have hview := (hsame id hown).trans hcall
          simp only [analysis, hcall, Option.ite_none_right_eq_some, Option.some.injEq] at hstep
          obtain ⟨hfree, rfl⟩ := hstep
          simp only [analysis, hview, if_pos (hpurged.free hfree)]
          rw [hcall] at hown
          exact ⟨_, rfl, hpurged.acquired now hcall hview hfree (Option.some.inj hown)⟩
      | idle | running work | ended outcome => simp [analysis, hcall] at hstep
  | complete id result uuid refusals database =>
      have hown : (service.calls id).owner = some owner := beq_iff_eq.mp hvisible
      cases hcall : service.calls id with
      | running work =>
          have hview := (hsame id hown).trans hcall
          have hrows : ∀ row ∈ service.results, row.analysisId ≠ "an_" ++ uuid.hex := by
            simpa [freshUuid] using hfresh
          simp only [analysis, hcall, Option.some.injEq] at hstep
          subst hstep
          simp only [analysis, hview]
          rw [hcall] at hown
          exact ⟨_, rfl, hpurged.completed hcall hview (Option.some.inj hown) hrows⟩
      | idle | queued work | ended outcome => simp [analysis, hcall] at hstep
  | fail id refusals =>
      have hown : (service.calls id).owner = some owner := beq_iff_eq.mp hvisible
      cases hcall : service.calls id with
      | running work =>
          have hview := (hsame id hown).trans hcall
          simp only [analysis, hcall, Option.some.injEq] at hstep
          subst hstep
          simp only [analysis, hview]
          exact ⟨_, rfl, hpurged.abandoned hcall hview⟩
      | idle | queued work | ended outcome => simp [analysis, hcall] at hstep
  | cancel id refusals =>
      have hown : (service.calls id).owner = some owner := beq_iff_eq.mp hvisible
      cases hcall : service.calls id with
      | queued work =>
          have hview := (hsame id hown).trans hcall
          simp only [analysis, hcall, Option.some.injEq] at hstep
          subst hstep
          simp only [analysis, hview]
          refine ⟨_, rfl, hpurged.moved ⟨rfl, ?_⟩ ⟨rfl, ?_⟩ (Or.inl rfl) hpurged.results⟩
          · rw [hcall]
            rfl
          · rw [hview]
            rfl
      | running work =>
          have hview := (hsame id hown).trans hcall
          simp only [analysis, hcall, Option.some.injEq] at hstep
          subst hstep
          simp only [analysis, hview]
          exact ⟨_, rfl, hpurged.abandoned hcall hview⟩
      | idle | ended outcome => simp [analysis, hcall] at hstep
  | read analysisId token now =>
      simp only [analysis, Option.some.injEq] at hstep
      subst hstep
      obtain ⟨hcalls, hslots, hresults⟩ := auditRead_same service analysisId token now
      obtain ⟨hviewCalls, hviewSlots, hviewResults⟩ := auditRead_same view analysisId token now
      exact ⟨_, rfl, hpurged.same hcalls hslots hresults hviewCalls hviewSlots hviewResults⟩

/-- A call that another principal has under way is unknown to the view. -/
theorem Purged.unknown (hpurged : Purged settings owner service view) {id : CallId}
    {other : String} (howner : (service.calls id).owner = some other) (hne : other ≠ owner) :
    view.calls id = .idle := by
  rcases hpurged.calls id with ⟨-, hnone | hown⟩ | ⟨hidle, -⟩
  · rw [howner] at hnone
    cases hnone
  · rw [howner] at hown
    exact absurd (Option.some.inj hown) hne
  · exact hidle

/-- Another principal's call arrives. -/
theorem Purged.strangerArrived (hpurged : Purged settings owner service view) {id : CallId}
    {request : AnalysisRequest} {token : Option AccessToken} {now : Rat} {stores : StoreView}
    {refusals : Refusals} (hidle : service.calls id = .idle)
    (htoken : token.map principal ≠ some owner) :
    Purged settings owner (arrive platform settings service id request token now stores refusals)
      view := by
  obtain ⟨call, hkind, hstays⟩ :=
    arrive_moves platform settings id request token now stores refusals
  have hnotRunning : call.isRunning = false := by
    rcases hkind with ⟨_, _, _, _, _, _, rfl⟩ | ⟨_, rfl⟩ <;> rfl
  have howner : call.owner ≠ some owner := by
    rcases hkind with ⟨caller, record, source, rfl, -, -, rfl⟩ | ⟨error, rfl⟩
    · exact htoken
    · nofun
  obtain ⟨hcalls, hslots, hresults⟩ := hstays service
  refine hpurged.hidden (moves_arrived hidle hnotRunning hcalls hslots) (hpurged.idle hidle)
    howner ?_
  rw [hresults]

/-- The analyzer returns to a call of another principal. -/
theorem Purged.strangerCompleted (hpurged : Purged settings owner service view) {id : CallId}
    {work : AnalysisWork} {result : AnalyzerResult} {uuid : Uuid} {refusals : Refusals}
    {database : Database} (hcall : service.calls id = .running work)
    (hidle : view.calls id = .idle) (hne : principal work.token ≠ owner)
    (hfresh : ∀ row ∈ service.results, row.analysisId ≠ "an_" ++ uuid.hex) :
    Purged settings owner (complete service id work result uuid refusals database) view := by
  obtain ⟨outcome, added, howner, hmoves⟩ := complete_moves id work result uuid refusals database
  obtain ⟨hserviceMoves, hresults⟩ := hmoves service hcall hfresh
  refine hpurged.hidden hserviceMoves hidle nofun ?_
  have hnone : added.filter (fun row => row.owner == owner) = [] := by
    refine List.filter_eq_nil_iff.mpr fun row hrow heq => hne ?_
    rw [← howner row hrow]
    exact beq_iff_eq.mp heq
  rw [hresults, List.filter_append, hnone, List.append_nil]

/-- A call of another principal is abandoned. -/
theorem Purged.strangerAbandoned (hpurged : Purged settings owner service view) {id : CallId}
    {work : AnalysisWork} {outcome : String} {error : PyError} {refusals : Refusals}
    (hcall : service.calls id = .running work) (hidle : view.calls id = .idle) :
    Purged settings owner (abandon service id work outcome error refusals) view := by
  obtain ⟨raised, habandon⟩ := abandon_moves id work outcome error refusals
  obtain ⟨hmoves, hresults⟩ := habandon service hcall
  refine hpurged.hidden hmoves hidle nofun ?_
  rw [hresults]

/-- A hidden step of the service leaves the view as it is. -/
theorem Purged.invisible {label : AnalysisLabel} (hpurged : Purged settings owner service view)
    (hfresh : freshUuid service label = true) (hvisible : visibleTo owner service label = false)
    (hstep : (analysis platform settings).step service label = some next) :
    Purged settings owner next view := by
  have hstranger : ∀ id work, service.calls id = .queued work ∨ service.calls id = .running work →
      ((service.calls id).owner == some owner) = false →
      view.calls id = .idle ∧ principal work.token ≠ owner := by
    intro id work hcall hhidden
    have howner : (service.calls id).owner = some (principal work.token) := by
      rcases hcall with hcall | hcall <;> rw [hcall] <;> rfl
    have hne : principal work.token ≠ owner := by
      rintro rfl
      rw [howner, beq_self_eq_true] at hhidden
      cases hhidden
    exact ⟨hpurged.unknown howner hne, hne⟩
  cases label with
  | arrive id request token now stores refusals =>
      cases hcall : service.calls id with
      | idle =>
          simp only [analysis, hcall, Option.some.injEq] at hstep
          subst hstep
          exact hpurged.strangerArrived hcall (beq_eq_false_iff_ne.mp hvisible)
      | queued work | running work | ended outcome => simp [analysis, hcall] at hstep
  | acquire id now =>
      cases hcall : service.calls id with
      | queued work =>
          obtain ⟨hidle, hne⟩ := hstranger id work (Or.inl hcall) hvisible
          simp only [analysis, hcall, Option.ite_none_right_eq_some, Option.some.injEq] at hstep
          obtain ⟨hfree, rfl⟩ := hstep
          unfold acquire
          split
          · refine hpurged.hidden ⟨rfl, ?_⟩ hidle (fun heq => hne (Option.some.inj heq)) rfl
            rw [hcall]
            exact Nat.sub_add_cancel hfree
          · refine hpurged.hidden ⟨rfl, ?_⟩ hidle (fun heq => by cases heq) rfl
            rw [hcall]
            rfl
      | idle | running work | ended outcome => simp [analysis, hcall] at hstep
  | complete id result uuid refusals database =>
      cases hcall : service.calls id with
      | running work =>
          obtain ⟨hidle, hne⟩ := hstranger id work (Or.inr hcall) hvisible
          simp only [analysis, hcall, Option.some.injEq] at hstep
          subst hstep
          exact hpurged.strangerCompleted hcall hidle hne (by simpa [freshUuid] using hfresh)
      | idle | queued work | ended outcome => simp [analysis, hcall] at hstep
  | fail id refusals =>
      cases hcall : service.calls id with
      | running work =>
          obtain ⟨hidle, -⟩ := hstranger id work (Or.inr hcall) hvisible
          simp only [analysis, hcall, Option.some.injEq] at hstep
          subst hstep
          exact hpurged.strangerAbandoned hcall hidle
      | idle | queued work | ended outcome => simp [analysis, hcall] at hstep
  | cancel id refusals =>
      cases hcall : service.calls id with
      | queued work =>
          obtain ⟨hidle, -⟩ := hstranger id work (Or.inl hcall) hvisible
          simp only [analysis, hcall, Option.some.injEq] at hstep
          subst hstep
          refine hpurged.hidden ⟨rfl, ?_⟩ hidle (fun heq => by cases heq) rfl
          rw [hcall]
          rfl
      | running work =>
          obtain ⟨hidle, -⟩ := hstranger id work (Or.inr hcall) hvisible
          simp only [analysis, hcall, Option.some.injEq] at hstep
          subst hstep
          exact hpurged.strangerAbandoned hcall hidle
      | idle | ended outcome => simp [analysis, hcall] at hstep
  | read analysisId token now =>
      simp only [analysis, Option.some.injEq] at hstep
      subst hstep
      obtain ⟨hcalls, hslots, hresults⟩ := auditRead_same service analysisId token now
      exact hpurged.same hcalls hslots hresults rfl rfl rfl

/-- A principal reads the same in its view. -/
theorem Purged.read (hpurged : Purged settings owner service view) {token : AccessToken}
    (hown : principal token = owner) (analysisId : String) (now : Rat) :
    view.read analysisId (some token) now = service.read analysisId (some token) now := by
  have hfind : view.results.find? (fun row => row.analysisId == analysisId && row.owner == owner) =
      service.results.find? fun row => row.analysisId == analysisId && row.owner == owner := by
    rw [hpurged.results, List.find?_filter]
    congr 1
    funext row
    exact Bool.eq_iff_iff.mpr (by simp)
  simp only [AnalysisService.read, ownReport, readResult, hown, hfind]

end Purge

section Isolation

variable (platform : Platform) (settings : AnalysisSettings)

/-- The calls of others removed from the labels of a run. -/
def ownLabels (owner : String) (labels : List AnalysisLabel) : List AnalysisLabel :=
  (analysis platform settings).purge (visibleTo owner) (.start settings) labels

/-- A report that is read lies in a row of the reader. -/
theorem row_of_read {service : AnalysisService} {analysisId : String} {token : AccessToken}
    {now : Rat} {report : AnalysisReport}
    (hread : service.read analysisId (some token) now = .ok report) :
    ∃ row ∈ service.results, row.analysisId = analysisId ∧ row.owner = principal token ∧
      row.report = report := by
  unfold AnalysisService.read ownReport readResult at hread
  simp only at hread
  split at hread
  · split at hread
    · rename_i found hfound
      cases hread
      split at hfound
      · obtain ⟨row, hrow, hreport⟩ := Option.map_eq_some_iff.mp hfound
        have hmatches := List.find?_some hrow
        simp only [Bool.and_eq_true, beq_iff_eq] at hmatches
        exact ⟨row, List.mem_of_find?_eq_some hrow, hmatches.1, hmatches.2, hreport⟩
      · cases hfound
    · cases hread
  · cases hread

/-- In every run of the service, the analyzer works only on sources of calls that
were authorised twice, and never on more than there are slots. A report that is
read was saved by a call of the same client, issuer, and subject, and with fresh
identifiers the calls of others change nothing that a principal reads. -/
theorem analyses_isolated {labels : List AnalysisLabel} {service : AnalysisService}
    (hrun : (analysis platform settings).run (.start settings) labels = some service) :
    (∀ id work, service.calls id = .running work → Authorised platform labels id work) ∧
      (∀ running : Finset CallId, (∀ id ∈ running, (service.calls id).isRunning = true) →
        running.card ≤ settings.analysisMaxParallelJobs) ∧
      (∀ token now analysisId report,
        service.read analysisId (some token) now = .ok report →
        report.analysisId = analysisId ∧ ∃ saver, SavedBy labels saver report ∧
          saver.clientId = token.clientId ∧ saver.issuer = token.issuer ∧
          saver.subject = token.subject) ∧
      ((analysis platform settings).along freshUuid (.start settings) labels = true →
        ∀ owner, ∃ view,
          (analysis platform settings).run (.start settings)
            (ownLabels platform settings owner labels) = some view ∧
          ∀ token, principal token = owner → ∀ analysisId now,
            view.read analysisId (some token) now = service.read analysisId (some token) now) := by
  have haccounted := accounted_of_run hrun
  refine ⟨haccounted.running, fun running hrunning => ?_,
    fun token now analysisId report hread => ?_, fun hfresh owner => ?_⟩
  · obtain ⟨holders, hoccupied⟩ := occupied_of_run hrun
    exact hoccupied.bound hrunning
  · obtain ⟨row, hrow, hid, howner, rfl⟩ := row_of_read hread
    obtain ⟨saver, hsaver, hreport, hsaved⟩ := haccounted.saved row hrow
    refine ⟨hreport.symm.trans hid, saver, hsaved, principal_inj ?_⟩
    rw [← hsaver, howner]
  · obtain ⟨view, hview, hpurged⟩ := (analysis platform settings).run_purge (visibleTo owner)
      (Purged settings owner) freshUuid
      (fun _ _ _ _ hcondition hpurged hvisible hstep =>
        hpurged.visible hcondition hvisible hstep)
      (fun _ _ _ _ hcondition hpurged hvisible hstep =>
        hpurged.invisible hcondition hvisible hstep)
      hfresh (purged_start settings owner) hrun
    exact ⟨view, hview, fun token hown analysisId now => hpurged.read hown analysisId now⟩

end Isolation

section Sample

def sampleAnalysisPlatform : Platform where
  sha256 _ := "digest"
  projectIdForRun runId := runId
  isoformat _ := ""
  roundFloat value := value

def sampleAnalysisSettings : AnalysisSettings := ⟨1, 60, 262144⟩

def sampleBundle : Json :=
  .obj [("files", .arr [.obj [("path", .str "demo.py"), ("content", .str "pass")]])]

/-- The source artifact of the run as the database and the files hold it. -/
def sampleSourceRecord : ArtifactRecord :=
  let metadata := ArtifactMetadata.ofRequest sampleAnalysisPlatform
    (.simple "run" .implementation .codeChange "backend-agent" sampleBundle "" []) 0 0
  ⟨metadata, metadata.destination⟩

def sampleStores : StoreView where
  database := { Database.empty with
    runs := [⟨"run", "", .running, none, 0, none, []⟩]
    artifacts := [sampleSourceRecord] }
  stat _ := some ⟨true, 100⟩
  files := FileStore.empty.put sampleSourceRecord.contentPath
    ⟨sampleSourceRecord.metadata, sampleBundle, "", none⟩

def sampleCaller (subject : String) : AccessToken :=
  ⟨"backend-agent", some "https://issuer", some subject, ["analysis:run", "analysis:read"], some 10⟩

def sampleAnalysisResult : AnalyzerResult :=
  ⟨.completed, [("name", "ruff")], [],
    ⟨"local-analyzer", "", 5, false, false, none, none, none, none, some 0, false, true, none, []⟩⟩

/-- Two principals ask for an analysis, and the first one gets it. -/
def sampleAnalyses : List AnalysisLabel :=
  [.arrive 0 ⟨0, "digest", 60⟩ (some (sampleCaller "first")) 0 sampleStores {},
    .arrive 1 ⟨0, "digest", 60⟩ (some (sampleCaller "second")) 1 sampleStores {},
    .acquire 0 2,
    .complete 0 sampleAnalysisResult sampleUuid {} sampleStores.database,
    .acquire 1 3]

def sampleServiceRun : Option AnalysisService :=
  (analysis sampleAnalysisPlatform sampleAnalysisSettings).run (.start sampleAnalysisSettings)
    sampleAnalyses

theorem analyses_isolated_sample : ∃ service report, sampleServiceRun = some service ∧
    service.read "an_0123456789abcdef0123456789abcdef" (some (sampleCaller "first")) 4 =
      .ok report ∧
    (∃ saver, SavedBy sampleAnalyses saver report ∧ saver.subject = some "first") ∧
    ∃ view, (analysis sampleAnalysisPlatform sampleAnalysisSettings).run
        (.start sampleAnalysisSettings) (ownLabels sampleAnalysisPlatform sampleAnalysisSettings
          (principal (sampleCaller "first")) sampleAnalyses) = some view ∧
      view.read "an_0123456789abcdef0123456789abcdef" (some (sampleCaller "first")) 4 =
        .ok report := by
  have hsome : sampleServiceRun.isSome = true := by decide +kernel
  have hread : ((sampleServiceRun.get hsome).read "an_0123456789abcdef0123456789abcdef"
      (some (sampleCaller "first")) 4).toOption.isSome = true := by decide +kernel +revert
  obtain ⟨-, -, hreads, hisolated⟩ := analyses_isolated sampleAnalysisPlatform sampleAnalysisSettings
    (Option.some_get hsome).symm
  cases hreport : (sampleServiceRun.get hsome).read "an_0123456789abcdef0123456789abcdef"
      (some (sampleCaller "first")) 4 with
  | error error =>
      rw [hreport] at hread
      cases hread
  | ok report =>
      obtain ⟨-, saver, hsaved, -, -, hsubject⟩ := hreads _ _ _ _ hreport
      obtain ⟨view, hview, hsame⟩ :=
        hisolated (by decide +kernel) (principal (sampleCaller "first"))
      refine ⟨_, report, (Option.some_get hsome).symm, hreport, ⟨saver, hsaved, hsubject⟩,
        view, hview, ?_⟩
      rw [hsame (sampleCaller "first") rfl, hreport]

end Sample

end Aidlc
