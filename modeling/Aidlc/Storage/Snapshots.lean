import Aidlc.Domain.Models

/-! # Snapshot kinds and dependency groups

Reasoning outputs are snapshots, one slot each; decisions and measured
execution keep individual identities. Publishing a snapshot invalidates the
snapshots of every later dependency group.
-/

namespace Aidlc

def snapshotKinds : List ArtifactKind :=
  [.projectBrief, .requirementsSpec, .architectureDecision, .uxSpecification, .threatModel,
    .testPlan, .implementationPlan, .codeChange, .integratedSource, .buildReport, .testReport,
    .staticAnalysisReport, .qualityGateReport, .evaluationReport, .releaseBundle]

def groups : List (List ArtifactKind) :=
  [[.projectBrief],
    [.requirementsSpec],
    [.architectureDecision, .uxSpecification, .threatModel, .testPlan],
    [.implementationPlan],
    [.codeChange],
    [.integratedSource],
    [.buildReport, .testReport, .staticAnalysisReport],
    [.qualityGateReport],
    [.evaluationReport],
    [.releaseBundle]]

/-- The kinds of every group after the first group that has the kind. -/
def invalidatedIn (kind : ArtifactKind) : List (List ArtifactKind) → List ArtifactKind
  | [] => []
  | group :: rest => if kind ∈ group then rest.flatten else invalidatedIn kind rest

def invalidatedKinds (kind : ArtifactKind) : List ArtifactKind := invalidatedIn kind groups

/-- The first kind belongs to an earlier dependency group than the second. -/
def EarlierGroup (first second : ArtifactKind) : Prop :=
  ∃ (earlier later : Nat) (upstream downstream : List ArtifactKind),
    groups[earlier]? = some upstream ∧ groups[later]? = some downstream ∧
      first ∈ upstream ∧ second ∈ downstream ∧ earlier < later

/-- The position of a kind's dependency group; kinds outside the groups come last. -/
def groupIndex (kind : ArtifactKind) : Nat := groups.findIdx fun group => kind ∈ group

theorem mem_invalidatedKinds (kind other : ArtifactKind) :
    other ∈ invalidatedKinds kind ↔
      groupIndex kind < groupIndex other ∧ groupIndex other < groups.length := by
  cases kind <;> cases other <;> decide

theorem groupIndex_of_mem {index : Nat} {group : List ArtifactKind} {kind : ArtifactKind}
    (hgroup : groups[index]? = some group) (hmem : kind ∈ group) : groupIndex kind = index := by
  have hunique : ∀ position < 10, ∀ member ∈ groups[position]?.getD [],
      groupIndex member = position := by decide
  refine hunique index (List.getElem?_eq_some_iff.mp hgroup).1 kind ?_
  rw [hgroup]
  exact hmem

/-- Publishing a kind invalidates exactly the kinds of later groups. -/
theorem mem_invalidatedKinds_iff_earlierGroup (kind other : ArtifactKind) :
    other ∈ invalidatedKinds kind ↔ EarlierGroup kind other := by
  rw [mem_invalidatedKinds]
  constructor
  · rintro ⟨hless, hlast⟩
    have hfound : ∀ found : ArtifactKind, groupIndex found < groups.length →
        ∃ group, groups[groupIndex found]? = some group ∧ found ∈ group := by
      intro found hbound
      have hmem : decide (found ∈ groups[groupIndex found]) = true :=
        List.findIdx_getElem (w := hbound)
      exact ⟨groups[groupIndex found], List.getElem?_eq_getElem hbound, of_decide_eq_true hmem⟩
    obtain ⟨upstream, hupstream, hkind⟩ := hfound kind (hless.trans hlast)
    obtain ⟨downstream, hdownstream, hother⟩ := hfound other hlast
    exact ⟨_, _, upstream, downstream, hupstream, hdownstream, hkind, hother, hless⟩
  · rintro ⟨earlier, later, upstream, downstream, hupstream, hdownstream, hkind, hother, hless⟩
    rw [groupIndex_of_mem hupstream hkind, groupIndex_of_mem hdownstream hother]
    exact ⟨hless, (List.getElem?_eq_some_iff.mp hdownstream).1⟩

theorem not_mem_invalidatedKinds_self (kind : ArtifactKind) : kind ∉ invalidatedKinds kind := by
  simp [mem_invalidatedKinds]

theorem mem_invalidatedKinds_trans {first second third : ArtifactKind}
    (hsecond : second ∈ invalidatedKinds first) (hthird : third ∈ invalidatedKinds second) :
    third ∈ invalidatedKinds first := by
  rw [mem_invalidatedKinds] at *
  exact ⟨hsecond.1.trans hthird.1, hthird.2⟩

end Aidlc
