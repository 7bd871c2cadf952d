import Aidlc.Domain.Models

/-! # The specialists and their input contracts

The catalog the hub schedules from: one specialist for each role, with the
artifacts it depends on.
-/

namespace Aidlc

def contextContractVersion : String := "aidlc-context-v3"

def goalVersion : String := "aidlc-agent-goals-v4"

/-- A deterministic artifact dependency for one specialist invocation. -/
structure ArtifactInput where
  kind : ArtifactKind
  producer : Option String := none
  required : Bool := true
  fallbackKind : Option ArtifactKind := none
  deriving DecidableEq, Repr

structure AgentSpec where
  name : String
  stage : StageName
  artifactKind : ArtifactKind
  inputs : List ArtifactInput := []
  includeIdea : Bool := false
  contextContractVersion : String := contextContractVersion
  promptVersion : String := goalVersion
  cacheable : Bool := true
  deriving DecidableEq, Repr

/-- A dependency that may be absent. -/
def ArtifactInput.optional (kind : ArtifactKind) (producer : Option String) : ArtifactInput where
  kind
  producer
  required := false

/-- The integrated source, or every code change before there is one. -/
def ArtifactInput.source : ArtifactInput where
  kind := .integratedSource
  required := false
  fallbackKind := some .codeChange

def agentSpecs : List AgentSpec :=
  [{ name := "intake-agent", stage := .intake, artifactKind := .projectBrief
     inputs := [.optional .projectBrief (some "intake-agent"), .optional .humanResponse none]
     includeIdea := true
     cacheable := false },
   { name := "requirements-agent", stage := .requirements, artifactKind := .requirementsSpec
     inputs := [{ kind := .projectBrief }, .optional .humanResponse none]
     includeIdea := true },
   { name := "architecture-agent", stage := .discovery, artifactKind := .architectureDecision
     inputs := [{ kind := .projectBrief }, { kind := .requirementsSpec }] },
   { name := "ux-agent", stage := .discovery, artifactKind := .uxSpecification
     inputs := [{ kind := .projectBrief }, { kind := .requirementsSpec }] },
   { name := "security-agent", stage := .discovery, artifactKind := .threatModel
     inputs := [{ kind := .projectBrief }, { kind := .requirementsSpec }] },
   { name := "test-planner-agent", stage := .discovery, artifactKind := .testPlan
     inputs := [{ kind := .projectBrief }, { kind := .requirementsSpec }] },
   { name := "planning-agent", stage := .planning, artifactKind := .implementationPlan
     inputs := [{ kind := .requirementsSpec }, { kind := .architectureDecision },
       { kind := .uxSpecification }, { kind := .threatModel }, { kind := .testPlan }] },
   { name := "backend-agent", stage := .implementation, artifactKind := .codeChange
     inputs := [{ kind := .requirementsSpec }, { kind := .architectureDecision },
       { kind := .implementationPlan }, .optional .integratedSource none,
       .optional .codeChange (some "backend-agent")] },
   { name := "frontend-agent", stage := .implementation, artifactKind := .codeChange
     inputs := [{ kind := .requirementsSpec }, { kind := .architectureDecision },
       { kind := .uxSpecification }, { kind := .implementationPlan },
       .optional .integratedSource none, .optional .codeChange (some "frontend-agent")] },
   { name := "test-agent", stage := .implementation, artifactKind := .codeChange
     inputs := [{ kind := .requirementsSpec }, { kind := .testPlan },
       { kind := .implementationPlan }, .optional .integratedSource none,
       .optional .codeChange (some "test-agent")] },
   { name := "build-agent", stage := .integration, artifactKind := .buildReport
     inputs := [.source] },
   { name := "validation-agent", stage := .integration, artifactKind := .testReport
     inputs := [{ kind := .requirementsSpec }, { kind := .testPlan }, .source] },
   { name := "static-analysis-agent", stage := .integration
     artifactKind := .staticAnalysisReport
     inputs := [.source] },
   { name := "evaluation-agent", stage := .evaluation, artifactKind := .evaluationReport
     inputs := [{ kind := .requirementsSpec }, { kind := .architectureDecision },
       { kind := .uxSpecification }, { kind := .threatModel }, { kind := .testPlan },
       .optional .integratedSource none, { kind := .buildReport }, { kind := .testReport },
       .optional .buildReport (some "trusted-sandbox-service"),
       .optional .testReport (some "trusted-sandbox-service"),
       { kind := .staticAnalysisReport }, { kind := .qualityGateReport }] },
   { name := "release-agent", stage := .release, artifactKind := .releaseBundle
     inputs := [.optional .integratedSource none, { kind := .qualityGateReport },
       { kind := .evaluationReport }, .optional .humanResponse none] }]

theorem agentSpecs_ne_nil : agentSpecs ≠ [] := by decide

/-- `AGENTS_BY_STAGE` -/
def agentsByStage (stage : StageName) : List AgentSpec :=
  agentSpecs.filter fun spec => spec.stage == stage

end Aidlc
