import Aidlc.Foundation.JsonText
import Aidlc.Domain.Models

/-! # Access tokens

What the tool server decides from a verified token. The principal of a token is
a text that no other client, issuer, and subject share.
-/

namespace Aidlc

open Foundation

/-- A verified token; `issuer` is its `iss` claim. -/
structure AccessToken where
  clientId : String
  issuer : Option String
  subject : Option String
  scopes : List String
  expiresAt : Option Int
  deriving DecidableEq, Repr

def runClients : List String :=
  ["backend-agent", "frontend-agent", "test-agent", "integration-agent", "static-analysis-agent",
    "evaluation-agent"]

/-- `permitted` at the time of the call -/
def permitted (now : Rat) (token : Option AccessToken) (scope : String) : Bool :=
  match token with
  | none => false
  | some token =>
    match token.subject, token.expiresAt with
    | some subject, some expiresAt =>
      subject != "" && expiresAt != 0 && decide (now < expiresAt) && decide (scope ∈ token.scopes) &&
        (scope != "analysis:run" || decide (token.clientId ∈ runClients))
    | _, _ => false

def principal (token : AccessToken) : String :=
  String.ofList (dumpsList [some token.clientId, token.issuer, token.subject])

theorem principal_inj {first second : AccessToken} (heq : principal first = principal second) :
    first.clientId = second.clientId ∧ first.issuer = second.issuer ∧
      first.subject = second.subject := by
  have hlist := dumpsList_inj (String.ofList_inj.mp heq)
  simp only [List.cons.injEq, Option.some.injEq, and_true] at hlist
  exact hlist

/-- No token without an identity is permitted anything. -/
theorem identified_of_permitted {now : Rat} {token : Option AccessToken} {scope : String}
    (hpermitted : permitted now token scope = true) :
    ∃ found subject, token = some found ∧ found.subject = some subject ∧ subject ≠ "" := by
  cases token with
  | none => cases hpermitted
  | some found =>
      cases hsubject : found.subject with
      | none => simp [permitted, hsubject] at hpermitted
      | some subject =>
          refine ⟨found, subject, rfl, hsubject, ?_⟩
          rintro rfl
          cases hexpires : found.expiresAt <;> simp [permitted, hsubject, hexpires] at hpermitted

example : principal ⟨"client", none, some "say \"hi\"", [], none⟩ =
    "[\"client\", null, \"say \\\"hi\\\"\"]" := by decide

end Aidlc
