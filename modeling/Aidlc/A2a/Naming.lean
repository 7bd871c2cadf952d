import Aidlc.Agents.Catalog
import Aidlc.Foundation.CanonicalJson

/-! # What an invocation identifier spells

The identifier is written from its parts with colons between them. No part that the hub
writes holds a colon, and a part that is left out cannot be taken for another, so the
text gives its parts back.
-/

namespace Aidlc

open Foundation

/-- The text holds no colon. -/
def Plain (text : String) : Prop := ':' ∉ text.toList

instance (text : String) : Decidable (Plain text) := inferInstanceAs (Decidable (':' ∉ text.toList))

/-- A run's name has no separator. -/
theorem plain_of_uuid (id : Uuid) : Plain ("run_" ++ id.hex) := by
  unfold Plain
  rw [String.toList_append, List.mem_append, not_or]
  refine ⟨by decide, fun hcolon => ?_⟩
  exact absurd (List.all_eq_true.mp id.digits_hex ':' hcolon) (by decide)

theorem plain_stage (stage : StageName) : Plain stage.value := by
  cases stage <;> decide

theorem plain_nat (value : Nat) : Plain (toString value) := by
  show ':' ∉ value.repr.toList
  rw [Nat.toList_repr]
  intro hcolon
  exact absurd (Nat.isDigit_of_mem_toDigits (by decide) (by decide) hcolon) (by decide)

/-- No agent of the catalog has a separator in its name. -/
theorem plain_agent {spec : AgentSpec} (hspec : spec ∈ agentSpecs) : Plain spec.name := by
  have hplain : ∀ spec ∈ agentSpecs, ':' ∉ spec.name.toList := by decide
  exact hplain spec hspec

theorem stage_value_inj {first second : StageName} (hvalue : first.value = second.value) :
    first = second := by
  cases first <;> cases second <;> first | rfl | exact absurd hvalue (by decide)

namespace InvocationId

/-- A number that is only written when it is not zero, after its name. -/
def numbered (name : String) (value : Nat) : List String :=
  if value = 0 then [] else [name, toString value]

/-- The parts between the colons. -/
def parts (id : InvocationId) : List String :=
  [id.runId, id.stage.value, id.agent] ++
    (numbered "repair" id.repairAttempt ++ numbered "retry" id.retryAttempt)

/-- A number is read back from its part. -/
theorem numbered_inj {name : String} {first second : Nat}
    (hnumbered : numbered name first = numbered name second) : first = second := by
  unfold numbered at hnumbered
  split at hnumbered <;> split at hnumbered
  next hfirst hsecond => exact hfirst.trans hsecond.symm
  next => cases hnumbered
  next => cases hnumbered
  next =>
    obtain ⟨-, hvalue⟩ := List.cons.inj hnumbered
    exact nat_repr_inj (List.cons.inj hvalue).1

/-- A repair part comes first exactly when there is a repair. -/
theorem head_numbers (repair retry : Nat) :
    (numbered "repair" repair ++ numbered "retry" retry).head? = some "repair" ↔ repair ≠ 0 := by
  unfold numbered
  split <;> split <;> simp_all

/-- The numbers are told apart by their names. -/
theorem numbers_inj {repair other retry later : Nat}
    (hnumbers : numbered "repair" repair ++ numbered "retry" retry =
      numbered "repair" other ++ numbered "retry" later) : repair = other ∧ retry = later := by
  have hzero : repair = 0 ↔ other = 0 := by
    rw [← not_iff_not, ← Ne, ← Ne, ← head_numbers repair retry, hnumbers, head_numbers]
  have hrepair : numbered "repair" repair = numbered "repair" other := by
    unfold numbered at hnumbers ⊢
    by_cases hnone : repair = 0
    · rw [if_pos hnone, if_pos (hzero.mp hnone)]
    · rw [if_neg hnone, if_neg (mt hzero.mpr hnone)] at hnumbers ⊢
      obtain ⟨-, hvalue⟩ := List.cons.inj hnumbers
      exact congrArg (fun value => ["repair", value]) (List.cons.inj hvalue).1
  rw [hrepair] at hnumbers
  have hretry : numbered "retry" retry = numbered "retry" later := List.append_cancel_left hnumbers
  exact ⟨numbered_inj hrepair, numbered_inj hretry⟩

/-- An identity is read back from its parts. -/
theorem parts_inj {first second : InvocationId} (hparts : first.parts = second.parts) :
    first = second := by
  obtain ⟨run, stage, agent, repair, retry⟩ := first
  obtain ⟨other, phase, name, round, later⟩ := second
  obtain ⟨rfl, hparts⟩ := List.cons.inj hparts
  obtain ⟨hstage, hparts⟩ := List.cons.inj hparts
  obtain ⟨rfl, hnumbers⟩ := List.cons.inj hparts
  obtain rfl := stage_value_inj hstage
  obtain ⟨rfl, rfl⟩ := numbers_inj hnumbers
  rfl

/-- The text of an identity joins its parts. -/
theorem text_eq (id : InvocationId) :
    id.text.toList = [':'].intercalate (id.parts.map String.toList) := by
  unfold text parts numbered repairSuffix
  split <;> split <;> simp [List.intercalate]

/-- The run and the agent of the identifier hold no colon. -/
def Wellformed (id : InvocationId) : Prop := Plain id.runId ∧ Plain id.agent

/-- No part of a well-formed identity has a separator. -/
theorem plain_parts {id : InvocationId} (hwellformed : id.Wellformed) :
    ∀ part ∈ id.parts, Plain part := by
  have hnumbered (name : String) (hname : Plain name) (value : Nat) :
      ∀ part ∈ numbered name value, Plain part := by
    unfold numbered
    split
    next => exact List.forall_mem_nil _
    next =>
      rintro part (_ | ⟨_, _ | ⟨_, ⟨⟩⟩⟩)
      · exact hname
      · exact plain_nat value
  intro part hpart
  rcases List.mem_append.mp hpart with hfirst | hnumbers
  · simp only [List.mem_cons, List.not_mem_nil, or_false] at hfirst
    rcases hfirst with rfl | rfl | rfl
    · exact hwellformed.1
    · exact plain_stage id.stage
    · exact hwellformed.2
  · rcases List.mem_append.mp hnumbers with hrepair | hretry
    · exact hnumbered "repair" (by decide) _ part hrepair
    · exact hnumbered "retry" (by decide) _ part hretry

/-- Two invocations with one identifier are one invocation. -/
theorem text_inj {first second : InvocationId} (hfirst : first.Wellformed)
    (hsecond : second.Wellformed) (htext : first.text = second.text) : first = second := by
  have hsplit {id : InvocationId} (hwellformed : id.Wellformed) :
      id.text.toList.splitOn ':' = id.parts.map String.toList := by
    rw [text_eq]
    refine List.splitOn_intercalate ':' (fun part hpart => ?_) (by simp [parts])
    obtain ⟨text, htext, rfl⟩ := List.mem_map.mp hpart
    exact plain_parts hwellformed text htext
  refine parts_inj (List.map_injective_iff.mpr (fun _ _ => String.toList_inj.mp) ?_)
  rw [← hsplit hfirst, ← hsplit hsecond, htext]

end InvocationId

end Aidlc
