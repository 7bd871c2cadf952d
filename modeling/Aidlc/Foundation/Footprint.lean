import Aidlc.Foundation.Program

/-! # What a program may ask

Most parts of a program are of no concern to most protocols. The requests a part can
come to are collected once, whatever answers them; a protocol that takes all of them
for granted is then kept by the part as a whole.
-/

namespace Foundation

namespace Program

variable {Request : Type} {Answer : Request → Type} {ε η α β : Type} {allowed : Request → Prop}

/-- Every request the program can come to is allowed. -/
def Asks (allowed : Request → Prop) : Program Request Answer ε α → Prop
  | .done _ | .raise _ => True
  | .call request resume => allowed request ∧ ∀ answer, (resume answer).Asks allowed

namespace Asks

theorem done (value : α) : (Program.done value : Program Request Answer ε α).Asks allowed := trivial

theorem raise (error : ε) : (Program.raise error : Program Request Answer ε α).Asks allowed :=
  trivial

theorem ofExcept (result : Except ε α) :
    (Program.ofExcept result : Program Request Answer ε α).Asks allowed := by
  cases result with
  | ok value => exact done value
  | error error => exact raise error

theorem ask {request : Request} (hrequest : allowed request) (read : Answer request → Except ε α) :
    (Program.ask request read : Program Request Answer ε α).Asks allowed :=
  ⟨hrequest, fun _ => ofExcept _⟩

theorem mono {program : Program Request Answer ε α} {wider : Request → Prop}
    (hasks : program.Asks allowed) (hwider : ∀ request, allowed request → wider request) :
    program.Asks wider := by
  induction program with
  | done value => trivial
  | raise error => trivial
  | call request resume ih => exact ⟨hwider request hasks.1, fun answer => ih answer (hasks.2 answer)⟩

theorem bind {first : Program Request Answer ε α} {rest : α → Program Request Answer ε β}
    (hfirst : first.Asks allowed) (hrest : ∀ value, (rest value).Asks allowed) :
    (first >>= rest).Asks allowed := by
  induction first with
  | done value => exact hrest value
  | raise error => trivial
  | call request resume ih => exact ⟨hfirst.1, fun answer => ih answer (hfirst.2 answer)⟩

theorem handle {program : Program Request Answer ε α} {handler : ε → Program Request Answer η α}
    (hprogram : program.Asks allowed) (hhandler : ∀ error, (handler error).Asks allowed) :
    (program.handle handler).Asks allowed := by
  induction program with
  | done value => trivial
  | raise error => exact hhandler error
  | call request resume ih => exact ⟨hprogram.1, fun answer => ih answer (hprogram.2 answer)⟩

/-- A loop without an accumulator. -/
theorem forM {body : β → Program Request Answer ε PUnit} (hbody : ∀ item, (body item).Asks allowed)
    (items : List β) : (items.forM body).Asks allowed := by
  induction items with
  | nil => trivial
  | cons item rest ih => exact bind (hbody item) fun _ => ih

universe u

/-- A protocol under which every allowed request keeps an invariant. -/
theorem keeps {σ : Type u} {protocol : Protocol σ Request Answer} {invariant : σ → Prop}
    {program : Program Request Answer ε α} (hasks : program.Asks allowed)
    (hrequires : ∀ request, allowed request → ∀ state, invariant state →
      protocol.requires request state)
    (hanswers : ∀ request, allowed request → ∀ state drifted, invariant state →
      protocol.drifts request state drifted → ∀ answer next,
        protocol.answers request drifted answer next →
          protocol.guarantees drifted next ∧ invariant next) :
    program.Keeps protocol invariant := by
  intro state hstate
  induction program generalizing state with
  | done value => exact hstate
  | raise error => exact hstate
  | call request resume ih =>
      refine ⟨hrequires request hasks.1 state hstate, fun drifted hdrift answer next hanswer => ?_⟩
      obtain ⟨hguarantee, hnext⟩ := hanswers request hasks.1 state drifted hstate hdrift answer next
        hanswer
      exact ⟨hguarantee, ih answer (hasks.2 answer) next hnext⟩

end Asks

end Program

end Foundation
