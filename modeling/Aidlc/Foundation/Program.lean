/-! # Programs that stop at their requests

A program runs until it asks its surroundings for something and continues with
the answer. Whoever runs programs decides what happens between a request and
its answer, so the same text serves for a single program and for many that take
turns.
-/

namespace Foundation

universe u

/-- A program over the given requests; `resume` is the rest of it. -/
inductive Program (Request : Type) (Answer : Request → Type) (ε α : Type) : Type where
  | done (value : α)
  | raise (error : ε)
  | call (request : Request) (resume : Answer request → Program Request Answer ε α)

namespace Program

variable {Request : Type} {Answer : Request → Type} {ε η α β : Type}

/-- Continue with the value of a program; an exception ends the whole. -/
def bind : Program Request Answer ε α → (α → Program Request Answer ε β) →
    Program Request Answer ε β
  | .done value, rest => rest value
  | .raise error, _ => .raise error
  | .call request resume, rest => .call request fun answer => (resume answer).bind rest

/-- Continue with the handler where the program raised. -/
def handle : Program Request Answer ε α → (ε → Program Request Answer η α) →
    Program Request Answer η α
  | .done value, _ => .done value
  | .raise error, handler => handler error
  | .call request resume, handler => .call request fun answer => (resume answer).handle handler

instance : Monad (Program Request Answer ε) where
  pure := .done
  bind := bind

/-- The program that ends with this result. -/
def ofExcept : Except ε α → Program Request Answer ε α
  | .ok value => .done value
  | .error error => .raise error

/-- Ask, and end with the value or the exception that answers. -/
def ask (request : Request) (read : Answer request → Except ε α) : Program Request Answer ε α :=
  .call request fun answer => ofExcept (read answer)

@[simp] theorem pure_eq (value : α) : (pure value : Program Request Answer ε α) = .done value := rfl

@[simp] theorem done_bind (value : α) (rest : α → Program Request Answer ε β) :
    (Program.done value : Program Request Answer ε α) >>= rest = rest value := rfl

@[simp] theorem raise_bind (error : ε) (rest : α → Program Request Answer ε β) :
    (Program.raise error : Program Request Answer ε α) >>= rest = .raise error := rfl

@[simp] theorem call_bind (request : Request)
    (resume : Answer request → Program Request Answer ε α)
    (rest : α → Program Request Answer ε β) :
    Program.call request resume >>= rest = .call request fun answer => resume answer >>= rest := rfl

end Program

/-! ## Protocols -/

/-- What a program has to establish before it asks, what may happen to the state
while it waits, how it is answered, and which steps it may thereby cause. -/
structure Protocol (σ : Type u) (Request : Type) (Answer : Request → Type) where
  requires : Request → σ → Prop
  drifts : Request → σ → σ → Prop
  answers : (request : Request) → σ → Answer request → σ → Prop
  guarantees : σ → σ → Prop

namespace Program

variable {σ : Type u} {Request : Type} {Answer : Request → Type} {ε η α β : Type}
  (protocol : Protocol σ Request Answer)

/-- The program keeps to the protocol and ends with the postcondition. -/
def Meets (post : Except ε α → σ → Prop) : Program Request Answer ε α → σ → Prop
  | .done value, state => post (.ok value) state
  | .raise error, state => post (.error error) state
  | .call request resume, state =>
      protocol.requires request state ∧
        ∀ drifted, protocol.drifts request state drifted → ∀ answer next,
          protocol.answers request drifted answer next →
            protocol.guarantees drifted next ∧ (resume answer).Meets post next

/-- The rest of a program that waits for the answer to a request. -/
def Awaits (post : Except ε α → σ → Prop) (request : Request)
    (resume : Answer request → Program Request Answer ε α) (state : σ) : Prop :=
  ∀ drifted, protocol.drifts request state drifted → ∀ answer next,
    protocol.answers request drifted answer next →
      protocol.guarantees drifted next ∧ (resume answer).Meets protocol post next

variable {protocol} {post : Except ε α → σ → Prop}

theorem meets_call_iff {request : Request}
    {resume : Answer request → Program Request Answer ε α} {state : σ} :
    (Program.call request resume).Meets protocol post state ↔
      protocol.requires request state ∧ Awaits protocol post request resume state := Iff.rfl

theorem meets_ofExcept {result : Except ε α} {state : σ} :
    (ofExcept result : Program Request Answer ε α).Meets protocol post state ↔ post result state := by
  cases result <;> exact Iff.rfl

/-- What happens while a program waits is no news to it. -/
theorem Awaits.drift {request : Request}
    {resume : Answer request → Program Request Answer ε α} {state drifted : σ}
    (htrans : ∀ first second third, protocol.drifts request first second →
      protocol.drifts request second third → protocol.drifts request first third)
    (hawaits : Awaits protocol post request resume state)
    (hdrift : protocol.drifts request state drifted) :
    Awaits protocol post request resume drifted :=
  fun later hlater answer next hanswer =>
    hawaits later (htrans _ _ _ hdrift hlater) answer next hanswer

namespace Meets

theorem mono {program : Program Request Answer ε α} {weaker : Except ε α → σ → Prop} {state : σ}
    (hpost : ∀ result final, post result final → weaker result final)
    (hmeets : program.Meets protocol post state) : program.Meets protocol weaker state := by
  induction program generalizing state with
  | done value => exact hpost _ _ hmeets
  | raise error => exact hpost _ _ hmeets
  | call request resume ih =>
      obtain ⟨hrequires, hawaits⟩ := hmeets
      refine ⟨hrequires, fun drifted hdrift answer next hanswer => ?_⟩
      obtain ⟨hguarantee, hnext⟩ := hawaits drifted hdrift answer next hanswer
      exact ⟨hguarantee, ih answer hnext⟩

/-- One program after another. -/
theorem bind {first : Program Request Answer ε α} {rest : α → Program Request Answer ε β}
    {post : Except ε β → σ → Prop} {state : σ}
    (hfirst : first.Meets protocol (fun result final => match result with
      | .ok value => (rest value).Meets protocol post final
      | .error error => post (.error error) final) state) :
    (first >>= rest).Meets protocol post state := by
  induction first generalizing state with
  | done value => exact hfirst
  | raise error => exact hfirst
  | call request resume ih =>
      obtain ⟨hrequires, hawaits⟩ := hfirst
      refine ⟨hrequires, fun drifted hdrift answer next hanswer => ?_⟩
      obtain ⟨hguarantee, hnext⟩ := hawaits drifted hdrift answer next hanswer
      exact ⟨hguarantee, ih answer hnext⟩

/-- A handler only runs where the program raised. -/
theorem handle {program : Program Request Answer ε α} {handler : ε → Program Request Answer η α}
    {post : Except η α → σ → Prop} {state : σ}
    (hprogram : program.Meets protocol (fun result final => match result with
      | .ok value => post (.ok value) final
      | .error error => (handler error).Meets protocol post final) state) :
    (program.handle handler).Meets protocol post state := by
  induction program generalizing state with
  | done value => exact hprogram
  | raise error => exact hprogram
  | call request resume ih =>
      obtain ⟨hrequires, hawaits⟩ := hprogram
      refine ⟨hrequires, fun drifted hdrift answer next hanswer => ?_⟩
      obtain ⟨hguarantee, hnext⟩ := hawaits drifted hdrift answer next hanswer
      exact ⟨hguarantee, ih answer hnext⟩

/-- A single request. -/
theorem ask {request : Request} {read : Answer request → Except ε α} {state : σ}
    (hrequires : protocol.requires request state)
    (hanswers : ∀ drifted, protocol.drifts request state drifted → ∀ answer next,
      protocol.answers request drifted answer next →
        protocol.guarantees drifted next ∧ post (read answer) next) :
    (Program.ask request read).Meets protocol post state := by
  refine ⟨hrequires, fun drifted hdrift answer next hanswer => ?_⟩
  obtain ⟨hguarantee, hpost⟩ := hanswers drifted hdrift answer next hanswer
  exact ⟨hguarantee, meets_ofExcept.mpr hpost⟩

end Meets

/-- Where the invariant holds the program keeps to the protocol, and it ends where it
holds again, with a value or with an exception. -/
def Keeps (protocol : Protocol σ Request Answer) (invariant : σ → Prop)
    (program : Program Request Answer ε α) : Prop :=
  ∀ state, invariant state → program.Meets protocol (fun _ final => invariant final) state

namespace Keeps

variable {invariant : σ → Prop}

theorem done (value : α) :
    (Program.done value : Program Request Answer ε α).Keeps protocol invariant :=
  fun _ hstate => hstate

theorem raise (error : ε) :
    (Program.raise error : Program Request Answer ε α).Keeps protocol invariant :=
  fun _ hstate => hstate

theorem bind {first : Program Request Answer ε α} {rest : α → Program Request Answer ε β}
    (hfirst : first.Keeps protocol invariant)
    (hrest : ∀ value, (rest value).Keeps protocol invariant) :
    (first >>= rest).Keeps protocol invariant := by
  intro state hstate
  refine .bind ((hfirst state hstate).mono fun result final hfinal => ?_)
  cases result with
  | ok value => exact hrest value final hfinal
  | error error => exact hfinal

theorem handle {program : Program Request Answer ε α} {handler : ε → Program Request Answer η α}
    (hprogram : program.Keeps protocol invariant)
    (hhandler : ∀ error, (handler error).Keeps protocol invariant) :
    (program.handle handler).Keeps protocol invariant := by
  intro state hstate
  refine .handle ((hprogram state hstate).mono fun result final hfinal => ?_)
  cases result with
  | ok value => exact hfinal
  | error error => exact hhandler error final hfinal

/-- A loop without an accumulator. -/
theorem forM {body : β → Program Request Answer ε PUnit}
    (hbody : ∀ item, (body item).Keeps protocol invariant) (items : List β) :
    (items.forM body).Keeps protocol invariant := by
  induction items with
  | nil => exact .done _
  | cons item rest ih => exact .bind (hbody item) fun _ => ih

/-- A program with the invariant before one that has its own reason from there. -/
theorem meets_bind {first : Program Request Answer ε α}
    {rest : α → Program Request Answer ε β} {post : Except ε β → σ → Prop} {state : σ}
    (hfirst : first.Keeps protocol invariant) (hstate : invariant state)
    (hrest : ∀ value final, invariant final → (rest value).Meets protocol post final)
    (herror : ∀ error final, invariant final → post (.error error) final) :
    (first >>= rest).Meets protocol post state := by
  refine .bind ((hfirst state hstate).mono fun result final hfinal => ?_)
  cases result with
  | ok value => exact hrest value final hfinal
  | error error => exact herror error final hfinal

end Keeps

/-- The program keeps the invariant, and what it returns has the property. -/
def Yields (protocol : Protocol σ Request Answer) (invariant : σ → Prop) (returns : α → Prop)
    (program : Program Request Answer ε α) : Prop :=
  ∀ state, invariant state → program.Meets protocol
    (fun result final => invariant final ∧ ∀ value, result = .ok value → returns value) state

namespace Yields

variable {invariant : σ → Prop} {returns : α → Prop}

theorem done {value : α} (hvalue : returns value) :
    (Program.done value : Program Request Answer ε α).Yields protocol invariant returns := by
  refine fun state hstate => ⟨hstate, fun other hother => ?_⟩
  cases hother
  exact hvalue

theorem raise (error : ε) :
    (Program.raise error : Program Request Answer ε α).Yields protocol invariant returns :=
  fun _ hstate => ⟨hstate, nofun⟩

/-- What a program returns is known to the one after it. -/
theorem bind {first : Program Request Answer ε α} {rest : α → Program Request Answer ε β}
    {yields : β → Prop} (hfirst : first.Yields protocol invariant returns)
    (hrest : ∀ value, returns value → (rest value).Yields protocol invariant yields) :
    (first >>= rest).Yields protocol invariant yields := by
  intro state hstate
  refine .bind ((hfirst state hstate).mono fun result final hfinal => ?_)
  cases result with
  | ok value => exact hrest value (hfinal.2 value rfl) final hfinal.1
  | error error => exact ⟨hfinal.1, nofun⟩

theorem keeps {program : Program Request Answer ε α}
    (hyields : program.Yields protocol invariant returns) :
    program.Keeps protocol invariant :=
  fun state hstate => (hyields state hstate).mono fun _ _ hfinal => hfinal.1

theorem bind_keeps {first : Program Request Answer ε α} {rest : α → Program Request Answer ε β}
    (hfirst : first.Yields protocol invariant returns)
    (hrest : ∀ value, returns value → (rest value).Keeps protocol invariant) :
    (first >>= rest).Keeps protocol invariant := by
  intro state hstate
  refine .bind ((hfirst state hstate).mono fun result final hfinal => ?_)
  cases result with
  | ok value => exact hrest value (hfinal.2 value rfl) final hfinal.1
  | error error => exact hfinal.1

end Yields

theorem Keeps.yields {invariant : σ → Prop} {program : Program Request Answer ε α}
    (hkeeps : program.Keeps protocol invariant) :
    program.Yields protocol invariant fun _ => True :=
  fun state hstate => (hkeeps state hstate).mono fun _ _ hfinal => ⟨hfinal, fun _ _ => trivial⟩

/-! ## Triples -/

/-- A program returns where the postcondition holds, or raises where the other one does. -/
def Ends (post : α → σ → Prop) (raised : ε → σ → Prop) : Except ε α → σ → Prop
  | .ok value, final => post value final
  | .error error, final => raised error final

/-- From the precondition the program keeps to the protocol up to its end. -/
def Leads (protocol : Protocol σ Request Answer) (pre : σ → Prop) (post : α → σ → Prop)
    (raised : ε → σ → Prop) (program : Program Request Answer ε α) : Prop :=
  ∀ state, pre state → program.Meets protocol (Ends post raised) state

namespace Leads

variable {pre : σ → Prop} {after : α → σ → Prop} {raised : ε → σ → Prop}

theorem done {value : α} (hpre : ∀ state, pre state → after value state) :
    (Program.done value : Program Request Answer ε α).Leads protocol pre after raised := hpre

theorem raise (error : ε) (hpre : ∀ state, pre state → raised error state) :
    (Program.raise error : Program Request Answer ε α).Leads protocol pre after raised := hpre

/-- What is known in advance of the state may be used for the program. -/
theorem of_pre {program : Program Request Answer ε α}
    (hleads : ∀ state, pre state → ∃ known : σ → Prop,
      known state ∧ program.Leads protocol known after raised) :
    program.Leads protocol pre after raised := by
  intro state hstate
  obtain ⟨known, hknown, hprogram⟩ := hleads state hstate
  exact hprogram state hknown

theorem mono {program : Program Request Answer ε α} {known : σ → Prop}
    {weaker : α → σ → Prop} {failed : ε → σ → Prop}
    (hleads : program.Leads protocol known after raised)
    (hpre : ∀ state, pre state → known state)
    (hpost : ∀ value final, after value final → weaker value final)
    (hraised : ∀ error final, raised error final → failed error final) :
    program.Leads protocol pre weaker failed := by
  refine fun state hstate => (hleads state (hpre state hstate)).mono fun result final hfinal => ?_
  cases result with
  | ok value => exact hpost value final hfinal
  | error error => exact hraised error final hfinal

/-- What holds at the end of one program holds where the next begins. -/
theorem bind {first : Program Request Answer ε α} {rest : α → Program Request Answer ε β}
    {post : β → σ → Prop} (hfirst : first.Leads protocol pre after raised)
    (hrest : ∀ value, (rest value).Leads protocol (after value) post raised) :
    (first >>= rest).Leads protocol pre post raised := by
  refine fun state hstate => .bind ((hfirst state hstate).mono fun result final hfinal => ?_)
  cases result with
  | ok value => exact hrest value final hfinal
  | error error => exact hfinal

theorem handle {program : Program Request Answer ε α} {handler : ε → Program Request Answer η α}
    {failed : η → σ → Prop} (hprogram : program.Leads protocol pre after raised)
    (hhandler : ∀ error, (handler error).Leads protocol (raised error) after failed) :
    (program.handle handler).Leads protocol pre after failed := by
  refine fun state hstate => .handle ((hprogram state hstate).mono fun result final hfinal => ?_)
  cases result with
  | ok value => exact hfinal
  | error error => exact hhandler error final hfinal

/-- A loop without an accumulator. -/
theorem forM {body : β → Program Request Answer ε PUnit} {invariant : σ → Prop}
    (hbody : ∀ item, (body item).Leads protocol invariant (fun _ => invariant) raised)
    (items : List β) : (items.forM body).Leads protocol invariant (fun _ => invariant) raised := by
  induction items with
  | nil => exact done fun _ hinvariant => hinvariant
  | cons item rest ih => exact bind (hbody item) fun _ => ih

end Leads

/-- A program that keeps an invariant leads from it to it. -/
theorem Keeps.leads {invariant : σ → Prop} {raised : ε → σ → Prop}
    {program : Program Request Answer ε α}
    (hkeeps : program.Keeps protocol invariant)
    (hraised : ∀ error final, invariant final → raised error final) :
    program.Leads protocol invariant (fun _ => invariant) raised := by
  refine fun state hstate => (hkeeps state hstate).mono fun result final hfinal => ?_
  cases result with
  | ok value => exact hfinal
  | error error => exact hraised error final hfinal

end Program

end Foundation
