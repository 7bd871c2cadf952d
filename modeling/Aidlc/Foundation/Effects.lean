import Mathlib.Data.List.Forall2

/-! # State with exceptions

Inversion of computations that change a state and may raise: an exception
keeps the state reached when it was raised. A computation that returned is
taken apart into the computations it is made of.
-/

namespace Foundation

universe u

variable {ε σ α β : Type u}

/-- A sequence returns when both its parts do. -/
theorem bind_eq_ok {computation : EStateM ε σ α} {rest : α → EStateM ε σ β}
    {state last : σ} {result : β} :
    (computation >>= rest) state = .ok result last ↔
      ∃ value middle, computation state = .ok value middle ∧
        rest value middle = .ok result last := by
  change EStateM.bind computation rest state = .ok result last ↔ _
  unfold EStateM.bind
  cases hfirst : computation state with
  | ok value middle =>
      constructor
      · exact fun hrest => ⟨value, middle, rfl, hrest⟩
      · rintro ⟨other, final, heq, hrest⟩
        cases heq
        exact hrest
  | error error middle => simp

/-- A sequence raises where one of its parts does. -/
theorem bind_eq_error {computation : EStateM ε σ α} {rest : α → EStateM ε σ β}
    {state last : σ} {error : ε} :
    (computation >>= rest) state = .error error last ↔
      computation state = .error error last ∨
        ∃ value middle, computation state = .ok value middle ∧
          rest value middle = .error error last := by
  change EStateM.bind computation rest state = .error error last ↔ _
  unfold EStateM.bind
  cases hfirst : computation state with
  | ok value middle =>
      constructor
      · exact fun hrest => Or.inr ⟨value, middle, rfl, hrest⟩
      · rintro (hraised | ⟨other, final, heq, hrest⟩)
        · cases hraised
        · cases heq
          exact hrest
  | error raised middle => simp

theorem bind_of_ok {computation : EStateM ε σ α} {state middle : σ} {value : α}
    (hfirst : computation state = .ok value middle) (rest : α → EStateM ε σ β) :
    (computation >>= rest) state = rest value middle := by
  change EStateM.bind computation rest state = _
  simp only [EStateM.bind, hfirst]

theorem bind_of_error {computation : EStateM ε σ α} {state middle : σ} {error : ε}
    (hfirst : computation state = .error error middle) (rest : α → EStateM ε σ β) :
    (computation >>= rest) state = .error error middle := by
  change EStateM.bind computation rest state = _
  simp only [EStateM.bind, hfirst]

theorem get_run (state : σ) : (get : EStateM ε σ σ) state = .ok state state := rfl

theorem pure_eq_ok {state last : σ} {value result : α} :
    (pure value : EStateM ε σ α) state = .ok result last ↔ value = result ∧ state = last := by
  change EStateM.Result.ok value state = .ok result last ↔ _
  rw [EStateM.Result.ok.injEq]

theorem get_eq_ok {state last value : σ} :
    (get : EStateM ε σ σ) state = .ok value last ↔ state = value ∧ state = last := by
  change EStateM.Result.ok state state = .ok value last ↔ _
  rw [EStateM.Result.ok.injEq]

theorem throw_ne_ok {error : ε} {state last : σ} {result : α} :
    (throw error : EStateM ε σ α) state ≠ .ok result last := by
  change EStateM.Result.error error state ≠ .ok result last
  nofun

theorem throw_eq_error {error raised : ε} {state last : σ} :
    (throw error : EStateM ε σ α) state = .error raised last ↔ error = raised ∧ state = last := by
  change EStateM.Result.error error state = .error raised last ↔ _
  rw [EStateM.Result.error.injEq]

theorem pure_ne_error {value : α} {state last : σ} {error : ε} :
    (pure value : EStateM ε σ α) state ≠ .error error last := by
  change EStateM.Result.ok value state ≠ .error error last
  nofun

theorem get_ne_error {state last : σ} {error : ε} :
    (get : EStateM ε σ σ) state ≠ .error error last := by
  change EStateM.Result.ok state state ≠ .error error last
  nofun

/-- A computed ending leaves the state as it was. -/
theorem ofExcept_eq_ok {ending : Except ε α} {value : α} {state last : σ} :
    (ofExcept ending : EStateM ε σ α) state = .ok value last ↔ ending = .ok value ∧ state = last := by
  cases ending with
  | ok found => rw [ofExcept, pure_eq_ok, Except.ok.injEq]
  | error error => simp [ofExcept, throw_ne_ok]

/-- The value and the state of a computation that returned. -/
def returned : EStateM.Result ε σ α → Option (α × σ)
  | .ok value state => some (value, state)
  | .error _ _ => none

theorem eq_ok_of_returned {result : EStateM.Result ε σ α} (hsome : (returned result).isSome) :
    result = .ok ((returned result).get hsome).1 ((returned result).get hsome).2 := by
  cases result with
  | ok value state => rfl
  | error error state => simp [returned] at hsome

/-- The state a computation ends in, whether it returned or raised. -/
def finalState : EStateM.Result ε σ α → σ
  | .ok _ state => state
  | .error _ state => state

/-- Two results with the same value, or the same exception, in related states. -/
inductive Related (relation : σ → σ → Prop) :
    EStateM.Result ε σ α → EStateM.Result ε σ α → Prop
  | ok (value : α) {first second : σ} (hstates : relation first second) :
      Related relation (.ok value first) (.ok value second)
  | error (error : ε) {first second : σ} (hstates : relation first second) :
      Related relation (.error error first) (.error error second)

/-- Related runs stay related through a sequence. -/
theorem Related.bind {relation : σ → σ → Prop} {computation : EStateM ε σ α}
    {rest : α → EStateM ε σ β} {first second : σ}
    (hcomputation : Related relation (computation first) (computation second))
    (hrest : ∀ value left right, relation left right →
      Related relation (rest value left) (rest value right)) :
    Related relation ((computation >>= rest) first) ((computation >>= rest) second) := by
  cases hleft : computation first with
  | ok value left =>
      rw [bind_of_ok hleft]
      cases hright : computation second with
      | ok other right =>
          rw [hleft, hright] at hcomputation
          rw [bind_of_ok hright]
          cases hcomputation with
          | ok value hstates => exact hrest value left right hstates
      | error error right =>
          rw [hleft, hright] at hcomputation
          nomatch hcomputation
  | error error left =>
      rw [bind_of_error hleft]
      cases hright : computation second with
      | ok other right =>
          rw [hleft, hright] at hcomputation
          nomatch hcomputation
      | error other right =>
          rw [hleft, hright] at hcomputation
          rw [bind_of_error hright]
          cases hcomputation with
          | error error hstates => exact .error error hstates

/-- Reading a list of items one by one without changing the state. -/
theorem mapM_eq_ok_of_reads (holds : σ → α → β → Prop) {item : α → EStateM ε σ β}
    (hitem : ∀ value result state next, item value state = .ok result next →
      next = state ∧ holds state value result)
    {values : List α} {results : List β} {state last : σ}
    (hmap : values.mapM item state = .ok results last) :
    last = state ∧ List.Forall₂ (holds state) values results := by
  induction values generalizing results last with
  | nil =>
      rw [List.mapM_nil, pure_eq_ok] at hmap
      obtain ⟨rfl, rfl⟩ := hmap
      exact ⟨rfl, .nil⟩
  | cons value rest ih =>
      rw [List.mapM_cons, bind_eq_ok] at hmap
      obtain ⟨result, middle, hfirst, hmap⟩ := hmap
      rw [bind_eq_ok] at hmap
      obtain ⟨tail, final, hrest, hmap⟩ := hmap
      rw [pure_eq_ok] at hmap
      obtain ⟨rfl, rfl⟩ := hmap
      obtain ⟨rfl, hholds⟩ := hitem value result state middle hfirst
      obtain ⟨rfl, htail⟩ := ih hrest
      exact ⟨rfl, .cons hholds htail⟩

/-- A result that is as it should be, or an error where one should be. -/
def Meets (holds : β → σ → Prop) (fails : Prop) : EStateM.Result ε σ β → Prop
  | .ok value state => holds value state
  | .error _ _ => fails

/-- A loop meets what its steps meet; what fails once has failed for good. -/
theorem meets_foldlM {δ : Type u} {step : β → α → EStateM ε σ β} {next : δ → α → δ}
    (holds : δ → β → σ → Prop) (fails : δ → Prop)
    (hstep : ∀ target value item state, holds target value state →
      Meets (holds (next target item)) (fails (next target item)) (step value item state))
    (hfails : ∀ target item, fails target → fails (next target item)) {items : List α}
    {target : δ} {value : β} {state : σ} (hholds : holds target value state) :
    Meets (holds (items.foldl next target)) (fails (items.foldl next target))
      (items.foldlM step value state) := by
  induction items generalizing target value state with
  | nil => exact hholds
  | cons item rest ih =>
      have hfirst := hstep target value item state hholds
      rw [List.foldlM_cons, List.foldl_cons]
      cases hran : step value item state with
      | ok after middle =>
          rw [hran] at hfirst
          rw [bind_of_ok hran]
          exact ih hfirst
      | error error middle =>
          rw [hran] at hfirst
          rw [bind_of_error hran]
          apply List.foldlRecOn rest next hfirst
          exact fun target hfailed item _ => hfails target item hfailed

theorem exists_of_forall₂_left {holds : α → β → Prop} {values : List α} {results : List β}
    (hall : List.Forall₂ holds values results) {value : α} (hmem : value ∈ values) :
    ∃ result ∈ results, holds value result := by
  induction hall with
  | nil => simp at hmem
  | cons hfirst _ ih =>
      rcases List.mem_cons.mp hmem with rfl | hrest
      · exact ⟨_, List.mem_cons_self, hfirst⟩
      · obtain ⟨result, hresult, hholds⟩ := ih hrest
        exact ⟨result, List.mem_cons_of_mem _ hresult, hholds⟩

section Except

variable {raised : Type u} {items : List α}

/-- A sequence of fallible steps returns when both parts do. -/
theorem except_bind_eq_ok {first : Except raised α} {rest : α → Except raised β} {result : β} :
    first >>= rest = .ok result ↔ ∃ value, first = .ok value ∧ rest value = .ok result := by
  cases first with
  | ok value => simp [bind, Except.bind]
  | error error => simp [bind, Except.bind]

theorem except_map_eq_ok {first : Except raised α} {change : α → β} {result : β} :
    change <$> first = .ok result ↔ ∃ value, first = .ok value ∧ change value = result := by
  cases first with
  | ok value => simp [Functor.map, Except.map]
  | error error => simp [Functor.map, Except.map]

theorem except_bind_eq_error {first : Except raised α} {rest : α → Except raised β}
    {error : raised} :
    first >>= rest = .error error ↔
      first = .error error ∨ ∃ value, first = .ok value ∧ rest value = .error error := by
  cases first with
  | ok value => simp [bind, Except.bind]
  | error other => simp [bind, Except.bind]

/-- A mapped step that never fails is a plain map. -/
theorem mapM_of_ok {item : α → Except raised β} {value : α → β}
    (hitem : ∀ entry ∈ items, item entry = .ok (value entry)) :
    items.mapM item = .ok (items.map value) := by
  induction items with
  | nil => rfl
  | cons entry rest ih =>
      rw [List.mapM_cons, hitem entry List.mem_cons_self,
        ih fun other hmem => hitem other (List.mem_cons_of_mem _ hmem)]
      rfl

/-- A property of each result carries over to all of them. -/
theorem mapM_returns {item : α → Except raised β} {holds : α → β → Prop}
    (hitem : ∀ entry ∈ items, ∃ value, item entry = .ok value ∧ holds entry value) :
    ∃ values, items.mapM item = .ok values ∧ List.Forall₂ holds items values := by
  induction items with
  | nil => exact ⟨[], rfl, .nil⟩
  | cons entry rest ih =>
      obtain ⟨value, hvalue, hholds⟩ := hitem entry List.mem_cons_self
      obtain ⟨values, hvalues, hall⟩ := ih fun other hmem =>
        hitem other (List.mem_cons_of_mem _ hmem)
      exact ⟨value :: values, by rw [List.mapM_cons, hvalue, hvalues]; rfl, .cons hholds hall⟩

/-- The results are those of the items, one by one. -/
theorem forall₂_of_mapM {item : α → Except raised β} {results : List β}
    (hresults : items.mapM item = .ok results) :
    List.Forall₂ (fun entry result => item entry = .ok result) items results := by
  induction items generalizing results with
  | nil =>
      cases hresults
      exact .nil
  | cons entry rest ih =>
      rw [List.mapM_cons, except_bind_eq_ok] at hresults
      obtain ⟨first, hfirst, hrest⟩ := hresults
      rw [except_bind_eq_ok] at hrest
      obtain ⟨others, hothers, hresult⟩ := hrest
      cases hresult
      exact .cons hfirst (ih hothers)

/-- A mapped step returns exactly when it returns on every item. -/
theorem mapM_returns_iff {item : α → Except raised β} :
    (∃ values, items.mapM item = .ok values) ↔
      ∀ entry ∈ items, ∃ value, item entry = .ok value := by
  constructor
  · rintro ⟨values, hvalues⟩ entry hentry
    obtain ⟨value, -, hvalue⟩ := exists_of_forall₂_left (forall₂_of_mapM hvalues) hentry
    exact ⟨value, hvalue⟩
  · intro hitem
    obtain ⟨values, hvalues, -⟩ := mapM_returns fun entry hentry =>
      (hitem entry hentry).imp fun _ hvalue => ⟨hvalue, trivial⟩
    exact ⟨values, hvalues⟩

/-- What is read off the results is what the items say of them. -/
theorem map_of_mapM_eq_ok {γ : Type} {item : α → Except raised β} {value : α → γ} {read : β → γ}
    {results : List β} (hvalue : ∀ entry result, item entry = .ok result → read result = value entry)
    (hresults : items.mapM item = .ok results) : results.map read = items.map value := by
  have hall := forall₂_of_mapM hresults
  clear hresults
  induction hall with
  | nil => rfl
  | cons hfirst _ ih => rw [List.map_cons, List.map_cons, hvalue _ _ hfirst, ih]

/-- A fallible test that never fails is a plain filter. -/
theorem filterM_of_ok {α raised : Type} {items : List α} {test : α → Except raised Bool}
    {keeps : α → Bool}
    (htest : ∀ entry ∈ items, test entry = .ok (keeps entry)) :
    items.filterM test = .ok (items.filter keeps) := by
  have hloop : ∀ (entries kept : List α), (∀ entry ∈ entries, entry ∈ items) →
      List.filterAuxM test entries kept = .ok ((entries.filter keeps).reverse ++ kept) := by
    intro entries
    induction entries with
    | nil => exact fun kept _ => rfl
    | cons entry rest ih =>
        intro kept hmem
        have hrest : ∀ other ∈ rest, other ∈ items :=
          fun other hother => hmem other (List.mem_cons_of_mem _ hother)
        rw [List.filterAuxM, htest entry (hmem entry List.mem_cons_self)]
        change List.filterAuxM test rest (cond (keeps entry) (entry :: kept) kept) = _
        rw [ih _ hrest]
        cases hkeeps : keeps entry <;> simp [hkeeps]
  unfold List.filterM
  rw [hloop items [] fun _ hmem => hmem]
  simp [bind, Except.bind, pure, Except.pure]

/-- A filter ends only when every test did. -/
theorem tests_of_filterM {α raised : Type} {items kept : List α} {test : α → Except raised Bool}
    (hkept : items.filterM test = .ok kept) : ∀ entry ∈ items, ∃ keeps, test entry = .ok keeps := by
  have hloop : ∀ (entries start last : List α), List.filterAuxM test entries start = .ok last →
      ∀ entry ∈ entries, ∃ keeps, test entry = .ok keeps := by
    intro entries
    induction entries with
    | nil => simp
    | cons entry rest ih =>
        intro start last hlast
        rw [List.filterAuxM, except_bind_eq_ok] at hlast
        obtain ⟨keeps, hkeeps, hrest⟩ := hlast
        intro other hother
        rcases List.mem_cons.mp hother with rfl | hmem
        · exact ⟨keeps, hkeeps⟩
        · exact ih _ last hrest other hmem
  rw [List.filterM, except_bind_eq_ok] at hkept
  obtain ⟨reversed, hreversed, -⟩ := hkept
  exact hloop items [] reversed hreversed

end Except

end Foundation
