import Mathlib.Data.List.Basic

namespace Osvauld.Data

/-! Computations in `Except`: what a success says about their parts. -/

section Success

variable {ε ε' : Type*} {α β : Type*}

theorem bind_eq_ok {ε : Type u} {α β : Type v} {first : Except ε α}
    {continuation : α → Except ε β} {result : β} :
    first >>= continuation = .ok result ↔
      ∃ value, first = .ok value ∧ continuation value = .ok result := by
  cases first with
  | ok value => simp [bind, Except.bind]
  | error error => simp [bind, Except.bind]

theorem mapError_eq_ok {translate : ε → ε'} {outcome : Except ε α} {value : α} :
    outcome.mapError translate = .ok value ↔ outcome = .ok value := by
  cases outcome <;> simp [Except.mapError]

theorem foldlM_invariant {ε : Type u} {σ : Type v} {step : σ → β → Except ε σ}
    (invariant : σ → Prop) {items : List β} {state result : σ}
    (hstep : ∀ item ∈ items, ∀ state next, invariant state →
      step state item = .ok next → invariant next)
    (hstate : invariant state) (hloop : items.foldlM step state = .ok result) :
    invariant result := by
  induction items generalizing state with
  | nil =>
      cases hloop
      exact hstate
  | cons item rest ih =>
      rw [List.foldlM_cons, bind_eq_ok] at hloop
      obtain ⟨next, hnext, hrest⟩ := hloop
      exact ih (fun other hother => hstep other (List.mem_cons_of_mem _ hother))
        (hstep item List.mem_cons_self state next hstate hnext) hrest

theorem mem_of_mapM_eq_ok {ε : Type u} {α : Type u'} {β : Type v}
    {body : α → Except ε β} {items : List α} {results : List β}
    (hmap : items.mapM body = .ok results) {result : β}
    (hresult : result ∈ results) :
    ∃ item ∈ items, body item = .ok result := by
  induction items generalizing results with
  | nil =>
      cases hmap
      cases hresult
  | cons item rest ih =>
      rw [List.mapM_cons, bind_eq_ok] at hmap
      obtain ⟨head, hhead, hmap⟩ := hmap
      rw [bind_eq_ok] at hmap
      obtain ⟨tail, htail, hmap⟩ := hmap
      cases hmap
      rcases List.mem_cons.mp hresult with rfl | hmem
      · exact ⟨item, List.mem_cons_self, hhead⟩
      · obtain ⟨other, hother, hbody⟩ := ih htail hmem
        exact ⟨other, List.mem_cons_of_mem _ hother, hbody⟩

end Success

abbrev Call (ε α : Type) := ExceptT ε Option α

namespace Call

variable {ε ε' α β : Type}

def panicked : Call ε α := ExceptT.mk none

def Returns (call : Call ε α) : Prop := call.run.isSome

def unwrap (outcome : Except ε' α) : Call ε α :=
  match outcome with
  | .ok value => pure value
  | .error _ => panicked

def fromSlice (length : Nat) (slice : List α) :
    Call ε { items : List α // items.length = length } :=
  if hlength : slice.length = length then pure ⟨slice, hlength⟩ else panicked

def sliceTo (stop : Nat) (items : List α) : Call ε (List α) :=
  if stop ≤ items.length then pure (items.take stop) else panicked

def sliceFrom (start : Nat) (items : List α) : Call ε (List α) :=
  if start ≤ items.length then pure (items.drop start) else panicked

@[simp] theorem returns_pure (value : α) : Returns (pure value : Call ε α) := rfl

@[simp] theorem returns_throw (error : ε) : Returns (throw error : Call ε α) := rfl

@[simp] theorem not_returns_panicked : ¬ Returns (panicked : Call ε α) := by
  simp [Returns, panicked]

@[simp] theorem returns_lift (outcome : Except ε α) : Returns (liftM outcome : Call ε α) := rfl

variable {next : α → Call ε β}

theorem returns_bind {call : Call ε α} :
    Returns (call >>= next) ↔
      Returns call ∧ ∀ value, call.run = some (.ok value) → Returns (next value) := by
  rcases call with _ | _ | value
  · simp [Returns, bind, ExceptT.bind, ExceptT.mk, ExceptT.run]
  · simp [Returns, bind, ExceptT.bind, ExceptT.bindCont, ExceptT.mk, ExceptT.run]
  · simp [Returns, bind, ExceptT.bind, ExceptT.bindCont, ExceptT.mk, ExceptT.run]

theorem returns_lift_bind {outcome : Except ε α} :
    Returns (liftM outcome >>= next : Call ε β) ↔
      ∀ value, outcome = .ok value → Returns (next value) := by
  rw [returns_bind]
  constructor
  · rintro ⟨-, hnext⟩ value rfl
    exact hnext value rfl
  · intro hnext
    refine ⟨returns_lift outcome, fun value hvalue => hnext value ?_⟩
    exact Option.some.inj hvalue

theorem returns_unwrap_bind {outcome : Except ε' α} :
    Returns (unwrap outcome >>= next) ↔
      ∃ value, outcome = .ok value ∧ Returns (next value) := by
  cases outcome with
  | error error => simp [unwrap, returns_bind]
  | ok value => simp [unwrap]

theorem returns_fromSlice_bind {length : Nat} {slice : List α}
    {next : { items : List α // items.length = length } → Call ε β} :
    Returns (fromSlice length slice >>= next) ↔
      ∃ hlength : slice.length = length, Returns (next ⟨slice, hlength⟩) := by
  unfold fromSlice
  split
  · next hlength => simp [hlength]
  · next hlength => simp [hlength, returns_bind]

theorem returns_sliceTo_bind {stop : Nat} {items : List α} {next : List α → Call ε β} :
    Returns (sliceTo stop items >>= next) ↔
      stop ≤ items.length ∧ Returns (next (items.take stop)) := by
  unfold sliceTo
  split
  · next hstop => simp [hstop]
  · next hstop => simp [hstop, returns_bind]

theorem returns_sliceFrom_bind {start : Nat} {items : List α} {next : List α → Call ε β} :
    Returns (sliceFrom start items >>= next) ↔
      start ≤ items.length ∧ Returns (next (items.drop start)) := by
  unfold sliceFrom
  split
  · next hstart => simp [hstart]
  · next hstart => simp [hstart, returns_bind]

end Call

end Osvauld.Data
