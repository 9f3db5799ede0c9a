import Mathlib.Logic.Relation
import Mathlib.Order.Lattice

namespace Osvauld.Data

/-! Programs over a shared state, one atomic step at a time. A program can be
run to its end at once, or its steps can be interleaved with those of others. -/

inductive Program (σ : Type u) (ε : Type v) (α : Type w) where
  | done (result : Except ε α)
  | step (next : σ → σ) (rest : σ → Program σ ε α)

namespace Program

variable {σ : Type u} {τ : Type u} {ε ε' : Type v} {α β : Type w}

def bind (program : Program σ ε α) (continuation : α → Program σ ε β) :
    Program σ ε β :=
  match program with
  | .done (.ok value) => continuation value
  | .done (.error error) => .done (.error error)
  | .step next rest => .step next fun state => (rest state).bind continuation

instance : Monad (Program σ ε) where
  pure value := .done (.ok value)
  bind := bind

theorem pure_bind (value : α) (continuation : α → Program σ ε β) :
    (pure value >>= continuation) = continuation value := rfl

variable (steps : Nat) (error : ε) (update : σ → Except ε σ) (program : Program σ ε α)

theorem bind_pure : (program >>= pure) = program := by
  change program.bind _ = program
  induction program with
  | done result => cases result <;> rfl
  | step next rest ih => exact congrArg _ (funext ih)

theorem bind_assoc {γ : Type w} (first : α → Program σ ε β) (second : β → Program σ ε γ) :
    (program >>= first >>= second) = program >>= fun value => first value >>= second := by
  change (program.bind first).bind second = program.bind fun value => (first value).bind second
  induction program with
  | done result => cases result <;> rfl
  | step next rest ih => exact congrArg _ (funext ih)

def fail (error : ε) : Program σ ε α := .done (.error error)

def atomically (action : σ → Except ε α × σ) : Program σ ε α :=
  .step (fun state => (action state).2) fun state => .done (action state).1

def read (query : σ → Except ε α) : Program σ ε α :=
  atomically fun state => (query state, state)

def write (update : σ → Except ε σ) : Program σ ε PUnit :=
  atomically fun state =>
    match update state with
    | .ok state' => (.ok .unit, state')
    | .error error => (.error error, state)

def ofExcept (result : Except ε α) : Program σ ε α := .done result

def attempt (program : Program σ ε α) : Program σ ε' (Except ε α) :=
  match program with
  | .done result => .done (.ok result)
  | .step next rest => .step next fun state => (rest state).attempt

def mapError (translate : ε → ε') (program : Program σ ε α) : Program σ ε' α :=
  match program with
  | .done (.ok value) => .done (.ok value)
  | .done (.error error) => .done (.error (translate error))
  | .step next rest => .step next fun state => (rest state).mapError translate

def zoom (get : τ → σ) (set : σ → τ → τ) (program : Program σ ε α) :
    Program τ ε α :=
  match program with
  | .done result => .done result
  | .step next rest =>
      .step (fun state => set (next (get state)) state)
        fun state => (rest (get state)).zoom get set

def forEach (items : List β) (body : β → Program σ ε PUnit) :
    Program σ ε PUnit :=
  match items with
  | [] => pure .unit
  | item :: rest => body item >>= fun _ => forEach rest body

def run (program : Program σ ε α) (state : σ) : Except ε α × σ :=
  match program with
  | .done result => (result, state)
  | .step next rest => (rest state).run (next state)

def andThen (outcome : Except ε α × σ) (continuation : α → Program σ ε β) :
    Except ε β × σ :=
  match outcome with
  | (.ok value, state) => (continuation value).run state
  | (.error error, state) => (.error error, state)

@[simp] theorem andThen_ok (value : α) (state : σ)
    (continuation : α → Program σ ε β) :
    andThen (.ok value, state) continuation = (continuation value).run state :=
  rfl

@[simp] theorem andThen_error (state : σ) (continuation : α → Program σ ε β) :
    andThen (.error error, state) continuation = (.error error, state) := rfl

@[simp] theorem run_done (result : Except ε α) (state : σ) :
    (done result).run state = (result, state) := rfl

@[simp] theorem run_pure (value : α) (state : σ) :
    (pure value : Program σ ε α).run state = (.ok value, state) := rfl

@[simp] theorem run_fail (state : σ) :
    (fail error : Program σ ε α).run state = (.error error, state) := rfl

@[simp] theorem run_ofExcept (result : Except ε α) (state : σ) :
    (ofExcept result : Program σ ε α).run state = (result, state) := rfl

@[simp] theorem run_atomically (action : σ → Except ε α × σ) (state : σ) :
    (atomically action).run state = action state := rfl

@[simp] theorem run_read (query : σ → Except ε α) (state : σ) :
    (read query).run state = (query state, state) := rfl

theorem run_write (state : σ) :
    (write update).run state =
      match update state with
      | .ok state' => (.ok .unit, state')
      | .error error => (.error error, state) := rfl

@[simp] theorem run_bind (continuation : α → Program σ ε β) (state : σ) :
    (program >>= continuation).run state =
      andThen (program.run state) continuation := by
  change (program.bind continuation).run state = _
  induction program generalizing state with
  | done result => cases result <;> rfl
  | step next rest ih => exact ih state (next state)

theorem run_bind_eq_ok {program : Program σ ε α} {continuation : α → Program σ ε β}
    {state after : σ} {result : β} :
    (program >>= continuation).run state = (.ok result, after) ↔
      ∃ value between, program.run state = (.ok value, between) ∧
        (continuation value).run between = (.ok result, after) := by
  rw [run_bind]
  rcases program.run state with ⟨error | value, between⟩
  · simp
  · rw [andThen_ok]
    refine ⟨fun hrest => ⟨value, between, rfl, hrest⟩, ?_⟩
    rintro ⟨_, _, heq, hrest⟩
    cases heq
    exact hrest

@[simp] theorem run_attempt (state : σ) :
    (program.attempt : Program σ ε' (Except ε α)).run state =
      (.ok (program.run state).1, (program.run state).2) := by
  induction program generalizing state with
  | done result => rfl
  | step next rest ih => exact ih state (next state)

theorem run_mapError (translate : ε → ε') (program : Program σ ε α)
    (state : σ) :
    (program.mapError translate).run state =
      ((program.run state).1.mapError translate, (program.run state).2) := by
  induction program generalizing state with
  | done result => cases result <;> rfl
  | step next rest ih => exact ih state (next state)

theorem run_zoom {get : τ → σ} {set : σ → τ → τ}
    (hget : ∀ inner state, get (set inner state) = inner)
    (hset : ∀ inner inner' state, set inner' (set inner state) = set inner' state)
    (hself : ∀ state, set (get state) state = state)
    (program : Program σ ε α) (state : τ) :
    (program.zoom get set).run state =
      ((program.run (get state)).1, set (program.run (get state)).2 state) := by
  induction program generalizing state with
  | done result => simp [zoom, hself]
  | step next rest ih =>
      change ((rest (get state)).zoom get set).run (set (next (get state)) state) = _
      rw [ih, hget, hset]
      rfl

def stopAfter (steps : Nat) (program : Program σ ε α) (state : σ) : σ :=
  match steps, program with
  | 0, _ => state
  | _, .done _ => state
  | steps + 1, .step next rest => (rest state).stopAfter steps (next state)

@[simp] theorem stopAfter_zero (state : σ) : program.stopAfter 0 state = state := by
  cases program <;> rfl

@[simp] theorem stopAfter_done (result : Except ε α) (state : σ) :
    (done result).stopAfter steps state = state := by
  cases steps <;> rfl

theorem stopAfter_ofExcept_bind (result : Except ε α) (continuation : α → Program σ ε β) (state : σ) :
    (ofExcept result >>= continuation).stopAfter steps state =
      match result with
      | .ok value => (continuation value).stopAfter steps state
      | .error _ => state := by
  cases result with
  | ok value => rfl
  | error error => exact stopAfter_done steps _ state

theorem stopAfter_read_bind (query : σ → Except ε α) (continuation : α → Program σ ε β) (state : σ) :
    (read query >>= continuation).stopAfter (steps + 1) state =
      match query state with
      | .ok value => (continuation value).stopAfter steps state
      | .error _ => state :=
  stopAfter_ofExcept_bind steps (query state) continuation state

theorem stopAfter_write_bind (continuation : PUnit → Program σ ε β) (state : σ) :
    (write update >>= continuation).stopAfter (steps + 1) state =
      match update state with
      | .ok state' => (continuation .unit).stopAfter steps state'
      | .error _ => state := by
  change (ofExcept _ >>= continuation).stopAfter steps _ = _
  rw [stopAfter_ofExcept_bind]
  dsimp only
  cases update state <;> rfl

theorem stopAfter_write (state : σ) :
    (write update).stopAfter (steps + 1) state =
      match update state with
      | .ok state' => state'
      | .error _ => state := by
  have hlast := stopAfter_write_bind steps update pure state
  rw [bind_pure] at hlast
  rw [hlast]
  cases update state with
  | ok state' => exact stopAfter_done steps _ state'
  | error error => rfl

theorem read_mapError (translate : ε → ε') (query : σ → Except ε α) :
    (read query).mapError translate =
      read fun state => (query state).mapError translate := by
  refine congrArg _ (funext fun state => ?_)
  dsimp only
  cases query state <;> rfl

theorem stopAfter_zoom {get : τ → σ} {set : σ → τ → τ}
    (hget : ∀ inner state, get (set inner state) = inner)
    (hset : ∀ inner inner' state, set inner' (set inner state) = set inner' state)
    (hself : ∀ state, set (get state) state = state)
    (program : Program σ ε α) (steps : Nat) (state : τ) :
    (program.zoom get set).stopAfter steps state =
      set (program.stopAfter steps (get state)) state := by
  induction program generalizing steps state with
  | done result => rw [zoom, stopAfter_done, stopAfter_done, hself]
  | step next rest ih =>
      cases steps with
      | zero => rw [stopAfter_zero, stopAfter_zero, hself]
      | succ steps =>
          change ((rest (get state)).zoom get set).stopAfter steps
            (set (next (get state)) state) = _
          rw [ih, hget, hset]
          rfl

/-- The outcome when the step after the first ones fails; a program that has come to
its end by then is not disturbed. -/
def failAfter (steps : Nat) (error : ε) (program : Program σ ε α) (state : σ) :
    Except ε α × σ :=
  match steps, program with
  | _, .done result => (result, state)
  | 0, .step _ _ => (.error error, state)
  | steps + 1, .step next rest => (rest state).failAfter steps error (next state)

@[simp] theorem failAfter_done (result : Except ε α) (state : σ) :
    (done result).failAfter steps error state = (result, state) := by
  cases steps <;> rfl

theorem failAfter_snd (state : σ) :
    (program.failAfter steps error state).2 = program.stopAfter steps state := by
  induction program generalizing steps state with
  | done result => rw [failAfter_done, stopAfter_done]
  | step next rest ih =>
      cases steps with
      | zero => rfl
      | succ steps => exact ih state steps (next state)

theorem failAfter_atomically_bind (action : σ → Except ε α × σ) (continuation : α → Program σ ε β)
    (state : σ) :
    (atomically action >>= continuation).failAfter (steps + 1) error state =
      (ofExcept (action state).1 >>= continuation).failAfter steps error (action state).2 :=
  rfl

inductive Guarantees (relation : σ → σ → Prop) : Program σ ε α → Prop
  | done : Guarantees relation (.done result)
  | step : (∀ state, relation state (next state)) →
      (∀ state, Guarantees relation (rest state)) →
      Guarantees relation (.step next rest)

namespace Guarantees

variable {relation relation' : σ → σ → Prop}

theorem mono {program : Program σ ε α}
    (hrelation : ∀ state state', relation state state' → relation' state state')
    (hprogram : Guarantees relation program) : Guarantees relation' program := by
  induction hprogram with
  | done => exact .done
  | step hnext _ ih => exact .step (fun state => hrelation _ _ (hnext state)) ih

theorem trivial (program : Program σ ε α) :
    Guarantees (fun _ _ => True) program := by
  induction program with
  | done result => exact .done
  | step next rest ih => exact .step (fun _ => .intro) ih

theorem bind {program : Program σ ε α} {continuation : α → Program σ ε β}
    (hprogram : Guarantees relation program)
    (hcontinuation : ∀ value, Guarantees relation (continuation value)) :
    Guarantees relation (program >>= continuation) := by
  change Guarantees relation (program.bind continuation)
  induction hprogram with
  | @done result =>
      cases result with
      | ok value => exact hcontinuation value
      | error error => exact .done
  | step hnext _ ih => exact .step hnext ih

theorem pure (value : α) :
    Guarantees relation (Pure.pure value : Program σ ε α) := .done

theorem atomically {action : σ → Except ε α × σ}
    (haction : ∀ state, relation state (action state).2) :
    Guarantees relation (Program.atomically action) :=
  .step haction fun _ => .done

theorem read (hrefl : ∀ state, relation state state) (query : σ → Except ε α) :
    Guarantees relation (Program.read query) :=
  .atomically hrefl

theorem write {update : σ → Except ε σ} (hrefl : ∀ state, relation state state)
    (hupdate : ∀ state state', update state = .ok state' →
      relation state state') :
    Guarantees relation (Program.write update) := by
  refine .atomically fun state => ?_
  cases hresult : update state with
  | ok state' => exact hupdate state state' hresult
  | error error => exact hrefl state

theorem mapError {program : Program σ ε α} (translate : ε → ε')
    (hprogram : Guarantees relation program) :
    Guarantees relation (program.mapError translate) := by
  induction hprogram with
  | @done result => cases result <;> exact .done
  | step hnext _ ih => exact .step hnext ih

variable {program : Program σ ε α}

theorem attempt (hprogram : Guarantees relation program) :
    Guarantees relation (program.attempt : Program σ ε' (Except ε α)) := by
  induction hprogram with
  | done => exact .done
  | step hnext _ ih => exact .step hnext ih

theorem zoom {get : τ → σ} {set : σ → τ → τ} {outer : τ → τ → Prop}
    (houter : ∀ state inner, relation (get state) inner → outer state (set inner state))
    (hprogram : Guarantees relation program) : Guarantees outer (program.zoom get set) := by
  induction hprogram with
  | done => exact .done
  | step hnext _ ih =>
      exact .step (fun state => houter state _ (hnext (get state)))
        fun state => ih (get state)

theorem forEach {items : List β} {body : β → Program σ ε PUnit}
    (hbody : ∀ item ∈ items, Guarantees relation (body item)) :
    Guarantees relation (Program.forEach items body) := by
  induction items with
  | nil => exact .pure _
  | cons item rest ih =>
      exact .bind (hbody item List.mem_cons_self)
        fun _ => ih fun other hother => hbody other (List.mem_cons_of_mem _ hother)

section

variable (hprogram : Guarantees relation program) (hrefl : ∀ state, relation state state)
  (htrans : ∀ first second third, relation first second →
      relation second third → relation first third)

include hprogram hrefl htrans

theorem stopAfter (steps : Nat) (state : σ) : relation state (program.stopAfter steps state) := by
  induction hprogram generalizing steps state with
  | done => rw [stopAfter_done]; exact hrefl state
  | step hnext _ ih =>
      cases steps with
      | zero => exact hrefl state
      | succ steps => exact htrans _ _ _ (hnext state) (ih state steps _)

theorem run (state : σ) : relation state (program.run state).2 := by
  induction hprogram generalizing state with
  | done => exact hrefl state
  | step hnext _ ih => exact htrans _ _ _ (hnext state) (ih state _)

end

end Guarantees

end Program

/-! Programs with loops that nothing bounds. Each loop is given the rounds it may
take, and fails when they do not suffice; the program comes to an end when some
number of rounds, and every larger one, leads to one and the same end. -/

section EnoughRounds

variable {σ : Type u} {ε : Type v} {α β : Type w}

structure Returns (unfinished : ε) (program : Nat → Program σ ε α) (state : σ)
    (outcome : Except ε α) (after : σ) : Prop where
  finished : outcome ≠ .error unfinished
  enough : ∃ enough, ∀ rounds ≥ enough, (program rounds).run state = (outcome, after)

namespace Returns

variable {unfinished : ε} {program : Nat → Program σ ε α}
variable {continuation : Nat → α → Program σ ε β}
variable {state between after : σ} {outcome : Except ε α}

theorem unique {other : Except ε α} {after' : σ}
    (hfirst : Returns unfinished program state outcome after)
    (hsecond : Returns unfinished program state other after') :
    outcome = other ∧ after = after' := by
  obtain ⟨first, hfirst⟩ := hfirst.enough
  obtain ⟨second, hsecond⟩ := hsecond.enough
  have heq := (hfirst (max first second) (le_max_left _ _)).symm.trans
    (hsecond (max first second) (le_max_right _ _))
  exact Prod.mk.inj heq

theorem of_run {single : Program σ ε α} (hrun : single.run state = (outcome, after))
    (hfinished : outcome ≠ .error unfinished) :
    Returns unfinished (fun _ => single) state outcome after :=
  ⟨hfinished, 0, fun _ _ => hrun⟩

theorem of_const (hconst : ∀ rounds, program rounds = program 0)
    (hrun : (program 0).run state = (outcome, after)) (hfinished : outcome ≠ .error unfinished) :
    Returns unfinished program state outcome after :=
  ⟨hfinished, 0, fun rounds _ => (congrArg (fun single => single.run state) (hconst rounds)).trans
    hrun⟩

theorem bind {value : α} {result : Except ε β}
    (hprogram : Returns unfinished program state (.ok value) between)
    (hrest : Returns unfinished (fun rounds => continuation rounds value) between result after) :
    Returns unfinished (fun rounds => program rounds >>= continuation rounds) state result
      after := by
  obtain ⟨first, hfirst⟩ := hprogram.enough
  obtain ⟨second, hsecond⟩ := hrest.enough
  refine ⟨hrest.finished, max first second, fun rounds hrounds => ?_⟩
  rw [Program.run_bind, hfirst rounds ((le_max_left _ _).trans hrounds), Program.andThen_ok]
  exact hsecond rounds ((le_max_right _ _).trans hrounds)

theorem bind_error {error : ε}
    (hprogram : Returns unfinished program state (.error error) after) :
    Returns unfinished (fun rounds => program rounds >>= continuation rounds) state
      (.error error : Except ε β) after := by
  obtain ⟨enough, henough⟩ := hprogram.enough
  refine ⟨fun heq => hprogram.finished (by cases heq; rfl), enough, fun rounds hrounds => ?_⟩
  rw [Program.run_bind, henough rounds hrounds, Program.andThen_error]

theorem of_succ {first : Nat → Program σ ε α}
    (hfirst : ∀ rounds, program (rounds + 1) = first rounds)
    (hreturns : Returns unfinished first state outcome after) :
    Returns unfinished program state outcome after := by
  obtain ⟨enough, henough⟩ := hreturns.enough
  refine ⟨hreturns.finished, enough + 1, fun rounds hrounds => ?_⟩
  cases rounds with
  | zero => cases hrounds
  | succ rounds =>
      rw [hfirst]
      exact henough rounds (Nat.le_of_succ_le_succ hrounds)

end Returns

end EnoughRounds

end Osvauld.Data
