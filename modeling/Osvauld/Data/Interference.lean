import Mathlib.Order.Defs.Unbundled
import Osvauld.Data.ProgramInvariant

namespace Osvauld.Data

namespace Program

variable {σ : Type u} {τ : Type u} {ε ε' : Type v} {α β : Type w}

/-! Programs whose steps are interleaved with those of others. Everybody moves
the state along one preorder, so that what has been seen once stays true when
it is stable along it. -/

/-- From `since`, the state of its last step: every further step, if it is
allowed between what `since` was and what it makes of the state it finds, moves
along `reach`, and a result is good for the state it is reached in. -/
inductive Follows (allowed : σ → σ → σ → Prop) (reach : σ → σ → Prop)
    (good : α → σ → Prop) : σ → Program σ ε α → Prop
  | ok : good value since → Follows allowed reach good since (.done (.ok value))
  | error : Follows allowed reach good since (.done (.error error))
  | step : (∀ state, reach since state → allowed since state (next state) →
        reach state (next state)) →
      (∀ state, reach since state → allowed since state (next state) →
        Follows allowed reach good (next state) (rest state)) →
      Follows allowed reach good since (.step next rest)

inductive Succeeds : Program σ ε α → Prop
  | ok : Succeeds (.done (.ok value))
  | step : (∀ state, Succeeds (rest state)) → Succeeds (.step next rest)

namespace Succeeds

variable {program : Program σ ε α}

theorem bind {continuation : α → Program σ ε β} (hprogram : Succeeds program)
    (hcontinuation : ∀ value, Succeeds (continuation value)) :
    Succeeds (program >>= continuation) := by
  change Succeeds (program.bind continuation)
  induction hprogram with
  | ok => exact hcontinuation _
  | step _ ih => exact .step ih

theorem atomically {action : σ → Except ε α × σ}
    (haction : ∀ state, ∃ value, (action state).1 = .ok value) :
    Succeeds (Program.atomically action) := by
  refine .step fun state => ?_
  obtain ⟨value, hvalue⟩ := haction state
  rw [hvalue]
  exact .ok

theorem mapError (translate : ε → ε') (hprogram : Succeeds program) :
    Succeeds (program.mapError translate) := by
  induction hprogram with
  | ok => exact .ok
  | step _ ih => exact .step ih

theorem zoom {get : τ → σ} {set : σ → τ → τ} (hprogram : Succeeds program) :
    Succeeds (program.zoom get set) := by
  induction hprogram with
  | ok => exact .ok
  | step _ ih => exact .step fun state => ih (get state)

theorem attempt (program : Program σ ε α) :
    Succeeds (program.attempt : Program σ ε' (Except ε α)) := by
  induction program with
  | done result => exact .ok
  | step next rest ih => exact .step ih

theorem run (hprogram : Succeeds program) (state : σ) :
    ∃ value, (program.run state).1 = .ok value := by
  induction hprogram generalizing state with
  | ok => exact ⟨_, rfl⟩
  | step _ ih => exact ih state _

end Succeeds

abbrev Respects (reach : σ → σ → Prop) (good : α → σ → Prop) :
    σ → Program σ ε α → Prop :=
  Follows (fun _ _ _ => True) reach good

namespace Follows

variable {allowed : σ → σ → σ → Prop}
variable {reach : σ → σ → Prop} [IsPreorder σ reach]
variable {good : α → σ → Prop} {after : β → σ → Prop} {since : σ}

omit [IsPreorder σ reach] in
theorem mono {good' : α → σ → Prop} {program : Program σ ε α}
    (hprogram : Follows allowed reach good since program)
    (hgood : ∀ value state, good value state → good' value state) :
    Follows allowed reach good' since program := by
  induction hprogram with
  | ok hvalue => exact .ok (hgood _ _ hvalue)
  | error => exact .error
  | step hnext _ ih => exact .step hnext ih

variable {program : Program σ ε α}

theorem reached (hprogram : Follows allowed reach good since program) :
    Follows allowed reach (fun value state => reach since state ∧ good value state) since
      program := by
  suffices hfrom : ∀ start, reach start since →
      Follows allowed reach (fun value state => reach start state ∧ good value state)
        since program from hfrom since (refl_of reach since)
  intro start hstart
  induction hprogram with
  | ok hvalue => exact .ok ⟨hstart, hvalue⟩
  | error => exact .error
  | step hnext _ ih =>
      refine .step hnext fun state hstate hallowed => ih state hstate hallowed ?_
      exact trans_of reach (trans_of reach hstart hstate)
        (hnext state hstate hallowed)

theorem kept (hprogram : Follows allowed reach (fun _ _ => True) since program)
    (hgood : ∀ value state, reach since state → good value state) :
    Follows allowed reach good since program :=
  hprogram.reached.mono fun value state hstate => hgood value state hstate.1

theorem bind {continuation : α → Program σ ε β}
    (hprogram : Follows allowed reach good since program)
    (hcontinuation : ∀ value state, reach since state → good value state →
      Follows allowed reach after state (continuation value)) :
    Follows allowed reach after since (program >>= continuation) := by
  have hfrom : ∀ {met : α → σ → Prop} {since : σ} {program : Program σ ε α},
      Follows allowed reach met since program →
      (∀ value state, met value state →
        Follows allowed reach after state (continuation value)) →
      Follows allowed reach after since (program.bind continuation) := by
    intro met since program hprogram hmet
    induction hprogram with
    | ok hvalue => exact hmet _ _ hvalue
    | error => exact .error
    | step hnext _ ih => exact .step hnext ih
  exact hfrom hprogram.reached fun value state hgood =>
    hcontinuation value state hgood.1 hgood.2

omit [IsPreorder σ reach] in
theorem pure {value : α} (hvalue : good value since) :
    Follows allowed reach good since (Pure.pure value : Program σ ε α) := .ok hvalue

omit [IsPreorder σ reach] in
theorem fail (error : ε) :
    Follows allowed reach good since (Program.fail error : Program σ ε α) := .error

omit [IsPreorder σ reach] in
theorem ofExcept {result : Except ε α}
    (hresult : ∀ value, result = .ok value → good value since) :
    Follows allowed reach good since (Program.ofExcept result : Program σ ε α) := by
  cases result with
  | ok value => exact .ok (hresult value rfl)
  | error error => exact .error

omit [IsPreorder σ reach] in
theorem atomically_allowed {action : σ → Except ε α × σ}
    (hstate : ∀ state, reach since state → allowed since state (action state).2 →
      reach state (action state).2)
    (hvalue : ∀ state value, reach since state →
      allowed since state (action state).2 → (action state).1 = .ok value →
      good value (action state).2) :
    Follows allowed reach good since (Program.atomically action) := by
  refine .step hstate fun state hreach hallowed => ?_
  cases hresult : (action state).1 with
  | ok value => exact .ok (hvalue state value hreach hallowed hresult)
  | error error => exact .error

omit [IsPreorder σ reach] in
theorem atomically {action : σ → Except ε α × σ}
    (hstate : ∀ state, reach since state → reach state (action state).2)
    (hvalue : ∀ state value, reach since state → (action state).1 = .ok value →
      good value (action state).2) :
    Follows allowed reach good since (Program.atomically action) :=
  .atomically_allowed (fun state hreach _ => hstate state hreach)
    fun state value hreach _ => hvalue state value hreach

theorem read {query : σ → Except ε α}
    (hquery : ∀ state value, reach since state → query state = .ok value →
      good value state) : Follows allowed reach good since (Program.read query) :=
  .atomically (fun state _ => refl_of reach state) hquery

theorem write {update : σ → Except ε σ}
    (hupdate : ∀ state state', reach since state → update state = .ok state' →
      reach state state') :
    Follows allowed reach (fun _ _ => True) since (Program.write update) := by
  refine .atomically (fun state hstate => ?_) fun _ _ _ _ => trivial
  cases hresult : update state with
  | ok state' => exact hupdate state state' hstate hresult
  | error error => exact refl_of reach state

omit [IsPreorder σ reach] in
theorem mapError (translate : ε → ε') (hprogram : Follows allowed reach good since program) :
    Follows allowed reach good since (program.mapError translate) := by
  induction hprogram with
  | ok hvalue => exact .ok hvalue
  | error => exact .error
  | step hnext _ ih => exact .step hnext ih

omit [IsPreorder σ reach] in
theorem attempt (hprogram : Follows allowed reach good since program) :
    Follows allowed reach
      (fun outcome state => ∀ value, outcome = .ok value → good value state) since
      (program.attempt : Program σ ε' (Except ε α)) := by
  induction hprogram with
  | ok hvalue =>
      refine .ok fun value houtcome => ?_
      cases houtcome
      exact hvalue
  | error => exact .ok fun value houtcome => by cases houtcome
  | step hnext _ ih => exact .step hnext ih

omit [IsPreorder σ reach] in
theorem attempt_ok (hok : Succeeds program) (hprogram : Follows allowed reach good since program) :
    Follows allowed reach
      (fun outcome state => ∃ value, outcome = .ok value ∧ good value state) since
      (program.attempt : Program σ ε' (Except ε α)) := by
  induction hprogram with
  | ok hvalue => exact .ok ⟨_, rfl, hvalue⟩
  | error => cases hok
  | step hnext _ ih =>
      cases hok with
      | step hrest =>
          refine .step hnext fun state hreach hallowed => ?_
          exact ih state hreach hallowed (hrest state)

omit [IsPreorder σ reach] in
theorem zoom {get : τ → σ} {set : σ → τ → τ} {outer : τ → τ → Prop}
    (hget : ∀ inner state, get (set inner state) = inner)
    (hinner : ∀ state state', outer state state' → reach (get state) (get state'))
    (houter : ∀ state inner, reach (get state) inner → outer state (set inner state)) {state : τ}
    (hprogram : Respects reach good (get state) program) :
    Respects outer (fun value state => good value (get state)) state
      (program.zoom get set) := by
  generalize hsince : get state = since at hprogram
  induction hprogram generalizing state with
  | ok hvalue => exact .ok (hsince ▸ hvalue)
  | error => exact .error
  | step hnext _ ih =>
      refine .step (fun other hother _ => houter other _ (hnext _ ?_ trivial))
        fun other hother _ => ih (get other) ?_ trivial (hget _ _)
      · exact hsince ▸ hinner state other hother
      · exact hsince ▸ hinner state other hother

theorem forEach {items : List β} {body : β → Program σ ε PUnit}
    (hbody : ∀ item ∈ items, ∀ state, reach since state →
      Follows allowed reach (fun _ _ => True) state (body item)) :
    Follows allowed reach (fun _ _ => True) since (Program.forEach items body) := by
  induction items generalizing since with
  | nil => exact .ok trivial
  | cons item rest ih =>
      refine .bind (hbody item List.mem_cons_self since (refl_of reach since))
        fun _ state hstate _ => ih fun other hother later hlater => ?_
      exact hbody other (List.mem_cons_of_mem _ hother) later
        (trans_of reach hstate hlater)

omit [IsPreorder σ reach] in
theorem ite {condition : Prop} [Decidable condition]
    {first second : Program σ ε α} (hfirst : Follows allowed reach good since first)
    (hsecond : Follows allowed reach good since second) :
    Follows allowed reach good since (if condition then first else second) := by
  split
  · exact hfirst
  · exact hsecond

/-- Without interference a run moves along the preorder, to a result that is
good for the state it ends in. -/
theorem run {program : Program σ ε α}
    (hprogram : Respects reach good since program) :
    reach since (program.run since).2 ∧ ∀ value,
      (program.run since).1 = .ok value → good value (program.run since).2 := by
  induction hprogram with
  | ok hvalue =>
      refine ⟨refl_of reach _, fun value heq => ?_⟩
      cases heq
      exact hvalue
  | error => exact ⟨refl_of reach _, fun value heq => by cases heq⟩
  | @step since next rest hnext _ ih =>
      have hself := refl_of reach since
      obtain ⟨hreach, hvalue⟩ := ih since hself trivial
      exact ⟨trans_of reach (hnext since hself trivial) hreach, hvalue⟩

theorem keeps {invariant : σ → Prop} (hprogram : ∀ since, Respects reach good since program)
    (hinvariant : ∀ state state', invariant state → reach state state' → invariant state') :
    Keeps invariant (fun value => ∃ state, invariant state ∧ good value state)
      program := by
  intro state hstate
  obtain ⟨hreach, hvalue⟩ := (hprogram state).run
  have hafter := hinvariant _ _ hstate hreach
  exact ⟨hafter, fun value heq => ⟨_, hafter, hvalue value heq⟩⟩

end Follows

end Program

end Osvauld.Data
