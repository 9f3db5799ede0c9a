import Mathlib.Algebra.BigOperators.Group.Finset.Piecewise
import Mathlib.Algebra.BigOperators.Intervals
import Mathlib.Tactic.Abel
import Osvauld.Data.Interleaving

namespace Osvauld.Data

/-! What programs add to a running count, however their steps are interleaved. -/

variable {Call : Type w'} {σ : Type u} {τ : Type u} {ε ε' : Type v} {α β : Type w}
variable {M : Type*} [AddCommMonoid M]

namespace Program

def isDone : Program σ ε α → Bool
  | .done _ => true
  | .step .. => false

theorem isDone_iff {program : Program σ ε α} :
    program.isDone = true ↔ ∃ result, program = .done result := by
  cases program with
  | done result => exact ⟨fun _ => ⟨result, rfl⟩, fun _ => rfl⟩
  | step next rest => simp [isDone]

/-- From `since`, the state of its last step, as long as each step meets its
condition: the steps move along `reach`, and what they add to the count is right
for the result they end in. `added` has been added so far. -/
inductive Adds (meets : Program σ ε α → σ → Prop) (reach : σ → σ → Prop)
    (count : σ → M) (right : Except ε α → M → Prop) : σ → M → Program σ ε α → Prop
  | done : right result added → Adds meets reach count right since added (.done result)
  | step (more : σ → M) :
      (∀ state, reach since state → meets (.step next rest) state →
        reach state (next state)) →
      (∀ state, reach since state → meets (.step next rest) state →
        count (next state) = count state + more state) →
      (∀ state, reach since state → meets (.step next rest) state →
        Adds meets reach count right (next state) (added + more state) (rest state)) →
      Adds meets reach count right since added (.step next rest)

abbrev Tallies (reach : σ → σ → Prop) (count : σ → M) (right : Except ε α → M → Prop) :
    σ → M → Program σ ε α → Prop :=
  Adds (fun _ _ => True) reach count right

namespace Adds

variable {meets : Program σ ε α → σ → Prop} {reach : σ → σ → Prop} {count : σ → M}
variable {right : Except ε α → M → Prop} {since : σ} {added : M}

theorem mono {right' : Except ε α → M → Prop} {program : Program σ ε α}
    (hprogram : Adds meets reach count right since added program)
    (hright : ∀ result amount, right result amount → right' result amount) :
    Adds meets reach count right' since added program := by
  induction hprogram with
  | done hresult => exact .done (hright _ _ hresult)
  | step more hreach hcount _ ih => exact .step more hreach hcount ih

variable {program : Program σ ε α} {continuation : α → Program σ ε β} {relation : σ → σ → Prop}

theorem of_tallies (hprogram : Tallies reach count right since added program) :
    Adds meets reach count right since added program := by
  induction hprogram with
  | done hresult => exact .done hresult
  | step more hreach hcount _ ih =>
      exact .step more (fun state hstate _ => hreach state hstate trivial)
        (fun state hstate _ => hcount state hstate trivial)
        fun state hstate _ => ih state hstate trivial

theorem pure {value : α} (hvalue : right (.ok value) added) :
    Adds meets reach count right since added (Pure.pure value) := .done hvalue

theorem fail {error : ε} (herror : right (.error error) added) :
    Adds meets reach count right since added (Program.fail error) := .done herror

theorem ite {condition : Prop} [Decidable condition] {first second : Program σ ε α}
    (hfirst : Adds meets reach count right since added first)
    (hsecond : Adds meets reach count right since added second) :
    Adds meets reach count right since added (if condition then first else second) := by
  split
  · exact hfirst
  · exact hsecond

section

variable {action : σ → Except ε α × σ} (more : σ → M)
  (hreach : ∀ state, reach since state → reach state (action state).2)
  (hcount : ∀ state, reach since state → count (action state).2 = count state + more state)

include hreach hcount

theorem atomically
    (hright : ∀ state, reach since state → right (action state).1 (added + more state)) :
    Adds meets reach count right since added (Program.atomically action) :=
  .step more (fun state hstate _ => hreach state hstate)
    (fun state hstate _ => hcount state hstate)
    fun state hstate _ => .done (hright state hstate)

theorem atomically_bind {meets : Program σ ε β → σ → Prop} {right : Except ε β → M → Prop}
    (hvalue : ∀ state value, reach since state → (action state).1 = .ok value →
      Adds meets reach count right (action state).2 (added + more state) (continuation value))
    (herror : ∀ state error, reach since state → (action state).1 = .error error →
      right (.error error) (added + more state)) :
    Adds meets reach count right since added (Program.atomically action >>= continuation) := by
  refine .step more (fun state hstate _ => hreach state hstate)
    (fun state hstate _ => hcount state hstate) fun state hstate _ => ?_
  change Adds meets reach count right _ _ ((Program.done (action state).1).bind continuation)
  cases hresult : (action state).1 with
  | ok value => exact hvalue state value hstate hresult
  | error error => exact .done (herror state error hstate hresult)

end

section Preorder

variable [IsPreorder σ reach]

theorem bind {meets : Program σ ε β → σ → Prop} {first : Except ε α → M → Prop}
    {right : Except ε β → M → Prop} {program : Program σ ε α}
    {continuation : α → Program σ ε β}
    (hprogram : Tallies reach count first since added program)
    (hvalue : ∀ value amount state, reach since state → first (.ok value) amount →
      Adds meets reach count right state amount (continuation value))
    (herror : ∀ error amount, first (.error error) amount → right (.error error) amount) :
    Adds meets reach count right since added (program >>= continuation) := by
  suffices hfrom : ∀ {state amount}, Tallies reach count first state amount program →
      reach since state → Adds meets reach count right state amount (program.bind continuation)
    from hfrom hprogram (refl_of reach since)
  clear hprogram
  intro state amount hprogram hstart
  induction hprogram with
  | @done result _ _ hresult =>
      cases result with
      | ok value => exact hvalue value _ _ hstart hresult
      | error error => exact .done (herror error _ hresult)
  | step more hreach hcount _ ih =>
      refine .step more (fun state hstate _ => hreach state hstate trivial)
        (fun state hstate _ => hcount state hstate trivial) fun state hstate _ => ?_
      exact ih state hstate trivial (trans_of reach (trans_of reach hstart hstate)
        (hreach state hstate trivial))

end Preorder

theorem mapError {translate : ε → ε'} {right : Except ε' α → M → Prop}
    {program : Program σ ε α}
    (hprogram : Tallies reach count (fun result => right (result.mapError translate)) since
      added program) :
    Tallies reach count right since added (program.mapError translate) := by
  induction hprogram with
  | @done result _ _ hresult => cases result <;> exact .done hresult
  | step more hreach hcount _ ih => exact .step more hreach hcount ih

theorem attempt {right : Except ε' (Except ε α) → M → Prop}
    (hprogram : Tallies reach count (fun result => right (.ok result)) since added program) :
    Tallies reach count right since added program.attempt := by
  induction hprogram with
  | done hresult => exact .done hresult
  | step more hreach hcount _ ih => exact .step more hreach hcount ih

theorem of_guarantees
    (hrelation : ∀ state state', relation state state' →
      reach state state' ∧ count state' = count state) (hprogram : Guarantees relation program) :
    Tallies reach count (fun _ amount => amount = added) since added program := by
  induction hprogram generalizing since with
  | done => exact .done rfl
  | step hnext _ ih =>
      refine .step (fun _ => 0) (fun state _ _ => (hrelation _ _ (hnext state)).1)
        (fun state _ _ => ?_) fun state _ _ => ?_
      · rw [(hrelation _ _ (hnext state)).2, add_zero]
      · rw [add_zero]
        exact ih state

theorem of_succeeds (hok : Succeeds program)
    (hprogram : Adds meets reach count right since added program) :
    Adds meets reach count
      (fun result amount => ∃ value, result = .ok value ∧ right result amount) since added
      program := by
  induction hprogram with
  | done hresult =>
      cases hok
      exact .done ⟨_, rfl, hresult⟩
  | step more hreach hcount _ ih =>
      cases hok with
      | step hrest =>
          exact .step more hreach hcount fun state hstate hmeets =>
            ih state hstate hmeets (hrest state)

theorem bind_of_guarantees [IsPreorder σ reach] {right : Except ε β → M → Prop}
    (hrelation : ∀ state state', relation state state' →
      reach state state' ∧ count state' = count state) (hprogram : Guarantees relation program)
    (hvalue : ∀ value state, reach since state →
      Tallies reach count right state added (continuation value))
    (herror : ∀ error, right (.error error) added) :
    Tallies reach count right since added (program >>= continuation) := by
  refine .bind (.of_guarantees hrelation hprogram) ?_ ?_
  · rintro value _ state hstate rfl
    exact hvalue value state hstate
  · rintro error _ rfl
    exact herror error

theorem bind_of_succeeds [IsPreorder σ reach] {meets : Program σ ε β → σ → Prop}
    {right : Except ε β → M → Prop}
    (hrelation : ∀ state state', relation state state' →
      reach state state' ∧ count state' = count state) (hprogram : Guarantees relation program)
    (hok : Succeeds program)
    (hvalue : ∀ value state, reach since state →
      Adds meets reach count right state added (continuation value)) :
    Adds meets reach count right since added (program >>= continuation) := by
  refine .bind (.of_succeeds hok (.of_guarantees hrelation hprogram)) ?_ ?_
  · rintro value _ state hstate ⟨_, _, rfl⟩
    exact hvalue value state hstate
  · rintro error _ ⟨_, herror, _⟩
    cases herror

theorem zoom {get : τ → σ} {set : σ → τ → τ} {outer : τ → τ → Prop} [IsPreorder τ outer]
    {total : τ → M} {start : τ} (hget : ∀ inner state, get (set inner state) = inner)
    (hinner : ∀ state other, outer start state → outer state other → reach (get state) (get other))
    (houter : ∀ state inner, outer start state → reach (get state) inner →
      outer state (set inner state))
    (htotal : ∀ state inner more, outer start state → count inner = count (get state) + more →
      total (set inner state) = total state + more)
    (hprogram : Tallies reach count right (get start) added program) :
    Tallies outer total right start added (program.zoom get set) := by
  suffices hlater : ∀ {since added}, Tallies reach count right since added program →
      ∀ state, outer start state → get state = since →
        Tallies outer total right state added (program.zoom get set) from
    hlater hprogram start (refl_of outer start) rfl
  clear hprogram
  intro since added hprogram
  induction hprogram with
  | done hresult => exact fun _ _ _ => .done hresult
  | step more hreach hcount _ ih =>
      rintro state hstate rfl
      have hfound : ∀ other, outer state other → outer start other ∧
          reach (get state) (get other) := fun other hother =>
        ⟨trans_of outer hstate hother, hinner state other hstate hother⟩
      have hmoves : ∀ other, outer state other → _ := fun other hother =>
        houter other _ (hfound other hother).1
          (hreach (get other) (hfound other hother).2 trivial)
      refine .step (fun other => more (get other)) (fun other hother _ => hmoves other hother)
        (fun other hother _ => ?_) fun other hother _ => ?_
      · exact htotal other _ _ (hfound other hother).1
          (hcount (get other) (hfound other hother).2 trivial)
      · exact ih (get other) (hfound other hother).2 trivial _
          (trans_of outer (hfound other hother).1 (hmoves other hother)) (hget _ _)

end Adds

end Program

theorem sum_range_eq_sum_map {items : List α} {worth : α → M} {amounts : Nat → M}
    (hamount : ∀ index item, items[index]? = some item → amounts index = worth item) :
    ∑ index ∈ Finset.range items.length, amounts index = (items.map worth).sum := by
  induction items generalizing amounts with
  | nil => rfl
  | cons head tail ih =>
      have htail := @ih (fun index => amounts (index + 1)) fun index item hitem =>
        hamount (index + 1) item hitem
      rw [List.length_cons, Finset.sum_range_succ', htail, hamount 0 head rfl, List.map_cons,
        List.sum_cons, add_comm]

namespace Pool

variable {body : Call → Program σ ε α} {meets : Call → Program σ ε α → σ → Prop}
variable {reach : σ → σ → Prop} {count : σ → M} {right : Call → Except ε α → M → Prop}

/-- The state that the next step of the call finds, if it has one, meets the
condition of the call. -/
def StepMeets (meets : Call → Program σ ε α → σ → Prop) (index : Nat)
    (pool : Pool Call σ ε α) : Prop :=
  ∀ task next rest, pool.running[index]? = some task → task.left = .step next rest →
    meets task.call task.left pool.state

def everyEvent (body : Call → Program σ ε α) (starts : Call → σ → Bool)
    (advances : Running Call σ ε α → σ → Bool) :
    Pool Call σ ε α → List (PoolEvent Call) → Bool
  | _, [] => true
  | pool, .start call :: rest =>
      starts call pool.state &&
        everyEvent body starts advances (Pool.start body call pool) rest
  | pool, .advance index :: rest =>
      pool.running[index]?.all (fun task => advances task pool.state) &&
        everyEvent body starts advances (Pool.advance index pool) rest

theorem everyEvent_prefix {starts : Call → σ → Bool}
    {advances : Running Call σ ε α → σ → Bool} {pool : Pool Call σ ε α}
    {events earlier : List (PoolEvent Call)} {event : PoolEvent Call}
    (hevery : everyEvent body starts advances pool events = true)
    (hearlier : earlier ++ [event] <+: events) :
    ∃ rest, everyEvent body starts advances (run (step body) pool earlier)
      (event :: rest) = true := by
  induction earlier generalizing pool events with
  | nil =>
      obtain ⟨rest, rfl⟩ := hearlier
      exact ⟨rest, hevery⟩
  | cons head tail ih =>
      obtain ⟨rest, rfl⟩ := hearlier
      refine @ih (step body head pool) (tail ++ [event] ++ rest) ?_ (List.prefix_append _ rest)
      cases head with
      | start call => exact (Bool.and_eq_true_iff.mp hevery).2
      | advance index => exact (Bool.and_eq_true_iff.mp hevery).2

section

variable {starts : Call → σ → Bool} {advances : Running Call σ ε α → σ → Bool}
  {pool : Pool Call σ ε α} {events earlier : List (PoolEvent Call)}
  (hevery : everyEvent body starts advances pool events = true)

include hevery

theorem stepMeets_of_everyEvent {index : Nat}
    (hadvances : ∀ task state, advances task state = true → meets task.call task.left state)
    (hearlier : earlier ++ [.advance index] <+: events) :
    StepMeets meets index (run (step body) pool earlier) := by
  obtain ⟨rest, hrest⟩ := everyEvent_prefix hevery hearlier
  intro task next program htask _
  rw [everyEvent, htask] at hrest
  exact hadvances task _ (Bool.and_eq_true_iff.mp hrest).1

theorem starts_of_everyEvent {call : Call} (hearlier : earlier ++ [.start call] <+: events) :
    starts call (run (step body) pool earlier).state = true := by
  obtain ⟨rest, hrest⟩ := everyEvent_prefix hevery hearlier
  exact (Bool.and_eq_true_iff.mp hrest).1

end

structure Tallied (meets : Call → Program σ ε α → σ → Prop) (reach : σ → σ → Prop)
    (count : σ → M) (right : Call → Except ε α → M → Prop) (first : σ) (amounts : Nat → M)
    (pool : Pool Call σ ε α) : Prop where
  reached : reach first pool.state
  count_eq : count pool.state =
    count first + ∑ index ∈ Finset.range pool.running.length, amounts index
  each : ∀ index task, pool.running[index]? = some task → reach task.since pool.state ∧
    Program.Adds (meets task.call) reach count (right task.call) task.since
      (amounts index) task.left

variable [IsPreorder σ reach] {first : σ} {amounts : Nat → M} {pool : Pool Call σ ε α}

theorem Tallied.start {call : Call}
    (hpool : Tallied meets reach count right first amounts pool)
    (hbody : Program.Adds (meets call) reach count (right call) pool.state 0 (body call)) :
    Tallied meets reach count right first
      (Function.update amounts pool.running.length 0) (Pool.start body call pool) where
  reached := hpool.reached
  count_eq := by
    have hsame : ∀ index ∈ Finset.range pool.running.length,
        Function.update amounts pool.running.length 0 index = amounts index :=
      fun index hindex => Function.update_of_ne (Finset.mem_range.mp hindex).ne _ _
    simp [Pool.start, Finset.sum_range_succ, Finset.sum_congr rfl hsame, hpool.count_eq]
  each index task htask := by
    by_cases hold : index < pool.running.length
    · rw [Function.update_of_ne hold.ne]
      exact hpool.each index task ((List.getElem?_append_left hold).symm.trans htask)
    · obtain ⟨hlt, rfl⟩ := List.getElem?_eq_some_iff.mp htask
      have hlast : index = pool.running.length := by
        simp only [Pool.start, List.length_append, List.length_singleton] at hlt
        omega
      subst hlast
      simpa [Pool.start] using ⟨refl_of reach _, hbody⟩

theorem Tallied.advance {index : Nat}
    (hpool : Tallied meets reach count right first amounts pool)
    (hmeets : StepMeets meets index pool) :
    ∃ amounts', Tallied meets reach count right first amounts' (Pool.advance index pool) := by
  obtain hsame | ⟨task, next, rest, hindex, hleft, hadvance⟩ := advance_cases index pool
  · exact ⟨amounts, hsame.symm ▸ hpool⟩
  rw [hadvance]
  obtain ⟨hreached, hcount, heach⟩ := hpool
  have hmet := hmeets task next rest hindex hleft
  obtain ⟨hsince, hadds⟩ := heach index task hindex
  rw [hleft] at hadds hmet
  cases hadds with
  | step more hreach hmore hrest =>
      have hstep := hreach pool.state hsince hmet
      refine ⟨Function.update amounts index (amounts index + more pool.state), ?_, ?_, ?_⟩
      · exact trans_of reach hreached hstep
      · have hmem : index ∈ Finset.range pool.running.length :=
          Finset.mem_range.mpr (List.getElem?_eq_some_iff.mp hindex).1
        rw [List.length_set, Finset.sum_update_of_mem hmem, hmore pool.state hsince hmet,
          hcount, Finset.sum_eq_add_sum_sdiff_singleton_of_mem hmem]
        abel
      · intro other found hfound
        by_cases hother : index = other
        · subst hother
          obtain ⟨hlt, rfl⟩ := List.getElem?_eq_some_iff.mp hfound
          simpa using ⟨refl_of reach _, hrest pool.state hsince hmet⟩
        · rw [Function.update_of_ne (Ne.symm hother)]
          obtain ⟨hfar, hothers⟩ :=
            heach other found ((List.getElem?_set_ne hother).symm.trans hfound)
          exact ⟨trans_of reach hfar hstep, hothers⟩

/-- However the calls are interleaved, when every step taken meets its condition
the count is what the calls have added to it. -/
theorem tallied_run {events : List (PoolEvent Call)}
    (hbody : ∀ earlier call, earlier ++ [.start call] <+: events →
      reach first (run (step body) { state := first } earlier).state →
      Program.Adds (meets call) reach count (right call)
        (run (step body) { state := first } earlier).state 0 (body call))
    (hmeets : ∀ earlier index, earlier ++ [.advance index] <+: events →
      StepMeets meets index (run (step body) { state := first } earlier)) :
    ∀ earlier, earlier <+: events → ∃ amounts, Tallied meets reach count right first amounts
      (run (step body) { state := first } earlier) := by
  refine @run_invariant _ _ (step body) { state := first } events
    (fun _ pool => ∃ amounts, Tallied meets reach count right first amounts pool) ?_ ?_
  · refine ⟨fun _ => 0, refl_of reach first, by simp, fun index task htask => ?_⟩
    simp at htask
  · rintro earlier event hearlier ⟨amounts, hpool⟩
    cases event with
    | start call => exact ⟨_, hpool.start (hbody earlier call hearlier hpool.reached)⟩
    | advance index => exact hpool.advance (hmeets earlier index hearlier)

omit [IsPreorder σ reach] in
theorem Tallied.finished {worth : Running Call σ ε α → M}
    (hpool : Tallied meets reach count right first amounts pool)
    (hworth : ∀ task ∈ pool.running, ∃ result, task.left = .done result ∧
      ∀ amount, right task.call result amount → amount = worth task) :
    count pool.state = count first + (pool.running.map worth).sum := by
  have hamount : ∀ index task, pool.running[index]? = some task →
      amounts index = worth task := by
    intro index task htask
    obtain ⟨result, hdone, hresult⟩ := hworth task (List.mem_of_getElem? htask)
    obtain ⟨-, hadds⟩ := hpool.each index task htask
    rw [hdone] at hadds
    cases hadds with
    | done hright => exact hresult _ hright
  rw [hpool.count_eq, sum_range_eq_sum_map hamount]

end Pool

end Osvauld.Data
