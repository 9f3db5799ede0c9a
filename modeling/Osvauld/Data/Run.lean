import Mathlib.Data.List.Infix
import Osvauld.Data.Outcome

namespace Osvauld.Data

/-! Runs of a machine that is fed one event after the other. -/

variable {State Event : Type*}

def run (step : Event → State → State) (start : State) (events : List Event) :
    State :=
  events.foldl (fun state event => step event state) start

variable {step : Event → State → State} {start : State} {events : List Event}

@[simp] theorem run_nil : run step start [] = start := rfl

@[simp] theorem run_concat (earlier : List Event) (event : Event) :
    run step start (earlier ++ [event]) = step event (run step start earlier) := by
  simp [run]

theorem run_project {Part : Type*} {project : State → Part}
    {partStep : Event → Part → Part}
    (hstep : ∀ event state, project (step event state) = partStep event (project state)) :
    project (run step start events) = run partStep (project start) events := by
  induction events using List.reverseRecOn with
  | nil => rfl
  | append_singleton earlier event ih => rw [run_concat, run_concat, hstep, ih]

/-- A machine that may stop with an error gets to the end when each event is
allowed in its turn. -/
theorem foldlM_eq_ok_iff_run {ε : Type*} {State Event : Type u}
    {attempt : State → Event → Except ε State} {allowed : Event → State → Prop}
    {step : Event → State → State} {start result : State} {events : List Event}
    (hattempt : ∀ event ∈ events, ∀ state next,
      attempt state event = .ok next ↔ allowed event state ∧ next = step event state) :
    events.foldlM attempt start = .ok result ↔
      (∀ earlier event, earlier ++ [event] <+: events →
          allowed event (run step start earlier)) ∧
        result = run step start events := by
  induction events using List.reverseRecOn generalizing result with
  | nil =>
      rw [List.foldlM_nil, run_nil, @eq_comm _ result]
      simp [pure, Except.pure]
  | append_singleton before event ih =>
      have hbefore := fun middle => @ih middle fun other hother =>
        hattempt other (by simp [hother])
      have hlast := hattempt event (by simp)
      rw [List.foldlM_append, bind_eq_ok]
      simp only [hbefore, List.foldlM_cons, List.foldlM_nil, bind_pure, hlast,
        run_concat, List.prefix_concat_iff]
      constructor
      · rintro ⟨_, ⟨hallowed, rfl⟩, hlast, rfl⟩
        refine ⟨fun earlier other hearlier => ?_, rfl⟩
        rcases hearlier with heq | hearlier
        · obtain ⟨rfl, hother⟩ := List.append_inj' heq rfl
          cases hother
          exact hlast
        · exact hallowed earlier other hearlier
      · rintro ⟨hallowed, rfl⟩
        exact ⟨_, ⟨fun earlier other hearlier => hallowed earlier other (.inr hearlier),
          rfl⟩, hallowed before event (.inl rfl), rfl⟩

/-- What holds at the start and is kept by each event of a run holds after
every part of the run. -/
theorem run_invariant {invariant : List Event → State → Prop}
    (hstart : invariant [] start)
    (hstep : ∀ earlier event, earlier ++ [event] <+: events →
      invariant earlier (run step start earlier) →
        invariant (earlier ++ [event]) (step event (run step start earlier))) :
    ∀ earlier, earlier <+: events → invariant earlier (run step start earlier) := by
  intro earlier hearlier
  induction earlier using List.reverseRecOn with
  | nil => exact hstart
  | append_singleton earlier event ih =>
      rw [run_concat]
      exact hstep earlier event hearlier
        (ih ((List.prefix_append earlier [event]).trans hearlier))

/-- When a state is good after an event, and the event itself has been, exactly when the
event was allowed, a run is good throughout exactly when each event was allowed. -/
theorem run_good_iff {invariant : State → Prop} {good allowed : Event → State → Prop}
    (hstep : ∀ event state, invariant state →
      (invariant (step event state) ∧ good event state ↔ allowed event state))
    (hstart : invariant start) :
    ((∀ earlier, earlier <+: events → invariant (run step start earlier)) ∧
      ∀ earlier event, earlier ++ [event] <+: events → good event (run step start earlier)) ↔
    ∀ earlier event, earlier ++ [event] <+: events → allowed event (run step start earlier) := by
  constructor
  · rintro ⟨hinvariant, hgood⟩ earlier event hpre
    have hbefore := hinvariant earlier ((List.prefix_append earlier [event]).trans hpre)
    have hafter := hinvariant _ hpre
    rw [run_concat] at hafter
    exact (hstep event _ hbefore).mp ⟨hafter, hgood earlier event hpre⟩
  · intro hallowed
    have hinvariant := @run_invariant _ _ step start events (fun _ state => invariant state) hstart
      fun earlier event hpre hbefore =>
        ((hstep event _ hbefore).mpr (hallowed earlier event hpre)).1
    refine ⟨hinvariant, fun earlier event hpre => ?_⟩
    have hbefore := hinvariant earlier ((List.prefix_append earlier [event]).trans hpre)
    exact ((hstep event _ hbefore).mpr (hallowed earlier event hpre)).2

/-- Where an event is allowed exactly when the state after it is good, the states of a run
are good throughout exactly when each event is allowed. The events meet a condition of
their own. -/
theorem run_holds_iff {invariant good : State → Prop} {fresh allowed : Event → State → Prop}
    (hstart : invariant start) (hgood : ∀ state, invariant state → good state)
    (hkeep : ∀ event state, invariant state → fresh event state → allowed event state →
      invariant (step event state))
    (hback : ∀ event state, invariant state → fresh event state →
      good (step event state) → allowed event state)
    (hfresh : ∀ earlier event, earlier ++ [event] <+: events →
      fresh event (run step start earlier)) :
    (∀ earlier, earlier <+: events → good (run step start earlier)) ↔
    ∀ earlier event, earlier ++ [event] <+: events → allowed event (run step start earlier) := by
  constructor
  · intro hall
    have hallowed : ∀ earlier event, earlier ++ [event] <+: events →
        invariant (run step start earlier) → allowed event (run step start earlier) := by
      intro earlier event hpre hbefore
      have hafter := hall _ hpre
      rw [run_concat] at hafter
      exact hback event _ hbefore (hfresh earlier event hpre) hafter
    have hinvariant := @run_invariant _ _ step start events (fun _ => invariant) hstart
      fun earlier event hpre hbefore =>
        hkeep event _ hbefore (hfresh earlier event hpre) (hallowed earlier event hpre hbefore)
    intro earlier event hpre
    exact hallowed earlier event hpre
      (hinvariant earlier ((List.prefix_append earlier [event]).trans hpre))
  · intro hallowed earlier hpre
    apply hgood
    exact @run_invariant _ _ step start events (fun _ => invariant) hstart
      (fun earlier event hpre hbefore =>
        hkeep event _ hbefore (hfresh earlier event hpre) (hallowed earlier event hpre))
      earlier hpre

def EachEvent (holds : List Event → Event → Prop) :
    List Event → List Event → Prop
  | _, [] => True
  | earlier, event :: rest =>
      holds earlier event ∧ EachEvent holds (earlier ++ [event]) rest

theorem EachEvent.of_prefix {holds : List Event → Event → Prop}
    {before rest earlier : List Event} {event : Event}
    (heach : EachEvent holds before rest) (hearlier : earlier ++ [event] <+: rest) :
    holds (before ++ earlier) event := by
  induction rest generalizing before earlier with
  | nil => simp at hearlier
  | cons first rest ih =>
      obtain ⟨hfirst, hrest⟩ := heach
      cases earlier with
      | nil =>
          obtain ⟨rfl, _⟩ := List.cons_prefix_cons.mp hearlier
          simpa using hfirst
      | cons head tail =>
          obtain ⟨rfl, htail⟩ := List.cons_prefix_cons.mp hearlier
          simpa using ih hrest htail

end Osvauld.Data
