import Osvauld.Data.Interference
import Osvauld.Data.Run

namespace Osvauld.Data

/-! Calls that run side by side over one shared state: a call is started at any
time, and any of the started ones takes the next step. -/

variable {Call : Type w'} {σ : Type u} {ε : Type v} {α : Type w}

structure Running (Call : Type w') (σ : Type u) (ε : Type v) (α : Type w) where
  call : Call
  left : Program σ ε α
  since : σ

structure Pool (Call : Type w') (σ : Type u) (ε : Type v) (α : Type w) where
  state : σ
  running : List (Running Call σ ε α) := []

inductive PoolEvent (Call : Type w') where
  | start (call : Call)
  | advance (index : Nat)

def PoolEvent.started? : PoolEvent Call → Option Call
  | start call => some call
  | advance _ => none

namespace Pool

variable (body : Call → Program σ ε α)

def start (call : Call) (pool : Pool Call σ ε α) : Pool Call σ ε α :=
  { pool with
    running := pool.running ++ [{ call, left := body call, since := pool.state }] }

def advance (index : Nat) (pool : Pool Call σ ε α) : Pool Call σ ε α :=
  match pool.running[index]? with
  | none => pool
  | some task =>
      match task.left with
      | .done _ => pool
      | .step next rest =>
          { state := next pool.state
            running := pool.running.set index
              { task with left := rest pool.state, since := next pool.state } }

def step : PoolEvent Call → Pool Call σ ε α → Pool Call σ ε α
  | .start call => start body call
  | .advance index => advance index

theorem advance_cases (index : Nat) (pool : Pool Call σ ε α) :
    advance index pool = pool ∨
      ∃ task next rest, pool.running[index]? = some task ∧
        task.left = .step next rest ∧ advance index pool =
          { state := next pool.state
            running := pool.running.set index
              { task with left := rest pool.state, since := next pool.state } } := by
  unfold advance
  cases htask : pool.running[index]? with
  | none => exact .inl rfl
  | some task =>
      cases hleft : task.left with
      | done result => exact .inl (by simp [hleft])
      | step next rest => exact .inr ⟨task, next, rest, rfl, hleft, by simp [hleft]⟩

variable {index : Nat} {pool : Pool Call σ ε α} {events earlier : List (PoolEvent Call)}

section

variable {task : Running Call σ ε α} (htask : pool.running[index]? = some task)

include htask

theorem advance_of_step {next : σ → σ} {rest : σ → Program σ ε α}
    (hleft : task.left = .step next rest) :
    advance index pool =
      { state := next pool.state
        running := pool.running.set index
          { task with left := rest pool.state, since := next pool.state } } := by
  simp only [advance, htask, hleft]

theorem step_advance_done {result : Except ε α} (hdone : task.left = .done result) :
    step body (.advance index) pool = pool := by
  obtain hsame | ⟨found, next, rest, hfound, hleft, -⟩ := advance_cases index pool
  · exact hsame
  · obtain rfl : task = found := Option.some.inj (htask.symm.trans hfound)
    cases hdone.symm.trans hleft

theorem step_running_done {event : PoolEvent Call} {result : Except ε α}
    (hdone : task.left = .done result) : (step body event pool).running[index]? = some task := by
  cases event with
  | start call =>
      change (pool.running ++ _)[index]? = some task
      rw [List.getElem?_append_left (List.getElem?_eq_some_iff.mp htask).1]
      exact htask
  | advance other =>
      by_cases hother : other = index
      · rw [hother, step_advance_done body htask hdone]
        exact htask
      · change (advance other pool).running[index]? = some task
        obtain hsame | ⟨_, _, _, _, _, hadvance⟩ := advance_cases other pool
        · rw [hsame]
          exact htask
        · rw [hadvance, List.getElem?_set_ne hother]
          exact htask

end

theorem step_running_cases {event : PoolEvent Call} {index : Nat} {pool : Pool Call σ ε α}
    {task : Running Call σ ε α} (htask : (step body event pool).running[index]? = some task) :
    (∃ before, pool.running[index]? = some before ∧ before.call = task.call) ∨
      index = pool.running.length ∧ event = .start task.call ∧
        task = { call := task.call, left := body task.call, since := pool.state } := by
  cases event with
  | start call =>
      change (pool.running ++ _)[index]? = some task at htask
      rcases Nat.lt_or_ge index pool.running.length with hlt | hge
      · rw [List.getElem?_append_left hlt] at htask
        exact .inl ⟨task, htask, rfl⟩
      · rw [List.getElem?_append_right hge, List.getElem?_singleton] at htask
        split at htask
        · next hlast =>
            cases htask
            exact .inr ⟨by omega, rfl, rfl⟩
        · cases htask
  | advance other =>
      change (advance other pool).running[index]? = some task at htask
      obtain hsame | ⟨found, next, rest, hfound, -, hadvance⟩ := advance_cases other pool
      · rw [hsame] at htask
        exact .inl ⟨task, htask, rfl⟩
      · rw [hadvance, List.getElem?_set] at htask
        split at htask
        · next hother =>
            subst hother
            split at htask
            · cases htask
              exact .inl ⟨found, hfound, rfl⟩
            · cases htask
        · exact .inl ⟨task, htask, rfl⟩

theorem running_calls (pool : Pool Call σ ε α) (events : List (PoolEvent Call)) :
    (run (step body) pool events).running.map (fun task => task.call) =
      pool.running.map (fun task => task.call) ++ events.filterMap PoolEvent.started? := by
  induction events using List.reverseRecOn with
  | nil => simp
  | append_singleton before event ih =>
      rw [run_concat, List.filterMap_append, ← List.append_assoc, ← ih]
      cases event with
      | start call => simp [step, start, PoolEvent.started?]
      | advance index =>
          obtain hsame | ⟨task, next, rest, htask, -, hadvance⟩ :=
            advance_cases index (run (step body) pool before)
          · simp [step, hsame, PoolEvent.started?]
          · have hcall : ((run (step body) pool before).running.map
                fun task => task.call)[index]? = some task.call := by
              rw [List.getElem?_map, htask]
              rfl
            rw [step, hadvance, List.map_set]
            obtain ⟨hlt, hget⟩ := List.getElem?_eq_some_iff.mp hcall
            rw [← hget, List.set_getElem_self]
            simp [PoolEvent.started?]

theorem started_of_running {state : σ} {task : Running Call σ ε α}
    (htask : task ∈ (run (step body) { state } events).running) :
    ∃ earlier, earlier ++ [.start task.call] <+: events := by
  have hcall := List.mem_map_of_mem (f := fun task : Running Call σ ε α => task.call) htask
  rw [running_calls, List.map_nil, List.nil_append] at hcall
  obtain ⟨event, hevent, hstarted⟩ := List.mem_filterMap.mp hcall
  obtain rfl : event = .start task.call := by
    cases event with
    | start call => exact congrArg _ (Option.some.inj hstarted)
    | advance index => cases hstarted
  obtain ⟨earlier, rest, rfl⟩ := List.append_of_mem hevent
  exact ⟨earlier, by simp⟩

theorem running_length_le (hearlier : earlier <+: events) :
    (run (step body) pool earlier).running.length ≤
      (run (step body) pool events).running.length := by
  have hlength (before : List (PoolEvent Call)) : (run (step body) pool before).running.length =
      pool.running.length + (before.filterMap PoolEvent.started?).length := by
    have hcalls := congrArg List.length (running_calls body pool before)
    rw [List.length_map, List.length_append, List.length_map] at hcalls
    exact hcalls
  rw [hlength, hlength]
  exact Nat.add_le_add_left (hearlier.filterMap _).length_le _

section

variable {relation : Call → σ → σ → Prop} {state : σ}
  (hbody : ∀ call, Program.Guarantees (relation call) (body call))

include hbody

theorem running_guarantees :
    ∀ task ∈ (run (step body) { state } events).running,
      Program.Guarantees (relation task.call) task.left := by
  induction events using List.reverseRecOn with
  | nil =>
      intro task htask
      cases htask
  | append_singleton earlier event ih =>
      rw [run_concat]
      cases event with
      | start call =>
          intro task htask
          rcases List.mem_append.mp htask with hold | hnew
          · exact ih task hold
          · rw [List.mem_singleton.mp hnew]
            exact hbody call
      | advance index =>
          intro task htask
          change task ∈ (advance index _).running at htask
          obtain hsame | ⟨found, next, rest, hfound, hleft, hadvance⟩ :=
            advance_cases index (run (step body) { state } earlier)
          · rw [hsame] at htask
            exact ih task htask
          · rw [hadvance] at htask
            rcases List.mem_or_eq_of_mem_set htask with hold | rfl
            · exact ih task hold
            · have hstep := ih found (List.mem_of_getElem? hfound)
              rw [hleft] at hstep
              cases hstep with
              | step _ hrest => exact hrest _

theorem step_state_cases (earlier : List (PoolEvent Call)) (event : PoolEvent Call) :
    (step body event (run (step body) { state } earlier)).state =
        (run (step body) { state } earlier).state ∨
      ∃ index task next rest, event = .advance index ∧
        (run (step body) { state } earlier).running[index]? = some task ∧
        task.left = .step next rest ∧
        (step body event (run (step body) { state } earlier)).state =
          next (run (step body) { state } earlier).state ∧
        relation task.call (run (step body) { state } earlier).state
          (next (run (step body) { state } earlier).state) := by
  cases event with
  | start call => exact .inl rfl
  | advance index =>
      obtain hsame | ⟨task, next, rest, htask, hleft, hadvance⟩ :=
        advance_cases index (run (step body) { state } earlier)
      · exact .inl (congrArg Pool.state hsame)
      · have hguarantees := running_guarantees body hbody task (List.mem_of_getElem? htask)
        rw [hleft] at hguarantees
        cases hguarantees with
        | step hnext _ =>
            exact .inr ⟨index, task, next, rest, rfl, htask, hleft,
              congrArg Pool.state hadvance, hnext _⟩

end

def StepAllowed (allowed : Call → σ → σ → σ → Prop) (index : Nat)
    (pool : Pool Call σ ε α) : Prop :=
  ∀ task next rest, pool.running[index]? = some task → task.left = .step next rest →
    allowed task.call task.since pool.state (next pool.state)

def EventAllowed (body : Call → Program σ ε α) (start : σ)
    (allowed : Call → σ → σ → σ → Prop) (earlier : List (PoolEvent Call))
    (event : PoolEvent Call) : Prop :=
  ∀ index, event = .advance index →
    StepAllowed allowed index (run (step body) { state := start } earlier)

section

variable {body : Call → Program σ ε α} {start : σ} {allowed : Call → σ → σ → σ → Prop}

theorem eventAllowed_start (call : Call) : EventAllowed body start allowed earlier (.start call) :=
  fun _ heq => by cases heq

theorem eventAllowed_advance {task : Running Call σ ε α} {next : σ → σ} {rest : σ → Program σ ε α}
    (htask : (run (step body) { state := start } earlier).running[index]? = some task)
    (hleft : task.left = .step next rest)
    (hallowed : allowed task.call task.since
      (run (step body) { state := start } earlier).state
      (next (run (step body) { state := start } earlier).state)) :
    EventAllowed body start allowed earlier (.advance index) := by
  intro other hother found next' rest' hfound hstep
  cases hother
  obtain rfl : task = found := Option.some.inj (htask.symm.trans hfound)
  rw [hleft] at hstep
  cases hstep
  exact hallowed

end

structure Respectful (allowed : Call → σ → σ → σ → Prop) (reach : σ → σ → Prop)
    (good : Call → α → σ → Prop) (state : σ) (task : Running Call σ ε α) :
    Prop where
  since : reach task.since state
  left : Program.Follows (allowed task.call) reach (good task.call) task.since
    task.left

section Respectful

variable {body} {allowed : Call → σ → σ → σ → Prop} {reach : σ → σ → Prop}
variable [IsPreorder σ reach] {good : Call → α → σ → Prop}

theorem Respectful.later {state state' : σ} {task : Running Call σ ε α}
    (htask : Respectful allowed reach good state task) (hreach : reach state state') :
    Respectful allowed reach good state' task :=
  { htask with since := trans_of reach htask.since hreach }

omit [IsPreorder σ reach] in
theorem Respectful.result {state : σ} {task : Running Call σ ε α} {value : α}
    (htask : Respectful allowed reach good state task)
    (hgood : ∀ state state', reach state state' → good task.call value state →
      good task.call value state')
    (hdone : task.left = .done (.ok value)) : good task.call value state := by
  obtain ⟨hsince, hleft⟩ := htask
  rw [hdone] at hleft
  cases hleft with
  | ok hvalue => exact hgood _ _ hsince hvalue

theorem respectful_start {pool : Pool Call σ ε α} {call : Call}
    (hpool : ∀ task ∈ pool.running, Respectful allowed reach good pool.state task)
    (hbody : ∀ since, Program.Follows (allowed call) reach (good call) since
      (body call)) :
    ∀ task ∈ (start body call pool).running,
      Respectful allowed reach good (start body call pool).state task := by
  intro task htask
  rcases List.mem_append.mp htask with hold | hnew
  · exact hpool task hold
  · obtain rfl := List.mem_singleton.mp hnew
    exact ⟨refl_of reach _, hbody _⟩

theorem respectful_advance {pool : Pool Call σ ε α} {index : Nat}
    (hallowed : StepAllowed allowed index pool)
    (hpool : ∀ task ∈ pool.running, Respectful allowed reach good pool.state task) :
    reach pool.state (advance index pool).state ∧
      ∀ task ∈ (advance index pool).running,
        Respectful allowed reach good (advance index pool).state task := by
  obtain hsame | ⟨task, next, rest, hindex, hleft, hadvance⟩ :=
    advance_cases index pool
  · rw [hsame]
    exact ⟨refl_of reach _, hpool⟩
  · rw [hadvance]
    obtain ⟨hsince, hfollows⟩ := hpool task (List.mem_of_getElem? hindex)
    have hstep := hallowed task next rest hindex hleft
    rw [hleft] at hfollows
    cases hfollows with
    | step hnext hrest =>
        have hreach := hnext pool.state hsince hstep
        refine ⟨hreach, fun other hother => ?_⟩
        rcases List.mem_or_eq_of_mem_set hother with hold | rfl
        · exact (hpool other hold).later hreach
        · exact ⟨refl_of reach _, hrest pool.state hsince hstep⟩

/-- However the calls are interleaved, when every step taken is allowed the state
only moves along the preorder. -/
theorem allowed_run {state : σ} {events : List (PoolEvent Call)}
    (hbody : ∀ call, .start call ∈ events → ∀ since,
      Program.Follows (allowed call) reach (good call) since (body call))
    (hallowed : ∀ earlier index, earlier ++ [.advance index] <+: events →
      StepAllowed allowed index (run (step body) { state } earlier)) :
    ∀ earlier, earlier <+: events →
      reach state (run (step body) { state } earlier).state ∧
        ∀ task ∈ (run (step body) { state } earlier).running,
          Respectful allowed reach good (run (step body) { state } earlier).state
            task := by
  refine @run_invariant _ _ (step body) { state } events
    (fun _ pool => reach state pool.state ∧
      ∀ task ∈ pool.running, Respectful allowed reach good pool.state task)
    ⟨refl_of reach state, fun task htask => by cases htask⟩ ?_
  rintro earlier event hearlier ⟨hreach, hpool⟩
  cases event with
  | start call =>
      have hcall : .start call ∈ events := hearlier.subset (by simp)
      exact ⟨hreach, respectful_start hpool (hbody call hcall)⟩
  | advance index =>
      obtain ⟨hnext, hafter⟩ :=
        respectful_advance (hallowed earlier index hearlier) hpool
      exact ⟨trans_of reach hreach hnext, hafter⟩

theorem allowed_between {state : σ} {events : List (PoolEvent Call)}
    (hbody : ∀ call, .start call ∈ events → ∀ since,
      Program.Follows (allowed call) reach (good call) since (body call))
    (hallowed : ∀ earlier index, earlier ++ [.advance index] <+: events →
      StepAllowed allowed index (run (step body) { state } earlier))
    {earlier later : List (PoolEvent Call)} (hearlier : earlier <+: later)
    (hlater : later <+: events) :
    reach (run (step body) { state } earlier).state
      (run (step body) { state } later).state := by
  induction later using List.reverseRecOn with
  | nil =>
      obtain rfl := List.prefix_nil.mp hearlier
      exact refl_of reach _
  | append_singleton later event ih =>
      rcases List.prefix_concat_iff.mp hearlier with rfl | hbefore
      · exact refl_of reach _
      have hprevious := (List.prefix_append later [event]).trans hlater
      refine trans_of reach (ih hbefore hprevious) ?_
      have hpool := (allowed_run hbody hallowed later hprevious).2
      rw [run_concat]
      cases event with
      | start call => exact refl_of reach _
      | advance index => exact (respectful_advance (hallowed later index hlater) hpool).1

theorem respectful_run {state : σ} {events : List (PoolEvent Call)}
    (hbody : ∀ call, .start call ∈ events → ∀ since,
      Program.Respects reach (good call) since (body call)) :
    reach state (run (step body) { state } events).state := by
  refine (allowed_run hbody ?_ events List.prefix_rfl).1
  exact fun _ _ _ _ _ _ _ _ => trivial

end Respectful

end Pool

/-! Calls whose first step is allowed on other terms than the later ones: a check,
say, that decides whether there are any. -/

section FirstSteps

variable {Call : Type w'} {σ : Type u} {ε : Type v} {α : Type w}

inductive Program.Begins (first : σ → Prop) (allowed : σ → σ → σ → Prop)
    (reach : σ → σ → Prop) (good : α → σ → Prop) : Program σ ε α → Prop
  | done : (∀ value state, result = .ok value → good value state) →
      Begins first allowed reach good (.done result)
  | step : (∀ state, first state → reach state (next state)) →
      (∀ state, first state → Program.Follows allowed reach good (next state) (rest state)) →
      Begins first allowed reach good (.step next rest)

theorem Program.Begins.of_follows {first : σ → Prop} {allowed : σ → σ → σ → Prop}
    {reach : σ → σ → Prop} [IsPreorder σ reach] {good : α → σ → Prop}
    {program : Program σ ε α}
    (hfollows : ∀ since, Program.Follows allowed reach good since program)
    (hfirst : ∀ state after, first state → allowed state state after) :
    Program.Begins first allowed reach good program := by
  cases program with
  | done result =>
      refine .done fun value state hresult => ?_
      cases hfollows state with
      | ok hvalue => exact Except.ok.inj hresult ▸ hvalue
      | error => cases hresult
  | step next rest =>
      refine .step (fun state hstate => ?_) fun state hstate => ?_
      · cases hfollows state with
        | step hnext _ => exact hnext state (refl_of reach state) (hfirst state _ hstate)
      · cases hfollows state with
        | step _ hrest => exact hrest state (refl_of reach state) (hfirst state _ hstate)

namespace Pool

variable (body : Call → Program σ ε α)

structure TurnAllowed (first : Call → σ → Prop) (later : Call → σ → σ → σ → Prop)
    (index : Nat) (pool : Pool Call σ ε α) : Prop where
  first : ∀ task next rest, pool.running[index]? = some task →
    task.left = .step next rest → task.left = body task.call → first task.call pool.state
  later : ∀ task next rest, pool.running[index]? = some task →
    task.left = .step next rest → task.left ≠ body task.call →
      later task.call task.since pool.state (next pool.state)

inductive Underway (later : Call → σ → σ → σ → Prop) (reach : σ → σ → Prop)
    (good : Call → α → σ → Prop) (state : σ) (task : Running Call σ ε α) : Prop
  | unbegun : task.left = body task.call → Underway later reach good state task
  | begun : Respectful later reach good state task → Underway later reach good state task

variable {body} {first : Call → σ → Prop} {later : Call → σ → σ → σ → Prop}
variable {reach : σ → σ → Prop} [IsPreorder σ reach] {good : Call → α → σ → Prop}

theorem Underway.since_later {state state' : σ} {task : Running Call σ ε α}
    (htask : Underway body later reach good state task) (hreach : reach state state') :
    Underway body later reach good state' task := by
  cases htask with
  | unbegun hleft => exact .unbegun hleft
  | begun hrespectful => exact .begun (hrespectful.later hreach)

theorem underway_advance {pool : Pool Call σ ε α} {index : Nat}
    (hallowed : TurnAllowed body first later index pool)
    (hbody : ∀ task ∈ pool.running,
      Program.Begins (first task.call) (later task.call) reach (good task.call)
        (body task.call))
    (hpool : ∀ task ∈ pool.running, Underway body later reach good pool.state task) :
    reach pool.state (advance index pool).state ∧
      ∀ task ∈ (advance index pool).running,
        Underway body later reach good (advance index pool).state task := by
  obtain hsame | ⟨task, next, rest, hindex, hleft, hadvance⟩ := advance_cases index pool
  · rw [hsame]
    exact ⟨refl_of reach _, hpool⟩
  · have hmem := List.mem_of_getElem? hindex
    have hstep : reach pool.state (next pool.state) ∧
        Program.Follows (later task.call) reach (good task.call) (next pool.state)
          (rest pool.state) := by
      by_cases hbegun : task.left = body task.call
      · have hfirst := hallowed.first task next rest hindex hleft hbegun
        have hbegins := hbody task hmem
        rw [← hbegun, hleft] at hbegins
        cases hbegins with
        | step hnext hrest => exact ⟨hnext _ hfirst, hrest _ hfirst⟩
      · have hlater := hallowed.later task next rest hindex hleft hbegun
        obtain hunbegun | ⟨hsince, hfollows⟩ := hpool task hmem
        · exact absurd hunbegun hbegun
        · rw [hleft] at hfollows
          cases hfollows with
          | step hnext hrest =>
              exact ⟨hnext _ hsince hlater, hrest _ hsince hlater⟩
    rw [hadvance]
    refine ⟨hstep.1, fun other hother => ?_⟩
    rcases List.mem_or_eq_of_mem_set hother with hold | rfl
    · exact (hpool other hold).since_later hstep.1
    · exact .begun ⟨refl_of reach _, hstep.2⟩

/-- However the calls are interleaved, when every step taken is allowed in its
turn the state only moves along the preorder. -/
theorem underway_run {state : σ} {events : List (PoolEvent Call)}
    (hbody : ∀ call, .start call ∈ events →
      Program.Begins (first call) (later call) reach (good call) (body call))
    (hallowed : ∀ earlier index, earlier ++ [.advance index] <+: events →
      reach state (run (step body) { state } earlier).state →
      TurnAllowed body first later index (run (step body) { state } earlier)) :
    ∀ earlier, earlier <+: events →
      reach state (run (step body) { state } earlier).state ∧
        ∀ task ∈ (run (step body) { state } earlier).running,
          Underway body later reach good (run (step body) { state } earlier).state task := by
  refine @run_invariant _ _ (step body) { state } events
    (fun _ pool => reach state pool.state ∧
      ∀ task ∈ pool.running, Underway body later reach good pool.state task)
    ⟨refl_of reach state, fun task htask => by cases htask⟩ ?_
  rintro earlier event hearlier ⟨hreach, hpool⟩
  cases event with
  | start call =>
      refine ⟨hreach, fun task htask => ?_⟩
      rcases List.mem_append.mp htask with hold | hnew
      · exact hpool task hold
      · obtain rfl := List.mem_singleton.mp hnew
        exact .unbegun rfl
  | advance index =>
      have hbegins : ∀ task ∈ (run (step body) { state } earlier).running,
          Program.Begins (first task.call) (later task.call) reach (good task.call)
            (body task.call) := by
        intro task htask
        obtain ⟨before, hbefore⟩ := started_of_running body htask
        have hstarted := hbefore.subset (List.mem_append_right before List.mem_cons_self)
        exact hbody task.call (hearlier.subset (List.mem_append_left _ hstarted))
      obtain ⟨hnext, hafter⟩ :=
        underway_advance (hallowed earlier index hearlier hreach) hbegins hpool
      exact ⟨trans_of reach hreach hnext, hafter⟩

omit [IsPreorder σ reach] in
theorem Underway.result {state : σ} {task : Running Call σ ε α} {value : α}
    (htask : Underway body later reach good state task)
    (hbody : Program.Begins (first task.call) (later task.call) reach (good task.call)
      (body task.call))
    (hgood : ∀ state state', reach state state' → good task.call value state →
      good task.call value state')
    (hdone : task.left = .done (.ok value)) : good task.call value state := by
  cases htask with
  | unbegun hleft =>
      rw [← hleft, hdone] at hbody
      cases hbody with
      | done hvalue => exact hvalue value state rfl
  | begun hrespectful => exact hrespectful.result hgood hdone

end Pool

end FirstSteps

end Osvauld.Data
