import Osvauld.Data.Program

namespace Osvauld.Data

namespace Program

variable {σ : Type u} {τ : Type u} {ε ε' : Type v} {α β : Type w}

/-! Programs that run to their end without interruption: what the run keeps,
and what is known of the result. -/

def Keeps (invariant : σ → Prop) (good : α → Prop) (program : Program σ ε α) :
    Prop :=
  ∀ state, invariant state → invariant (program.run state).2 ∧
    ∀ value, (program.run state).1 = .ok value → good value

namespace Keeps

variable {invariant : σ → Prop} {good : α → Prop} {after : β → Prop}

theorem mono {good' : α → Prop} {program : Program σ ε α}
    (hprogram : Keeps invariant good program)
    (hgood : ∀ value, good value → good' value) :
    Keeps invariant good' program := by
  intro state hstate
  obtain ⟨hafter, hvalue⟩ := hprogram state hstate
  exact ⟨hafter, fun value heq => hgood value (hvalue value heq)⟩

variable {program : Program σ ε α}

theorem bind {continuation : α → Program σ ε β} (hprogram : Keeps invariant good program)
    (hcontinuation : ∀ value, good value → Keeps invariant after (continuation value)) :
    Keeps invariant after (program >>= continuation) := by
  intro state hstate
  obtain ⟨hmiddle, hvalue⟩ := hprogram state hstate
  rw [run_bind]
  cases hrun : program.run state with
  | mk outcome middle =>
      rw [hrun] at hmiddle hvalue
      cases outcome with
      | ok value => exact hcontinuation value (hvalue value rfl) middle hmiddle
      | error error => exact ⟨hmiddle, fun value heq => by cases heq⟩

theorem ofExcept {result : Except ε α}
    (hresult : ∀ value, result = .ok value → good value) :
    Keeps invariant good (Program.ofExcept result : Program σ ε α) :=
  fun _ hstate => ⟨hstate, hresult⟩

theorem pure {value : α} (hvalue : good value) :
    Keeps invariant good (Pure.pure value : Program σ ε α) := by
  refine ofExcept fun other heq => ?_
  cases heq
  exact hvalue

theorem fail (error : ε) :
    Keeps invariant good (Program.fail error : Program σ ε α) :=
  ofExcept fun value heq => by cases heq

theorem atomically {action : σ → Except ε α × σ}
    (hstate : ∀ state, invariant state → invariant (action state).2)
    (hvalue : ∀ state value, invariant state → (action state).1 = .ok value →
      good value) : Keeps invariant good (Program.atomically action) :=
  fun state hinvariant =>
    ⟨hstate state hinvariant, fun value => hvalue state value hinvariant⟩

theorem read {query : σ → Except ε α}
    (hquery : ∀ state value, invariant state → query state = .ok value →
      good value) : Keeps invariant good (Program.read query) :=
  .atomically (fun _ hstate => hstate) hquery

theorem write {update : σ → Except ε σ}
    (hupdate : ∀ state state', invariant state → update state = .ok state' →
      invariant state') :
    Keeps invariant (fun _ => True) (Program.write update) := by
  refine .atomically (fun state hstate => ?_) fun _ _ _ _ => trivial
  cases hresult : update state with
  | ok state' => exact hupdate state state' hstate hresult
  | error error => exact hstate

theorem mapError (translate : ε → ε') (hprogram : Keeps invariant good program) :
    Keeps invariant good (program.mapError translate) := by
  intro state hstate
  obtain ⟨hafter, hvalue⟩ := hprogram state hstate
  rw [run_mapError]
  refine ⟨hafter, fun value heq => hvalue value ?_⟩
  cases hrun : (program.run state).1 with
  | ok result =>
      rw [hrun] at heq
      cases heq
      rfl
  | error error =>
      rw [hrun] at heq
      cases heq

theorem attempt (hprogram : Keeps invariant good program) :
    Keeps invariant (fun outcome => ∀ value, outcome = .ok value → good value)
      (program.attempt : Program σ ε' (Except ε α)) := by
  intro state hstate
  obtain ⟨hafter, hvalue⟩ := hprogram state hstate
  rw [run_attempt]
  refine ⟨hafter, fun outcome heq value houtcome => hvalue value ?_⟩
  cases heq
  exact houtcome

theorem zoom {get : τ → σ} {set : σ → τ → τ} {outer : τ → Prop}
    (hget : ∀ inner state, get (set inner state) = inner)
    (hset : ∀ inner inner' state, set inner' (set inner state) = set inner' state)
    (hself : ∀ state, set (get state) state = state) (hprogram : Keeps invariant good program)
    (hinner : ∀ state, outer state → invariant (get state))
    (houter : ∀ state inner, outer state → invariant inner → outer (set inner state)) :
    Keeps outer good (program.zoom get set) := by
  intro state hstate
  obtain ⟨hafter, hvalue⟩ := hprogram (get state) (hinner state hstate)
  rw [run_zoom hget hset hself]
  exact ⟨houter _ _ hstate hafter, hvalue⟩

theorem forEach {items : List β} {body : β → Program σ ε PUnit}
    (hbody : ∀ item ∈ items, Keeps invariant (fun _ => True) (body item)) :
    Keeps invariant (fun _ => True) (Program.forEach items body) := by
  induction items with
  | nil => exact .pure trivial
  | cons item rest ih =>
      exact .bind (hbody item List.mem_cons_self) fun _ _ =>
        ih fun other hother => hbody other (List.mem_cons_of_mem _ hother)

theorem ite {condition : Prop} [Decidable condition]
    {first second : Program σ ε α} (hfirst : Keeps invariant good first)
    (hsecond : Keeps invariant good second) :
    Keeps invariant good (if condition then first else second) := by
  split
  · exact hfirst
  · exact hsecond

theorem run (hprogram : Keeps invariant good program) {state : σ} (hstate : invariant state) :
    invariant (program.run state).2 ∧
      ∀ value, (program.run state).1 = .ok value → good value :=
  hprogram state hstate

end Keeps

/-- Programs that lead from states of one kind to states of another, whether they
get to a result or not. -/
def Ends (before after : σ → Prop) (program : Program σ ε α) : Prop :=
  ∀ state, before state → after (program.run state).2

namespace Ends

variable {before after : σ → Prop} {good : α → Prop}

theorem bind {program : Program σ ε α} {continuation : α → Program σ ε β}
    (hprogram : Keeps before good program)
    (hstill : ∀ state, before state → after state)
    (hcontinuation : ∀ value, good value → Ends before after (continuation value)) :
    Ends before after (program >>= continuation) := by
  intro state hstate
  obtain ⟨hmiddle, hvalue⟩ := hprogram state hstate
  rw [run_bind]
  cases hrun : program.run state with
  | mk outcome middle =>
      rw [hrun] at hmiddle hvalue
      cases outcome with
      | ok value => exact hcontinuation value (hvalue value rfl) middle hmiddle
      | error error => exact hstill middle hmiddle

theorem andKeeps {good : β → Prop} {program : Program σ ε α}
    {continuation : α → Program σ ε β} (hprogram : Ends before after program)
    (hcontinuation : ∀ value, Keeps after good (continuation value)) :
    Ends before after (program >>= continuation) := by
  intro state hstate
  have hmiddle := hprogram state hstate
  rw [run_bind]
  cases hrun : program.run state with
  | mk outcome middle =>
      rw [hrun] at hmiddle
      cases outcome with
      | ok value => exact (hcontinuation value middle hmiddle).1
      | error error => exact hmiddle

theorem write {update : σ → Except ε σ} (hstill : ∀ state, before state → after state)
    (hupdate : ∀ state state', before state → update state = .ok state' → after state') :
    Ends before after (Program.write update) := by
  intro state hstate
  rw [run_write]
  cases hresult : update state with
  | ok state' => exact hupdate state state' hstate hresult
  | error error => exact hstill state hstate

theorem pure (hstill : ∀ state, before state → after state) (value : α) :
    Ends before after (Pure.pure value : Program σ ε α) :=
  fun state hstate => hstill state hstate

theorem ite {condition : Prop} [Decidable condition] {first second : Program σ ε α}
    (hfirst : Ends before after first) (hsecond : Ends before after second) :
    Ends before after (if condition then first else second) := by
  split
  · exact hfirst
  · exact hsecond

end Ends

def Leads (before : σ → Prop) (after : Except ε α → σ → Prop) (program : Program σ ε α) :
    Prop :=
  ∀ state, before state → after (program.run state).1 (program.run state).2

namespace Leads

variable {before : σ → Prop} {good : α → Prop} {after : Except ε β → σ → Prop}

theorem bind {program : Program σ ε α} {continuation : α → Program σ ε β}
    (hprogram : Keeps before good program)
    (hfailed : ∀ error state, before state → after (.error error) state)
    (hcontinuation : ∀ value, good value → Leads before after (continuation value)) :
    Leads before after (program >>= continuation) := by
  intro state hstate
  obtain ⟨hmiddle, hvalue⟩ := hprogram state hstate
  rw [run_bind]
  cases hrun : program.run state with
  | mk outcome middle =>
      rw [hrun] at hmiddle hvalue
      cases outcome with
      | ok value => exact hcontinuation value (hvalue value rfl) middle hmiddle
      | error error => exact hfailed error middle hmiddle

theorem write_bind {update : σ → Except ε σ} {continuation : PUnit → Program σ ε β}
    (hfailed : ∀ error state, before state → after (.error error) state)
    (hupdate : ∀ state state', before state → update state = .ok state' →
      after ((continuation .unit).run state').1 ((continuation .unit).run state').2) :
    Leads before after (Program.write update >>= continuation) := by
  intro state hstate
  rw [run_bind, run_write]
  cases hresult : update state with
  | ok state' => exact hupdate state state' hstate hresult
  | error error => exact hfailed error state hstate

end Leads

end Program

end Osvauld.Data
