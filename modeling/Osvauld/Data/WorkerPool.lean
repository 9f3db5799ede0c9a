import Mathlib.Data.List.Basic
import Mathlib.Logic.Relation

namespace Osvauld.Data

/-! A queue of tasks that are run side by side. A first loop starts as many as the pool
has room for; a second one takes a finished task away and starts the next, until there is
none left, and closes the pool. -/

structure WorkerPool (Task Output : Type) where
  queued : List Task
  running : List Task
  finished : List Task
  starting : Nat
  closed : Bool
  output : List Output

namespace WorkerPool

variable {Task Output : Type}

def startNext (pool : WorkerPool Task Output) : WorkerPool Task Output :=
  match pool.queued with
  | [] => pool
  | task :: rest => { pool with queued := rest, running := pool.running ++ [task] }

variable (emits : Task → List Output) (closing : List Output)

inductive Step : WorkerPool Task Output → WorkerPool Task Output → Prop
  | start {pool : WorkerPool Task Output} {rounds : Nat} :
      pool.starting = rounds + 1 → Step pool { pool.startNext with starting := rounds }
  | finish {pool : WorkerPool Task Output} {front : List Task} {task : Task}
      {back : List Task} : pool.running = front ++ task :: back →
      Step pool
        { pool with
          running := front ++ back, finished := pool.finished ++ [task]
          output := pool.output ++ emits task }
  | join {pool : WorkerPool Task Output} {front : List Task} {task : Task}
      {back : List Task} : pool.starting = 0 → pool.finished = front ++ task :: back →
      Step pool { pool with finished := front ++ back }.startNext
  | close {pool : WorkerPool Task Output} : pool.starting = 0 → pool.running = [] →
      pool.finished = [] → pool.closed = false →
      Step pool { pool with closed := true, output := pool.output ++ closing }

abbrev Reaches : WorkerPool Task Output → WorkerPool Task Output → Prop :=
  Relation.ReflTransGen (Step emits closing)

def Final (pool : WorkerPool Task Output) : Prop :=
  ∀ next, ¬ Step emits closing pool next

def opened (capacity : Nat) (tasks : List Task) (output : List Output) :
    WorkerPool Task Output :=
  { queued := tasks, running := [], finished := [], starting := capacity, closed := false
    output }

def inFlight (pool : WorkerPool Task Output) : Nat :=
  pool.running.length + pool.finished.length

structure Sound (capacity : Nat) (tasks : List Task) (before : List Output)
    (pool : WorkerPool Task Output) : Prop where
  room : pool.inFlight + pool.starting ≤ capacity
  full : pool.queued = [] ∨ pool.inFlight + pool.starting = capacity
  outputs : ∃ completed, (completed ++ (pool.running ++ pool.queued)).Perm tasks ∧
    pool.output = before ++ completed.flatMap emits ++ if pool.closed then closing else []
  closed : pool.closed = true →
    pool.starting = 0 ∧ pool.queued = [] ∧ pool.running = [] ∧ pool.finished = []

section Runs

variable {emits closing} {capacity : Nat} {tasks : List Task} {before : List Output}
variable {pool next last : WorkerPool Task Output}

theorem sound_opened :
    Sound emits closing capacity tasks before (opened capacity tasks before) where
  room := by simp [opened, inFlight]
  full := .inr (by simp [opened, inFlight])
  outputs := ⟨[], by simp [opened], by simp [opened]⟩
  closed := nofun

theorem sound_startNext {rounds : Nat}
    (hfull : pool.queued = [] ∨ pool.inFlight + rounds + 1 = capacity)
    (hroom : pool.inFlight + rounds + 1 ≤ capacity) (hopen : pool.closed = false)
    (houtputs : ∃ completed, (completed ++ (pool.running ++ pool.queued)).Perm tasks ∧
      pool.output = before ++ completed.flatMap emits) :
    Sound emits closing capacity tasks before { pool.startNext with starting := rounds } := by
  obtain ⟨completed, hperm, houtput⟩ := houtputs
  unfold inFlight at hfull hroom
  unfold startNext
  cases hqueued : pool.queued with
  | nil =>
      rw [hqueued] at hperm
      refine ⟨?_, .inl hqueued, ⟨completed, by rwa [hqueued], ?_⟩, ?_⟩
      · simp only [inFlight]
        omega
      · simp [houtput, hopen]
      · simp [hopen]
  | cons task rest =>
      rw [hqueued] at hperm hfull
      have hplace := hfull.resolve_left (List.cons_ne_nil _ _)
      refine ⟨?_, .inr ?_, ⟨completed, ?_, ?_⟩, ?_⟩
      · simp only [inFlight, List.length_append, List.length_singleton]
        omega
      · simp only [inFlight, List.length_append, List.length_singleton]
        omega
      · simpa using hperm
      · simp [houtput, hopen]
      · simp [hopen]

theorem Sound.open_outputs (hsound : Sound emits closing capacity tasks before pool)
    (hopen : pool.closed = false) :
    ∃ completed, (completed ++ (pool.running ++ pool.queued)).Perm tasks ∧
      pool.output = before ++ completed.flatMap emits := by
  obtain ⟨completed, hperm, houtput⟩ := hsound.outputs
  exact ⟨completed, hperm, by simpa [hopen] using houtput⟩

theorem Sound.open_of (hsound : Sound emits closing capacity tasks before pool)
    (hbusy : ¬ (pool.starting = 0 ∧ pool.running = [] ∧ pool.finished = [])) :
    pool.closed = false := by
  rw [← Bool.not_eq_true]
  intro hclosed
  obtain ⟨hstarting, -, hrunning, hfinished⟩ := hsound.closed hclosed
  exact hbusy ⟨hstarting, hrunning, hfinished⟩

theorem Sound.step (hcapacity : 0 < capacity)
    (hsound : Sound emits closing capacity tasks before pool)
    (hstep : Step emits closing pool next) :
    Sound emits closing capacity tasks before next := by
  have hroom := hsound.room
  have hfull := hsound.full
  cases hstep with
  | @start rounds hrounds =>
      have hopen := hsound.open_of fun hidle => by omega
      exact sound_startNext (hfull.imp_right fun hplaces => by omega) (by omega) hopen
        (hsound.open_outputs hopen)
  | @finish front task back hrunning =>
      have hopen := hsound.open_of fun hidle => by simp [hrunning] at hidle
      obtain ⟨completed, hperm, houtput⟩ := hsound.open_outputs hopen
      unfold inFlight at hroom hfull
      simp only [hrunning, List.length_append, List.length_cons] at hroom hfull
      refine ⟨?_, ?_, ⟨completed ++ [task], ?_, ?_⟩, ?_⟩
      · simp only [inFlight, List.length_append, List.length_singleton]
        omega
      · simp only [inFlight, List.length_append, List.length_singleton]
        exact hfull.imp_right fun hplaces => by omega
      · rw [hrunning] at hperm
        refine List.Perm.trans ?_ hperm
        simp only [List.append_assoc, List.cons_append, List.nil_append]
        exact List.perm_middle.symm.append_left completed
      · simp [houtput, hopen]
      · simp [hopen]
  | @join front task back hstarting hfinished =>
      have hopen := hsound.open_of fun hidle => by simp [hfinished] at hidle
      have houtputs := hsound.open_outputs hopen
      unfold inFlight at hroom hfull
      simp only [hfinished, List.length_append, List.length_cons, hstarting] at hroom hfull
      let joined : WorkerPool Task Output := { pool with finished := front ++ back }
      have hnext : joined.startNext = { joined.startNext with starting := 0 } := by
        unfold startNext
        cases joined.queued <;> simp [joined, hstarting]
      have hround : joined.queued = [] ∨ joined.inFlight + 0 + 1 = capacity := by
        simp only [joined, inFlight, List.length_append]
        exact hfull.imp_right fun hplaces => by omega
      have hplaces : joined.inFlight + 0 + 1 ≤ capacity := by
        simp only [joined, inFlight, List.length_append]
        omega
      show Sound emits closing capacity tasks before joined.startNext
      rw [hnext]
      exact sound_startNext hround hplaces hopen houtputs
  | close hstarting hrunning hfinished hopen =>
      obtain ⟨completed, hperm, houtput⟩ := hsound.open_outputs hopen
      refine ⟨hroom, hfull, ⟨completed, hperm, ?_⟩, fun _ => ⟨hstarting, ?_, hrunning, hfinished⟩⟩
      · simp [houtput]
      · apply hfull.resolve_right
        simp only [inFlight, hrunning, hfinished, hstarting, List.length_nil]
        omega

theorem Sound.reaches (hcapacity : 0 < capacity)
    (hsound : Sound emits closing capacity tasks before pool)
    (hreaches : Reaches emits closing pool last) :
    Sound emits closing capacity tasks before last := by
  induction hreaches with
  | refl => exact hsound
  | tail _ hstep ih => exact ih.step hcapacity hstep

def remaining (pool : WorkerPool Task Output) : Nat :=
  3 * pool.queued.length + 2 * pool.running.length + pool.finished.length + pool.starting +
    if pool.closed then 0 else 1

theorem remaining_startNext_le (pool : WorkerPool Task Output) :
    pool.startNext.remaining ≤ pool.remaining := by
  unfold startNext
  cases hqueued : pool.queued with
  | nil => exact Nat.le_refl _
  | cons task rest =>
      simp only [remaining, hqueued, List.length_append, List.length_cons, List.length_nil]
      omega

theorem Step.remaining_lt (hstep : Step emits closing pool next) :
    next.remaining < pool.remaining := by
  cases hstep with
  | start hrounds =>
      have hle := remaining_startNext_le pool
      have hsame : pool.startNext.starting = pool.starting := by
        unfold startNext
        cases pool.queued <;> rfl
      unfold remaining at hle ⊢
      simp only at hle ⊢
      omega
  | finish hrunning =>
      simp only [remaining, hrunning, List.length_append, List.length_cons, List.length_nil]
      omega
  | @join front task back _ hfinished =>
      apply Nat.lt_of_le_of_lt (remaining_startNext_le _)
      simp only [remaining, hfinished, List.length_append, List.length_cons]
      omega
  | close _ _ _ hopen => simp [remaining, hopen]

theorem step_wellFounded :
    WellFounded fun next pool : WorkerPool Task Output => Step emits closing pool next :=
  Subrelation.wf Step.remaining_lt (measure remaining).wf

theorem exists_final (pool : WorkerPool Task Output) :
    ∃ last, Reaches emits closing pool last ∧ Final emits closing last := by
  induction pool using (@step_wellFounded _ _ emits closing).induction with
  | h pool ih =>
      by_cases hfinal : Final emits closing pool
      · exact ⟨pool, .refl, hfinal⟩
      · obtain ⟨next, hstep⟩ := not_forall_not.mp hfinal
        obtain ⟨last, hreaches, hlast⟩ := ih next hstep
        exact ⟨last, .head hstep hreaches, hlast⟩

theorem closed_of_final (hfinal : Final emits closing pool) : pool.closed = true := by
  by_contra hopen
  rw [Bool.not_eq_true] at hopen
  cases hstarting : pool.starting with
  | succ rounds => exact hfinal _ (.start hstarting)
  | zero =>
      cases hrunning : pool.running with
      | cons task rest => exact hfinal _ (.finish (hrunning.trans (List.nil_append _).symm))
      | nil =>
          cases hfinished : pool.finished with
          | cons task rest =>
              exact hfinal _ (.join hstarting (hfinished.trans (List.nil_append _).symm))
          | nil => exact hfinal _ (.close hstarting hrunning hfinished hopen)

theorem Sound.inFlight_le (hsound : Sound emits closing capacity tasks before pool) :
    pool.inFlight ≤ capacity := by
  have hroom := hsound.room
  omega

theorem Sound.output_of_final (hsound : Sound emits closing capacity tasks before pool)
    (hfinal : Final emits closing pool) :
    ∃ completed : List Task, completed.Perm tasks ∧
      pool.output = before ++ completed.flatMap emits ++ closing := by
  have hclosed := closed_of_final hfinal
  obtain ⟨-, hqueued, hrunning, -⟩ := hsound.closed hclosed
  obtain ⟨completed, hperm, houtput⟩ := hsound.outputs
  refine ⟨completed, by simpa [hqueued, hrunning] using hperm, ?_⟩
  rw [houtput, if_pos hclosed]

end Runs

end WorkerPool

end Osvauld.Data
