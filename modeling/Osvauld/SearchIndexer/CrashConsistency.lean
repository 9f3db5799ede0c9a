import Osvauld.Data.Interleaving
import Osvauld.SearchIndexer.Storage

namespace Osvauld.SearchIndexer

open Osvauld.Core CryptoUtils Data

/-! Saves that run side by side, any of which may stop at any point, and what a load
finds. -/

inductive StorageEvent where
  | save (event : PoolEvent SaveCall)
  | load

abbrev Saves := Pool SaveCall IndexStorage IndexError Unit

abbrev RunningSave := Running SaveCall IndexStorage IndexError Unit

section Saves

variable (env : StorageEnv)

def StorageEvent.step : StorageEvent → Saves → Saves
  | .save event => Pool.step (saveEncrypted env) event
  | .load => id

def afterStorage (events : List StorageEvent) : Saves :=
  run (StorageEvent.step env) { state := {} } events

def Saved (task : RunningSave) : Prop := ∃ value, task.left = .done (.ok value)

/-- A load gives the snapshot of a save, and none only before the first success; the key
and the file, where there are both, are of one save. -/
structure LoadRight (saves : Saves) (outcome : Except IndexError (Option IndexSnapshot)) :
    Prop where
  paired : saves.state.indexKey.isSome → saves.state.file.isSome →
    ∃ task ∈ saves.running, Stores env task.call saves.state
  ofSave : ∀ snapshot, outcome = .ok (some snapshot) →
    ∃ task ∈ saves.running, task.call.snapshot = snapshot
  found : (∃ task ∈ saves.running, Saved task) → ∃ snapshot, outcome = .ok (some snapshot)

def LoadsRight (events : List StorageEvent) : Prop :=
  ∀ earlier, earlier ++ [.load] <+: events →
    LoadRight env (afterStorage env earlier)
      ((loadEncrypted env).run (afterStorage env earlier).state).1

def Idle (task : RunningSave) : Prop :=
  task.left = saveEncrypted env task.call ∨ ∃ result, task.left = .done result

def InTurn (saves : Saves) : StorageEvent → Prop
  | .save (.start _) => True
  | .save (.advance index) => ∀ other task, saves.running[other]? = some task →
      other ≠ index → Idle env task
  | .load => ∀ task ∈ saves.running, Idle env task

def Underway (task : RunningSave) (storage : IndexStorage) : Prop :=
  ∃ encryptedData encryptedKey,
    encryptSnapshot env task.call = .ok (encryptedData, encryptedKey) ∧
      storage.indexKey = some encryptedKey ∧
        (task.left = writeFile task.call.sizes (env.textBytes encryptedData) ∨
          ∃ written pieces, pieces ≠ [] ∧ storage.file = some written ∧
            written ++ pieces.flatten = env.textBytes encryptedData ∧
              task.left = writePieces written.length pieces)

end Saves

variable {env : StorageEnv}

theorem saveEncrypted_cases (call : SaveCall) :
    (∃ error, saveEncrypted env call = .done (.error error)) ∨
      ∃ encryptedData encryptedKey,
        encryptSnapshot env call = .ok (encryptedData, encryptedKey) ∧
          saveEncrypted env call =
            .step (fun storage => { storage with indexKey := some encryptedKey })
              fun _ => writeFile call.sizes (env.textBytes encryptedData) := by
  unfold saveEncrypted
  cases hencrypt : encryptSnapshot env call with
  | error cause => exact .inl ⟨_, rfl⟩
  | ok encrypted => exact .inr ⟨encrypted.1, encrypted.2, rfl, rfl⟩

theorem writeFile_eq (sizes : List Nat) (data : Bytes) :
    writeFile sizes data =
      .step (fun storage => { storage with file := some [] })
        fun _ => writePieces 0 (piecesOf sizes data) := rfl

theorem writePieces_cons (offset : Nat) (piece : Bytes) (pieces : List Bytes) :
    writePieces offset (piece :: pieces) =
      .step (fun storage =>
          { storage with file := storage.file.map (writeAt offset piece) })
        fun _ => writePieces (offset + piece.length) pieces := rfl

theorem Underway.not_idle {task : RunningSave} {storage : IndexStorage}
    (hunderway : Underway env task storage) : ¬ Idle env task := by
  obtain ⟨encryptedData, encryptedKey, hencrypt, _, hleft⟩ := hunderway
  obtain ⟨next, rest, hstep, hnext⟩ : ∃ next rest, task.left = .step next rest ∧
      (next {}).indexKey = none := by
    rcases hleft with hleft | ⟨written, pieces, hpieces, _, _, hleft⟩
    · exact ⟨_, _, hleft.trans (writeFile_eq _ _), rfl⟩
    · obtain ⟨piece, pieces, rfl⟩ := List.exists_cons_of_ne_nil hpieces
      exact ⟨_, _, hleft.trans (writePieces_cons _ _ _), rfl⟩
  rintro (hfresh | ⟨result, hdone⟩)
  · rcases @saveEncrypted_cases env task.call with ⟨error, herror⟩ | ⟨_, _, _, hsave⟩
    · rw [hstep, herror] at hfresh
      cases hfresh
    · rw [hstep, hsave] at hfresh
      cases hfresh
      cases hnext
  · rw [hstep] at hdone
    cases hdone

inductive Steady (env : StorageEnv) (saves : Saves) : Prop
  | empty (storage : saves.state = {})
      (idle : ∀ (index : Nat) (task : RunningSave), saves.running[index]? = some task →
        Idle env task ∧ ¬ Saved task)
  | stored (index : Nat) (task : RunningSave) (found : saves.running[index]? = some task)
      (saved : Saved task) (stores : Stores env task.call saves.state)
      (idle : ∀ (index : Nat) (task : RunningSave), saves.running[index]? = some task → Idle env task)
  | writing (index : Nat) (task : RunningSave) (found : saves.running[index]? = some task)
      (underway : Underway env task saves.state)
      (idle : ∀ (other : Nat) (task : RunningSave), saves.running[other]? = some task → other ≠ index →
        Idle env task)

theorem not_saved_fresh {task : RunningSave} (hfresh : task.left = saveEncrypted env task.call) :
    ¬ Saved task := by
  rintro ⟨value, hdone⟩
  rw [hfresh] at hdone
  rcases @saveEncrypted_cases env task.call with ⟨error, herror⟩ | ⟨_, _, _, hsave⟩
  · rw [herror] at hdone
    cases hdone
  · rw [hsave] at hdone
    cases hdone

theorem found_start {saves : Saves} {call : SaveCall} {index : Nat} {task : RunningSave}
    (hfound : (Pool.start (saveEncrypted env) call saves).running[index]? = some task) :
    saves.running[index]? = some task ∨ task.left = saveEncrypted env task.call := by
  rw [Pool.start, List.getElem?_append] at hfound
  split at hfound
  · exact .inl hfound
  · refine .inr ?_
    rw [List.getElem?_singleton] at hfound
    split at hfound
    · cases hfound
      rfl
    · cases hfound

theorem found_start_old {saves : Saves} {call : SaveCall} {index : Nat} {task : RunningSave}
    (hfound : saves.running[index]? = some task) :
    (Pool.start (saveEncrypted env) call saves).running[index]? = some task := by
  obtain ⟨hlt, _⟩ := List.getElem?_eq_some_iff.mp hfound
  rw [Pool.start, List.getElem?_append_left hlt]
  exact hfound

theorem Steady.start {saves : Saves} (hsteady : Steady env saves) (call : SaveCall) :
    Steady env (Pool.start (saveEncrypted env) call saves) := by
  cases hsteady with
  | empty storage idle =>
      refine .empty storage fun index task hfound => ?_
      rcases found_start hfound with hold | hfresh
      · exact idle index task hold
      · exact ⟨.inl hfresh, not_saved_fresh hfresh⟩
  | stored index task found saved stores idle =>
      refine .stored index task (found_start_old found) saved stores
        fun other newTask hfound => ?_
      rcases found_start hfound with hold | hfresh
      · exact idle other newTask hold
      · exact .inl hfresh
  | writing index task found underway idle =>
      refine .writing index task (found_start_old found) underway
        fun other newTask hfound hother => ?_
      rcases found_start hfound with hold | hfresh
      · exact idle other newTask hold hother
      · exact .inl hfresh

theorem found_advance {saves : Saves} {index : Nat} {task moved : RunningSave}
    {state : IndexStorage} (hfound : saves.running[index]? = some task) :
    ({ state, running := saves.running.set index moved } : Saves).running[index]? =
      some moved := by
  obtain ⟨hlt, _⟩ := List.getElem?_eq_some_iff.mp hfound
  exact List.getElem?_set_self hlt

theorem idle_advance {saves : Saves} {index : Nat} {moved : RunningSave}
    {state : IndexStorage}
    (hidle : ∀ (other : Nat) (task : RunningSave), saves.running[other]? = some task →
      other ≠ index → Idle env task) :
    ∀ (other : Nat) (task : RunningSave),
      ({ state, running := saves.running.set index moved } : Saves).running[other]? =
        some task → other ≠ index → Idle env task := by
  intro other task hfound hother
  rw [List.getElem?_set_ne hother.symm] at hfound
  exact hidle other task hfound hother

theorem steady_of_fresh {saves : Saves} {index : Nat} {task : RunningSave}
    {next : IndexStorage → IndexStorage} {rest : IndexStorage → StorageCall Unit}
    (hfound : saves.running[index]? = some task) (hstep : task.left = .step next rest)
    (hfresh : task.left = saveEncrypted env task.call)
    (hothers : ∀ (other : Nat) (task : RunningSave), saves.running[other]? = some task →
      other ≠ index → Idle env task) :
    Steady env
      { state := next saves.state
        running := saves.running.set index
          { task with left := rest saves.state, since := next saves.state } } := by
  rcases @saveEncrypted_cases env task.call with
    ⟨error, herror⟩ | ⟨encryptedData, encryptedKey, hencrypt, hsave⟩
  · rw [hfresh, herror] at hstep
    cases hstep
  · rw [hfresh, hsave] at hstep
    cases hstep
    exact .writing index _ (found_advance hfound)
      ⟨encryptedData, encryptedKey, hencrypt, rfl, .inl rfl⟩ (idle_advance hothers)

theorem steady_of_underway {saves : Saves} {index : Nat} {task : RunningSave}
    {next : IndexStorage → IndexStorage} {rest : IndexStorage → StorageCall Unit}
    (hfound : saves.running[index]? = some task) (hstep : task.left = .step next rest)
    (hunderway : Underway env task saves.state)
    (hothers : ∀ (other : Nat) (task : RunningSave), saves.running[other]? = some task →
      other ≠ index → Idle env task) :
    Steady env
      { state := next saves.state
        running := saves.running.set index
          { task with left := rest saves.state, since := next saves.state } } := by
  obtain ⟨encryptedData, encryptedKey, hencrypt, hkey, hleft⟩ := hunderway
  rcases hleft with hleft | ⟨written, pieces, hpieces, hfile, hdata, hleft⟩
  · rw [hleft, writeFile_eq] at hstep
    cases hstep
    refine .writing index _ (found_advance hfound) ⟨encryptedData, encryptedKey, hencrypt,
      hkey, .inr ⟨[], _, piecesOf_ne_nil _ _, rfl, ?_, rfl⟩⟩ (idle_advance hothers)
    exact flatten_piecesOf _ _
  · obtain ⟨piece, pieces, rfl⟩ := List.exists_cons_of_ne_nil hpieces
    rw [hleft, writePieces_cons] at hstep
    cases hstep
    have hwritten : saves.state.file.map (writeAt written.length piece) =
        some (written ++ piece) := by
      rw [hfile, Option.map_some, writeAt_length]
    rw [List.flatten_cons, ← List.append_assoc] at hdata
    cases pieces with
    | nil =>
        rw [List.flatten_nil, List.append_nil] at hdata
        refine .stored index _ (found_advance hfound) ⟨.unit, rfl⟩
          ⟨encryptedData, encryptedKey, hencrypt, ?_⟩ fun other otherTask hother => ?_
        · change IndexStorage.mk saves.state.indexKey _ = _
          rw [hkey, hwritten, hdata]
        · by_cases hsame : other = index
          · subst hsame
            cases (found_advance hfound).symm.trans hother
            exact .inr ⟨_, rfl⟩
          · exact idle_advance hothers other otherTask hother hsame
    | cons nextPiece pieces =>
        refine .writing index _ (found_advance hfound) ⟨encryptedData, encryptedKey,
          hencrypt, hkey, .inr ⟨written ++ piece, _, List.cons_ne_nil _ _, hwritten, hdata,
            ?_⟩⟩ (idle_advance hothers)
        rw [List.length_append]

theorem Steady.advance {saves : Saves} (hsteady : Steady env saves) {index : Nat}
    (hturn : InTurn env saves (.save (.advance index))) :
    Steady env (Pool.advance index saves) := by
  rcases Pool.advance_cases index saves with hsame | ⟨task, next, rest, hfound, hstep, hnext⟩
  · rw [hsame]
    exact hsteady
  rw [hnext]
  have hfresh : Idle env task → task.left = saveEncrypted env task.call := by
    rintro (hfresh | ⟨result, hdone⟩)
    · exact hfresh
    · rw [hstep] at hdone
      cases hdone
  cases hsteady with
  | empty storage idle =>
      exact steady_of_fresh hfound hstep (hfresh (idle index task hfound).1) hturn
  | stored other otherTask _ saved stores idle =>
      exact steady_of_fresh hfound hstep (hfresh (idle index task hfound)) hturn
  | writing other otherTask found underway idle =>
      -- The save that is underway is the one whose turn it is.
      have hsame : other = index := by
        by_contra hother
        exact underway.not_idle (hturn other otherTask found hother)
      subst hsame
      cases found.symm.trans hfound
      exact steady_of_underway hfound hstep underway hturn

theorem steady_afterStorage {events : List StorageEvent}
    (hturns : ∀ earlier event, earlier ++ [event] <+: events →
      InTurn env (afterStorage env earlier) event) :
    Steady env (afterStorage env events) := by
  induction events using List.reverseRecOn with
  | nil => exact .empty rfl fun _ _ hfound => by cases hfound
  | append_singleton events event ih =>
      have hsteady := ih fun earlier other hearlier =>
        hturns earlier other (hearlier.trans (List.prefix_append _ _))
      have hturn := hturns events event List.prefix_rfl
      rw [afterStorage, run_concat]
      cases event with
      | load => exact hsteady
      | save event =>
          cases event with
          | start call => exact hsteady.start call
          | advance index => exact hsteady.advance hturn

theorem started_afterStorage {events : List StorageEvent} {task : RunningSave}
    (htask : task ∈ (afterStorage env events).running) :
    .save (.start task.call) ∈ events := by
  induction events using List.reverseRecOn generalizing task with
  | nil => cases htask
  | append_singleton events event ih =>
      rw [afterStorage, run_concat] at htask
      rw [List.mem_append]
      cases event with
      | load => exact .inl (ih htask)
      | save event =>
          cases event with
          | start call =>
              rcases List.mem_append.mp htask with hold | hnew
              · exact .inl (ih hold)
              · cases List.mem_singleton.mp hnew
                exact .inr List.mem_cons_self
          | advance index =>
              rcases Pool.advance_cases index (afterStorage env events) with
                hsame | ⟨moved, next, rest, hfound, _, hnext⟩
              · change task ∈ (Pool.advance index (afterStorage env events)).running at htask
                rw [hsame] at htask
                exact .inl (ih htask)
              · change task ∈ (Pool.advance index (afterStorage env events)).running at htask
                rw [hnext] at htask
                rcases List.mem_or_eq_of_mem_set htask with hold | rfl
                · exact .inl (ih hold)
                · have hmoved : moved ∈ (afterStorage env events).running :=
                    List.mem_of_getElem? hfound
                  exact .inl (@ih moved hmoved)

theorem Steady.loadRight (hcert : env.cert = some env.userPubKey) {saves : Saves}
    (hread : ∀ task ∈ saves.running, ReadsBack env task.call)
    (hsteady : Steady env saves) (hturn : InTurn env saves .load) :
    LoadRight env saves ((loadEncrypted env).run saves.state).1 := by
  cases hsteady with
  | empty storage idle =>
      rw [loadEncrypted_nothing env saves.state (by rw [storage])]
      refine ⟨fun hkey => ?_, fun snapshot hsome => (by cases hsome), ?_⟩
      · rw [storage] at hkey
        cases hkey
      · rintro ⟨task, htask, hsaved⟩
        obtain ⟨index, hfound⟩ := List.getElem?_of_mem htask
        exact absurd hsaved (idle index task hfound).2
  | stored index task found saved stores idle =>
      have htask := List.mem_of_getElem? found
      rw [loadEncrypted_of_stores hcert (hread task htask) stores]
      refine ⟨fun _ _ => ⟨task, htask, stores⟩, fun snapshot hsome => ?_, fun _ => ⟨_, rfl⟩⟩
      cases hsome
      exact ⟨task, htask, rfl⟩
  | writing index task found underway idle =>
      exact absurd (hturn task (List.mem_of_getElem? found)) underway.not_idle

def emptySnapshot : IndexSnapshot := { documents := [], version := 1, encryptedKey := "" }

def firstSave : SaveCall := { snapshot := emptySnapshot, newKey := "1", sizes := [1] }

def secondSave : SaveCall := { snapshot := emptySnapshot, newKey := "2", sizes := [] }

def storageEnv : StorageEnv :=
  { libraries := .tabled [], cert := some "alice", userPubKey := "alice"
    textBytes := fun text =>
      match text with
      | .sealed key _ => textBytes key
      | .other other => textBytes other
    readToString := fun bytes => .ok
      (.sealed (bytesText bytes) (.encoded emptySnapshot.toJson)) }

def firstSaved : List StorageEvent :=
  [.save (.start firstSave), .save (.advance 0), .save (.advance 0), .save (.advance 0),
    .save (.advance 0)]

def secondStopped : List StorageEvent :=
  firstSaved ++ [.load, .save (.start secondSave), .save (.advance 1), .load]

theorem readsBack_firstSave : ReadsBack storageEnv firstSave := by
  intro encryptedData encryptedKey hencrypt
  cases hencrypt
  have htext : bytesText (textBytes "1") = "1" := by decide +kernel
  exact congrArg (fun key => Except.ok (AesText.sealed key _)) htext

theorem inTurn_only {saves : Saves} (honly : saves.running.length = 1) :
    InTurn env saves (.save (.advance 0)) := by
  intro other task hfound hother
  obtain ⟨hlt, _⟩ := List.getElem?_eq_some_iff.mp hfound
  omega

end Osvauld.SearchIndexer
