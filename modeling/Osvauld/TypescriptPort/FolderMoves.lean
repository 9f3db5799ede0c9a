import Osvauld.Data.Interleaving
import Osvauld.TypescriptPort.FolderForest

namespace Osvauld.TypescriptPort

open Data

/-! Moves of folders that run side by side. Each one checks its new parent first and
writes in a later step. -/

variable {folders : Table Folder}

namespace FolderManager

open Program

theorem getFolder_cases (folderId userId : String) (folders : Table Folder) :
    (∃ folder ∈ folders.rows, folder.id = folderId ∧
      (getFolder folderId userId).run folders = (.ok folder, folders)) ∨
    ∃ error, error ≠ .unfinished ∧
      (getFolder folderId userId).run folders = (.error error, folders) := by
  unfold getFolder
  obtain ⟨folder, hfolder, hid, hread⟩ | ⟨error, hfinished, hread⟩ := get_cases folderId folders
  · obtain ⟨-, hcheck⟩ | ⟨-, hcheck⟩ := requireOwner_cases folder userId "Access denied" folders
    · exact .inl ⟨folder, hfolder, hid, by simp [hread, hcheck]⟩
    · exact .inr ⟨.error "Access denied", by simp, by simp [hread, hcheck]⟩
  · exact .inr ⟨error, hfinished, by simp [hread]⟩

theorem upward_ends (hforest : IsForest folders.parentOf) {α Found : Type} (userId : String)
    (loop : Nat → Option String → Found → FolderProgram α)
    (hstop : ∀ current found, truthy current = none →
      ∃ outcome, Ends (fun rounds => loop rounds current found) folders outcome folders)
    (hround : ∀ id found, id ≠ "" →
      (∃ result, ∀ rounds, loop (rounds + 1) (some id) found = pure result) ∨
      ∃ next : Folder → Found, ∀ rounds, loop (rounds + 1) (some id) found =
        getFolder id userId >>= fun folder => loop rounds folder.parentId (next folder))
    (current : Option String) (found : Found) :
    ∃ outcome, Ends (fun rounds => loop rounds current found) folders outcome folders := by
  cases htruthy : truthy current with
  | none => exact hstop current found htruthy
  | some id =>
      obtain ⟨rfl, hne⟩ := truthy_eq_some_iff.mp htruthy
      clear htruthy
      induction id using hforest.induction generalizing found with
      | _ id ih =>
          rcases hround id found hne with ⟨result, hresult⟩ | ⟨next, hnext⟩
          · exact ⟨.ok result, .of_succ hresult (.of_run rfl (by simp))⟩
          · obtain ⟨folder, hfolder, hid, hread⟩ | ⟨error, hfinished, hread⟩ :=
              getFolder_cases id userId folders
            · cases hparent : truthy folder.parentId with
              | none =>
                  obtain ⟨outcome, hends⟩ := hstop folder.parentId (next folder) hparent
                  exact ⟨outcome, .of_succ hnext (.bind (.of_run hread (by simp)) hends)⟩
              | some parentId =>
                  have hup : Up folders.parentOf id parentId :=
                    hid ▸ (parentOf_of_mem hfolder).trans hparent
                  obtain ⟨heq, hparentNe⟩ := truthy_eq_some_iff.mp hparent
                  obtain ⟨outcome, hends⟩ := ih parentId hup (next folder) hparentNe
                  refine ⟨outcome, .of_succ hnext (.bind (.of_run hread (by simp)) ?_)⟩
                  rw [heq]
                  exact hends
            · exact ⟨.error error, .of_succ hnext
                (.bind_error (.of_run hread (by simpa using hfinished)))⟩

theorem getFolderPath_ends (hforest : IsForest folders.parentOf) (folderId userId : String) :
    ∃ outcome, Ends (fun rounds => getFolderPath rounds folderId userId) folders outcome
      folders := by
  refine upward_ends hforest userId (fun rounds current path =>
    pathLoop userId rounds current path) ?_ ?_ (some folderId) []
  · intro current path hnone
    refine ⟨.ok path, by simp, 0, fun rounds _ => ?_⟩
    rw [pathLoop.eq_def, hnone]
    rfl
  · intro id path hne
    refine .inr ⟨fun folder => folder :: path, fun rounds => ?_⟩
    rw [pathLoop.eq_def, truthy_of_ne hne]

theorem isAncestor_ends (hforest : IsForest folders.parentOf)
    (folderId potentialDescendantId userId : String) :
    ∃ outcome, Ends (fun rounds => isAncestor rounds folderId potentialDescendantId userId)
      folders outcome folders := by
  refine upward_ends hforest userId (fun rounds current (_ : Unit) =>
    ancestorLoop folderId userId rounds current) ?_ ?_ (some potentialDescendantId) ()
  · intro current _ hnone
    refine ⟨.ok false, by simp, 0, fun rounds _ => ?_⟩
    rw [ancestorLoop.eq_def, hnone]
    rfl
  · intro id _ hne
    by_cases hfound : id = folderId
    · exact .inl ⟨true, fun rounds =>
        (ancestorLoop_succ folderId userId hne rounds).trans (if_pos hfound)⟩
    · exact .inr ⟨fun _ => (), fun rounds =>
        (ancestorLoop_succ folderId userId hne rounds).trans (if_neg hfound)⟩

end FolderManager

structure MoveCall where
  now : Date
  folderId : String
  newParentId : Option String
  userId : String
  rounds : Nat

namespace MoveCall

open FolderManager Program

def body (call : MoveCall) : FolderProgram Folder :=
  moveFolder call.rounds call.now call.folderId call.newParentId call.userId

def Writes (call : MoveCall) (before after : Table Folder) : Prop :=
  after = before ∨ ∃ data : Folder, data.parentId = call.newParentId ∧
    after = before.update call.folderId data

def StillAllowed (call : MoveCall) (folders : Table Folder) : Prop :=
  ∀ parentId, truthy call.newParentId = some parentId →
    ¬ AtOrBelow folders.parentOf parentId call.folderId

variable (call : MoveCall)

theorem writes_refl (folders : Table Folder) : call.Writes folders folders := .inl rfl

theorem guarantees_get (id : String) :
    Guarantees call.Writes (BaseRepository.get id : FolderProgram Folder) :=
  .read call.writes_refl _

theorem guarantees_requireOwner (folder : Folder) (userId message : String) :
    Guarantees call.Writes (requireOwner folder userId message) := by
  unfold requireOwner
  split
  · exact .done
  · exact .done

theorem guarantees_ancestorLoop (folderId userId : String) (rounds : Nat)
    (current : Option String) :
    Guarantees call.Writes (ancestorLoop folderId userId rounds current) := by
  induction rounds generalizing current with
  | zero =>
      cases htruthy : truthy current with
      | none =>
          rw [ancestorLoop.eq_def, htruthy]
          exact .done
      | some currentId =>
          rw [ancestorLoop.eq_def, htruthy]
          exact .done
  | succ rounds ih =>
      cases htruthy : truthy current with
      | none =>
          rw [ancestorLoop.eq_def, htruthy]
          exact .done
      | some currentId =>
          rw [ancestorLoop.eq_def, htruthy]
          dsimp only
          split
          · exact .done
          · refine .bind ?_ fun folder => ih folder.parentId
            exact .bind (call.guarantees_get _) fun folder =>
              .bind (call.guarantees_requireOwner folder _ _) fun _ => .done

theorem guarantees_body : Guarantees call.Writes call.body := by
  refine .bind (call.guarantees_get _) fun folder =>
    .bind (call.guarantees_requireOwner folder _ _) fun _ => .bind ?_ fun _ => .bind ?_ fun _ => .done
  · unfold checkNewParent
    split
    · exact .done
    · refine .bind (call.guarantees_get _) fun parent =>
        .bind (call.guarantees_requireOwner parent _ _) fun _ =>
          .bind (call.guarantees_ancestorLoop _ _ _ _) fun circular => ?_
      split
      · exact .done
      · exact .done
  · refine .bind (.write call.writes_refl fun before after hwrite => ?_)
      fun _ => call.guarantees_get _
    cases hwrite
    exact .inr ⟨_, rfl, rfl⟩

end MoveCall

theorem parentOf_write (folders : Table Folder) (id : String) (data : Folder) :
    (∃ folder ∈ folders.rows, folder.id = id ∧ (folders.update id data).parentOf =
      Function.update folders.parentOf id (truthy data.parentId)) ∨
    folders.update id data = folders := by
  by_cases hexists : ∃ folder ∈ folders.rows, folder.id = id
  · obtain ⟨folder, hfolder, rfl⟩ := hexists
    have hdata : folders.update folder.id data =
        folders.update folder.id { data with id := folder.id } := by
      unfold Table.update
      congr 1
    refine .inl ⟨folder, hfolder, rfl, ?_⟩
    rw [hdata]
    exact parentOf_update hfolder rfl
  · refine .inr ?_
    obtain ⟨rows, hnodup⟩ := folders
    simp only [Table.update, Table.mk.injEq]
    refine (List.map_congr_left fun row hrow => if_neg fun hid => ?_).trans (List.map_id _)
    exact hexists ⟨row, hrow, hid⟩

def NoCycle (folders : Table Folder) : Prop :=
  ∀ id, ¬ Relation.TransGen (Up folders.parentOf) id id

theorem NoCycle.isForest (hacyclic : NoCycle folders) : IsForest folders.parentOf :=
  isForest_of_acyclic hacyclic (FolderForest.finite_parents folders)

theorem noCycle_write_iff (hacyclic : NoCycle folders) {call : MoveCall} {data : Folder}
    (hdata : data.parentId = call.newParentId)
    (hchanges : folders.update call.folderId data ≠ folders) :
    NoCycle (folders.update call.folderId data) ↔ call.StillAllowed folders := by
  obtain ⟨folder, hfolder, -, hparentOf⟩ | hsame := parentOf_write folders call.folderId data
  swap
  · exact absurd hsame hchanges
  rw [NoCycle, hparentOf, hdata]
  constructor
  · intro hafter parentId hparent hbelow
    rw [hparent] at hafter
    exact hafter call.folderId (cycle_of_update hbelow)
  · intro hallowed
    exact (hacyclic.isForest.update hallowed).acyclic

/-- What is expected of the folders in every state: no folder is above itself, and the
loops that go up from a folder end. -/
structure Sound (folders : Table Folder) : Prop where
  acyclic : NoCycle folders
  path : ∀ folderId userId, ∃ outcome, FolderManager.Ends
    (fun rounds => FolderManager.getFolderPath rounds folderId userId) folders outcome folders
  walk : ∀ folderId potentialDescendantId userId, ∃ outcome, FolderManager.Ends
    (fun rounds => FolderManager.isAncestor rounds folderId potentialDescendantId userId)
    folders outcome folders

theorem NoCycle.sound (hacyclic : NoCycle folders) : Sound folders where
  acyclic := hacyclic
  path := FolderManager.getFolderPath_ends hacyclic.isForest
  walk := FolderManager.isAncestor_ends hacyclic.isForest

def WriteAllowed (folders : Table Folder) (earlier : List (PoolEvent MoveCall))
    (event : PoolEvent MoveCall) : Prop :=
  Pool.EventAllowed MoveCall.body folders
    (fun call _ before after => after ≠ before → call.StillAllowed before) earlier event

theorem noCycle_step_iff {events : List (PoolEvent MoveCall)} (event : PoolEvent MoveCall)
    (hacyclic : NoCycle (run (Pool.step MoveCall.body) { state := folders } events).state) :
    NoCycle (run (Pool.step MoveCall.body) { state := folders } (events ++ [event])).state ↔
      WriteAllowed folders events event := by
  rw [run_concat]
  obtain hsame | ⟨index, task, next, rest, rfl, htask, hleft, hstate, hwrites⟩ :=
    Pool.step_state_cases MoveCall.body MoveCall.guarantees_body events event
  · rw [hsame]
    refine ⟨fun _ index heq task next rest htask hleft hchanges => ?_, fun _ => hacyclic⟩
    subst heq
    refine absurd ?_ hchanges
    rw [Pool.step, Pool.advance_of_step htask hleft] at hsame
    exact hsame
  · rw [hstate]
    have hiff : WriteAllowed folders events (.advance index) ↔
        (next (run (Pool.step MoveCall.body) { state := folders } events).state ≠
          (run (Pool.step MoveCall.body) { state := folders } events).state →
            task.call.StillAllowed
              (run (Pool.step MoveCall.body) { state := folders } events).state) :=
      ⟨fun hallowed => hallowed index rfl task next rest htask hleft,
        fun hallowed => Pool.eventAllowed_advance htask hleft hallowed⟩
    rw [hiff]
    obtain hsame | ⟨data, hdata, hupdate⟩ := hwrites
    · rw [hsame]
      exact ⟨fun _ hchanges => absurd rfl hchanges, fun _ => hacyclic⟩
    · rw [hupdate]
      by_cases hchanges : Table.update task.call.folderId data
          (run (Pool.step MoveCall.body) { state := folders } events).state =
            (run (Pool.step MoveCall.body) { state := folders } events).state
      · rw [hchanges]
        exact ⟨fun _ hne => absurd rfl hne, fun _ => hacyclic⟩
      · rw [noCycle_write_iff hacyclic hdata hchanges]
        exact ⟨fun hallowed _ => hallowed, fun hallowed => hallowed hchanges⟩

def siblingFolders : Table Folder :=
  ⟨[⟨"a", "first", none, "u1", 1, 1⟩, ⟨"b", "second", none, "u1", 1, 1⟩], by decide⟩

theorem siblingFolders_noCycle : NoCycle siblingFolders := by
  refine IsForest.acyclic ⟨fun id => .intro id fun up hup => ?_⟩
  obtain ⟨folder, hfolder, -, hparent⟩ := parentOf_eq_some_iff.mp hup
  have hroots : ∀ folder ∈ siblingFolders.rows, truthy folder.parentId = none := by decide
  rw [hroots folder hfolder] at hparent
  cases hparent

def moveInto (folderId newParentId : String) : MoveCall :=
  { now := 2, folderId, newParentId := some newParentId, userId := "u1", rounds := 5 }

def crossingMoves : List (PoolEvent MoveCall) :=
  [.start (moveInto "a" "b"), .start (moveInto "b" "a"), .advance 0, .advance 0, .advance 0,
    .advance 1, .advance 1, .advance 1, .advance 0, .advance 1]

theorem crossingMoves_cycle :
    ¬ NoCycle (run (Pool.step MoveCall.body) { state := siblingFolders } crossingMoves).state := by
  intro hacyclic
  have hfirst : Up (run (Pool.step MoveCall.body) { state := siblingFolders }
      crossingMoves).state.parentOf "a" "b" := by
    unfold Up
    decide +kernel
  have hsecond : Up (run (Pool.step MoveCall.body) { state := siblingFolders }
      crossingMoves).state.parentOf "b" "a" := by
    unfold Up
    decide +kernel
  exact hacyclic "a" (.head hfirst (.single hsecond))

end Osvauld.TypescriptPort
