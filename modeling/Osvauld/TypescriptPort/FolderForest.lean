import Osvauld.Data.ParentForest
import Osvauld.TypescriptPort.Folders

namespace Osvauld.TypescriptPort

open Data

/-! The folders of all users form a forest, and every operation on them keeps it. -/

def Table.parentOf (folders : Table Folder) (id : String) : Option String :=
  (folders.get id).bind fun folder => truthy folder.parentId

theorem truthy_eq_some_iff {value : Option String} {text : String} :
    truthy value = some text ↔ value = some text ∧ text ≠ "" := by
  rw [truthy, Option.filter_eq_some_iff]
  simp

theorem truthy_of_ne {text : String} (htext : text ≠ "") : truthy (some text) = some text :=
  truthy_eq_some_iff.mpr ⟨rfl, htext⟩

structure FolderForest (folders : Table Folder) : Prop where
  forest : IsForest folders.parentOf
  parents : ∀ folder ∈ folders.rows, ∀ parentId, truthy folder.parentId = some parentId →
    ∃ parent ∈ folders.rows, parent.id = parentId ∧ parent.ownerId = folder.ownerId
  id_ne : ∀ folder ∈ folders.rows, folder.id ≠ ""

variable {folders : Table Folder}

theorem parentOf_eq_some_iff {id parentId : String} :
    folders.parentOf id = some parentId ↔
      ∃ folder ∈ folders.rows, folder.id = id ∧ truthy folder.parentId = some parentId := by
  simp only [Table.parentOf, Option.bind_eq_some_iff, Table.get_eq_some_iff]
  exact ⟨fun ⟨folder, ⟨hmem, hid⟩, hparent⟩ => ⟨folder, hmem, hid, hparent⟩,
    fun ⟨folder, hmem, hid, hparent⟩ => ⟨folder, ⟨hmem, hid⟩, hparent⟩⟩

theorem parentOf_of_mem {folder : Folder} (hfolder : folder ∈ folders.rows) :
    folders.parentOf folder.id = truthy folder.parentId := by
  have hget : folders.get folder.id = some folder := Table.get_of_mem hfolder
  rw [Table.parentOf, hget]
  rfl

namespace FolderForest

theorem mem_of_below (hforest : FolderForest folders) {id top : String}
    (hbelow : AtOrBelow folders.parentOf id top) :
    id = top ∨ ∃ folder ∈ folders.rows, folder.id = top := by
  rcases hbelow.eq_or_child with heq | ⟨child, -, hup⟩
  · exact .inl heq
  · obtain ⟨folder, hfolder, -, hparent⟩ := parentOf_eq_some_iff.mp hup
    obtain ⟨parent, hmem, hid, -⟩ := hforest.parents folder hfolder top hparent
    exact .inr ⟨parent, hmem, hid⟩

end FolderForest

namespace FolderManager

open Program

theorem get_run_of_mem {folder : Folder} (hfolder : folder ∈ folders.rows) :
    (BaseRepository.get folder.id).run folders = (.ok folder, folders) := by
  have hget : folders.get folder.id = some folder := Table.get_of_mem hfolder
  simp [BaseRepository.get, hget]

theorem get_cases (id : String) (folders : Table Folder) :
    (∃ folder ∈ folders.rows, folder.id = id ∧
      (BaseRepository.get id).run folders = (.ok folder, folders)) ∨
    ∃ error, error ≠ .unfinished ∧
      (BaseRepository.get id).run folders = (.error error, folders) := by
  cases hget : folders.get id with
  | none => exact .inr ⟨.notFound "folders" id, by simp, by
      simp [BaseRepository.get, hget, Entity.tableName]⟩
  | some folder =>
      obtain ⟨hmem, rfl⟩ := Table.mem_of_get hget
      exact .inl ⟨folder, hmem, rfl, get_run_of_mem hmem⟩

theorem requireOwner_cases (folder : Folder) (userId message : String)
    (folders : Table Folder) :
    (folder.ownerId = userId ∧
      (requireOwner folder userId message).run folders = (.ok (), folders)) ∨
    (folder.ownerId ≠ userId ∧
      (requireOwner folder userId message).run folders = (.error (.error message), folders)) := by
  unfold requireOwner
  by_cases howner : folder.ownerId = userId
  · exact .inl ⟨howner, by simp [howner]⟩
  · exact .inr ⟨howner, by simp [howner]⟩

theorem getFolder_run_of_mem {folder : Folder} (hfolder : folder ∈ folders.rows) :
    (getFolder folder.id folder.ownerId).run folders = (.ok folder, folders) := by
  simp [getFolder, get_run_of_mem hfolder, requireOwner]

theorem listFolders_run (userId : String) (folders : Table Folder) :
    (listFolders userId).run folders =
      (.ok (folders.rows.filter fun folder => folder.ownerId = userId), folders) := by
  simp [listFolders, BaseRepository.list]

theorem getChildFolders_run (parentId userId : String) (folders : Table Folder) :
    (getChildFolders parentId userId).run folders =
      (.ok ((folders.rows.filter fun folder => folder.ownerId = userId).filter
        fun folder => folder.parentId = some parentId), folders) := by
  simp [getChildFolders, listFolders_run]

theorem update_run {id : String} {data : Folder} {folder : Folder}
    (hfolder : folder ∈ folders.rows) (hid : folder.id = id) :
    ∃ updated, (BaseRepository.update id data).run folders =
      (.ok updated, folders.update id data) := by
  have hmem : (Entity.assign folder data) ∈ (folders.update id data).rows :=
    Table.mem_update.mpr (.inl ⟨folder, hfolder, hid, rfl⟩)
  have hget : (folders.update id data).get id = some (Entity.assign folder data) :=
    Table.get_eq_some_iff.mpr ⟨hmem, (Entity.id_assign folder data).trans hid⟩
  exact ⟨Entity.assign folder data, by
    simp [BaseRepository.update, BaseRepository.get, run_write, hget]⟩

abbrev Ends {α : Type} (program : Nat → FolderProgram α) (folders : Table Folder)
    (outcome : Except PortError α) (after : Table Folder) : Prop :=
  Returns .unfinished program folders outcome after

theorem ancestorLoop_succ (folderId userId : String) {currentId : String}
    (hcurrent : currentId ≠ "") (rounds : Nat) :
    ancestorLoop folderId userId (rounds + 1) (some currentId) =
      if currentId = folderId then pure true
      else getFolder currentId userId >>= fun folder =>
        ancestorLoop folderId userId rounds folder.parentId := by
  have htruthy := truthy_of_ne hcurrent
  rw [ancestorLoop.eq_def]
  simp only [htruthy]

theorem ancestorLoop_ends (hforest : FolderForest folders) {folderId userId : String}
    {currentId : String} :
    ∀ current ∈ folders.rows, current.id = currentId → current.ownerId = userId →
      ∃ circular : Bool, (circular = true ↔ AtOrBelow folders.parentOf currentId folderId) ∧
        Ends (fun rounds => ancestorLoop folderId userId rounds (some currentId)) folders
          (.ok circular) folders := by
  induction currentId using hforest.forest.induction with
  | _ currentId ih =>
      intro current hcurrent hid howner
      have hne : currentId ≠ "" := hid ▸ hforest.id_ne current hcurrent
      have hparentOf : folders.parentOf currentId = truthy current.parentId :=
        hid ▸ parentOf_of_mem hcurrent
      by_cases hfound : currentId = folderId
      · refine ⟨true, ⟨fun _ => hfound ▸ .refl, fun _ => rfl⟩, .of_succ (fun rounds =>
          (ancestorLoop_succ folderId userId hne rounds).trans (if_pos hfound)) ?_⟩
        exact .of_run rfl (by simp)
      have hread : (getFolder currentId userId).run folders = (.ok current, folders) := by
        rw [← hid, ← howner]
        exact getFolder_run_of_mem hcurrent
      cases hparent : truthy current.parentId with
      | none =>
          refine ⟨false, ?_, .of_succ (fun rounds =>
            (ancestorLoop_succ folderId userId hne rounds).trans (if_neg hfound))
            (.bind (.of_run hread (by simp)) ?_)⟩
          · simp only [Bool.false_eq_true, false_iff]
            intro hbelow
            rcases Relation.ReflTransGen.cases_head hbelow with heq | ⟨up, hup, -⟩
            · exact hfound heq
            · rw [Up, hparentOf, hparent] at hup
              cases hup
          · refine ⟨by simp, 0, fun rounds _ => ?_⟩
            rw [ancestorLoop.eq_def, hparent]
            rfl
      | some parentId =>
          obtain ⟨parent, hmem, hparentId, hsame⟩ :=
            hforest.parents current hcurrent parentId hparent
          have hup : Up folders.parentOf currentId parentId := hparentOf.trans hparent
          obtain ⟨circular, hcircular, hends⟩ :=
            ih parentId hup parent hmem hparentId (hsame.trans howner)
          refine ⟨circular, hcircular.trans ⟨fun hbelow => .head hup hbelow, fun hbelow => ?_⟩,
            .of_succ (fun rounds =>
              (ancestorLoop_succ folderId userId hne rounds).trans (if_neg hfound))
            (.bind (.of_run hread (by simp)) ?_)⟩
          · rcases Relation.ReflTransGen.cases_head hbelow with heq | ⟨up, hother, hrest⟩
            · exact absurd heq hfound
            · obtain rfl : parentId = up := Option.some.inj (hup.symm.trans hother)
              exact hrest
          · rw [(truthy_eq_some_iff.mp hparent).1]
            exact hends

theorem checkNewParent_ends (hforest : FolderForest folders) (folderId : String)
    (newParentId : Option String) (userId : String) :
    (Ends (fun rounds => checkNewParent rounds folderId newParentId userId) folders
        (.ok ()) folders ∧
      ∀ parentId, truthy newParentId = some parentId →
        ¬ AtOrBelow folders.parentOf parentId folderId ∧
          ∃ parent ∈ folders.rows, parent.id = parentId ∧ parent.ownerId = userId) ∨
    ∃ error, Ends (fun rounds => checkNewParent rounds folderId newParentId userId) folders
      (.error error) folders := by
  unfold checkNewParent
  cases htruthy : truthy newParentId with
  | none => exact .inl ⟨.of_run rfl (by simp), fun parentId heq => by cases heq⟩
  | some parentId =>
      dsimp only
      obtain ⟨parent, hparent, hid, hread⟩ | ⟨error, hfinished, hread⟩ :=
        get_cases parentId folders
      · obtain ⟨howner, hcheck⟩ | ⟨-, hcheck⟩ := requireOwner_cases parent userId
          "Cannot move to another user's folder" folders
        · obtain ⟨circular, hcircular, hwalk⟩ :=
            @ancestorLoop_ends _ hforest folderId _ _ parent hparent hid howner
          have hisAncestor : Ends (fun rounds => isAncestor rounds folderId parentId userId)
              folders (.ok circular) folders := hwalk
          cases circular with
          | true =>
              exact .inr ⟨_, .bind (.of_run hread (by simp)) (.bind (.of_run hcheck (by simp))
                (.bind hisAncestor (.of_run rfl (by simp))))⟩
          | false =>
              refine .inl ⟨.bind (.of_run hread (by simp)) (.bind (.of_run hcheck (by simp))
                (.bind hisAncestor (.of_run rfl (by simp)))), ?_⟩
              rintro _ ⟨⟩
              exact ⟨fun hbelow => by simpa using hcircular.mpr hbelow,
                parent, hparent, hid, howner⟩
        · exact .inr ⟨_, .bind (.of_run hread (by simp)) (.bind_error (.of_run hcheck (by simp)))⟩
      · exact .inr ⟨_, .bind_error (.of_run hread (by simpa using hfinished))⟩

theorem moveFolder_ends (hforest : FolderForest folders) (now : Date) (folderId : String)
    (newParentId : Option String) (userId : String) :
    (∃ folder ∈ folders.rows, folder.id = folderId ∧ folder.ownerId = userId ∧
      (∀ parentId, truthy newParentId = some parentId →
        ¬ AtOrBelow folders.parentOf parentId folderId ∧
          ∃ parent ∈ folders.rows, parent.id = parentId ∧ parent.ownerId = userId) ∧
      Ends (fun rounds => moveFolder rounds now folderId newParentId userId) folders
        (.ok { folder with parentId := newParentId, updatedAt := now })
        (folders.update folderId { folder with parentId := newParentId, updatedAt := now })) ∨
    ∃ error, Ends (fun rounds => moveFolder rounds now folderId newParentId userId) folders
      (.error error) folders := by
  unfold moveFolder
  obtain ⟨folder, hfolder, hid, hread⟩ | ⟨error, hfinished, hread⟩ := get_cases folderId folders
  · obtain ⟨howner, hcheck⟩ | ⟨-, hcheck⟩ := requireOwner_cases folder userId "Access denied" folders
    · obtain ⟨hends, hparent⟩ | ⟨error, hends⟩ :=
        checkNewParent_ends hforest folderId newParentId userId
      · obtain ⟨updated, hupdate⟩ := @update_run _ _
          { folder with parentId := newParentId, updatedAt := now } _ hfolder hid
        exact .inl ⟨folder, hfolder, hid, howner, hparent, .bind (.of_run hread (by simp))
          (.bind (.of_run hcheck (by simp)) (.bind hends
            (.bind (.of_run hupdate (by simp)) (.of_run rfl (by simp)))))⟩
      · exact .inr ⟨error, .bind (.of_run hread (by simp)) (.bind (.of_run hcheck (by simp))
          (.bind_error hends))⟩
    · exact .inr ⟨_, .bind (.of_run hread (by simp)) (.bind_error (.of_run hcheck (by simp)))⟩
  · exact .inr ⟨error, .bind_error (.of_run hread (by simpa using hfinished))⟩

theorem renameFolder_run (now : Date) (folderId name userId : String)
    (folders : Table Folder) :
    (∃ folder ∈ folders.rows, folder.id = folderId ∧ folder.ownerId = userId ∧
      (renameFolder now folderId name userId).run folders =
        (.ok { folder with name := name, updatedAt := now },
          folders.update folderId { folder with name := name, updatedAt := now })) ∨
    ∃ error, error ≠ .unfinished ∧
      (renameFolder now folderId name userId).run folders = (.error error, folders) := by
  unfold renameFolder
  obtain ⟨folder, hfolder, hid, hread⟩ | ⟨error, hfinished, hread⟩ := get_cases folderId folders
  · obtain ⟨howner, hcheck⟩ | ⟨-, hcheck⟩ := requireOwner_cases folder userId "Access denied" folders
    · obtain ⟨updated, hupdate⟩ := @update_run _ _
        { folder with name := name, updatedAt := now } _ hfolder hid
      exact .inl ⟨folder, hfolder, hid, howner, by simp [hread, hcheck, hupdate]⟩
    · exact .inr ⟨.error "Access denied", by simp, by simp [hread, hcheck]⟩
  · exact .inr ⟨error, hfinished, by simp [hread]⟩

theorem createFolder_run (id : Uuid) (now : Date) (name ownerId : String)
    (parentId : Option String) (folders : Table Folder) :
    (∃ after, folders.add ⟨id.val, name, parentId, ownerId, now, now⟩ = .ok after ∧
      (∀ parent, truthy parentId = some parent →
        ∃ folder ∈ folders.rows, folder.id = parent ∧ folder.ownerId = ownerId) ∧
      (createFolder id now name ownerId parentId).run folders =
        (.ok ⟨id.val, name, parentId, ownerId, now, now⟩, after)) ∨
    ∃ error, error ≠ .unfinished ∧
      (createFolder id now name ownerId parentId).run folders = (.error error, folders) := by
  have hadd : (∃ after, folders.add ⟨id.val, name, parentId, ownerId, now, now⟩ = .ok after ∧
      (BaseRepository.create ⟨id.val, name, parentId, ownerId, now, now⟩).run folders =
        (.ok (⟨id.val, name, parentId, ownerId, now, now⟩ : Folder), after)) ∨
      ∃ error, error ≠ .unfinished ∧
        (BaseRepository.create (⟨id.val, name, parentId, ownerId, now, now⟩ : Folder)).run
          folders = (.error error, folders) := by
    unfold BaseRepository.create
    cases hadd : folders.add ⟨id.val, name, parentId, ownerId, now, now⟩ with
    | ok after => exact .inl ⟨after, rfl, by simp [run_write, hadd]⟩
    | error error =>
        refine .inr ⟨error, ?_, by simp [run_write, hadd]⟩
        unfold Table.add at hadd
        split at hadd <;> cases hadd
        simp
  unfold createFolder
  cases htruthy : truthy parentId with
  | none =>
      obtain ⟨after, hok, hcreate⟩ | ⟨error, hfinished, hcreate⟩ := hadd
      · exact .inl ⟨after, hok, by simp, by simp [hcreate]⟩
      · exact .inr ⟨error, hfinished, by simp [hcreate]⟩
  | some parentId =>
      obtain ⟨parent, hparent, hid, hread⟩ | ⟨error, hfinished, hread⟩ :=
        get_cases parentId folders
      · obtain ⟨howner, hcheck⟩ | ⟨-, hcheck⟩ := requireOwner_cases parent ownerId
          "Cannot create folder in another user's folder" folders
        · obtain ⟨after, hok, hcreate⟩ | ⟨error, hfinished, hcreate⟩ := hadd
          · refine .inl ⟨after, hok, ?_, by simp [hread, hcheck, hcreate]⟩
            rintro _ ⟨⟩
            exact ⟨parent, hparent, hid, howner⟩
          · exact .inr ⟨error, hfinished, by simp [hread, hcheck, hcreate]⟩
        · exact .inr ⟨.error "Cannot create folder in another user's folder", by simp, by
            simp [hread, hcheck]⟩
      · exact .inr ⟨error, hfinished, by simp [hread]⟩

theorem createFolder_resolves {id : Uuid} (now : Date) {name ownerId : String}
    {parentId : Option String} (hfree : ∀ folder ∈ folders.rows, folder.id ≠ id.val)
    (hparent : ∀ parent, truthy parentId = some parent →
      ∃ folder ∈ folders.rows, folder.id = parent ∧ folder.ownerId = ownerId) :
    ∃ folder after, (createFolder id now name ownerId parentId).run folders =
      (.ok folder, after) := by
  obtain ⟨after, hadd⟩ : ∃ after, folders.add ⟨id.val, name, parentId, ownerId, now, now⟩ =
      .ok after := by
    refine ⟨_, dif_neg fun htaken => ?_⟩
    obtain ⟨folder, hfolder, hid⟩ := List.mem_map.mp htaken
    exact hfree folder hfolder hid
  refine ⟨⟨id.val, name, parentId, ownerId, now, now⟩, after, ?_⟩
  have hcreate : (BaseRepository.create ⟨id.val, name, parentId, ownerId, now, now⟩).run folders =
      (.ok (⟨id.val, name, parentId, ownerId, now, now⟩ : Folder), after) := by
    simp [BaseRepository.create, run_write, hadd]
  unfold createFolder
  cases htruthy : truthy parentId with
  | none => simp [hcreate]
  | some parent =>
      obtain ⟨folder, hfolder, rfl, rfl⟩ := hparent parent htruthy
      simp [get_run_of_mem hfolder, requireOwner, hcreate]

end FolderManager

def Removed (folders : Table Folder) (id : String) (after : Table Folder) : Prop :=
  ∀ folder, folder ∈ after.rows ↔
    folder ∈ folders.rows ∧ ¬ AtOrBelow folders.parentOf folder.id id

theorem parentOf_of_subset {after : Table Folder} (hsubset : after.rows ⊆ folders.rows)
    {child up : String} (hup : after.parentOf child = some up) :
    folders.parentOf child = some up := by
  obtain ⟨folder, hfolder, hid, hparent⟩ := parentOf_eq_some_iff.mp hup
  exact parentOf_eq_some_iff.mpr ⟨folder, hsubset hfolder, hid, hparent⟩

namespace FolderForest

theorem subset (hforest : FolderForest folders) {after : Table Folder}
    (hsubset : after.rows ⊆ folders.rows)
    (hparents : ∀ folder ∈ after.rows, ∀ parent ∈ folders.rows,
      truthy folder.parentId = some parent.id → parent ∈ after.rows) :
    FolderForest after where
  forest := hforest.forest.mono fun _ _ hup => parentOf_of_subset hsubset hup
  parents := by
    intro folder hfolder parentId hparent
    obtain ⟨parent, hmem, hid, howner⟩ :=
      hforest.parents folder (hsubset hfolder) parentId hparent
    exact ⟨parent, hparents folder hfolder parent hmem (hid ▸ hparent), hid, howner⟩
  id_ne := fun folder hfolder => hforest.id_ne folder (hsubset hfolder)

theorem removed (hforest : FolderForest folders) {id : String} {after : Table Folder}
    (hremoved : Removed folders id after) : FolderForest after := by
  refine hforest.subset (fun folder hfolder => ((hremoved folder).mp hfolder).1) ?_
  intro folder hfolder parent hmem hparent
  obtain ⟨hfolders, hnot⟩ := (hremoved folder).mp hfolder
  have hup : Up folders.parentOf folder.id parent.id :=
    (parentOf_of_mem hfolders).trans hparent
  exact (hremoved parent).mpr ⟨hmem, fun hbelow => hnot (.head hup hbelow)⟩

theorem below_iff {after : Table Folder} (hafter : FolderForest after)
    (hsubset : after.rows ⊆ folders.rows) {folder : Folder} (hfolder : folder ∈ after.rows)
    {top : String} :
    AtOrBelow after.parentOf folder.id top ↔ AtOrBelow folders.parentOf folder.id top := by
  have hmono : ∀ child up, Up after.parentOf child up → Up folders.parentOf child up :=
    fun _ _ hup => parentOf_of_subset hsubset hup
  refine ⟨Relation.ReflTransGen.mono hmono _ _, fun hbelow => ?_⟩
  generalize hid : folder.id = id at hbelow
  induction hbelow using Relation.ReflTransGen.head_induction_on generalizing folder with
  | refl => exact .refl
  | @head id up hup _ ih =>
      subst hid
      have hparent : truthy folder.parentId = some up :=
        (parentOf_of_mem (hsubset hfolder)).symm.trans hup
      obtain ⟨parent, hmem, hparentId, -⟩ := hafter.parents folder hfolder up hparent
      exact .head ((parentOf_of_mem hfolder).trans hparent) (ih hmem hparentId)

theorem not_below_sibling (hforest : FolderForest folders) {first second up : String}
    (hfirst : folders.parentOf first = some up) (hsecond : folders.parentOf second = some up)
    (hne : first ≠ second) : ¬ AtOrBelow folders.parentOf first second := by
  intro hbelow
  rcases Relation.ReflTransGen.cases_head hbelow with heq | ⟨above, habove, hrest⟩
  · exact hne heq
  · obtain rfl : up = above := Option.some.inj (hfirst.symm.trans habove)
    exact hforest.forest.acyclic up (.tail' hrest hsecond)

theorem finite_parents (folders : Table Folder) :
    {id | (folders.parentOf id).isSome}.Finite := by
  refine (List.finite_toSet (folders.rows.map Folder.id)).subset fun id hid => ?_
  obtain ⟨parentId, hparent⟩ := Option.isSome_iff_exists.mp hid
  obtain ⟨folder, hfolder, rfl, -⟩ := parentOf_eq_some_iff.mp hparent
  exact List.mem_map_of_mem hfolder

end FolderForest

namespace FolderManager

open Program

def childrenOf (folders : Table Folder) (parentId userId : String) : List Folder :=
  (folders.rows.filter fun folder => folder.ownerId = userId).filter
    fun folder => folder.parentId = some parentId

theorem mem_childrenOf (hforest : FolderForest folders) {folder child : Folder}
    (hfolder : folder ∈ folders.rows) :
    child ∈ childrenOf folders folder.id folder.ownerId ↔
      child ∈ folders.rows ∧ folders.parentOf child.id = some folder.id := by
  simp only [childrenOf, List.mem_filter, decide_eq_true_eq]
  constructor
  · rintro ⟨⟨hchild, -⟩, hparent⟩
    rw [parentOf_of_mem hchild, hparent]
    exact ⟨hchild, truthy_of_ne (hforest.id_ne folder hfolder)⟩
  · rintro ⟨hchild, hup⟩
    rw [parentOf_of_mem hchild] at hup
    obtain ⟨parent, hparent, hid, howner⟩ := hforest.parents child hchild folder.id hup
    obtain rfl := Table.eq_of_id hparent hfolder hid
    exact ⟨⟨hchild, howner.symm⟩, (truthy_eq_some_iff.mp hup).1⟩

theorem nodup_childrenOf (folders : Table Folder) (parentId userId : String) :
    ((childrenOf folders parentId userId).map Folder.id).Nodup :=
  folders.nodup.sublist ((List.filter_sublist.trans List.filter_sublist).map _)

theorem deleteChildren_ends {base : Table Folder} {userId up : String}
    {children : List Folder} (hnodup : (children.map Folder.id).Nodup)
    (hdelete : ∀ child ∈ children, ∀ folders : Table Folder, FolderForest folders →
      folders.rows ⊆ base.rows → child ∈ folders.rows →
        ∃ after, Ends (fun rounds => deleteFolder rounds child.id userId true) folders
          (.ok ()) after ∧ Removed folders child.id after) :
    ∀ folders : Table Folder, FolderForest folders → folders.rows ⊆ base.rows →
      (∀ child ∈ children, child ∈ folders.rows ∧ folders.parentOf child.id = some up) →
        ∃ after, Ends (fun rounds => Program.forEach children fun child =>
            deleteFolder rounds child.id userId true) folders (.ok ()) after ∧
          FolderForest after ∧ ∀ folder, folder ∈ after.rows ↔ folder ∈ folders.rows ∧
            ∀ child ∈ children, ¬ AtOrBelow folders.parentOf folder.id child.id := by
  induction children with
  | nil =>
      intro folders hforest _ _
      exact ⟨folders, .of_run rfl (by simp), hforest, by simp⟩
  | cons child rest ih =>
      intro folders hforest hbase hchildren
      rw [List.map_cons, List.nodup_cons] at hnodup
      obtain ⟨hchild, hup⟩ := hchildren child List.mem_cons_self
      obtain ⟨between, hfirst, hremoved⟩ :=
        hdelete child List.mem_cons_self folders hforest hbase hchild
      have hbetween : FolderForest between := hforest.removed hremoved
      have hsubset : between.rows ⊆ folders.rows :=
        fun folder hfolder => ((hremoved folder).mp hfolder).1
      have hrest : ∀ other ∈ rest, other ∈ between.rows ∧
          between.parentOf other.id = some up := by
        intro other hother
        obtain ⟨hmem, hotherUp⟩ := hchildren other (List.mem_cons_of_mem _ hother)
        have hne : other.id ≠ child.id :=
          fun heq => hnodup.1 (heq ▸ List.mem_map_of_mem hother)
        have hkept : other ∈ between.rows :=
          (hremoved other).mpr ⟨hmem, hforest.not_below_sibling hotherUp hup hne⟩
        rw [parentOf_of_mem hmem] at hotherUp
        exact ⟨hkept, (parentOf_of_mem hkept).trans hotherUp⟩
      obtain ⟨after, hends, hafter, hmem⟩ := ih hnodup.2
        (fun other hother => hdelete other (List.mem_cons_of_mem _ hother)) between hbetween
        (List.Subset.trans hsubset hbase) hrest
      refine ⟨after, .bind hfirst hends, hafter, fun folder => ?_⟩
      rw [hmem folder, hremoved folder, List.forall_mem_cons, and_assoc]
      refine and_congr_right fun hfolder => and_congr_right fun hnot => ?_
      have hkept : folder ∈ between.rows := (hremoved folder).mpr ⟨hfolder, hnot⟩
      exact forall₂_congr fun other _ => not_congr (hbetween.below_iff hsubset hkept)

theorem removed_delete {between : Table Folder} (hforest : FolderForest folders)
    {folder : Folder} (hfolder : folder ∈ folders.rows)
    (hbetween : ∀ other, other ∈ between.rows ↔ other ∈ folders.rows ∧
      ∀ child ∈ childrenOf folders folder.id folder.ownerId,
        ¬ AtOrBelow folders.parentOf other.id child.id) :
    Removed folders folder.id (between.delete folder.id) := by
  intro other
  rw [Table.mem_delete, hbetween, and_assoc]
  refine and_congr_right fun hother => ?_
  constructor
  · rintro ⟨hchildren, hne⟩ hbelow
    rcases hbelow.eq_or_child with heq | ⟨childId, hchild, hup⟩
    · exact hne heq
    · obtain ⟨child, hmem, rfl, -⟩ := parentOf_eq_some_iff.mp hup
      exact hchildren child ((mem_childrenOf hforest hfolder).mpr ⟨hmem, hup⟩) hchild
  · intro hnot
    refine ⟨fun child hchild hbelow => ?_, fun heq => ?_⟩
    · exact hnot (hbelow.tail ((mem_childrenOf hforest hfolder).mp hchild).2)
    · exact hnot (show AtOrBelow folders.parentOf other.id folder.id from heq ▸ .refl)

theorem deleteFolder_recursive_ends {base : Table Folder} (hbase : FolderForest base)
    (userId : String) (id : String) :
    ∀ folders : Table Folder, FolderForest folders → folders.rows ⊆ base.rows →
      ∀ folder ∈ folders.rows, folder.id = id → folder.ownerId = userId →
        ∃ after, Ends (fun rounds => deleteFolder rounds id userId true) folders
          (.ok ()) after ∧ Removed folders id after := by
  induction id using (hbase.forest.children (FolderForest.finite_parents base)).induction with
  | _ id ih =>
      rintro folders hforest hsubset folder hfolder rfl rfl
      have hchildren := fun child => @mem_childrenOf folders hforest folder child hfolder
      obtain ⟨between, hends, -, hbetween⟩ := @deleteChildren_ends base _ _ _
        (nodup_childrenOf folders folder.id folder.ownerId)
        (fun child hchild folders' hforest' hsubset' hmem => by
          obtain ⟨hchildMem, hup⟩ := (hchildren child).mp hchild
          obtain ⟨howned, -⟩ := List.mem_filter.mp hchild
          exact ih child.id (parentOf_of_subset hsubset hup) folders' hforest' hsubset' child
            hmem rfl (by simpa using (List.mem_filter.mp howned).2))
        folders hforest hsubset (fun child hchild => (hchildren child).mp hchild)
      refine ⟨between.delete folder.id, .of_succ (fun rounds => rfl) (.bind
        (.of_run (get_run_of_mem hfolder) (by simp)) (.bind (@Returns.of_run _ _ _ _ _ _ (.ok ()) _ ?_
          (by simp)) (.bind (.of_run (getChildFolders_run _ _ _) (by simp)) (.bind hends
            (.of_run rfl (by simp)))))), removed_delete hforest hfolder hbetween⟩
      simp [requireOwner]

theorem deleteFolder_ends (hforest : FolderForest folders) (folderId userId : String)
    (recursive : Bool) :
    ((∃ folder ∈ folders.rows, folder.id = folderId ∧ folder.ownerId = userId) ∧
      (recursive = true ∨ ∀ child, folders.parentOf child ≠ some folderId) ∧
      ∃ after, Ends (fun rounds => deleteFolder rounds folderId userId recursive) folders
        (.ok ()) after ∧ Removed folders folderId after) ∨
    (¬ ((∃ folder ∈ folders.rows, folder.id = folderId ∧ folder.ownerId = userId) ∧
        (recursive = true ∨ ∀ child, folders.parentOf child ≠ some folderId)) ∧
      ∃ error, Ends (fun rounds => deleteFolder rounds folderId userId recursive) folders
        (.error error) folders) := by
  obtain ⟨folder, hfolder, rfl, hread⟩ | ⟨error, hfinished, hread⟩ := get_cases folderId folders
  swap
  · refine .inr ⟨?_, error, .of_succ (fun _ => rfl)
      (.bind_error (.of_run hread (by simpa using hfinished)))⟩
    rintro ⟨⟨folder, hfolder, rfl, -⟩, -⟩
    rw [get_run_of_mem hfolder] at hread
    cases hread
  obtain ⟨rfl, hcheck⟩ | ⟨hother, hcheck⟩ :=
    requireOwner_cases folder userId "Access denied" folders
  swap
  · refine .inr ⟨?_, _, .of_succ (fun _ => rfl) (.bind (.of_run hread (by simp))
      (.bind_error (.of_run hcheck (by simp))))⟩
    rintro ⟨⟨other, hmem, hid, howner⟩, -⟩
    exact hother ((Table.eq_of_id hmem hfolder hid) ▸ howner)
  have hexists : ∃ other ∈ folders.rows, other.id = folder.id ∧ other.ownerId = folder.ownerId :=
    ⟨folder, hfolder, rfl, rfl⟩
  have hlist := getChildFolders_run folder.id folder.ownerId folders
  cases recursive with
  | true =>
      obtain ⟨after, hends, hremoved⟩ := deleteFolder_recursive_ends hforest folder.ownerId
        folder.id folders hforest (List.Subset.refl _) folder hfolder rfl rfl
      exact .inl ⟨hexists, .inl rfl, after, hends, hremoved⟩
  | false =>
      have hmem := fun child => @mem_childrenOf folders hforest folder child hfolder
      cases hchildren : childrenOf folders folder.id folder.ownerId with
      | nil =>
          have hnone : ∀ child, folders.parentOf child ≠ some folder.id := by
            intro childId hup
            obtain ⟨child, hchild, rfl, -⟩ := parentOf_eq_some_iff.mp hup
            have hlisted := (hmem child).mpr ⟨hchild, hup⟩
            rw [hchildren] at hlisted
            cases hlisted
          refine .inl ⟨hexists, .inr hnone, folders.delete folder.id,
            .of_succ (fun _ => rfl) (.bind (.of_run hread (by simp))
              (.bind (.of_run hcheck (by simp)) (.bind (.of_run hlist (by simp)) ?_))), ?_⟩
          · rw [childrenOf] at hchildren
            simp only [hchildren]
            exact .of_run rfl (by simp)
          · exact removed_delete hforest hfolder (by simp [hchildren])
      | cons child rest =>
          refine .inr ⟨?_, .error "Cannot delete folder with children (use recursive option)",
            .of_succ (fun _ => rfl) (.bind (.of_run hread (by simp))
              (.bind (.of_run hcheck (by simp)) (.bind (.of_run hlist (by simp)) ?_)))⟩
          · rintro ⟨-, hcontra | hnone⟩
            · cases hcontra
            · have hchild : child ∈ childrenOf folders folder.id folder.ownerId := by
                rw [hchildren]
                exact List.mem_cons_self
              exact hnone child.id ((hmem child).mp hchild).2
          · rw [childrenOf] at hchildren
            simp only [hchildren]
            exact .of_run rfl (by simp)

end FolderManager

inductive FolderCall
  | createFolder (id : Uuid) (now : Date) (name ownerId : String) (parentId : Option String)
  | renameFolder (now : Date) (folderId name userId : String)
  | moveFolder (now : Date) (folderId : String) (newParentId : Option String) (userId : String)
  | deleteFolder (folderId userId : String) (recursive : Bool)

open FolderManager in
def FolderCall.body (call : FolderCall) (rounds : Nat) : FolderProgram Unit :=
  match call with
  | .createFolder id now name ownerId parentId => do
      let _ ← FolderManager.createFolder id now name ownerId parentId
  | .renameFolder now folderId name userId => do
      let _ ← FolderManager.renameFolder now folderId name userId
  | .moveFolder now folderId newParentId userId => do
      let _ ← FolderManager.moveFolder rounds now folderId newParentId userId
  | .deleteFolder folderId userId recursive =>
      FolderManager.deleteFolder rounds folderId userId recursive

inductive FolderStep (folders : Table Folder) :
    FolderCall → Except PortError Unit → Table Folder → Prop
  | failed {call : FolderCall} {error : PortError} :
      FolderStep folders call (.error error) folders
  | created {id : Uuid} {now : Date} {name ownerId : String} {parentId : Option String}
      {after : Table Folder}
      (hadd : folders.add ⟨id.val, name, parentId, ownerId, now, now⟩ = .ok after)
      (hparent : ∀ parent, truthy parentId = some parent →
        ∃ folder ∈ folders.rows, folder.id = parent ∧ folder.ownerId = ownerId) :
      FolderStep folders (.createFolder id now name ownerId parentId) (.ok ()) after
  | renamed {now : Date} {name : String} {folder : Folder} (hfolder : folder ∈ folders.rows) :
      FolderStep folders (.renameFolder now folder.id name folder.ownerId) (.ok ())
        (folders.update folder.id { folder with name := name, updatedAt := now })
  | moved {now : Date} {folder : Folder} {newParentId : Option String}
      (hfolder : folder ∈ folders.rows)
      (hparent : ∀ parentId, truthy newParentId = some parentId →
        ¬ AtOrBelow folders.parentOf parentId folder.id ∧
          ∃ parent ∈ folders.rows, parent.id = parentId ∧ parent.ownerId = folder.ownerId) :
      FolderStep folders (.moveFolder now folder.id newParentId folder.ownerId) (.ok ())
        (folders.update folder.id { folder with parentId := newParentId, updatedAt := now })
  | deleted {folder : Folder} {recursive : Bool} {after : Table Folder}
      (hfolder : folder ∈ folders.rows) (hremoved : Removed folders folder.id after) :
      FolderStep folders (.deleteFolder folder.id folder.ownerId recursive) (.ok ()) after

open FolderManager in
theorem call_ends (hforest : FolderForest folders) (call : FolderCall) :
    ∃ outcome after, Ends call.body folders outcome after ∧
      FolderStep folders call outcome after := by
  cases call with
  | createFolder id now name ownerId parentId =>
      obtain ⟨after, hadd, hparent, hrun⟩ | ⟨error, hfinished, hrun⟩ :=
        createFolder_run id now name ownerId parentId folders
      · exact ⟨_, _, .bind (.of_run hrun (by simp)) (.of_run rfl (by simp)),
          .created hadd hparent⟩
      · exact ⟨_, _, .bind_error (.of_run hrun (by simpa using hfinished)), .failed⟩
  | renameFolder now folderId name userId =>
      obtain ⟨folder, hfolder, rfl, rfl, hrun⟩ | ⟨error, hfinished, hrun⟩ :=
        renameFolder_run now folderId name userId folders
      · exact ⟨_, _, .bind (.of_run hrun (by simp)) (.of_run rfl (by simp)), .renamed hfolder⟩
      · exact ⟨_, _, .bind_error (.of_run hrun (by simpa using hfinished)), .failed⟩
  | moveFolder now folderId newParentId userId =>
      obtain ⟨folder, hfolder, rfl, rfl, hparent, hends⟩ | ⟨error, hends⟩ :=
        moveFolder_ends hforest now folderId newParentId userId
      · exact ⟨_, _, .bind hends (.of_run rfl (by simp)), .moved hfolder hparent⟩
      · exact ⟨_, _, .bind_error hends, .failed⟩
  | deleteFolder folderId userId recursive =>
      obtain ⟨⟨folder, hfolder, rfl, rfl⟩, -, after, hends, hremoved⟩ | ⟨-, error, hends⟩ :=
        deleteFolder_ends hforest folderId userId recursive
      · exact ⟨_, _, hends, .deleted hfolder hremoved⟩
      · exact ⟨_, _, hends, .failed⟩

theorem mem_update_folder {folder other : Folder} {data : Folder}
    (hfolder : folder ∈ folders.rows) (hid : data.id = folder.id) :
    other ∈ (folders.update folder.id data).rows ↔
      other = data ∨ (other ∈ folders.rows ∧ other.id ≠ folder.id) := by
  rw [Table.mem_update]
  refine or_congr ⟨?_, ?_⟩ Iff.rfl
  · rintro ⟨row, -, hrow, rfl⟩
    cases data
    simp_all [Entity.assign, Entity.id]
  · rintro rfl
    refine ⟨folder, hfolder, rfl, ?_⟩
    cases other
    simp_all [Entity.assign]

theorem parentOf_update {folder : Folder} {data : Folder} (hfolder : folder ∈ folders.rows)
    (hid : data.id = folder.id) :
    (folders.update folder.id data).parentOf =
      Function.update folders.parentOf folder.id (truthy data.parentId) := by
  funext id
  rw [Function.update_apply]
  split
  · next heq =>
      have hmem := (@mem_update_folder _ _ data _ hfolder hid).mpr (.inl rfl)
      have hget := parentOf_of_mem hmem
      rw [hid] at hget
      rw [heq, hget]
  · next hne =>
      refine Option.ext fun up => ?_
      simp only [parentOf_eq_some_iff, mem_update_folder hfolder hid]
      constructor
      · rintro ⟨other, rfl | ⟨hother, -⟩, rfl, hparent⟩
        · exact absurd hid hne
        · exact ⟨other, hother, rfl, hparent⟩
      · rintro ⟨other, hother, rfl, hparent⟩
        exact ⟨other, .inr ⟨hother, hne⟩, rfl, hparent⟩

theorem parentOf_add {row : Folder} {after : Table Folder}
    (hadd : folders.add row = .ok after) :
    after.parentOf = Function.update folders.parentOf row.id (truthy row.parentId) := by
  have hfree := (Table.add_eq_ok_iff.mp hadd).1
  funext id
  rw [Function.update_apply]
  split
  · next heq =>
      rw [heq]
      exact parentOf_of_mem ((Table.mem_add hadd).mpr (.inl rfl))
  · next hne =>
      refine Option.ext fun up => ?_
      simp only [parentOf_eq_some_iff, Table.mem_add hadd]
      constructor
      · rintro ⟨other, rfl | hother, rfl, hparent⟩
        · exact absurd rfl hne
        · exact ⟨other, hother, rfl, hparent⟩
      · rintro ⟨other, hother, rfl, hparent⟩
        exact ⟨other, .inr hother, rfl, hparent⟩

namespace FolderForest

theorem add (hforest : FolderForest folders) {row : Folder} {after : Table Folder}
    (hadd : folders.add row = .ok after) (hid : row.id ≠ "")
    (hparent : ∀ parentId, truthy row.parentId = some parentId →
      ∃ parent ∈ folders.rows, parent.id = parentId ∧ parent.ownerId = row.ownerId) :
    FolderForest after where
  forest := by
    have hfree := (Table.add_eq_ok_iff.mp hadd).1
    rw [parentOf_add hadd]
    refine hforest.forest.update fun up hup hbelow => ?_
    obtain ⟨parent, hmem, rfl, -⟩ := hparent up hup
    rcases hforest.mem_of_below hbelow with heq | ⟨other, hother, heq⟩
    · exact hfree parent hmem heq
    · exact hfree other hother heq
  parents := by
    intro folder hfolder parentId hup
    rcases (Table.mem_add hadd).mp hfolder with rfl | hold
    · obtain ⟨parent, hmem, hrest⟩ := hparent parentId hup
      exact ⟨parent, (Table.mem_add hadd).mpr (.inr hmem), hrest⟩
    · obtain ⟨parent, hmem, hrest⟩ := hforest.parents folder hold parentId hup
      exact ⟨parent, (Table.mem_add hadd).mpr (.inr hmem), hrest⟩
  id_ne := by
    intro folder hfolder
    rcases (Table.mem_add hadd).mp hfolder with rfl | hold
    · exact hid
    · exact hforest.id_ne folder hold

theorem update (hforest : FolderForest folders) {folder data : Folder}
    (hfolder : folder ∈ folders.rows) (hid : data.id = folder.id)
    (howner : data.ownerId = folder.ownerId)
    (hparent : ∀ parentId, truthy data.parentId = some parentId →
      ¬ AtOrBelow folders.parentOf parentId folder.id ∧
        ∃ parent ∈ folders.rows, parent.id = parentId ∧ parent.ownerId = folder.ownerId) :
    FolderForest (folders.update folder.id data) := by
  -- Whoever is named as a parent is still there, with the owner it had.
  have hstill : ∀ parent ∈ folders.rows, ∃ parent' ∈ (folders.update folder.id data).rows,
      parent'.id = parent.id ∧ parent'.ownerId = parent.ownerId := by
    intro parent hmem
    by_cases heq : parent.id = folder.id
    · obtain rfl := Table.eq_of_id hmem hfolder heq
      exact ⟨data, (mem_update_folder hfolder hid).mpr (.inl rfl), hid, howner⟩
    · exact ⟨parent, (mem_update_folder hfolder hid).mpr (.inr ⟨hmem, heq⟩), rfl, rfl⟩
  refine ⟨?_, ?_, ?_⟩
  · rw [parentOf_update hfolder hid]
    exact hforest.forest.update fun up hup => (hparent up hup).1
  · intro other hother parentId hup
    have hold : ∃ parent ∈ folders.rows, parent.id = parentId ∧
        parent.ownerId = other.ownerId := by
      rcases (mem_update_folder hfolder hid).mp hother with rfl | ⟨hmem, -⟩
      · rw [howner]
        exact (hparent parentId hup).2
      · exact hforest.parents other hmem parentId hup
    obtain ⟨parent, hmem, rfl, hsame⟩ := hold
    obtain ⟨parent', hmem', hid', howner'⟩ := hstill parent hmem
    exact ⟨parent', hmem', hid', howner'.trans hsame⟩
  · intro other hother
    rcases (mem_update_folder hfolder hid).mp hother with rfl | ⟨hmem, -⟩
    · rw [hid]
      exact hforest.id_ne folder hfolder
    · exact hforest.id_ne other hmem

theorem parent_not_below (hforest : FolderForest folders) {folder : Folder}
    (hfolder : folder ∈ folders.rows) {parentId : String}
    (hparent : truthy folder.parentId = some parentId) :
    ¬ AtOrBelow folders.parentOf parentId folder.id := by
  intro hbelow
  have hup : Up folders.parentOf folder.id parentId := (parentOf_of_mem hfolder).trans hparent
  exact hforest.forest.acyclic folder.id (.head' hup hbelow)

theorem step (hforest : FolderForest folders) {call : FolderCall}
    {outcome : Except PortError Unit} {after : Table Folder}
    (hstep : FolderStep folders call outcome after) : FolderForest after := by
  cases hstep with
  | failed => exact hforest
  | @created id _ _ _ _ _ hadd hparent => exact hforest.add hadd id.property hparent
  | @renamed _ _ folder hfolder =>
      exact hforest.update hfolder rfl rfl fun parentId hup =>
        ⟨hforest.parent_not_below hfolder hup, hforest.parents folder hfolder parentId hup⟩
  | moved hfolder hparent => exact hforest.update hfolder rfl rfl hparent
  | deleted _ hremoved => exact hforest.removed hremoved

theorem empty : FolderForest Table.empty where
  forest := ⟨fun id => .intro id fun up hup => by cases hup⟩
  parents := by
    intro folder hfolder
    cases hfolder
  id_ne := by
    intro folder hfolder
    cases hfolder

end FolderForest

inductive FoldersReached : Table Folder → Prop
  | empty : FoldersReached Table.empty
  | call {folders after : Table Folder} {call : FolderCall} {outcome : Except PortError Unit} :
      FoldersReached folders → FolderManager.Ends call.body folders outcome after →
        FoldersReached after

theorem FoldersReached.forest (hreached : FoldersReached folders) : FolderForest folders := by
  induction hreached with
  | empty => exact .empty
  | @call folders after call outcome _ hends ih =>
      obtain ⟨outcome', after', hends', hstep⟩ := call_ends ih call
      obtain ⟨-, rfl⟩ := hends.unique hends'
      exact ih.step hstep

end Osvauld.TypescriptPort
