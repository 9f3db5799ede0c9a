import Osvauld.TypescriptPort.FolderTree
import Osvauld.TypescriptPort.OsvauldService

namespace Osvauld.TypescriptPort

open Osvauld.Core Data

/-! Folders made through the service by its users, one session after the other. Beside
the service stands what every user has asked for. -/

structure MadeFolder where
  id : String
  creator : String
  name : String
  parentId : Option String
deriving DecidableEq

def MadeBelow (made : List MadeFolder) : String → String → Prop :=
  Relation.ReflTransGen fun child up =>
    ∃ folder ∈ made, folder.id = child ∧ truthy folder.parentId = some up

inductive FolderUse
  | register (draws : AccountDraws) (now : Date) (username password : String)
      (email : Option String)
  | login (username password : String)
  | logout
  | createFolder (id : Uuid) (now : Date) (name : String) (parentId : Option String)
  | moveFolder (now : Date) (folderId : String) (newParentId : Option String)
  | deleteFolder (folderId : String)

namespace FolderUse

open OsvauldService in
def body (crypto : OsvauldCrypto) (use : FolderUse) (rounds : Nat) : ServiceProgram Unit :=
  match use with
  | .register draws now username password email => do
      let _ ← OsvauldService.register crypto draws now username password email
  | .login username password => do
      let _ ← OsvauldService.login crypto username password
  | .logout => OsvauldService.logout
  | .createFolder id now name parentId => do
      let _ ← OsvauldService.createFolder id now name parentId
  | .moveFolder now folderId newParentId => do
      let _ ← OsvauldService.moveFolder rounds now folderId newParentId
  | .deleteFolder folderId => do
      let _ ← OsvauldService.deleteFolder rounds folderId

open Classical in
noncomputable def record (use : FolderUse) (userId : String) (made : List MadeFolder) :
    List MadeFolder :=
  match use with
  | .createFolder id _ name parentId => made ++ [⟨id.val, userId, name, parentId⟩]
  | .moveFolder _ folderId newParentId =>
      made.map fun folder =>
        if folder.id = folderId then { folder with parentId := newParentId } else folder
  | .deleteFolder folderId => made.filter fun folder => ¬ MadeBelow made folder.id folderId
  | _ => made

end FolderUse

variable {folderId userId : String}

theorem FolderUse.mem_record_deleteFolder {made : List MadeFolder} {folder : MadeFolder} :
    folder ∈ (FolderUse.deleteFolder folderId).record userId made ↔
      folder ∈ made ∧ ¬ MadeBelow made folder.id folderId := by
  simp [FolderUse.record]

structure FolderWorld where
  service : OsvauldService
  made : List MadeFolder

namespace FolderWorld

noncomputable def after (world : FolderWorld) (use : FolderUse) (outcome : Except PortError Unit)
    (service : OsvauldService) : FolderWorld where
  service
  made :=
    match outcome, world.service.authenticated with
    | .ok (), some auth => use.record auth.user.id world.made
    | _, _ => world.made

theorem made_after_ok {world : FolderWorld} {auth : Authenticated}
    (hauth : world.service.authenticated = some auth) (use : FolderUse)
    (service : OsvauldService) :
    (world.after use (.ok ()) service).made = use.record auth.user.id world.made := by
  simp [after, hauth]

/-- The tree that a logged-in user is given has the folders that the user has made, each
of them once, with its name and its parent, where its parents put it. -/
def ShowsMade (world : FolderWorld) : Prop :=
  ∀ auth, world.service.authenticated = some auth → ∃ tree,
    Returns .unfinished OsvauldService.getFolderTree world.service (.ok tree) world.service ∧
    ((FolderNode.pathsAll tree).map fun path =>
        path.getLast?.map fun folder => (folder.id, folder.name, folder.parentId)).Perm
      ((world.made.filter fun folder => folder.creator = auth.user.id).map
        fun folder => some (folder.id, folder.name, folder.parentId)) ∧
    ∀ path ∈ FolderNode.pathsAll tree, PlacePath world.service.folders auth.user.id path

def KeepsOthers (world : FolderWorld) (service : OsvauldService) : Prop :=
  ∀ folder ∈ world.made,
    (∀ auth, world.service.authenticated = some auth → folder.creator ≠ auth.user.id) →
      service.folders.get folder.id = world.service.folders.get folder.id

end FolderWorld

/-- A folder that can be created is given the identifier of the user as its name. It can
be created when its own identifier is free and its parent, if it has one, belongs to
the one whom the folder is named after. -/
def FolderUse.NamedAfterUser (service : OsvauldService) : FolderUse → Prop
  | .createFolder id _ name parentId => ∀ auth, service.authenticated = some auth →
      (∀ folder ∈ service.folders.rows, folder.id ≠ id.val) →
      (∀ parent, truthy parentId = some parent →
        ∃ folder ∈ service.folders.rows, folder.id = parent ∧ folder.ownerId = name) →
      name = auth.user.id
  | _ => True

inductive FolderWorldReached (crypto : OsvauldCrypto) : FolderWorld → Prop
  | start (users : Table User) (documents : Table Document) :
      FolderWorldReached crypto ⟨.start users .empty documents, []⟩
  | call {world : FolderWorld} {use : FolderUse} {outcome : Except PortError Unit}
      {service : OsvauldService} :
      FolderWorldReached crypto world → use.NamedAfterUser world.service →
        Returns .unfinished (use.body crypto) world.service outcome service →
          FolderWorldReached crypto (world.after use outcome service)

open OsvauldService Program

variable {crypto : OsvauldCrypto} {service : OsvauldService}

def FolderUse.folderCall (userId : String) : FolderUse → Option FolderCall
  | .createFolder id now name parentId => some (.createFolder id now userId name parentId)
  | .moveFolder now folderId newParentId => some (.moveFolder now folderId newParentId userId)
  | .deleteFolder folderId => some (.deleteFolder folderId userId false)
  | _ => none

theorem userId_of_moveFolder {use : FolderUse} {owner : String} {now : Date}
    {newParentId : Option String}
    (hcall : use.folderCall userId = some (.moveFolder now folderId newParentId owner)) :
    owner = userId := by
  cases use with
  | moveFolder => exact (FolderCall.moveFolder.inj (Option.some.inj hcall)).2.2.2.symm
  | _ => simp [FolderUse.folderCall] at hcall

theorem userId_of_deleteFolder {use : FolderUse} {owner : String} {recursive : Bool}
    (hcall : use.folderCall userId = some (.deleteFolder folderId owner recursive)) :
    owner = userId := by
  cases use with
  | deleteFolder => exact (FolderCall.deleteFolder.inj (Option.some.inj hcall)).2.1.symm
  | _ => simp [FolderUse.folderCall] at hcall

theorem body_run {use : FolderUse} {auth : Authenticated} {call : FolderCall}
    (hauth : service.authenticated = some auth)
    (hcall : use.folderCall auth.user.id = some call) (rounds : Nat) :
    (use.body crypto rounds).run service =
      (((call.body rounds).run service.folders).1,
        { service with folders := ((call.body rounds).run service.folders).2 }) := by
  cases use with
  | register => cases hcall
  | login => cases hcall
  | logout => cases hcall
  | createFolder id now name parentId =>
      cases hcall
      simp only [FolderUse.body, OsvauldService.createFolder, FolderCall.body, run_bind,
        run_requireAuth hauth, andThen_ok, run_onFolders]
      rcases (FolderManager.createFolder id now auth.user.id name parentId).run
        service.folders with ⟨error | folder, folders⟩
      · rfl
      · rfl
  | moveFolder now folderId newParentId =>
      cases hcall
      simp only [FolderUse.body, OsvauldService.moveFolder, FolderCall.body, run_bind,
        run_requireAuth hauth, andThen_ok, run_onFolders]
      rcases (FolderManager.moveFolder rounds now folderId newParentId auth.user.id).run
        service.folders with ⟨error | folder, folders⟩
      · rfl
      · rfl
  | deleteFolder folderId =>
      cases hcall
      simp only [FolderUse.body, OsvauldService.deleteFolder, FolderCall.body, run_bind,
        run_requireAuth hauth, andThen_ok, run_onFolders]
      rcases (FolderManager.deleteFolder rounds folderId auth.user.id false).run
        service.folders with ⟨error | done, folders⟩
      · rfl
      · rfl

theorem folders_enter (program : Program (Table User) PortError (User × AuthSession))
    (service : OsvauldService) :
    ((onUsers program >>= openSession).run service).2.folders = service.folders := by
  rw [run_bind, run_onUsers]
  rcases program.run service.users with ⟨error | entered, users⟩
  · rfl
  · rfl

theorem folders_body_of_none {use : FolderUse} {userId : String}
    (hcall : use.folderCall userId = none) (rounds : Nat) (service : OsvauldService) :
    ((use.body crypto rounds).run service).2.folders = service.folders := by
  cases use with
  | register draws now username password email =>
      rw [FolderUse.body, run_discard]
      exact folders_enter _ service
  | login username password =>
      rw [FolderUse.body, run_discard]
      exact folders_enter _ service
  | logout => rfl
  | createFolder => cases hcall
  | moveFolder => cases hcall
  | deleteFolder => cases hcall

theorem folders_body_of_logout (hauth : service.authenticated = none) (use : FolderUse)
    (rounds : Nat) : ((use.body crypto rounds).run service).2.folders = service.folders := by
  cases use with
  | createFolder id now name parentId =>
      rw [FolderUse.body, run_discard, OsvauldService.createFolder, run_bind,
        run_requireAuth_none hauth, andThen_error]
  | moveFolder now folderId newParentId =>
      rw [FolderUse.body, run_discard, OsvauldService.moveFolder, run_bind,
        run_requireAuth_none hauth, andThen_error]
  | deleteFolder folderId =>
      rw [FolderUse.body, run_discard, OsvauldService.deleteFolder, run_bind,
        run_requireAuth_none hauth, andThen_error]
  | _ => exact @folders_body_of_none crypto _ "" rfl rounds service

theorem use_cases (hforest : FolderForest service.folders) {use : FolderUse}
    {outcome : Except PortError Unit} {after : OsvauldService}
    (hends : Returns .unfinished (use.body crypto) service outcome after) :
    (∃ auth call folders, service.authenticated = some auth ∧
      use.folderCall auth.user.id = some call ∧ after = { service with folders } ∧
      FolderStep service.folders call outcome folders) ∨
    (after.folders = service.folders ∧ ∀ auth, service.authenticated = some auth →
      use.folderCall auth.user.id = none) := by
  obtain ⟨enough, henough⟩ := hends.enough
  have hafter : after = ((use.body crypto enough).run service).2 := by
    rw [henough enough le_rfl]
  cases hauth : service.authenticated with
  | none =>
      refine .inr ⟨hafter ▸ folders_body_of_logout hauth use enough, fun auth hsome => ?_⟩
      cases hsome
  | some auth =>
      cases hcall : use.folderCall auth.user.id with
      | none =>
          refine .inr ⟨hafter ▸ folders_body_of_none hcall enough service, fun other hother => ?_⟩
          cases hother
          exact hcall
      | some call =>
          obtain ⟨result, folders, hresult, hstep⟩ := call_ends hforest call
          obtain ⟨rounds, hrounds⟩ := hresult.enough
          have hboth := henough (max enough rounds) (le_max_left _ _)
          rw [body_run hauth hcall, hrounds _ (le_max_right _ _)] at hboth
          cases hboth
          exact .inl ⟨auth, call, folders, rfl, hcall, rfl, hstep⟩

def Folder.made (folder : Folder) : MadeFolder :=
  ⟨folder.id, folder.ownerId, folder.name, folder.parentId⟩

structure FolderWorld.Stored (world : FolderWorld) : Prop where
  forest : FolderForest world.service.folders
  made : (world.service.folders.rows.map Folder.made).Perm world.made

theorem ownerId_of_below {folders : Table Folder} (hforest : FolderForest folders)
    {id top : String} (hbelow : AtOrBelow folders.parentOf id top) :
    ∀ folder ∈ folders.rows, folder.id = id → ∀ above ∈ folders.rows, above.id = top →
      folder.ownerId = above.ownerId := by
  induction hbelow using Relation.ReflTransGen.head_induction_on with
  | refl =>
      intro folder hfolder hid above habove htop
      rw [Table.eq_of_id hfolder habove (hid.trans htop.symm)]
  | @head id up hup _ ih =>
      rintro folder hfolder rfl above habove htop
      have hparent : truthy folder.parentId = some up := (parentOf_of_mem hfolder).symm.trans hup
      obtain ⟨parent, hmem, hid, howner⟩ := hforest.parents folder hfolder up hparent
      exact howner.symm.trans (ih parent hmem hid above habove htop)

namespace FolderWorld.Stored

variable {world : FolderWorld}

theorem mem_made_iff (hstored : world.Stored) {made : MadeFolder} :
    made ∈ world.made ↔ ∃ folder ∈ world.service.folders.rows, folder.made = made := by
  rw [← hstored.made.mem_iff, List.mem_map]

theorem madeBelow_iff (hstored : world.Stored) {id top : String} :
    MadeBelow world.made id top ↔ AtOrBelow world.service.folders.parentOf id top := by
  have hup : (fun child up => ∃ folder ∈ world.made, folder.id = child ∧
      truthy folder.parentId = some up) = Up world.service.folders.parentOf := by
    funext child up
    refine propext ⟨?_, fun hparent => ?_⟩
    · rintro ⟨made, hmade, hid, hparent⟩
      obtain ⟨folder, hfolder, rfl⟩ := hstored.mem_made_iff.mp hmade
      exact parentOf_eq_some_iff.mpr ⟨folder, hfolder, hid, hparent⟩
    · obtain ⟨folder, hfolder, hid, hparent⟩ := parentOf_eq_some_iff.mp hparent
      exact ⟨folder.made, hstored.mem_made_iff.mpr ⟨folder, hfolder, rfl⟩, hid, hparent⟩
  rw [MadeBelow, hup]

theorem showsMade (hstored : world.Stored) : world.ShowsMade := by
  intro auth hauth
  obtain ⟨tree, hends, htree⟩ :=
    FolderManager.getFolderTree_ends hstored.forest auth.user.id
  obtain ⟨enough, henough⟩ := hends.enough
  refine ⟨tree, ⟨by simp, enough, fun rounds hrounds => ?_⟩, ?_,
    fun path hpath => ((mem_pathsAll_iff htree).mp hpath).2⟩
  · rw [OsvauldService.getFolderTree, run_bind, run_requireAuth hauth, andThen_ok,
      run_onFolders, henough rounds hrounds]
  · have hplaces := (places_perm hstored.forest htree).map fun last =>
      last.map fun folder => (folder.id, folder.name, folder.parentId)
    rw [List.map_map, List.map_map] at hplaces
    have hmade := ((hstored.made.filter fun made => made.creator = auth.user.id).map
      fun made => some (made.id, made.name, made.parentId))
    rw [List.filter_map, List.map_map] at hmade
    exact hplaces.trans hmade

variable {outcome : Except PortError Unit} {use : FolderUse}

theorem keepsOthers (hstored : world.Stored) {call : FolderCall} {folders : Table Folder}
    {auth : Authenticated} (hcall : use.folderCall auth.user.id = some call)
    (hauth : world.service.authenticated = some auth)
    (hstep : FolderStep world.service.folders call outcome folders) :
    world.KeepsOthers { world.service with folders } := by
  intro made hmade hother
  obtain ⟨folder, hfolder, rfl⟩ := hstored.mem_made_iff.mp hmade
  have howner : folder.ownerId ≠ auth.user.id := hother auth hauth
  have hkept : folder ∈ folders.rows := by
    cases hstep with
    | failed => exact hfolder
    | created hadd _ => exact (Table.mem_add hadd).mpr (.inr hfolder)
    | renamed hmem => cases use <;> cases hcall
    | moved hmem _ =>
        refine Table.mem_update.mpr (.inr ⟨hfolder, fun hid => howner ?_⟩)
        rw [Table.eq_of_id hfolder hmem hid]
        exact userId_of_moveFolder hcall
    | deleted hmem hremoved =>
        refine (hremoved folder).mpr ⟨hfolder, fun hbelow => howner ?_⟩
        rw [ownerId_of_below hstored.forest hbelow folder hfolder rfl _ hmem rfl]
        exact userId_of_deleteFolder hcall
  have hafter : folders.get folder.id = some folder := Table.get_of_mem hkept
  have hbefore : world.service.folders.get folder.id = some folder := Table.get_of_mem hfolder
  exact hafter.trans hbefore.symm

theorem created (hstored : world.Stored) {row : Folder} {folders : Table Folder}
    (hadd : world.service.folders.add row = .ok folders) :
    (folders.rows.map Folder.made).Perm (world.made ++ [row.made]) := by
  rw [(Table.add_eq_ok_iff.mp hadd).2]
  have hperm := (List.perm_orderedInsert
    (fun a b : Folder => Entity.id a ≤ Entity.id b) row world.service.folders.rows).map Folder.made
  refine hperm.trans (.trans ?_ (List.perm_append_singleton _ _).symm)
  exact .cons _ hstored.made

theorem moved (hstored : world.Stored) {folder : Folder} (newParentId : Option String)
    (now : Date) (hfolder : folder ∈ world.service.folders.rows) :
    ((world.service.folders.update folder.id
      { folder with parentId := newParentId, updatedAt := now }).rows.map Folder.made).Perm
      (world.made.map fun made =>
        if made.id = folder.id then { made with parentId := newParentId } else made) := by
  refine .trans (.of_eq ?_) (hstored.made.map _)
  rw [Table.update, List.map_map, List.map_map]
  refine List.map_congr_left fun other hother => ?_
  by_cases hid : other.id = folder.id
  · obtain rfl := Table.eq_of_id hother hfolder hid
    simp [Folder.made, Entity.id, Entity.assign]
  · simp [Folder.made, Entity.id, hid]

theorem deleted (hstored : world.Stored) {folderId : String} (userId : String) {folders : Table Folder}
    (hremoved : Removed world.service.folders folderId folders) :
    (folders.rows.map Folder.made).Perm
      ((FolderUse.deleteFolder folderId).record userId world.made) := by
  have hids : ∀ table : Table Folder, (table.rows.map Folder.made).Nodup := by
    intro table
    have hmap : (table.rows.map Folder.made).map MadeFolder.id = table.rows.map Entity.id := by
      rw [List.map_map]
      rfl
    exact .of_map MadeFolder.id (hmap ▸ table.nodup)
  have hleft : ((FolderUse.deleteFolder folderId).record userId world.made).Nodup :=
    ((hstored.made.nodup (hids world.service.folders)).filter _)
  refine (List.perm_ext_iff_of_nodup (hids folders) hleft).mpr fun made => ?_
  rw [FolderUse.mem_record_deleteFolder, List.mem_map, hstored.madeBelow_iff,
    hstored.mem_made_iff]
  constructor
  · rintro ⟨folder, hfolder, rfl⟩
    obtain ⟨hold, hnot⟩ := (hremoved folder).mp hfolder
    exact ⟨⟨folder, hold, rfl⟩, hnot⟩
  · rintro ⟨⟨folder, hfolder, rfl⟩, hnot⟩
    exact ⟨folder, (hremoved folder).mpr ⟨hfolder, hnot⟩, rfl⟩

theorem step (hstored : world.Stored) {use : FolderUse} {outcome : Except PortError Unit}
    {service : OsvauldService} (hnamed : use.NamedAfterUser world.service)
    (hends : Returns .unfinished (use.body crypto) world.service outcome service) :
    (world.after use outcome service).Stored := by
  obtain ⟨auth, call, folders, hauth, hcall, rfl, hstep⟩ | ⟨hfolders, hnone⟩ :=
    use_cases hstored.forest hends
  · refine ⟨hstored.forest.step hstep, ?_⟩
    cases hstep with
    | failed => exact hstored.made
    | created hadd hparent =>
        cases use with
        | createFolder id now name parentId =>
            obtain ⟨rfl, rfl, rfl, rfl, rfl⟩ :=
              FolderCall.createFolder.inj (Option.some.inj hcall)
            have hname := hnamed auth hauth (Table.add_eq_ok_iff.mp hadd).1 hparent
            subst hname
            rw [made_after_ok hauth]
            exact hstored.created hadd
        | _ => simp [FolderUse.folderCall] at hcall
    | renamed => cases use <;> simp [FolderUse.folderCall] at hcall
    | moved hfolder _ =>
        cases use with
        | moveFolder now folderId newParentId =>
            obtain ⟨rfl, rfl, rfl, -⟩ := FolderCall.moveFolder.inj (Option.some.inj hcall)
            rw [made_after_ok hauth]
            exact hstored.moved newParentId now hfolder
        | _ => simp [FolderUse.folderCall] at hcall
    | deleted _ hremoved =>
        cases use with
        | deleteFolder folderId =>
            obtain ⟨rfl, -⟩ := FolderCall.deleteFolder.inj (Option.some.inj hcall)
            rw [made_after_ok hauth]
            exact hstored.deleted auth.user.id hremoved
        | _ => simp [FolderUse.folderCall] at hcall
  · have hmade : (world.after use outcome service).made = world.made := by
      unfold after
      dsimp only
      split
      · next auth hauth =>
          have hnone := hnone auth hauth
          cases use <;> first | rfl | cases hnone
      · rfl
    exact ⟨hfolders ▸ hstored.forest, hmade ▸ hfolders ▸ hstored.made⟩

theorem keepsOthers_of_ends (hstored : world.Stored) {service : OsvauldService}
    (hends : Returns .unfinished (use.body crypto) world.service outcome service) :
    world.KeepsOthers service := by
  obtain ⟨auth, call, folders, hauth, hcall, rfl, hstep⟩ | ⟨hfolders, -⟩ :=
    use_cases hstored.forest hends
  · exact hstored.keepsOthers hcall hauth hstep
  · intro made _ _
    rw [hfolders]

theorem namedAfterUser_of_showsMade (hstored : world.Stored) {use : FolderUse}
    {outcome : Except PortError Unit} {service : OsvauldService}
    (hends : Returns .unfinished (use.body crypto) world.service outcome service)
    (hshows : (world.after use outcome service).ShowsMade) :
    use.NamedAfterUser world.service := by
  cases use with
  | createFolder id now name parentId =>
      intro auth hauth hfree hparent
      obtain ⟨other, call, folders, hother, hcall, rfl, hstep⟩ | ⟨-, hnone⟩ :=
        use_cases hstored.forest hends
      swap
      · cases hnone auth hauth
      obtain rfl : auth = other := Option.some.inj (hauth.symm.trans hother)
      cases hcall
      -- Nothing stands in the way of the call, so it resolves.
      obtain ⟨folder, after, hresolves⟩ :=
        @FolderManager.createFolder_resolves _ id now auth.user.id _ _ hfree hparent
      obtain ⟨enough, henough⟩ := hends.enough
      have hrun := henough enough le_rfl
      rw [body_run hauth rfl, FolderCall.body, run_bind, hresolves, andThen_ok, run_pure] at hrun
      cases hrun
      cases hstep with
      | created hadd _ =>
          obtain ⟨tree, -, hperm, hplaces⟩ := hshows auth hauth
          rw [made_after_ok hauth] at hperm
          have hmade : some (id.val, name, parentId) ∈
              (FolderNode.pathsAll tree).map fun path =>
                path.getLast?.map fun folder => (folder.id, folder.name, folder.parentId) :=
            hperm.mem_iff.mpr (List.mem_map.mpr
              ⟨⟨id.val, auth.user.id, name, parentId⟩, by simp [FolderUse.record], rfl⟩)
          obtain ⟨path, hpath, hlast⟩ := List.mem_map.mp hmade
          obtain ⟨shown, hshown, heq⟩ := Option.map_eq_some_iff.mp hlast
          obtain ⟨hmem, howner⟩ := mem_ownedFolders.mp
            ((hplaces path hpath).owned shown (List.mem_of_getLast? hshown))
          have hsame := Table.eq_of_id hmem ((Table.mem_add hadd).mpr (.inl rfl))
            (congrArg Prod.fst heq)
          rw [hsame] at howner
          exact howner
  | _ => trivial

theorem next_iff (hstored : world.Stored) {service : OsvauldService}
    (hends : Returns .unfinished (use.body crypto) world.service outcome service) :
    (world.after use outcome service).ShowsMade ∧ world.KeepsOthers service ↔
      use.NamedAfterUser world.service := by
  constructor
  · rintro ⟨hshows, -⟩
    exact hstored.namedAfterUser_of_showsMade hends hshows
  · intro hnamed
    exact ⟨(hstored.step hnamed hends).showsMade, hstored.keepsOthers_of_ends hends⟩

end FolderWorld.Stored

theorem FolderWorldReached.stored {world : FolderWorld} (hreached : FolderWorldReached crypto world) :
    world.Stored := by
  induction hreached with
  | start => exact ⟨.empty, .nil⟩
  | call _ hnamed hends ih => exact ih.step hnamed hends

/-- Wherever calls lead that name every folder they create after the user, the user is
shown what the user has made; and the next call keeps it so, and leaves alone what others
have made, exactly when it does the same. -/
theorem folders_shown_iff {world : FolderWorld} (hreached : FolderWorldReached crypto world) :
    world.ShowsMade ∧ ∀ use outcome service,
      Returns .unfinished (use.body crypto) world.service outcome service →
        ((world.after use outcome service).ShowsMade ∧ world.KeepsOthers service ↔
          use.NamedAfterUser world.service) :=
  ⟨hreached.stored.showsMade, fun _ _ _ hends => hreached.stored.next_iff hends⟩

theorem annLoggedIn_reached : FolderWorldReached plainCrypto ⟨annLoggedIn, []⟩ :=
  @FolderWorldReached.call _ _ (.login "ann" "secret") (.ok ()) _ (.start annAlone .empty) trivial
    (.of_const (fun _ => rfl) rfl (by simp))

def createPlans : FolderUse := .createFolder ⟨"f2", by decide⟩ 1 "plans" none

def afterPlans : OsvauldService :=
  { annLoggedIn with
    folders := ⟨[⟨"f2", "u1", none, "plans", 1, 1⟩], by decide⟩ }

theorem createPlans_ends :
    Returns .unfinished (createPlans.body plainCrypto) annLoggedIn (.ok ()) afterPlans :=
  .of_const (fun _ => rfl) rfl (by simp)

theorem createPlans_not_named : ¬ createPlans.NamedAfterUser annLoggedIn := by
  intro hnamed
  exact absurd (hnamed ⟨ann, ⟨[1], [1]⟩⟩ rfl (by simp [annLoggedIn, OsvauldService.start,
    Table.empty]) (by simp [truthy])) (by decide)

theorem folders_shown_iff_annLoggedIn :
    FolderWorld.ShowsMade ⟨annLoggedIn, []⟩ ∧
      ¬ ((FolderWorld.after ⟨annLoggedIn, []⟩ createPlans (.ok ()) afterPlans).ShowsMade ∧
        FolderWorld.KeepsOthers ⟨annLoggedIn, []⟩ afterPlans) := by
  obtain ⟨hshows, hnext⟩ := folders_shown_iff annLoggedIn_reached
  exact ⟨hshows, fun hkept => createPlans_not_named ((hnext _ _ _ createPlans_ends).mp hkept)⟩

/-- The user who has just created a folder does not see it. -/
theorem not_folders_shown :
    ¬ ∀ world : FolderWorld, FolderWorldReached plainCrypto world →
      ∀ use outcome service, Returns .unfinished (use.body plainCrypto) world.service outcome
        service → (world.after use outcome service).ShowsMade :=
  fun hall => createPlans_not_named (annLoggedIn_reached.stored.namedAfterUser_of_showsMade
    createPlans_ends (hall _ annLoggedIn_reached _ _ _ createPlans_ends))

end Osvauld.TypescriptPort
