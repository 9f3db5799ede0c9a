import Osvauld.Persistance.NewRows
import Osvauld.Services.FolderService
import Osvauld.Services.ImportedIdentity

namespace Osvauld.Services

open Osvauld.Core CryptoUtils Data Data.KeyedInserts Persistance

/-! The default folder of an account, over any run of a device. -/

variable {Cert : Type}

def isLiveDefault (folder : Folder) : Bool :=
  !folder.deleted && folder.defaultFolder

def liveDefaults (ctx : RepositoryContext) : List Folder :=
  ctx.folders.filter isLiveDefault

def SignedUp (store : DeviceStore Cert) : Prop :=
  StoreRepo.isSignedUp store = .ok true

def HasDefaultFolder (store : DeviceStore Cert) : Prop :=
  SignedUp store → (liveDefaults store.ctx).length = 1

variable {store : DeviceStore Cert} {ctx' : RepositoryContext} {folder : Folder}
  {record : FolderShareRecord} {account : NewAccount Cert}

theorem signedUp_iff : SignedUp store ↔ store.item? "primary_key" ≠ none := by
  rw [SignedUp, StoreRepo.isSignedUp, Except.ok.injEq, DeviceStore.any_key]

def onTables {α : Type} (service : Service α) :
    Program (DeviceStore Cert) ServiceError α :=
  service.zoom DeviceStore.ctx fun ctx store => { store with ctx }

inductive FolderCall (Cert : Type) where
  | handleSignup (env : AuthEnv Cert) (draw : Draw) (username passphrase domain : String)
  | importUser (env : AuthEnv Cert) (draw : Draw)
      (certificate passphrase username peerDeviceId : String)
  | changePassphrase (env : AuthEnv Cert) (oldPassword newPassword : String)
  | createFolder (env : ServiceEnv) (name : String) (description : Option String)
      (user : User)
  | softDeleteFolder (env : ServiceEnv) (folderId : String)
  | addFoldersBulk (folders : List Folder)
  | processUnknownFoldersPayload (payload : UnknownFoldersPayload)

/-- A call is carried out, or stopped after some of its steps; or the rest of the
program writes the other tables. -/
inductive DeviceEvent (Cert : Type) where
  | call (folderCall : FolderCall Cert) (steps : Nat)
  | elsewhere (ctx : RepositoryContext)

def FolderCall.stopAfter (steps : Nat) (store : DeviceStore Cert) :
    FolderCall Cert → DeviceStore Cert
  | .handleSignup env draw username passphrase domain =>
      (Services.handleSignup env draw username passphrase domain).stopAfter steps store
  | .importUser env draw certificate passphrase username peerDeviceId =>
      (Services.importUser env draw certificate passphrase username
        peerDeviceId).stopAfter steps store
  | .changePassphrase env oldPassword newPassword =>
      (Services.changePassphrase env oldPassword newPassword).stopAfter steps store
  | .createFolder env name description user =>
      (onTables (Services.createFolder env name description user)).stopAfter steps store
  | .softDeleteFolder env folderId =>
      (onTables (Services.softDeleteFolder env folderId)).stopAfter steps store
  | .addFoldersBulk folders =>
      (onTables (update (FolderRepo.addFoldersBulk folders))).stopAfter steps store
  | .processUnknownFoldersPayload payload =>
      (onTables (Services.processUnknownFoldersPayload payload)).stopAfter steps store

def DeviceEvent.step : DeviceEvent Cert → DeviceStore Cert → DeviceStore Cert
  | .call folderCall steps, store => folderCall.stopAfter steps store
  | .elsewhere ctx, store => { store with ctx := { ctx with folders := store.ctx.folders } }

def accountItems : List String :=
  ["primary_key", "primary_key_salt", "device_key", "device_key_salt", "device_id",
    "ucan_key"]

@[mk_iff]
structure AccountFits (account : NewAccount Cert) (peerDevice : Option Device)
    (store : DeviceStore Cert) : Prop where
  items : ∀ key ∈ accountItems, store.item? key = none
  user : Table.users.AdmitsAll User.username store.ctx [account.user]
  devices : Table.devices.AdmitsAll Device.deviceKey
    { store.ctx with users := store.ctx.users ++ [account.user] }
    (account.device :: peerDevice.toList)

def FolderIdsFree (draw : Draw) (ctx : RepositoryContext) : Prop :=
  draw.folderId ∉ ctx.folders.map Folder.id ∧
    draw.folderShareRecordId ∉ ctx.folderShareRecords.map FolderShareRecord.id

instance (draw : Draw) (ctx : RepositoryContext) : Decidable (FolderIdsFree draw ctx) :=
  inferInstanceAs (Decidable (_ ∧ _))

def KeepsDefault (steps : Nat) (store : DeviceStore Cert) : FolderCall Cert → Prop
  | .handleSignup env draw username passphrase domain =>
      ∀ account folder record,
        prepareSignup env draw username passphrase domain = .ok (account, folder, record) →
          AccountFits account none store → 2 ≤ steps →
            (liveDefaults store.ctx).length =
              if 3 ≤ steps ∧ FolderIdsFree draw store.ctx then 0 else 1
  | .importUser env draw certificate passphrase username peerDeviceId =>
      ∀ account, prepareImport env draw certificate passphrase username = .ok account →
        AccountFits account
            (some (Device.new env.now peerDeviceId peerDeviceId account.user.id)) store →
          1 ≤ steps → (liveDefaults store.ctx).length = 1
  | .softDeleteFolder _ folderId =>
      SignedUp store → 2 ≤ steps → ∀ folder ∈ liveDefaults store.ctx, folder.id ≠ folderId
  | .addFoldersBulk folders =>
      SignedUp store → 1 ≤ steps →
        ∀ folder ∈ newRows Folder.id store.ctx.folders folders, isLiveDefault folder = false
  | .changePassphrase .. | .createFolder .. | .processUnknownFoldersPayload .. => True

def SameDefaults (ctx ctx' : RepositoryContext) : Prop :=
  (liveDefaults ctx').length = (liveDefaults ctx).length

theorem SameDefaults.refl (ctx : RepositoryContext) : SameDefaults ctx ctx := rfl

theorem SameDefaults.trans {first second third : RepositoryContext}
    (hfirst : SameDefaults first second) (hsecond : SameDefaults second third) :
    SameDefaults first third :=
  Eq.trans hsecond hfirst

section

variable {ctx : RepositoryContext}

theorem sameDefaults_append {new : List Folder} (hfolders : ctx'.folders = ctx.folders ++ new)
    (hnew : ∀ folder ∈ new, isLiveDefault folder = false) : SameDefaults ctx ctx' := by
  have hnone : new.filter isLiveDefault = [] := by simpa using hnew
  rw [SameDefaults, liveDefaults, hfolders, List.filter_append, hnone, List.append_nil,
    liveDefaults]

theorem insertAll_folderShareRecords {onConflict : OnConflict} {records : List FolderShareRecord}
    (hinsert : Table.folderShareRecords.insertAll onConflict records ctx = .ok ctx') :
    ctx'.folders = ctx.folders :=
  Table.insertAll_induction (fun state => state.folders = ctx.folders)
    (fun _ _ _ _ hstate => hstate) rfl hinsert

theorem saveFolderWithShareRecord_same (hplain : isLiveDefault folder = false)
    (hsave : FolderRepo.saveFolderWithShareRecord folder record ctx = .ok ctx') :
    SameDefaults ctx ctx' := by
  rw [FolderRepo.saveFolderWithShareRecord, reportAs_eq_ok, bind_eq_ok] at hsave
  obtain ⟨saved, hfolder, hrecord⟩ := hsave
  obtain ⟨_, rfl⟩ := Table.insert_abort_eq_ok hfolder
  obtain ⟨_, rfl⟩ := Table.insert_abort_eq_ok hrecord
  exact sameDefaults_append rfl (by simpa using hplain)

theorem upsertFolder_same (hplain : isLiveDefault folder = false)
    (hupsert : FolderRepo.upsertFolder folder ctx = .ok ctx') : SameDefaults ctx ctx' := by
  unfold FolderRepo.upsertFolder at hupsert
  split at hupsert
  · -- The columns that are overwritten do not make a live default folder.
    cases hupsert
    simp only [SameDefaults, liveDefaults, List.filter_map, List.length_map]
    refine congrArg List.length (List.filter_congr fun known _ => ?_)
    by_cases hknown : known.id = folder.id <;> simp [hknown, isLiveDefault]
  · obtain ⟨_, rfl⟩ := Table.insert_abort_eq_ok hupsert
    exact sameDefaults_append rfl (by simpa using hplain)

theorem saveFolderWithShareRecords_same {records : List FolderShareRecord}
    (hplain : isLiveDefault folder = false)
    (hsave : FolderRepo.saveFolderWithShareRecords folder records ctx = .ok ctx') :
    SameDefaults ctx ctx' := by
  rw [FolderRepo.saveFolderWithShareRecords, reportAs_eq_ok, bind_eq_ok] at hsave
  obtain ⟨saved, hfolder, hrecords⟩ := hsave
  have hsame := upsertFolder_same hplain hfolder
  rw [SameDefaults, liveDefaults, insertAll_folderShareRecords hrecords]
  exact hsame

end

theorem createFolder_same (env : ServiceEnv) (name : String) (description : Option String)
    (user : User) :
    Program.Guarantees SameDefaults (createFolder env name description user) := by
  unfold createFolder
  split
  · exact .done
  have hdraw : Program.Guarantees SameDefaults (drawId env) :=
    .bind (.atomically fun ctx => .refl _) fun _ => .pure _
  refine .bind hdraw fun folderId => ?_
  refine .bind (.read SameDefaults.refl _) fun encryptedUcanKey => ?_
  refine .bind .done fun signingKey => .bind .done fun (token, cid) => ?_
  refine .bind hdraw fun recordId => .bind ?_ fun _ => .pure _
  exact .write SameDefaults.refl fun ctx ctx' hsave =>
    saveFolderWithShareRecord_same (by simp [isLiveDefault, Folder.new])
      (mapError_eq_ok.mp hsave)

theorem processUnknownFoldersPayload_same (payload : UnknownFoldersPayload) :
    Program.Guarantees SameDefaults (processUnknownFoldersPayload payload) :=
  .forEach fun folderPair _ => .write SameDefaults.refl fun ctx ctx' hsave =>
    saveFolderWithShareRecords_same (by simp [isLiveDefault]) (mapError_eq_ok.mp hsave)

theorem stopAfter_onTables {α : Type} (service : Service α) (steps : Nat)
    (store : DeviceStore Cert) :
    (onTables service).stopAfter steps store =
      { store with ctx := service.stopAfter steps store.ctx } := by
  rw [onTables, Program.stopAfter_zoom]
  · exact fun _ _ => rfl
  · exact fun _ _ _ => rfl
  · exact fun _ => rfl

theorem hasDefaultFolder_congr {store' : DeviceStore Cert}
    (hitem : store'.item? "primary_key" = none ↔ store.item? "primary_key" = none)
    (hsame : SameDefaults store.ctx store'.ctx) :
    HasDefaultFolder store' ↔ HasDefaultFolder store := by
  unfold HasDefaultFolder
  rw [signedUp_iff, signedUp_iff, Ne, hitem, hsame]

theorem hasDefaultFolder_onTables {α : Type} {service : Service α} {steps : Nat}
    (hservice : Program.Guarantees SameDefaults service) :
    HasDefaultFolder ((onTables service).stopAfter steps store) ↔
      HasDefaultFolder store := by
  rw [stopAfter_onTables]
  exact hasDefaultFolder_congr Iff.rfl
    (hservice.stopAfter SameDefaults.refl (fun _ _ _ => .trans) steps store.ctx)

theorem hasDefaultFolder_of_ctx {ctx : RepositoryContext} {kept : Prop}
    (hbefore : HasDefaultFolder store)
    (hkept : (liveDefaults store.ctx).length = 1 → ((liveDefaults ctx).length = 1 ↔ kept)) :
    HasDefaultFolder { store with ctx } ↔ (SignedUp store → kept) := by
  refine forall_congr' fun hsigned => hkept (hbefore hsigned)

theorem liveDefaults_softDelete (now : Int) (folderId : String) (ctx : RepositoryContext) :
    (ctx.folders.map fun folder =>
        if folder.id = folderId then
          { folder with deleted := true, deletedAt := some now, updatedAt := now }
        else folder).filter isLiveDefault =
      (liveDefaults ctx).filter fun folder => folder.id ≠ folderId := by
  rw [liveDefaults]
  induction ctx.folders with
  | nil => rfl
  | cons folder rest ih =>
      rw [List.map_cons, List.filter_cons, ih]
      by_cases hid : folder.id = folderId
      · cases hlive : isLiveDefault folder <;> simp [hid, isLiveDefault]
      · by_cases hlive : isLiveDefault folder = true <;> simp [hid, hlive]

theorem softDeleteFolder_hasDefault {env : ServiceEnv} {folderId : String} {steps : Nat}
    (hbefore : HasDefaultFolder store) :
    HasDefaultFolder ((onTables (softDeleteFolder env folderId)).stopAfter steps store) ↔
      (SignedUp store → 2 ≤ steps →
        ∀ folder ∈ liveDefaults store.ctx, folder.id ≠ folderId) := by
  rw [stopAfter_onTables]
  refine hasDefaultFolder_of_ctx hbefore fun hone => ?_
  have hdelete : (softDeleteFolder env folderId).stopAfter steps store.ctx = store.ctx ∧
      (2 ≤ steps → ∀ folder ∈ store.ctx.folders, folder.id ≠ folderId) ∨
        2 ≤ steps ∧ liveDefaults ((softDeleteFolder env folderId).stopAfter steps store.ctx) =
          (liveDefaults store.ctx).filter fun folder => folder.id ≠ folderId := by
    unfold softDeleteFolder
    rw [query, Program.read_mapError]
    match steps with
    | 0 => exact .inl ⟨Program.stopAfter_zero _ _, by omega⟩
    | 1 =>
        refine .inl ⟨?_, by omega⟩
        rw [Program.stopAfter_read_bind]
        split <;> simp
    | steps + 2 =>
        rw [Program.stopAfter_read_bind, FolderRepo.findById]
        cases hfind : store.ctx.folders.find? fun folder => folder.id = folderId with
        | none =>
            refine .inl ⟨rfl, fun _ folder hfolder => ?_⟩
            simpa using List.find?_eq_none.mp hfind folder hfolder
        | some folder =>
            refine .inr ⟨by omega, ?_⟩
            change liveDefaults ((update _).stopAfter (steps + 1) store.ctx) = _
            rw [update, Program.stopAfter_write]
            exact liveDefaults_softDelete env.now folderId store.ctx
  rcases hdelete with ⟨hsame, hnone⟩ | ⟨hsteps, hdeleted⟩
  · rw [hsame]
    exact iff_of_true hone fun hsteps folder hfolder =>
      hnone hsteps folder (List.mem_filter.mp hfolder).1
  · rw [hdeleted, ← hone, List.length_filter_eq_length_iff]
    simp [hsteps]

theorem addFoldersBulk_hasDefault {folders : List Folder} {steps : Nat}
    (hbefore : HasDefaultFolder store) :
    HasDefaultFolder ((onTables (update (FolderRepo.addFoldersBulk folders))).stopAfter
        steps store) ↔
      (SignedUp store → 1 ≤ steps →
        ∀ folder ∈ newRows Folder.id store.ctx.folders folders,
          isLiveDefault folder = false) := by
  rw [stopAfter_onTables]
  refine hasDefaultFolder_of_ctx hbefore fun hone => ?_
  cases steps with
  | zero =>
      rw [Program.stopAfter_zero]
      simp [hone]
  | succ steps =>
      have hadd : FolderRepo.addFoldersBulk folders store.ctx =
          .ok { store.ctx with
            folders := store.ctx.folders ++ newRows Folder.id store.ctx.folders folders } := by
        rw [FolderRepo.addFoldersBulk, reportAs_eq_ok,
          folders_keyed.insertAll_eq_ok_iff_newRows]
        exact ⟨addable_newRows (fun _ => rfl) folders, rfl⟩
      rw [update, Program.stopAfter_write, hadd]
      have hcount : (liveDefaults { store.ctx with
          folders := store.ctx.folders ++ newRows Folder.id store.ctx.folders folders }).length =
            (liveDefaults store.ctx).length +
              ((newRows Folder.id store.ctx.folders folders).filter isLiveDefault).length := by
        rw [liveDefaults, List.filter_append, List.length_append, liveDefaults]
      change (liveDefaults { store.ctx with
          folders := store.ctx.folders ++ newRows Folder.id store.ctx.folders folders }).length =
        1 ↔ _
      rw [hcount, hone]
      simp

theorem changePassphrase_hasDefault {env : AuthEnv Cert} {oldPassword newPassword : String}
    {steps : Nat} :
    HasDefaultFolder ((changePassphrase env oldPassword newPassword).stopAfter steps store) ↔
      HasDefaultFolder store := by
  unfold changePassphrase primaryCertificate
  rw [queryStore, Program.read_mapError]
  cases steps with
  | zero => rw [Program.stopAfter_zero]
  | succ steps =>
      rw [Program.stopAfter_read_bind]
      cases hfound : StoreRepo.getCertificate "primary_key" "primary_key_salt" store with
      | error error => exact Iff.rfl
      | ok certificate =>
          simp only [Except.mapError]
          rw [Program.stopAfter_ofExcept_bind]
          split
          · next newPrivateKey _ =>
              cases steps with
              | zero => rw [Program.stopAfter_zero]
              | succ steps =>
                  rw [updateStore, Program.stopAfter_write_bind]
                  have hheld : store.item? "primary_key" ≠ none := by
                    intro hnone
                    simp [StoreRepo.getCertificate, hnone] at hfound
                  have hdone (after : DeviceStore Cert) (value : Certificate Cert) :
                      (pure value : AuthService Cert _).stopAfter steps after = after :=
                    Program.stopAfter_done steps _ after
                  simp only [StoreRepo.storeCertificate, Except.mapError, hdone]
                  refine hasDefaultFolder_congr ?_ (by simp [SameDefaults])
                  simp [DeviceStore.item?_upsertItem, hheld]
          · exact Iff.rfl

def CommitsAccount (env : AuthEnv Cert) (account : NewAccount Cert)
    (peerDevice : Option Device) (store committed : DeviceStore Cert) : Prop :=
  UserRepo.commitSignupTransaction env.now account.user account.primaryCertificate
    account.device account.deviceCertificate peerDevice account.ucanCertificate store =
      .ok committed

theorem users_keyed : Table.users.Keyed User.username where
  clash := fun user other _ => by simp [Table.users]
  rows_setRows _ _ := rfl
  setRows_rows _ := rfl
  setRows_setRows _ _ _ := rfl
  referenced_setRows _ _ := rfl

theorem devices_keyed : Table.devices.Keyed Device.deviceKey where
  clash := fun device other _ => by simp [Table.devices]
  rows_setRows _ _ := rfl
  setRows_rows _ := rfl
  setRows_setRows _ _ _ := rfl
  referenced_setRows _ _ := rfl

theorem insertItem_eq_ok_iff {now : Int} {key : String} {value : StoredText Cert}
    {store' : DeviceStore Cert} :
    store.insertItem now key value = .ok store' ↔
      store.item? key = none ∧
        store' = { store with
          items := store.items ++ [{ key, value, updatedAt := now }] } := by
  unfold DeviceStore.insertItem
  split
  · next hheld => simp [DeviceStore.any_key.mp hheld]
  · next hfree =>
      rw [DeviceStore.any_key, not_not] at hfree
      simp only [hfree, true_and, Except.ok.injEq]
      exact eq_comm

theorem item?_concat_eq_none {item : StoreItem Cert} {key : String} :
    DeviceStore.item? { store with items := store.items ++ [item] } key = none ↔
      store.item? key = none ∧ item.key ≠ key := by
  simp only [DeviceStore.item?_eq_none, List.forall_mem_append, List.forall_mem_singleton]

theorem commitsAccount_iff (env : AuthEnv Cert) {peerDevice : Option Device} :
    (∃ committed, CommitsAccount env account peerDevice store committed) ↔
      AccountFits account peerDevice store := by
  simp only [CommitsAccount, UserRepo.commitSignupTransaction, mapError_eq_ok, bind_eq_ok,
    DeviceStore.onTables_eq_ok, insertItem_eq_ok_iff, exists_and_left, exists_eq_left,
    item?_concat_eq_none, and_assoc, users_keyed.insert_abort_eq_ok_iff,
    devices_keyed.insert_abort_eq_ok_iff, accountFits_iff, Table.AdmitsAll, addable_cons_iff]
  cases peerDevice with
  | none =>
      simp [Table.users, Table.devices, userExists, accountItems]
      grind
  | some peer =>
      simp only [DeviceStore.onTables_eq_ok, devices_keyed.insert_abort_eq_ok_iff,
        Option.toList_some, addable_cons_iff, addable_nil]
      simp [Table.users, Table.devices, userExists, accountItems]
      grind

theorem hasDefaultFolder_committed {user : User} {primary ucanCertificate : Certificate Cert}
    {device : Device} {peerDevice : Option Device} {committed : DeviceStore Cert}
    (hcommitted : UserRepo.Committed user primary device peerDevice ucanCertificate store committed) :
    HasDefaultFolder committed ↔ (liveDefaults store.ctx).length = 1 := by
  have hsigned : SignedUp committed := by
    rw [signedUp_iff, hcommitted.privateKey]
    exact Option.some_ne_none _
  have hfolders : liveDefaults committed.ctx = liveDefaults store.ctx := by
    rw [liveDefaults, hcommitted.tables, liveDefaults]
  rw [HasDefaultFolder, hfolders]
  exact forall_prop_of_true hsigned

theorem importUser_hasDefault {env : AuthEnv Cert} {draw : Draw}
    {certificate passphrase username peerDeviceId : String} {steps : Nat}
    (hbefore : HasDefaultFolder store) :
    HasDefaultFolder ((importUser env draw certificate passphrase username
        peerDeviceId).stopAfter steps store) ↔
      KeepsDefault steps store
        (.importUser env draw certificate passphrase username peerDeviceId) := by
  unfold importUser
  rw [Program.stopAfter_ofExcept_bind]
  simp only [KeepsDefault]
  cases hprepare : prepareImport env draw certificate passphrase username with
  | error error =>
      refine iff_of_true hbefore fun other hother => ?_
      cases hother
  | ok account =>
      cases steps with
      | zero => exact iff_of_true hbefore fun _ _ _ hsteps => by omega
      | succ steps =>
          dsimp only
          rw [updateStore, Program.stopAfter_write_bind]
          have hdone (after : DeviceStore Cert) (value : User × Certificate Cert) :
              (pure value : AuthService Cert _).stopAfter steps after = after :=
            Program.stopAfter_done steps _ after
          simp only [hdone]
          cases hcommit : UserRepo.commitSignupTransaction env.now account.user
              account.primaryCertificate account.device account.deviceCertificate
              (some (Device.new env.now peerDeviceId peerDeviceId account.user.id))
              account.ucanCertificate store with
          | error error =>
              refine iff_of_true hbefore fun other hother hfits => ?_
              cases hother
              obtain ⟨committed, hcommitted⟩ := (commitsAccount_iff env).mpr hfits
              cases hcommit.symm.trans hcommitted
          | ok committed =>
              have hcount := hasDefaultFolder_committed
                (UserRepo.commitSignupTransaction_eq_ok hcommit)
              have hfits := (commitsAccount_iff env).mp ⟨committed, hcommit⟩
              refine hcount.trans ⟨fun hone _ _ _ _ => hone, fun hkept => ?_⟩
              exact hkept account rfl hfits (by omega)

theorem prepareSignup_folder {env : AuthEnv Cert} {draw : Draw}
    {username passphrase domain : String}
    (hprepare : prepareSignup env draw username passphrase domain = .ok (account, folder, record)) :
    folder = Folder.new draw.folderId env.now "default" none true ∧
      record.id = draw.folderShareRecordId ∧ record.folderId = folder.id ∧
        record.sharedByUserId = account.user.id ∧
          record.recipientUserId = account.user.id := by
  simp only [prepareSignup, bind_eq_ok] at hprepare
  obtain ⟨primary, _, cert, _, userId, _, ucanCertificate, _, signingKey, _, token, _,
    pair, _, hresult⟩ := hprepare
  cases hresult
  exact ⟨rfl, rfl, rfl, rfl, rfl⟩

theorem saveDefaultFolder {user : User} {ctx : RepositoryContext} (huser : user ∈ ctx.users)
    (hfolder : record.folderId = folder.id) (hsharer : record.sharedByUserId = user.id)
    (hrecipient : record.recipientUserId = user.id) (ctx' : RepositoryContext) :
    FolderRepo.saveFolderWithShareRecord folder record ctx = .ok ctx' ↔
      (folder.id ∉ ctx.folders.map Folder.id ∧
          record.id ∉ ctx.folderShareRecords.map FolderShareRecord.id) ∧
        ctx' = { ctx with
          folders := ctx.folders ++ [folder]
          folderShareRecords := ctx.folderShareRecords ++ [record] } := by
  have hexists : userExists ctx user.id = true :=
    List.any_eq_true.mpr ⟨user, huser, by simp⟩
  have hthere : folderExists { ctx with folders := ctx.folders ++ [folder] } folder.id =
      true :=
    List.any_eq_true.mpr ⟨folder, by simp, by simp⟩
  have hreferenced : Table.folderShareRecords.referenced
      { ctx with folders := ctx.folders ++ [folder] } record = true := by
    change (folderExists _ record.folderId && userExists ctx record.sharedByUserId &&
      userExists ctx record.recipientUserId) = true
    rw [hfolder, hsharer, hrecipient, hthere, hexists]
    rfl
  rw [FolderRepo.saveFolderWithShareRecord, reportAs_eq_ok, bind_eq_ok]
  simp only [folders_keyed.insert_abort_eq_ok_iff,
    folderShareRecords_keyed.insert_abort_eq_ok_iff]
  constructor
  · rintro ⟨_, ⟨⟨hid, _, _⟩, rfl⟩, ⟨hrecordId, _, _⟩, rfl⟩
    exact ⟨⟨hid, hrecordId⟩, rfl⟩
  · rintro ⟨⟨hid, hrecordId⟩, rfl⟩
    exact ⟨_, ⟨⟨hid, hid, rfl⟩, rfl⟩, ⟨hrecordId, hrecordId, hreferenced⟩, rfl⟩

section

variable {env : AuthEnv Cert} {draw : Draw} {username passphrase domain : String}

theorem committed_hasDefault {committed : DeviceStore Cert}
    (hprepare : prepareSignup env draw username passphrase domain = .ok (account, folder, record))
    (hcommit : CommitsAccount env account none store committed) (steps : Nat) :
    HasDefaultFolder ((updateTables (FolderRepo.saveFolderWithShareRecord folder
        record)).stopAfter steps committed) ↔
      (liveDefaults store.ctx).length =
        if 1 ≤ steps ∧ FolderIdsFree draw store.ctx then 0 else 1 := by
  have hcommitted := UserRepo.commitSignupTransaction_eq_ok hcommit
  obtain ⟨rfl, hrecordId, hfolder, hsharer, hrecipient⟩ := prepareSignup_folder hprepare
  have huser : account.user ∈ committed.ctx.users := by simp [hcommitted.tables]
  have hids : FolderIdsFree draw store.ctx ↔
      draw.folderId ∉ committed.ctx.folders.map Folder.id ∧
        record.id ∉ committed.ctx.folderShareRecords.map FolderShareRecord.id := by
    rw [hcommitted.tables, hrecordId]
    rfl
  cases steps with
  | zero =>
      rw [Program.stopAfter_zero]
      exact hasDefaultFolder_committed hcommitted
  | succ steps =>
      rw [updateTables, updateStore, Program.stopAfter_write]
      have hsaves := saveDefaultFolder huser hfolder hsharer hrecipient
      cases hsave : FolderRepo.saveFolderWithShareRecord
          (Folder.new draw.folderId env.now "default" none true) record committed.ctx with
      | error error =>
          have htaken : ¬FolderIdsFree draw store.ctx := by
            intro hfree
            cases hsave.symm.trans ((hsaves _).mpr ⟨hids.mp hfree, rfl⟩)
          rw [if_neg fun hfree => htaken hfree.2]
          exact hasDefaultFolder_committed hcommitted
      | ok ctx =>
          obtain ⟨hfree, rfl⟩ := (hsaves ctx).mp hsave
          have hsigned : SignedUp committed := by
            rw [signedUp_iff, hcommitted.privateKey]
            exact Option.some_ne_none _
          rw [if_pos ⟨by omega, hids.mpr hfree⟩]
          refine (forall_prop_of_true hsigned).trans ?_
          have hcount (ctx' : RepositoryContext)
              (hfolders : ctx'.folders = store.ctx.folders ++
                [Folder.new draw.folderId env.now "default" none true]) :
              (liveDefaults ctx').length = (liveDefaults store.ctx).length + 1 := by
            rw [liveDefaults, hfolders, List.filter_append, List.length_append, liveDefaults]
            rfl
          dsimp only [Except.map, Except.mapError]
          rw [hcount _ (congrArg
            (· ++ [Folder.new draw.folderId env.now "default" none true])
            (congrArg RepositoryContext.folders hcommitted.tables))]
          omega

theorem handleSignup_hasDefault {steps : Nat} (hbefore : HasDefaultFolder store) :
    HasDefaultFolder ((handleSignup env draw username passphrase domain).stopAfter steps
        store) ↔
      KeepsDefault steps store (.handleSignup env draw username passphrase domain) := by
  unfold handleSignup
  simp only [KeepsDefault]
  rw [queryStore]
  cases steps with
  | zero => exact iff_of_true hbefore fun _ _ _ _ _ hsteps => by omega
  | succ steps =>
  rw [Program.stopAfter_read_bind]
  by_cases hsigned : SignedUp store
  · -- The call fails, and the account could not be stored a second time.
    rw [hsigned]
    refine iff_of_true (by simpa [Except.mapError, Program.fail] using hbefore) ?_
    intro account folder record _ hfits
    exact absurd (hfits.items "primary_key" (by simp [accountItems]))
      (signedUp_iff.mp hsigned)
  have hunsigned : StoreRepo.isSignedUp store = .ok false := by
    rw [StoreRepo.isSignedUp, Except.ok.injEq, Bool.eq_false_iff]
    exact fun hany => hsigned (congrArg Except.ok hany)
  simp only [hunsigned, Except.mapError, Bool.false_eq_true, if_false]
  rw [Program.stopAfter_ofExcept_bind]
  cases hprepare : prepareSignup env draw username passphrase domain with
  | error error =>
      refine iff_of_true hbefore fun account folder record hother => ?_
      cases hother
  | ok prepared =>
      obtain ⟨account, folder, record⟩ := prepared
      dsimp only
      rw [updateStore]
      cases steps with
      | zero =>
          rw [Program.stopAfter_zero]
          exact iff_of_true hbefore fun _ _ _ _ _ hsteps => by omega
      | succ steps =>
          rw [Program.stopAfter_write_bind]
          cases hcommit : UserRepo.commitSignupTransaction env.now account.user
              account.primaryCertificate account.device account.deviceCertificate none
              account.ucanCertificate store with
          | error error =>
              refine iff_of_true hbefore fun _ _ _ hother hfits => ?_
              cases hother
              obtain ⟨committed, hcommitted⟩ := (commitsAccount_iff env).mpr hfits
              cases hcommit.symm.trans hcommitted
          | ok committed =>
              have hsteps : 3 ≤ steps + 1 + 1 ↔ 1 ≤ steps := by omega
              refine (committed_hasDefault hprepare hcommit steps).trans ?_
              simp only [hsteps]
              constructor
              · exact fun hcount _ _ _ _ _ _ => hcount
              · exact fun hkept => hkept account folder record rfl
                  ((commitsAccount_iff env).mp ⟨committed, hcommit⟩) (by omega)

end

def DeviceEvent.KeepsDefault (store : DeviceStore Cert) : DeviceEvent Cert → Prop
  | .call folderCall steps => Services.KeepsDefault steps store folderCall
  | .elsewhere _ => True

theorem step_hasDefault (event : DeviceEvent Cert) (hbefore : HasDefaultFolder store) :
    HasDefaultFolder (event.step store) ↔ event.KeepsDefault store := by
  cases event with
  | elsewhere ctx =>
      exact iff_of_true ((hasDefaultFolder_congr Iff.rfl rfl).mpr hbefore) trivial
  | call folderCall steps =>
      cases folderCall with
      | handleSignup env draw username passphrase domain =>
          exact handleSignup_hasDefault hbefore
      | importUser env draw certificate passphrase username peerDeviceId =>
          exact importUser_hasDefault hbefore
      | changePassphrase env oldPassword newPassword =>
          exact iff_of_true (changePassphrase_hasDefault.mpr hbefore) trivial
      | createFolder env name description user =>
          exact iff_of_true ((hasDefaultFolder_onTables
            (createFolder_same env name description user)).mpr hbefore) trivial
      | softDeleteFolder env folderId => exact softDeleteFolder_hasDefault hbefore
      | addFoldersBulk folders => exact addFoldersBulk_hasDefault hbefore
      | processUnknownFoldersPayload payload =>
          exact iff_of_true ((hasDefaultFolder_onTables
            (processUnknownFoldersPayload_same payload)).mpr hbefore) trivial

abbrev afterDevice (start : DeviceStore Cert) (events : List (DeviceEvent Cert)) :
    DeviceStore Cert :=
  run DeviceEvent.step start events

/-- The default folder is there in every state of a run exactly when each event meets
its condition. -/
theorem hasDefaultFolder_throughout_iff (events : List (DeviceEvent Cert)) :
    (∀ earlier, earlier <+: events → HasDefaultFolder (afterDevice {} earlier)) ↔
      ∀ earlier event, earlier ++ [event] <+: events →
        event.KeepsDefault (afterDevice {} earlier) := by
  constructor
  · intro hthroughout earlier event hearlier
    have hbefore := hthroughout earlier ((List.prefix_append _ _).trans hearlier)
    have hafter := hthroughout _ hearlier
    rw [afterDevice, run_concat] at hafter
    exact (step_hasDefault event hbefore).mp hafter
  · intro hkept
    refine @run_invariant _ _ DeviceEvent.step {} events
      (fun _ store => HasDefaultFolder store) (fun hsigned => ?_) ?_
    · exact absurd hsigned (by simp [SignedUp, StoreRepo.isSignedUp])
    · exact fun earlier event hearlier hbefore =>
        (step_hasDefault event hbefore).mpr (hkept earlier event hearlier)

namespace TextCertificate

def deletedDefault : List (DeviceEvent String) :=
  [.call (.handleSignup env draw "alice" "first" "domain") 3,
    .call (.softDeleteFolder
      { libraries, cert := none, now := 1, domain := "domain", fuel := 0 } "folder") 2]

end TextCertificate

open TextCertificate in
theorem not_hasDefaultFolder_deleted :
    ¬ ∀ earlier, earlier <+: deletedDefault → HasDefaultFolder (afterDevice {} earlier) := by
  intro hthroughout
  have hsigned : SignedUp (afterDevice {} deletedDefault) := rfl
  have hone := hthroughout deletedDefault List.prefix_rfl hsigned
  have hnone : (liveDefaults (afterDevice {} deletedDefault).ctx).length = 0 := rfl
  exact absurd (hnone.symm.trans hone) (by decide)

end Osvauld.Services
