import Mathlib.Logic.Function.Basic
import Osvauld.Services.WrappedKeys

namespace Osvauld.Services

open Osvauld.Core CryptoUtils Data Persistance

/-! Devices on which resources are created, shared and edited, and between which
they are transferred. -/

inductive HolderCall where
  | createResource (env : ServiceEnv) (payload : JsonText) (resourceType : ResourceType)
      (folderId : String) (user : User) (currentDeviceId : String)
  | prepareShareResource (env : ServiceEnv) (recipientUserId resourceId : String)
      (permissions : List (String × String)) (currentUser : User)
  | shareResource (env : ServiceEnv) (recipientUserId resourceId : String)
      (permissions : List (String × String)) (currentUser : User)
  | autoShareResourceWithFolderUsers (env : ServiceEnv) (resourceId folderId : String)
      (currentUser : User)
  | shareFolder (env : ServiceEnv) (folderId recipientUserId : String)
      (folderPermissions : List (String × String)) (currentUser : User)
  | addMissingRecipients (env : ServiceEnv) (payload : List FolderRecipientUpdate)
      (missingRemoteResources : List String) (recipientUserId : String)
      (currentUser : User)
  | edit (call : EditCall)

def storeAfter (ctx : RepositoryContext) : HolderCall → RepositoryContext
  | .createResource env payload resourceType folderId user currentDeviceId =>
      ((createResource env payload resourceType folderId user currentDeviceId).run ctx).2
  | .prepareShareResource env recipientUserId resourceId permissions currentUser =>
      ((prepareShareResource env recipientUserId resourceId permissions
        currentUser).run ctx).2
  | .shareResource env recipientUserId resourceId permissions currentUser =>
      ((shareResource env recipientUserId resourceId permissions currentUser).run ctx).2
  | .autoShareResourceWithFolderUsers env resourceId folderId currentUser =>
      ((autoShareResourceWithFolderUsers env resourceId folderId currentUser).run ctx).2
  | .shareFolder env folderId recipientUserId folderPermissions currentUser =>
      ((shareFolder env folderId recipientUserId folderPermissions
        currentUser).run ctx).2
  | .addMissingRecipients env payload missingRemoteResources recipientUserId
      currentUser =>
      ((addMissingRecipients env payload missingRemoteResources recipientUserId
        currentUser).run ctx).2
  | .edit call => (call.body.run ctx).2

structure Holder where
  store : RepositoryContext
  written : String → Option JsonText := fun _ => none

def addedRows (before after : RepositoryContext) : List Resource :=
  after.resources.drop before.resources.length

def noteAdded (plain : Option JsonText) (before after : RepositoryContext)
    (written : String → Option JsonText) (id : String) : Option JsonText :=
  if (addedRows before after).any fun row => row.id = id then plain else written id

def noteCall (before : RepositoryContext) (call : HolderCall)
    (written : String → Option JsonText) : String → Option JsonText :=
  match call with
  | .createResource _ payload _ _ _ _ =>
      noteAdded (some payload) before (storeAfter before call) written
  | .edit edited =>
      match edited.writes before with
      | some plain => Function.update written edited.resourceId (some plain)
      | none => written
  | _ => written

def Holder.run (call : HolderCall) (holder : Holder) : Holder :=
  { store := storeAfter holder.store call
    written := noteCall holder.store call holder.written }

structure Transfer where
  payload : ResourceSyncData
  plain : Option JsonText

structure Fleet where
  holders : List Holder
  sent : List Transfer := []

inductive FleetEvent where
  | call (device : Nat) (call : HolderCall)
  | send (device : Nat) (env : ServiceEnv) (resourceId : String) (target : Device)
  /-- A transfer may arrive anywhere, late, more than once or never. -/
  | receive (device transfer : Nat) (connectionType : ConnectionType)

namespace Holder

def send (env : ServiceEnv) (resourceId : String) (target : Device) (holder : Holder) :
    Holder × Option Transfer :=
  let (outcome, store) :=
    (getResourceForRemoteAddition env resourceId target).run holder.store
  ({ holder with store }, outcome.toOption.map fun payload =>
    { payload, plain := holder.written payload.resource.id })

def receive (transfer : Transfer) (connectionType : ConnectionType) (holder : Holder) :
    Holder :=
  let store := ((addResourceSync transfer.payload connectionType).run holder.store).2
  { store, written := noteAdded transfer.plain holder.store store holder.written }

end Holder

def Fleet.step (event : FleetEvent) (fleet : Fleet) : Fleet :=
  match event with
  | .call device call =>
      match fleet.holders[device]? with
      | none => fleet
      | some holder => { fleet with holders := fleet.holders.set device (holder.run call) }
  | .send device env resourceId target =>
      match fleet.holders[device]? with
      | none => fleet
      | some holder =>
          let (holder, transfer) := holder.send env resourceId target
          { holders := fleet.holders.set device holder
            sent := fleet.sent ++ transfer.toList }
  | .receive device transfer connectionType =>
      match fleet.holders[device]?, fleet.sent[transfer]? with
      | some holder, some transfer =>
          { fleet with
            holders := fleet.holders.set device (holder.receive transfer connectionType) }
      | _, _ => fleet

def afterFleetEvents (start : List RepositoryContext) (events : List FleetEvent) : Fleet :=
  run Fleet.step { holders := start.map fun store => { store } } events

/-! What the rows of a resource have in common. `certOf` is the public key of a
user's certificate and `secret` the key that a resource is sealed with. -/

section Coherence

variable (certOf secret : String → String)

def Wraps (key : ResourceKey) : Prop :=
  key.encryptedKey = .sealed (certOf key.userId) (secret key.resourceId)

def SealedAs (plain : Option JsonText) (row : Resource) : Prop :=
  ∃ text, plain = some text ∧ row.data = .sealed (secret row.id) text

theorem Wraps.opens {certOf secret : String → String} {key : ResourceKey} {row : Resource}
    {plain : Option JsonText} (hkey : Wraps certOf secret key)
    (hrow : SealedAs secret plain row) (hfor : row.id = key.resourceId) :
    ∃ text, plain = some text ∧
      decryptResource (some (certOf key.userId)) row.data key.encryptedKey = .ok text := by
  obtain ⟨text, hplain, hdata⟩ := hrow
  refine ⟨text, hplain, ?_⟩
  simp [decryptResource, decryptAesKey, getCert, decryptTextPgp, bind, Except.bind,
    show key.encryptedKey = _ from hkey, hdata, hfor]

structure Holder.Coherent (holder : Holder) : Prop where
  users : ∀ user ∈ holder.store.users, user.publicKey = certOf user.id
  resources : ∀ row ∈ holder.store.resources, SealedAs secret (holder.written row.id) row
  resourceKeys : ∀ key ∈ holder.store.resourceKeys, Wraps certOf secret key

structure Transfer.Coherent (transfer : Transfer) : Prop where
  resource : SealedAs secret transfer.plain transfer.payload.resource
  resourceKeys : ∀ key ∈ transfer.payload.resourceKeys, Wraps certOf secret key

structure Fleet.Coherent (fleet : Fleet) : Prop where
  holders : ∀ holder ∈ fleet.holders, holder.Coherent certOf secret
  sent : ∀ transfer ∈ fleet.sent, transfer.Coherent certOf secret

end Coherence

namespace Holder

variable {certOf secret : String → String} {holder : Holder}

theorem added_of_append {before after : RepositoryContext} {added : List Resource}
    (hafter : after.resources = before.resources ++ added) :
    addedRows before after = added := by
  simp [addedRows, hafter]

theorem Coherent.added (hcoherent : holder.Coherent certOf secret)
    {plain : Option JsonText} {store : RepositoryContext}
    (hadds : Adds (SealedAs secret plain) (Wraps certOf secret) holder.store store) :
    ({ store, written := noteAdded plain holder.store store holder.written } :
      Holder).Coherent certOf secret := by
  obtain ⟨husers, ⟨added, heq, hadded⟩, hkeys⟩ := hadds
  refine ⟨fun user huser => hcoherent.users user (husers ▸ huser), fun row hrow => ?_,
    fun key hkey => (hkeys key hkey).elim (hcoherent.resourceKeys key) id⟩
  dsimp only at hrow ⊢
  rw [noteAdded, added_of_append heq]
  rw [heq] at hrow
  by_cases hnew : added.any fun other => other.id = row.id
  · rw [if_pos hnew]
    obtain ⟨other, hother, hid⟩ := List.any_eq_true.mp hnew
    rcases List.mem_append.mp hrow with hold | hmem
    · exact absurd (by simpa using Eq.symm (of_decide_eq_true hid))
        ((hadded other hother).2 row hold)
    · exact (hadded row hmem).1
  · rw [if_neg hnew]
    rcases List.mem_append.mp hrow with hold | hmem
    · exact hcoherent.resources row hold
    · exact absurd (List.any_eq_true.mpr ⟨row, hmem, by simp⟩) hnew

theorem noteAdded_of_none {plain : Option JsonText} {before after : RepositoryContext}
    (hsame : after.resources = before.resources) (written : String → Option JsonText) :
    noteAdded plain before after written = written := by
  funext id
  simp [noteAdded, addedRows, hsame]

theorem Coherent.shared (hcoherent : holder.Coherent certOf secret)
    {store : RepositoryContext}
    (hadds : Adds (fun _ => False) (Wraps certOf secret) holder.store store) :
    ({ holder with store } : Holder).Coherent certOf secret := by
  obtain ⟨added, heq, hadded⟩ := hadds.resources
  obtain rfl : added = [] := List.eq_nil_iff_forall_not_mem.mpr fun row hrow =>
    (hadded row hrow).1
  have hnoted := hcoherent.added
    (@Adds.mono _ _ (SealedAs secret none) _ _ _ hadds (fun _ => False.elim) fun _ => id)
  rwa [noteAdded_of_none (by simpa using heq)] at hnoted

theorem Coherent.rewraps (hcoherent : holder.Coherent certOf secret) {key : ResourceKey}
    (hrewraps : Rewraps holder.store key) : Wraps certOf secret key := by
  obtain ⟨held, hheld, recipient, huser, publicKey, plain, hresource, hsealed, hid,
    hkey⟩ := hrewraps
  have hwraps : Wraps certOf secret held := hcoherent.resourceKeys held hheld
  have hplain : plain = secret key.resourceId := by
    rw [Wraps, hsealed, hresource] at hwraps
    exact (PgpText.sealed.inj hwraps).2
  rw [Wraps, hkey, hplain, hcoherent.users recipient huser, hid]

theorem findById_key {id userId : String} {ctx : RepositoryContext} {row : ResourceWithKey}
    (hfind : ResourceRepo.findById id userId ctx = .ok row) :
    ∃ key ∈ ctx.resourceKeys, key.resourceId = id ∧ row.encryptedKey = key.encryptedKey := by
  unfold ResourceRepo.findById at hfind
  split at hfind
  · next resource key _ hkey =>
      cases hfind
      have hfor := List.find?_some hkey
      simp only [Bool.and_eq_true, decide_eq_true_eq] at hfor
      exact ⟨key, List.mem_of_find?_eq_some hkey, hfor.1, rfl⟩
  · cases hfind

theorem Coherent.edited (hcoherent : holder.Coherent certOf secret) {call : EditCall}
    {store : RepositoryContext} (hedits : Edits call holder.store store) :
    ({ store, written := match call.writes holder.store with
        | some plain => Function.update holder.written call.resourceId (some plain)
        | none => holder.written } : Holder).Coherent certOf secret := by
  cases hedits with
  | nothing hwrites hnone =>
      rw [hwrites]
      exact hcoherent.shared (.of_none hnone)
  | written plain row key hwrites hfind hkey hrewrites =>
      rw [hwrites]
      obtain ⟨held, hheld, hfor, hsame⟩ := findById_key hfind
      obtain ⟨publicKey, _, hsealed⟩ := decryptAesKey_eq_ok.mp hkey
      have hsecret : key = secret call.resourceId := by
        have hwraps : Wraps certOf secret held := hcoherent.resourceKeys held hheld
        rw [Wraps, ← hsame, hsealed, hfor] at hwraps
        exact (PgpText.sealed.inj hwraps).2
      refine ⟨fun user huser => hcoherent.users user (hrewrites.users ▸ huser),
        fun row hrow => ?_,
        fun key hkey => hcoherent.resourceKeys key (hrewrites.resourceKeys key hkey)⟩
      obtain ⟨old, hold, hid, hdata⟩ := hrewrites.resources row hrow
      by_cases hthis : row.id = call.resourceId
      · rw [if_pos hthis] at hdata
        exact ⟨plain, by simp [hthis], by rw [hdata, hsecret, hthis]⟩
      · rw [if_neg hthis] at hdata
        obtain ⟨text, htext, hsealedAs⟩ := hcoherent.resources old hold
        rw [hid] at htext hsealedAs
        exact ⟨text, by simp [Function.update_of_ne hthis, htext], hdata.trans hsealedAs⟩

def Mentions (holder : Holder) (id : String) : Prop :=
  (∃ row ∈ holder.store.resources, row.id = id) ∨
    ∃ key ∈ holder.store.resourceKeys, key.resourceId = id

instance (id : String) : Decidable (holder.Mentions id) :=
  inferInstanceAs (Decidable (_ ∨ _))

theorem Coherent.congr {secret' : String → String}
    (hcoherent : holder.Coherent certOf secret)
    (hsame : ∀ id, holder.Mentions id → secret' id = secret id) :
    holder.Coherent certOf secret' := by
  refine ⟨hcoherent.users, fun row hrow => ?_, fun key hkey => ?_⟩
  · rw [SealedAs, hsame row.id (.inl ⟨row, hrow, rfl⟩)]
    exact hcoherent.resources row hrow
  · rw [Wraps, hsame key.resourceId (.inr ⟨key, hkey, rfl⟩)]
    exact hcoherent.resourceKeys key hkey

end Holder

namespace Transfer

variable {certOf secret : String → String} {transfer : Transfer}

def Mentions (transfer : Transfer) (id : String) : Prop :=
  transfer.payload.resource.id = id ∨
    ∃ key ∈ transfer.payload.resourceKeys, key.resourceId = id

instance (id : String) : Decidable (transfer.Mentions id) :=
  inferInstanceAs (Decidable (_ ∨ _))

theorem Coherent.congr {secret' : String → String}
    (hcoherent : transfer.Coherent certOf secret)
    (hsame : ∀ id, transfer.Mentions id → secret' id = secret id) :
    transfer.Coherent certOf secret' := by
  refine ⟨?_, fun key hkey => ?_⟩
  · rw [SealedAs, hsame _ (.inl rfl)]
    exact hcoherent.resource
  · rw [Wraps, hsame key.resourceId (.inr ⟨key, hkey, rfl⟩)]
    exact hcoherent.resourceKeys key hkey

end Transfer

def HolderCall.Certified (certOf : String → String) : HolderCall → Prop
  | .createResource _ _ _ _ user _ => user.publicKey = certOf user.id
  | _ => True

namespace Holder

variable {certOf secret : String → String} {holder : Holder}

theorem Coherent.run (hcoherent : holder.Coherent certOf secret) {call : HolderCall}
    (hcertified : call.Certified certOf)
    (hfresh : ∀ row ∈ addedRows holder.store (storeAfter holder.store call),
      ¬holder.Mentions row.id) :
    ∃ secret' : String → String,
      (∀ id, secret' id = secret id ∨
        ∃ row ∈ addedRows holder.store (storeAfter holder.store call), row.id = id) ∧
      (holder.run call).Coherent certOf secret' := by
  have hshares : ∀ store, Shares holder.store store →
      ∃ secret' : String → String,
        (∀ id, secret' id = secret id ∨
          ∃ row ∈ addedRows holder.store (storeAfter holder.store call), row.id = id) ∧
        ({ holder with store } : Holder).Coherent certOf secret' := fun store hstore =>
    ⟨secret, fun _ => .inl rfl, hcoherent.shared
      (hstore.mono (fun _ => id) fun key => hcoherent.rewraps)⟩
  cases call with
  | createResource env payload resourceType folderId user currentDeviceId =>
      rcases createResource_ends env payload resourceType folderId user currentDeviceId
        holder.store (.refl _) with hnone | ⟨row, newKey, hcreates⟩
      · obtain ⟨secret', hsecret, hafter⟩ := hshares _ (.of_none hnone)
        refine ⟨secret', hsecret, ?_⟩
        rwa [Holder.run, noteCall, storeAfter, noteAdded_of_none hnone.resources_eq]
      · have hadded := added_of_append hcreates.resources
        rw [storeAfter, hadded] at hfresh ⊢
        have hunmentioned : ¬holder.Mentions row.id := hfresh row List.mem_cons_self
        refine ⟨Function.update secret row.id newKey, fun id => ?_, ?_⟩
        · by_cases hid : row.id = id
          · exact .inr ⟨row, List.mem_cons_self, hid⟩
          · exact .inl (Function.update_of_ne (Ne.symm hid) _ _)
        · refine (hcoherent.congr fun id hid => Function.update_of_ne ?_ _ _).added
            (hcreates.adds.mono ?_ fun key => ?_)
          · rintro rfl
            exact hunmentioned hid
          · rintro _ rfl
            exact ⟨payload, rfl, by simp [hcreates.data]⟩
          · rintro ⟨hfor, hkey, huser⟩
            rw [Wraps, hkey, hfor, huser, Function.update_self]
            exact congrArg (PgpText.sealed · newKey) hcertified
  | prepareShareResource env recipientUserId resourceId permissions currentUser =>
      exact hshares _ (.of_none (prepareShareResource_keeps env _ _ _ _ _ (.refl _)).1)
  | shareResource env recipientUserId resourceId permissions currentUser =>
      exact hshares _ (shareResource_ends env _ _ _ _ _ (.refl _))
  | autoShareResourceWithFolderUsers env resourceId folderId currentUser =>
      exact hshares _ (autoShareResourceWithFolderUsers_ends env _ _ _ _ (.refl _))
  | shareFolder env folderId recipientUserId folderPermissions currentUser =>
      exact hshares _ (shareFolder_ends env _ _ _ _ _ (.refl _))
  | addMissingRecipients env payload missingRemoteResources recipientUserId currentUser =>
      exact hshares _ (addMissingRecipients_ends env _ _ _ _ _ (.refl _))
  | edit call =>
      exact ⟨secret, fun _ => .inl rfl, hcoherent.edited (call.body_edits holder.store)⟩

end Holder

namespace Fleet

variable {certOf secret : String → String} {fleet : Fleet}

def Mentions (fleet : Fleet) (id : String) : Prop :=
  (∃ holder ∈ fleet.holders, holder.Mentions id) ∨
    ∃ transfer ∈ fleet.sent, transfer.Mentions id

def FreshIds (fleet : Fleet) : FleetEvent → Prop
  | .call device call => ∀ holder ∈ fleet.holders[device]?,
      ∀ row ∈ addedRows holder.store (storeAfter holder.store call), ¬fleet.Mentions row.id
  | _ => True

instance (id : String) : Decidable (fleet.Mentions id) :=
  inferInstanceAs (Decidable (_ ∨ _))

instance (event : FleetEvent) : Decidable (fleet.FreshIds event) :=
  match event with
  | .call device call => inferInstanceAs (Decidable (∀ holder ∈ fleet.holders[device]?,
      ∀ row ∈ addedRows holder.store (storeAfter holder.store call),
        ¬fleet.Mentions row.id))
  | .send _ _ _ _ => inferInstanceAs (Decidable True)
  | .receive _ _ _ => inferInstanceAs (Decidable True)

def Certified (certOf : String → String) : FleetEvent → Prop
  | .call _ call => call.Certified certOf
  | _ => True

theorem Coherent.set (hcoherent : fleet.Coherent certOf secret) (device : Nat)
    {holder : Holder} (hholder : holder.Coherent certOf secret) :
    ∀ other ∈ fleet.holders.set device holder, other.Coherent certOf secret := by
  intro other hother
  rcases List.mem_or_eq_of_mem_set hother with hmem | rfl
  · exact hcoherent.holders other hmem
  · exact hholder

theorem Coherent.send (hcoherent : fleet.Coherent certOf secret) (device : Nat)
    (env : ServiceEnv) (resourceId : String) (target : Device) :
    (fleet.step (.send device env resourceId target)).Coherent certOf secret := by
  dsimp only [step]
  split
  · exact hcoherent
  · next holder hholder =>
      have hheld := hcoherent.holders holder (List.mem_of_getElem? hholder)
      obtain ⟨hnone, hcopied⟩ :=
        getResourceForRemoteAddition_keeps env resourceId target holder.store (.refl _)
      refine ⟨hcoherent.set device (hheld.shared (.of_none hnone)), fun transfer hmem => ?_⟩
      rcases List.mem_append.mp hmem with hold | hnew
      · exact hcoherent.sent transfer hold
      · simp only [Holder.send, Option.mem_toList, Option.map_eq_some_iff] at hnew
        obtain ⟨payload, hpayload, rfl⟩ := hnew
        obtain ⟨hresource, hkeys⟩ := hcopied payload (by
          cases houtcome : ((getResourceForRemoteAddition env resourceId target).run
            holder.store).1 with
          | ok value => simpa [houtcome, Except.toOption] using hpayload
          | error error => simp [houtcome, Except.toOption] at hpayload)
        exact ⟨hheld.resources _ hresource,
          fun key hkey => hheld.resourceKeys key (hkeys key hkey).1⟩

theorem Coherent.receive (hcoherent : fleet.Coherent certOf secret)
    (device transfer : Nat) (connectionType : ConnectionType) :
    (fleet.step (.receive device transfer connectionType)).Coherent certOf secret := by
  dsimp only [step]
  split
  · next holder received hholder hreceived =>
      have hheld := hcoherent.holders holder (List.mem_of_getElem? hholder)
      have hpayload := hcoherent.sent received (List.mem_of_getElem? hreceived)
      refine ⟨hcoherent.set device (hheld.added ?_), hcoherent.sent⟩
      refine (addResourceSync_ends received.payload connectionType holder.store
        (.refl _)).mono ?_ hpayload.resourceKeys
      rintro row ⟨hid, hdata⟩
      obtain ⟨text, hplain, hsealed⟩ := hpayload.resource
      exact ⟨text, hplain, by rw [hdata, hsealed, hid]⟩
  · exact hcoherent

theorem Coherent.call (hcoherent : fleet.Coherent certOf secret) (device : Nat)
    {call : HolderCall} (hcertified : call.Certified certOf)
    (hfresh : fleet.FreshIds (.call device call)) :
    ∃ secret', (fleet.step (.call device call)).Coherent certOf secret' := by
  dsimp only [step]
  split
  · exact ⟨secret, hcoherent⟩
  · next holder hholder =>
      have hmem := List.mem_of_getElem? hholder
      obtain ⟨secret', hsecret, hafter⟩ := (hcoherent.holders holder hmem).run hcertified
        fun row hrow hmentions => hfresh holder hholder row hrow
          (.inl ⟨holder, hmem, hmentions⟩)
      have hsame : ∀ id, fleet.Mentions id → secret' id = secret id := fun id hid =>
        (hsecret id).resolve_right fun ⟨row, hrow, hrowId⟩ =>
          hfresh holder hholder row hrow (hrowId ▸ hid)
      have hcongr : fleet.Coherent certOf secret' :=
        ⟨fun other hother => (hcoherent.holders other hother).congr
            fun id hid => hsame id (.inl ⟨other, hother, hid⟩),
          fun transfer htransfer => (hcoherent.sent transfer htransfer).congr
            fun id hid => hsame id (.inr ⟨transfer, htransfer, hid⟩)⟩
      exact ⟨secret', hcongr.set device hafter, hcongr.sent⟩

theorem Coherent.step (hcoherent : fleet.Coherent certOf secret) {event : FleetEvent}
    (hcertified : Certified certOf event) (hfresh : fleet.FreshIds event) :
    ∃ secret', (fleet.step event).Coherent certOf secret' := by
  cases event with
  | call device call => exact hcoherent.call device hcertified hfresh
  | send device env resourceId target =>
      exact ⟨secret, hcoherent.send device env resourceId target⟩
  | receive device transfer connectionType =>
      exact ⟨secret, hcoherent.receive device transfer connectionType⟩

end Fleet

/-- Every stored key of a resource opens, with the certificate of its user, what
any device stores for the resource, and finds the last plaintext written there. -/
theorem key_holders_read_written (certOf : String → String)
    (start : List RepositoryContext) (events : List FleetEvent)
    (hempty : ∀ store ∈ start, store.resources = [] ∧ store.resourceKeys = [])
    (hcerts : ∀ store ∈ start, ∀ user ∈ store.users, user.publicKey = certOf user.id)
    (hcertified : ∀ event ∈ events, Fleet.Certified certOf event)
    (hfresh : ∀ earlier event, earlier ++ [event] <+: events →
      (afterFleetEvents start earlier).FreshIds event) :
    let fleet := afterFleetEvents start events
    ∀ holder ∈ fleet.holders, ∀ device ∈ fleet.holders,
      ∀ key ∈ holder.store.resourceKeys, ∀ resource ∈ device.store.resources,
        resource.id = key.resourceId →
          ∃ plain, device.written resource.id = some plain ∧
            decryptResource (some (certOf key.userId)) resource.data key.encryptedKey =
              .ok plain := by
  intro fleet holder hholder device hdevice key hkey resource hresource hfor
  have hstart : ∃ secret, (afterFleetEvents start []).Coherent certOf secret := by
    refine ⟨fun _ => "", fun holder hholder => ?_, fun _ htransfer => nomatch htransfer⟩
    obtain ⟨store, hstore, rfl⟩ := List.mem_map.mp hholder
    obtain ⟨hresources, hkeys⟩ := hempty store hstore
    exact ⟨hcerts store hstore, by simp [hresources], by simp [hkeys]⟩
  have hrun : ∃ secret, fleet.Coherent certOf secret := by
    refine @run_invariant _ _ _ _ events
      (fun _ (fleet : Fleet) => ∃ secret, fleet.Coherent certOf secret) hstart
      (fun earlier event hearlier ⟨secret, hcoherent⟩ => ?_) events List.prefix_rfl
    exact hcoherent.step (hcertified event (hearlier.subset (by simp)))
      (hfresh earlier event hearlier)
  obtain ⟨secret, hcoherent⟩ := hrun
  exact ((hcoherent.holders holder hholder).resourceKeys key hkey).opens
    ((hcoherent.holders device hdevice).resources resource hresource) hfor

namespace TwoHolders

def token : Ucan :=
  { issuer := "did:key:z..R", audience := "did:key:z..R"
    capabilities := ["crud/update", "ucan/share"].map fun ability =>
      ⟨"livnote:resource:i", ability⟩
    signedData := "grant" }

def libraries : Libraries :=
  let tabled := Libraries.tabled [("grant", token)]
  let crate := { tabled.ucan.crate with build := fun _ => .ok (), sign := fun _ => .ok token }
  { tabled with ucan := { tabled.ucan with crate } }

def envOf (user : String) : ServiceEnv :=
  { libraries, cert := some user, now := 0, domain := "livnote", fuel := 4 }

def store (user : String) : RepositoryContext :=
  { users := [.sample "R", .sample "S"]
    devices := [.sample "dev-R" "R", .sample "dev-S" "S"]
    folders := [.sample "folder"]
    ucanKey := some (.sealed user (String.ofList (List.replicate 32 'R'))) }

def first : JsonText := .malformed "first"

def second : JsonText := .malformed "second"

def events : List FleetEvent :=
  [.call 0 (.createResource (envOf "R") first .notes "folder" (.sample "R") "dev-R"),
    .call 0 (.shareResource (envOf "R") "S" "i" [] (.sample "R")),
    .send 0 (envOf "R") "i" (.sample "dev-S" "S"),
    .receive 1 0 .user,
    .call 1 (.edit
      { env := envOf "S", resourceId := "i", userId := "S"
        edit := .updateResource second "dev-S" })]

end TwoHolders

open TwoHolders in
theorem key_holders_read_written_sharedNote :
    let fleet := afterFleetEvents [store "R", store "S"] events
    (fleet.holders.map fun holder => holder.store.resourceKeys.map fun key => key.userId) =
        [["R", "S"], ["R", "S"]] ∧
      ∀ holder ∈ fleet.holders, ∀ device ∈ fleet.holders,
        ∀ key ∈ holder.store.resourceKeys, ∀ resource ∈ device.store.resources,
          resource.id = key.resourceId →
            ∃ plain, device.written resource.id = some plain ∧
              decryptResource (some key.userId) resource.data key.encryptedKey =
                .ok plain := by
  refine ⟨by decide +kernel, key_holders_read_written id [store "R", store "S"] events
    (by simp [store]) (by simp [store, User.sample]) ?_ fun earlier event hearlier => ?_⟩
  · simp [events, Fleet.Certified, HolderCall.Certified, User.sample]
  · refine @EachEvent.of_prefix _ (fun earlier event =>
      (afterFleetEvents [store "R", store "S"] earlier).FreshIds event) [] events earlier
        event ⟨?_, ?_, trivial, trivial, ?_, trivial⟩ hearlier
    all_goals decide +kernel

end Osvauld.Services
