import Osvauld.Persistance.UserRepository

namespace Osvauld.Persistance

open Osvauld.Core Data

/-! The stored items of a device, and the transaction that makes it one. -/

structure StoreItem (Cert : Type) where
  key : String
  value : StoredText Cert
  updatedAt : Int

structure DeviceStore (Cert : Type) where
  ctx : RepositoryContext := {}
  items : List (StoreItem Cert) := []
  loaded : Option Cert := none

namespace DeviceStore

variable {Cert : Type}

def item? (store : DeviceStore Cert) (key : String) : Option (StoredText Cert) :=
  (store.items.find? fun item => item.key = key).map fun item => item.value

def insertItem (now : Int) (key : String) (value : StoredText Cert)
    (store : DeviceStore Cert) : Except Violation (DeviceStore Cert) :=
  if store.items.any fun item => item.key = key then .error .primaryKey
  else .ok { store with items := store.items ++ [{ key, value, updatedAt := now }] }

def upsertItem (now : Int) (key : String) (value : StoredText Cert)
    (store : DeviceStore Cert) : DeviceStore Cert :=
  if store.items.any fun item => item.key = key then
    { store with
      items := store.items.map fun item =>
        if item.key = key then { item with value, updatedAt := now } else item }
  else { store with items := store.items ++ [{ key, value, updatedAt := now }] }

def onTables (statement : RepositoryContext → Except Violation RepositoryContext)
    (store : DeviceStore Cert) : Except Violation (DeviceStore Cert) :=
  (statement store.ctx).map fun ctx => { store with ctx }

@[simp] theorem item?_setTables (store : DeviceStore Cert) (ctx : RepositoryContext)
    (key : String) : item? { store with ctx } key = store.item? key := rfl

variable {now : Int} {key : String} {value : StoredText Cert}
variable {store store' : DeviceStore Cert}

theorem item?_eq_none : store.item? key = none ↔ ∀ item ∈ store.items, item.key ≠ key := by
  simp [item?]

theorem any_key : (store.items.any fun item => item.key = key) = true ↔
    store.item? key ≠ none := by
  rw [Ne, item?_eq_none]
  simp

theorem item?_append {item : StoreItem Cert} (hfree : store.item? item.key = none)
    (other : String) :
    item? { store with items := store.items ++ [item] } other =
      if other = item.key then some item.value else store.item? other := by
  have hsplit : item? { store with items := store.items ++ [item] } other =
      (store.item? other).or (if item.key = other then some item.value else none) := by
    rw [item?, List.find?_append, Option.map_or]
    by_cases heq : item.key = other <;> simp [item?, heq]
  rw [hsplit]
  by_cases heq : other = item.key
  · subst heq
    simp [hfree]
  · simp [heq, Ne.symm heq]

theorem insertItem_eq_ok (hinsert : store.insertItem now key value = .ok store') :
    store.item? key = none ∧ store'.ctx = store.ctx ∧
      ∀ other, store'.item? other = if other = key then some value else store.item? other := by
  unfold insertItem at hinsert
  split at hinsert
  · cases hinsert
  · next hfree =>
      rw [any_key, not_not] at hfree
      cases hinsert
      exact ⟨hfree, rfl, item?_append hfree⟩

@[simp] theorem ctx_upsertItem : (store.upsertItem now key value).ctx = store.ctx := by
  unfold upsertItem
  split <;> rfl

theorem item?_setValue (other : String) :
    item? { store with
        items := store.items.map fun item =>
          if item.key = key then { item with value, updatedAt := now } else item } other =
      (store.items.find? fun item => item.key = other).map fun item =>
        if item.key = key then value else item.value := by
  have hkeys : ((fun item : StoreItem Cert => decide (item.key = other)) ∘ fun item =>
      if item.key = key then { item with value, updatedAt := now } else item) =
        fun item => decide (item.key = other) := by
    funext item
    by_cases hkey : item.key = key <;> simp [hkey]
  rw [item?, List.find?_map, hkeys, Option.map_map]
  congr 1
  funext item
  by_cases hkey : item.key = key <;> simp [hkey]

theorem item?_upsertItem (other : String) :
    (store.upsertItem now key value).item? other =
      if other = key then some value else store.item? other := by
  unfold upsertItem
  by_cases hfree : store.item? key = none
  · rw [if_neg (mt any_key.mp (not_not.mpr hfree))]
    exact item?_append hfree other
  · rw [if_pos (any_key.mpr hfree), item?_setValue]
    cases hitem : store.items.find? fun item => decide (item.key = other) with
    | none =>
        have hnone : store.item? other = none := by rw [item?, hitem]; rfl
        have hother : other ≠ key := fun heq => hfree (heq ▸ hnone)
        rw [if_neg hother, hnone]
        rfl
    | some item =>
        have hkey : item.key = other := by simpa using List.find?_some hitem
        rw [item?, hitem, Option.map_some, Option.map_some, hkey]
        split <;> rfl

theorem onTables_eq_ok
    {statement : RepositoryContext → Except Violation RepositoryContext} :
    store.onTables statement = .ok store' ↔
      ∃ ctx, statement store.ctx = .ok ctx ∧ store' = { store with ctx } := by
  unfold onTables
  cases statement store.ctx with
  | error violation => simp [Except.map]
  | ok ctx => simp [Except.map, eq_comm]

end DeviceStore

namespace StoreRepo

variable {Cert : Type}

def storeCertificate (now : Int) (certificate : Certificate Cert)
    (certificateKey saltKey : String) (store : DeviceStore Cert) :
    Except RepositoryError (DeviceStore Cert) :=
  .ok ((store.upsertItem now certificateKey certificate.privateKey).upsertItem now
    saltKey (.plain certificate.salt))

def getCertificate (certificateKey saltKey : String) (store : DeviceStore Cert) :
    Except RepositoryError (Certificate Cert) :=
  match store.item? certificateKey, store.item? saltKey with
  | some privateKey, some (.plain salt) => .ok { privateKey, publicKey := "", salt }
  | _, _ => .error .notFound

def isSignedUp (store : DeviceStore Cert) : Except RepositoryError Bool :=
  .ok (store.items.any fun item => item.key = "primary_key")

def getDeviceKey (store : DeviceStore Cert) : Except RepositoryError String :=
  match store.item? "device_id" with
  | some (.plain deviceId) => .ok deviceId
  | _ => .error .notFound

end StoreRepo

def UserRepo.commitSignupTransaction {Cert : Type} (now : Int) (user : User)
    (primaryCertificate : Certificate Cert) (device : Device)
    (deviceCertificate : Certificate Cert) (peerDevice : Option Device)
    (ucanCertificate : Certificate Cert) (store : DeviceStore Cert) :
    Except RepositoryError (DeviceStore Cert) :=
  Except.mapError (.databaseError ("Failed to commit signup transaction for user '" ++
      user.id ++ "' device '" ++ device.id ++ "'")) do
    let store ← store.onTables (Table.users.insert .abort user)
    let store ← store.insertItem now "primary_key" primaryCertificate.privateKey
    let store ← store.insertItem now "primary_key_salt" (.plain primaryCertificate.salt)
    let store ← store.insertItem now "device_key" deviceCertificate.privateKey
    let store ← store.insertItem now "device_key_salt" (.plain deviceCertificate.salt)
    let store ← store.insertItem now "device_id" (.plain device.id)
    let store ← store.insertItem now "ucan_key" ucanCertificate.privateKey
    -- The item as the network layer reads it.
    let store := { store with
      ctx := { store.ctx with ucanKey := ucanCertificate.privateKey.pgp? } }
    let store ← store.onTables (Table.devices.insert .abort device)
    match peerDevice with
    | some peerDevice => store.onTables (Table.devices.insert .abort peerDevice)
    | none => .ok store

structure UserRepo.Committed {Cert : Type} (user : User)
    (primaryCertificate : Certificate Cert) (device : Device)
    (peerDevice : Option Device) (ucanCertificate : Certificate Cert)
    (store store' : DeviceStore Cert) : Prop where
  wasFree : store.item? "primary_key" = none
  privateKey : store'.item? "primary_key" = some primaryCertificate.privateKey
  salt : store'.item? "primary_key_salt" = some (.plain primaryCertificate.salt)
  deviceId : store'.item? "device_id" = some (.plain device.id)
  newUser : ∀ other ∈ store.ctx.users, other.id ≠ user.id
  newDevice : ∀ other ∈ store.ctx.devices, other.id ≠ device.id
  tables : store'.ctx = { store.ctx with
    users := store.ctx.users ++ [user]
    devices := store.ctx.devices ++ device :: peerDevice.toList
    ucanKey := ucanCertificate.privateKey.pgp? }

theorem UserRepo.commitSignupTransaction_eq_ok {Cert : Type} {now : Int} {user : User}
    {primaryCertificate : Certificate Cert} {device : Device}
    {deviceCertificate : Certificate Cert} {peerDevice : Option Device}
    {ucanCertificate : Certificate Cert} {store store' : DeviceStore Cert}
    (hcommit : UserRepo.commitSignupTransaction now user primaryCertificate device
      deviceCertificate peerDevice ucanCertificate store = .ok store') :
    UserRepo.Committed user primaryCertificate device peerDevice ucanCertificate store
      store' := by
  simp only [commitSignupTransaction, mapError_eq_ok, bind_eq_ok,
    DeviceStore.onTables_eq_ok] at hcommit
  obtain ⟨_, ⟨ctx, husers, rfl⟩, afterKey, hkey, afterSalt, hsalt, afterDevice, hdevice,
    afterDeviceSalt, hdeviceSalt, afterId, hid, afterUcan, hucan, _, ⟨ctx', hdevices, rfl⟩,
    hpeer⟩ := hcommit
  obtain ⟨hfree, hctx, hkeyItems⟩ := DeviceStore.insertItem_eq_ok hkey
  obtain ⟨_, hctxSalt, hsaltItems⟩ := DeviceStore.insertItem_eq_ok hsalt
  obtain ⟨_, hctxDevice, hdeviceItems⟩ := DeviceStore.insertItem_eq_ok hdevice
  obtain ⟨_, hctxDeviceSalt, hdeviceSaltItems⟩ := DeviceStore.insertItem_eq_ok hdeviceSalt
  obtain ⟨_, hctxId, hidItems⟩ := DeviceStore.insertItem_eq_ok hid
  obtain ⟨_, hctxUcan, hucanItems⟩ := DeviceStore.insertItem_eq_ok hucan
  obtain ⟨hnewUser, rfl⟩ := Table.insert_abort_eq_ok husers
  obtain ⟨hnewDevice, hctx'⟩ := Table.insert_abort_eq_ok hdevices
  rw [hctxUcan, hctxId, hctxDeviceSalt, hctxDevice, hctxSalt, hctx] at hnewDevice hctx'
  obtain ⟨hitems, htables⟩ : store'.item? = afterUcan.item? ∧
      store'.ctx = { ctx' with devices := ctx'.devices ++ peerDevice.toList } := by
    cases peerDevice with
    | none =>
        cases hpeer
        exact ⟨rfl, by simp⟩
    | some peer =>
        obtain ⟨ctx'', hpeerDevice, rfl⟩ := DeviceStore.onTables_eq_ok.mp hpeer
        exact ⟨rfl, (Table.insert_abort_eq_ok hpeerDevice).2⟩
  refine ⟨hfree, ?_, ?_, ?_, hnewUser, hnewDevice, ?_⟩
  · simp [hitems, hucanItems, hidItems, hdeviceSaltItems, hdeviceItems, hsaltItems, hkeyItems]
  · simp [hitems, hucanItems, hidItems, hdeviceSaltItems, hdeviceItems, hsaltItems]
  · simp [hitems, hucanItems, hidItems]
  · rw [htables, hctx']
    simp [Table.devices, Table.users]

end Osvauld.Persistance
