import Osvauld.Persistance.KeyedTables
import Osvauld.Persistance.UserRepository

namespace Osvauld.Persistance

open Osvauld.Core Data Data.KeyedInserts

/-! What adding users does to a user that is stored already. -/

def RowAt (good : User → Prop) (index : Nat) (ctx : RepositoryContext) : Prop :=
  ∃ row, ctx.users[index]? = some row ∧ good row

def Outlasts (good : User → Prop) (received : User) : Prop :=
  ∀ row, good row → row.id = received.id → good (UserRepo.overwriteKnown row received)

namespace RowAt

variable {good : User → Prop} {index : Nat} {ctx ctx' : RepositoryContext}

theorem of_users_eq (hrow : RowAt good index ctx) (husers : ctx'.users = ctx.users) :
    RowAt good index ctx' := by
  obtain ⟨row, hindex, hgood⟩ := hrow
  exact ⟨row, by rw [husers]; exact hindex, hgood⟩

theorem upsertUser {received : User} (houtlasts : Outlasts good received)
    (hrow : RowAt good index ctx) (hupsert : UserRepo.upsertUser received ctx = .ok ctx') :
    RowAt good index ctx' := by
  obtain ⟨row, hindex, hgood⟩ := hrow
  unfold UserRepo.upsertUser at hupsert
  split at hupsert
  · cases hupsert
    by_cases hid : row.id = received.id
    · exact ⟨UserRepo.overwriteKnown row received, by simp [hindex, hid],
        houtlasts row hgood hid⟩
    · exact ⟨row, by simp [hindex, hid], hgood⟩
  · rcases Table.insert_eq_ok hupsert with rfl | ⟨_, rfl⟩
    · exact ⟨row, hindex, hgood⟩
    · obtain ⟨hlength, _⟩ := List.getElem?_eq_some_iff.mp hindex
      exact ⟨row, by simpa [Table.users, List.getElem?_append_left hlength] using hindex,
        hgood⟩

theorem insertAll_other {Row : Type} {table : Table Row} {rows : List Row}
    {onConflict : OnConflict}
    (husers : ∀ rows ctx, (table.setRows rows ctx).users = ctx.users)
    (hrow : RowAt good index ctx) (hinsert : table.insertAll onConflict rows ctx = .ok ctx') :
    RowAt good index ctx' :=
  Table.insertAll_induction (RowAt good index)
    (fun _ _ _ _ hstate => hstate.of_users_eq (husers _ _)) hrow hinsert

theorem addUsersWithDevicesBulk {users : List UserWithDevices}
    (houtlasts : ∀ received ∈ users, Outlasts good received.user)
    (hrow : RowAt good index ctx)
    (hadd : UserRepo.addUsersWithDevicesBulk users ctx = .ok ctx') :
    RowAt good index ctx' := by
  refine foldlM_invariant (RowAt good index)
    (fun received hreceived state next hstate hnext => ?_) hrow (reportAs_eq_ok.mp hadd)
  rw [bind_eq_ok] at hnext
  obtain ⟨middle, hupsert, hdevices⟩ := hnext
  have hmiddle := hstate.upsertUser (houtlasts received hreceived) hupsert
  exact hmiddle.insertAll_other (fun _ _ => rfl) hdevices

end RowAt

section Known

variable (certified : String → String → Prop) (known : User)

/-- The row is the known user's, under the key stored for it or under one that
its public key certifies. -/
structure StillOf (row : User) : Prop where
  id_eq : row.id = known.id
  publicKey_eq : row.publicKey = known.publicKey
  ucanPubKey : row.ucanPubKey = known.ucanPubKey ∨
    certified known.publicKey row.ucanPubKey

def AgreesWith (received : User) : Prop :=
  received.id = known.id → received.ucanPubKey = known.ucanPubKey ∨
    certified known.publicKey received.ucanPubKey

def KeptAt (index : Nat) (ctx : RepositoryContext) : Prop :=
  ∃ row, ctx.users[index]? = some row ∧ StillOf certified known row

end Known

variable {certified : String → String → Prop} {known : User} {index : Nat}
variable {ctx ctx' : RepositoryContext}

theorem StillOf.refl (known : User) : StillOf certified known known :=
  ⟨rfl, rfl, .inl rfl⟩

theorem StillOf.overwriteKnown {row received : User}
    (hrow : StillOf certified known row) (hagrees : AgreesWith certified known received)
    (hid : row.id = received.id) :
    StillOf certified known (UserRepo.overwriteKnown row received) :=
  { id_eq := hrow.id_eq
    publicKey_eq := hrow.publicKey_eq
    ucanPubKey := hagrees (hid.symm.trans hrow.id_eq) }

namespace KeptAt

theorem of_getElem? (hknown : ctx.users[index]? = some known) :
    KeptAt certified known index ctx :=
  ⟨known, hknown, .refl known⟩

theorem insertAll_other {Row : Type} {table : Table Row} {rows : List Row}
    {onConflict : OnConflict}
    (husers : ∀ rows ctx, (table.setRows rows ctx).users = ctx.users)
    (hkept : KeptAt certified known index ctx)
    (hinsert : table.insertAll onConflict rows ctx = .ok ctx') :
    KeptAt certified known index ctx' :=
  RowAt.insertAll_other husers hkept hinsert

theorem saveDevices {devices : List Device}
    (hkept : KeptAt certified known index ctx)
    (hsave : DeviceRepo.saveMany devices ctx = .ok ctx') :
    KeptAt certified known index ctx' :=
  hkept.insertAll_other (fun _ _ => rfl) (reportAs_eq_ok.mp hsave)

theorem addUsersWithDevicesBulk {users : List UserWithDevices}
    (hagrees : ∀ received ∈ users, AgreesWith certified known received.user)
    (hkept : KeptAt certified known index ctx)
    (hadd : UserRepo.addUsersWithDevicesBulk users ctx = .ok ctx') :
    KeptAt certified known index ctx' :=
  RowAt.addUsersWithDevicesBulk (fun received hreceived _ hrow hid =>
    hrow.overwriteKnown (hagrees received hreceived) hid) hkept hadd

end KeptAt

theorem devices_keyed : Table.devices.Keyed Device.deviceKey where
  clash _ _ _ := by simp [Table.devices]
  rows_setRows _ _ := rfl
  setRows_rows _ := rfl
  setRows_setRows _ _ _ := rfl
  referenced_setRows _ _ := rfl

abbrev WellKeptDevices (devices : List Device) : Prop :=
  WellKeyed Device.id Device.deviceKey devices

abbrev Admissible (userId : String) (devices stored : List Device) : Prop :=
  Accepts Device.id Device.deviceKey (fun device => device.userId = userId) stored devices

section Add

variable {ctx : RepositoryContext} {user : User} {devices : List Device}
variable (hdevices : WellKeptDevices devices)
variable (hadmissible : Admissible user.id devices ctx.devices)

include hdevices hadmissible

theorem insertDevices_eq_ok {users : List User} (huser : ∃ known ∈ users, known.id = user.id) :
    Table.devices.insertAll .doNothing devices { ctx with users } =
      .ok { ctx with users, devices := extend Device.id devices ctx.devices } := by
  rw [devices_keyed.insertAll_eq_ok_iff hdevices]
  refine ⟨fun device hdevice hfree => ?_, rfl⟩
  obtain ⟨hkey, howner⟩ := hadmissible device hdevice hfree
  obtain ⟨known, hknown, hid⟩ := huser
  refine ⟨hkey, ?_⟩
  simp only [Table.devices, userExists, List.any_eq_true, decide_eq_true_eq]
  exact ⟨known, hknown, hid.trans howner.symm⟩

theorem addUsersWithDevicesBulk_stranger (hid : ∀ known ∈ ctx.users, known.id ≠ user.id)
    (hname : ∀ known ∈ ctx.users, known.username ≠ user.username) :
    UserRepo.addUsersWithDevicesBulk [{ user, devices }] ctx =
      .ok { ctx with
        users := ctx.users ++ [user]
        devices := extend Device.id devices ctx.devices } := by
  have hunknown : ¬userExists ctx user.id = true := by simpa [userExists] using hid
  have hinsert : UserRepo.upsertUser user ctx =
      .ok { ctx with users := ctx.users ++ [user] } := by
    have hfree : ¬(ctx.users.any fun known => known.id = user.id) = true := hunknown
    have hnew : ¬(ctx.users.any fun known => known.username = user.username) = true := by
      simpa using hname
    unfold UserRepo.upsertUser
    rw [if_neg hunknown]
    exact (if_neg hfree).trans ((if_neg hnew).trans (if_pos rfl))
  rw [UserRepo.addUsersWithDevicesBulk, reportAs_eq_ok]
  simp only [List.foldlM_cons, List.foldlM_nil, bind_pure, bind_eq_ok]
  exact ⟨_, hinsert, insertDevices_eq_ok hdevices hadmissible ⟨user, by simp, rfl⟩⟩

theorem addUsersWithDevicesBulk_known (hknown : ∃ known ∈ ctx.users, known.id = user.id) :
    UserRepo.addUsersWithDevicesBulk [{ user, devices }] ctx =
      .ok { ctx with
        users := ctx.users.map fun known =>
          if known.id = user.id then UserRepo.overwriteKnown known user else known
        devices := extend Device.id devices ctx.devices } := by
  have hexists : userExists ctx user.id = true := by simpa [userExists] using hknown
  rw [UserRepo.addUsersWithDevicesBulk, reportAs_eq_ok]
  simp only [List.foldlM_cons, List.foldlM_nil, bind_pure, bind_eq_ok]
  obtain ⟨known, hmem, hid⟩ := hknown
  refine ⟨_, if_pos hexists, insertDevices_eq_ok hdevices hadmissible
    ⟨UserRepo.overwriteKnown known user, List.mem_map.mpr ⟨known, hmem, ?_⟩, hid⟩⟩
  rw [if_pos hid]

end Add

structure DeviceOf (deviceId userId : String) (devices : List Device) : Prop where
  stored : ∃ device ∈ devices, device.id = deviceId
  owner : ∀ device ∈ devices, device.id = deviceId → device.userId = userId

variable {deviceId userId : String}

theorem DeviceOf.getUserByDeviceId {ctx : RepositoryContext} {user : User}
    (hdevice : DeviceOf deviceId userId ctx.devices)
    (huser : UserRepo.getUserById userId ctx = .ok user) :
    UserRepo.getUserByDeviceId deviceId ctx = .ok user := by
  unfold UserRepo.getUserByDeviceId
  cases hfind : ctx.devices.find? fun device => device.id = deviceId with
  | none =>
      obtain ⟨device, hmem, hid⟩ := hdevice.stored
      exact absurd (List.find?_eq_none.mp hfind device hmem) (by simp [hid])
  | some device =>
      have howner := hdevice.owner device (List.mem_of_find?_eq_some hfind)
        (by simpa using List.find?_some hfind)
      simp only [howner]
      exact huser

theorem DeviceOf.extend {devices stored : List Device} (hdevice : DeviceOf deviceId userId stored) :
    DeviceOf deviceId userId (extend Device.id devices stored) := by
  obtain ⟨known, hknown, hid⟩ := hdevice.stored
  refine ⟨⟨known, mem_extend.mpr (.inl hknown), hid⟩, fun device hmem heq => ?_⟩
  rcases mem_extend.mp hmem with hold | ⟨_, hfree⟩
  · exact hdevice.owner device hold heq
  · exact absurd (List.mem_map.mpr ⟨known, hknown, hid.trans heq.symm⟩) hfree

theorem DeviceOf.of_extend {devices stored : List Device}
    (hdevice : DeviceOf deviceId userId devices) (hfree : ∀ device ∈ stored, device.id ≠ deviceId) :
    DeviceOf deviceId userId (KeyedInserts.extend Device.id devices stored) := by
  obtain ⟨added, hadded, hid⟩ := hdevice.stored
  refine ⟨⟨added, mem_extend.mpr (.inr ⟨hadded, ?_⟩), hid⟩, fun device hmem heq => ?_⟩
  · rw [hid]
    simpa using hfree
  · rcases mem_extend.mp hmem with hold | ⟨hnew, _⟩
    · exact absurd heq (hfree device hold)
    · exact hdevice.owner device hnew heq

theorem getUserById_append {ctx ctx' : RepositoryContext} {user : User}
    (husers : ctx'.users = ctx.users ++ [user])
    (hid : ∀ known ∈ ctx.users, known.id ≠ user.id) :
    UserRepo.getUserById user.id ctx' = .ok user := by
  have hnone : ctx.users.find? (fun known => known.id = user.id) = none := by
    simpa using hid
  simp [UserRepo.getUserById, husers, List.find?_append, hnone, firstOrNotFound]

theorem getUserById_overwritten {ctx ctx' : RepositoryContext} {known received : User}
    (husers : ctx'.users = ctx.users.map fun row =>
      if row.id = received.id then UserRepo.overwriteKnown row received else row)
    (hknown : UserRepo.getUserById received.id ctx = .ok known) :
    UserRepo.getUserById received.id ctx' =
      .ok (UserRepo.overwriteKnown known received) := by
  obtain ⟨_, hid⟩ := find_eq_ok hknown
  have hids : ((fun row : User => decide (row.id = received.id)) ∘ fun row =>
      if row.id = received.id then UserRepo.overwriteKnown row received else row) =
        fun row => decide (row.id = received.id) := by
    funext row
    by_cases hrow : row.id = received.id <;> simp [hrow, UserRepo.overwriteKnown]
  unfold UserRepo.getUserById at hknown ⊢
  rw [husers, List.find?_map, hids]
  cases hfind : ctx.users.find? fun row => row.id = received.id with
  | none => simp [hfind, firstOrNotFound] at hknown
  | some row =>
      rw [hfind] at hknown
      cases hknown
      simp [firstOrNotFound, of_decide_eq_true hid]

theorem devicesOf_wellKept {ctx : RepositoryContext} (hkept : WellKeptDevices ctx.devices)
    (userId : String) : WellKeptDevices (UserRepo.devicesOf ctx userId) :=
  hkept.sublist List.filter_sublist

theorem devicesOf_extend {ctx ctx' : RepositoryContext} {added : List Device}
    (hdevices : ctx'.devices = extend Device.id added ctx.devices)
    (hothers : ∀ device ∈ added, device.userId ≠ userId) :
    UserRepo.devicesOf ctx' userId = UserRepo.devicesOf ctx userId := by
  have hnone : (added.filter fun device => device.id ∉ ctx.devices.map Device.id).filter
      (fun device => device.userId = userId) = [] := by
    simp only [List.filter_eq_nil_iff, List.mem_filter, decide_eq_true_eq]
    exact fun device hdevice => hothers device hdevice.1
  rw [UserRepo.devicesOf, hdevices, extend, List.filter_append, hnone, List.append_nil]
  rfl

end Osvauld.Persistance
