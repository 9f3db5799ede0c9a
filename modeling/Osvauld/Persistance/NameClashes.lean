import Osvauld.Data.Lists
import Osvauld.Persistance.Contacts

namespace Osvauld.Persistance

open Osvauld.Core Data Data.KeyedInserts

/-! Adding many users at once, of whom some may have chosen the same name. One that cannot be
added keeps all the others out. -/

section Batch

variable (ctx : RepositoryContext)

def NameFree (before : List UserWithDevices) (user : User) : Prop :=
  userExists ctx user.id = false →
    (∀ known ∈ ctx.users, known.username ≠ user.username) ∧
    ∀ earlier ∈ before, userExists ctx earlier.user.id = false →
      earlier.user.username ≠ user.username

def DevicesOwned (before : List UserWithDevices) (entry : UserWithDevices) : Prop :=
  ∀ device ∈ entry.devices, deviceExists ctx device.id = false →
    userExists ctx device.userId = true ∨
      ∃ earlier ∈ before ++ [entry], earlier.user.id = device.userId

structure AddableInTurn (payload : List UserWithDevices) : Prop where
  names : ∀ before entry after, payload = before ++ entry :: after →
    NameFree ctx before entry.user
  devices : ∀ before entry after, payload = before ++ entry :: after →
    DevicesOwned ctx before entry

structure DistinctPayload (payload : List UserWithDevices) : Prop where
  users : (payload.map fun entry => entry.user.id).Nodup
  devices : WellKeptDevices (payload.flatMap fun entry => entry.devices)
  keys : ∀ device ∈ payload.flatMap fun entry => entry.devices, ∀ stored ∈ ctx.devices,
    stored.deviceKey = device.deviceKey → stored.id = device.id

def StoresUser (user : User) : Prop :=
  ∃ row ∈ ctx.users, row.id = user.id ∧ UserRepo.overwriteKnown row user = row

def StoresAll (payload : List UserWithDevices) : Prop :=
  ∀ entry ∈ payload, StoresUser ctx entry.user ∧
    ∀ device ∈ entry.devices, deviceExists ctx device.id = true

def AddsBatch (payload : List UserWithDevices) : Prop :=
  ∃ after, UserRepo.addUsersWithDevicesBulk payload ctx = .ok after ∧ StoresAll after payload

end Batch

def addOne (ctx : RepositoryContext) (entry : UserWithDevices) :
    Except Violation RepositoryContext := do
  let ctx ← UserRepo.upsertUser entry.user ctx
  Table.devices.insertAll .doNothing entry.devices ctx

def withUser (user : User) (ctx : RepositoryContext) : List User :=
  if userExists ctx user.id then
    ctx.users.map fun known =>
      if known.id = user.id then UserRepo.overwriteKnown known user else known
  else ctx.users ++ [user]

def withEntry (entry : UserWithDevices) (ctx : RepositoryContext) : RepositoryContext :=
  { ctx with
    users := withUser entry.user ctx
    devices := extend Device.id entry.devices ctx.devices }

section Entry

variable {ctx ctx' : RepositoryContext} {entry : UserWithDevices}

theorem upsertUser_eq_ok_iff {user : User} :
    UserRepo.upsertUser user ctx = .ok ctx' ↔
      NameFree ctx [] user ∧ ctx' = { ctx with users := withUser user ctx } := by
  unfold UserRepo.upsertUser withUser
  by_cases hexists : userExists ctx user.id = true
  · rw [if_pos hexists, if_pos hexists, Except.ok.injEq, @eq_comm _ _ ctx']
    have hfree : NameFree ctx [] user := fun hnew => absurd (hexists.symm.trans hnew) (by simp)
    simp [hfree]
  · have hunknown : userExists ctx user.id = false := by simpa using hexists
    rw [if_neg hexists, if_neg hexists]
    have hid : ¬((Table.users.rows ctx).any fun other =>
        Table.users.id other = Table.users.id user) = true := hexists
    have hclash : ((Table.users.rows ctx).any fun other => Table.users.clash other user) =
        true ↔ ¬ NameFree ctx [] user := by
      simp [NameFree, hunknown, Table.users]
    have hreferenced : Table.users.referenced ctx user = true := rfl
    unfold Table.insert
    rw [if_neg hid]
    by_cases hname : NameFree ctx [] user
    · rw [if_neg (by rw [hclash]; simpa using hname), if_pos hreferenced, Except.ok.injEq,
        @eq_comm _ _ ctx']
      simp [hname, Table.users]
    · rw [if_pos (hclash.mpr hname)]
      simp [hname]

theorem userExists_withEntry {id : String} :
    userExists (withEntry entry ctx) id = true ↔
      userExists ctx id = true ∨ entry.user.id = id := by
  simp only [userExists, List.any_eq_true, decide_eq_true_eq, withEntry, withUser]
  split
  · next hexists =>
      constructor
      · rintro ⟨row, hrow, rfl⟩
        obtain ⟨known, hknown, rfl⟩ := List.mem_map.mp hrow
        refine .inl ⟨known, hknown, ?_⟩
        split
        · rfl
        · rfl
      · rintro (⟨known, hknown, rfl⟩ | rfl)
        · refine ⟨_, List.mem_map_of_mem hknown, ?_⟩
          split
          · rfl
          · rfl
        · obtain ⟨known, hknown, hid⟩ := hexists
          refine ⟨_, List.mem_map_of_mem hknown, ?_⟩
          rw [if_pos hid]
          exact hid
  · simp [or_and_right, exists_or]

theorem deviceExists_withEntry {id : String} :
    deviceExists (withEntry entry ctx) id = true ↔
      deviceExists ctx id = true ∨ id ∈ entry.devices.map Device.id := by
  have hmem : ∀ devices : List Device, (devices.any fun device => device.id = id) = true ↔
      id ∈ devices.map Device.id := by
    intro devices
    simp
  rw [deviceExists, deviceExists, hmem, hmem]
  exact mem_ids_extend

theorem names_withEntry {name : String} :
    (∃ known ∈ (withEntry entry ctx).users, known.username = name) ↔
      (∃ known ∈ ctx.users, known.username = name) ∨
        userExists ctx entry.user.id = false ∧ entry.user.username = name := by
  simp only [withEntry, withUser]
  split
  · next hexists =>
      simp only [hexists, Bool.true_eq_false, false_and, or_false, List.mem_map]
      constructor
      · rintro ⟨_, ⟨known, hknown, rfl⟩, rfl⟩
        refine ⟨known, hknown, ?_⟩
        split
        · rfl
        · rfl
      · rintro ⟨known, hknown, rfl⟩
        refine ⟨_, ⟨known, hknown, rfl⟩, ?_⟩
        split
        · rfl
        · rfl
  · next hexists => simp [hexists, or_and_right, exists_or]

theorem addOne_eq_ok_iff (hdevices : WellKeptDevices entry.devices)
    (hkeys : ∀ device ∈ entry.devices, ∀ stored ∈ ctx.devices,
      stored.deviceKey = device.deviceKey → stored.id = device.id) :
    addOne ctx entry = .ok ctx' ↔
      NameFree ctx [] entry.user ∧ DevicesOwned ctx [] entry ∧ ctx' = withEntry entry ctx := by
  have hinsert : Table.devices.insertAll .doNothing entry.devices
      { ctx with users := withUser entry.user ctx } = .ok ctx' ↔
        DevicesOwned ctx [] entry ∧ ctx' = withEntry entry ctx := by
    rw [devices_keyed.insertAll_eq_ok_iff hdevices]
    apply and_congr_left'
    apply forall₂_congr
    intro device hdevice
    have hheld : device.id ∈ ctx.devices.map Device.id ↔ deviceExists ctx device.id = true := by
      simp [deviceExists]
    have hexists := @userExists_withEntry ctx entry device.userId
    constructor
    · intro haccepts hfree
      obtain ⟨-, howner⟩ := haccepts fun hmem => by
        rw [hheld.mp hmem] at hfree
        cases hfree
      simpa using hexists.mp howner
    · intro howned hfree
      refine ⟨fun hkey => ?_, hexists.mpr ?_⟩
      · obtain ⟨stored, hstored, hsame⟩ := List.mem_map.mp hkey
        have hid := hkeys device hdevice stored hstored hsame
        exact hfree (List.mem_map.mpr ⟨stored, hstored, hid⟩)
      · have hnew : deviceExists ctx device.id = false := by
          rw [← Bool.not_eq_true, ← hheld]
          exact hfree
        simpa using howned hnew
  rw [addOne, bind_eq_ok]
  simp only [upsertUser_eq_ok_iff, and_assoc, exists_and_left, exists_eq_left, hinsert]

end Entry

section Payload

variable {ctx ctx' : RepositoryContext} {entry : UserWithDevices}
  {payload : List UserWithDevices}

theorem addUsersWithDevicesBulk_eq_ok_iff :
    UserRepo.addUsersWithDevicesBulk payload ctx = .ok ctx' ↔
      payload.foldlM addOne ctx = .ok ctx' :=
  reportAs_eq_ok

theorem userExists_withEntry_of_ne {id : String} (hid : entry.user.id ≠ id) :
    userExists (withEntry entry ctx) id = userExists ctx id := by
  rw [Bool.eq_iff_iff, userExists_withEntry]
  exact or_iff_left hid

theorem DistinctPayload.tail (hdistinct : DistinctPayload ctx (entry :: payload)) :
    DistinctPayload (withEntry entry ctx) payload where
  users := (List.nodup_cons.mp hdistinct.users).2
  devices := by
    have hdevices := hdistinct.devices
    rw [List.flatMap_cons] at hdevices
    exact hdevices.sublist (List.sublist_append_right _ _)
  keys device hdevice stored hstored hsame := by
    rcases mem_extend.mp hstored with hstored | ⟨hadded, -⟩
    · exact hdistinct.keys device (List.mem_append_right _ hdevice) stored hstored hsame
    · have heq := hdistinct.devices.eq_of_key (List.mem_append_left _ hadded)
        (List.mem_append_right _ hdevice) hsame
      rw [heq]

theorem DistinctPayload.head (hdistinct : DistinctPayload ctx (entry :: payload)) :
    addOne ctx entry = .ok ctx' ↔
      NameFree ctx [] entry.user ∧ DevicesOwned ctx [] entry ∧ ctx' = withEntry entry ctx := by
  apply addOne_eq_ok_iff
  · have hdevices := hdistinct.devices
    rw [List.flatMap_cons] at hdevices
    exact hdevices.sublist (List.sublist_append_left _ _)
  · exact fun device hdevice => hdistinct.keys device (List.mem_append_left _ hdevice)

theorem nameFree_withEntry {before : List UserWithDevices} {user : User}
    (huser : entry.user.id ≠ user.id)
    (hbefore : ∀ earlier ∈ before, entry.user.id ≠ earlier.user.id) :
    NameFree (withEntry entry ctx) before user ↔ NameFree ctx (entry :: before) user := by
  have hnames := @names_withEntry ctx entry user.username
  have hstored : (∀ known ∈ (withEntry entry ctx).users, known.username ≠ user.username) ↔
      (∀ known ∈ ctx.users, known.username ≠ user.username) ∧
        (userExists ctx entry.user.id = false → entry.user.username ≠ user.username) := by
    constructor
    · intro hfree
      refine ⟨fun known hknown hsame => ?_, fun hnew hsame => ?_⟩
      · obtain ⟨row, hrow, hname⟩ := hnames.mpr (.inl ⟨known, hknown, hsame⟩)
        exact hfree row hrow hname
      · obtain ⟨row, hrow, hname⟩ := hnames.mpr (.inr ⟨hnew, hsame⟩)
        exact hfree row hrow hname
    · rintro ⟨hfree, hown⟩ row hrow hname
      rcases hnames.mp ⟨row, hrow, hname⟩ with ⟨known, hknown, hsame⟩ | ⟨hnew, hsame⟩
      · exact hfree known hknown hsame
      · exact hown hnew hsame
  have hothers : (∀ earlier ∈ before,
      userExists (withEntry entry ctx) earlier.user.id = false →
        earlier.user.username ≠ user.username) ↔
      ∀ earlier ∈ before, userExists ctx earlier.user.id = false →
        earlier.user.username ≠ user.username := by
    apply forall₂_congr
    intro earlier hearlier
    rw [userExists_withEntry_of_ne (hbefore earlier hearlier)]
  rw [NameFree, NameFree, userExists_withEntry_of_ne huser, hstored, hothers,
    List.forall_mem_cons, and_assoc]

theorem devicesOwned_withEntry {before : List UserWithDevices} {other : UserWithDevices}
    (hdevices : ∀ device ∈ other.devices, device.id ∉ entry.devices.map Device.id) :
    DevicesOwned (withEntry entry ctx) before other ↔
      DevicesOwned ctx (entry :: before) other := by
  apply forall₂_congr
  intro device hdevice
  have hstored : deviceExists (withEntry entry ctx) device.id =
      deviceExists ctx device.id := by
    rw [Bool.eq_iff_iff, deviceExists_withEntry]
    exact or_iff_left (hdevices device hdevice)
  rw [hstored, userExists_withEntry, List.cons_append, List.exists_mem_cons_iff, or_assoc]

theorem addableInTurn_cons_iff (hdistinct : DistinctPayload ctx (entry :: payload)) :
    AddableInTurn ctx (entry :: payload) ↔
      (NameFree ctx [] entry.user ∧ DevicesOwned ctx [] entry) ∧
        AddableInTurn (withEntry entry ctx) payload := by
  have hids : ∀ other ∈ payload, entry.user.id ≠ other.user.id := by
    intro other hother hsame
    apply (List.nodup_cons.mp hdistinct.users).1
    exact List.mem_map.mpr ⟨other, hother, hsame.symm⟩
  have hdevices : ∀ other ∈ payload, ∀ device ∈ other.devices,
      device.id ∉ entry.devices.map Device.id := by
    intro other hother device hdevice hheld
    have hnodup := hdistinct.devices.ids
    rw [List.flatMap_cons, List.map_append] at hnodup
    apply List.disjoint_of_nodup_append hnodup hheld
    exact List.mem_map_of_mem (List.mem_flatMap.mpr ⟨other, hother, hdevice⟩)
  have hnames : (∀ before other after, payload = before ++ other :: after →
        NameFree ctx (entry :: before) other.user) ↔
      ∀ before other after, payload = before ++ other :: after →
        NameFree (withEntry entry ctx) before other.user := by
    refine forall₃_congr fun before other after => forall_congr' fun heq => ?_
    subst heq
    exact (nameFree_withEntry (hids other (by simp))
      fun earlier hearlier => hids earlier (by simp [hearlier])).symm
  have howned : (∀ before other after, payload = before ++ other :: after →
        DevicesOwned ctx (entry :: before) other) ↔
      ∀ before other after, payload = before ++ other :: after →
        DevicesOwned (withEntry entry ctx) before other := by
    refine forall₃_congr fun before other after => forall_congr' fun heq => ?_
    subst heq
    exact (devicesOwned_withEntry (hdevices other (by simp))).symm
  constructor
  · rintro ⟨hname, hdevice⟩
    rw [@forall_splits_cons _ fun before entry => NameFree ctx before entry.user] at hname
    rw [@forall_splits_cons _ (DevicesOwned ctx)] at hdevice
    exact ⟨⟨hname.1, hdevice.1⟩, hnames.mp hname.2, howned.mp hdevice.2⟩
  · rintro ⟨⟨hname, hdevice⟩, hrest⟩
    constructor
    · exact (@forall_splits_cons _ (fun before entry => NameFree ctx before entry.user) _ _).mpr
        ⟨hname, hnames.mpr hrest.names⟩
    · exact forall_splits_cons.mpr ⟨hdevice, howned.mpr hrest.devices⟩

theorem foldlM_addOne_iff (hdistinct : DistinctPayload ctx payload) :
    (∃ after, payload.foldlM addOne ctx = .ok after) ↔ AddableInTurn ctx payload := by
  induction payload generalizing ctx with
  | nil =>
      refine iff_of_true ⟨ctx, rfl⟩ ⟨?_, ?_⟩
      · simp
      · simp
  | cons entry payload ih =>
      simp only [List.foldlM_cons, bind_eq_ok, hdistinct.head, and_assoc]
      rw [addableInTurn_cons_iff hdistinct, ← ih hdistinct.tail]
      constructor
      · rintro ⟨after, middle, hname, hdevices, rfl, hrest⟩
        exact ⟨⟨hname, hdevices⟩, after, hrest⟩
      · rintro ⟨⟨hname, hdevices⟩, after, hrest⟩
        exact ⟨after, _, hname, hdevices, rfl, hrest⟩

theorem storesUser_withEntry : StoresUser (withEntry entry ctx) entry.user := by
  unfold StoresUser withEntry withUser
  split
  · next hexists =>
      obtain ⟨known, hknown, hid⟩ := List.any_eq_true.mp hexists
      refine ⟨_, List.mem_map_of_mem hknown, ?_⟩
      rw [if_pos (of_decide_eq_true hid)]
      exact ⟨of_decide_eq_true hid, rfl⟩
  · exact ⟨entry.user, by simp, rfl, rfl⟩

theorem StoresUser.withEntry {user : User} (hstored : StoresUser ctx user)
    (hid : entry.user.id ≠ user.id) : StoresUser (withEntry entry ctx) user := by
  obtain ⟨row, hrow, hsame, hcolumns⟩ := hstored
  refine ⟨row, ?_, hsame, hcolumns⟩
  unfold Persistance.withEntry withUser
  split
  · have hother : ¬ row.id = entry.user.id := fun heq => hid (heq.symm.trans hsame)
    exact List.mem_map.mpr ⟨row, hrow, if_neg hother⟩
  · exact List.mem_append_left _ hrow

theorem stays_of_foldlM (hdistinct : DistinctPayload ctx payload)
    (hadd : payload.foldlM addOne ctx = .ok ctx') :
    (∀ user, (∀ entry ∈ payload, entry.user.id ≠ user.id) → StoresUser ctx user →
      StoresUser ctx' user) ∧
    ∀ id, deviceExists ctx id = true → deviceExists ctx' id = true := by
  induction payload generalizing ctx with
  | nil =>
      cases hadd
      exact ⟨fun _ _ hstored => hstored, fun _ hstored => hstored⟩
  | cons entry payload ih =>
      rw [List.foldlM_cons, bind_eq_ok] at hadd
      obtain ⟨middle, hentry, hrest⟩ := hadd
      obtain ⟨-, -, rfl⟩ := hdistinct.head.mp hentry
      obtain ⟨husers, hdevices⟩ := ih hdistinct.tail hrest
      constructor
      · intro user hids hstored
        apply husers user fun other hother => hids other (List.mem_cons_of_mem _ hother)
        exact hstored.withEntry (hids entry List.mem_cons_self)
      · exact fun id hstored => hdevices id (deviceExists_withEntry.mpr (.inl hstored))

theorem storesAll_of_foldlM (hdistinct : DistinctPayload ctx payload)
    (hadd : payload.foldlM addOne ctx = .ok ctx') : StoresAll ctx' payload := by
  induction payload generalizing ctx with
  | nil => intro entry hentry; cases hentry
  | cons entry payload ih =>
      rw [List.foldlM_cons, bind_eq_ok] at hadd
      obtain ⟨middle, hentry, hrest⟩ := hadd
      obtain ⟨-, -, rfl⟩ := hdistinct.head.mp hentry
      obtain ⟨husers, hdevices⟩ := stays_of_foldlM hdistinct.tail hrest
      intro other hother
      rcases List.mem_cons.mp hother with rfl | hother
      · constructor
        · apply husers _ _ storesUser_withEntry
          intro later hlater hsame
          apply (List.nodup_cons.mp hdistinct.users).1
          exact List.mem_map.mpr ⟨later, hlater, hsame⟩
        · intro device hdevice
          apply hdevices
          exact deviceExists_withEntry.mpr (.inr (List.mem_map_of_mem hdevice))
      · exact ih hdistinct.tail hrest other hother

end Payload

/-- A payload is added exactly when nobody new in it has a name that is taken, and each new
device is of a user who is there. -/
theorem adds_iff (ctx : RepositoryContext) (payload : List UserWithDevices)
    (hdistinct : DistinctPayload ctx payload) :
    AddsBatch ctx payload ↔ AddableInTurn ctx payload := by
  rw [← foldlM_addOne_iff hdistinct]
  constructor
  · rintro ⟨after, hadd, -⟩
    exact ⟨after, addUsersWithDevicesBulk_eq_ok_iff.mp hadd⟩
  · rintro ⟨after, hadd⟩
    exact ⟨after, addUsersWithDevicesBulk_eq_ok_iff.mpr hadd,
      storesAll_of_foldlM hdistinct hadd⟩

namespace TwoSams

def known : RepositoryContext :=
  { users := [{ User.sample "1" with username := "sam" }], devices := [Device.sample "d1" "1"] }

def stranger (username : String) : UserWithDevices :=
  { user := { User.sample "2" with username }, devices := [Device.sample "d2" "2"] }

theorem distinct (username : String) : DistinctPayload known [stranger username] where
  users := by simp
  devices := ⟨by simp [stranger], by simp [stranger]⟩
  keys := by simp [stranger, known, Device.sample]

end TwoSams

open TwoSams in
theorem adds_iff_twoSams : AddsBatch known [stranger "alex"] :=
  (adds_iff known [stranger "alex"] (distinct "alex")).mpr
    ((foldlM_addOne_iff (distinct "alex")).mp ⟨_, rfl⟩)

open TwoSams in
/-- A second user of the name is not added, nor is the device. -/
theorem second_sam_not_added :
    DistinctPayload known [stranger "sam"] ∧
      (UserRepo.addUsersWithDevicesBulk [stranger "sam"] known).toOption.isNone ∧
      (UserRepo.addUsersWithDevicesBulk [stranger "alex"] known).toOption.isSome := by
  refine ⟨distinct "sam", ?_, ?_⟩
  · decide +kernel
  · decide +kernel

end Osvauld.Persistance
