import Osvauld.Network.P2P.Node
import Osvauld.Persistance.Contacts

namespace Osvauld.Network

open Osvauld.Core CryptoUtils Data Persistance Services

/-! What becomes of the stored contacts while the program goes on. -/

def KeepsRow (good : User → Prop) (index : Nat) (ctx ctx' : RepositoryContext) : Prop :=
  Grows ctx ctx' ∧ (RowAt good index ctx → RowAt good index ctx')

section KeepsRow

variable {good : User → Prop} {index : Nat}

instance : IsPreorder RepositoryContext (KeepsRow good index) where
  refl ctx := ⟨.refl ctx, id⟩
  trans _ _ _ hfirst hsecond := ⟨hfirst.1.trans hsecond.1, hsecond.2 ∘ hfirst.2⟩

theorem keepsRow_supplements :
    AdmitsSupplements (fun _ _ => True) (KeepsRow good index) :=
  fun _ _ hsupplements =>
    ⟨hsupplements.toExtends, fun hrow => hrow.of_users_eq hsupplements.users⟩

def Spares (good : User → Prop) (env : NetworkEnv) (message : Message) : Prop :=
  ∀ added, AddsUsers env message added → ∀ received ∈ added, Outlasts good received.user

theorem keepsRow_accommodates {env : NetworkEnv} {message : Message}
    (hspares : Spares good env message) :
    Accommodates (fun _ _ => True) (KeepsRow good index) env message where
  supplements := keepsRow_supplements
  users users _ _ hadds hadd :=
    ⟨Extends.addUsersWithDevicesBulk hadd,
      fun hrow => hrow.addUsersWithDevicesBulk (hspares users hadds) hadd⟩
  grows _ _ hkeeps := hkeeps.1
  carried _ _ _ := trivial
  delegated _ _ _ _ _ _ _ _ := trivial

theorem body_keepsRow {call : NodeCall}
    (hspares : ∀ connection env message, call = .handleMessage connection env message →
      Spares good env message) (since : Node) :
    Program.Respects (MovesNode (KeepsRow good index)) (fun _ _ => True) since
      call.body := by
  have hadmits := @keepsRow_supplements good index
  have hgrows : ∀ ctx ctx', KeepsRow good index ctx ctx' → Grows ctx ctx' :=
    fun _ _ hkeeps => hkeeps.1
  cases call with
  | createResource =>
      exact onStore_moves fun _ => createResource_respects _ hadmits hgrows _ _ _ _ _
        fun _ _ _ => trivial
  | updateResource =>
      exact onStore_moves fun _ => updateResource_respects _ hadmits _ _ _ _
  | shareResource =>
      exact onStore_moves fun _ => shareResource_respects _ hadmits hgrows _ _ _ _
        fun _ _ _ => trivial
  | autoShareResourceWithFolderUsers =>
      exact onStore_moves fun _ => autoShareResourceWithFolderUsers_respects _ hadmits
        hgrows _ _ _ fun _ _ _ _ => trivial
  | shareFolder =>
      exact onStore_moves fun _ => shareFolder_respects _ hadmits hgrows _ _ _ _
        fun _ _ _ _ => trivial
  | initiateHandshake =>
      exact onConnection_moves fun _ => initiateHandshake_moves _ _ _ _
  | startUserNetworkSync =>
      exact onConnection_moves fun _ => startUserNetworkSync_moves _
  | handleMessage connection env message =>
      exact onConnection_moves fun _ => handleMessage_moves
        (keepsRow_accommodates (hspares connection env message rfl))

theorem afterSchedule_rowAt {start : Node} {events : List NodeEvent}
    (hspares : ∀ connection env message,
      .start (.handleMessage connection env message) ∈ events → Spares good env message)
    (hrow : RowAt good index start.repo) :
    RowAt good index (afterSchedule start events).state.repo := by
  have hbody : ∀ call, .start call ∈ events → ∀ since,
      Program.Respects (MovesNode (KeepsRow good index)) (fun _ _ => True) since
        call.body := by
    intro call hcall
    apply body_keepsRow
    rintro connection env message rfl
    exact hspares connection env message hcall
  have hmoves : MovesNode (KeepsRow good index) start
      (afterSchedule start events).state := Pool.respectful_run hbody
  exact hmoves.2 hrow

end KeepsRow

def LetsIn (theirs : NetworkEnv) (contact : User) (ucanPubKey token : String) : Prop :=
  validateConnectToken theirs.libraries.ucan theirs.now token ucanPubKey
    contact.ucanPubKey contact.id theirs.domain = .ok true

structure Established (theirs : NetworkEnv) (contact : User) (ucanPubKey : String)
    (row : User) : Prop where
  id_eq : row.id = contact.id
  firstSync : row.firstSync = true
  token : LetsIn theirs contact ucanPubKey row.ucanToken

/-- What a received user may be: not the contact, unless as one that has been met
and with a token that the contact accepts, and not the owner, unless as it is. -/
structure Sparing (theirs : NetworkEnv) (owner contact received : User) : Prop where
  contact : received.id = contact.id → received.firstSync = true ∧
    LetsIn theirs contact owner.ucanPubKey received.ucanToken
  owner : received.id = owner.id → UserRepo.overwriteKnown owner received = owner

variable {theirs : NetworkEnv} {owner contact received : User}

theorem Sparing.outlasts_contact (hsparing : Sparing theirs owner contact received) :
    Outlasts (Established theirs contact owner.ucanPubKey) received := by
  intro row hrow hid
  obtain ⟨hfirst, htoken⟩ := hsparing.contact (hid.symm.trans hrow.id_eq)
  exact ⟨hrow.id_eq, hfirst, htoken⟩

theorem Sparing.outlasts_owner (hsparing : Sparing theirs owner contact received) :
    Outlasts (· = owner) received := by
  rintro row rfl hid
  exact hsparing.owner hid.symm

theorem sparing_asNewStranger_iff {users : UserWithDevices} :
    Sparing theirs owner contact (asNewStranger users).user ↔
      users.user.id ≠ contact.id ∧
        (users.user.id = owner.id →
          UserRepo.overwriteKnown owner (asNewStranger users).user = owner) := by
  constructor
  · intro hsparing
    refine ⟨fun hid => ?_, hsparing.owner⟩
    cases (hsparing.contact hid).1
  · rintro ⟨hother, howner⟩
    exact ⟨fun hid => absurd hid hother, howner⟩

/-- From the moment a contact is established, however the calls are mixed, it
stays so, and the owner's row stays as it is, when each message that adds users
brings none but such users. -/
theorem contacts_never_downgraded (start : Node) (events : List NodeEvent)
    (theirs : NetworkEnv) (owner contact : User) (ownerAt contactAt : Nat)
    (howner : start.repo.users[ownerAt]? = some owner)
    (hcontact : RowAt (Established theirs contact owner.ucanPubKey) contactAt start.repo)
    (hsparing : ∀ connection env message,
      .start (.handleMessage connection env message) ∈ events →
        ∀ added, AddsUsers env message added → ∀ received ∈ added,
          Sparing theirs owner contact received.user)
    (earlier : List NodeEvent) (hearlier : earlier <+: events) :
    RowAt (Established theirs contact owner.ucanPubKey) contactAt
        (afterSchedule start earlier).state.repo ∧
      (afterSchedule start earlier).state.repo.users[ownerAt]? = some owner := by
  have hbrought := fun connection env message hstart =>
    hsparing connection env message (hearlier.subset hstart)
  constructor
  · apply afterSchedule_rowAt _ hcontact
    intro connection env message hstart added hadds received hreceived
    exact (hbrought connection env message hstart added hadds received
      hreceived).outlasts_contact
  · have hrow : RowAt (· = owner) ownerAt (afterSchedule start earlier).state.repo := by
      refine @afterSchedule_rowAt (· = owner) ownerAt start earlier ?_ ⟨owner, howner, rfl⟩
      intro connection env message hstart added hadds received hreceived
      exact (hbrought connection env message hstart added hadds received
        hreceived).outlasts_owner
    obtain ⟨row, hrow, rfl⟩ := hrow
    exact hrow

def tokenForR : String := "C-lets-R-in"

def establishedEnv : NetworkEnv :=
  .tabled [(tokenForR, { issuer := "did:key:z..C", audience := "did:key:z..R"
                         capabilities := [⟨"livnote:user-connect:C", "use"⟩] })]
    (.sample "C") (.sample "dev-C" "C")

def establishedRow : User :=
  { User.sample "C" with firstSync := true, ucanToken := tokenForR }

def ownRow : User := { User.sample "R" with owner := true }

def befriendedNode : Node :=
  { repo := { ownerStore with users := [ownRow, .sample "P", establishedRow] }
    connections := fun _ => peerConnection }

/-- What `P` tells of a user, with the token that `P` hands on to `R`. -/
def toldByPeer (user : User) : UserNetworkSyncPayload :=
  { users := [{ user := { user with ucanToken := "handed-on-by-P" }, devices := [] }]
    devices := [] }

def toldSync (user : User) : List NodeEvent :=
  .start (.handleMessage 0 ownerEnv (.userNetworkSync (toldByPeer user))) ::
    List.replicate 6 (.advance 0)

theorem establishedRow_established :
    RowAt (Established establishedEnv (.sample "C") ownRow.ucanPubKey) 2
      befriendedNode.repo :=
  ⟨establishedRow, rfl, rfl, rfl, by unfold LetsIn; decide +kernel⟩

/-- `P` tells of a fourth user. -/
theorem contacts_never_downgraded_stranger :
    (RowAt (Established establishedEnv (.sample "C") ownRow.ucanPubKey) 2
        (afterSchedule befriendedNode (toldSync (.sample "D"))).state.repo ∧
      (afterSchedule befriendedNode (toldSync (.sample "D"))).state.repo.users[0]? =
        some ownRow) ∧
      (afterSchedule befriendedNode (toldSync (.sample "D"))).state.repo.users.length =
        4 := by
  refine ⟨contacts_never_downgraded befriendedNode (toldSync (.sample "D")) establishedEnv
    ownRow (.sample "C") 0 2 rfl establishedRow_established ?_ _
    List.prefix_rfl, by decide +kernel⟩
  intro connection env message hstart added hadds received hreceived
  simp only [toldSync, List.mem_cons, List.mem_replicate] at hstart
  rcases hstart with hstart | ⟨_, hstart⟩
  · cases hstart
    cases hadds
    obtain rfl := List.mem_singleton.mp hreceived
    exact sparing_asNewStranger_iff.mpr ⟨by decide, fun hid => absurd hid (by decide)⟩
  · cases hstart

/-- `P` tells of `C`. -/
theorem contact_downgraded :
    RowAt (Established establishedEnv (.sample "C") ownRow.ucanPubKey) 2
        befriendedNode.repo ∧
      ¬ RowAt (Established establishedEnv (.sample "C") ownRow.ucanPubKey) 2
        (afterSchedule befriendedNode (toldSync (.sample "C"))).state.repo := by
  refine ⟨establishedRow_established, ?_⟩
  rintro ⟨row, hrow, hestablished⟩
  have hdowngraded : (afterSchedule befriendedNode
      (toldSync (.sample "C"))).state.repo.users[2]?.map (fun row => row.firstSync) =
        some false := by decide +kernel
  rw [hrow, Option.map_some, hestablished.firstSync] at hdowngraded
  cases hdowngraded

end Osvauld.Network
