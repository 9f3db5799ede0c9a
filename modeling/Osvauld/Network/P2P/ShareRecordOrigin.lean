import Osvauld.Network.P2P.Node
import Osvauld.Services.ShareToken

namespace Osvauld.Network

open Osvauld.Core CryptoUtils Data Persistance Services

/-! Where the stored share records come from. -/

/-- The rights that a call may hand to a recipient: those it is given, or those
of an automatic share. -/
inductive HandsOn : NodeCall → String → String → List (String × String) →
    User → Prop
  | shareResource : HandsOn
      (.shareResource env recipientUserId resourceId permissions currentUser)
      recipientUserId resourceId permissions currentUser
  | autoShare : HandsOn
      (.autoShareResourceWithFolderUsers env resourceId folderId currentUser)
      recipientUserId resourceId (autoSharePermissions env resourceId) currentUser
  | shareFolder : HandsOn
      (.shareFolder env folderId recipientUserId folderPermissions currentUser)
      recipientUserId resourceId (autoSharePermissions env resourceId) currentUser
  | folderRecipients : HandsOn
      (.handleMessage connection env
        (.folderSync (.folderRecipientSyncPayload payload)))
      recipientUserId resourceId (autoSharePermissions env.toServiceEnv resourceId)
      currentUser

structure RoomForCall (share : RepositoryContext → ShareRecord → Prop)
    (reach : RepositoryContext → RepositoryContext → Prop) (call : NodeCall) : Prop where
  admits : Admits share reach
  grows : ∀ ctx ctx', reach ctx ctx' → Grows ctx ctx'
  own : ∀ {env resourcePayload resourceType folderId user currentDeviceId},
    call = .createResource env resourcePayload resourceType folderId user
        currentDeviceId →
      ∀ record ctx, MadeByOwner env user record ctx → share ctx record
  handed : ∀ {recipientUserId resourceId permissions currentUser},
    HandsOn call recipientUserId resourceId permissions currentUser →
      ∀ record ctx, MadeByDelegation call.env recipientUserId resourceId permissions
        currentUser record ctx → share ctx record
  carried : ∀ {connection env message}, call = .handleMessage connection env message →
    ∀ ctx, ∀ record ∈ carriedShareRecords message, share ctx record

theorem RoomForCall.body_moves {share : RepositoryContext → ShareRecord → Prop}
    {reach : RepositoryContext → RepositoryContext → Prop}
    [IsPreorder RepositoryContext reach] {call : NodeCall}
    (hroom : RoomForCall share reach call) (since : Node) :
    Program.Respects (MovesNode reach) (fun _ _ => True) since call.body := by
  have hadmits := hroom.admits.supplements
  have hgrows := hroom.grows
  cases call with
  | createResource =>
      exact onStore_moves fun _ => createResource_respects _ hadmits hgrows _ _ _ _ _
        (hroom.own rfl)
  | updateResource =>
      exact onStore_moves fun _ => updateResource_respects _ hadmits _ _ _ _
  | shareResource =>
      exact onStore_moves fun _ => shareResource_respects _ hadmits hgrows _ _ _ _
        (hroom.handed .shareResource)
  | autoShareResourceWithFolderUsers =>
      exact onStore_moves fun _ => autoShareResourceWithFolderUsers_respects _ hadmits
        hgrows _ _ _ fun _ => hroom.handed .autoShare
  | shareFolder =>
      exact onStore_moves fun _ => shareFolder_respects _ hadmits hgrows _ _ _ _
        fun _ => hroom.handed .shareFolder
  | initiateHandshake =>
      exact onConnection_moves fun _ => initiateHandshake_moves _ _ _ _
  | startUserNetworkSync =>
      exact onConnection_moves fun _ => startUserNetworkSync_moves _
  | handleMessage connection env message =>
      have hmessage : RoomFor share reach env message :=
        { admits := hroom.admits
          grows := hgrows
          carried := hroom.carried rfl
          delegated := by
            rintro payload rfl _ _ _ record ctx hmade
            exact hroom.handed .folderRecipients record ctx hmade }
      exact onConnection_moves fun _ => handleMessage_moves hmessage.accommodates

inductive Origin (begun : NodeCall → Prop) (record : ShareRecord)
    (ctx : RepositoryContext) : Prop
  | received : begun (.handleMessage connection env message) →
      record ∈ carriedShareRecords message → Origin begun record ctx
  | created : begun (.createResource env resourcePayload resourceType folderId user
        currentDeviceId) →
      MadeByOwner env user record ctx → Origin begun record ctx
  | handedOn : begun call →
      HandsOn call recipientUserId resourceId permissions currentUser →
      MadeByDelegation call.env recipientUserId resourceId permissions currentUser
        record ctx → Origin begun record ctx

inductive Accounted (begun : NodeCall → Prop) (record : ShareRecord)
    (ctx : RepositoryContext) : Prop
  | received : begun (.handleMessage connection env message) →
      record ∈ carriedShareRecords message → Accounted begun record ctx
  | created : begun (.createResource env resourcePayload resourceType folderId user
        currentDeviceId) →
      OwnerShare env user record ctx → Accounted begun record ctx
  | handedOn : begun call →
      HandsOn call recipientUserId resourceId permissions currentUser →
      DelegatedShare call.env recipientUserId resourceId permissions currentUser
        record ctx → Accounted begun record ctx

section Origin

variable {begun : NodeCall → Prop} {record : ShareRecord}
variable {ctx ctx' : RepositoryContext}

theorem Origin.mono (horigin : Origin begun record ctx) (hgrows : Grows ctx ctx') :
    Origin begun record ctx' := by
  cases horigin with
  | received hbegun hcarried => exact .received hbegun hcarried
  | created hbegun hmade => exact .created hbegun (hmade.mono hgrows)
  | handedOn hbegun hhands hmade => exact .handedOn hbegun hhands (hmade.mono hgrows)

theorem Origin.accounted
    (hcrate : ∀ call, begun call → FaithfulCrate call.env.libraries.ucan.crate)
    (horigin : Origin begun record ctx) : Accounted begun record ctx := by
  cases horigin with
  | received hbegun hcarried => exact .received hbegun hcarried
  | created hbegun hmade => exact .created hbegun (hmade.ownerShare (hcrate _ hbegun))
  | handedOn hbegun hhands hmade =>
      exact .handedOn hbegun hhands (hmade.delegatedShare (hcrate _ hbegun))

structure KeepsOrigins (begun : NodeCall → Prop) (ctx ctx' : RepositoryContext) :
    Prop where
  grows : Grows ctx ctx'
  origins : (∀ record ∈ ctx.shareRecords, Origin begun record ctx) →
    ∀ record ∈ ctx'.shareRecords, Origin begun record ctx'

instance : IsPreorder RepositoryContext (KeepsOrigins begun) where
  refl ctx := ⟨.refl ctx, id⟩
  trans _ _ _ hfirst hsecond :=
    ⟨hfirst.grows.trans hsecond.grows, hsecond.origins ∘ hfirst.origins⟩

theorem keepsOrigins_admits :
    Admits (fun ctx record => Origin begun record ctx) (KeepsOrigins begun) := by
  refine fun ctx ctx' hextends => ⟨hextends.grows, fun hall record hrecord => ?_⟩
  rcases hextends.mem_shareRecords hrecord with hold | hnew
  · exact (hall record hold).mono hextends.grows
  · exact hnew.mono hextends.grows

theorem body_keepsOrigins {call : NodeCall} (hbegun : begun call) (since : Node) :
    Program.Respects (MovesNode (KeepsOrigins begun)) (fun _ _ => True) since
      call.body := by
  have hroom : RoomForCall (fun ctx record => Origin begun record ctx) (KeepsOrigins begun)
      call :=
    { admits := keepsOrigins_admits
      grows := fun _ _ hkeeps => hkeeps.grows
      own := fun hcall _ _ hmade => .created (hcall ▸ hbegun) hmade
      handed := fun hhands _ _ hmade => .handedOn hbegun hhands hmade
      carried := fun hcall _ _ hrecord => .received (hcall ▸ hbegun) hrecord }
  exact hroom.body_moves since

end Origin

def ownKey : String := "RRRRRRRRRRRRRRRRRRRRRRRRRRRRRRRR"

def ownDid : String := didOfKey (tabledLibraries []) (textBytes ownKey)

def ownToken : Ucan :=
  { issuer := ownDid, audience := ownDid
    capabilities := ["crud/read", "crud/update", "crud/delete", "ucan/share"].map
      fun ability => ⟨"livnote:resource:i", ability⟩
    signedData := "own-i" }

def ownCrate : UcanCrate :=
  { tabledCrate [("own-i", ownToken)] with
    build := fun _ => .ok ()
    sign := fun request =>
      if request.issuer = ownDid ∧ request.audience = ownDid ∧
          request.capabilities = ownToken.capabilities ∧
          request.witnessedBy.isNone then .ok ownToken
      else .error "not the token" }

theorem ownCrate_sign_eq_ok {request : UcanRequest} {ucan : Ucan}
    (hsign : ownCrate.sign request = .ok ucan) :
    ucan = ownToken ∧ request.issuer = ownDid ∧ request.audience = ownDid ∧
      request.capabilities = ownToken.capabilities ∧
        request.witnessedBy.isNone := by
  simp only [ownCrate] at hsign
  split at hsign
  · next hrequest =>
      cases hsign
      exact ⟨rfl, hrequest⟩
  · cases hsign

theorem ownCrate_faithful : FaithfulCrate ownCrate where
  sign request ucan hsign := by
    obtain ⟨rfl, hissuer, haudience, hcapabilities, _⟩ := ownCrate_sign_eq_ok hsign
    exact ⟨hissuer.symm, haudience.symm, hcapabilities.symm⟩
  proofs request ucan parent cid hsign hwitness := by
    obtain ⟨_, _, _, _, hnone⟩ := ownCrate_sign_eq_ok hsign
    simp [hwitness] at hnone
  tryFrom request ucan token hsign hencode := by
    obtain ⟨rfl, _⟩ := ownCrate_sign_eq_ok hsign
    cases hencode
    rfl

def ownEnv : ServiceEnv :=
  { ownerEnv.toServiceEnv with
    libraries := { ownerEnv.libraries with
      ucan := { ownerEnv.libraries.ucan with crate := ownCrate } } }

def freshNode : Node :=
  { repo := { ownerStore with
      resources := [], resourceKeys := [], shareRecords := [], vectorClocks := []
      ucanKey := some (.sealed "R" ownKey) }
    connections := fun _ => peerConnection }

def creation : List NodeEvent :=
  .start (.createResource ownEnv (.encoded (.object [])) .notes "folder"
    (.sample "R") "dev-R") :: List.replicate 9 (.advance 0)

def forgedRecord : ShareRecord :=
  .prepareShareRecord "forged" 0 "a" "R" "P" .write "grant-a" "other-cid"

def forgedDelivery : List NodeEvent :=
  .start (.handleMessage 0 ownerEnv (.mergeUpdate (.vectorClockResponse "a" [] []
    [forgedRecord] []))) :: List.replicate 4 (.advance 0)

end Osvauld.Network
