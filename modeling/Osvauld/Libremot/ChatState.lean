import Osvauld.Data.Base64
import Osvauld.Network.P2P.PeerConnection
import Osvauld.Services.SavedResource

namespace Osvauld.Libremot

open Osvauld.Core Data Network Persistance Services

/-! The chats that are held in memory. Each of the calls is taken as a whole: a
clone of a document is another handle of it, so what is applied to the clone is
in the buffer that it is put back into. -/

variable (yrs : Yrs)

structure ResourceBuffers where
  mainDoc : yrs.Doc
  imageDoc : yrs.Doc

def ResourceBuffers.new : ResourceBuffers yrs :=
  { mainDoc := yrs.new, imageDoc := yrs.new }

structure ChatState where
  buffers : String → Option (ResourceBuffers yrs)

def ChatState.new : ChatState yrs := { buffers := fun _ => none }

inductive ChatDoc where
  | main
  | image
deriving DecidableEq, Repr

def ChatDoc.ofDocType (docType : String) : ChatDoc :=
  if docType = "images" ∨ docType = "image_state" then .image else .main

variable {yrs}

namespace ResourceBuffers

def doc (buffers : ResourceBuffers yrs) : ChatDoc → yrs.Doc
  | .main => buffers.mainDoc
  | .image => buffers.imageDoc

def setDoc (which : ChatDoc) (doc : yrs.Doc) (buffers : ResourceBuffers yrs) :
    ResourceBuffers yrs :=
  match which with
  | .main => { buffers with mainDoc := doc }
  | .image => { buffers with imageDoc := doc }

theorem doc_setDoc (which other : ChatDoc) (doc : yrs.Doc)
    (buffers : ResourceBuffers yrs) :
    (buffers.setDoc which doc).doc other =
      if other = which then doc else buffers.doc other := by
  cases which <;> cases other <;> rfl

@[simp] theorem doc_new (which : ChatDoc) : (new yrs).doc which = yrs.new := by
  cases which <;> rfl

end ResourceBuffers

namespace ChatState

def setBuffers (resourceId : String) (buffers : ResourceBuffers yrs)
    (state : ChatState yrs) : ChatState yrs :=
  { buffers := fun id => if id = resourceId then some buffers else state.buffers id }

@[simp] theorem buffers_setBuffers (resourceId other : String)
    (buffers : ResourceBuffers yrs) (state : ChatState yrs) :
    (state.setBuffers resourceId buffers).buffers other =
      if other = resourceId then some buffers else state.buffers other := rfl

variable (yrs) in
def loadDoc (docState : Option Bytes) : yrs.Doc :=
  match docState with
  | none => yrs.new
  | some bytes =>
      match yrs.applyUpdateV2 yrs.new bytes with
      | .ok doc => doc
      | .error _ => yrs.new

def loadChatResource (resourceId : String) (mainDocState imageState : Option Bytes)
    (state : ChatState yrs) : ChatState yrs :=
  state.setBuffers resourceId
    { mainDoc := loadDoc yrs mainDocState, imageDoc := loadDoc yrs imageState }

/-- A resource that is not buffered starts from new documents. -/
def applyUpdate (resourceId : String) (newUpdates : Bytes) (docType : String)
    (state : ChatState yrs) : ChatState yrs :=
  if newUpdates.isEmpty then state
  else
    let buffers := (state.buffers resourceId).getD (.new yrs)
    let which := ChatDoc.ofDocType docType
    match yrs.applyUpdateV2 (buffers.doc which) newUpdates with
    | .ok doc => state.setBuffers resourceId (buffers.setDoc which doc)
    | .error _ => state.setBuffers resourceId buffers

def exportDocumentState (resourceId : String) (state : ChatState yrs) :
    Except String Bytes :=
  match state.buffers resourceId with
  | some buffers => .ok (yrs.stateAsUpdate buffers.mainDoc)
  | none => .error ("No buffers found for resource: " ++ resourceId)

def applyPeerUpdates (resourceId : String) (peerUpdates : JsonText)
    (state : ChatState yrs) : Except String Unit × ChatState yrs :=
  match peerUpdates.parseObject with
  | .error message => (.error ("Failed to parse peer updates: " ++ message), state)
  | .ok peerData =>
      let updatesFor (key : String) : Bytes :=
        match Value.get (.object peerData) key with
        | some data => DecryptedResource.entryBytes data "updates"
        | none => []
      (.ok (), (state.applyUpdate resourceId (updatesFor "chat") "chat").applyUpdate
        resourceId (updatesFor "image_state") "image_state")

end ChatState

/-! What the chat application does with its chats: it opens them, updates them
and saves them. What it tells the front end and the peers is left out. -/

structure ChatApp (yrs : Yrs) where
  repo : RepositoryContext
  chat : ChatState yrs

section Handlers

variable (env : NetworkEnv)

def savedData (chatState : Bytes) : JsonText :=
  .encoded (.object
    [("chat", .string (env.libraries.ucan.encodings.base64Encode chatState)),
      ("image_state", .string "")])

def chatSave (resourceId : String) (chat : ChatState env.libraries.yrs) :
    Option (Service DecryptedResource) :=
  match env.currentUser, env.currentDevice, chat.exportDocumentState resourceId with
  | some user, some device, .ok chatState =>
      some (updateResource env.toServiceEnv resourceId (savedData env chatState)
        user.id device.id)
  | _, _, _ => none

def saveChatToDatabase (resourceId : String) (app : ChatApp env.libraries.yrs) :
    ChatApp env.libraries.yrs :=
  match chatSave env resourceId app.chat with
  | some save => { app with repo := (save.run app.repo).2 }
  | none => app

def handleEditingEvent (resourceId : String) (updates : Bytes) (docType : String)
    (app : ChatApp env.libraries.yrs) : ChatApp env.libraries.yrs :=
  let updated := { app with chat := app.chat.applyUpdate resourceId updates docType }
  if docType = "chat" then saveChatToDatabase env resourceId updated else updated

def chatSyncUpdate {yrs : Yrs} (resourceId : String) (updates : Bytes) (docType : String)
    (app : ChatApp yrs) : ChatApp yrs :=
  { app with chat := app.chat.applyUpdate resourceId updates docType }

def openChat (chatId : String) (app : ChatApp env.libraries.yrs) :
    ChatApp env.libraries.yrs :=
  match env.currentUser, env.currentDevice with
  | some user, some _ =>
      match ((getResourceByIdDirect env.toServiceEnv chatId user.id).run app.repo).1 with
      | .ok resource =>
          let chat := app.chat.loadChatResource chatId
            (resource.getDocumentState "main_doc")
            (resource.getDocumentState "image_state")
          { app with chat }
      | .error _ => app
  | _, _ => app

def previewState (data : Value) : Bytes :=
  match data.get "chat" with
  | some (.array items) =>
      items.filterMap fun item => item.asU64.map UInt8.ofNat
  | _ => []

end Handlers

def load (env : NetworkEnv) (resourceId userId : String) (repo : RepositoryContext) :
    Except ServiceError DecryptedResource :=
  ((getResourceByIdDirect env.toServiceEnv resourceId userId).run repo).1

structure RoundTrip (chatState : Bytes) (before loaded : DecryptedResource) : Prop where
  chat : loaded.getDocumentState "chat" = some chatState
  preview : previewState loaded.data = chatState
  others : ∀ stateKey, stateKey ≠ "chat" →
    loaded.getDocumentState stateKey = before.getDocumentState stateKey

theorem documentBytes_savedData (env : NetworkEnv) (chatState : Bytes)
    (stateKey : String) :
    (textValue (savedData env chatState)).documentBytes stateKey = none := by
  by_cases hchat : "chat" = stateKey <;> by_cases himage : "image_state" = stateKey <;>
    simp [savedData, textValue, Value.documentBytes, Value.get, Value.asBytes,
      Value.asArray, hchat, himage]

variable {env : NetworkEnv} {resourceId : String}

theorem chatSave_eq_some {chat : ChatState env.libraries.yrs} {save : Service DecryptedResource} :
    chatSave env resourceId chat = some save ↔
      ∃ user device chatState, env.currentUser = some user ∧
        env.currentDevice = some device ∧
        chat.exportDocumentState resourceId = .ok chatState ∧
        save = updateResource env.toServiceEnv resourceId (savedData env chatState)
          user.id device.id := by
  unfold chatSave
  cases env.currentUser <;> cases env.currentDevice <;>
    cases chat.exportDocumentState resourceId <;> simp [eq_comm]

theorem chatSave_saved {chat : ChatState env.libraries.yrs} {save : Service DecryptedResource}
    {chatState : Bytes} {saved : DecryptedResource} {repo : RepositoryContext}
    (hsave : chatSave env resourceId chat = some save)
    (hexport : chat.exportDocumentState resourceId = .ok chatState)
    (hsaved : (save.run repo).1 = .ok saved) :
    Saved resourceId (savedData env chatState) repo (save.run repo).2 := by
  obtain ⟨user, device, exported, _, _, hexported, rfl⟩ := chatSave_eq_some.mp hsave
  obtain rfl : chatState = exported := Except.ok.inj (hexport.symm.trans hexported)
  rcases updateResource_run env.toServiceEnv resourceId (savedData env chatState)
    user.id device.id repo with hstored | ⟨_, hfailed⟩
  · exact hstored
  · exact absurd hsaved (hfailed saved)

theorem load_saved {loadEnv : NetworkEnv} {userId : String} {chatState : Bytes}
    {repo repo' : RepositoryContext} {loaded : DecryptedResource}
    (hsaved : Saved resourceId (savedData env chatState) repo repo')
    (hload : load loadEnv resourceId userId repo' = .ok loaded) (stateKey : String) :
    loaded.getDocumentState stateKey = none := by
  obtain ⟨data, hdata, hdocuments⟩ := getResourceByIdDirect_documents _ hload
  have hplain : plainValue data = textValue (savedData env chatState) := by
    simpa [hdata] using hsaved.written
  calc
    loaded.getDocumentState stateKey = (plainValue data).documentBytes stateKey := by
      rw [← hdocuments]
      rfl
    _ = none := by rw [hplain, documentBytes_savedData]

/-- No chat that is saved and then loaded makes the round trip, whatever was read
of it before. -/
theorem saved_chat_makes_no_round_trip (env loadEnv : NetworkEnv)
    (resourceId userId : String) (chat : ChatState env.libraries.yrs)
    (save : Service DecryptedResource) (chatState : Bytes) (repo : RepositoryContext)
    (before saved loaded : DecryptedResource)
    (hsave : chatSave env resourceId chat = some save)
    (hexport : chat.exportDocumentState resourceId = .ok chatState)
    (hsaved : (save.run repo).1 = .ok saved)
    (hload : load loadEnv resourceId userId (save.run repo).2 = .ok loaded) :
    ¬RoundTrip chatState before loaded := by
  intro hround
  have hnone := load_saved (chatSave_saved hsave hexport hsaved) hload "chat"
  rw [hround.chat] at hnone
  cases hnone

def chatEnv : NetworkEnv :=
  { NetworkEnv.tabled [] (.sample "R") (.sample "dev-R" "R") with
    libraries.ucan.encodings.base64Encode := Base64.encode
    libraries.ucan.encodings.base64Decode := Base64.decode }

def chatStore : RepositoryContext :=
  { resources := [.new "c" 0 .chat (.sealed "k" (.encoded (.object
      [("chat", .ofBytes [1]), ("image_state", .ofBytes [2])]))) "folder" "" "R"]
    resourceKeys := [.new "key-R" 0 "c" "R" (.sealed "R" "k") true]
    vectorClocks := [.ofDomain (.new "clock-R" 0 "c" "dev-R" 1)] }

def bufferedChat : ChatState Yrs.bits :=
  (ChatState.new Yrs.bits).loadChatResource "c" (some [1]) (some [2])

def chatBefore : DecryptedResource :=
  { id := "c", resourceType := .chat, lastAccessed := 0, favourite := false
    folderId := "folder"
    data := .object [("chat", .ofBytes [1]), ("image_state", .ofBytes [2])] }

def chatAfter : DecryptedResource :=
  { chatBefore with data := textValue (savedData chatEnv [1]) }

def chatSaving : Service DecryptedResource :=
  updateResource chatEnv.toServiceEnv "c" (savedData chatEnv [1]) "R" "dev-R"

theorem saved_chat_makes_no_round_trip_oneUpdate :
    ¬RoundTrip [1] chatBefore chatAfter :=
  saved_chat_makes_no_round_trip chatEnv chatEnv "c" "R" bufferedChat chatSaving [1]
    chatStore chatBefore chatAfter chatAfter rfl rfl rfl rfl

/-- The chat document and the image are gone. -/
theorem saved_chat_lost :
    ¬ ∀ save chatState before saved loaded,
      chatSave chatEnv "c" bufferedChat = some save →
      bufferedChat.exportDocumentState "c" = .ok chatState →
      load chatEnv "c" "R" chatStore = .ok before →
      (save.run chatStore).1 = .ok saved →
      load chatEnv "c" "R" (save.run chatStore).2 = .ok loaded →
      RoundTrip chatState before loaded := by
  intro hall
  have hround := hall chatSaving [1] chatBefore chatAfter chatAfter rfl rfl rfl rfl rfl
  exact absurd hround.preview (by decide)

end Osvauld.Libremot
