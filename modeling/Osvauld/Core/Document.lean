import Osvauld.Core.Records

namespace Osvauld.Core

/-! Documents of the CRDT library, and the decrypted resources that hold them. -/

structure Yrs where
  Doc : Type
  new : Doc
  applyUpdate : Doc → Bytes → Except String Doc
  stateVector : Doc → Bytes
  stateAsUpdate : Doc → Bytes
  diff : Doc → Bytes → Except String Bytes

namespace Yrs

variable (yrs : Yrs)

def applyUpdateV2 (doc : yrs.Doc) (update : Bytes) : Except String yrs.Doc :=
  if update.isEmpty then .ok doc else yrs.applyUpdate doc update

def getDiffUpdateV2 (doc : yrs.Doc) (stateVector : Bytes) :
    Except String Bytes :=
  if stateVector.isEmpty then .ok (yrs.stateAsUpdate doc)
  else yrs.diff doc stateVector

/-- Documents of up to eight updates, for concrete inputs: an update is the
byte of the updates it holds. -/
def bits : Yrs :=
  { Doc := UInt8
    new := 0
    applyUpdate := fun doc update => match update with
      | [bits] => .ok (doc ||| bits)
      | _ => .error "not an update"
    stateVector := fun doc => [doc]
    stateAsUpdate := fun doc => [doc]
    diff := fun doc stateVector => match stateVector with
      | [bits] => .ok [doc &&& ~~~bits]
      | _ => .error "not a state vector" }

end Yrs

def ResourceType.documentStateKeys : ResourceType → List String
  | .notes => ["main_doc", "image_state", "comment_state"]
  | .chat => ["chat", "image_state"]
  | .default => ["yjs_state"]

structure DecryptedResource where
  id : String
  resourceType : ResourceType
  data : Value
  lastAccessed : Int
  favourite : Bool
  folderId : String

namespace DecryptedResource

variable (yrs : Yrs)

def getDocumentState (resource : DecryptedResource) (stateKey : String) :
    Option Bytes :=
  (resource.data.get stateKey).bind Value.asBytes

def documentEntry (updates stateVector : Bytes) : Value :=
  .object
    [("updates", .ofBytes updates), ("state_vector", .ofBytes stateVector)]

/-- The bytes an entry gives for a field; none when there is no such array. -/
def entryBytes (entry : Value) (field : String) : Bytes :=
  ((entry.get field).bind Value.asBytes).getD []

def stateVectorEntry (resource : DecryptedResource) (stateKey : String) :
    Except String (List (String × Value)) :=
  match resource.getDocumentState stateKey with
  | none => .ok []
  | some stateData => do
      let doc ← yrs.applyUpdateV2 yrs.new stateData
      return [(stateKey, documentEntry [] (yrs.stateVector doc))]

def getStateVectors (resource : DecryptedResource) : Except String JsonText := do
  let entries ← resource.resourceType.documentStateKeys.mapM
    (stateVectorEntry yrs resource)
  return .encoded (.object entries.flatten)

/-- One document of a sync: apply what the peer sent, then answer its state
vector. The result is the document's new bytes, if it was updated, and the
entry for the peer, if it asked for one. -/
def syncDocument (ourStateData : Bytes) (entry : Value) :
    Except String (Option Bytes × Option Value) := do
  let doc ← yrs.applyUpdateV2 yrs.new ourStateData
  let inputUpdates := entryBytes entry "updates"
  let inputStateVector := entryBytes entry "state_vector"
  let doc ←
    if inputUpdates.isEmpty then .ok doc
    else yrs.applyUpdateV2 doc inputUpdates
  let answer ←
    if inputStateVector.isEmpty then .ok none
    else do
      let updatesForPeer ← yrs.getDiffUpdateV2 doc inputStateVector
      .ok (some (documentEntry updatesForPeer (yrs.stateVector doc)))
  let newState :=
    if inputUpdates.isEmpty then none else some (yrs.stateAsUpdate doc)
  return (newState, answer)

/-- One state key: skipped unless both this side and the input have it. -/
def syncKey (input : List (String × Value)) (stateKey : String)
    (state : Value × List (String × Value)) :
    Except String (Value × List (String × Value)) :=
  match (state.1.get stateKey).bind Value.asBytes,
      Value.get (.object input) stateKey with
  | some ourStateData, some entry => do
      let (newState, answer) ← syncDocument yrs ourStateData entry
      let data := match newState with
        | some bytes => state.1.insert stateKey (.ofBytes bytes)
        | none => state.1
      let results := match answer with
        | some value => state.2 ++ [(stateKey, value)]
        | none => state.2
      return (data, results)
  | _, _ => .ok state

def syncUpdates (resource : DecryptedResource) (inputData : JsonText) :
    Except String (DecryptedResource × JsonText) :=
  match inputData.parseObject with
  | .error message => .error ("Invalid input JSON: " ++ message)
  | .ok input => do
      let (data, results) ← resource.resourceType.documentStateKeys.foldlM
        (fun state stateKey => syncKey yrs input stateKey state)
        (resource.data, [])
      return ({ resource with data }, .encoded (.object results))

end DecryptedResource

end Osvauld.Core
