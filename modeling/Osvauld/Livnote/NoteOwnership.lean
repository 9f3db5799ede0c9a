import Osvauld.Data.Interleaving
import Osvauld.Livnote.NoteEvents

namespace Osvauld.Livnote

open Osvauld.Core Data Network

/-! Whose the documents of the open note are, and what is sent in its name, when
notes are changed while updates come from the editor, from peers and from
syncs. -/

namespace NoteCall

def resourceId : NoteCall → Option String
  | noteChange _ _ => none
  | syncUpdate payload => some payload.resourceId
  | broadcast payload => some payload.resourceId
  | p2pEvent (.documentCheck resourceId _) => some resourceId
  | p2pEvent (.updateRequest resourceId _ _ _) => some resourceId
  | p2pEvent (.processUpdate resourceId _ _ _) => some resourceId
  | p2pEvent (.processUpdateResponse resourceId _ _ _) => some resourceId
  | p2pEvent (.editingEvent resourceId _ _ _) => some resourceId
  | p2pEvent (.updatesEvent resourceId _ _) => some resourceId
  | p2pEvent _ => none

def updates : NoteCall → DocSelection → Bytes
  | syncUpdate payload, selection | broadcast payload, selection =>
      if selection = .ofDocType payload.docType then payload.updateBytes else []
  | p2pEvent (.editingEvent _ _ updates docType), selection =>
      if selection = .ofDocType docType then updates else []
  | p2pEvent (.processUpdate _ _ updates _), selection
  | p2pEvent (.processUpdateResponse _ _ updates _), selection
  | p2pEvent (.updatesEvent _ updates _), selection => peerUpdatesFor updates selection
  | _, _ => []

end NoteCall

/-- The note that updates are sent as, and the updates for its documents. -/
def NoteMessage.carried : NoteMessage → Option (String × (DocSelection → Bytes))
  | liveEdit (.updateExchange resourceId updates) =>
      some (resourceId, peerUpdatesFor updates)
  | liveEdit (.updateExchangeResponse resourceId updates) =>
      some (resourceId, peerUpdatesFor updates)
  | liveEdit (.documentUpdate resourceId _ updates docType) =>
      some (resourceId, fun selection =>
        if selection = .ofDocType docType then updates else [])
  | liveUpdates resourceId updates docType =>
      some (resourceId, fun selection =>
        if selection = .ofDocType docType then updates else [])
  | documentUpdates resourceId updates => some (resourceId, peerUpdatesFor updates)
  | _ => none

variable {yrs : Yrs} {L : Type*} [SemilatticeSup L] [OrderBot L]

/-- The library is lawful, and the differences to whatever state vector are a
part of the document. -/
structure DividingYrs (yrs : Yrs) (L : Type*) [SemilatticeSup L] [OrderBot L]
    extends LawfulYrs yrs L where
  diff_le : ∀ doc stateVector update, yrs.diff doc stateVector = .ok update →
    meaning update ≤ (state doc : L)

def Yrs.dividingBits : DividingYrs Yrs.bits (Fin 8 → Bool) where
  toLawfulYrs := Yrs.lawfulBits
  diff_le doc stateVector update hdiff := by
    match stateVector with
    | [] => cases hdiff
    | [peer] =>
        cases hdiff
        exact WithBot.coe_le_coe.mpr (updateBits_andNot_le doc peer)
    | _ :: _ :: _ => cases hdiff

variable (lawful : DividingYrs yrs L) (calls : List NoteCall)

inductive Loaded : Option String → DocSelection → L → Prop
  | nothing (selection : DocSelection) : Loaded none selection ⊥
  | opened (hcall : .noteChange noteId states ∈ calls) (selection : DocSelection) :
      Loaded noteId selection
        (lawful.state (HandleTask.loadState (states selection) : yrs.Doc))

inductive Addressed : Option String → DocSelection → L → Prop
  | nothing : Addressed noteId selection ⊥
  | update (hcall : call ∈ calls) (hnote : call.resourceId = some resourceId)
      (hmeaning : lawful.meaning (call.updates selection) = (brought : L)) :
      Addressed (some resourceId) selection brought
  | sup : Addressed noteId selection first → Addressed noteId selection second →
      Addressed noteId selection (first ⊔ second)

def Owned (noteId : Option String) (selection : DocSelection) (content : L) : Prop :=
  ∃ loaded brought, Loaded lawful calls noteId selection loaded ∧
    Addressed lawful calls noteId selection brought ∧ content = loaded ⊔ brought

/-- What is sent as updates of a document of the note is a part of it, or of what
was addressed to it. -/
def PartOf (resourceId : String) (selection : DocSelection) (updates : Bytes) : Prop :=
  ∃ content, (Owned lawful calls (some resourceId) selection content ∨
    Addressed lawful calls (some resourceId) selection content) ∧
    lawful.meaning updates ≤ (content : L)

def Belongs (message : NoteMessage) : Prop :=
  ∀ resourceId updates, message.carried = some (resourceId, updates) →
    ∀ selection, PartOf lawful calls resourceId selection (updates selection)

structure OwnsDocuments (note : CurrentNote yrs) : Prop where
  docs : ∀ handle, handle < note.created → Owned lawful calls (note.owner handle).1
    (note.owner handle).2 (lawful.state (note.docs handle))
  held : ∀ selection, note.held selection < note.created ∧
    note.owner (note.held selection) = (note.noteId, selection)

structure KeepsOwners (before after : CurrentNote yrs) : Prop where
  created : before.created ≤ after.created
  owner : ∀ handle, handle < before.created → after.owner handle = before.owner handle
  owns : OwnsDocuments lawful calls before → OwnsDocuments lawful calls after

instance : IsPreorder (CurrentNote yrs) (KeepsOwners lawful calls) where
  refl _ := ⟨le_rfl, fun _ _ => rfl, id⟩
  trans _ _ _ hfirst hsecond :=
    ⟨hfirst.created.trans hsecond.created,
      fun handle hhandle => (hsecond.owner handle (hhandle.trans_le hfirst.created)).trans
        (hfirst.owner handle hhandle),
      fun howns => hsecond.owns (hfirst.owns howns)⟩

def WhileOpen (noteId : Option String) (_ before _ : CurrentNote yrs) : Prop :=
  OwnsDocuments lawful calls before ∧
    ∀ resourceId, noteId = some resourceId → before.noteId = some resourceId

def HandleOf (noteId : Option String) (selection : DocSelection) (handle : Nat)
    (note : CurrentNote yrs) : Prop :=
  handle < note.created ∧ note.owner handle = (noteId, selection)

variable {lawful calls} {before after since : CurrentNote yrs}
variable {noteId : Option String} {resourceId : String} {selection : DocSelection}
variable {handle : Nat}

theorem HandleOf.later (hhandle : HandleOf noteId selection handle before)
    (hkeeps : KeepsOwners lawful calls before after) :
    HandleOf noteId selection handle after :=
  ⟨hhandle.1.trans_le hkeeps.created,
    (hkeeps.owner handle hhandle.1).trans hhandle.2⟩

theorem Owned.update {content brought : L}
    (howned : Owned lawful calls noteId selection content)
    (hbrought : Addressed lawful calls noteId selection brought) :
    Owned lawful calls noteId selection (content ⊔ brought) := by
  obtain ⟨loaded, before, hloaded, hbefore, rfl⟩ := howned
  exact ⟨loaded, before ⊔ brought, hloaded, hbefore.sup hbrought, sup_assoc _ _ _⟩

theorem OwnsDocuments.ofHandle {note : CurrentNote yrs}
    (howns : OwnsDocuments lawful calls note)
    (hhandle : HandleOf noteId selection handle note) :
    Owned lawful calls noteId selection (lawful.state (note.docs handle)) := by
  have howned := howns.docs handle hhandle.1
  rw [hhandle.2] at howned
  exact howned

theorem PartOf.nil : PartOf lawful calls resourceId selection [] :=
  ⟨⊥, .inr .nothing, lawful.meaning_nil.le⟩

variable {call : NoteCall}

theorem PartOf.addressed (hcall : call ∈ calls) (hnote : call.resourceId = some resourceId)
    (selection : DocSelection) :
    PartOf lawful calls resourceId selection (call.updates selection) := by
  cases hmeaning : lawful.meaning (call.updates selection) with
  | bot => exact ⟨⊥, .inr .nothing, by rw [hmeaning]; exact bot_le⟩
  | coe brought => exact ⟨brought, .inr (.update hcall hnote hmeaning), hmeaning.le⟩

def UpdateFor (lawful : DividingYrs yrs L) (calls : List NoteCall) (noteId : Option String)
    (selection : DocSelection) (update : Bytes) : Prop :=
  ∀ brought : L, lawful.meaning update = brought →
    Addressed lawful calls noteId selection brought

theorem updateFor_call (hcall : call ∈ calls) (hnote : call.resourceId = some resourceId)
    (selection : DocSelection) :
    UpdateFor lawful calls (some resourceId) selection (call.updates selection) :=
  fun _ hmeaning => .update hcall hnote hmeaning

section Steps

variable {α : Type} {good : α → CurrentNote yrs → Prop}

theorem read_whileOpen {query : CurrentNote yrs → Except String α}
    (hquery : ∀ note value, KeepsOwners lawful calls since note →
      OwnsDocuments lawful calls note → (∀ resourceId, noteId = some resourceId →
        note.noteId = some resourceId) → query note = .ok value → good value note) :
    Program.Follows (WhileOpen lawful calls noteId) (KeepsOwners lawful calls) good since
      (Program.read query) :=
  .atomically_allowed (fun note _ _ => refl_of _ note)
    fun note value hkeeps hopen hvalue => hquery note value hkeeps hopen.1 hopen.2 hvalue

theorem write_whileOpen {update : CurrentNote yrs → Except String (CurrentNote yrs)}
    (hupdate : ∀ note note', KeepsOwners lawful calls since note →
      OwnsDocuments lawful calls note → (∀ resourceId, noteId = some resourceId →
        note.noteId = some resourceId) → update note = .ok note' →
      KeepsOwners lawful calls note note') :
    Program.Follows (WhileOpen lawful calls noteId) (KeepsOwners lawful calls)
      (fun _ _ => True) since (Program.write update) := by
  refine .atomically_allowed (fun note hkeeps hopen => ?_) fun _ _ _ _ _ => trivial
  cases hresult : update note with
  | ok note' => exact hupdate note note' hkeeps hopen.1 hopen.2 hresult
  | error error => exact refl_of _ note

end Steps

namespace HandleTask

theorem cloneDoc_owned : Program.Follows (WhileOpen lawful calls (some resourceId))
    (KeepsOwners lawful calls) (fun doc note => HandleOf (some resourceId) selection doc note)
    since (cloneDoc selection) := by
  refine read_whileOpen fun note doc _ howns hopen hdoc => ?_
  cases hdoc
  have hheld := howns.held selection
  rw [hopen resourceId rfl] at hheld
  exact hheld

theorem cloneDocs_owned : Program.Follows (WhileOpen lawful calls (some resourceId))
    (KeepsOwners lawful calls)
    (fun docs note => ∀ selection, HandleOf (some resourceId) selection (docs selection) note)
    since cloneDocs := by
  refine read_whileOpen fun note docs _ howns hopen hdocs selection => ?_
  cases hdocs
  have hheld := howns.held selection
  rw [hopen resourceId rfl] at hheld
  exact hheld

theorem applyUpdateV2_owned {update : Bytes}
    (hhandle : HandleOf (some resourceId) selection handle since)
    (hupdate : UpdateFor lawful calls (some resourceId) selection update) :
    Program.Follows (WhileOpen lawful calls (some resourceId)) (KeepsOwners lawful calls)
      (fun _ note => HandleOf (some resourceId) selection handle note) since
      (applyUpdateV2 handle update) := by
  refine (write_whileOpen fun note note' hkeeps howns _ happly => ?_).kept
    fun _ _ hkeeps => hhandle.later hkeeps
  cases hdoc : yrs.applyUpdateV2 (note.docs handle) update with
  | error error => simp [hdoc, Except.map] at happly
  | ok doc =>
      obtain rfl : note.setDoc handle doc = note' := by simpa [hdoc, Except.map] using happly
      have hhere := hhandle.later hkeeps
      refine ⟨le_rfl, fun _ _ => rfl, fun _ => ⟨fun other hother => ?_, howns.held⟩⟩
      rw [CurrentNote.docs_setDoc]
      split
      · next heq =>
          obtain ⟨brought, hmeaning, hstate⟩ := lawful.applyUpdateV2_ok hdoc
          rw [heq, CurrentNote.owner_setDoc, hhere.2, hstate]
          exact (howns.ofHandle hhere).update (hupdate brought hmeaning)
      · exact howns.docs other hother

theorem storeDoc_owned (hhandle : HandleOf (some resourceId) selection handle since) :
    Program.Follows (WhileOpen lawful calls (some resourceId)) (KeepsOwners lawful calls)
      (fun _ _ => True) since (storeDoc selection handle) := by
  refine write_whileOpen fun note note' hkeeps howns hopen hstored => ?_
  cases hstored
  have hhere := hhandle.later hkeeps
  refine ⟨le_rfl, fun _ _ => rfl, fun _ => ⟨howns.docs, fun other => ?_⟩⟩
  rw [CurrentNote.held_hold]
  split
  · next heq =>
      rw [heq, CurrentNote.noteId_hold, hopen resourceId rfl]
      exact hhere
  · exact howns.held other

theorem applyUpdate_owned {newUpdates : Bytes} {docType : String}
    (hupdate : UpdateFor lawful calls (some resourceId) (.ofDocType docType) newUpdates) :
    Program.Follows (WhileOpen lawful calls (some resourceId)) (KeepsOwners lawful calls)
      (fun _ _ => True) since (applyUpdate newUpdates docType) := by
  unfold applyUpdate
  split
  · exact .pure trivial
  refine .bind cloneDoc_owned fun tempDoc note _ hhandle => ?_
  refine .bind (applyUpdateV2_owned hhandle hupdate).attempt fun applied after _ happlied => ?_
  cases applied with
  | ok _ => exact storeDoc_owned (happlied _ rfl)
  | error _ => exact .pure trivial

theorem getStateVectorV2_owned (doc : Nat) :
    Program.Follows (WhileOpen lawful calls noteId) (KeepsOwners lawful calls)
      (fun _ _ => True) since (getStateVectorV2 doc : HandleTask yrs Bytes) :=
  read_whileOpen fun _ _ _ _ _ _ => trivial

theorem getDocStateVector_owned (doc : Nat) :
    Program.Follows (WhileOpen lawful calls noteId) (KeepsOwners lawful calls)
      (fun _ _ => True) since
      (getDocStateVector selection doc : HandleTask yrs (List (String × Value))) := by
  refine .bind (getStateVectorV2_owned doc) fun stateVector _ _ _ => ?_
  split
  · exact .pure trivial
  · exact .pure trivial

theorem getStateVectors_owned :
    Program.Follows (WhileOpen lawful calls noteId) (KeepsOwners lawful calls)
      (fun _ _ => True) since (getStateVectors : HandleTask yrs JsonText) := by
  refine .bind (read_whileOpen fun _ _ _ _ _ _ => trivial) fun docs _ _ (_ : True) => ?_
  refine .bind (getDocStateVector_owned _) fun mainDoc _ _ _ => ?_
  refine .bind (getDocStateVector_owned _) fun imageDoc _ _ _ => ?_
  exact .bind (getDocStateVector_owned _) fun commentDoc _ _ _ => .pure trivial

end HandleTask

def EntryOfNote (lawful : DividingYrs yrs L) (calls : List NoteCall) (resourceId : String)
    (field : String × Value) : Prop :=
  ∃ selection updates stateVector,
    field = (DocSelection.stateKey selection,
      DecryptedResource.documentEntry updates stateVector) ∧
    PartOf lawful calls resourceId selection updates

theorem DocSelection.stateKey_injective : Function.Injective DocSelection.stateKey := by
  intro first second heq
  cases first <;> cases second <;> first | rfl | exact absurd heq (by decide)

theorem partOf_fields {fields : List (String × Value)}
    (hfields : ∀ field ∈ fields, EntryOfNote lawful calls resourceId field)
    (selection : DocSelection) :
    PartOf lawful calls resourceId selection
      (peerUpdatesFor (.encoded (.object fields)) selection) := by
  dsimp only [peerUpdatesFor, JsonText.parseObject, entryUpdates, Value.get]
  cases hfound : fields.find? fun field => field.1 = selection.stateKey with
  | none => exact .nil
  | some field =>
      obtain ⟨other, updates, stateVector, rfl, hpart⟩ :=
        hfields field (List.mem_of_find?_eq_some hfound)
      obtain rfl : other = selection :=
        DocSelection.stateKey_injective (by simpa using List.find?_some hfound)
      simpa using hpart

namespace HandleTask

variable {stateVector : Bytes}

section

variable (hhandle : HandleOf (some resourceId) selection handle since)

include hhandle

theorem getDiffUpdateV2_owned :
    Program.Follows (WhileOpen lawful calls (some resourceId)) (KeepsOwners lawful calls)
      (fun updates _ => PartOf lawful calls resourceId selection updates) since
      (getDiffUpdateV2 handle stateVector) := by
  refine read_whileOpen fun note updates hkeeps howns _ hdiff => ?_
  refine ⟨_, .inl (howns.ofHandle (hhandle.later hkeeps)), ?_⟩
  unfold Yrs.getDiffUpdateV2 at hdiff
  split at hdiff
  · cases hdiff
    exact (lawful.meaning_stateAsUpdate _).le
  · exact lawful.diff_le _ _ _ hdiff

theorem describeFor_owned :
    Program.Follows (WhileOpen lawful calls (some resourceId)) (KeepsOwners lawful calls)
      (fun fields _ => ∀ field ∈ fields, EntryOfNote lawful calls resourceId field) since
      (describeFor selection handle stateVector) := by
  refine .bind ((getDiffUpdateV2_owned hhandle).mapError _) fun updates _ _ hpart => ?_
  refine .bind (getStateVectorV2_owned handle) fun ourStateVector _ _ _ => .pure ?_
  rintro field hfield
  obtain rfl := List.mem_singleton.mp hfield
  exact ⟨selection, updates, ourStateVector, rfl, hpart⟩

theorem processDocStateVectors_owned {peerData : List (String × Value)} :
    Program.Follows (WhileOpen lawful calls (some resourceId)) (KeepsOwners lawful calls)
      (fun fields _ => ∀ field ∈ fields, EntryOfNote lawful calls resourceId field) since
      (processDocStateVectors peerData selection handle) := by
  have hnothing : ∀ field ∈ ([] : List (String × Value)),
      EntryOfNote lawful calls resourceId field := by simp
  unfold processDocStateVectors
  split
  · exact .pure hnothing
  · dsimp only
    split
    · exact .pure hnothing
    · exact describeFor_owned hhandle

end

theorem parsePeer_owned (what : String) (json : JsonText) :
    Program.Follows (WhileOpen lawful calls noteId) (KeepsOwners lawful calls)
      (fun peerData _ => json.parseObject = .ok peerData) since
      (parsePeer what json : HandleTask yrs _) :=
  .mapError _ (.ofExcept fun _ hparse => hparse)

def TextOfNote (lawful : DividingYrs yrs L) (calls : List NoteCall) (resourceId : String)
    (text : JsonText) : Prop :=
  ∀ selection, PartOf lawful calls resourceId selection (peerUpdatesFor text selection)

theorem textOfNote_append {mainDoc imageDoc : List (String × Value)}
    (hmain : ∀ field ∈ mainDoc, EntryOfNote lawful calls resourceId field)
    (himage : ∀ field ∈ imageDoc, EntryOfNote lawful calls resourceId field) :
    TextOfNote lawful calls resourceId (.encoded (.object (mainDoc ++ imageDoc))) := by
  refine partOf_fields fun field hfield => ?_
  rcases List.mem_append.mp hfield with hin | hin
  · exact hmain field hin
  · exact himage field hin

theorem generateUpdatesForPeer_owned (peerStateVectors : JsonText) :
    Program.Follows (WhileOpen lawful calls (some resourceId)) (KeepsOwners lawful calls)
      (fun text _ => TextOfNote lawful calls resourceId text) since
      (generateUpdatesForPeer peerStateVectors) := by
  refine .bind (parsePeer_owned _ peerStateVectors) fun peerData _ _ _ => ?_
  refine .bind cloneDocs_owned fun docs cloned _ hdocs => ?_
  refine .bind (processDocStateVectors_owned (hdocs .main))
    fun mainDoc processed hprocessed hmain => ?_
  refine .bind (processDocStateVectors_owned ((hdocs .image).later hprocessed))
    fun imageDoc _ _ himage => .pure ?_
  exact textOfNote_append hmain himage

theorem applyPeerDoc_owned {update : Bytes}
    (hhandle : HandleOf (some resourceId) selection handle since)
    (hupdate : UpdateFor lawful calls (some resourceId) selection update) :
    Program.Follows (WhileOpen lawful calls (some resourceId)) (KeepsOwners lawful calls)
      (fun _ note => HandleOf (some resourceId) selection handle note) since
      (applyPeerDoc selection handle update) := by
  unfold applyPeerDoc
  split
  · exact .pure hhandle
  · exact (applyUpdateV2_owned hhandle hupdate).mapError _

variable {peerData : List (String × Value)}

theorem processDocUpdatesAndDiff_owned
    (hupdate : UpdateFor lawful calls (some resourceId) selection
      (entryUpdates peerData selection.stateKey)) :
    Program.Follows (WhileOpen lawful calls (some resourceId)) (KeepsOwners lawful calls)
      (fun fields _ => ∀ field ∈ fields, EntryOfNote lawful calls resourceId field) since
      (processDocUpdatesAndDiff peerData selection) := by
  have hnothing : ∀ field ∈ ([] : List (String × Value)),
      EntryOfNote lawful calls resourceId field := by simp
  refine .bind cloneDoc_owned fun doc note _ hhandle => ?_
  unfold entryUpdates at hupdate
  cases hentry : Value.get (.object peerData) selection.stateKey with
  | none => exact .pure hnothing
  | some data =>
      rw [hentry] at hupdate
      refine .bind (applyPeerDoc_owned hhandle hupdate) fun _ applied _ happlied => ?_
      dsimp only
      split
      · exact .pure hnothing
      · refine .bind (describeFor_owned happlied) fun answer described hdescribed hfields => ?_
        refine .bind (storeDoc_owned (happlied.later hdescribed)) fun _ _ _ _ => ?_
        exact .pure hfields

theorem applyPeerEntry_owned
    (hupdate : UpdateFor lawful calls (some resourceId) selection
      (entryUpdates peerData selection.stateKey)) :
    Program.Follows (WhileOpen lawful calls (some resourceId)) (KeepsOwners lawful calls)
      (fun _ _ => True) since (applyPeerEntry peerData selection) := by
  unfold applyPeerEntry
  dsimp only
  split
  · exact .pure trivial
  · refine .bind cloneDoc_owned fun doc note _ hhandle => ?_
    refine .bind (applyPeerDoc_owned hhandle hupdate) fun _ applied _ happlied => ?_
    exact storeDoc_owned happlied

theorem updateFor_entry {text : JsonText} (hparse : text.parseObject = .ok peerData)
    (hupdates : ∀ selection, UpdateFor lawful calls (some resourceId) selection
      (peerUpdatesFor text selection)) (selection : DocSelection) :
    UpdateFor lawful calls (some resourceId) selection
      (entryUpdates peerData selection.stateKey) := by
  have hupdate := hupdates selection
  unfold peerUpdatesFor at hupdate
  rw [hparse] at hupdate
  exact hupdate

variable {peerUpdates : JsonText}

section

variable
  (hupdates : ∀ selection, UpdateFor lawful calls (some resourceId) selection
      (peerUpdatesFor peerUpdates selection))

include hupdates

theorem applyUpdatesAndGenerateDiff_owned :
    Program.Follows (WhileOpen lawful calls (some resourceId)) (KeepsOwners lawful calls)
      (fun text _ => TextOfNote lawful calls resourceId text) since
      (applyUpdatesAndGenerateDiff peerUpdates) := by
  refine .bind (parsePeer_owned _ peerUpdates) fun peerData _ _ hparse => ?_
  have hentry := updateFor_entry hparse hupdates
  refine .bind (processDocUpdatesAndDiff_owned (hentry .main)) fun mainDoc _ _ hmain => ?_
  refine .bind (processDocUpdatesAndDiff_owned (hentry .image))
    fun imageDoc _ _ himage => .pure ?_
  exact textOfNote_append hmain himage

theorem applyPeerUpdates_owned :
    Program.Follows (WhileOpen lawful calls (some resourceId)) (KeepsOwners lawful calls)
      (fun _ _ => True) since (applyPeerUpdates peerUpdates) := by
  refine .bind (parsePeer_owned _ peerUpdates) fun peerData _ _ hparse => ?_
  have hentry := updateFor_entry hparse hupdates
  exact .bind (applyPeerEntry_owned (hentry .main)) fun _ _ _ _ =>
    applyPeerEntry_owned (hentry .image)

end

theorem newDoc_owned {states : DocSelection → Option Bytes}
    (hcall : .noteChange noteId states ∈ calls) (selection : DocSelection) :
    Program.Follows (WhileOpen lawful calls none) (KeepsOwners lawful calls)
      (fun doc note => HandleOf noteId selection doc note) since
      (newDoc noteId selection (states selection)) := by
  refine .atomically_allowed (fun note _ hopen => ?_) fun note doc _ _ hdoc => ?_
  · have howner : ∀ other, other ≠ note.created →
        (note.create noteId selection (loadState (states selection))).owner other =
          note.owner other :=
      fun other hother => Function.update_of_ne hother _ _
    refine ⟨Nat.le_succ _, fun other hother => howner other hother.ne,
      fun howns => ⟨fun other hother => ?_, fun other => ?_⟩⟩
    · by_cases hnew : other = note.created
      · subst hnew
        dsimp only [CurrentNote.create, CurrentNote.setDoc]
        rw [Function.update_self, Function.update_self]
        exact ⟨_, ⊥, .opened hcall selection, .nothing, (sup_of_le_left bot_le).symm⟩
      · rw [howner other hnew]
        dsimp only [CurrentNote.create, CurrentNote.setDoc]
        rw [Function.update_of_ne hnew]
        exact howns.docs other (Nat.lt_of_le_of_ne (Nat.le_of_lt_succ hother) hnew)
    · obtain ⟨hlt, hheld⟩ := howns.held other
      refine ⟨hlt.trans (Nat.lt_succ_self _), ?_⟩
      exact (howner _ hlt.ne).trans hheld
  · cases hdoc
    exact ⟨Nat.lt_succ_self _, Function.update_self _ _ _⟩

theorem setCurrentNote_owned {states : DocSelection → Option Bytes}
    (hcall : .noteChange noteId states ∈ calls) :
    Program.Follows (WhileOpen lawful calls none) (KeepsOwners lawful calls)
      (fun _ _ => True) since (setCurrentNote noteId states) := by
  refine .bind (newDoc_owned hcall .main) fun mainDoc first _ hmain => ?_
  refine .bind (newDoc_owned hcall .image) fun imageDoc second hsecond himage => ?_
  refine .bind (newDoc_owned hcall .comment) fun commentDoc third hthird hcomment => ?_
  refine write_whileOpen fun note note' hkeeps howns _ hset => ?_
  cases hset
  have hmainHere := ((hmain.later hsecond).later hthird).later hkeeps
  have himageHere := (himage.later hthird).later hkeeps
  have hcommentHere := hcomment.later hkeeps
  refine ⟨le_rfl, fun _ _ => rfl, fun _ => ⟨howns.docs, fun selection => ?_⟩⟩
  cases selection with
  | main => exact hmainHere
  | image => exact himageHere
  | comment => exact hcommentHere

end HandleTask

namespace NoteHandler

variable {peerUpdates : JsonText}

def AllBelong (lawful : DividingYrs yrs L) (calls : List NoteCall)
    (messages : List NoteMessage) (_ : CurrentNote yrs) : Prop :=
  ∀ message ∈ messages, Belongs lawful calls message

theorem allBelong_nil (note : CurrentNote yrs) : AllBelong lawful calls [] note :=
  fun _ hmessage => by cases hmessage

variable {message : NoteMessage} {first : CurrentNote yrs → Prop}

theorem allBelong_single (hbelongs : Belongs lawful calls message) (note : CurrentNote yrs) :
    AllBelong lawful calls [message] note := by
  intro other hother
  obtain rfl := List.mem_singleton.mp hother
  exact hbelongs

theorem belongs_of_carried {updates : DocSelection → Bytes}
    (hcarried : message.carried = some (resourceId, updates))
    (hpart : ∀ selection, PartOf lawful calls resourceId selection (updates selection)) :
    Belongs lawful calls message := by
  intro other others heq
  cases hcarried.symm.trans heq
  exact hpart

theorem belongs_of_none (hcarried : message.carried = none) : Belongs lawful calls message := by
  intro other others heq
  cases hcarried.symm.trans heq

theorem changeConnections_owned (change : List String → List String) :
    Program.Follows (WhileOpen lawful calls noteId) (KeepsOwners lawful calls)
      (fun _ _ => True) since (changeConnections change : HandleTask yrs PUnit) := by
  refine write_whileOpen fun note note' _ howns _ hchange => ?_
  cases hchange
  exact ⟨le_rfl, fun _ _ => rfl, fun _ => ⟨howns.docs, howns.held⟩⟩

theorem orNothing_owned {task : NoteHandler yrs}
    (htask : Program.Follows (WhileOpen lawful calls noteId) (KeepsOwners lawful calls)
      (AllBelong lawful calls) since task) :
    Program.Follows (WhileOpen lawful calls noteId) (KeepsOwners lawful calls)
      (AllBelong lawful calls) since (orNothing task) := by
  refine .bind htask.attempt fun outcome note _ houtcome => ?_
  cases outcome with
  | ok messages => exact .pure (houtcome messages rfl)
  | error _ => exact .pure (allBelong_nil note)

theorem handleUpdateEvent_owned
    (hpart : ∀ selection, PartOf lawful calls resourceId selection
      (peerUpdatesFor peerUpdates selection)) :
    Program.Follows (WhileOpen lawful calls (some resourceId)) (KeepsOwners lawful calls)
      (AllBelong lawful calls) since (handleUpdateEvent resourceId peerUpdates) := by
  have hread : Program.Follows (WhileOpen lawful calls (some resourceId))
      (KeepsOwners lawful calls) (fun current _ => current = some resourceId) since
      (getCurrentNote : HandleTask yrs _) := by
    refine read_whileOpen fun note current _ _ hopen hcurrent => ?_
    cases hcurrent
    exact hopen resourceId rfl
  refine .bind hread fun current note _ hcurrent => ?_
  subst hcurrent
  exact .pure (allBelong_single (belongs_of_carried rfl hpart) note)

theorem forCurrentNote_begins {task : NoteHandler yrs}
    (htask : ∀ since, Program.Follows (WhileOpen lawful calls (some resourceId))
      (KeepsOwners lawful calls) (AllBelong lawful calls) since task) :
    Program.Begins first (WhileOpen lawful calls (some resourceId))
      (KeepsOwners lawful calls) (AllBelong lawful calls) (forCurrentNote resourceId task) := by
  refine .step (fun note _ => refl_of _ note) fun note _ => ?_
  change Program.Follows _ _ _ note
    (if (note.noteId == some resourceId) = true then task else pure [])
  split
  · exact htask note
  · exact .pure (allBelong_nil note)

theorem handleDocumentCheck_begins (resourceId : String) :
    Program.Begins first (WhileOpen lawful calls (some resourceId))
      (KeepsOwners lawful calls) (AllBelong lawful calls) (handleDocumentCheck resourceId) := by
  refine .step (fun note _ => refl_of _ note) fun note _ => ?_
  change Program.Follows _ _ _ note
    (if (note.noteId == some resourceId) = true then orNothing _ else pure [_])
  split
  · refine orNothing_owned (.bind HandleTask.getStateVectors_owned
      fun stateVectors after _ _ => .pure ?_)
    exact allBelong_single (belongs_of_none rfl) after
  · exact .pure (allBelong_single (belongs_of_none rfl) note)

variable {call : NoteCall}

theorem applyUpdate_begins {updates : Bytes} {docType : String} (messages : List NoteMessage)
    (hcall : call ∈ calls) (hnote : call.resourceId = some resourceId)
    (hupdates : call.updates (.ofDocType docType) = updates)
    (hmessages : ∀ note, AllBelong lawful calls messages note) :
    Program.Begins first (WhileOpen lawful calls (some resourceId))
      (KeepsOwners lawful calls) (AllBelong lawful calls) (forCurrentNote resourceId do
        HandleTask.applyUpdate updates docType
        return messages) := by
  refine forCurrentNote_begins fun since => ?_
  have hupdate : UpdateFor lawful calls (some resourceId) (.ofDocType docType) updates :=
    hupdates ▸ updateFor_call hcall hnote _
  exact .bind (HandleTask.applyUpdate_owned hupdate) fun _ note _ _ => .pure (hmessages note)

theorem handleDocumentUpdateRequest_begins (stateVectors : JsonText) :
    Program.Begins first (WhileOpen lawful calls (some resourceId))
      (KeepsOwners lawful calls) (AllBelong lawful calls)
      (handleDocumentUpdateRequest resourceId stateVectors) := by
  refine forCurrentNote_begins fun since => orNothing_owned ?_
  refine .bind (HandleTask.generateUpdatesForPeer_owned stateVectors)
    fun peerUpdates note _ htext => .pure ?_
  exact allBelong_single (belongs_of_carried rfl htext) note

section

variable (connectionId : String)
  (hpart : ∀ selection, PartOf lawful calls resourceId selection
      (peerUpdatesFor peerUpdates selection))
  (hupdates : ∀ selection, UpdateFor lawful calls (some resourceId) selection
      (peerUpdatesFor peerUpdates selection))

include hpart hupdates

theorem handleDocumentProcessUpdate_begins :
    Program.Begins first (WhileOpen lawful calls (some resourceId))
      (KeepsOwners lawful calls) (AllBelong lawful calls)
      (handleDocumentProcessUpdate resourceId connectionId peerUpdates) := by
  refine forCurrentNote_begins fun since => orNothing_owned ?_
  refine .bind (HandleTask.applyUpdatesAndGenerateDiff_owned hupdates)
    fun answer _ _ htext => ?_
  refine .bind (changeConnections_owned _) fun _ _ _ _ => ?_
  refine .bind (handleUpdateEvent_owned hpart) fun told note _ htold => .pure ?_
  intro message hmessage
  rcases List.mem_append.mp hmessage with hin | hin
  · exact htold message hin
  · exact allBelong_single (belongs_of_carried rfl htext) note message hin

theorem handleDocumentProcessUpdateResponse_begins :
    Program.Begins first (WhileOpen lawful calls (some resourceId))
      (KeepsOwners lawful calls) (AllBelong lawful calls)
      (handleDocumentProcessUpdateResponse resourceId connectionId peerUpdates) := by
  refine forCurrentNote_begins fun since => ?_
  refine .bind (HandleTask.applyPeerUpdates_owned hupdates).attempt fun _ _ _ _ => ?_
  refine .bind (changeConnections_owned _) fun _ note _ _ => ?_
  split
  · exact .pure (allBelong_nil note)
  · exact handleUpdateEvent_owned hpart

end

theorem broadcastUpdate_begins (payload : UpdatePayload) (hcall : .broadcast payload ∈ calls) :
    Program.Begins first (WhileOpen lawful calls (some payload.resourceId))
      (KeepsOwners lawful calls) (AllBelong lawful calls) (broadcastUpdate payload) := by
  have hpart : ∀ selection, PartOf lawful calls payload.resourceId selection
      ((NoteCall.broadcast payload).updates selection) := .addressed hcall rfl
  refine forCurrentNote_begins fun since => ?_
  refine .bind (read_whileOpen fun _ _ _ _ _ _ => trivial) fun active note _ (_ : True) => ?_
  split
  · exact .pure (allBelong_nil note)
  · exact .pure (allBelong_single (belongs_of_carried rfl hpart) note)

theorem handleLeavingNote_owned (newNoteId : Option String) :
    Program.Follows (WhileOpen lawful calls noteId) (KeepsOwners lawful calls)
      (fun _ _ => True) since (handleLeavingNote newNoteId : HandleTask yrs PUnit) := by
  refine .bind (read_whileOpen fun _ _ _ _ _ _ => trivial)
    fun previousNoteId _ _ (_ : True) => ?_
  cases previousNoteId with
  | none => exact .pure trivial
  | some previous => exact .ite (.pure trivial) (changeConnections_owned _)

theorem noteChange_owned {states : DocSelection → Option Bytes}
    (hcall : .noteChange noteId states ∈ calls) :
    Program.Follows (WhileOpen lawful calls none) (KeepsOwners lawful calls)
      (AllBelong lawful calls) since (noteChange noteId states) := by
  refine .bind (handleLeavingNote_owned noteId) fun _ _ _ _ => ?_
  exact .bind (HandleTask.setCurrentNote_owned hcall)
    fun _ note _ _ => .pure (allBelong_nil note)

theorem handleLiveEditConnected_owned :
    Program.Follows (WhileOpen lawful calls noteId) (KeepsOwners lawful calls)
      (AllBelong lawful calls) since (handleLiveEditConnected : NoteHandler yrs) := by
  refine .bind (read_whileOpen fun _ _ _ _ _ _ => trivial) fun current note _ (_ : True) => ?_
  cases current with
  | some resourceId => exact .pure (allBelong_single (belongs_of_none rfl) note)
  | none => exact .pure (allBelong_nil note)

end NoteHandler

/-- The documents are the notes' own, and a sync's updates that the editor is
told of are the open note's. -/
def Tellable (lawful : DividingYrs yrs L) (calls : List NoteCall) (call : NoteCall)
    (note : CurrentNote yrs) : Prop :=
  OwnsDocuments lawful calls note ∧ ∀ resourceId updates clientId,
    call = .p2pEvent (.updatesEvent resourceId updates clientId) →
      note.noteId = none ∨ note.noteId = some resourceId

namespace NoteHandler

theorem handleUpdateEvent_begins {clientId : Nat} {updates : JsonText}
    (hcall : .p2pEvent (.updatesEvent resourceId updates clientId) ∈ calls) :
    Program.Begins
      (Tellable lawful calls (.p2pEvent (.updatesEvent resourceId updates clientId)))
      (WhileOpen lawful calls (some resourceId)) (KeepsOwners lawful calls)
      (AllBelong lawful calls) (handleUpdateEvent resourceId updates) := by
  refine .step (fun note _ => refl_of _ note) fun note hfirst => ?_
  dsimp only
  rcases hfirst.2 resourceId updates clientId rfl with hnone | hsome
  · rw [hnone]
    exact .pure (allBelong_single (belongs_of_none rfl) note)
  · rw [hsome]
    exact .pure (allBelong_single
      (belongs_of_carried rfl (PartOf.addressed hcall rfl)) note)

end NoteHandler

theorem NoteCall.handler_begins (hcall : call ∈ calls) :
    Program.Begins (Tellable lawful calls call) (WhileOpen lawful calls call.resourceId)
      (KeepsOwners lawful calls) (NoteHandler.AllBelong lawful calls) call.handler := by
  have hopen : ∀ note after, Tellable lawful calls call note →
      WhileOpen lawful calls none note note after := by
    intro note after hfirst
    exact ⟨hfirst.1, fun resourceId hnone => by cases hnone⟩
  have hquiet : ∀ first, Program.Begins first (WhileOpen lawful calls none)
      (KeepsOwners lawful calls) (NoteHandler.AllBelong lawful calls)
      (pure [] : NoteHandler yrs) :=
    fun first => .done fun messages note hresult => by
      cases hresult
      exact NoteHandler.allBelong_nil note
  cases call with
  | noteChange noteId states =>
      exact .of_follows (fun since => NoteHandler.noteChange_owned hcall) hopen
  | syncUpdate payload =>
      exact NoteHandler.applyUpdate_begins [] hcall rfl (if_pos rfl) NoteHandler.allBelong_nil
  | broadcast payload => exact NoteHandler.broadcastUpdate_begins payload hcall
  | p2pEvent event =>
      have hpart : ∀ resourceId, NoteCall.resourceId (.p2pEvent event) = some resourceId →
          ∀ selection, PartOf lawful calls resourceId selection
            (NoteCall.updates (.p2pEvent event) selection) :=
        fun _ hnote => PartOf.addressed hcall hnote
      have hupdates : ∀ resourceId, NoteCall.resourceId (.p2pEvent event) = some resourceId →
          ∀ selection, UpdateFor lawful calls (some resourceId) selection
            (NoteCall.updates (.p2pEvent event) selection) :=
        fun _ hnote => updateFor_call hcall hnote
      cases event with
      | documentCheck resourceId connectionId =>
          exact NoteHandler.handleDocumentCheck_begins resourceId
      | updateRequest resourceId connectionId stateVectors userId =>
          exact NoteHandler.handleDocumentUpdateRequest_begins stateVectors
      | processUpdate resourceId connectionId updates clientId =>
          exact NoteHandler.handleDocumentProcessUpdate_begins connectionId (hpart _ rfl)
            (hupdates _ rfl)
      | processUpdateResponse resourceId connectionId updates clientId =>
          exact NoteHandler.handleDocumentProcessUpdateResponse_begins connectionId (hpart _ rfl)
            (hupdates _ rfl)
      | editingEvent resourceId clientId updates docType =>
          refine NoteHandler.applyUpdate_begins _ hcall rfl (if_pos rfl) ?_
          exact NoteHandler.allBelong_single (NoteHandler.belongs_of_carried rfl (hpart _ rfl))
      | updatesEvent resourceId updates clientId =>
          exact NoteHandler.handleUpdateEvent_begins hcall
      | liveEditConnected connectionId =>
          exact .of_follows (fun since => NoteHandler.handleLiveEditConnected_owned) hopen
      | documentChanged resourceId connectionId =>
          refine .of_follows (fun since => ?_) hopen
          exact .bind (NoteHandler.changeConnections_owned _)
            fun _ note _ _ => .pure (NoteHandler.allBelong_nil note)
      | disconnected | awarenessEvent | error | documentMismatch | resourceAdded
      | foldersAdded => exact hquiet _

abbrev NotePool (yrs : Yrs) := Pool NoteCall (CurrentNote yrs) String (List NoteMessage)

def afterNoteCalls (events : List (PoolEvent NoteCall)) : NotePool yrs :=
  run (Pool.step NoteCall.handler) { state := .default } events

/-- The step of a task that has found its note open is taken while the note is
still open, and the updates of a sync are told while no other note is open. -/
structure Undisturbed (index : Nat) (pool : NotePool yrs) : Prop where
  stillOpen : ∀ task next rest resourceId, pool.running[index]? = some task →
    task.left = .step next rest → task.left ≠ task.call.handler →
    task.call.resourceId = some resourceId → pool.state.noteId = some resourceId
  told : ∀ task next rest resourceId updates clientId, pool.running[index]? = some task →
    task.left = .step next rest →
    task.call = .p2pEvent (.updatesEvent resourceId updates clientId) →
    pool.state.noteId = none ∨ pool.state.noteId = some resourceId

def startedCalls (events : List (PoolEvent NoteCall)) : List NoteCall :=
  events.filterMap PoolEvent.started?

theorem mem_startedCalls {events : List (PoolEvent NoteCall)} (hstart : .start call ∈ events) :
    call ∈ startedCalls events :=
  List.mem_filterMap.mpr ⟨_, hstart, rfl⟩

variable (lawful calls) in
theorem default_ownsDocuments : OwnsDocuments lawful calls (.default : CurrentNote yrs) := by
  have hnew : ∀ selection, Owned lawful calls none selection (lawful.state yrs.new) := by
    intro selection
    exact ⟨⊥, ⊥, .nothing selection, .nothing,
      lawful.state_new.trans (sup_of_le_left bot_le).symm⟩
  refine ⟨fun handle hhandle => ?_, fun selection => ?_⟩
  · match handle, hhandle with
    | 0, _ => exact hnew _
    | 1, _ => exact hnew _
    | 2, _ => exact hnew _
  · cases selection <;> exact ⟨by simp [CurrentNote.default], rfl⟩

/-- When no note is changed while a task is at work for it, the open note has its
own documents, and what is sent as a note's updates is the note's. -/
theorem open_note_owns_its_documents (lawful : DividingYrs yrs L)
    {events : List (PoolEvent NoteCall)}
    (hundisturbed : ∀ earlier index, earlier ++ [.advance index] <+: events →
      Undisturbed index (afterNoteCalls earlier : NotePool yrs)) :
    (∀ selection, Owned lawful (startedCalls events)
      (afterNoteCalls events : NotePool yrs).state.noteId selection
      (lawful.state ((afterNoteCalls events : NotePool yrs).state.doc selection))) ∧
    ∀ task ∈ (afterNoteCalls events : NotePool yrs).running, ∀ messages,
      task.left = .done (.ok messages) →
      ∀ message ∈ messages, Belongs lawful (startedCalls events) message := by
  have hstart := default_ownsDocuments lawful (startedCalls events)
  have hbody : ∀ call, .start call ∈ events →
      Program.Begins (Tellable lawful (startedCalls events) call)
        (WhileOpen lawful (startedCalls events) call.resourceId)
        (KeepsOwners lawful (startedCalls events))
        (NoteHandler.AllBelong lawful (startedCalls events)) call.handler :=
    fun call hcall => NoteCall.handler_begins (mem_startedCalls hcall)
  have hturn : ∀ earlier index, earlier ++ [.advance index] <+: events →
      KeepsOwners lawful (startedCalls events) .default
        (afterNoteCalls earlier : NotePool yrs).state →
      Pool.TurnAllowed NoteCall.handler (Tellable lawful (startedCalls events))
        (fun call => WhileOpen lawful (startedCalls events) call.resourceId) index
        (afterNoteCalls earlier) := by
    intro earlier index hearlier hreach
    have howns := hreach.owns hstart
    obtain ⟨hopen, htold⟩ := hundisturbed earlier index hearlier
    refine ⟨fun task next rest htask hleft _ => ⟨howns, ?_⟩,
      fun task next rest htask hleft hbegun => ⟨howns, ?_⟩⟩
    · exact fun resourceId updates clientId hcall =>
        htold task next rest resourceId updates clientId htask hleft hcall
    · exact fun resourceId hnote => hopen task next rest resourceId htask hleft hbegun hnote
  obtain ⟨hreach, htasks⟩ := Pool.underway_run hbody hturn events List.prefix_rfl
  have howns : OwnsDocuments lawful (startedCalls events)
      (afterNoteCalls events : NotePool yrs).state := hreach.owns hstart
  refine ⟨fun selection => howns.ofHandle (howns.held selection),
    fun task htask messages hdone => ?_⟩
  obtain ⟨earlier, hearlier⟩ := Pool.started_of_running _ htask
  have hcall : .start task.call ∈ events := hearlier.subset (by simp)
  exact (htasks task htask).result (hbody task.call hcall) (fun _ _ _ hgood => hgood) hdone

theorem undisturbed_of {index : Nat} {pool : NotePool yrs}
    {task : Running NoteCall (CurrentNote yrs) String (List NoteMessage)}
    (htask : pool.running[index]? = some task)
    (hnote : task.call.resourceId = none ∨ task.call.resourceId = pool.state.noteId) :
    Undisturbed index pool := by
  have hsame : ∀ other resourceId, pool.running[index]? = some other →
      other.call.resourceId = some resourceId → pool.state.noteId = some resourceId := by
    intro other resourceId hother hresource
    obtain rfl : task = other := Option.some.inj (htask.symm.trans hother)
    rcases hnote with hnone | hopen
    · rw [hnone] at hresource
      cases hresource
    · exact hopen ▸ hresource
  refine ⟨fun other _ _ resourceId hother _ _ hresource =>
    hsame other resourceId hother hresource,
    fun other _ _ resourceId _ _ hother _ hcall => .inr (hsame other resourceId hother ?_)⟩
  rw [hcall]
  rfl

def editedNote : List (PoolEvent NoteCall) :=
  [.start (.noteChange (some "a") fun _ => none),
    .advance 0, .advance 0, .advance 0, .advance 0, .advance 0,
    .start (.p2pEvent (.editingEvent "a" 0 [1] "main")),
    .advance 1, .advance 1, .advance 1, .advance 1]

theorem open_note_owns_its_documents_edited :
    Owned Yrs.dividingBits (startedCalls editedNote)
      (afterNoteCalls editedNote : NotePool Yrs.bits).state.noteId .main
      (updateBits ((afterNoteCalls editedNote : NotePool Yrs.bits).state.doc .main)) := by
  have heach : EachEvent (fun earlier event => ∀ index, event = .advance index →
      Undisturbed index (afterNoteCalls earlier : NotePool Yrs.bits)) [] editedNote := by
    have hadvance : ∀ earlier index task,
        (afterNoteCalls earlier : NotePool Yrs.bits).running[index]? = some task →
        task.call.resourceId = none ∨
          task.call.resourceId = (afterNoteCalls earlier : NotePool Yrs.bits).state.noteId →
        ∀ other, PoolEvent.advance index = (.advance other : PoolEvent NoteCall) →
          Undisturbed other (afterNoteCalls earlier : NotePool Yrs.bits) := by
      intro earlier index task htask hnote other heq
      cases heq
      exact undisturbed_of htask hnote
    refine ⟨fun _ heq => (by cases heq), ?_, ?_, ?_, ?_, ?_,
      fun _ heq => (by cases heq), ?_, ?_, ?_, ?_, trivial⟩
    · exact hadvance _ _ _ rfl (.inl rfl)
    · exact hadvance _ _ _ rfl (.inl rfl)
    · exact hadvance _ _ _ rfl (.inl rfl)
    · exact hadvance _ _ _ rfl (.inl rfl)
    · exact hadvance _ _ _ rfl (.inl rfl)
    · exact hadvance _ _ _ rfl (.inr rfl)
    · exact hadvance _ _ _ rfl (.inr rfl)
    · exact hadvance _ _ _ rfl (.inr rfl)
    · exact hadvance _ _ _ rfl (.inr rfl)
  exact (open_note_owns_its_documents Yrs.dividingBits
    fun earlier index hearlier => heach.of_prefix hearlier index rfl).1 .main

/-- An update for a note is checked while the note is open, and applied when
another one has been opened. -/
def switchedNote : List (PoolEvent NoteCall) :=
  [.start (.noteChange (some "a") fun _ => none),
    .advance 0, .advance 0, .advance 0, .advance 0, .advance 0,
    .start (.p2pEvent (.editingEvent "a" 0 [1] "main")), .advance 1,
    .start (.noteChange (some "b") fun _ => none),
    .advance 2, .advance 2, .advance 2, .advance 2, .advance 2, .advance 2,
    .advance 1, .advance 1, .advance 1]

theorem addressed_switchedNote {selection : DocSelection} {brought : Fin 8 → Bool}
    (haddressed : Addressed Yrs.dividingBits (startedCalls switchedNote) (some "b") selection
      brought) : brought = ⊥ := by
  generalize hnote : some "b" = noteId at haddressed
  induction haddressed with
  | nothing => rfl
  | update hcall hresource hmeaning =>
      simp only [startedCalls, switchedNote, PoolEvent.started?, List.filterMap_cons,
        List.filterMap_nil, List.mem_cons, List.not_mem_nil, or_false] at hcall
      rcases hcall with rfl | rfl | rfl
      · cases hresource
      · exact absurd (hnote.trans hresource.symm) (by decide)
      · cases hresource
  | sup _ _ ihfirst ihsecond => rw [ihfirst hnote, ihsecond hnote, sup_idem]

/-- The other note then has an update that is not its own. -/
theorem update_applied_to_other_note :
    (afterNoteCalls switchedNote : NotePool Yrs.bits).state.noteId = some "b" ∧
      ¬Owned Yrs.dividingBits (startedCalls switchedNote) (some "b") .main
        (updateBits ((afterNoteCalls switchedNote : NotePool Yrs.bits).state.doc .main)) := by
  refine ⟨rfl, ?_⟩
  rintro ⟨loaded, brought, hloaded, haddressed, hcontent⟩
  rw [addressed_switchedNote haddressed] at hcontent
  have hnew : loaded = updateBits 0 := by
    cases hloaded with
    | opened hcall =>
        simp only [startedCalls, switchedNote, PoolEvent.started?, List.filterMap_cons,
          List.filterMap_nil, List.mem_cons, List.not_mem_nil, or_false] at hcall
        rcases hcall with hcall | hcall | hcall
        · simp at hcall
        · cases hcall
        · cases hcall
          rfl
  have hfirst := congrFun hcontent 0
  rw [hnew] at hfirst
  exact absurd hfirst (by decide)

end Osvauld.Livnote
