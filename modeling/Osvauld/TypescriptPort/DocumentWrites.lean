import Osvauld.Data.Interleaving
import Osvauld.TypescriptPort.Documents

namespace Osvauld.TypescriptPort

open Osvauld.Core Data

/-! Operations on one document that run side by side. Each of them reads the record,
and later writes it back as a whole. -/

inductive DocumentCall
  | getDocument (now : Date) (userId : String) (userKeyPair : KeyPair) (documentKey : Bytes)
  | updateDocument (contentIv : Bytes) (now : Date) (content userId : String)
      (userKeyPair : KeyPair) (documentKey : Bytes)
  | moveToFolder (now : Date) (folderId : Option String) (userId : String)
  | toggleFavorite (now : Date) (userId : String)
  | addTags (now : Date) (tags : List String) (userId : String)
  | removeTags (now : Date) (tags : List String) (userId : String)

variable (crypto : OsvauldCrypto) (docId : String)

namespace DocumentCall

open DocumentManager in
def body : DocumentCall → DocumentProgram Unit
  | .getDocument now userId userKeyPair documentKey => do
      let _ ← DocumentManager.getDocument crypto now docId userId userKeyPair documentKey
  | .updateDocument contentIv now content userId userKeyPair documentKey => do
      let _ ← DocumentManager.updateDocument crypto contentIv now docId content userId
        userKeyPair documentKey
  | .moveToFolder now folderId userId => DocumentManager.moveToFolder now docId folderId userId
  | .toggleFavorite now userId => do
      let _ ← DocumentManager.toggleFavorite now docId userId
  | .addTags now tags userId => do
      let _ ← DocumentManager.addTags now docId tags userId
  | .removeTags now tags userId => do
      let _ ← DocumentManager.removeTags now docId tags userId

def change : DocumentCall → Document → Document
  | .getDocument now _ _ _, document => { document with lastAccessedAt := now }
  | .updateDocument contentIv now content _ userKeyPair documentKey, document =>
      let encrypted :=
        encrypt crypto.toAccountCrypto (encodeText content) documentKey contentIv
      { document with
        encryptedContent := Base64.encode encrypted.ciphertext
        contentIV := Base64.encode encrypted.iv
        signature := Base64.encode (crypto.sign encrypted.ciphertext userKeyPair.privateKey)
        updatedAt := now }
  | .moveToFolder now folderId _, document =>
      { document with folderId := some folderId, updatedAt := now }
  | .toggleFavorite now _, document =>
      { document with isFavorite := !document.isFavorite, updatedAt := now }
  | .addTags now tags _, document =>
      { document with tags := (document.tags ++ tags).eraseDups, updatedAt := now }
  | .removeTags now tags _, document =>
      { document with tags := document.tags.filter fun tag => tag ∉ tags, updatedAt := now }

def applied (call : DocumentCall) (document : Document) : Document :=
  Entity.assign document (call.change crypto document)

/-- Written back now, the record that was read changes nothing but what the call sets;
and what the call computes of it comes out the same. -/
def Unaffected (read stored : Document) : DocumentCall → Prop
  | .getDocument _ _ _ _ =>
      Entity.assign stored { read with lastAccessedAt := stored.lastAccessedAt } = stored
  | .updateDocument _ _ _ _ _ _ =>
      Entity.assign stored
        { read with
          encryptedContent := stored.encryptedContent
          contentIV := stored.contentIV
          signature := stored.signature
          updatedAt := stored.updatedAt } = stored
  | .moveToFolder _ _ _ =>
      Entity.assign stored
        { read with folderId := stored.folderId, updatedAt := stored.updatedAt } = stored
  | .toggleFavorite _ _ =>
      Entity.assign stored { read with updatedAt := stored.updatedAt } = stored
  | .addTags _ tags _ =>
      Entity.assign stored
        { read with tags := stored.tags, updatedAt := stored.updatedAt } = stored ∧
      (read.tags ++ tags).eraseDups = (stored.tags ++ tags).eraseDups
  | .removeTags _ tags _ =>
      Entity.assign stored
        { read with tags := stored.tags, updatedAt := stored.updatedAt } = stored ∧
      (read.tags.filter fun tag => tag ∉ tags) = stored.tags.filter fun tag => tag ∉ tags

end DocumentCall

/-- The record is what the changes of some calls make of the first one, one call after
the other. Every call that has resolved is one of them. -/
structure NothingLost (first : Document) (written : List (Nat × DocumentCall))
    (pool : Pool DocumentCall (Table Document) PortError Unit) : Prop where
  once : (written.map Prod.fst).Nodup
  started : ∀ entry ∈ written, ∃ task, pool.running[entry.1]? = some task ∧ task.call = entry.2
  resolved : ∀ index task, pool.running[index]? = some task → task.left = .done (.ok ()) →
    (index, task.call) ∈ written
  record : pool.state.get docId =
    some (written.foldl (fun document entry => entry.2.applied crypto document) first)

def WriteCurrent (start : Table Document) (earlier : List (PoolEvent DocumentCall))
    (event : PoolEvent DocumentCall) : Prop :=
  ∀ index, event = .advance index → ∀ task data rest,
    (run (Pool.step (DocumentCall.body crypto docId)) { state := start } earlier).running[index]? =
      some task →
    task.left = .step (fun documents => documents.update docId data) rest →
    ∀ read stored, task.since.get docId = some read →
      (run (Pool.step (DocumentCall.body crypto docId)) { state := start } earlier).state.get docId =
        some stored →
      task.call.Unaffected read stored

namespace DocumentCall

variable {crypto docId}

theorem assign_self (document : Document) : Entity.assign document document = document := by
  simp [Entity.assign]

theorem unaffected_self (call : DocumentCall) (document : Document) :
    call.Unaffected document document := by
  have hself := assign_self document
  cases call with
  | addTags => exact ⟨hself, rfl⟩
  | removeTags => exact ⟨hself, rfl⟩
  | _ => exact hself

theorem assign_change_of_unaffected {call : DocumentCall} {read stored : Document}
    (hunaffected : call.Unaffected read stored) :
    Entity.assign stored (call.change crypto read) = call.applied crypto stored := by
  obtain ⟨_, _, _, _, _, _, _, _, readFolder, _, _, _, _, _⟩ := read
  obtain ⟨_, _, _, _, _, _, _, _, storedFolder, _, _, _, _, _⟩ := stored
  cases call <;>
    simp_all [Unaffected, applied, change, Entity.assign]

end DocumentCall

open DocumentManager

def save (docId : String) (data : Document) : DocumentProgram Unit := do
  let _ ← BaseRepository.update docId data

def reread (docId : String) : DocumentProgram Unit := do
  let _ ← (BaseRepository.get docId : DocumentProgram Document)

/-- A call that has not written. When it comes to write, it writes its change of the
record that its last step has read. -/
inductive Unsaved (docId : String) (change : Document → Document) :
    Table Document → DocumentProgram Unit → Prop
  | failed {since : Table Document} {error : PortError} :
      Unsaved docId change since (.done (.error error))
  | saving {since : Table Document} {read : Document} (hread : since.get docId = some read) :
      Unsaved docId change since (save docId (change read))
  | reading {since : Table Document} {rest : Table Document → DocumentProgram Unit}
      (hrest : ∀ documents, Unsaved docId change documents (rest documents)) :
      Unsaved docId change since (.step (fun documents => documents) rest)

variable {crypto docId} {change : Document → Document}

variable {since : Table Document}

section

variable {rest : Document → DocumentProgram Unit}
  (hrest : ∀ documents read, documents.get docId = some read →
      Unsaved docId change documents (rest read))

include hrest

theorem Unsaved.get : Unsaved docId change since (BaseRepository.get docId >>= rest) := by
  refine .reading fun documents => ?_
  dsimp only
  cases hget : documents.get docId with
  | none => exact .failed
  | some read => exact hrest documents read hget

theorem Unsaved.getOwned {userId : String} :
    Unsaved docId change since (getOwned docId userId >>= rest) := by
  rw [DocumentManager.getOwned, Program.bind_assoc]
  refine .get fun documents read hget => ?_
  by_cases howner : read.ownerId ≠ userId
  · rw [if_pos howner]
    exact .failed
  · rw [if_neg howner]
    exact hrest documents read hget

end

theorem Unsaved.ofExcept {Value : Type} {outcome : Except PortError Value}
    {rest : Value → DocumentProgram Unit} (hrest : ∀ value, Unsaved docId change since (rest value)) :
    Unsaved docId change since (Program.ofExcept outcome >>= rest) := by
  cases outcome with
  | error error => exact .failed
  | ok value => exact hrest value

theorem unsaved_changeOwned (since : Table Document) (userId : String) :
    Unsaved docId change since (changeOwned docId userId change >>= fun _ => pure ()) := by
  rw [changeOwned, Program.bind_assoc]
  refine .getOwned fun documents read hget => ?_
  dsimp only
  rw [Program.bind_assoc]
  exact .saving hget

theorem unsaved_body (call : DocumentCall) (since : Table Document) :
    Unsaved docId (call.change crypto) since (call.body crypto docId) := by
  have hsaving : ∀ (documents : Table Document) read, documents.get docId = some read →
      Unsaved docId (call.change crypto) documents (save docId (call.change crypto read)) :=
    fun _ _ hget => .saving hget
  cases call with
  | getDocument now userId userKeyPair documentKey =>
      rw [DocumentCall.body, DocumentManager.getDocument, Program.bind_assoc]
      refine .getOwned fun documents document _ => ?_
      rw [Program.bind_assoc]
      refine .ofExcept fun encrypted => ?_
      rw [Program.bind_assoc]
      refine .ofExcept fun content => ?_
      rw [Program.bind_assoc, updateLastAccessed, Program.bind_assoc]
      refine .get fun documents read hget => ?_
      rw [Program.bind_assoc]
      exact hsaving documents read hget
  | updateDocument contentIv now content userId userKeyPair documentKey =>
      rw [DocumentCall.body, DocumentManager.updateDocument, Program.bind_assoc]
      refine .getOwned fun documents document hget => ?_
      rw [Program.bind_assoc]
      refine .ofExcept fun encrypted => ?_
      have hid : document.id = docId := (Table.mem_of_get hget).2
      subst hid
      dsimp only
      rw [Program.bind_assoc]
      exact hsaving documents document hget
  | moveToFolder now folderId userId => exact unsaved_changeOwned since userId
  | toggleFavorite now userId => exact unsaved_changeOwned since userId
  | addTags now tags userId => exact unsaved_changeOwned since userId
  | removeTags now tags userId => exact unsaved_changeOwned since userId

abbrev DocumentPool := Pool DocumentCall (Table Document) PortError Unit

def Tracked (crypto : OsvauldCrypto) (docId : String) (written : List (Nat × DocumentCall))
    (index : Nat) (task : Running DocumentCall (Table Document) PortError Unit) : Prop :=
  (index ∉ written.map Prod.fst ∧
    Unsaved docId (task.call.change crypto) task.since task.left) ∨
  ((index, task.call) ∈ written ∧ (task.left = reread docId ∨ task.left = .done (.ok ())))

structure Serial (crypto : OsvauldCrypto) (docId : String) (first : Document)
    (written : List (Nat × DocumentCall)) (pool : DocumentPool) : Prop where
  nodup : (written.map Prod.fst).Nodup
  started : ∀ entry ∈ written, ∃ task, pool.running[entry.1]? = some task ∧ task.call = entry.2
  tracked : ∀ index task, pool.running[index]? = some task →
    Tracked crypto docId written index task
  record : pool.state.get docId =
    some (written.foldl (fun document entry => entry.2.applied crypto document) first)

namespace Serial

variable {first : Document} {written : List (Nat × DocumentCall)} {pool : DocumentPool}

theorem nothingLost (hserial : Serial crypto docId first written pool) :
    NothingLost crypto docId first written pool := by
  refine ⟨hserial.nodup, hserial.started, fun index task htask hdone => ?_, hserial.record⟩
  obtain ⟨-, hunsaved⟩ | ⟨hwritten, -⟩ := hserial.tracked index task htask
  · rw [hdone] at hunsaved
    cases hunsaved
  · exact hwritten

theorem start (hserial : Serial crypto docId first written pool) (call : DocumentCall) :
    Serial crypto docId first written (Pool.start (DocumentCall.body crypto docId) call pool) where
  nodup := hserial.nodup
  started := by
    intro entry hentry
    obtain ⟨task, htask, hcall⟩ := hserial.started entry hentry
    exact ⟨task, (List.getElem?_append_left (List.getElem?_eq_some_iff.mp htask).1).trans htask,
      hcall⟩
  tracked := by
    intro index task htask
    change (pool.running ++ _)[index]? = some task at htask
    rcases Nat.lt_or_ge index pool.running.length with hlt | hge
    · rw [List.getElem?_append_left hlt] at htask
      exact hserial.tracked index task htask
    · rw [List.getElem?_append_right hge] at htask
      obtain rfl := List.mem_singleton.mp (List.mem_of_getElem? htask)
      refine .inl ⟨fun hmem => ?_, unsaved_body call pool.state⟩
      obtain ⟨entry, hentry, rfl⟩ := List.mem_map.mp hmem
      obtain ⟨found, hfound, -⟩ := hserial.started entry hentry
      exact absurd (List.getElem?_eq_some_iff.mp hfound).1 (Nat.not_lt.mpr hge)
  record := hserial.record

theorem replace (hserial : Serial crypto docId first written pool)
    {index : Nat} {task after : Running DocumentCall (Table Document) PortError Unit}
    {documents : Table Document} {written' : List (Nat × DocumentCall)}
    (htask : pool.running[index]? = some task) (hcall : after.call = task.call)
    (hwritten : written' = written ∨
      (written' = written ++ [(index, task.call)] ∧ index ∉ written.map Prod.fst))
    (htracked : Tracked crypto docId written' index after)
    (hrecord : documents.get docId =
      some (written'.foldl (fun document entry => entry.2.applied crypto document) first)) :
    Serial crypto docId first written'
      { state := documents, running := pool.running.set index after } where
  nodup := by
    obtain rfl | ⟨rfl, hfresh⟩ := hwritten
    · exact hserial.nodup
    · rw [List.map_append, List.nodup_append]
      refine ⟨hserial.nodup, List.nodup_singleton _, ?_⟩
      intro other hother new hnew heq
      obtain rfl := List.mem_singleton.mp hnew
      exact hfresh (heq ▸ hother)
  started := by
    have hafter : (pool.running.set index after)[index]? = some after := by
      rw [List.getElem?_set_self (List.getElem?_eq_some_iff.mp htask).1]
    intro entry hentry
    have hentry : entry ∈ written ∨ entry = (index, task.call) := by
      obtain rfl | ⟨rfl, -⟩ := hwritten
      · exact .inl hentry
      · simpa using hentry
    obtain hold | rfl := hentry
    · obtain ⟨found, hfound, hfoundCall⟩ := hserial.started entry hold
      by_cases hsame : entry.1 = index
      · rw [hsame] at hfound ⊢
        obtain rfl : task = found := Option.some.inj (htask.symm.trans hfound)
        exact ⟨after, hafter, hcall.trans hfoundCall⟩
      · exact ⟨found, (List.getElem?_set_ne (Ne.symm hsame)).trans hfound, hfoundCall⟩
    · exact ⟨after, hafter, hcall⟩
  tracked := by
    intro other found hfound
    rw [List.getElem?_set] at hfound
    split at hfound
    · next heq =>
        subst heq
        split at hfound
        · cases hfound
          exact htracked
        · cases hfound
    · next hne =>
        obtain rfl | ⟨rfl, -⟩ := hwritten
        · exact hserial.tracked other found hfound
        · obtain ⟨hunwritten, hunsaved⟩ | ⟨hmem, hleft⟩ := hserial.tracked other found hfound
          · refine .inl ⟨?_, hunsaved⟩
            simpa [Ne.symm hne] using hunwritten
          · exact .inr ⟨List.mem_append_left _ hmem, hleft⟩
  record := hrecord

theorem advance (hserial : Serial crypto docId first written pool) {index : Nat}
    (hcurrent : ∀ task data rest, pool.running[index]? = some task →
      task.left = .step (fun documents => documents.update docId data) rest →
      ∀ read stored, task.since.get docId = some read → pool.state.get docId = some stored →
        task.call.Unaffected read stored) :
    ∃ written', written <+: written' ∧
      Serial crypto docId first written' (Pool.advance index pool) := by
  obtain hsame | ⟨task, next, rest, htask, hleft, hadvance⟩ := Pool.advance_cases index pool
  · rw [hsame]
    exact ⟨written, List.prefix_rfl, hserial⟩
  rw [hadvance]
  have htracked := hserial.tracked index task htask
  obtain ⟨hunwritten, hunsaved⟩ | ⟨hwritten, hreread | hdone⟩ := htracked
  · rw [hleft] at hunsaved
    generalize hprogram : Program.step next rest = left at hunsaved
    cases hunsaved with
    | failed => cases hprogram
    | @saving _ read hread =>
        obtain ⟨rfl, rfl⟩ := Program.step.inj hprogram
        have hcall := hcurrent task (task.call.change crypto read) _ htask hleft read _ hread
          hserial.record
        refine ⟨written ++ [(index, task.call)], List.prefix_append _ _, hserial.replace htask rfl
          (.inr ⟨rfl, hunwritten⟩) (.inr ⟨by simp, .inl rfl⟩) ?_⟩
        rw [List.foldl_append]
        exact (Table.get_update hserial.record).trans
          (congrArg some (DocumentCall.assign_change_of_unaffected hcall))
    | reading hrest =>
        obtain ⟨rfl, rfl⟩ := Program.step.inj hprogram
        exact ⟨written, List.prefix_rfl, hserial.replace htask rfl (.inl rfl)
          (.inl ⟨hunwritten, hrest pool.state⟩) hserial.record⟩
  · rw [hleft] at hreread
    obtain ⟨rfl, rfl⟩ := Program.step.inj hreread
    refine ⟨written, List.prefix_rfl, hserial.replace htask rfl (.inl rfl)
      (.inr ⟨hwritten, .inr ?_⟩) hserial.record⟩
    dsimp only
    rw [hserial.record]
    rfl
  · rw [hleft] at hdone
    cases hdone

end Serial

theorem serial_run {start : Table Document} {first : Document}
    (hfirst : start.get docId = some first) {events : List (PoolEvent DocumentCall)}
    (hcurrent : ∀ earlier event, earlier ++ [event] <+: events →
      WriteCurrent crypto docId start earlier event) :
    ∃ written, Serial crypto docId first written
        (run (Pool.step (DocumentCall.body crypto docId)) { state := start } events) ∧
      ∀ earlier, earlier <+: events → ∃ before, before <+: written ∧
        Serial crypto docId first before
          (run (Pool.step (DocumentCall.body crypto docId)) { state := start } earlier) := by
  induction events using List.reverseRecOn with
  | nil =>
      have hstart : Serial crypto docId first [] { state := start } :=
        ⟨List.nodup_nil, by simp, by simp, hfirst⟩
      refine ⟨[], hstart, fun earlier hearlier => ⟨[], List.prefix_rfl, ?_⟩⟩
      rw [List.prefix_nil.mp hearlier]
      exact hstart
  | append_singleton events event ih =>
      obtain ⟨written, hserial, hearlier⟩ := ih fun earlier other hpre =>
        hcurrent earlier other (hpre.trans (List.prefix_append _ _))
      have hstep : ∃ written', written <+: written' ∧ Serial crypto docId first written'
          (run (Pool.step (DocumentCall.body crypto docId)) { state := start }
            (events ++ [event])) := by
        rw [run_concat]
        cases event with
        | start call => exact ⟨written, List.prefix_rfl, hserial.start call⟩
        | advance index =>
            exact hserial.advance (hcurrent events _ List.prefix_rfl index rfl)
      obtain ⟨written', hpre, hafter⟩ := hstep
      refine ⟨written', hafter, fun earlier hbefore => ?_⟩
      rcases List.prefix_concat_iff.mp hbefore with rfl | hbefore
      · exact ⟨written', List.prefix_rfl, hafter⟩
      · obtain ⟨before, hwritten, hkept⟩ := hearlier earlier hbefore
        exact ⟨before, hwritten.trans hpre, hkept⟩

theorem writeCurrent_of_since {start : Table Document} {earlier : List (PoolEvent DocumentCall)}
    {event : PoolEvent DocumentCall}
    (hsince : ∀ index task, event = .advance index →
      (run (Pool.step (DocumentCall.body crypto docId)) { state := start } earlier).running[index]? =
        some task →
      task.since.get docId =
        (run (Pool.step (DocumentCall.body crypto docId)) { state := start } earlier).state.get
          docId) :
    WriteCurrent crypto docId start earlier event := by
  intro index hindex task data rest htask _ read stored hread hstored
  have hsame := hsince index task hindex htask
  rw [hread, hstored] at hsame
  obtain rfl := Option.some.inj hsame
  exact task.call.unaffected_self read

theorem mem_tags_of_added {written : List (Nat × DocumentCall)} {first : Document}
    {index : Nat} {now : Date} {tags : List String} {userId tag : String}
    (hkeeps : ∀ entry ∈ written, ∀ now tags userId, entry.2 ≠ .removeTags now tags userId)
    (hadded : (index, DocumentCall.addTags now tags userId) ∈ written) (htag : tag ∈ tags) :
    tag ∈ (written.foldl (fun document entry => entry.2.applied crypto document) first).tags := by
  induction written using List.reverseRecOn with
  | nil => cases hadded
  | append_singleton before entry ih =>
      rw [List.foldl_append, List.foldl_cons, List.foldl_nil]
      rcases List.mem_append.mp hadded with hold | hnew
      · have hbefore := ih (fun other hother => hkeeps other (List.mem_append_left _ hother)) hold
        have hentry := hkeeps entry (by simp)
        obtain ⟨place, call⟩ := entry
        cases call with
        | addTags => exact List.mem_eraseDups.mpr (List.mem_append_left _ hbefore)
        | removeTags now tags userId => exact absurd rfl (hentry now tags userId)
        | _ => exact hbefore
      · obtain rfl := List.mem_singleton.mp hnew
        exact List.mem_eraseDups.mpr (List.mem_append_right _ htag)

def tagCall : DocumentCall := .addTags 2 ["work"] "u1"

def readCall : DocumentCall := .getDocument 3 "u1" ⟨[1], [1]⟩ [1]

def tagAlone : List (PoolEvent DocumentCall) :=
  [.start tagCall, .advance 0, .advance 0, .advance 0]

theorem tagAlone_current (earlier : List (PoolEvent DocumentCall))
    (event : PoolEvent DocumentCall) (hearlier : earlier ++ [event] <+: tagAlone) :
    WriteCurrent plainCrypto "d1" untaggedDocuments earlier event := by
  have heach : EachEvent (WriteCurrent plainCrypto "d1" untaggedDocuments) [] tagAlone := by
    refine ⟨?_, ?_, ?_, ?_, trivial⟩
    · exact writeCurrent_of_since fun index task hindex _ => by cases hindex
    all_goals
      refine writeCurrent_of_since fun index task hindex htask => ?_
      cases hindex
      cases htask
      rfl
  exact heach.of_prefix hearlier

/-- The document is opened while a tag is added to it: the access time is written with
the record as it was without the tag. -/
def tagWhileReading : List (PoolEvent DocumentCall) :=
  [.start readCall, .advance 0, .advance 0, .start tagCall, .advance 1, .advance 1, .advance 1,
    .advance 0, .advance 0]

def tagWhileReadingPool : DocumentPool :=
  run (Pool.step (DocumentCall.body plainCrypto "d1")) { state := untaggedDocuments }
    tagWhileReading

end Osvauld.TypescriptPort
