import Mathlib.Data.Fintype.Order
import Mathlib.Order.CompletePartialOrder
import Mathlib.Order.ConditionallyCompleteLattice.Defs
import Mathlib.Order.WithBot
import Osvauld.Core.Document
import Osvauld.Data.Outcome

namespace Osvauld.Core

open Data

/-! What the documents of a resource contain, when the CRDT library is lawful. -/

/-- The library is a state-based CRDT: a document is a point of a semilattice,
and an update that can be applied joins another one to it. Bytes that mean `⊥`
are no update; no bytes at all bring nothing. -/
structure LawfulYrs (yrs : Yrs) (L : Type*) [SemilatticeSup L] [OrderBot L] where
  state : yrs.Doc → L
  meaning : Bytes → WithBot L
  state_new : state yrs.new = ⊥
  meaning_nil : meaning [] = (⊥ : L)
  state_applyUpdate : ∀ doc update doc', yrs.applyUpdate doc update = .ok doc' →
    ∃ brought : L, meaning update = brought ∧ state doc' = state doc ⊔ brought
  meaning_stateAsUpdate : ∀ doc, meaning (yrs.stateAsUpdate doc) = state doc

def updateBits (byte : UInt8) (index : Fin 8) : Bool :=
  byte.toBitVec.getLsbD index

theorem updateBits_or (first second : UInt8) :
    updateBits (first ||| second) = updateBits first ⊔ updateBits second := by
  funext index
  simp [updateBits]

def Yrs.lawfulBits : LawfulYrs Yrs.bits (Fin 8 → Bool) where
  state := updateBits
  meaning bytes := match bytes with
    | [] => (⊥ : Fin 8 → Bool)
    | [byte] => updateBits byte
    | _ => ⊥
  state_new := by
    funext index
    simp [updateBits, Yrs.bits]
  meaning_nil := rfl
  state_applyUpdate doc update doc' happly := by
    unfold Yrs.bits at happly
    dsimp only at happly
    split at happly
    · cases happly
      exact ⟨_, rfl, updateBits_or _ _⟩
    · cases happly
  meaning_stateAsUpdate _ := rfl

namespace Value

def documentBytes (value : Value) (stateKey : String) : Option Bytes :=
  (value.get stateKey).bind asBytes

theorem get_insertField (fields : List (String × Value)) (key other : String)
    (item : Value) :
    get (.object (insertField fields key item)) other =
      if other = key then some item else get (.object fields) other := by
  unfold insertField get
  by_cases hany : fields.any fun field => field.1 = key
  · -- Overwriting a field keeps its key, so the same field is found.
    have hkeys : ((fun field : String × Value => decide (field.1 = other)) ∘
        fun field => if field.1 = key then (key, item) else field) =
          fun field => decide (field.1 = other) := by
      funext field
      by_cases hfield : field.1 = key <;> simp [hfield]
    simp only [hany, if_true, List.find?_map, hkeys]
    cases hfound : fields.find? fun field => decide (field.1 = other) with
    | none =>
        have hother : other ≠ key := by
          rintro rfl
          obtain ⟨field, hmem, hfield⟩ := List.any_eq_true.mp hany
          exact List.find?_eq_none.mp hfound field hmem hfield
        simp [hother]
    | some field =>
        obtain rfl : field.1 = other := by simpa using List.find?_some hfound
        by_cases hfield : field.1 = key <;> simp [hfield]
  · have hfree : fields.find? (fun field => decide (field.1 = key)) = none :=
      List.find?_eq_none.mpr fun field hmem hfield =>
        hany (List.any_eq_true.mpr ⟨field, hmem, hfield⟩)
    simp only [hany, Bool.false_eq_true, if_false, List.find?_append]
    by_cases hother : other = key
    · simp [hother, hfree]
    · simp [hother, Ne.symm hother]

theorem documentBytes_insert {value : Value} {stateKey : String} {bytes : Bytes}
    (hbytes : value.documentBytes stateKey = some bytes) (other : String)
    (bytes' : Bytes) :
    (value.insert stateKey (.ofBytes bytes')).documentBytes other =
      if other = stateKey then some bytes' else value.documentBytes other := by
  cases value with
  | object fields =>
      unfold insert documentBytes
      rw [get_insertField]
      split
      · simp
      · rfl
  | _ => cases hbytes

end Value

def entryUpdates (input : List (String × Value)) (stateKey : String) : Bytes :=
  match Value.get (.object input) stateKey with
  | some entry => DecryptedResource.entryBytes entry "updates"
  | none => []

namespace LawfulYrs

variable {yrs : Yrs} {L : Type*} [SemilatticeSup L] [OrderBot L]
variable (lawful : LawfulYrs yrs L)

/-- The content of each document of a value; `⊥` where there is none. -/
def documentContent (value : Value) (stateKey : String) : WithBot L :=
  match value.documentBytes stateKey with
  | some bytes => lawful.meaning bytes
  | none => ⊥

/-- What the input has the document updated by; `⊥` where it does not. -/
def brought (input : List (String × Value)) (stateKey : String) : WithBot L :=
  if (entryUpdates input stateKey).isEmpty then ⊥
  else lawful.meaning (entryUpdates input stateKey)

theorem documentContent_of_bytes {value : Value} {stateKey : String}
    {bytes : Bytes} (hbytes : value.documentBytes stateKey = some bytes) :
    lawful.documentContent value stateKey = lawful.meaning bytes := by
  simp [documentContent, hbytes]

theorem applyUpdateV2_ok {doc doc' : yrs.Doc} {update : Bytes}
    (happly : yrs.applyUpdateV2 doc update = .ok doc') :
    ∃ brought : L, lawful.meaning update = brought ∧
      lawful.state doc' = lawful.state doc ⊔ brought := by
  unfold Yrs.applyUpdateV2 at happly
  split at happly
  · next hempty =>
      cases happly
      rw [List.isEmpty_iff.mp hempty]
      exact ⟨⊥, lawful.meaning_nil, (sup_of_le_left bot_le).symm⟩
  · exact lawful.state_applyUpdate doc update doc' happly

theorem open_ok {doc : yrs.Doc} {bytes : Bytes}
    (hopen : yrs.applyUpdateV2 yrs.new bytes = .ok doc) :
    lawful.meaning bytes = lawful.state doc := by
  obtain ⟨content, hmeaning, hstate⟩ := lawful.applyUpdateV2_ok hopen
  rw [hmeaning, hstate, lawful.state_new, sup_of_le_right bot_le]

end LawfulYrs

/-- Moreover an update can be applied to every document, and the differences to
a state vector are what the document with that state vector lacks. -/
structure ExactYrs (yrs : Yrs) (L : Type*) [SemilatticeSup L] [OrderBot L]
    extends LawfulYrs yrs L where
  applies : ∀ doc update (brought : L), update ≠ [] → meaning update = brought →
    ∃ doc', yrs.applyUpdate doc update = .ok doc'
  stateVector_ne_nil : ∀ doc, yrs.stateVector doc ≠ []
  diff_stateVector : ∀ doc peer, ∃ update, ∃ brought : L,
    yrs.diff doc (yrs.stateVector peer) = .ok update ∧ meaning update = brought ∧
      brought ≤ state doc ∧ state doc ≤ state peer ⊔ brought

theorem updateBits_andNot_le (doc peer : UInt8) :
    updateBits (doc &&& ~~~peer) ≤ updateBits doc := by
  intro index
  simpa [updateBits, Bool.le_iff_imp] using fun hdoc _ => hdoc

theorem updateBits_le_andNot (doc peer : UInt8) :
    updateBits doc ≤ updateBits peer ⊔ updateBits (doc &&& ~~~peer) := by
  intro index
  cases hdoc : doc.toBitVec.getLsbD index <;>
    cases hpeer : peer.toBitVec.getLsbD index <;> simp_all [updateBits]

def Yrs.exactBits : ExactYrs Yrs.bits (Fin 8 → Bool) where
  toLawfulYrs := Yrs.lawfulBits
  applies doc update brought hupdate hmeaning := by
    match update with
    | [] => exact absurd rfl hupdate
    | [byte] => exact ⟨_, rfl⟩
    | _ :: _ :: _ => cases hmeaning
  stateVector_ne_nil _ := List.cons_ne_nil _ _
  diff_stateVector doc peer :=
    ⟨_, _, rfl, rfl, updateBits_andNot_le doc peer, updateBits_le_andNot doc peer⟩

namespace ExactYrs

variable {yrs : Yrs} {L : Type*} [SemilatticeSup L] [OrderBot L]
variable (lawful : ExactYrs yrs L)

theorem applyUpdateV2_meaning {update : Bytes} {brought : L}
    (hmeaning : lawful.meaning update = brought) (doc : yrs.Doc) :
    ∃ doc', yrs.applyUpdateV2 doc update = .ok doc' ∧
      lawful.state doc' = lawful.state doc ⊔ brought := by
  have happlies : ∃ doc', yrs.applyUpdateV2 doc update = .ok doc' := by
    unfold Yrs.applyUpdateV2
    split
    · exact ⟨doc, rfl⟩
    · next hupdate =>
        exact lawful.applies doc update brought (by simpa using hupdate) hmeaning
  obtain ⟨doc', happly⟩ := happlies
  obtain ⟨content, hcontent, hstate⟩ := lawful.applyUpdateV2_ok happly
  obtain rfl : brought = content := WithBot.coe_injective (hmeaning.symm.trans hcontent)
  exact ⟨doc', happly, hstate⟩

theorem getDiffUpdateV2_stateVector (doc peer : yrs.Doc) :
    ∃ update, ∃ brought : L,
      yrs.getDiffUpdateV2 doc (yrs.stateVector peer) = .ok update ∧
        lawful.meaning update = brought ∧ brought ≤ lawful.state doc ∧
          lawful.state doc ≤ lawful.state peer ⊔ brought := by
  have hvector : (yrs.stateVector peer).isEmpty = false := by
    simpa using lawful.stateVector_ne_nil peer
  simpa [Yrs.getDiffUpdateV2, hvector] using lawful.diff_stateVector doc peer

end ExactYrs

namespace DecryptedResource

variable {yrs : Yrs} {L : Type*} [SemilatticeSup L] [OrderBot L]
variable (lawful : LawfulYrs yrs L)

@[simp] theorem entryBytes_updates (updates stateVector : Bytes) :
    entryBytes (documentEntry updates stateVector) "updates" = updates := by
  simp [entryBytes, documentEntry, Value.get]

@[simp] theorem entryBytes_stateVector (updates stateVector : Bytes) :
    entryBytes (documentEntry updates stateVector) "state_vector" = stateVector := by
  simp [entryBytes, documentEntry, Value.get]

inductive Merged (doc merged : yrs.Doc) (entry : Value) : Option Bytes → Prop
  | unchanged : (entryBytes entry "updates").isEmpty → merged = doc →
      Merged doc merged entry none
  | updated : ¬(entryBytes entry "updates").isEmpty →
      yrs.applyUpdateV2 doc (entryBytes entry "updates") = .ok merged →
      Merged doc merged entry (some (yrs.stateAsUpdate merged))

inductive Answered (merged : yrs.Doc) (entry : Value) : Option Value → Prop
  | unasked : (entryBytes entry "state_vector").isEmpty →
      Answered merged entry none
  | asked : ¬(entryBytes entry "state_vector").isEmpty →
      yrs.getDiffUpdateV2 merged (entryBytes entry "state_vector") = .ok updates →
      Answered merged entry
        (some (documentEntry updates (yrs.stateVector merged)))

variable {ourStateData : Bytes} {newState : Option Bytes} {answer : Option Value}
  {stateKey : String}

theorem syncDocument_cases {entry : Value}
    (hsync : syncDocument yrs ourStateData entry = .ok (newState, answer)) :
    ∃ doc merged, yrs.applyUpdateV2 yrs.new ourStateData = .ok doc ∧
      Merged doc merged entry newState ∧ Answered merged entry answer := by
  unfold syncDocument at hsync
  rw [bind_eq_ok] at hsync
  obtain ⟨doc, hopen, hsync⟩ := hsync
  by_cases hupdates : (entryBytes entry "updates").isEmpty <;>
    by_cases hvector : (entryBytes entry "state_vector").isEmpty <;>
    simp only [hupdates, hvector, if_true, Bool.false_eq_true, if_false, bind_eq_ok,
      Except.ok.injEq, exists_eq_left', pure, Except.pure, Prod.mk.injEq] at hsync
  · obtain ⟨rfl, rfl⟩ := hsync
    exact ⟨doc, doc, hopen, .unchanged hupdates rfl, .unasked hvector⟩
  · obtain ⟨updates, hdiff, rfl, rfl⟩ := hsync
    exact ⟨doc, doc, hopen, .unchanged hupdates rfl, .asked hvector hdiff⟩
  · obtain ⟨merged, hmerged, rfl, rfl⟩ := hsync
    exact ⟨doc, merged, hopen, .updated hupdates hmerged, .unasked hvector⟩
  · obtain ⟨merged, hmerged, updates, hdiff, rfl, rfl⟩ := hsync
    exact ⟨doc, merged, hopen, .updated hupdates hmerged, .asked hvector hdiff⟩

theorem syncDocument_ok {entry : Value}
    (hsync : syncDocument yrs ourStateData entry = .ok (newState, answer)) :
    ∃ ours theirs : L, lawful.meaning ourStateData = ours ∧
      lawful.meaning (entryBytes entry "updates") = theirs ∧
      lawful.meaning (newState.getD ourStateData) = (ours ⊔ theirs : L) := by
  obtain ⟨doc, merged, hopen, hmerged, _⟩ := syncDocument_cases hsync
  have hours := lawful.open_ok hopen
  cases hmerged with
  | unchanged hempty hsame =>
      refine ⟨lawful.state doc, ⊥, hours, ?_, ?_⟩
      · rw [List.isEmpty_iff.mp hempty, lawful.meaning_nil]
      · rw [Option.getD_none, hours, sup_of_le_left bot_le]
  | updated _ happly =>
      obtain ⟨theirs, hmeaning, hstate⟩ := lawful.applyUpdateV2_ok happly
      refine ⟨lawful.state doc, theirs, hours, hmeaning, ?_⟩
      rw [Option.getD_some, lawful.meaning_stateAsUpdate, hstate]

/-- What taking the input's updates for some state keys makes of a value: the
documents it has are joined with what the input brings, and it gets no others. -/
structure Takes (input : List (String × Value)) (stateKeys : List String)
    (value value' : Value) : Prop where
  documents : ∀ stateKey, (value'.documentBytes stateKey).isSome =
    (value.documentBytes stateKey).isSome
  content : ∀ stateKey, lawful.documentContent value' stateKey =
    lawful.documentContent value stateKey ⊔
      if stateKey ∈ stateKeys ∧ (value.documentBytes stateKey).isSome then
        lawful.brought input stateKey
      else ⊥

variable {input : List (String × Value)}

theorem Takes.nothing (value : Value) : Takes lawful input [] value value :=
  ⟨fun _ => rfl, fun stateKey => by simp⟩

theorem Takes.cons {stateKey : String} {stateKeys : List String}
    {first second third : Value} (hfirst : Takes lawful input [stateKey] first second)
    (hsecond : Takes lawful input stateKeys second third) :
    Takes lawful input (stateKey :: stateKeys) first third := by
  refine ⟨fun other => ?_, fun other => ?_⟩
  · rw [hsecond.documents, hfirst.documents]
  · rw [hsecond.content, hfirst.content, hfirst.documents, sup_assoc]
    congr 1
    by_cases hstored : (first.documentBytes other).isSome
    · by_cases hmem : other ∈ stateKeys <;> by_cases hhead : other = stateKey <;>
        simp_all
    · simp [hstored]

theorem brought_eq_meaning {entry : Value} {theirs : L}
    (hentry : Value.get (.object input) stateKey = some entry)
    (htheirs : lawful.meaning (entryBytes entry "updates") = theirs) (ours : L) :
    (ours ⊔ theirs : L) = (ours : WithBot L) ⊔ lawful.brought input stateKey := by
  have hupdates : entryUpdates input stateKey = entryBytes entry "updates" := by
    simp [entryUpdates, hentry]
  unfold LawfulYrs.brought
  rw [hupdates]
  split
  · next hempty =>
      rw [List.isEmpty_iff.mp hempty, lawful.meaning_nil, WithBot.coe_inj] at htheirs
      rw [← htheirs, sup_of_le_left bot_le, sup_of_le_left bot_le]
  · rw [htheirs, WithBot.coe_sup]

theorem documentBytes_store {value : Value}
    (hstored : value.documentBytes stateKey = some ourStateData) (newState : Option Bytes)
    (other : String) :
    (match newState with
      | some bytes => value.insert stateKey (.ofBytes bytes)
      | none => value : Value).documentBytes other =
      if other = stateKey then some (newState.getD ourStateData)
      else value.documentBytes other := by
  cases newState with
  | some bytes => exact Value.documentBytes_insert hstored other bytes
  | none =>
      by_cases hother : other = stateKey
      · rw [if_pos hother, hother, hstored, Option.getD_none]
      · rw [if_neg hother]

theorem Takes.stored {entry : Value} {value value' : Value}
    (hstored : value.documentBytes stateKey = some ourStateData)
    (hentry : Value.get (.object input) stateKey = some entry)
    (hsync : syncDocument yrs ourStateData entry = .ok (newState, answer))
    (hvalue : ∀ other, value'.documentBytes other =
      if other = stateKey then some (newState.getD ourStateData)
      else value.documentBytes other) : Takes lawful input [stateKey] value value' := by
  refine ⟨fun other => ?_, fun other => ?_⟩ <;>
    by_cases hother : other = stateKey
  · simp [hvalue, hother, hstored]
  · simp [hvalue, hother]
  · obtain ⟨ours, theirs, hours, htheirs, hjoin⟩ := syncDocument_ok lawful hsync
    subst hother
    rw [lawful.documentContent_of_bytes ((hvalue other).trans (if_pos rfl)), hjoin,
      lawful.documentContent_of_bytes hstored, hours,
      brought_eq_meaning lawful hentry htheirs]
    simp [hstored]
  · simp [LawfulYrs.documentContent, hvalue, hother]

theorem Takes.skipped {value : Value}
    (hskip : ∀ ourStateData entry, value.documentBytes stateKey = some ourStateData →
      Value.get (.object input) stateKey ≠ some entry) :
    Takes lawful input [stateKey] value value := by
  refine ⟨fun _ => rfl, fun other => ?_⟩
  split
  · next htaken =>
      obtain rfl : other = stateKey := by simpa using htaken.1
      obtain ⟨bytes, hbytes⟩ := Option.isSome_iff_exists.mp htaken.2
      have hmissing : Value.get (.object input) other = none :=
        Option.eq_none_iff_forall_ne_some.mpr fun entry => hskip bytes entry hbytes
      simp [LawfulYrs.brought, entryUpdates, hmissing]
  · simp

theorem syncKey_ok {state state' : Value × List (String × Value)}
    (hsync : syncKey yrs input stateKey state = .ok state') :
    Takes lawful input [stateKey] state.1 state'.1 := by
  unfold syncKey at hsync
  split at hsync
  · next ourStateData entry hstored hentry =>
      rw [bind_eq_ok] at hsync
      obtain ⟨⟨newState, answer⟩, hdocument, hresult⟩ := hsync
      cases hresult
      exact .stored lawful hstored hentry hdocument
        (documentBytes_store hstored newState)
  · next hskip =>
      cases hsync
      exact .skipped lawful fun ourStateData entry hstored hentry =>
        hskip ourStateData entry hstored hentry

theorem foldlM_syncKey_ok {stateKeys : List String}
    {state state' : Value × List (String × Value)}
    (hsync : stateKeys.foldlM (fun state stateKey => syncKey yrs input stateKey state)
      state = .ok state') : Takes lawful input stateKeys state.1 state'.1 := by
  induction stateKeys generalizing state with
  | nil =>
      cases hsync
      exact .nothing lawful _
  | cons stateKey rest ih =>
      rw [List.foldlM_cons, bind_eq_ok] at hsync
      obtain ⟨middle, hfirst, hrest⟩ := hsync
      exact (syncKey_ok lawful hfirst).cons lawful (ih hrest)

theorem syncUpdates_ok {resource merged : DecryptedResource}
    {inputData answers : JsonText}
    (hsync : resource.syncUpdates yrs inputData = .ok (merged, answers)) :
    ∃ input, inputData.parseObject = .ok input ∧
      Takes lawful input resource.resourceType.documentStateKeys resource.data
        merged.data := by
  unfold syncUpdates at hsync
  split at hsync
  · cases hsync
  · next input hinput =>
      rw [bind_eq_ok] at hsync
      obtain ⟨⟨data, results⟩, hloop, hresult⟩ := hsync
      cases hresult
      exact ⟨input, hinput, foldlM_syncKey_ok lawful hloop⟩

end DecryptedResource

end Osvauld.Core
