import Osvauld.Core.DocumentContent

namespace Osvauld.Core

open Data

/-! What two ends tell each other of the documents of a resource, one state key
after the other. -/

namespace Value

def named (stateKey : String) : Option Value → List (String × Value)
  | some entry => [(stateKey, entry)]
  | none => []

theorem get_named_append (stateKey other : String) (entry : Option Value)
    (rest : List (String × Value)) :
    get (.object (named stateKey entry ++ rest)) other =
      if other = stateKey then entry.or (get (.object rest) other)
      else get (.object rest) other := by
  cases entry with
  | none =>
      rw [Option.none_or, ite_self]
      rfl
  | some entry =>
      by_cases hother : other = stateKey
      · subst hother
        rw [if_pos rfl, Option.some_or]
        simp [named, get]
      · rw [if_neg hother]
        simp [named, get, Ne.symm hother]

end Value

namespace DecryptedResource

variable {yrs : Yrs} {L : Type*} [SemilatticeSup L] [OrderBot L]
variable (lawful : ExactYrs yrs L)

/-- What is stored under the state keys are documents of the library, where it is
bytes at all. -/
def Documented (value : Value) (stateKeys : List String) : Prop :=
  ∀ stateKey ∈ stateKeys, ∀ bytes, value.documentBytes stateKey = some bytes →
    ∃ content : L, lawful.meaning bytes = content

def Tells (entry : Value) (updates known : L) : Prop :=
  ∃ bytes doc, entry = documentEntry bytes (yrs.stateVector doc) ∧
    lawful.meaning bytes = updates ∧ lawful.state doc = known

inductive Described : Option Bytes → Option Value → Prop
  | unstored : Described none none
  | stored {bytes : Bytes} {entry : Value} {ours : L} : lawful.meaning bytes = ours →
      Tells lawful entry ⊥ ours → Described (some bytes) (some entry)

/-- What is told back of a document that is stored: what the merged one has and the
other end, by its state vector, has not. -/
inductive Answers : Option Bytes → Option Value → Option Value → Prop
  | unstored (entry : Option Value) : Answers none entry none
  | untold (stored : Option Bytes) : Answers stored none none
  | told {bytes : Bytes} {entry answer : Value} {ours theirs lacked : L} :
      lawful.meaning bytes = ours → lawful.meaning (entryBytes entry "updates") = theirs →
      Tells lawful answer lacked (ours ⊔ theirs) → lacked ≤ ours ⊔ theirs →
      (∀ known, Tells lawful entry theirs known → ours ⊔ theirs ≤ known ⊔ lacked) →
      Answers (some bytes) (some entry) (some answer)

variable {lawful}

theorem Documented.mono {value value' : Value} {stateKeys stateKeys' : List String}
    (hdocumented : Documented lawful value stateKeys) (hkeys : stateKeys' ⊆ stateKeys)
    (hsame : ∀ stateKey ∈ stateKeys',
      value'.documentBytes stateKey = value.documentBytes stateKey) :
    Documented lawful value' stateKeys' := by
  intro stateKey hstateKey bytes hbytes
  rw [hsame stateKey hstateKey] at hbytes
  exact hdocumented stateKey (hkeys hstateKey) bytes hbytes

theorem open_meaning {bytes : Bytes} {ours : L} (hours : lawful.meaning bytes = ours) :
    ∃ doc, yrs.applyUpdateV2 yrs.new bytes = .ok doc ∧ lawful.state doc = ours := by
  obtain ⟨doc, hopen, hstate⟩ := lawful.applyUpdateV2_meaning hours yrs.new
  refine ⟨doc, hopen, ?_⟩
  rw [hstate, lawful.state_new, sup_of_le_right bot_le]

variable {stateKey : String}

theorem stateVectorEntry_describes {resource : DecryptedResource}
    (hdocumented : ∀ bytes, resource.data.documentBytes stateKey = some bytes →
      ∃ content : L, lawful.meaning bytes = content) :
    ∃ entry, stateVectorEntry yrs resource stateKey =
        .ok (Value.named stateKey entry) ∧
      Described lawful (resource.data.documentBytes stateKey) entry := by
  have hstate : resource.getDocumentState stateKey =
      resource.data.documentBytes stateKey := rfl
  rw [stateVectorEntry, hstate]
  cases hbytes : resource.data.documentBytes stateKey with
  | none => exact ⟨none, rfl, .unstored⟩
  | some bytes =>
      obtain ⟨ours, hours⟩ := hdocumented bytes hbytes
      obtain ⟨doc, hopen, hdoc⟩ := open_meaning hours
      refine ⟨some (documentEntry [] (yrs.stateVector doc)), ?_, ?_⟩
      · dsimp only
        rw [hopen]
        rfl
      · exact .stored hours ⟨[], doc, rfl, lawful.meaning_nil, hdoc⟩

theorem mapM_stateVectorEntry_describes {resource : DecryptedResource}
    {stateKeys : List String} (hnodup : stateKeys.Nodup)
    (hdocumented : Documented lawful resource.data stateKeys) :
    ∃ entries, stateKeys.mapM (stateVectorEntry yrs resource) = .ok entries ∧
      (∀ stateKey ∈ stateKeys, Described lawful (resource.data.documentBytes stateKey)
        (Value.get (.object entries.flatten) stateKey)) ∧
      ∀ stateKey ∉ stateKeys, Value.get (.object entries.flatten) stateKey = none := by
  induction stateKeys with
  | nil => exact ⟨[], rfl, fun _ hmem => (List.not_mem_nil hmem).elim, fun _ _ => rfl⟩
  | cons first rest ih =>
      obtain ⟨hfirst, hrest⟩ := List.nodup_cons.mp hnodup
      obtain ⟨entry, hentry, hdescribed⟩ := stateVectorEntry_describes
        (hdocumented first List.mem_cons_self)
      obtain ⟨entries, hentries, htold, hothers⟩ := ih hrest
        (hdocumented.mono (List.subset_cons_self first rest) fun _ _ => rfl)
      refine ⟨Value.named first entry :: entries, ?_, ?_, ?_⟩
      · rw [List.mapM_cons, hentry, hentries]
        rfl
      · intro stateKey hstateKey
        rw [List.flatten_cons, Value.get_named_append]
        rcases List.mem_cons.mp hstateKey with rfl | hmem
        · rw [if_pos rfl, hothers _ hfirst, Option.or_none]
          exact hdescribed
        · rw [if_neg (ne_of_mem_of_not_mem hmem hfirst)]
          exact htold stateKey hmem
      · intro stateKey hstateKey
        obtain ⟨hne, hout⟩ := not_or.mp (mt List.mem_cons.mpr hstateKey)
        rw [List.flatten_cons, Value.get_named_append, if_neg hne]
        exact hothers stateKey hout

theorem covers_of_tells {merged : yrs.Doc} {whole lacked theirs known : L}
    {updates stateVector diff : Bytes} (hmerged : lawful.state merged = whole)
    (hdiff : yrs.getDiffUpdateV2 merged stateVector = .ok diff)
    (hlacked : lawful.meaning diff = lacked)
    (htells : Tells lawful (documentEntry updates stateVector) theirs known) :
    whole ≤ known ⊔ lacked := by
  obtain ⟨bytes, peer, hentry, -, hknown⟩ := htells
  have hvector : stateVector = yrs.stateVector peer := by
    rw [← entryBytes_stateVector updates stateVector, hentry, entryBytes_stateVector]
  obtain ⟨other, brought, hother, hbrought, -, hcovers⟩ :=
    lawful.getDiffUpdateV2_stateVector merged peer
  obtain rfl : other = diff := by
    rw [hvector, hother] at hdiff
    exact Except.ok.inj hdiff
  obtain rfl : brought = lacked := WithBot.coe_injective (hbrought.symm.trans hlacked)
  rwa [hmerged, hknown] at hcovers

theorem syncDocument_answers {bytes : Bytes} {entry : Value} {ours theirs known : L}
    (hours : lawful.meaning bytes = ours) (hentry : Tells lawful entry theirs known) :
    ∃ newState answer, syncDocument yrs bytes entry = .ok (newState, some answer) ∧
      Answers lawful (some bytes) (some entry) (some answer) := by
  obtain ⟨updates, peer, rfl, htheirs, -⟩ := hentry
  obtain ⟨doc, hopen, hdoc⟩ := open_meaning hours
  obtain ⟨merged, happly, hmerged⟩ := lawful.applyUpdateV2_meaning htheirs doc
  rw [hdoc] at hmerged
  obtain ⟨diff, lacked, hdiff, hlacked, hle, -⟩ :=
    lawful.getDiffUpdateV2_stateVector merged peer
  rw [hmerged] at hle
  have hvector : (yrs.stateVector peer).isEmpty = false := by
    simpa using lawful.stateVector_ne_nil peer
  refine ⟨if updates.isEmpty then none else some (yrs.stateAsUpdate merged),
    documentEntry diff (yrs.stateVector merged), ?_, ?_⟩
  · rw [syncDocument, hopen]
    by_cases hempty : updates.isEmpty = true
    · rw [Yrs.applyUpdateV2, if_pos hempty] at happly
      cases happly
      simp only [entryBytes_updates, entryBytes_stateVector, hvector, hempty, bind,
        Except.bind, Bool.false_eq_true, if_true, if_false, hdiff]
      rfl
    · simp only [entryBytes_updates, entryBytes_stateVector, hvector, hempty, bind,
        Except.bind, Bool.false_eq_true, if_false, happly, hdiff]
      rfl
  · refine .told hours (by rw [entryBytes_updates, htheirs])
      ⟨diff, merged, rfl, hlacked, hmerged⟩ hle fun known htells => ?_
    exact covers_of_tells hmerged hdiff hlacked htells

def Usable (lawful : ExactYrs yrs L) (value : Value) (input : List (String × Value))
    (stateKeys : List String) : Prop :=
  ∀ stateKey ∈ stateKeys, ∀ bytes entry, value.documentBytes stateKey = some bytes →
    Value.get (.object input) stateKey = some entry →
    ∃ theirs known, Tells lawful entry theirs known

theorem syncKey_answers {input results : List (String × Value)} {stateKey : String}
    {value : Value} (hdocumented : Documented lawful value [stateKey])
    (husable : Usable lawful value input [stateKey]) :
    ∃ value' answer, syncKey yrs input stateKey (value, results) =
        .ok (value', results ++ Value.named stateKey answer) ∧
      Answers lawful (value.documentBytes stateKey) (Value.get (.object input) stateKey)
        answer ∧
      ∀ other, other ≠ stateKey → value'.documentBytes other = value.documentBytes other := by
  have hmem : stateKey ∈ [stateKey] := List.mem_singleton.mpr rfl
  cases hbytes : value.documentBytes stateKey with
  | none =>
      have hstored : (value.get stateKey).bind Value.asBytes = none := hbytes
      refine ⟨value, none, ?_, .unstored _, fun _ _ => rfl⟩
      simp only [syncKey, hstored, Value.named, List.append_nil]
  | some bytes =>
      have hstored : (value.get stateKey).bind Value.asBytes = some bytes := hbytes
      cases hentry : Value.get (.object input) stateKey with
      | none =>
          refine ⟨value, none, ?_, .untold _, fun _ _ => rfl⟩
          simp only [syncKey, hstored, hentry, Value.named, List.append_nil]
      | some entry =>
          obtain ⟨ours, hours⟩ := hdocumented stateKey hmem bytes hbytes
          obtain ⟨theirs, known, htells⟩ := husable stateKey hmem bytes entry hbytes hentry
          obtain ⟨newState, answer, hsync, hanswers⟩ := syncDocument_answers hours htells
          cases newState with
          | none =>
              refine ⟨value, some answer, ?_, hanswers, fun _ _ => rfl⟩
              simp only [syncKey, hstored, hentry, hsync]
              rfl
          | some newBytes =>
              refine ⟨value.insert stateKey (.ofBytes newBytes), some answer, ?_, hanswers,
                fun other hother => ?_⟩
              · simp only [syncKey, hstored, hentry, hsync]
                rfl
              · rw [Value.documentBytes_insert hbytes, if_neg hother]

theorem foldlM_syncKey_answers {input results : List (String × Value)}
    {stateKeys : List String} {value : Value} (hnodup : stateKeys.Nodup)
    (hdocumented : Documented lawful value stateKeys)
    (husable : Usable lawful value input stateKeys) :
    ∃ value' answers, stateKeys.foldlM
          (fun state stateKey => syncKey yrs input stateKey state) (value, results) =
        .ok (value', results ++ answers) ∧
      (∀ stateKey ∈ stateKeys, Answers lawful (value.documentBytes stateKey)
        (Value.get (.object input) stateKey) (Value.get (.object answers) stateKey)) ∧
      ∀ stateKey ∉ stateKeys, Value.get (.object answers) stateKey = none := by
  induction stateKeys generalizing value results with
  | nil =>
      refine ⟨value, [], ?_, fun _ hmem => (List.not_mem_nil hmem).elim, fun _ _ => rfl⟩
      rw [List.append_nil]
      rfl
  | cons first rest ih =>
      obtain ⟨hfirst, hrest⟩ := List.nodup_cons.mp hnodup
      have hsingle : [first] ⊆ first :: rest := by simp
      have htail : rest ⊆ first :: rest := List.subset_cons_self first rest
      obtain ⟨middle, answer, hsync, hanswer, hmiddle⟩ := @syncKey_answers _ _ _ _ lawful
        input results first value (hdocumented.mono hsingle fun _ _ => rfl)
        fun stateKey hmem => husable stateKey (hsingle hmem)
      have hsame (stateKey : String) (hmem : stateKey ∈ rest) :
          middle.documentBytes stateKey = value.documentBytes stateKey :=
        hmiddle stateKey (ne_of_mem_of_not_mem hmem hfirst)
      obtain ⟨value', answers, hloop, hanswers, hothers⟩ := @ih
        (results ++ Value.named first answer) middle hrest (hdocumented.mono htail hsame)
        fun stateKey hmem bytes entry hbytes =>
          husable stateKey (htail hmem) bytes entry (hsame stateKey hmem ▸ hbytes)
      refine ⟨value', Value.named first answer ++ answers, ?_, ?_, ?_⟩
      · rw [List.foldlM_cons, hsync, ← List.append_assoc]
        exact hloop
      · intro stateKey hstateKey
        rw [Value.get_named_append]
        rcases List.mem_cons.mp hstateKey with rfl | hmem
        · rw [if_pos rfl, hothers _ hfirst, Option.or_none]
          exact hanswer
        · rw [if_neg (ne_of_mem_of_not_mem hmem hfirst), ← hsame stateKey hmem]
          exact hanswers stateKey hmem
      · intro stateKey hstateKey
        obtain ⟨hne, hout⟩ := not_or.mp (mt List.mem_cons.mpr hstateKey)
        rw [Value.get_named_append, if_neg hne]
        exact hothers stateKey hout

section Calls

variable {resource : DecryptedResource}

theorem nodup_documentStateKeys (resourceType : ResourceType) :
    resourceType.documentStateKeys.Nodup := by
  cases resourceType <;> decide

theorem getStateVectors_describes
    (hdocumented : Documented lawful resource.data
      resource.resourceType.documentStateKeys) :
    ∃ vectors, resource.getStateVectors yrs = .ok (.encoded (.object vectors)) ∧
      ∀ stateKey ∈ resource.resourceType.documentStateKeys,
        Described lawful (resource.data.documentBytes stateKey)
          (Value.get (.object vectors) stateKey) := by
  obtain ⟨entries, hentries, htold, -⟩ := mapM_stateVectorEntry_describes
    (nodup_documentStateKeys resource.resourceType) hdocumented
  refine ⟨entries.flatten, ?_, htold⟩
  rw [getStateVectors, hentries]
  rfl

theorem syncUpdates_answers {input : List (String × Value)}
    (hdocumented : Documented lawful resource.data
      resource.resourceType.documentStateKeys)
    (husable : Usable lawful resource.data input
      resource.resourceType.documentStateKeys) :
    ∃ merged answers, resource.syncUpdates yrs (.encoded (.object input)) =
        .ok (merged, .encoded (.object answers)) ∧
      Takes lawful.toLawfulYrs input resource.resourceType.documentStateKeys
        resource.data merged.data ∧
      ∀ stateKey ∈ resource.resourceType.documentStateKeys,
        Answers lawful (resource.data.documentBytes stateKey)
          (Value.get (.object input) stateKey) (Value.get (.object answers) stateKey) := by
  obtain ⟨data, answers, hloop, hanswers, -⟩ := @foldlM_syncKey_answers _ _ _ _ lawful
    input [] _ resource.data (nodup_documentStateKeys resource.resourceType) hdocumented
    husable
  have hsync : resource.syncUpdates yrs (.encoded (.object input)) =
      .ok ({ resource with data }, .encoded (.object answers)) := by
    simp only [syncUpdates, JsonText.parseObject]
    rw [hloop]
    rfl
  refine ⟨{ resource with data }, answers, hsync, ?_, hanswers⟩
  exact foldlM_syncKey_ok lawful.toLawfulYrs hloop

end Calls

namespace Described

variable {bytes : Bytes} {entry : Option Value}

theorem eq_none (hdescribed : Described lawful none entry) : entry = none := by
  cases hdescribed
  rfl

theorem eq_some (hdescribed : Described lawful (some bytes) entry) :
    ∃ told ours, entry = some told ∧ lawful.meaning bytes = (ours : L) ∧
      Tells lawful told ⊥ ours := by
  cases hdescribed with
  | stored hours htells => exact ⟨_, _, rfl, hours, htells⟩

theorem tells {stored : Option Bytes} {told : Value}
    (hdescribed : Described lawful stored (some told)) :
    ∃ theirs known, Tells lawful told theirs known := by
  cases hdescribed with
  | stored _ htells => exact ⟨_, _, htells⟩

end Described

namespace Answers

variable {bytes : Bytes} {stored : Option Bytes} {entry answer : Option Value}

theorem eq_none_of_unstored (hanswers : Answers lawful none entry answer) :
    answer = none := by
  cases hanswers <;> rfl

theorem eq_none_of_untold (hanswers : Answers lawful stored none answer) :
    answer = none := by
  cases hanswers <;> rfl

theorem tells {back : Value} (hanswers : Answers lawful stored entry (some back)) :
    ∃ theirs known, Tells lawful back theirs known := by
  cases hanswers with
  | told _ _ htells _ _ => exact ⟨_, _, htells⟩

theorem stored_meaning {told : Value}
    (hanswers : Answers lawful (some bytes) (some told) answer) :
    ∃ ours : L, lawful.meaning bytes = ours := by
  cases hanswers with
  | told hours _ _ _ _ => exact ⟨_, hours⟩

theorem eq_some {told : Value} {ours theirs known : L}
    (hanswers : Answers lawful (some bytes) (some told) answer)
    (hours : lawful.meaning bytes = ours) (htells : Tells lawful told theirs known) :
    ∃ back lacked, answer = some back ∧ Tells lawful back lacked (ours ⊔ theirs) ∧
      lacked ≤ ours ⊔ theirs ∧ ours ⊔ theirs ≤ known ⊔ lacked := by
  cases hanswers with
  | @told _ _ back ours' theirs' lacked hours' htheirs hback hle hcovers =>
      obtain rfl : ours' = ours := WithBot.coe_injective (hours'.symm.trans hours)
      obtain rfl : theirs' = theirs := by
        obtain ⟨updates, doc, rfl, hupdates, -⟩ := htells
        rw [entryBytes_updates, hupdates] at htheirs
        exact (WithBot.coe_injective htheirs).symm
      exact ⟨back, lacked, rfl, hback, hle, hcovers known htells⟩

end Answers

section Content

variable {value value' : Value} {input : List (String × Value)}
variable {stateKeys : List String} {stateKey : String}

theorem Takes.content_joined {bytes : Bytes} {entry : Value} {ours theirs known : L}
    (htakes : Takes lawful.toLawfulYrs input stateKeys value value')
    (hmem : stateKey ∈ stateKeys) (hbytes : value.documentBytes stateKey = some bytes)
    (hours : lawful.meaning bytes = ours)
    (hentry : Value.get (.object input) stateKey = some entry)
    (htells : Tells lawful entry theirs known) :
    lawful.documentContent value' stateKey = (ours ⊔ theirs : L) := by
  obtain ⟨updates, doc, rfl, htheirs, -⟩ := htells
  have hupdates : lawful.meaning (entryBytes (documentEntry updates (yrs.stateVector doc))
      "updates") = theirs := by
    rw [entryBytes_updates, htheirs]
  rw [htakes.content, if_pos ⟨hmem, by rw [hbytes, Option.isSome_some]⟩,
    lawful.documentContent_of_bytes hbytes, hours,
    brought_eq_meaning lawful.toLawfulYrs hentry hupdates]

theorem Takes.content_kept (htakes : Takes lawful.toLawfulYrs input stateKeys value value')
    (hskip : value.documentBytes stateKey = none ∨
      Value.get (.object input) stateKey = none) :
    lawful.documentContent value' stateKey = lawful.documentContent value stateKey := by
  rw [htakes.content]
  rcases hskip with hbytes | hentry
  · rw [if_neg (by rw [hbytes]; simp), sup_of_le_left bot_le]
  · have hbrought : lawful.brought input stateKey = ⊥ := by
      rw [LawfulYrs.brought, entryUpdates, hentry]
      rfl
    rw [hbrought, ite_self, sup_of_le_left bot_le]

end Content

structure Exchanged (lawful : ExactYrs yrs L) (stateKeys : List String)
    (ours theirs ours' theirs' : Value)
    (vectors updates answers : List (String × Value)) : Prop where
  described : ∀ stateKey ∈ stateKeys,
    Described lawful (ours.documentBytes stateKey) (Value.get (.object vectors) stateKey)
  updated : ∀ stateKey ∈ stateKeys,
    Answers lawful (theirs.documentBytes stateKey)
      (Value.get (.object vectors) stateKey) (Value.get (.object updates) stateKey)
  answered : ∀ stateKey ∈ stateKeys,
    Answers lawful (ours.documentBytes stateKey)
      (Value.get (.object updates) stateKey) (Value.get (.object answers) stateKey)
  ours : Takes lawful.toLawfulYrs updates stateKeys ours ours'
  theirs : Takes lawful.toLawfulYrs answers stateKeys theirs theirs'

namespace Exchanged

variable {stateKeys : List String} {stateKey : String}
variable {ours theirs ours' theirs' : Value}
variable {vectors updates answers : List (String × Value)}

section

variable (hexchanged : Exchanged lawful stateKeys ours theirs ours' theirs' vectors updates answers)
  (hmem : stateKey ∈ stateKeys)

include hexchanged hmem

theorem kept (hlacks : ours.documentBytes stateKey = none ∨ theirs.documentBytes stateKey = none) :
    lawful.documentContent ours' stateKey = lawful.documentContent ours stateKey ∧
      lawful.documentContent theirs' stateKey =
        lawful.documentContent theirs stateKey := by
  have hdescribed := hexchanged.described stateKey hmem
  have hupdated := hexchanged.updated stateKey hmem
  have hanswered := hexchanged.answered stateKey hmem
  have hupdates : Value.get (.object updates) stateKey = none := by
    rcases hlacks with hours | htheirs
    · rw [hours] at hdescribed
      rw [hdescribed.eq_none] at hupdated
      exact hupdated.eq_none_of_untold
    · rw [htheirs] at hupdated
      exact hupdated.eq_none_of_unstored
  rw [hupdates] at hanswered
  have hanswers := hanswered.eq_none_of_untold
  exact ⟨hexchanged.ours.content_kept (.inr hupdates),
    hexchanged.theirs.content_kept (.inr hanswers)⟩

theorem joined {bytes bytes' : Bytes} (hours : ours.documentBytes stateKey = some bytes)
    (htheirs : theirs.documentBytes stateKey = some bytes') :
    ∃ both : L, lawful.documentContent ours' stateKey = both ∧
      lawful.documentContent theirs' stateKey = both := by
  have hdescribed := hexchanged.described stateKey hmem
  have hupdated := hexchanged.updated stateKey hmem
  have hanswered := hexchanged.answered stateKey hmem
  rw [hours] at hdescribed hanswered
  rw [htheirs] at hupdated
  obtain ⟨vector, mine, hvector, hmine, htold⟩ := hdescribed.eq_some
  rw [hvector] at hupdated
  obtain ⟨yours, hyours⟩ := hupdated.stored_meaning
  obtain ⟨update, lacked, hupdate, hback, hle, hcovers⟩ := hupdated.eq_some hyours htold
  rw [hupdate] at hanswered
  obtain ⟨answer, lacked', hanswer, hback', hle', hcovers'⟩ :=
    hanswered.eq_some hmine hback
  rw [sup_of_le_left bot_le] at hle hcovers hcovers'
  refine ⟨mine ⊔ yours, ?_, ?_⟩
  · rw [hexchanged.ours.content_joined hmem hours hmine hupdate hback, WithBot.coe_inj]
    exact le_antisymm (sup_le_sup_left hle mine) (sup_le le_sup_left hcovers)
  · rw [hexchanged.theirs.content_joined hmem htheirs hyours hanswer hback', WithBot.coe_inj]
    refine le_antisymm (sup_le le_sup_right ?_) (sup_le ?_ le_sup_left)
    · exact hle'.trans (sup_le_sup_left hle mine)
    · exact le_sup_left.trans hcovers'

end

end Exchanged

variable (lawful) in
/-- The content of the document that is opened for a state key, which is a new one where
there are no bytes. -/
def openedContent (value : Value) (stateKey : String) : L :=
  (lawful.documentContent value stateKey).unbotD ⊥

variable (lawful) in
def Paired (ours theirs : Value) (stateKey : String) : Prop :=
  ((ours.documentBytes stateKey).isSome = (theirs.documentBytes stateKey).isSome) ∨
    openedContent lawful ours stateKey = ⊥ ∧ openedContent lawful theirs stateKey = ⊥

theorem openedContent_of_none {value : Value} (hbytes : value.documentBytes stateKey = none) :
    openedContent lawful value stateKey = ⊥ := by
  rw [openedContent, LawfulYrs.documentContent, hbytes]
  rfl

theorem Exchanged.agree_iff {stateKeys : List String} {ours theirs ours' theirs' : Value}
    {vectors updates answers : List (String × Value)}
    (hexchanged : Exchanged lawful stateKeys ours theirs ours' theirs' vectors updates answers)
    (hmem : stateKey ∈ stateKeys) :
    openedContent lawful ours' stateKey = openedContent lawful theirs' stateKey ↔
      Paired lawful ours theirs stateKey := by
  unfold Paired
  cases hours : ours.documentBytes stateKey with
  | none =>
      obtain ⟨hkept, hkept'⟩ := hexchanged.kept hmem (.inl hours)
      rw [openedContent, openedContent, hkept, hkept', ← openedContent, ← openedContent,
        openedContent_of_none hours]
      cases htheirs : theirs.documentBytes stateKey with
      | none => simp [openedContent_of_none htheirs]
      | some bytes' => simp [eq_comm]
  | some bytes =>
      cases htheirs : theirs.documentBytes stateKey with
      | none =>
          obtain ⟨hkept, hkept'⟩ := hexchanged.kept hmem (.inr htheirs)
          rw [openedContent, openedContent, hkept, hkept', ← openedContent,
            ← openedContent, openedContent_of_none htheirs]
          simp
      | some bytes' =>
          obtain ⟨both, hjoined, hjoined'⟩ := hexchanged.joined hmem hours htheirs
          rw [openedContent, openedContent, hjoined, hjoined']
          simp

end DecryptedResource

end Osvauld.Core
