import Osvauld.Services.ConcurrentEdits

namespace Osvauld.Services

open Osvauld.Core CryptoUtils Data Persistance

/-! What is left of a plaintext when its documents are merged. -/

def MergeOf (yrs : Yrs) (ours updates merged : Bytes) : Prop :=
  ∃ doc doc', yrs.applyUpdateV2 yrs.new ours = .ok doc ∧
    yrs.applyUpdateV2 doc updates = .ok doc' ∧ merged = yrs.stateAsUpdate doc'

def SameShape : Value → Value → Prop
  | .object fields, .object fields' => fields'.map Prod.fst = fields.map Prod.fst
  | value, value' => value' = value

theorem SameShape.refl (value : Value) : SameShape value value := by
  cases value <;> rfl

theorem SameShape.trans {first second third : Value} (hfirst : SameShape first second)
    (hsecond : SameShape second third) : SameShape first third := by
  cases first with
  | object fields =>
      cases second with
      | object fields' =>
          cases third with
          | object fields'' => exact Eq.trans hsecond hfirst
          | _ => cases hsecond
      | _ => cases hfirst
  | _ =>
      obtain rfl := hfirst
      exact hsecond

theorem SameShape.insert {value : Value} {stateKey : String} (hheld : (value.get stateKey).isSome)
    (item : Value) : SameShape value (value.insert stateKey item) := by
  cases value with
  | object fields =>
      have hany : fields.any fun field => field.1 = stateKey := by
        rw [Value.get, Option.isSome_map, List.find?_isSome] at hheld
        exact List.any_eq_true.mpr hheld
      show (Value.insertField fields stateKey item).map Prod.fst = fields.map Prod.fst
      unfold Value.insertField
      rw [if_pos hany, List.map_map]
      apply List.map_congr_left
      intro field _
      by_cases hfield : field.1 = stateKey <;> simp [hfield]
  | _ => cases hheld

section Fields

variable (yrs : Yrs) (input : List (String × Value))

structure Updated (stateKeys : List String) (value : Value) (key : String) : Prop where
  stateKey : key ∈ stateKeys
  document : (value.documentBytes key).isSome
  updates : entryUpdates input key ≠ []

structure MergedAt (stateKeys : List String) (before after : Value) : Prop where
  merged : ∀ key, Updated input stateKeys before key → ∃ ours bytes,
    before.documentBytes key = some ours ∧ MergeOf yrs ours (entryUpdates input key) bytes ∧
      after.get key = some (.ofBytes bytes)
  kept : ∀ key, ¬ Updated input stateKeys before key → after.get key = before.get key
  shape : SameShape before after

variable {yrs input}

theorem documentBytes_congr {value value' : Value} {key : String}
    (hget : value'.get key = value.get key) :
    value'.documentBytes key = value.documentBytes key := by
  rw [Value.documentBytes, Value.documentBytes, hget]

theorem MergedAt.unchanged {stateKeys : List String} {value : Value}
    (hnone : ∀ key, ¬ Updated input stateKeys value key) :
    MergedAt yrs input stateKeys value value where
  merged key hupdated := absurd hupdated (hnone key)
  kept _ _ := rfl
  shape := .refl value

theorem MergedAt.written {stateKey : String} {ours bytes : Bytes} {value : Value}
    (hours : value.documentBytes stateKey = some ours)
    (hmerge : MergeOf yrs ours (entryUpdates input stateKey) bytes)
    (hupdates : entryUpdates input stateKey ≠ []) :
    MergedAt yrs input [stateKey] value (value.insert stateKey (.ofBytes bytes)) where
  merged key hupdated := by
    obtain rfl : key = stateKey := by simpa using hupdated.stateKey
    refine ⟨ours, bytes, hours, hmerge, ?_⟩
    cases value with
    | object fields => rw [Value.insert, Value.get_insertField, if_pos rfl]
    | _ => cases hours
  kept key hkept := by
    have hother : key ≠ stateKey := by
      rintro rfl
      exact hkept ⟨by simp, by simp [hours], hupdates⟩
    cases value with
    | object fields => rw [Value.insert, Value.get_insertField, if_neg hother]
    | _ => rfl
  shape := by
    apply SameShape.insert
    unfold Value.documentBytes at hours
    cases hget : value.get stateKey with
    | none => simp [hget] at hours
    | some item => rfl

theorem syncKey_mergedAt {stateKey : String} {state state' : Value × List (String × Value)}
    (hsync : DecryptedResource.syncKey yrs input stateKey state = .ok state') :
    MergedAt yrs input [stateKey] state.1 state'.1 := by
  unfold DecryptedResource.syncKey at hsync
  split at hsync
  · next ours entry hours hentry =>
      have hentryUpdates : entryUpdates input stateKey =
          DecryptedResource.entryBytes entry "updates" := by
        rw [entryUpdates, hentry]
      rw [bind_eq_ok] at hsync
      obtain ⟨⟨newState, answer⟩, hdocument, hresult⟩ := hsync
      obtain ⟨doc, doc', hopen, hmerged, -⟩ := DecryptedResource.syncDocument_cases hdocument
      cases hresult
      cases hmerged with
      | unchanged hempty _ =>
          apply MergedAt.unchanged
          intro key hupdated
          obtain rfl : key = stateKey := by simpa using hupdated.stateKey
          exact hupdated.updates (hentryUpdates.trans (List.isEmpty_iff.mp hempty))
      | updated hsome happly =>
          rw [← hentryUpdates] at hsome happly
          apply MergedAt.written hours ⟨doc, doc', hopen, happly, rfl⟩
          exact fun hempty => hsome (List.isEmpty_iff.mpr hempty)
  · next hskip =>
      cases hsync
      apply MergedAt.unchanged
      intro key hupdated
      obtain rfl : key = stateKey := by simpa using hupdated.stateKey
      obtain ⟨ours, hours⟩ := Option.isSome_iff_exists.mp hupdated.document
      cases hentry : Value.get (.object input) key with
      | none => exact hupdated.updates (by rw [entryUpdates, hentry])
      | some entry => exact hskip ours entry hours hentry

theorem MergedAt.cons {stateKey : String} {stateKeys : List String} {before between after : Value}
    (hfresh : stateKey ∉ stateKeys) (hfirst : MergedAt yrs input [stateKey] before between)
    (hrest : MergedAt yrs input stateKeys between after) :
    MergedAt yrs input (stateKey :: stateKeys) before after where
  merged key hupdated := by
    rcases List.mem_cons.mp hupdated.stateKey with rfl | hmem
    · obtain ⟨ours, bytes, hours, hmerge, hget⟩ :=
        hfirst.merged key ⟨by simp, hupdated.document, hupdated.updates⟩
      have hkept := hrest.kept key fun hlater => hfresh hlater.stateKey
      exact ⟨ours, bytes, hours, hmerge, hkept.trans hget⟩
    · have hkept : between.get key = before.get key := by
        apply hfirst.kept
        intro hearlier
        obtain rfl : key = stateKey := by simpa using hearlier.stateKey
        exact hfresh hmem
      have hbytes := documentBytes_congr hkept
      have hmerged := hrest.merged key ⟨hmem, hbytes ▸ hupdated.document, hupdated.updates⟩
      rwa [hbytes] at hmerged
  kept key hnot := by
    have hkept : between.get key = before.get key := by
      apply hfirst.kept
      intro hearlier
      obtain rfl : key = stateKey := by simpa using hearlier.stateKey
      exact hnot ⟨List.mem_cons_self, hearlier.document, hearlier.updates⟩
    rw [← hkept]
    apply hrest.kept
    intro hlater
    have hdocument := hlater.document
    rw [documentBytes_congr hkept] at hdocument
    exact hnot ⟨List.mem_cons_of_mem _ hlater.stateKey, hdocument, hlater.updates⟩
  shape := hfirst.shape.trans hrest.shape

theorem foldlM_syncKey_mergedAt {stateKeys : List String} (hnodup : stateKeys.Nodup)
    {state state' : Value × List (String × Value)}
    (hsync : stateKeys.foldlM (fun state stateKey =>
      DecryptedResource.syncKey yrs input stateKey state) state = .ok state') :
    MergedAt yrs input stateKeys state.1 state'.1 := by
  induction stateKeys generalizing state with
  | nil =>
      cases hsync
      exact .unchanged fun key hupdated => nomatch hupdated.stateKey
  | cons stateKey rest ih =>
      rw [List.foldlM_cons, bind_eq_ok] at hsync
      obtain ⟨middle, hfirst, hrest⟩ := hsync
      obtain ⟨hfresh, hrestNodup⟩ := List.nodup_cons.mp hnodup
      exact .cons hfresh (syncKey_mergedAt hfirst) (ih hrestNodup hrest)

end Fields

theorem nodup_documentStateKeys (resourceType : ResourceType) :
    resourceType.documentStateKeys.Nodup := by
  cases resourceType <;> decide

theorem syncUpdates_mergedAt {yrs : Yrs} {resource merged : DecryptedResource}
    {updates answers : JsonText}
    (hsync : resource.syncUpdates yrs updates = .ok (merged, answers)) :
    ∃ input, updates.parseObject = .ok input ∧
      MergedAt yrs input resource.resourceType.documentStateKeys resource.data merged.data := by
  unfold DecryptedResource.syncUpdates at hsync
  split at hsync
  · cases hsync
  · next input hinput =>
      rw [bind_eq_ok] at hsync
      obtain ⟨⟨data, results⟩, hloop, hresult⟩ := hsync
      cases hresult
      exact ⟨input, hinput, foldlM_syncKey_mergedAt (nodup_documentStateKeys _) hloop⟩

/-- The plaintext that takes the place of another: JSON with its documents merged, and
otherwise the same text. -/
def KeepsRest (yrs : Yrs) (resourceType : ResourceType) (updates : JsonText) :
    JsonText → JsonText → Prop
  | .encoded before, .encoded after => ∃ input, updates.parseObject = .ok input ∧
      MergedAt yrs input resourceType.documentStateKeys before after
  | before, after => after = before

def KeepsPlaintext (yrs : Yrs) (resourceId : String) (updates : JsonText)
    (ctx ctx' : RepositoryContext) : Prop :=
  ∃ resource key before after, ResourceRepo.resource? ctx resourceId = some resource ∧
    resource.data = .sealed key before ∧
      storedData? ctx' resourceId = some (.sealed key after) ∧
        KeepsRest yrs resource.resourceType updates before after

def StoresJson (resourceId : String) (ctx : RepositoryContext) : Prop :=
  ∃ key value, storedData? ctx resourceId = some (.sealed key (.encoded value))

def MergesTo (env : ServiceEnv) (resourceId userId : String) (updates : JsonText)
    (ctx ctx' : RepositoryContext) : Prop :=
  (∃ answers,
      (applyUpdatesAndGetPeerUpdates env resourceId userId updates).run ctx =
        (.ok answers, ctx')) ∨
    (applyUpdates env resourceId updates userId).run ctx = (.ok .unit, ctx')

section Call

variable {env : ServiceEnv} {resourceId userId : String} {updates : JsonText}
variable {ctx ctx' : RepositoryContext}

theorem update_eq_ok {write : RepositoryContext → Except RepositoryError RepositoryContext}
    (hrun : (update write).run ctx = (.ok .unit, ctx')) : write ctx = .ok ctx' := by
  unfold update at hrun
  rw [Program.run_write] at hrun
  cases hwrite : write ctx with
  | error error => simp [hwrite, Except.mapError] at hrun
  | ok written =>
      rw [hwrite] at hrun
      cases hrun
      rfl

theorem decryptSingleResource_sealed {row : ResourceWithKey} {resource : DecryptedResource}
    (hdecrypt : decryptSingleResource env row = .ok resource) :
    ∃ key plain, decryptAesKey env.cert row.encryptedKey = .ok key ∧
      row.resource.data = .sealed key plain ∧
        resource.resourceType = row.resource.resourceType ∧
          ∀ value, plain = .encoded value → resource.data = value := by
  unfold decryptSingleResource at hdecrypt
  rw [bind_eq_ok] at hdecrypt
  obtain ⟨plain, hplain, hresource⟩ := hdecrypt
  unfold decryptResource at hplain
  rw [bind_eq_ok] at hplain
  obtain ⟨key, hkey, hdata⟩ := hplain
  cases hresource
  split at hdata
  · next sealedWith text hsealed =>
      split at hdata
      · next heq =>
          obtain rfl := Except.ok.inj hdata
          subst heq
          refine ⟨sealedWith, text, hkey, hsealed, rfl, ?_⟩
          rintro value rfl
          rfl
      · cases hdata
  · cases hdata

theorem applyUpdatesAndGetPeerUpdates_ok {answers : JsonText}
    (hrun : (applyUpdatesAndGetPeerUpdates env resourceId userId updates).run ctx =
      (.ok answers, ctx')) :
    ∃ row resource merged,
      ResourceRepo.findById resourceId userId ctx = .ok row ∧
        decryptSingleResource env row = .ok resource ∧
          resource.syncUpdates env.libraries.yrs updates = .ok (merged, answers) ∧
            ∃ encrypted, CryptoUtils.updateResource env.cert (.encoded merged.data)
                row.encryptedKey = .ok encrypted ∧
              ResourceRepo.updateResource env.now encrypted resourceId ctx = .ok ctx' := by
  unfold applyUpdatesAndGetPeerUpdates getResource at hrun
  simp only [Program.run_bind_eq_ok, query, Program.run_read, liftCrypto, liftParse,
    Program.run_ofExcept, Program.run_pure, Prod.mk.injEq, mapError_eq_ok] at hrun
  obtain ⟨_, _, ⟨row, _, ⟨hfind, rfl⟩, resource, _, ⟨hdecrypt, rfl⟩, hpair, rfl⟩,
    ⟨merged, remote⟩, _, ⟨hsync, rfl⟩, encrypted, _, ⟨hencrypt, rfl⟩, _, _, hupdate, hresult,
    rfl⟩ := hrun
  cases hpair
  cases hresult
  exact ⟨row, resource, merged, hfind, hdecrypt, hsync, encrypted, hencrypt,
    update_eq_ok hupdate⟩

theorem MergesTo.exists_answers (hmerge : MergesTo env resourceId userId updates ctx ctx') :
    ∃ answers, (applyUpdatesAndGetPeerUpdates env resourceId userId updates).run ctx =
      (.ok answers, ctx') := by
  rcases hmerge with hrun | hrun
  · exact hrun
  · unfold applyUpdates at hrun
    rw [Program.run_bind_eq_ok] at hrun
    obtain ⟨answers, between, hrun, hrest⟩ := hrun
    cases hrest
    exact ⟨answers, hrun⟩

/-- Everything but the merged documents is as it was if the plaintext was JSON; any other
plaintext is replaced. -/
theorem merge_keeps_plaintext_iff (hmerge : MergesTo env resourceId userId updates ctx ctx') :
    KeepsPlaintext env.libraries.yrs resourceId updates ctx ctx' ↔ StoresJson resourceId ctx := by
  obtain ⟨answers, hrun⟩ := hmerge.exists_answers
  obtain ⟨row, resource, merged, hfind, hdecrypt, hsync, encrypted, hencrypt, hupdate⟩ :=
    applyUpdatesAndGetPeerUpdates_ok hrun
  obtain ⟨key, plain, hkey, hdata, htype, hvalue⟩ := decryptSingleResource_sealed hdecrypt
  have hresource := findById_ok hfind
  have hstored : storedData? ctx resourceId = some (.sealed key plain) := by
    rw [storedData?, hresource, Option.map_some, hdata]
  have hafter : storedData? ctx' resourceId = some (.sealed key (.encoded merged.data)) := by
    rw [storedData?_updateResource hupdate, if_pos rfl, hstored, Option.map_some]
    rw [CryptoUtils.updateResource, hkey] at hencrypt
    exact congrArg some (Except.ok.inj hencrypt).symm
  cases plain with
  | encoded value =>
      refine iff_of_true ?_ ⟨key, value, hstored⟩
      refine ⟨row.resource, key, .encoded value, .encoded merged.data, hresource, hdata, hafter, ?_⟩
      have hmerged := syncUpdates_mergedAt hsync
      rwa [htype, hvalue value rfl] at hmerged
  | malformed text =>
      apply iff_of_false
      · rintro ⟨found, foundKey, before, after, hfound, hbefore, hwritten, hkeeps⟩
        obtain rfl := Option.some.inj (hresource.symm.trans hfound)
        cases hdata.symm.trans hbefore
        cases hafter.symm.trans hwritten
        cases hkeeps
      · rintro ⟨foundKey, value, hfound⟩
        cases hstored.symm.trans hfound

end Call

def noteUpdate : JsonText :=
  .encoded (.object [("main_doc", DecryptedResource.documentEntry [2] [])])

def updatedStore : RepositoryContext :=
  ((applyUpdates editorEnv "a" noteUpdate "R").run editedStore).2

theorem mergesTo_updatedStore :
    MergesTo editorEnv "a" "R" noteUpdate editedStore updatedStore :=
  .inr rfl

theorem merge_keeps_plaintext_iff_note :
    KeepsPlaintext editorEnv.libraries.yrs "a" noteUpdate editedStore updatedStore ↔
      StoresJson "a" editedStore :=
  merge_keeps_plaintext_iff mergesTo_updatedStore

def plainTextStore : RepositoryContext :=
  { editedStore with
    resources := [.new "a" 0 .notes (.sealed "k" (.malformed "Shopping list")) "folder" "" "R"] }

def replacedStore : RepositoryContext :=
  ((applyUpdates editorEnv "a" noteUpdate "R").run plainTextStore).2

theorem plain_text_replaced :
    MergesTo editorEnv "a" "R" noteUpdate plainTextStore replacedStore ∧
      storedData? replacedStore "a" = some (.sealed "k" (.encoded unparsedData)) ∧
        ¬ KeepsPlaintext editorEnv.libraries.yrs "a" noteUpdate plainTextStore replacedStore := by
  have hstored : storedData? replacedStore "a" = some (.sealed "k" (.encoded unparsedData)) := rfl
  refine ⟨.inr rfl, hstored, ?_⟩
  rintro ⟨resource, key, before, after, hresource, hbefore, hafter, hkeeps⟩
  cases hresource
  cases hbefore
  cases hstored.symm.trans hafter
  cases hkeeps

end Osvauld.Services
