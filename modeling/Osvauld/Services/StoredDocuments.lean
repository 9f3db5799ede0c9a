import Osvauld.Core.DocumentContent
import Osvauld.Services.ResourceService

namespace Osvauld.Services

open Osvauld.Core CryptoUtils Data Persistance

/-! The documents behind the stored ciphertexts. -/

def textValue (text : JsonText) : Value :=
  match text with
  | .encoded value => value
  | .malformed _ => .null

def plainValue (data : AesText) : Value :=
  match data with
  | .sealed _ plain => textValue plain
  | .other _ => .null

def storedData? (ctx : RepositoryContext) (resourceId : String) : Option AesText :=
  (ResourceRepo.resource? ctx resourceId).map fun resource => resource.data

theorem storedData?_updateResource {now : Int} {data : AesText}
    {resourceId : String} {ctx ctx' : RepositoryContext}
    (hupdate : ResourceRepo.updateResource now data resourceId ctx = .ok ctx')
    (other : String) :
    storedData? ctx' other =
      if other = resourceId then (storedData? ctx other).map fun _ => data
      else storedData? ctx other := by
  cases hupdate
  have hid : ((fun resource : Resource => decide (resource.id = other)) ∘
      fun resource => if resource.id = resourceId then
        ResourceRepo.setData data now resource else resource) =
          fun resource => decide (resource.id = other) := by
    funext resource
    by_cases hresource : resource.id = resourceId <;>
      simp [hresource, ResourceRepo.setData]
  unfold storedData? ResourceRepo.resource?
  simp only [List.find?_map, hid]
  cases hfound : ctx.resources.find? fun resource => decide (resource.id = other) with
  | none => simp
  | some resource =>
      obtain rfl : resource.id = other := by simpa using List.find?_some hfound
      by_cases hresource : resource.id = resourceId <;>
        simp [hresource, ResourceRepo.setData]

theorem incrementVectorClock_resources {freshId : String} {now : Int}
    {resourceId deviceId : String} {ctx ctx' : RepositoryContext}
    (hincrement : VectorClockRepo.incrementVectorClock freshId now resourceId
      deviceId ctx = .ok ctx') : ctx'.resources = ctx.resources := by
  unfold VectorClockRepo.incrementVectorClock at hincrement
  split at hincrement
  · cases hincrement
    rfl
  · rw [reportAs_eq_ok] at hincrement
    rcases Table.insert_eq_ok hincrement with rfl | ⟨_, rfl⟩
    · rfl
    · rfl

theorem decryptResource_ok {cert : Option String} {data : AesText}
    {encryptedKey : PgpText} {plain : JsonText}
    (hdecrypt : decryptResource cert data encryptedKey = .ok plain) :
    ∃ key, data = .sealed key plain := by
  unfold decryptResource at hdecrypt
  rw [bind_eq_ok] at hdecrypt
  obtain ⟨key, _, hdata⟩ := hdecrypt
  cases data with
  | sealed sealedWith text =>
      by_cases hkey : sealedWith = key
      · simp only [hkey, if_true, Except.ok.injEq] at hdata
        exact ⟨sealedWith, by rw [hdata]⟩
      · simp [hkey] at hdata
  | other text => cases hdata

theorem updateResource_ok {cert : Option String} {text : JsonText}
    {encryptedKey : PgpText} {data : AesText}
    (hencrypt : CryptoUtils.updateResource cert text encryptedKey = .ok data) :
    ∃ key, data = .sealed key text := by
  unfold CryptoUtils.updateResource at hencrypt
  rw [bind_eq_ok] at hencrypt
  obtain ⟨key, _, hdata⟩ := hencrypt
  cases hdata
  exact ⟨key, rfl⟩

theorem documentBytes_unparsedData (stateKey : String) :
    unparsedData.documentBytes stateKey = none := by
  by_cases hkey : "error" = stateKey <;>
    simp [unparsedData, Value.documentBytes, Value.get, Value.asBytes, Value.asArray,
      hkey]

structure Shows (resource : DecryptedResource) (stored : Resource) : Prop where
  resourceType : resource.resourceType = stored.resourceType
  documents : resource.data.documentBytes = (plainValue stored.data).documentBytes

theorem decryptSingleResource_ok {env : ServiceEnv} {row : ResourceWithKey}
    {resource : DecryptedResource}
    (hdecrypt : decryptSingleResource env row = .ok resource) :
    Shows resource row.resource := by
  unfold decryptSingleResource at hdecrypt
  rw [bind_eq_ok] at hdecrypt
  obtain ⟨plain, hplain, hresource⟩ := hdecrypt
  cases hresource
  obtain ⟨key, hdata⟩ := decryptResource_ok hplain
  refine ⟨rfl, ?_⟩
  rw [hdata]
  cases plain with
  | encoded value => rfl
  | malformed text =>
      funext stateKey
      exact documentBytes_unparsedData stateKey

theorem findById_ok {resourceId userId : String} {ctx : RepositoryContext}
    {row : ResourceWithKey}
    (hfind : ResourceRepo.findById resourceId userId ctx = .ok row) :
    ResourceRepo.resource? ctx resourceId = some row.resource := by
  unfold ResourceRepo.findById at hfind
  split at hfind
  · next resource key hresource _ =>
      cases hfind
      exact hresource
  · cases hfind

section Content

variable {yrs : Yrs} {L : Type*} [SemilatticeSup L] [OrderBot L]
variable (lawful : LawfulYrs yrs L)

def documents (ctx : RepositoryContext) (resourceId : String) : String → WithBot L :=
  match storedData? ctx resourceId with
  | some data => lawful.documentContent (plainValue data)
  | none => ⊥

theorem documents_of_data {ctx : RepositoryContext} {resourceId : String}
    {data : AesText} (hdata : storedData? ctx resourceId = some data) :
    documents lawful ctx resourceId = lawful.documentContent (plainValue data) := by
  simp [documents, hdata]

theorem documents_congr {ctx ctx' : RepositoryContext} {resourceId : String}
    (hdata : storedData? ctx' resourceId = storedData? ctx resourceId) :
    documents lawful ctx' resourceId = documents lawful ctx resourceId := by
  simp [documents, hdata]

end Content

end Osvauld.Services
