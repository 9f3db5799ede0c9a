import Osvauld.Data.Lists
import Osvauld.Persistance.ImportedClocks
import Osvauld.Services.ResourceService

namespace Osvauld.Services

open Osvauld.Core CryptoUtils Data Persistance

/-! Lists of decrypted resources. -/

section Calls

variable (env : ServiceEnv)

/-- One round of the loop. The last access is the one of the row, whatever the data says. -/
def decryptListed (row : ResourceWithKey) : CryptoResult DecryptedResource := do
  let decryptedData ← decryptResource env.cert row.resource.data row.encryptedKey
  let parsedData := match decryptedData.parse with
    | .ok value => value
    | .error _ => unparsedData
  return {
    id := row.resource.id
    resourceType := row.resource.resourceType
    data := parsedData
    lastAccessed := row.resource.lastAccessed
    favourite := row.resource.favourite
    folderId := row.resource.folderId }

def decryptResources (resourcesWithKeys : List ResourceWithKey) :
    CryptoResult (List DecryptedResource) :=
  resourcesWithKeys.mapM (decryptListed env)

def getResourcesForFolder (folderId userId : String) : Service (List DecryptedResource) := do
  let resourcesWithKeys ← query (ResourceRepo.findByFolder folderId userId)
  liftCrypto (decryptResources env resourcesWithKeys)

def getAllResources (userId : String) : Service (List DecryptedResource) := do
  let resourcesWithKeys ← query (ResourceRepo.getAllResources userId)
  liftCrypto (decryptResources env resourcesWithKeys)

end Calls

inductive Listing where
  | all
  | folder (folderId : String)

namespace Listing

def call (env : ServiceEnv) (userId : String) : Listing → Service (List DecryptedResource)
  | .all => getAllResources env userId
  | .folder folderId => getResourcesForFolder env folderId userId

def folderId? : Listing → Option String
  | .all => none
  | .folder folderId => some folderId

def rows (listing : Listing) (userId : String) (ctx : RepositoryContext) :
    List ResourceWithKey :=
  (ResourceRepo.queryResourcesWithKeys userId listing.folderId? false false ctx).toOption.getD []

theorem run_call (env : ServiceEnv) (userId : String) (listing : Listing)
    (ctx : RepositoryContext) :
    (listing.call env userId).run ctx =
      ((decryptResources env (listing.rows userId ctx)).mapError .crypto, ctx) := by
  cases listing <;> rfl

end Listing

structure Listed (listing : Listing) (userId : String) (ctx : RepositoryContext)
    (row : ResourceWithKey) : Prop where
  resource : row.resource ∈ ctx.resources
  live : row.resource.deleted = false
  folder : ∀ folderId, listing.folderId? = some folderId → row.resource.folderId = folderId
  key : ∃ key ∈ ctx.resourceKeys, key.resourceId = row.resource.id ∧ key.userId = userId ∧
    row.encryptedKey = key.encryptedKey

theorem mem_rows_iff {listing : Listing} {userId : String} {ctx : RepositoryContext}
    {row : ResourceWithKey} : row ∈ listing.rows userId ctx ↔ Listed listing userId ctx row := by
  simp only [Listing.rows, ResourceRepo.queryResourcesWithKeys, Except.toOption, Option.getD_some,
    List.mem_mergeSort, List.mem_filter, List.mem_flatMap, List.mem_map]
  constructor
  · rintro ⟨⟨resource, hresource, key, ⟨hkey, hmatches⟩, rfl⟩, hkept⟩
    obtain ⟨hid, huser⟩ : key.resourceId = resource.id ∧ key.userId = userId := by
      simpa using hmatches
    have hkept : resource.deleted = false ∧
        (listing.folderId?.all fun folder => resource.folderId = folder) = true := by
      simpa using hkept
    refine ⟨hresource, hkept.1, ?_, key, hkey, hid, huser, rfl⟩
    intro folderId hfolder
    simpa [hfolder] using hkept.2
  · rintro ⟨hresource, hlive, hfolder, key, hkey, hid, huser, hencrypted⟩
    refine ⟨⟨row.resource, hresource, key, ⟨hkey, by simp [hid, huser]⟩, by rw [← hencrypted]⟩, ?_⟩
    cases hlisting : listing.folderId? with
    | none => simp [hlive]
    | some folderId => simp [hlive, hfolder folderId hlisting]

section Bad

variable (env : ServiceEnv)

/-- What decrypts is shown, and the outcome is the one that the rows that decrypt have by
themselves. -/
structure HidesNothing (userId : String) (listing : Listing) (ctx : RepositoryContext) :
    Prop where
  shows : ∀ row, Listed listing userId ctx row → ∀ decrypted,
    decryptListed env row = .ok decrypted → ∃ resources,
      ((listing.call env userId).run ctx).1 = .ok resources ∧ decrypted ∈ resources
  others : ((listing.call env userId).run ctx).1 =
    (decryptResources env ((listing.rows userId ctx).filter fun row =>
      (decryptListed env row).isOk)).mapError .crypto

variable {env} {userId : String} {listing : Listing} {ctx : RepositoryContext}

theorem run_ne_ok_of_bad {row : ResourceWithKey} (hlisted : Listed listing userId ctx row)
    (hbad : Throws (decryptListed env) row) (resources : List DecryptedResource) :
    ((listing.call env userId).run ctx).1 ≠ .ok resources := by
  rw [Listing.run_call]
  intro hok
  exact mapM_ne_ok_of_throws (mem_rows_iff.mpr hlisted) hbad _ (mapError_eq_ok.mp hok)

theorem decryptResources_readable (rows : List ResourceWithKey) :
    ∃ resources, decryptResources env (rows.filter fun row => (decryptListed env row).isOk) =
      .ok resources := by
  refine ⟨_, mapM_of_returns ?_⟩
  intro row hrow hthrows
  have hok := (List.mem_filter.mp hrow).2
  cases hdecrypt : decryptListed env row with
  | error error => simp [hdecrypt, Except.isOk, Except.toBool] at hok
  | ok decrypted => exact hthrows decrypted hdecrypt

/-- After any imports, the rows that do not decrypt hide the others unless there are
none. -/
theorem listing_hides_nothing_iff (start : RepositoryContext) (imports : List ResourceSyncData) :
    let ctx := imports.foldl (fun ctx payload => receive payload ctx) start
    HidesNothing env userId listing ctx ↔
      ∀ row, Listed listing userId ctx row →
        ∃ decrypted, decryptListed env row = .ok decrypted := by
  intro ctx
  constructor
  · rintro ⟨-, hothers⟩ row hlisted
    by_contra hnone
    obtain ⟨resources, hresources⟩ :=
      @decryptResources_readable env (listing.rows userId ctx)
    rw [hresources] at hothers
    exact run_ne_ok_of_bad hlisted (not_exists.mp hnone) resources hothers
  · intro hall
    have hreturns : ∀ row ∈ listing.rows userId ctx, ¬ Throws (decryptListed env) row :=
      fun row hrow => not_throws.mpr (hall row (mem_rows_iff.mp hrow))
    have hdecrypted : decryptResources env (listing.rows userId ctx) =
        .ok ((listing.rows userId ctx).filterMap fun row => (decryptListed env row).toOption) :=
      mapM_of_returns hreturns
    constructor
    · intro row hlisted decrypted hdecrypt
      refine ⟨_, by rw [Listing.run_call, hdecrypted]; rfl, ?_⟩
      exact List.mem_filterMap.mpr ⟨row, mem_rows_iff.mpr hlisted, by rw [hdecrypt]; rfl⟩
    · rw [Listing.run_call, List.filter_eq_self.mpr]
      intro row hrow
      obtain ⟨decrypted, hdecrypt⟩ := hall row (mem_rows_iff.mp hrow)
      rw [hdecrypt]
      rfl

end Bad

def listingEnv : ServiceEnv :=
  { libraries := .tabled [], cert := some "R", now := 0, domain := "livnote", fuel := 8 }

def ownNote : ResourceWithKey :=
  { resource := .new "a" 0 .notes (.sealed "k" (.encoded (.object []))) "folder" "" "R"
    encryptedKey := .sealed "R" "k" }

def ownStore : RepositoryContext :=
  { users := [User.sample "R"], folders := [Folder.sample "folder"]
    resources := [ownNote.resource]
    resourceKeys := [.new "key-a" 0 "a" "R" ownNote.encryptedKey true] }

def sentNote : ResourceWithKey :=
  { resource := .new "b" 0 .notes (.other "no ciphertext") "folder" "" "R"
    encryptedKey := .sealed "R" "k" }

def sentPayload : ResourceSyncData :=
  { resource := sentNote.resource
    resourceKeys := [.new "key-b" 0 "b" "R" sentNote.encryptedKey false]
    shareRecords := [], vectorClocks := [] }

theorem bad_row_hides_note :
    Listed .all "R" (receive sentPayload ownStore) ownNote ∧
      (∃ decrypted, decryptListed listingEnv ownNote = .ok decrypted) ∧
        ¬ HidesNothing listingEnv "R" .all (receive sentPayload ownStore) := by
  have hown : Listed .all "R" (receive sentPayload ownStore) ownNote :=
    ⟨.head _, rfl, nofun, _, .head _, rfl, rfl, rfl⟩
  have hsent : Listed .all "R" (receive sentPayload ownStore) sentNote :=
    ⟨.tail _ (.head _), rfl, nofun, _, .tail _ (.head _), rfl, rfl, rfl⟩
  refine ⟨hown, ⟨_, rfl⟩, fun hhides => ?_⟩
  have hbad : decryptListed listingEnv sentNote = .error (.aesError "Decryption failed") := rfl
  have hthrows : Throws (decryptListed listingEnv) sentNote := by
    intro decrypted hdecrypt
    cases hbad.symm.trans hdecrypt
  obtain ⟨resources, hresources, -⟩ := hhides.shows _ hown _ rfl
  exact run_ne_ok_of_bad hsent hthrows resources hresources

end Osvauld.Services
