import Osvauld.Data.WorkerPool
import Osvauld.Services.ResourceListing
import Osvauld.Services.StoredDocuments

namespace Osvauld.Services

open Osvauld.Core CryptoUtils Data Persistance

/-! The resources that an app is told of when it starts. -/

/-- What the front end shows of a resource. The chat app has `more` fields. -/
structure ResourcePreview (More : Type) where
  id : String
  title : String
  preview : String
  favourite : Bool
  lastAccessed : Int
  folderId : String
  lastModified : Int
  more : More

def notePreview (generatePreviewHtml : Value → Nat → Except String (String × String))
    (resource : DecryptedResource) : ResourcePreview Unit :=
  let (preview, title) := match generatePreviewHtml resource.data 3 with
    | .ok generated => generated
    | .error _ => ("", "")
  { id := resource.id, title, preview, favourite := resource.favourite
    lastAccessed := resource.lastAccessed, folderId := resource.folderId
    lastModified := resource.lastAccessed, more := () }

structure ChatSummary where
  lastMessage : String := ""
  lastMessageTime : Int := 0
  participants : List String := []
  participantIds : List String := []
  unreadCount : Int := 0

structure ChatFields where
  lastMessage : Option String
  lastMessageTime : Option Int
  participantName : Option String
  participantId : Option String
  unreadCount : Option Int
  isOnline : Option Bool

def chatPreview (generateChatPreview : Value → String → Except String ChatSummary)
    (userId : String) (resource : DecryptedResource) : ResourcePreview ChatFields :=
  let previewData := match generateChatPreview resource.data userId with
    | .ok data => data
    | .error _ => {}
  { id := resource.id, title := "", preview := "", favourite := resource.favourite
    lastAccessed := resource.lastAccessed, folderId := resource.folderId
    lastModified := resource.lastAccessed
    more :=
      { lastMessage := some previewData.lastMessage
        lastMessageTime := some previewData.lastMessageTime
        participantName := some (", ".intercalate previewData.participants)
        participantId := previewData.participantIds.head?
        unreadCount := some previewData.unreadCount, isOnline := some false } }

structure Previews (More : Type) where
  of : DecryptedResource → ResourcePreview More
  id_of : ∀ resource, (of resource).id = resource.id

def notePreviews (generatePreviewHtml : Value → Nat → Except String (String × String)) :
    Previews Unit :=
  ⟨notePreview generatePreviewHtml, fun _ => rfl⟩

def chatPreviews (generateChatPreview : Value → String → Except String ChatSummary)
    (userId : String) : Previews ChatFields :=
  ⟨chatPreview generateChatPreview userId, fun _ => rfl⟩

inductive ListingEvent (More : Type) where
  | resourceAdded (preview : ResourcePreview More)
  | resourcesLoadingComplete

inductive ReadFailure where
  | error
  | panic

section StartUp

variable {More : Type} (previews : Previews More)
variable (env : ServiceEnv) (keyPanics : ResourceWithKey → Bool)
variable (ctx : RepositoryContext) (userId : String)

def readDirect (resourceId : String) : Except ReadFailure DecryptedResource :=
  match ResourceRepo.findById resourceId userId ctx with
  | .error _ => .error .error
  | .ok row =>
      if keyPanics row then .error .panic
      else
        match ((getResourceByIdDirect env resourceId userId).run ctx).1 with
        | .ok resource => .ok resource
        | .error _ => .error .error

def readable (resourceId : String) : Bool :=
  (readDirect env keyPanics ctx userId resourceId).isOk

/-- What a task emits; a failure or a panic is counted and nothing else. -/
def taskEvents (resourceId : String) : List (ListingEvent More) :=
  match readDirect env keyPanics ctx userId resourceId with
  | .ok resource => [.resourceAdded (previews.of resource)]
  | .error _ => []

/-- The selected resource is read before anything is started, and a panic there ends the
command. -/
def selectedEvents (selectedResourceId : Option String) : Option (List (ListingEvent More)) :=
  match selectedResourceId with
  | none => some []
  | some selected =>
      match readDirect env keyPanics ctx userId selected with
      | .ok resource => some [.resourceAdded (previews.of resource)]
      | .error .error => some []
      | .error .panic => none

def maxConcurrentTasks : Nat := 10

def emitAllResources (selectedResourceId : Option String) :
    Option (WorkerPool String (ListingEvent More)) :=
  match ResourceRepo.getAllResourceIds ctx,
      selectedEvents previews env keyPanics ctx userId selectedResourceId with
  | .ok allResourceIds, some events =>
      let remaining := match selectedResourceId with
        | none => allResourceIds
        | some selected => allResourceIds.erase selected
      some (.opened maxConcurrentTasks remaining events)
  | _, _ => none

abbrev ListingStep :
    WorkerPool String (ListingEvent More) → WorkerPool String (ListingEvent More) → Prop :=
  WorkerPool.Step (taskEvents previews env keyPanics ctx userId) [.resourcesLoadingComplete]

end StartUp

def announcedIds {More : Type} (events : List (ListingEvent More)) : List String :=
  events.filterMap fun event =>
    match event with
    | .resourceAdded preview => some preview.id
    | .resourcesLoadingComplete => none

def Live (ctx : RepositoryContext) (resourceId : String) : Prop :=
  ∃ resource ∈ ctx.resources, resource.id = resourceId ∧ resource.deleted = false

section Listing

variable {More : Type} (previews : Previews More)
variable (env : ServiceEnv) (keyPanics : ResourceWithKey → Bool)
variable (ctx : RepositoryContext) (userId : String)

structure ListsExactly (events : List (ListingEvent More)) : Prop where
  once : ∀ resourceId, Live ctx resourceId → ∀ resource,
    readDirect env keyPanics ctx userId resourceId = .ok resource →
      (announcedIds events).count resourceId = 1
  live : ∀ resourceId ∈ announcedIds events, Live ctx resourceId
  complete : ∃ announced : List (ListingEvent More),
    events = announced ++ [.resourcesLoadingComplete] ∧ .resourcesLoadingComplete ∉ announced

/-- The tasks are started, ten at most are in flight at any time, and however they go on
they come to an end with everything listed. -/
structure StartsUp (selectedResourceId : Option String) : Prop where
  starts : ∃ pool, emitAllResources previews env keyPanics ctx userId selectedResourceId =
    some pool
  bounded : ∀ pool, emitAllResources previews env keyPanics ctx userId selectedResourceId =
    some pool → ∀ state, Relation.ReflTransGen
      (ListingStep previews env keyPanics ctx userId) pool state →
        state.inFlight ≤ maxConcurrentTasks
  ends : ∀ pool, emitAllResources previews env keyPanics ctx userId selectedResourceId =
    some pool → Acc (fun next state =>
      ListingStep previews env keyPanics ctx userId state next) pool
  exact : ∀ pool, emitAllResources previews env keyPanics ctx userId selectedResourceId =
    some pool → ∀ last, Relation.ReflTransGen
      (ListingStep previews env keyPanics ctx userId) pool last →
        (∀ next, ¬ ListingStep previews env keyPanics ctx userId last next) →
          ListsExactly env keyPanics ctx userId last.output

def SelectedFits (selectedResourceId : Option String) : Prop :=
  ∀ selected, selectedResourceId = some selected →
    match readDirect env keyPanics ctx userId selected with
    | .ok _ => Live ctx selected
    | .error .error => True
    | .error .panic => False

variable {previews env keyPanics ctx userId}

theorem readDirect_id {resourceId : String} {resource : DecryptedResource}
    (hread : readDirect env keyPanics ctx userId resourceId = .ok resource) :
    resource.id = resourceId := by
  unfold readDirect at hread
  split at hread
  · cases hread
  · next row hfind =>
      have hrow : row.resource.id = resourceId := by
        simpa using List.find?_some (findById_ok hfind)
      split at hread
      · cases hread
      split at hread
      · next found hfound =>
          cases hread
          rw [getResourceByIdDirect, Program.run_bind, query, Program.run_read, hfind] at hfound
          simp only [Except.mapError, Program.andThen_ok, liftCrypto, Program.run_ofExcept]
            at hfound
          obtain ⟨plain, -, hresource⟩ := bind_eq_ok.mp (mapError_eq_ok.mp hfound)
          cases hresource
          exact hrow
      · cases hread

theorem announcedIds_taskEvents (resourceId : String) :
    announcedIds (taskEvents previews env keyPanics ctx userId resourceId) =
      if readable env keyPanics ctx userId resourceId then [resourceId] else [] := by
  cases hread : readDirect env keyPanics ctx userId resourceId with
  | error failure =>
      rw [taskEvents, readable, hread]
      rfl
  | ok resource =>
      rw [taskEvents, readable, hread]
      simp only [announcedIds, List.filterMap_cons, List.filterMap_nil, previews.id_of,
        readDirect_id hread]
      rfl

theorem announcedIds_flatMap (resourceIds : List String) :
    announcedIds (resourceIds.flatMap (taskEvents previews env keyPanics ctx userId)) =
      resourceIds.filter (readable env keyPanics ctx userId) := by
  induction resourceIds with
  | nil => rfl
  | cons resourceId rest ih =>
      have hsplit : announcedIds ((resourceId :: rest).flatMap
          (taskEvents previews env keyPanics ctx userId)) =
            announcedIds (taskEvents previews env keyPanics ctx userId resourceId) ++
              announcedIds (rest.flatMap (taskEvents previews env keyPanics ctx userId)) := by
        simp [announcedIds]
      rw [hsplit, ih, announcedIds_taskEvents, List.filter_cons]
      split <;> rfl

theorem getAllResourceIds_ok (ctx : RepositoryContext)
    (hids : (ctx.resources.map Resource.id).Nodup) :
    ∃ resourceIds, ResourceRepo.getAllResourceIds ctx = .ok resourceIds ∧ resourceIds.Nodup ∧
      ∀ resourceId, resourceId ∈ resourceIds ↔ Live ctx resourceId := by
  refine ⟨_, rfl, ?_, ?_⟩
  · refine ((List.mergeSort_perm _ _).map Resource.id).nodup_iff.mpr ?_
    exact hids.sublist ((List.filter_sublist).map Resource.id)
  · intro resourceId
    simp only [List.mem_map, List.mem_mergeSort, List.mem_filter, Bool.not_eq_true', Live]
    constructor
    · rintro ⟨resource, ⟨hmem, hlive⟩, hid⟩
      exact ⟨resource, hmem, hid, hlive⟩
    · rintro ⟨resource, hmem, hid, hlive⟩
      exact ⟨resource, ⟨hmem, hlive⟩, hid⟩

theorem selected_cases {selectedResourceId : Option String}
    (hfits : SelectedFits env keyPanics ctx userId selectedResourceId)
    {resourceIds : List String} (hids : ResourceRepo.getAllResourceIds ctx = .ok resourceIds)
    (hlive : ∀ resourceId, resourceId ∈ resourceIds ↔ Live ctx resourceId) :
    ∃ remaining events, emitAllResources previews env keyPanics ctx userId selectedResourceId =
        some (.opened maxConcurrentTasks remaining events) ∧
      .resourcesLoadingComplete ∉ events ∧
      (announcedIds events ++ remaining.filter (readable env keyPanics ctx userId)).Perm
        (resourceIds.filter (readable env keyPanics ctx userId)) := by
  unfold emitAllResources
  rw [hids]
  cases selectedResourceId with
  | none => exact ⟨resourceIds, [], rfl, by simp, .refl _⟩
  | some selected =>
      have hselected := hfits selected rfl
      cases hread : readDirect env keyPanics ctx userId selected with
      | ok resource =>
          rw [hread] at hselected
          simp only [selectedEvents, hread]
          refine ⟨resourceIds.erase selected, _, rfl, by simp, ?_⟩
          have hannounced : announcedIds [ListingEvent.resourceAdded (previews.of resource)] =
              [selected] := by
            simp [announcedIds, previews.id_of, readDirect_id hread]
          have hreadable : readable env keyPanics ctx userId selected = true := by
            rw [readable, hread]
            rfl
          have hperm := (List.perm_cons_erase ((hlive selected).mpr hselected)).symm.filter
            (readable env keyPanics ctx userId)
          rw [List.filter_cons_of_pos hreadable] at hperm
          rw [hannounced]
          exact hperm
      | error failure =>
          cases failure with
          | panic =>
              rw [hread] at hselected
              exact hselected.elim
          | error =>
              simp only [selectedEvents, hread]
              refine ⟨resourceIds.erase selected, [], rfl, by simp, ?_⟩
              by_cases hmem : selected ∈ resourceIds
              · have hunreadable : ¬ readable env keyPanics ctx userId selected = true := by
                  rw [readable, hread]
                  exact Bool.false_ne_true
                have hperm := (List.perm_cons_erase hmem).symm.filter
                  (readable env keyPanics ctx userId)
                rw [List.filter_cons_of_neg hunreadable] at hperm
                exact hperm
              · rw [List.erase_of_not_mem hmem]
                exact .refl _

theorem sound_of_reaches {remaining : List String} {events : List (ListingEvent More)}
    {state : WorkerPool String (ListingEvent More)}
    (hreaches : Relation.ReflTransGen (ListingStep previews env keyPanics ctx userId)
      (.opened maxConcurrentTasks remaining events) state) :
    WorkerPool.Sound (taskEvents previews env keyPanics ctx userId) [.resourcesLoadingComplete]
      maxConcurrentTasks remaining events state :=
  WorkerPool.sound_opened.reaches (by decide) hreaches

theorem resourcesLoadingComplete_notMem_taskEvents (resourceIds : List String) :
    .resourcesLoadingComplete ∉
      resourceIds.flatMap (taskEvents previews env keyPanics ctx userId) := by
  simp only [List.mem_flatMap, not_exists, not_and]
  intro resourceId _ hevent
  unfold taskEvents at hevent
  split at hevent <;> simp at hevent

theorem announcedIds_append (events others : List (ListingEvent More)) :
    announcedIds (events ++ others) = announcedIds events ++ announcedIds others :=
  List.filterMap_append

theorem StartsUp.selectedFits {selectedResourceId : Option String}
    (hstarts : StartsUp previews env keyPanics ctx userId selectedResourceId) :
    SelectedFits env keyPanics ctx userId selectedResourceId := by
  rintro selected rfl
  obtain ⟨pool, hpool⟩ := hstarts.starts
  obtain ⟨last, hreaches, hfinal⟩ := @WorkerPool.exists_final _ _
    (taskEvents previews env keyPanics ctx userId) [.resourcesLoadingComplete] pool
  have hexact := hstarts.exact pool hpool last hreaches hfinal
  cases hread : readDirect env keyPanics ctx userId selected with
  | ok resource =>
      simp only [emitAllResources, ResourceRepo.getAllResourceIds, selectedEvents, hread,
        Option.some.injEq] at hpool
      subst hpool
      obtain ⟨completed, -, houtput⟩ := (sound_of_reaches hreaches).output_of_final hfinal
      apply hexact.live
      rw [houtput, announcedIds_append, announcedIds_append, List.mem_append, List.mem_append]
      exact .inl (.inl (by simp [announcedIds, previews.id_of, readDirect_id hread]))
  | error failure =>
      cases failure with
      | panic =>
          simp [emitAllResources, ResourceRepo.getAllResourceIds, selectedEvents, hread] at hpool
      | error => trivial

/-- The listing is complete and exact unless the selected resource is a deleted one that
can still be decrypted, or one that the cipher panics on. -/
theorem startsUp_iff (hids : (ctx.resources.map Resource.id).Nodup)
    (selectedResourceId : Option String) :
    StartsUp previews env keyPanics ctx userId selectedResourceId ↔
      SelectedFits env keyPanics ctx userId selectedResourceId := by
  refine ⟨StartsUp.selectedFits, fun hfits => ?_⟩
  obtain ⟨resourceIds, hresourceIds, hnodup, hlive⟩ := getAllResourceIds_ok ctx hids
  obtain ⟨remaining, events, hpool, hevents, hperm⟩ :=
    @selected_cases _ previews _ _ _ _ _ hfits _ hresourceIds hlive
  refine ⟨⟨_, hpool⟩, ?_, ?_, ?_⟩
  · intro pool hstarted state hreaches
    obtain rfl := Option.some.inj (hpool.symm.trans hstarted)
    exact (sound_of_reaches hreaches).inFlight_le
  · intro pool _
    exact WorkerPool.step_wellFounded.apply pool
  · intro pool hstarted last hreaches hfinal
    obtain rfl := Option.some.inj (hpool.symm.trans hstarted)
    obtain ⟨completed, hcompleted, houtput⟩ :=
      (sound_of_reaches hreaches).output_of_final hfinal
    have hannounced : (announcedIds last.output).Perm
        (resourceIds.filter (readable env keyPanics ctx userId)) := by
      rw [houtput, announcedIds_append, announcedIds_append, announcedIds_flatMap]
      refine List.Perm.trans ?_ hperm
      rw [show announcedIds [(.resourcesLoadingComplete : ListingEvent More)] = [] from rfl,
        List.append_nil]
      exact (hcompleted.filter _).append_left _
    constructor
    · intro resourceId hresource resource hread
      rw [hannounced.count_eq]
      apply List.count_eq_one_of_mem (hnodup.filter _)
      rw [List.mem_filter, readable, hread]
      exact ⟨(hlive resourceId).mpr hresource, rfl⟩
    · intro resourceId hmem
      exact (hlive resourceId).mp (List.mem_filter.mp (hannounced.mem_iff.mp hmem)).1
    · refine ⟨_, houtput, ?_⟩
      rw [List.mem_append, not_or]
      exact ⟨hevents, resourcesLoadingComplete_notMem_taskEvents _⟩

end Listing

def untitledPreviews : Previews Unit :=
  notePreviews fun _ _ => .ok ("", "")

def binnedStore : RepositoryContext :=
  { ownStore with resources := [{ ownNote.resource with deleted := true }] }

theorem startsUp_ownStore :
    StartsUp untitledPreviews listingEnv (fun _ => false) ownStore "R" (some "a") := by
  apply (startsUp_iff (by decide) (some "a")).mpr
  rintro _ ⟨⟩
  exact ⟨ownNote.resource, .head _, rfl, rfl⟩

theorem binned_note_listed :
    ¬ StartsUp untitledPreviews listingEnv (fun _ => false) binnedStore "R" (some "a") := by
  intro hstarts
  obtain ⟨resource, hmem, -, hlive⟩ := hstarts.selectedFits "a" rfl
  cases List.mem_singleton.mp hmem
  cases hlive

end Osvauld.Services
