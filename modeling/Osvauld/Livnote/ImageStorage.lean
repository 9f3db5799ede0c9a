import Mathlib.Logic.Function.Basic
import Osvauld.Data.Run

namespace Osvauld.Livnote

open Data

/-! `ImageStorageService`, over the maps in which the notes have their images. -/

structure ImageAsset where
  id : String
  data : String
  mimeType : String
  size : Nat
  width : Option Nat
  height : Option Nat
  uploadedBy : Nat
  timestamp : Nat
  filename : Option String

abbrev ImagesMap := String → Option ImageAsset

inductive ImageEvent
  | dataAvailable (imageId : String) (asset : ImageAsset)
  | dataRemoved (imageId : String)

inductive ChangeAction
  | add
  | update
  | delete

/-- The maps are known by numbers. -/
structure ImageStorageService where
  clientId : Nat
  maps : Nat → ImagesMap
  imagesMap : Option Nat
  imageCache : String → Option String
  /-- The maps on which the service's observer is registered. -/
  mapObserver : List Nat
  /-- The events that have been dispatched on the document. -/
  dispatched : List ImageEvent

namespace ImageStorageService

def withCached (imageId : String) (src : Option String) (service : ImageStorageService) :
    ImageStorageService :=
  { service with imageCache := Function.update service.imageCache imageId src }

def dispatch (event : ImageEvent) (service : ImageStorageService) : ImageStorageService :=
  { service with dispatched := service.dispatched ++ [event] }

/-- What the event of a transaction says of a key that the transaction has touched. -/
def changeAction (before after : Option ImageAsset) : Option ChangeAction :=
  match before, after with
  | none, none => none
  | none, some _ => some .add
  | some _, some _ => some .update
  | some _, none => some .delete

def handleChange (imagesMap : Nat) (service : ImageStorageService)
    (change : String × ChangeAction) : ImageStorageService :=
  match change.2 with
  | .add | .update =>
      match service.maps imagesMap change.1 with
      | some asset =>
          (service.withCached change.1 (some asset.data)).dispatch (.dataAvailable change.1 asset)
      | none => service
  | .delete => (service.withCached change.1 none).dispatch (.dataRemoved change.1)

def handleImageMapUpdate (changes : List (String × ChangeAction))
    (service : ImageStorageService) : ImageStorageService :=
  match service.imagesMap with
  | none => service
  | some imagesMap => changes.foldl (handleChange imagesMap) service

def edited (edits : List (String × Option ImageAsset)) (images : ImagesMap) : ImagesMap :=
  edits.foldl (fun images edit => Function.update images edit.1 edit.2) images

def changes (keys : List String) (before after : ImagesMap) : List (String × ChangeAction) :=
  keys.flatMap fun key => ((changeAction (before key) (after key)).map (key, ·)).toList

/-- One transaction on a map, at the end of which its observers are called. -/
def transact (map : Nat) (edits : List (String × Option ImageAsset))
    (service : ImageStorageService) : ImageStorageService :=
  let after := edited edits (service.maps map)
  let changed := changes (edits.map Prod.fst).eraseDups (service.maps map) after
  (service.mapObserver.filter fun observed => observed = map).foldl
    (fun service _ => service.handleImageMapUpdate changed)
    { service with maps := Function.update service.maps map after }

def initializeCacheFromYjs (service : ImageStorageService) : ImageStorageService :=
  match service.imagesMap with
  | none => service
  | some map =>
      { service with imageCache := fun id => (service.maps map id).map ImageAsset.data }

def unobserved (service : ImageStorageService) : List Nat :=
  match service.imagesMap with
  | none => service.mapObserver
  | some previous => service.mapObserver.erase previous

def setImageMap (map : Nat) (service : ImageStorageService) : ImageStorageService :=
  initializeCacheFromYjs
    { service with imagesMap := some map, mapObserver := map :: service.unobserved }

/-- Three quarters of the length, rounded. The text of an image is ASCII. -/
def calculateBase64Size (base64 : String) : Nat :=
  let base64String :=
    match base64.splitOn "," with
    | _ :: second :: _ => if second = "" then base64 else second
    | _ => base64
  (base64String.length * 3 + 2) / 4

/-- The part of `storeImage` after the dimensions have been waited for. Without a map it
throws. -/
def storeImage (imageId base64Data mimeType : String) (filename : Option String)
    (dimensions : Option (Nat × Nat)) (now : Nat) (service : ImageStorageService) :
    ImageStorageService :=
  match service.imagesMap with
  | none => service
  | some map =>
      let asset : ImageAsset :=
        { id := imageId
          data := base64Data
          mimeType := if mimeType = "" then "image/png" else mimeType
          size := calculateBase64Size base64Data
          width := dimensions.map Prod.fst
          height := dimensions.map Prod.snd
          uploadedBy := service.clientId
          timestamp := now
          filename }
      (service.transact map [(imageId, some asset)]).withCached imageId (some base64Data)

def getImageSrc (imageId : String) (service : ImageStorageService) :
    Option String × ImageStorageService :=
  match service.imageCache imageId with
  | some src => (some src, service)
  | none =>
      match service.imagesMap.bind fun map => service.maps map imageId with
      | none => (none, service)
      | some asset =>
          if asset.data = "" then (none, service)
          else (some asset.data, service.withCached imageId (some asset.data))

def deleteImage (imageId : String) (service : ImageStorageService) : ImageStorageService :=
  match service.imagesMap with
  | none => service
  | some map => (service.transact map [(imageId, none)]).withCached imageId none

def clearCache (service : ImageStorageService) : ImageStorageService :=
  { service with imageCache := fun _ => none }

def destroy (service : ImageStorageService) : ImageStorageService :=
  { service.clearCache with imagesMap := none, mapObserver := service.unobserved }

inductive Call
  | setImageMap (map : Nat)
  | initializeCacheFromYjs
  | transact (map : Nat) (edits : List (String × Option ImageAsset))
  | storeImage (imageId base64Data mimeType : String) (filename : Option String)
      (dimensions : Option (Nat × Nat)) (now : Nat)
  | getImageSrc (imageId : String)
  | deleteImage (imageId : String)
  | clearCache
  | destroy

def step : Call → ImageStorageService → ImageStorageService
  | .setImageMap map => setImageMap map
  | .initializeCacheFromYjs => initializeCacheFromYjs
  | .transact map edits => transact map edits
  | .storeImage imageId base64Data mimeType filename dimensions now =>
      storeImage imageId base64Data mimeType filename dimensions now
  | .getImageSrc imageId => fun service => (service.getImageSrc imageId).2
  | .deleteImage imageId => deleteImage imageId
  | .clearCache => clearCache
  | .destroy => destroy

def start (clientId : Nat) (maps : Nat → ImagesMap) : ImageStorageService :=
  { clientId, maps, imagesMap := none, imageCache := fun _ => none, mapObserver := []
    dispatched := [] }

/-- The data of an image in the open map. -/
def stored (service : ImageStorageService) (imageId : String) : Option String :=
  (service.imagesMap.bind fun map => service.maps map imageId).map ImageAsset.data

/-- What a listener knows of the images when it has heard the events. -/
def replay (known : String → Option String) (events : List ImageEvent) : String → Option String :=
  events.foldl (fun known event =>
    match event with
    | .dataAvailable imageId asset => Function.update known imageId (some asset.data)
    | .dataRemoved imageId => Function.update known imageId none) known

def changeEvents (before after : ImagesMap) (key : String) : List ImageEvent :=
  match before key, after key with
  | none, none => []
  | _, some asset => [.dataAvailable key asset]
  | some _, none => [.dataRemoved key]

structure Coherent (service : ImageStorageService) : Prop where
  observed : service.mapObserver = service.imagesMap.toList
  cached : ∀ id src, service.imageCache id = some src → service.stored id = some src

variable {service : ImageStorageService} {map : Nat} {known : String → Option String}
variable {keys : List String} {before after : ImagesMap} {id : String}

theorem replay_append (first second : List ImageEvent) :
    replay known (first ++ second) = replay (replay known first) second :=
  List.foldl_append

theorem handleChange_eq (hafter : service.maps map = after) (key : String) :
    ((changeAction (before key) (after key)).map (key, ·)).toList.foldl (handleChange map) service =
      { service with
        imageCache := replay service.imageCache (changeEvents before after key)
        dispatched := service.dispatched ++ changeEvents before after key } := by
  unfold changeEvents changeAction
  cases before key <;> cases hkey : after key <;>
    simp [handleChange, withCached, dispatch, hafter, hkey, replay]

theorem handleChanges_eq (hafter : service.maps map = after) (keys : List String) :
    (changes keys before after).foldl (handleChange map) service =
      { service with
        imageCache := replay service.imageCache (keys.flatMap (changeEvents before after))
        dispatched := service.dispatched ++ keys.flatMap (changeEvents before after) } := by
  induction keys generalizing service with
  | nil => simp [changes, replay]
  | cons key rest ih =>
      rw [changes, List.flatMap_cons, List.foldl_append, handleChange_eq hafter, ← changes]
      refine Eq.trans (ih (by exact hafter)) ?_
      rw [List.flatMap_cons, replay_append, List.append_assoc]

theorem replay_changeEvents (keys : List String) :
    replay known (keys.flatMap (changeEvents before after)) id =
      if id ∈ keys ∧ ¬ (before id = none ∧ after id = none) then (after id).map ImageAsset.data
      else known id := by
  induction keys generalizing known with
  | nil => simp [replay]
  | cons key rest ih =>
      have hfirst : replay known (changeEvents before after key) id =
          if id = key ∧ ¬ (before id = none ∧ after id = none) then (after id).map ImageAsset.data
          else known id := by
        by_cases hkey : id = key
        · subst hkey
          cases hbefore : before id <;> cases hafter : after id <;>
            simp [changeEvents, replay, hbefore, hafter]
        · unfold changeEvents
          cases before key <;> cases after key <;> simp [replay, hkey]
      rw [List.flatMap_cons, replay_append, ih, hfirst]
      simp only [List.mem_cons]
      grind

theorem edited_of_not_mem {edits : List (String × Option ImageAsset)}
    (hid : id ∉ edits.map Prod.fst) (images : ImagesMap) : edited edits images id = images id := by
  unfold edited
  induction edits generalizing images with
  | nil => rfl
  | cons edit rest ih =>
      rw [List.map_cons, List.mem_cons, not_or] at hid
      rw [List.foldl_cons, ih hid.2, Function.update_of_ne hid.1]

theorem replay_edited (edits : List (String × Option ImageAsset)) (images : ImagesMap)
    (id : String) :
    let told := (edits.map Prod.fst).eraseDups.flatMap (changeEvents images (edited edits images))
    replay known told id = (edited edits images id).map ImageAsset.data ∨
      replay known told id = known id ∧ edited edits images id = images id := by
  dsimp only
  rw [replay_changeEvents]
  split
  · exact .inl rfl
  · next hkept =>
      rw [List.mem_eraseDups, not_and_not_right] at hkept
      refine .inr ⟨rfl, ?_⟩
      by_cases hkey : id ∈ edits.map Prod.fst
      · rw [(hkept hkey).1, (hkept hkey).2]
      · exact edited_of_not_mem hkey images

def told (service : ImageStorageService) (map : Nat) (edits : List (String × Option ImageAsset)) :
    List ImageEvent :=
  if service.imagesMap = some map then
    (edits.map Prod.fst).eraseDups.flatMap
      (changeEvents (service.maps map) (edited edits (service.maps map)))
  else []

theorem transact_eq (hcoherent : service.Coherent) (map : Nat)
    (edits : List (String × Option ImageAsset)) :
    service.transact map edits =
      { service with
        maps := Function.update service.maps map (edited edits (service.maps map))
        imageCache := replay service.imageCache (service.told map edits)
        dispatched := service.dispatched ++ service.told map edits } := by
  rw [transact, hcoherent.observed, told]
  by_cases hmap : service.imagesMap = some map
  · simp only [hmap, Option.toList_some, List.filter_cons, List.filter_nil, decide_true, if_true,
      List.foldl_cons, List.foldl_nil, handleImageMapUpdate]
    rw [handleChanges_eq (by exact Function.update_self ..)]
  · have hnone : (service.imagesMap.toList.filter fun observed => observed = map) = [] := by
      cases hown : service.imagesMap <;> simp_all
    simp [hnone, hmap, replay]

theorem stored_transact (hcoherent : service.Coherent) (map : Nat)
    (edits : List (String × Option ImageAsset)) (id : String) :
    replay known (service.told map edits) id = (service.transact map edits).stored id ∨
      replay known (service.told map edits) id = known id ∧
        (service.transact map edits).stored id = service.stored id := by
  rw [transact_eq hcoherent, told, stored, stored]
  dsimp only
  by_cases hmap : service.imagesMap = some map
  · rw [if_pos hmap, hmap, Option.bind_some, Option.bind_some, Function.update_self]
    exact (replay_edited edits (service.maps map) id).imp_right
      (And.imp_right (congrArg (Option.map ImageAsset.data)))
  · rw [if_neg hmap]
    refine .inr ⟨rfl, ?_⟩
    cases hown : service.imagesMap with
    | none => rfl
    | some own =>
        have hother : own ≠ map := fun hsame => hmap (hown.trans (congrArg some hsame))
        rw [Option.bind_some, Option.bind_some, Function.update_of_ne hother]

theorem Coherent.transact (hcoherent : service.Coherent) (map : Nat)
    (edits : List (String × Option ImageAsset)) : (service.transact map edits).Coherent where
  observed := by
    rw [transact_eq hcoherent]
    exact hcoherent.observed
  cached id src hcached := by
    have hcache : (service.transact map edits).imageCache =
        replay service.imageCache (service.told map edits) := by rw [transact_eq hcoherent]
    rw [hcache] at hcached
    rcases stored_transact hcoherent map edits id with hnew | ⟨hold, hsame⟩
    · rw [← hnew, hcached]
    · rw [hsame]
      exact hcoherent.cached id src (hold.symm.trans hcached)

theorem Coherent.unobserved (hcoherent : service.Coherent) : service.unobserved = [] := by
  rw [ImageStorageService.unobserved, hcoherent.observed]
  cases service.imagesMap <;> simp

theorem Coherent.withCached (hcoherent : service.Coherent) (id : String) {text : Option String}
    (htext : ∀ src, text = some src → service.stored id = some src) :
    (service.withCached id text).Coherent where
  observed := hcoherent.observed
  cached other src hcached := by
    dsimp only [ImageStorageService.withCached] at hcached
    by_cases hother : other = id
    · subst hother
      rw [Function.update_self] at hcached
      exact htext src hcached
    · rw [Function.update_of_ne hother] at hcached
      exact hcoherent.cached other src hcached

theorem Coherent.step (hcoherent : service.Coherent) (call : Call) :
    (step call service).Coherent := by
  cases call with
  | setImageMap map =>
      refine ⟨?_, fun id src hcached => hcached⟩
      exact congrArg (map :: ·) hcoherent.unobserved
  | initializeCacheFromYjs =>
      simp only [ImageStorageService.step, initializeCacheFromYjs]
      split
      · exact hcoherent
      · next map hmap =>
          refine ⟨hcoherent.observed, fun id src hcached => ?_⟩
          simpa [stored, hmap] using hcached
  | transact map edits => exact hcoherent.transact map edits
  | storeImage imageId base64Data mimeType filename dimensions now =>
      simp only [ImageStorageService.step, storeImage]
      cases hmap : service.imagesMap with
      | none => exact hcoherent
      | some map =>
          apply (hcoherent.transact map _).withCached
          intro src hsrc
          rw [transact_eq hcoherent, stored]
          simp [hmap, edited, hsrc]
  | getImageSrc imageId =>
      simp only [ImageStorageService.step, getImageSrc]
      split
      · exact hcoherent
      · split
        · exact hcoherent
        · next asset hasset =>
            split
            · exact hcoherent
            · apply hcoherent.withCached
              intro src hsrc
              rw [← hsrc, stored, hasset, Option.map_some]
  | deleteImage imageId =>
      simp only [ImageStorageService.step, deleteImage]
      cases service.imagesMap with
      | none => exact hcoherent
      | some map => exact (hcoherent.transact map _).withCached imageId nofun
  | clearCache => exact ⟨hcoherent.observed, nofun⟩
  | destroy => exact ⟨hcoherent.unobserved, nofun⟩

theorem coherent_run (clientId : Nat) (maps : Nat → ImagesMap) (calls : List Call) :
    (run step (start clientId maps) calls).Coherent := by
  have hstart : (start clientId maps).Coherent := ⟨rfl, nofun⟩
  exact @run_invariant _ _ step _ calls (fun _ => Coherent) hstart
    (fun earlier event _ hcoherent => hcoherent.step event) calls List.prefix_rfl

/-- Whatever has been loaded, stored, deleted and switched to, by whomever: the text of an
image is the one that the open map has under the id, except that an empty one may be none. -/
theorem getImageSrc_eq (clientId : Nat) (maps : Nat → ImagesMap) (calls : List Call)
    (imageId : String) :
    let service := run step (start clientId maps) calls
    (service.getImageSrc imageId).1.filter (· ≠ "") =
      (service.stored imageId).filter (· ≠ "") := by
  have hcoherent := coherent_run clientId maps calls
  dsimp only
  generalize run step (start clientId maps) calls = service at hcoherent
  unfold getImageSrc
  split
  · next src hcached => rw [hcoherent.cached imageId src hcached]
  · rw [stored]
    split
    · next hnone => rw [hnone]; rfl
    · next asset hasset =>
        rw [hasset]
        split
        · next hempty => simp [hempty, Option.filter]
        · rfl

def Call.KeepsMap : Call → Prop
  | .setImageMap _ | .destroy => False
  | _ => True

def Tells (service next : ImageStorageService) : Prop :=
  ∃ events, next.dispatched = service.dispatched ++ events ∧
    replay service.stored events = next.stored

theorem tells_transact (hcoherent : service.Coherent) (map : Nat)
    (edits : List (String × Option ImageAsset)) : Tells service (service.transact map edits) := by
  refine ⟨service.told map edits, by rw [transact_eq hcoherent], funext fun id => ?_⟩
  rcases @stored_transact service service.stored hcoherent map edits id with hnew | ⟨hold, hsame⟩
  · exact hnew
  · exact hold.trans hsame.symm

theorem tells_step (hcoherent : service.Coherent) {call : Call} (hkeeps : call.KeepsMap) :
    Tells service (step call service) := by
  have hsilent : Tells service service := ⟨[], by simp, rfl⟩
  cases call with
  | setImageMap map => cases hkeeps
  | destroy => cases hkeeps
  | initializeCacheFromYjs =>
      simp only [step, initializeCacheFromYjs]
      split <;> exact hsilent
  | transact map edits => exact tells_transact hcoherent map edits
  | storeImage imageId base64Data mimeType filename dimensions now =>
      simp only [step, storeImage]
      split
      · exact hsilent
      · exact tells_transact hcoherent _ _
  | getImageSrc imageId =>
      simp only [step, getImageSrc]
      repeat' split
      all_goals exact hsilent
  | deleteImage imageId =>
      simp only [step, deleteImage]
      split
      · exact hsilent
      · exact tells_transact hcoherent _ _
  | clearCache => exact hsilent

/-- As long as the map stays open, whoever has known its images when it was opened and hears
the events knows them at any time. -/
theorem events_replay (clientId : Nat) (maps : Nat → ImagesMap) (before calls : List Call)
    (map : Nat) (hkeeps : ∀ call ∈ calls, call.KeepsMap) :
    let opened := run step (start clientId maps) (before ++ [.setImageMap map])
    ∃ events, (run step opened calls).dispatched = opened.dispatched ++ events ∧
      replay opened.stored events = (run step opened calls).stored := by
  have hopened := coherent_run clientId maps (before ++ [.setImageMap map])
  dsimp only
  generalize run step (start clientId maps) (before ++ [.setImageMap map]) = opened at hopened
  have hrun := @run_invariant _ _ step opened calls
    (fun _ service => service.Coherent ∧ Tells opened service) ⟨hopened, [], by simp, rfl⟩
    (fun earlier call hcall hbefore => by
      obtain ⟨hcoherent, events, hevents, hstored⟩ := hbefore
      obtain ⟨more, hmore, htold⟩ := tells_step hcoherent (hkeeps call (hcall.subset (by simp)))
      refine ⟨hcoherent.step call, events ++ more, ?_, ?_⟩
      · rw [hmore, hevents, List.append_assoc]
      · rw [replay_append, hstored, htold])
  exact (hrun calls List.prefix_rfl).2

theorem events_replay_storedImage :
    let opened := run step (start 1 fun _ _ => none) [.setImageMap 0]
    let calls : List Call := [.storeImage "img_1" "data:image/png;base64,AA==" "" none none 0]
    ∃ events, (run step opened calls).dispatched = opened.dispatched ++ events ∧
      replay opened.stored events = (run step opened calls).stored :=
  events_replay 1 (fun _ _ => none) [] _ 0 (by simp [Call.KeepsMap])

end ImageStorageService

end Osvauld.Livnote
