import Mathlib.Data.List.Forall2
import Osvauld.Core.Json
import Osvauld.Data.References
import Osvauld.Livnote.PreviewVocabulary

namespace Osvauld.Livnote

open Osvauld.Core Data

/-! The images of a preview: a reference to a stored image is replaced by its data wherever
it stands in the HTML. -/

def isIdStop (char : Char) : Bool :=
  (0x09 ≤ char.toNat && char.toNat ≤ 0x0D) || (0x2000 ≤ char.toNat && char.toNat ≤ 0x200A) ||
    char.toNat ∈ [0x20, 0x22, 0x27, 0x85, 0xA0, 0x1680, 0x2028, 0x2029, 0x202F, 0x205F, 0x3000]

theorem noStop_of_all {chars : List Char}
    (hall : chars.all (fun char => !isIdStop char) = true) :
    ∀ char ∈ chars, isIdStop char = false := by
  simpa using hall

def imageUrlRegex : ReferenceForm Char :=
  { literal := "yjs-image:".toList
    isStop := isIdStop
    nonempty := by decide
    noStop := noStop_of_all rfl }

structure PreviewReaders where
  /-- The text of the fragment, if there is one, and the title in the metadata. -/
  openNote : Bytes → Except String (Option (String × Option Value))
  readEvents : String → List (Except String XmlEvent)
  openImages : Bytes → Except String (List (String × Value))

def extractImageMap (images : List (String × Value)) : List (String × String) :=
  images.filterMap fun (key, value) =>
    match value.get "data" with
    | some (.string data) => some (key, data)
    | _ => none

def imageData (imageMap : List (String × String)) (id : List Char) : Option (List Char) :=
  (imageMap.reverse.find? fun image => image.1.toList = id).map fun image => image.2.toList

section Generate

variable (readers : PreviewReaders)

def extractContentFromYjsState (yjsState : Bytes) : Except String (String × String) :=
  if yjsState = [] then .ok ("", "Untitled Note")
  else do
    let note ← (readers.openNote yjsState).mapError ("Failed to apply YJS state: " ++ ·)
    match note with
    | none => return ("", "Untitled Note")
    | some (content, some (.string title)) => return (content, title)
    | some (content, _) => return (content, "Untitled Note")

def processHtmlImages (html : String) (imageState : Bytes) : Except String String :=
  if html = "" ∨ imageState = [] then .ok html
  else do
    let images ← (readers.openImages imageState).mapError ("Failed to apply image state: " ++ ·)
    let imageMap := extractImageMap images
    if imageMap = [] then return html
    return String.ofList (imageUrlRegex.replaceAll (imageData imageMap) html.toList)

def mentionsImage (html : String) : Bool :=
  html.toList.tails.any fun tail => imageUrlRegex.literal.isPrefixOf tail

def generatePreviewHtml (mainDocState imageState : Bytes) (maxNodes : Nat) :
    Except String (String × String) := do
  let (contentXml, title) ← extractContentFromYjsState readers mainDocState
  if contentXml = "" then return ("", title)
  let html ← convertProsemirrorToHtml (readers.readEvents contentXml) maxNodes
  let processedHtml ←
    if imageState ≠ [] ∧ mentionsImage html then processHtmlImages readers html imageState
    else pure html
  return (processedHtml, title)

def writtenOf (mainDocState : Bytes) (maxNodes : Nat) : List HtmlEvent :=
  match extractContentFromYjsState readers mainDocState with
  | .ok (contentXml, _) =>
      if contentXml = "" then []
      else match (readers.readEvents contentXml).mapM id with
        | .ok events => (PreviewState.convert maxNodes events {}).1
        | .error _ => []
  | .error _ => []

def imagesOf (imageState : Bytes) : List (String × String) :=
  if imageState = [] then []
  else match readers.openImages imageState with
    | .ok images => extractImageMap images
    | .error _ => []

end Generate

inductive Piece where
  | other (chars : List Char)
  | source (value : String)

def Piece.chars (value : String → List Char) : Piece → List Char
  | other chars => chars
  | source src => value src

def Piece.quoted (value : String → List Char) : Piece → List Char
  | other chars => chars
  | source src => '"' :: value src ++ ['"']

def attributePieces (name : String) (attr : String × String) : List Piece :=
  if name = "img" ∧ attr.1 = "src" then
    [.other (' ' :: attr.1.toList ++ ['=']), .source attr.2]
  else [.other (renderAttribute attr)]

def HtmlEvent.pieces : HtmlEvent → List Piece
  | .empty name attributes =>
      .other ('<' :: name.toList) :: attributes.flatMap (attributePieces name) ++
        [.other ['/', '>']]
  | event => [.other event.render]

def parts : List Piece → List Piece
  | [] => [.other []]
  | .other chars :: rest =>
      match parts rest with
      | .other more :: others => .other (chars ++ more) :: others
      | others => .other chars :: others
  | .source src :: rest => .other [] :: .source src :: parts rest

def partsOf (written : List HtmlEvent) : List Piece := parts (written.flatMap HtmlEvent.pieces)

def imageId (src : String) : Option (List Char) :=
  if imageUrlRegex.literal.isPrefixOf src.toList then
    some (src.toList.drop imageUrlRegex.literal.length)
  else none

section Touched

variable (images : List Char → Option (List Char))

def substituted (src : String) : List Char :=
  ((imageId src).bind images).getD (escape src)

/-- Each source that refers to a stored image is taken as a whole and becomes its data, which
does not end the attribute, and nothing else is changed. -/
structure TouchesOnlySources (written : List HtmlEvent) (html : String) : Prop where
  html : html.toList =
    (written.flatMap HtmlEvent.pieces).flatMap (Piece.quoted (substituted images))
  taken : ∀ src, .source src ∈ partsOf written → ∀ id, imageId src = some id →
    (images id).isSome → imageUrlRegex.captured (escape src) = [id]
  closed : ∀ src, .source src ∈ partsOf written → ∀ data,
    (imageId src).bind images = some data → '"' ∉ data

def Untouched (chars : List Char) : Prop :=
  ∀ id ∈ imageUrlRegex.captured chars, ∀ data, images id = some data →
    data = imageUrlRegex.literal ++ id

def PlainId (id : List Char) : Prop :=
  id ≠ [] ∧ ∀ char ∈ id, isIdStop char = false ∧ char ∉ ['<', '>', '&']

structure SourcesFit (written : List HtmlEvent) : Prop where
  elsewhere : ∀ chars, .other chars ∈ partsOf written → Untouched images chars
  unknown : ∀ src, .source src ∈ partsOf written → (imageId src).bind images = none →
    Untouched images (escape src)
  plain : ∀ src, .source src ∈ partsOf written → ∀ id, imageId src = some id →
    (images id).isSome → PlainId id
  closed : ∀ src, .source src ∈ partsOf written → ∀ data,
    (imageId src).bind images = some data → '"' ∉ data

end Touched

theorem parts_cons (pieces : List Piece) :
    ∃ chars others, parts pieces = .other chars :: others := by
  cases pieces with
  | nil => exact ⟨[], [], rfl⟩
  | cons piece rest =>
      cases piece with
      | source src => exact ⟨[], _, rfl⟩
      | other chars =>
          rw [parts]
          split
          · exact ⟨_, _, rfl⟩
          · exact ⟨_, _, rfl⟩

theorem intercalate_parts (value : String → List Char) (pieces : List Piece) :
    ['"'].intercalate ((parts pieces).map (Piece.chars value)) =
      pieces.flatMap (Piece.quoted value) := by
  induction pieces with
  | nil => rfl
  | cons piece rest ih =>
      obtain ⟨more, others, hparts⟩ := parts_cons rest
      rw [hparts, List.map_cons] at ih
      rw [List.flatMap_cons, ← ih]
      cases piece with
      | other chars =>
          rw [parts, hparts]
          dsimp only
          rw [List.map_cons, Piece.chars, Piece.chars, Piece.quoted]
          cases others with
          | nil => simp
          | cons next others =>
              rw [List.map_cons, List.intercalate_cons_cons, List.intercalate_cons_cons]
              simp only [List.append_assoc]
      | source src =>
          rw [parts, hparts, List.map_cons, List.map_cons, List.map_cons,
            List.intercalate_cons_cons, List.intercalate_cons_cons]
          simp [Piece.chars, Piece.quoted]

theorem quoted_pieces (event : HtmlEvent) :
    event.pieces.flatMap (Piece.quoted escape) = event.render := by
  cases event with
  | start name => simp [HtmlEvent.pieces, Piece.quoted]
  | finish name => simp [HtmlEvent.pieces, Piece.quoted]
  | text content => simp [HtmlEvent.pieces, Piece.quoted]
  | empty name attributes =>
      have hattributes : (attributes.flatMap (attributePieces name)).flatMap
          (Piece.quoted escape) = attributes.flatMap renderAttribute := by
        rw [List.flatMap_assoc]
        congr 1
        funext attr
        rw [attributePieces]
        split
        · simp [Piece.quoted, renderAttribute]
        · simp [Piece.quoted]
      rw [HtmlEvent.pieces, List.flatMap_append, List.flatMap_cons, hattributes]
      simp [Piece.quoted, HtmlEvent.render, HtmlEvent.tag?]

theorem render_eq_intercalate (written : List HtmlEvent) :
    written.flatMap HtmlEvent.render =
      ['"'].intercalate ((partsOf written).map (Piece.chars escape)) := by
  rw [partsOf, intercalate_parts, List.flatMap_assoc]
  congr 1
  funext event
  exact (quoted_pieces event).symm

section Replacing

variable {images : List Char → Option (List Char)}

theorem untouched_iff (chars : List Char) :
    Untouched images chars ↔ imageUrlRegex.replaceAll images chars = chars :=
  (ReferenceForm.replaceAll_eq_self_iff chars).symm

theorem isStop_quote : imageUrlRegex.isStop '"' := rfl

theorem replaceAll_parts_iff {written : List HtmlEvent}
    (hclosed : ∀ src, .source src ∈ partsOf written → ∀ data,
      (imageId src).bind images = some data → '"' ∉ data) :
    imageUrlRegex.replaceAll images (written.flatMap HtmlEvent.render) =
        (written.flatMap HtmlEvent.pieces).flatMap (Piece.quoted (substituted images)) ↔
      ∀ part ∈ partsOf written, imageUrlRegex.replaceAll images (part.chars escape) =
        part.chars (substituted images) := by
  rw [render_eq_intercalate, ReferenceForm.replaceAll_intercalate _ isStop_quote,
    ← intercalate_parts, ← partsOf, List.map_map]
  constructor
  · intro heq
    have hcounts : ∀ part ∈ partsOf written, (part.chars (substituted images)).count '"' ≤
        (imageUrlRegex.replaceAll images (part.chars escape)).count '"' := by
      intro part hpart
      cases part with
      | other chars =>
          exact ReferenceForm.countP_le_replaceAll (fun char hchar => by
            rw [eq_of_beq hchar]; exact isStop_quote) chars
      | source src =>
          have hnone : '"' ∉ substituted images src := by
            rw [substituted]
            cases hdata : (imageId src).bind images with
            | none => exact notMem_escape (by simp) src
            | some data => exact hclosed src hpart data hdata
          rw [Piece.chars, List.count_eq_zero.mpr hnone]
          exact Nat.zero_le _
    have hparts := intercalate_inj (List.forall₂_map_left_iff.mpr
      (List.forall₂_map_right_iff.mpr (List.forall₂_same.mpr hcounts))) heq
    intro part hpart
    exact List.map_inj_left.mp hparts part hpart
  · intro hparts
    exact congrArg _ (List.map_congr_left hparts)

theorem escape_literal (id : List Char) :
    escape (String.ofList (imageUrlRegex.literal ++ id)) =
      imageUrlRegex.literal ++ id.flatMap escapeChar := by
  rw [escape, String.toList_ofList, List.flatMap_append]
  rfl

variable {id : List Char}

theorem escape_of_imageId {src : String} (hid : imageId src = some id) :
    escape src = imageUrlRegex.literal ++ id.flatMap escapeChar := by
  unfold imageId at hid
  split at hid
  · next hprefix =>
      obtain ⟨rest, heq⟩ := List.isPrefixOf_iff_prefix.mp hprefix
      rw [← heq, List.drop_left] at hid
      cases hid
      rw [← escape_literal, heq, String.ofList_toList]
  · cases hid

theorem escapeChar_eq {char : Char} (hstop : isIdStop char = false)
    (hplain : char ∉ ['<', '>', '&']) : escapeChar char = [char] := by
  simp only [List.mem_cons, List.not_mem_nil, or_false, not_or] at hplain
  obtain ⟨hless, hgreater, hand⟩ := hplain
  unfold escapeChar
  split
  · exact absurd rfl hless
  · exact absurd rfl hgreater
  · exact absurd rfl hand
  · cases hstop
  · apply if_neg
    intro hquote
    simp [isIdStop, hquote] at hstop

theorem escapeChar_cases {char : Char} (hstop : isIdStop char = false) :
    (escapeChar char = [char] ∧ char ∉ ['<', '>', '&']) ∨
      (1 < (escapeChar char).length ∧ ∀ other ∈ escapeChar char, isIdStop other = false) := by
  by_cases hplain : char ∉ ['<', '>', '&']
  · exact .inl ⟨escapeChar_eq hstop hplain, hplain⟩
  · rw [not_not] at hplain
    right
    simp only [List.mem_cons, List.not_mem_nil, or_false] at hplain
    rcases hplain with rfl | rfl | rfl
    · exact ⟨by decide, noStop_of_all rfl⟩
    · exact ⟨by decide, noStop_of_all rfl⟩
    · exact ⟨by decide, noStop_of_all rfl⟩

theorem flatMap_escapeChar (hplain : ∀ char ∈ id, isIdStop char = false ∧ char ∉ ['<', '>', '&']) :
    id.flatMap escapeChar = id := by
  induction id with
  | nil => rfl
  | cons char id ih =>
      rw [List.forall_mem_cons] at hplain
      rw [List.flatMap_cons, ih hplain.2, escapeChar_eq hplain.1.1 hplain.1.2]
      rfl

theorem escaped_noStop (hid : ∀ char ∈ id, isIdStop char = false) :
    ∀ char ∈ id.flatMap escapeChar, isIdStop char = false := by
  intro char hchar
  obtain ⟨own, hown, hmem⟩ := List.mem_flatMap.mp hchar
  rcases escapeChar_cases (hid own hown) with ⟨heq, -⟩ | ⟨-, hall⟩
  · rw [heq, List.mem_singleton] at hmem
    rw [hmem]
    exact hid own hown
  · exact hall char hmem

theorem length_le_flatMap_escapeChar (hid : ∀ char ∈ id, isIdStop char = false) :
    id.length ≤ (id.flatMap escapeChar).length ∧
      ((id.flatMap escapeChar).length = id.length → ∀ char ∈ id, char ∉ ['<', '>', '&']) := by
  induction id with
  | nil => exact ⟨Nat.le_refl _, fun _ => nofun⟩
  | cons char id ih =>
      rw [List.forall_mem_cons] at hid
      obtain ⟨hle, hall⟩ := ih hid.2
      rw [List.flatMap_cons, List.length_append, List.length_cons]
      rcases escapeChar_cases hid.1 with ⟨heq, hplain⟩ | ⟨hlong, -⟩
      · rw [heq, List.length_singleton]
        refine ⟨by omega, fun hlength => ?_⟩
        exact List.forall_mem_cons.mpr ⟨hplain, hall (by omega)⟩
      · exact ⟨by omega, fun hlength => by omega⟩

theorem captured_escape_iff {src : String} (hid : imageId src = some id) :
    imageUrlRegex.captured (escape src) = [id] ↔ PlainId id := by
  rw [escape_of_imageId hid]
  constructor
  · intro hcaptured
    obtain ⟨hne, hstop⟩ := ReferenceForm.of_mem_captured
      (hcaptured ▸ List.mem_singleton_self id : id ∈ imageUrlRegex.captured _)
    obtain ⟨hle, hall⟩ := length_le_flatMap_escapeChar hstop
    have hescaped : id.flatMap escapeChar ≠ [] := by
      intro hnil
      rw [hnil] at hle
      exact hne (List.length_eq_zero_iff.mp (Nat.le_zero.mp hle))
    rw [ReferenceForm.captured_reference hescaped (escaped_noStop hstop)] at hcaptured
    have hsame := congrArg List.length (List.cons.inj hcaptured).1
    exact ⟨hne, fun char hchar => ⟨hstop char hchar, hall hsame char hchar⟩⟩
  · rintro ⟨hne, hplain⟩
    rw [flatMap_escapeChar hplain]
    exact ReferenceForm.captured_reference hne fun char hchar => (hplain char hchar).1

theorem replaceAll_escape {src : String} {data : List Char} (hid : imageId src = some id)
    (hplain : PlainId id) (hdata : images id = some data) :
    imageUrlRegex.replaceAll images (escape src) = data := by
  rw [escape_of_imageId hid, flatMap_escapeChar hplain.2]
  exact ReferenceForm.replaceAll_reference hplain.1
    (fun char hchar => (hplain.2 char hchar).1) hdata

theorem touchesOnlySources_iff (written : List HtmlEvent) {html : String}
    (hhtml : html.toList = imageUrlRegex.replaceAll images (written.flatMap HtmlEvent.render)) :
    TouchesOnlySources images written html ↔ SourcesFit images written := by
  constructor
  · rintro ⟨heq, htaken, hclosed⟩
    rw [hhtml, replaceAll_parts_iff hclosed] at heq
    constructor
    · intro chars hchars
      exact (untouched_iff chars).mpr (heq _ hchars)
    · intro src hsrc hnone
      apply (untouched_iff _).mpr
      have hpart := heq _ hsrc
      rw [Piece.chars, Piece.chars, substituted, hnone] at hpart
      exact hpart
    · intro src hsrc id hid hstored
      exact (captured_escape_iff hid).mp (htaken src hsrc id hid hstored)
    · exact hclosed
  · rintro ⟨helsewhere, hunknown, hplain, hclosed⟩
    refine ⟨?_, ?_, hclosed⟩
    · rw [hhtml, replaceAll_parts_iff hclosed]
      intro part hpart
      cases part with
      | other chars => exact (untouched_iff chars).mp (helsewhere chars hpart)
      | source src =>
          rw [Piece.chars, Piece.chars, substituted]
          cases hdata : (imageId src).bind images with
          | none => exact (untouched_iff _).mp (hunknown src hpart hdata)
          | some data =>
              obtain ⟨id, hid, hstored⟩ := Option.bind_eq_some_iff.mp hdata
              have hfits := hplain src hpart id hid (by rw [hstored]; rfl)
              exact replaceAll_escape hid hfits hstored
    · intro src hsrc id hid hstored
      exact (captured_escape_iff hid).mpr (hplain src hsrc id hid hstored)

end Replacing

section Generated

variable {readers : PreviewReaders} {mainDocState imageState : Bytes} {maxNodes : Nat}
variable {html title : String}

theorem replaceAll_of_not_mentioned {stored : List Char → Option (List Char)}
    (hnone : ¬ mentionsImage html) : imageUrlRegex.replaceAll stored html.toList = html.toList := by
  rw [ReferenceForm.replaceAll_eq_self_iff, ReferenceForm.captured_eq_nil]
  · exact nofun
  · intro tail htail hprefix
    apply hnone
    rw [mentionsImage, List.any_eq_true]
    exact ⟨tail, (List.mem_tails _ _).mpr htail, hprefix⟩

theorem replaceAll_nothing (chars : List Char) :
    imageUrlRegex.replaceAll (imageData []) chars = chars :=
  (ReferenceForm.replaceAll_eq_self_iff chars).mpr fun _ _ _ hdata => nomatch hdata

theorem processHtmlImages_ok {processed : String}
    (hok : processHtmlImages readers html imageState = .ok processed) :
    processed.toList =
      imageUrlRegex.replaceAll (imageData (imagesOf readers imageState)) html.toList := by
  unfold processHtmlImages at hok
  split at hok
  · next hempty =>
      cases hok
      rcases hempty with rfl | rfl
      · rfl
      · rw [imagesOf, if_pos rfl, replaceAll_nothing]
  · next hstate =>
      rw [not_or] at hstate
      obtain ⟨images, himages, hok⟩ := bind_eq_ok.mp hok
      rw [imagesOf, if_neg hstate.2, mapError_eq_ok.mp himages]
      dsimp only at hok ⊢
      split at hok
      · next hnone =>
          cases hok
          rw [hnone, replaceAll_nothing]
      · cases hok
        rw [String.toList_ofList]

theorem generatePreviewHtml_ok
    (hok : generatePreviewHtml readers mainDocState imageState maxNodes = .ok (html, title)) :
    html.toList = imageUrlRegex.replaceAll (imageData (imagesOf readers imageState))
      ((writtenOf readers mainDocState maxNodes).flatMap HtmlEvent.render) := by
  obtain ⟨⟨contentXml, noteTitle⟩, hcontent, hok⟩ := bind_eq_ok.mp hok
  rw [writtenOf, hcontent]
  dsimp only at hok ⊢
  split at hok
  · next hempty =>
      cases hok
      rw [if_pos hempty]
      rfl
  · next hcontentXml =>
      rw [if_neg hcontentXml]
      obtain ⟨converted, hconverted, hok⟩ := bind_eq_ok.mp hok
      obtain ⟨events, hevents, hrendered⟩ := bind_eq_ok.mp hconverted
      rw [hevents]
      cases hrendered
      have hrender : (render (PreviewState.convert maxNodes events {}).1).toList =
          (PreviewState.convert maxNodes events {}).1.flatMap HtmlEvent.render :=
        String.toList_ofList
      dsimp only
      rw [← hrender]
      split at hok
      · obtain ⟨processed, hprocessed, hok⟩ := bind_eq_ok.mp hok
        cases hok
        exact processHtmlImages_ok hprocessed
      · next hskipped =>
          cases hok
          rw [not_and_or, not_not] at hskipped
          rcases hskipped with hstate | hmentions
          · rw [imagesOf, if_pos hstate, replaceAll_nothing]
          · rw [replaceAll_of_not_mentioned hmentions]

/-- The HTML of a preview differs from what was converted in the sources of images only,
exactly when the sources fit. -/
theorem preview_touchesOnlySources_iff
    (hok : generatePreviewHtml readers mainDocState imageState maxNodes = .ok (html, title)) :
    TouchesOnlySources (imageData (imagesOf readers imageState))
        (writtenOf readers mainDocState maxNodes) html ↔
      SourcesFit (imageData (imagesOf readers imageState))
        (writtenOf readers mainDocState maxNodes) :=
  touchesOnlySources_iff _ (generatePreviewHtml_ok hok)

end Generated

def imageReaders (events : List XmlEvent) : PreviewReaders where
  openNote := fun _ => .ok (some ("<note/>", none))
  readEvents := fun _ => events.map .ok
  openImages := fun _ => .ok [("i", .object [("data", .string "data:x")])]

def shownImage : List XmlEvent := [.empty "image" [.ok ("src", "yjs-image:i")]]

def quotedReference : List XmlEvent :=
  [.start "paragraph" [], .text "yjs-image:i here", .finish "paragraph"]

theorem shownImage_replaced :
    TouchesOnlySources (imageData (imagesOf (imageReaders shownImage) [1]))
      (writtenOf (imageReaders shownImage) [1] 3) "<img src=\"data:x\"/>" := by
  apply (@preview_touchesOnlySources_iff (imageReaders shownImage) [1] [1] 3 _ "Untitled Note"
    rfl).mpr
  have hparts : partsOf (writtenOf (imageReaders shownImage) [1] 3) =
      [.other "<img src=".toList, .source "yjs-image:i", .other "/>".toList] := rfl
  have hsources : ∀ src, .source src ∈ partsOf (writtenOf (imageReaders shownImage) [1] 3) →
      src = "yjs-image:i" := by
    intro src hsrc
    simpa [hparts] using hsrc
  have hid : imageId "yjs-image:i" = some ['i'] := rfl
  constructor
  · intro chars hchars
    have hnone : imageUrlRegex.captured chars = [] := by
      have hother : chars = "<img src=".toList ∨ chars = "/>".toList := by
        simpa [hparts] using hchars
      rcases hother with rfl | rfl
      · rfl
      · rfl
    intro id hcaptured
    rw [hnone] at hcaptured
    cases hcaptured
  · intro src hsrc hunknown
    rw [hsources src hsrc, hid] at hunknown
    cases hunknown
  · intro src hsrc id hsrcId _
    rw [hsources src hsrc, hid] at hsrcId
    cases hsrcId
    simp [PlainId, isIdStop]
  · intro src hsrc data hdata
    rw [hsources src hsrc, hid] at hdata
    cases hdata
    decide

theorem quotedReference_replaced :
    generatePreviewHtml (imageReaders quotedReference) [1] [1] 3 =
        .ok ("<p>data:x here</p>", "Untitled Note") ∧
      ¬ TouchesOnlySources (imageData (imagesOf (imageReaders quotedReference) [1]))
        (writtenOf (imageReaders quotedReference) [1] 3) "<p>data:x here</p>" := by
  have hok : generatePreviewHtml (imageReaders quotedReference) [1] [1] 3 =
      .ok ("<p>data:x here</p>", "Untitled Note") := rfl
  refine ⟨hok, fun htouches => ?_⟩
  have hfits := (touchesOnlySources_iff _ (generatePreviewHtml_ok hok)).mp htouches
  have hdata := hfits.elsewhere "<p>yjs-image:i here</p>".toList (.head _) ['i'] (.head _)
    "data:x".toList rfl
  cases hdata

end Osvauld.Livnote
