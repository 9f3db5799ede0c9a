import Mathlib.Data.List.Induction
import Mathlib.Data.List.Perm.Basic
import Osvauld.Libremot.ChatPreview

namespace Osvauld.Libremot

open Osvauld.Core Data Persistance

namespace ChatPreviewGenerator

/-! A message that cannot be read, among those that can. -/

section Entries

variable {Stamp : Type}

def Legible (chat : ChatMessages Stamp) (key : String) : Prop :=
  ∀ fields, (chat.get key).map Out.toJson = some (.map fields) →
    ∃ message, parseMessage key fields = .ok message

def Readable (chat : ChatMessages Stamp) : Prop :=
  ∀ key, Legible chat key

def messageOf? (chat : ChatMessages Stamp) (key : String) : Option ChatMessage :=
  match (chat.get key).map Out.toJson with
  | some (.map fields) => (parseMessage key fields).toOption
  | _ => none

/-- Nothing that makes a message is under the key: it is no map, or fields of it are
missing or of another type. -/
def Malformed (key : String) (value : Out) : Prop :=
  ∀ fields message, value.toJson = .map fields → parseMessage key fields ≠ .ok message

def PreviewOf (chat : ChatMessages Stamp) (currentUserId : String)
    (preview : ChatPreviewData) : Prop :=
  ∃ messages, messages.Perm (chat.order.filterMap (messageOf? chat)) ∧
    preview = previewOf messages currentUserId

structure SamePreview (preview other : ChatPreviewData) : Prop where
  lastMessageTime : preview.lastMessageTime = other.lastMessageTime
  participants : preview.participants = other.participants
  participantIds : preview.participantIds = other.participantIds
  unreadCount : preview.unreadCount = other.unreadCount

variable {chat : ChatMessages Stamp} {key : String}

theorem legible_of_missing (hmissing : key ∉ chat.order) : Legible chat key := by
  have hnone : chat.entry key = none := by
    rw [chat.mem_order] at hmissing
    simpa using hmissing
  intro fields hfields
  rw [LastWriterMap.get, hnone] at hfields
  cases hfields

theorem legible_of_fields {fields : List (String × Any)}
    (hfields : (chat.get key).map Out.toJson = some (.map fields)) :
    Legible chat key ↔ ∃ message, parseMessage key fields = .ok message := by
  simp [Legible, hfields]

theorem parseEntries_eq_ok_iff {keys : List String} {found : List ChatMessage} :
    parseEntries chat keys = .ok found ↔
      (∀ key ∈ keys, Legible chat key) ∧ found = keys.filterMap (messageOf? chat) := by
  induction keys generalizing found with
  | nil => simp [parseEntries, eq_comm]
  | cons key rest ih =>
      rw [parseEntries, List.forall_mem_cons]
      split
      · next fields hfields =>
          rw [legible_of_fields hfields, bind_eq_ok]
          constructor
          · rintro ⟨message, hmessage, hrest⟩
            obtain ⟨others, hothers, hfound⟩ := bind_eq_ok.mp hrest
            obtain ⟨hlegible, rfl⟩ := ih.mp hothers
            cases hfound
            have hkey : messageOf? chat key = some message := by
              simp [messageOf?, hfields, hmessage, Except.toOption]
            exact ⟨⟨⟨message, hmessage⟩, hlegible⟩, by rw [List.filterMap_cons_some hkey]⟩
          · rintro ⟨⟨⟨message, hmessage⟩, hlegible⟩, rfl⟩
            have hkey : messageOf? chat key = some message := by
              simp [messageOf?, hfields, hmessage, Except.toOption]
            refine ⟨message, hmessage, bind_eq_ok.mpr ⟨_, ih.mpr ⟨hlegible, rfl⟩, ?_⟩⟩
            rw [List.filterMap_cons_some hkey]
            rfl
      · next hfields =>
          have hlegible : Legible chat key := fun fields hmap => absurd hmap (hfields fields)
          have hkey : messageOf? chat key = none := by
            unfold messageOf?
            split
            · next fields hmap => exact absurd hmap (hfields fields)
            · rfl
          rw [ih, List.filterMap_cons_none hkey]
          simp [hlegible]

theorem extractMessages_eq_ok_iff {found : List ChatMessage} :
    extractMessages chat = .ok found ↔
      Readable chat ∧ found = (chat.order.filterMap (messageOf? chat)).mergeSort
        fun message other => message.timestamp ≤ other.timestamp := by
  unfold extractMessages
  rw [bind_eq_ok]
  constructor
  · rintro ⟨parsed, hparsed, hsorted⟩
    obtain ⟨hlegible, rfl⟩ := parseEntries_eq_ok_iff.mp hparsed
    cases hsorted
    refine ⟨fun key => ?_, rfl⟩
    by_cases hmem : key ∈ chat.order
    · exact hlegible key hmem
    · exact legible_of_missing hmem
  · rintro ⟨hreadable, rfl⟩
    exact ⟨_, parseEntries_eq_ok_iff.mpr ⟨fun key _ => hreadable key, rfl⟩, rfl⟩

theorem lastMessage_latest (messages : List ChatMessage) :
    messages = [] ∧ lastMessage messages = none ∨
      ∃ last ∈ messages, lastMessage messages = some last ∧
        ∀ message ∈ messages, message.timestamp ≤ last.timestamp := by
  induction messages using List.reverseRecOn with
  | nil => exact .inl ⟨rfl, rfl⟩
  | append_singleton messages message ih =>
      right
      obtain ⟨rfl, -⟩ | ⟨last, hlast, hfound, hlatest⟩ := ih
      · exact ⟨message, List.mem_cons_self, rfl, by simp⟩
      · rw [lastMessage, List.foldl_append, ← lastMessage, hfound]
        by_cases hle : last.timestamp ≤ message.timestamp
        · refine ⟨message, by simp, if_pos hle, ?_⟩
          intro other hother
          obtain hbefore | hother := List.mem_append.mp hother
          · exact (hlatest other hbefore).trans hle
          · rw [List.mem_singleton.mp hother]
        · refine ⟨last, by simp [hlast], if_neg hle, ?_⟩
          intro other hother
          obtain hbefore | hother := List.mem_append.mp hother
          · exact hlatest other hbefore
          · rw [List.mem_singleton.mp hother]
            exact (not_le.mp hle).le

theorem previewOf_perm {messages others : List ChatMessage}
    (hperm : messages.Perm others) (currentUserId : String) :
    SamePreview (previewOf messages currentUserId) (previewOf others currentUserId) := by
  obtain ⟨rfl, -⟩ | ⟨last, hlast, hfound, hlatest⟩ := lastMessage_latest messages
  · rw [List.nil_perm.mp hperm]
    exact ⟨rfl, rfl, rfl, rfl⟩
  · obtain ⟨rfl, -⟩ | ⟨other, hother, hfoundOther, hlatestOther⟩ := lastMessage_latest others
    · rw [List.perm_nil.mp hperm] at hlast
      cases hlast
    · have hsent := hperm.filter fun message => message.authorId ≠ currentUserId
      rw [previewOf, previewOf, hfound, hfoundOther]
      constructor
      · exact (hlatestOther last (hperm.mem_iff.mp hlast)).antisymm
          (hlatest other (hperm.mem_iff.mpr hother))
      · exact List.toFinset_eq_of_perm _ _ (hsent.map _)
      · exact List.toFinset_eq_of_perm _ _ (hsent.map _)
      · dsimp only
        rw [hperm.countP_eq]

theorem PreviewOf.same {currentUserId : String} {preview other : ChatPreviewData}
    (hpreview : PreviewOf chat currentUserId preview) (hother : PreviewOf chat currentUserId other) :
    SamePreview preview other := by
  obtain ⟨messages, hmessages, rfl⟩ := hpreview
  obtain ⟨others, hothers, rfl⟩ := hother
  exact previewOf_perm (hmessages.trans hothers.symm) currentUserId

theorem order_perm {loaded : ChatMessages Stamp} (hentry : loaded.entry = chat.entry) :
    loaded.order.Perm chat.order := by
  rw [List.perm_ext_iff_of_nodup loaded.nodup_order chat.nodup_order]
  intro key
  rw [loaded.mem_order, chat.mem_order, hentry]

theorem messageOf?_congr {other : ChatMessages Stamp} (hget : other.get key = chat.get key) :
    messageOf? other key = messageOf? chat key := by
  rw [messageOf?, messageOf?, hget]

theorem legible_congr {other : ChatMessages Stamp} (hget : other.get key = chat.get key) :
    Legible other key ↔ Legible chat key := by
  rw [Legible, Legible, hget]

section Preview

variable [LinearOrder Stamp] {yrs : ChatYrs Stamp} (lawful : yrs.Lawful)
variable (chat : ChatMessages Stamp) (currentUserId : String)

include lawful

theorem generateChatPreview_encode :
    ∃ loaded : ChatMessages Stamp, loaded.entry = chat.entry ∧
      generateChatPreview yrs (yrs.encodeStateAsUpdateV2 chat) currentUserId =
        (extractMessages loaded).map fun messages => previewOf messages currentUserId := by
  obtain ⟨loaded, hload, hmerges⟩ := lawful.applyUpdateV2_encode .empty chat
  refine ⟨loaded, LastWriterMap.merges_empty hmerges, ?_⟩
  rw [generateChatPreview, lawful.isEmpty_encode, loadChat, hload]
  rfl

theorem generateChatPreview_ok {preview : ChatPreviewData}
    (hpreview : generateChatPreview yrs (yrs.encodeStateAsUpdateV2 chat) currentUserId =
      .ok preview) :
    Readable chat ∧ PreviewOf chat currentUserId preview := by
  obtain ⟨loaded, hentry, hgenerate⟩ := generateChatPreview_encode lawful chat currentUserId
  have hget (key : String) : loaded.get key = chat.get key := by
    rw [LastWriterMap.get, LastWriterMap.get, hentry]
  rw [hgenerate] at hpreview
  cases hextract : extractMessages loaded with
  | error error =>
      rw [hextract] at hpreview
      cases hpreview
  | ok messages =>
      rw [hextract] at hpreview
      cases hpreview
      obtain ⟨hreadable, rfl⟩ := extractMessages_eq_ok_iff.mp hextract
      refine ⟨fun key => (legible_congr (hget key)).mp (hreadable key), _, ?_, rfl⟩
      have hmessages : messageOf? loaded = messageOf? chat :=
        funext fun key => messageOf?_congr (hget key)
      rw [hmessages]
      exact (List.mergeSort_perm _ _).trans ((order_perm hentry).filterMap _)

theorem generateChatPreview_of_readable (hreadable : Readable chat) :
    ∃ preview, generateChatPreview yrs (yrs.encodeStateAsUpdateV2 chat) currentUserId =
      .ok preview := by
  obtain ⟨loaded, hentry, hgenerate⟩ := generateChatPreview_encode lawful chat currentUserId
  have hloaded : Readable loaded := by
    intro key
    refine (legible_congr ?_).mpr (hreadable key)
    rw [LastWriterMap.get, LastWriterMap.get, hentry]
  rw [hgenerate, extractMessages_eq_ok_iff.mpr ⟨hloaded, rfl⟩]
  exact ⟨_, rfl⟩

end Preview

section Insert

variable {chat : ChatMessages Stamp} {key : String} {stamp : Stamp} {value : Out}

theorem get_insert_other {other : String} (hother : other ≠ key) :
    (chat.insert key stamp value).get other = chat.get other := by
  rw [LastWriterMap.get, LastWriterMap.entry_insert, if_neg hother, LastWriterMap.get]

theorem get_insert_self : (chat.insert key stamp value).get key = some value := by
  simp [LastWriterMap.get]

theorem readable_insert_iff (hnew : key ∉ chat.order) (hmalformed : Malformed key value) :
    Readable (chat.insert key stamp value) ↔
      Readable chat ∧ ∀ fields, value.toJson ≠ .map fields := by
  constructor
  · intro hreadable
    constructor
    · intro other
      by_cases hother : other = key
      · rw [hother]
        exact legible_of_missing hnew
      · exact (legible_congr (get_insert_other hother)).mp (hreadable other)
    · intro fields hfields
      obtain ⟨message, hmessage⟩ := hreadable key fields (by
        rw [get_insert_self, Option.map_some, hfields])
      exact hmalformed fields message hfields hmessage
  · rintro ⟨hreadable, hnomap⟩ other
    by_cases hother : other = key
    · intro fields hfields
      rw [hother, get_insert_self, Option.map_some] at hfields
      exact absurd (Option.some.inj hfields) (hnomap fields)
    · exact (legible_congr (get_insert_other hother)).mpr (hreadable other)

theorem messages_insert (hnew : key ∉ chat.order)
    (hnomap : ∀ fields, value.toJson ≠ .map fields) :
    (chat.insert key stamp value).order.filterMap
        (messageOf? (chat.insert key stamp value)) =
      chat.order.filterMap (messageOf? chat) := by
  have hself : messageOf? (chat.insert key stamp value) key = none := by
    rw [messageOf?, get_insert_self, Option.map_some]
    split
    · next fields hfields => exact absurd (Option.some.inj hfields) (hnomap fields)
    · rfl
  have horder : (chat.insert key stamp value).order = chat.order ++ [key] := if_neg hnew
  rw [horder, List.filterMap_append, List.filterMap_cons_none hself, List.filterMap_nil,
    List.append_nil]
  refine List.filterMap_congr fun other hother => messageOf?_congr (get_insert_other ?_)
  rintro rfl
  exact hnew hother

end Insert

end Entries

/-- A new entry that makes no message leaves the preview to the others exactly when it
is no map, or when there is no preview of the others either. -/
theorem generateChatPreview_undisturbed_iff {Stamp : Type} [LinearOrder Stamp]
    {yrs : ChatYrs Stamp} (lawful : yrs.Lawful) {chat : ChatMessages Stamp} {key : String}
    (hnew : key ∉ chat.order) {value : Out} (hmalformed : Malformed key value)
    (stamp : Stamp) (currentUserId : String) :
    (∀ before, generateChatPreview yrs (yrs.encodeStateAsUpdateV2 chat) currentUserId =
        .ok before →
      ∃ after, generateChatPreview yrs
          (yrs.encodeStateAsUpdateV2 (chat.insert key stamp value)) currentUserId =
            .ok after ∧
        PreviewOf chat currentUserId after ∧ SamePreview before after) ↔
      (∀ fields, value.toJson ≠ .map fields) ∨ ¬ Readable chat := by
  constructor
  · intro hundisturbed
    by_cases hreadable : Readable chat
    · obtain ⟨before, hbefore⟩ :=
        generateChatPreview_of_readable lawful chat currentUserId hreadable
      obtain ⟨after, hafter, -⟩ := hundisturbed before hbefore
      have hinserted := (generateChatPreview_ok lawful _ currentUserId hafter).1
      exact .inl ((readable_insert_iff hnew hmalformed).mp hinserted).2
    · exact .inr hreadable
  · intro hskipped before hbefore
    obtain ⟨hreadable, hpreview⟩ := generateChatPreview_ok lawful chat currentUserId hbefore
    have hnomap := hskipped.resolve_right (not_not.mpr hreadable)
    have hinserted : Readable (chat.insert key stamp value) :=
      (readable_insert_iff hnew hmalformed).mpr ⟨hreadable, hnomap⟩
    obtain ⟨after, hafter⟩ :=
      generateChatPreview_of_readable lawful _ currentUserId hinserted
    obtain ⟨-, messages, hmessages, hshown⟩ :=
      generateChatPreview_ok lawful _ currentUserId hafter
    rw [messages_insert hnew hnomap] at hmessages
    have hothers : PreviewOf chat currentUserId after := ⟨messages, hmessages, hshown⟩
    exact ⟨after, hafter, hothers, hpreview.same hothers⟩

def greeted : ChatMessages Nat :=
  LastWriterMap.empty.insert "m" 1 (.any (.map [("authorId", .string "W"),
    ("authorName", .string "Walt"), ("content", .string "hello"), ("timestamp", .bigInt 1)]))

/-- A text in place of a message is passed over. -/
theorem generateChatPreview_text :
    ∃ before after, generateChatPreview (.plain Nat) greeted "U" = .ok before ∧
      generateChatPreview (.plain Nat) (greeted.insert "n" 2 (.any (.string "hi"))) "U" =
        .ok after ∧
      PreviewOf greeted "U" after ∧ SamePreview before after := by
  have hmalformed : Malformed "n" (.any (.string "hi")) := by
    intro fields message hfields
    cases hfields
  have hnomap : ∀ fields, (Out.any (.string "hi")).toJson ≠ .map fields := by
    intro fields hfields
    cases hfields
  have hnew : "n" ∉ greeted.order := by decide
  obtain ⟨after, hafter⟩ := (generateChatPreview_undisturbed_iff (ChatYrs.lawful_plain Nat)
    hnew hmalformed 2 "U").mpr (.inl hnomap) _ rfl
  exact ⟨_, after, rfl, hafter⟩

/-- With a message without a content, the unread message is not counted any more. -/
theorem generateChatPreview_disturbed :
    Malformed "n" (.any (.map [("authorId", .string "V"), ("authorName", .string "Vera")])) ∧
      (∃ before, generateChatPreview (.plain Nat) greeted "U" = .ok before ∧
        before.unreadCount = 1) ∧
      generateChatPreview (.plain Nat) (greeted.insert "n" 2
        (.any (.map [("authorId", .string "V"), ("authorName", .string "Vera")]))) "U" =
          .error "Missing content" := by
  refine ⟨?_, ⟨_, rfl, ?_⟩, rfl⟩
  · intro fields message hfields hmessage
    cases hfields
    cases hmessage
  · rw [List.mergeSort_singleton]
    decide +kernel

end ChatPreviewGenerator

end Osvauld.Libremot
