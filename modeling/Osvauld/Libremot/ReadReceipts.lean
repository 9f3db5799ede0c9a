import Osvauld.Libremot.ChatPreview

namespace Osvauld.Libremot

open Osvauld.Core Data

namespace ChatPreviewGenerator

/-! Two replicas of a chat on which users mark one message as read, and what becomes
of the marks when the replicas exchange their updates. -/

def Out.isPlain : Out → Bool
  | any (.map _) => true
  | _ => false

def Out.readBy (value : Out) : List String :=
  match value.toJson with
  | .map fields => (readers fields).getD []
  | _ => []

section Receipts

variable {Stamp : Type} [LinearOrder Stamp]

structure BothRead (messageId first second : String) (messages : ChatMessages Stamp) :
    Prop where
  readBy : ∃ value, messages.get messageId = some value ∧ first ∈ value.readBy ∧
    second ∈ value.readBy
  unread : ∀ found, extractMessages messages = .ok found → ∀ message ∈ found,
    message.id = messageId → isUnread first message = false ∧ isUnread second message = false

def afterExchange (yrs : ChatYrs Stamp) (own received : yrs.Update) :
    Except String (ChatMessages Stamp) := do
  let chatDoc ← yrs.applyUpdateV2 .empty own
  yrs.applyUpdateV2 chatDoc received

/-- Each user marks the message as read on a replica; then the replicas exchange their
updates. -/
def ReceiptsMerge (yrs : ChatYrs Stamp) (messageId first second : String)
    (firstStamp secondStamp : Stamp) (ours theirs : ChatMessages Stamp) : Prop :=
  ∃ ourState theirState ourChat theirChat,
    markMessageRead yrs firstStamp (yrs.encodeStateAsUpdateV2 ours) messageId first =
        .ok ourState ∧
      markMessageRead yrs secondStamp (yrs.encodeStateAsUpdateV2 theirs) messageId second =
        .ok theirState ∧
      afterExchange yrs ourState theirState = .ok ourChat ∧
      afterExchange yrs theirState ourState = .ok theirChat ∧
      BothRead messageId first second ourChat ∧ BothRead messageId first second theirChat

/-- What `yrs` makes sure of when it writes: a stamp is later than the one it replaces,
and stands for one value only. -/
structure Concurrent (firstStamp secondStamp : Stamp) (ours theirs : Option (Stamp × Out)) :
    Prop where
  firstLater : writtenAt ours < firstStamp
  secondLater : writtenAt theirs < secondStamp
  firstOwn : writtenAt theirs ≠ firstStamp
  secondOwn : writtenAt ours ≠ secondStamp
  apart : firstStamp ≠ secondStamp
  agree : writtenAt ours = writtenAt theirs → ours = theirs

def writes (user : String) (copy : Option (Stamp × Out)) : Bool :=
  match copy with
  | some (_, value) => value.isPlain && !value.readBy.contains user
  | none => false

def stampAfter (user : String) (stamp : Stamp) (copy : Option (Stamp × Out)) :
    WithBot Stamp :=
  if writes user copy then stamp else writtenAt copy

def KeepsBoth (own other : String) (copy : Option (Stamp × Out)) : Prop :=
  ∃ stamp value, copy = some (stamp, value) ∧ other ∈ value.readBy ∧
    (value.isPlain = true ∨ own ∈ value.readBy)

def WinnerKnowsBoth (messageId first second : String) (firstStamp secondStamp : Stamp)
    (ours theirs : ChatMessages Stamp) : Prop :=
  if stampAfter first firstStamp (ours.entry messageId) <
      stampAfter second secondStamp (theirs.entry messageId) then
    KeepsBoth second first (theirs.entry messageId)
  else KeepsBoth first second (ours.entry messageId)

def withReader (user : String) (value : Out) : Out :=
  match value with
  | .any (.map fields) => .any (.map (Any.insert fields "readBy"
      (.array (((readers fields).getD [] ++ [user]).map .string))))
  | value => value

theorem readBy_withReader {user : String} {value : Out} (hplain : value.isPlain = true) :
    (withReader user value).readBy = value.readBy ++ [user] := by
  cases value with
  | shared json => cases hplain
  | any value =>
      cases value with
      | map fields =>
          simp only [withReader, Out.readBy, Out.toJson, readers, Any.get_insert_self,
            Any.filterMap_asString, Option.getD_some]
      | _ => cases hplain

def markedCopy (user : String) (stamp : Stamp) (copy : Option (Stamp × Out)) :
    Option (Stamp × Out) :=
  match copy with
  | some (old, value) =>
      if writes user (some (old, value)) then some (stamp, withReader user value)
      else some (old, value)
  | none => none

omit [LinearOrder Stamp] in
theorem entry_markRead (stamp : Stamp) (messageId user : String)
    (messages : ChatMessages Stamp) :
    (markRead stamp messageId user messages).entry messageId =
      markedCopy user stamp (messages.entry messageId) := by
  unfold markRead LastWriterMap.get
  cases hentry : messages.entry messageId with
  | none => simp [hentry, markedCopy]
  | some written =>
      obtain ⟨old, value⟩ := written
      cases value with
      | shared json => simp [hentry, markedCopy, writes, Out.isPlain]
      | any value =>
          cases value with
          | map fields =>
              by_cases hlisted : user ∈ (readers fields).getD []
              · simp [hentry, markedCopy, writes, Out.isPlain, Out.readBy, Out.toJson, hlisted]
              · simp [markedCopy, writes, Out.isPlain, Out.readBy, Out.toJson,
                  hlisted, withReader]
          | _ => simp [hentry, markedCopy, writes, Out.isPlain]

omit [LinearOrder Stamp] in
theorem writtenAt_markedCopy (user : String) (stamp : Stamp) (copy : Option (Stamp × Out)) :
    writtenAt (markedCopy user stamp copy) = stampAfter user stamp copy := by
  cases copy with
  | none => rfl
  | some written =>
      obtain ⟨old, value⟩ := written
      unfold markedCopy stampAfter
      dsimp only
      split
      · rfl
      · rfl

omit [LinearOrder Stamp] in
theorem listsBoth_markedCopy {own other : String} (hne : own ≠ other) (stamp : Stamp)
    (copy : Option (Stamp × Out)) :
    (∃ written, markedCopy own stamp copy = some written ∧ own ∈ written.2.readBy ∧
      other ∈ written.2.readBy) ↔ KeepsBoth own other copy := by
  cases copy with
  | none => simp [markedCopy, KeepsBoth]
  | some written =>
      obtain ⟨old, value⟩ := written
      unfold markedCopy
      by_cases hwrites : writes own (some (old, value)) = true
      · obtain ⟨hplain, -⟩ : value.isPlain = true ∧ _ := by
          simpa [writes] using hwrites
        simp [hwrites, KeepsBoth, readBy_withReader hplain, hplain, hne.symm]
      · have hkept : value.isPlain = true → own ∈ value.readBy := by
          simpa [writes] using hwrites
        simp only [hwrites, KeepsBoth]
        constructor
        · rintro ⟨_, hvalue, hown, hother⟩
          cases hvalue
          exact ⟨old, value, rfl, hother, .inr hown⟩
        · rintro ⟨_, _, hvalue, hother, hown⟩
          cases hvalue
          exact ⟨_, rfl, hown.elim hkept id, hother⟩

variable {messages : ChatMessages Stamp}

omit [LinearOrder Stamp] in
theorem readBy_parseEntries {keys : List String} {found : List ChatMessage}
    (hparse : parseEntries messages keys = .ok found) :
    ∀ message ∈ found, ∃ value, messages.get message.id = some value ∧
      message.readBy.getD [] = value.readBy := by
  induction keys generalizing found with
  | nil =>
      cases hparse
      simp
  | cons key rest ih =>
      unfold parseEntries at hparse
      split at hparse
      · next fields hfields =>
          obtain ⟨message, hmessage, hparse⟩ := bind_eq_ok.mp hparse
          obtain ⟨others, hothers, hparse⟩ := bind_eq_ok.mp hparse
          cases hparse
          intro other hother
          rcases List.mem_cons.mp hother with rfl | hrest
          · obtain ⟨value, hvalue, hjson⟩ := Option.map_eq_some_iff.mp hfields
            obtain ⟨rfl, hreaders⟩ := parseMessage_ok hmessage
            refine ⟨value, hvalue, ?_⟩
            rw [hreaders, Out.readBy, hjson]
          · exact ih hothers other hrest
      · exact ih hparse

omit [LinearOrder Stamp] in
theorem isUnread_of_listed {found : List ChatMessage} {message : ChatMessage} {user : String}
    {value : Out} (hextract : extractMessages messages = .ok found) (hmessage : message ∈ found)
    (hvalue : messages.get message.id = some value) (hlisted : user ∈ value.readBy) :
    isUnread user message = false := by
  obtain ⟨parsed, hparse, hsorted⟩ := bind_eq_ok.mp hextract
  cases hsorted
  obtain ⟨found, hfound, hreaders⟩ :=
    readBy_parseEntries hparse message (List.mem_mergeSort.mp hmessage)
  obtain rfl := Option.some.inj (hfound.symm.trans hvalue)
  rw [← hreaders] at hlisted
  unfold isUnread
  cases hreadBy : message.readBy with
  | none => simp [hreadBy] at hlisted
  | some readers =>
      rw [hreadBy] at hlisted
      simpa using fun _ => hlisted

omit [LinearOrder Stamp] in
theorem bothRead_iff {messageId first second : String} :
    BothRead messageId first second messages ↔
      ∃ written, messages.entry messageId = some written ∧ first ∈ written.2.readBy ∧
        second ∈ written.2.readBy := by
  constructor
  · rintro ⟨⟨value, hvalue, hfirst, hsecond⟩, -⟩
    obtain ⟨written, hwritten, rfl⟩ := Option.map_eq_some_iff.mp hvalue
    exact ⟨written, hwritten, hfirst, hsecond⟩
  · rintro ⟨written, hwritten, hfirst, hsecond⟩
    have hvalue : messages.get messageId = some written.2 := by
      rw [LastWriterMap.get, hwritten, Option.map_some]
    refine ⟨⟨written.2, hvalue, hfirst, hsecond⟩, ?_⟩
    rintro found hextract message hmessage rfl
    exact ⟨isUnread_of_listed hextract hmessage hvalue hfirst,
      isUnread_of_listed hextract hmessage hvalue hsecond⟩

variable {yrs : ChatYrs Stamp}

theorem markMessageRead_encode (lawful : yrs.Lawful) (stamp : Stamp)
    (messageId user : String) (messages : ChatMessages Stamp) :
    ∃ marked, markMessageRead yrs stamp (yrs.encodeStateAsUpdateV2 messages) messageId user =
        .ok (yrs.encodeStateAsUpdateV2 marked) ∧
      marked.entry messageId = markedCopy user stamp (messages.entry messageId) := by
  obtain ⟨loaded, hload, hmerges⟩ := lawful.applyUpdateV2_encode .empty messages
  refine ⟨markRead stamp messageId user loaded, ?_, ?_⟩
  · simp [markMessageRead, lawful.isEmpty_encode, loadChat, hload, Except.mapError]
  · rw [entry_markRead, LastWriterMap.merges_empty hmerges]

theorem afterExchange_encode (lawful : yrs.Lawful) (own received : ChatMessages Stamp) :
    ∃ merged, afterExchange yrs (yrs.encodeStateAsUpdateV2 own)
        (yrs.encodeStateAsUpdateV2 received) = .ok merged ∧
      LastWriterMap.Merges own received merged := by
  obtain ⟨loaded, hload, hown⟩ := lawful.applyUpdateV2_encode .empty own
  obtain ⟨merged, hmerge, hmerges⟩ := lawful.applyUpdateV2_encode loaded received
  refine ⟨merged, bind_eq_ok.mpr ⟨loaded, hload, hmerge⟩, fun key => ?_⟩
  rw [hmerges key, LastWriterMap.merges_empty hown]

theorem Concurrent.markedCopy_eq {firstStamp secondStamp : Stamp}
    {ours theirs : Option (Stamp × Out)}
    (hconcurrent : Concurrent firstStamp secondStamp ours theirs) {first second : String}
    (hsame : writtenAt (markedCopy first firstStamp ours) =
      writtenAt (markedCopy second secondStamp theirs)) :
    markedCopy first firstStamp ours = markedCopy second secondStamp theirs := by
  have hkept {user : String} {stamp : Stamp} {copy : Option (Stamp × Out)}
      (hwrites : writes user copy = false) : markedCopy user stamp copy = copy := by
    cases copy with
    | none => rfl
    | some written =>
        obtain ⟨old, value⟩ := written
        simp [markedCopy, hwrites]
  rw [writtenAt_markedCopy, writtenAt_markedCopy] at hsame
  unfold stampAfter at hsame
  cases hfirst : writes first ours with
  | true =>
      cases hsecond : writes second theirs with
      | true =>
          simp only [hfirst, hsecond, if_true] at hsame
          exact absurd (WithBot.coe_injective hsame) hconcurrent.apart
      | false =>
          simp only [hfirst, hsecond, if_true] at hsame
          exact absurd hsame.symm hconcurrent.firstOwn
  | false =>
      cases hsecond : writes second theirs with
      | true =>
          simp only [hfirst, hsecond, if_true] at hsame
          exact absurd hsame hconcurrent.secondOwn
      | false =>
          simp only [hfirst, hsecond] at hsame
          rw [hkept hfirst, hkept hsecond]
          exact hconcurrent.agree hsame

end Receipts

/-- The marks of two users are merged exactly when the copy that wins was made where
the other mark was known. -/
theorem receipts_merge_iff {Stamp : Type} [LinearOrder Stamp] {yrs : ChatYrs Stamp}
    (lawful : yrs.Lawful) {messageId first second : String} (hne : first ≠ second)
    {firstStamp secondStamp : Stamp} {ours theirs : ChatMessages Stamp}
    (hconcurrent : Concurrent firstStamp secondStamp (ours.entry messageId)
      (theirs.entry messageId)) :
    ReceiptsMerge yrs messageId first second firstStamp secondStamp ours theirs ↔
      WinnerKnowsBoth messageId first second firstStamp secondStamp ours theirs := by
  obtain ⟨ourMarked, hourMark, hourCopy⟩ :=
    markMessageRead_encode lawful firstStamp messageId first ours
  obtain ⟨theirMarked, htheirMark, htheirCopy⟩ :=
    markMessageRead_encode lawful secondStamp messageId second theirs
  obtain ⟨ourChat, hourExchange, hourMerges⟩ := afterExchange_encode lawful ourMarked theirMarked
  obtain ⟨theirChat, htheirExchange, htheirMerges⟩ :=
    afterExchange_encode lawful theirMarked ourMarked
  have hsame : theirChat.entry messageId = ourChat.entry messageId := by
    rw [hourMerges, htheirMerges, hourCopy, htheirCopy]
    exact latest_comm fun heq => (hconcurrent.markedCopy_eq heq.symm).symm
  have hexchange : ReceiptsMerge yrs messageId first second firstStamp secondStamp ours theirs ↔
      BothRead messageId first second ourChat ∧ BothRead messageId first second theirChat := by
    constructor
    · rintro ⟨_, _, _, _, hours, htheirs, hourSide, htheirSide, hboth⟩
      cases hourMark.symm.trans hours
      cases htheirMark.symm.trans htheirs
      cases hourExchange.symm.trans hourSide
      cases htheirExchange.symm.trans htheirSide
      exact hboth
    · exact fun hboth => ⟨_, _, _, _, hourMark, htheirMark, hourExchange, htheirExchange, hboth⟩
  rw [hexchange, bothRead_iff, bothRead_iff, hsame, and_self, hourMerges, hourCopy, htheirCopy,
    WinnerKnowsBoth, ← writtenAt_markedCopy, ← writtenAt_markedCopy, latest]
  split
  · rw [← listsBoth_markedCopy hne.symm secondStamp]
    simp only [and_comm]
  · exact listsBoth_markedCopy hne firstStamp _

namespace ReadAtOnce

def message (readBy : List String) : Out :=
  .any (.map [("authorId", .string "W"), ("authorName", .string "Walt"),
    ("content", .string "hello"), ("timestamp", .bigInt 1),
    ("readBy", .array (readBy.map .string))])

def chat (stamp : Nat) (readBy : List String) : ChatMessages Nat :=
  LastWriterMap.empty.insert "m" stamp (message readBy)

end ReadAtOnce

open ReadAtOnce in
/-- `V` marks the message where the mark of `U` has come in. -/
theorem receipts_merge_iff_inTurn :
    ReceiptsMerge (.plain Nat) "m" "U" "V" 3 4 (chat 1 []) (chat 2 ["U"]) ↔
      WinnerKnowsBoth "m" "U" "V" 3 4 (chat 1 []) (chat 2 ["U"]) :=
  receipts_merge_iff (ChatYrs.lawful_plain Nat) (by decide)
    ⟨by decide, by decide, by decide, by decide, by decide, fun hsame => absurd hsame (by decide)⟩

open ReadAtOnce in
/-- The later of the two marks takes the other's place. -/
theorem receipts_lost :
    ¬ ReceiptsMerge (.plain Nat) "m" "U" "V" 2 3 (chat 1 []) (chat 1 []) := by
  rintro ⟨_, _, _, _, hours, htheirs, hourSide, -, hboth, -⟩
  cases hours
  cases htheirs
  cases hourSide
  obtain ⟨value, hvalue, hfirst, -⟩ := hboth.readBy
  cases hvalue
  revert hfirst
  decide

end ChatPreviewGenerator

end Osvauld.Libremot
