import Osvauld.Data.LastWriter
import Osvauld.Data.Run
import Osvauld.Libremot.ChatCoordinator

namespace Osvauld.Libremot

open Data

/-! Messages that are deleted on one replica of a chat while another one marks them as
read. -/

abbrev ReplicaMessages := ReplicatedMap String ChatMessage

structure MessageDraws where
  item : Nat
  messageId : String
  now : Int

namespace ReplicaMessages

def addMessage (user : UserInfo) (draws : MessageDraws) (content : String)
    (messageType : MessageType) (imageId : Option String) (messages : ReplicaMessages) :
    ReplicaMessages :=
  messages.set draws.item draws.messageId
    { id := draws.messageId, authorId := user.userId, authorName := user.name, content
      timestamp := draws.now, messageType, imageId, readBy := some [user.userId] }

def getMessages (messages : ReplicaMessages) : List ChatMessage :=
  messages.values.insertionSort fun first second => first.timestamp ≤ second.timestamp

def deleteMessage (messageId : String) (messages : ReplicaMessages) : ReplicaMessages :=
  messages.delete messageId

def markRead (userId : String) (item : Nat) (messageId : String)
    (messages : ReplicaMessages) : ReplicaMessages :=
  match messages.get messageId with
  | none => messages
  | some message =>
      let readBy := message.readBy.getD []
      if userId ∈ readBy then messages
      else messages.set item messageId { message with readBy := some (readBy ++ [userId]) }

def markMessageAsRead (user : UserInfo) (item : Nat) (messageId : String)
    (messages : ReplicaMessages) : ReplicaMessages :=
  markRead user.userId item messageId messages

def markEach (user : UserInfo) (item : Nat) (listed : List ChatMessage)
    (messages : ReplicaMessages) : ReplicaMessages :=
  listed.foldl
    (fun marked message =>
      if message.authorId = user.userId then marked
      else markMessageAsRead user item message.id marked)
    messages

def markAllMessagesAsRead (user : UserInfo) (item : Nat) (messages : ReplicaMessages) :
    ReplicaMessages :=
  markEach user item messages.getMessages messages

def markMessageRead (messageId userId : String) (item : Nat)
    (messages : ReplicaMessages) : ReplicaMessages :=
  markRead userId item messageId messages

end ReplicaMessages

inductive MessageEvent (ι : Type) where
  | addMessage (side : ι) (draws : MessageDraws) (content : String)
      (messageType : MessageType) (imageId : Option String)
  | deleteMessage (side : ι) (messageId : String)
  | markMessageAsRead (side : ι) (item : Nat) (messageId : String)
  | markAllMessagesAsRead (side : ι) (item : Nat)
  | markMessageRead (side : ι) (item : Nat) (messageId userId : String)
  | exchange (sender receiver : ι)

abbrev MessageReplicas (ι : Type) := ι → ReplicaMessages

namespace MessageReplicas

open ReplicaMessages

variable {ι : Type}

def step [DecidableEq ι] (users : ι → UserInfo) (event : MessageEvent ι)
    (replicas : MessageReplicas ι) : MessageReplicas ι :=
  match event with
  | .addMessage side draws content messageType imageId =>
      Function.update replicas side
        (addMessage (users side) draws content messageType imageId (replicas side))
  | .deleteMessage side messageId =>
      Function.update replicas side (deleteMessage messageId (replicas side))
  | .markMessageAsRead side item messageId =>
      Function.update replicas side
        (markMessageAsRead (users side) item messageId (replicas side))
  | .markAllMessagesAsRead side item =>
      Function.update replicas side (markAllMessagesAsRead (users side) item (replicas side))
  | .markMessageRead side item messageId userId =>
      Function.update replicas side (markMessageRead messageId userId item (replicas side))
  | .exchange sender receiver =>
      Function.update replicas receiver ((replicas receiver).merge (replicas sender))

def NewItem (replicas : MessageReplicas ι) (side : ι) (item : Nat) : Prop :=
  (∀ other, ∀ write ∈ (replicas other).sets, write.item ≠ item) ∧
    ∀ write ∈ (replicas side).sets, write.item < item

def Fresh (event : MessageEvent ι) (replicas : MessageReplicas ι) : Prop :=
  match event with
  | .addMessage side draws _ _ _ =>
      replicas.NewItem side draws.item ∧
        ∀ other, ∀ write ∈ (replicas other).sets, write.key ≠ draws.messageId
  | .markMessageAsRead side item _ => replicas.NewItem side item
  | .markAllMessagesAsRead side item => replicas.NewItem side item
  | .markMessageRead side item _ _ => replicas.NewItem side item
  | .deleteMessage _ _ => True
  | .exchange _ _ => True

/-! The condition: no message is marked that is deleted elsewhere, and none is deleted
that has been set elsewhere in the meantime. -/

def DeletedNowhere (replicas : MessageReplicas ι) (messageId : String) : Prop :=
  ∀ other, ¬ (replicas other).WasDeleted messageId

end MessageReplicas

def ReplicaMessages.Unread (userId messageId : String) (messages : ReplicaMessages) : Prop :=
  ∃ message, messages.get messageId = some message ∧ userId ∉ message.readBy.getD []

namespace MessageReplicas

open ReplicaMessages

variable {ι : Type}

def Timely (users : ι → UserInfo) (event : MessageEvent ι) (replicas : MessageReplicas ι) :
    Prop :=
  match event with
  | .addMessage _ _ _ _ _ => True
  | .deleteMessage side messageId =>
      (replicas side).get messageId ≠ none →
        ∀ other, ∀ write ∈ (replicas other).left messageId, write ∈ (replicas side).sets
  | .markMessageAsRead side _ messageId =>
      Unread (users side).userId messageId (replicas side) → replicas.DeletedNowhere messageId
  | .markAllMessagesAsRead side _ =>
      ∀ message ∈ (replicas side).getMessages, message.authorId ≠ (users side).userId →
        Unread (users side).userId message.id (replicas side) →
          replicas.DeletedNowhere message.id
  | .markMessageRead side _ messageId userId =>
      Unread userId messageId (replicas side) → replicas.DeletedNowhere messageId
  | .exchange _ _ => True

end MessageReplicas

namespace ReplicaMessages

variable {messages : ReplicaMessages} {user : UserInfo} {item : Nat}

theorem adds_markRead (userId messageId : String) :
    ReplicatedMap.Adds item (fun key => key = messageId ∧ Unread userId messageId messages)
      messages (markRead userId item messageId messages) := by
  unfold markRead
  cases hget : messages.get messageId with
  | none =>
      apply (ReplicatedMap.adds_refl messages).congr
      simp [Unread, hget]
  | some message =>
      dsimp only
      by_cases hread : userId ∈ message.readBy.getD []
      · rw [if_pos hread]
        apply (ReplicatedMap.adds_refl messages).congr
        simp [Unread, hget, hread]
      · rw [if_neg hread]
        apply (ReplicatedMap.adds_set item messageId _ messages).congr
        simp [Unread, hget, hread]

def Marks (user : UserInfo) (listed : List ChatMessage) (messages : ReplicaMessages)
    (key : String) : Prop :=
  ∃ message ∈ listed, message.authorId ≠ user.userId ∧ message.id = key ∧
    Unread user.userId key messages

theorem marks_concat {earlier : List ChatMessage} {message : ChatMessage} {key : String} :
    Marks user (earlier ++ [message]) messages key ↔ Marks user earlier messages key ∨
      message.authorId ≠ user.userId ∧ key = message.id ∧
        Unread user.userId message.id messages := by
  simp only [Marks, List.mem_append, List.mem_singleton, or_and_right, exists_or,
    exists_eq_left]
  apply or_congr_right
  apply and_congr_right
  rintro -
  constructor
  · rintro ⟨rfl, hunread⟩
    exact ⟨rfl, hunread⟩
  · rintro ⟨rfl, hunread⟩
    exact ⟨rfl, hunread⟩

theorem adds_markEach (listed : List ChatMessage) :
    ReplicatedMap.Adds item (Marks user listed messages) messages
      (markEach user item listed messages) := by
  induction listed using List.reverseRecOn with
  | nil =>
      apply (ReplicatedMap.adds_refl messages).congr
      simp [Marks]
  | append_singleton earlier message ih =>
      rw [markEach, List.foldl_append, List.foldl_cons, List.foldl_nil, ← markEach]
      by_cases hauthor : message.authorId = user.userId
      · rw [if_pos hauthor]
        apply ih.congr
        intro key
        rw [marks_concat]
        simp [hauthor]
      · rw [if_neg hauthor, markMessageAsRead]
        apply (ih.trans (adds_markRead user.userId message.id)).congr
        intro key
        rw [marks_concat]
        by_cases hmarked : Marks user earlier messages key
        · simp [hmarked]
        · -- the message is as it was before
          simp only [hmarked, false_or, hauthor, ne_eq, not_false_eq_true, true_and]
          apply and_congr_right
          rintro rfl
          rw [Unread, Unread, ih.get_of_not hmarked]

end ReplicaMessages

namespace MessageReplicas

open ReplicaMessages

variable {ι : Type} [DecidableEq ι] {replicas : MessageReplicas ι} {side : ι} {item : Nat}

/-- No message is there again that a replica has deleted, when any two have exchanged
their updates. -/
def DeletionIsFinal (replicas : MessageReplicas ι) : Prop :=
  ReplicatedMap.DeletionsFinal replicas

theorem sound_markRead (hsound : ReplicatedMap.Sound replicas) {userId messageId : String}
    (htimely : Unread userId messageId (replicas side) → replicas.DeletedNowhere messageId) :
    ReplicatedMap.Sound
      (Function.update replicas side (markRead userId item messageId (replicas side))) := by
  apply hsound.adds (adds_markRead userId messageId)
  rintro _ ⟨rfl, hunread⟩
  exact htimely hunread

theorem timely_of_markRead (hsound : ReplicatedMap.Sound replicas)
    (hnew : replicas.NewItem side item) {userId messageId : String}
    (hfinal : DeletionIsFinal
      (Function.update replicas side (markRead userId item messageId (replicas side)))) :
    Unread userId messageId (replicas side) → replicas.DeletedNowhere messageId := by
  intro hunread
  exact ReplicatedMap.timely_of_adds hsound (adds_markRead userId messageId) hnew.1 hfinal
    ⟨rfl, hunread⟩

variable {users : ι → UserInfo} {event : MessageEvent ι}

theorem sound_step (hsound : ReplicatedMap.Sound replicas) (hfresh : Fresh event replicas)
    (htimely : Timely users event replicas) :
    ReplicatedMap.Sound (step users event replicas) := by
  cases event with
  | addMessage side draws content messageType imageId =>
      apply hsound.adds (ReplicatedMap.adds_set draws.item draws.messageId _ _)
      rintro _ rfl other ⟨write, hwrite, hkey⟩
      exact hfresh.2 other write (hsound.known other write hwrite) hkey
  | deleteMessage side messageId => exact hsound.delete htimely
  | markMessageAsRead side item messageId => exact sound_markRead hsound htimely
  | markAllMessagesAsRead side item =>
      apply hsound.adds (adds_markEach _)
      rintro key ⟨message, hmessage, hauthor, rfl, hunread⟩
      exact htimely message hmessage hauthor hunread
  | markMessageRead side item messageId userId => exact sound_markRead hsound htimely
  | exchange sender receiver => exact hsound.merge sender receiver

theorem timely_of_final (hsound : ReplicatedMap.Sound replicas) (hfresh : Fresh event replicas)
    (hfinal : DeletionIsFinal (step users event replicas)) : Timely users event replicas := by
  cases event with
  | addMessage side draws content messageType imageId => exact trivial
  | deleteMessage side messageId => exact ReplicatedMap.timely_of_delete hsound hfinal
  | markMessageAsRead side item messageId => exact timely_of_markRead hsound hfresh hfinal
  | markAllMessagesAsRead side item =>
      intro message hmessage hauthor hunread
      apply ReplicatedMap.timely_of_adds hsound (adds_markEach _) hfresh.1 hfinal
      exact ⟨message, hmessage, hauthor, rfl, hunread⟩
  | markMessageRead side item messageId userId => exact timely_of_markRead hsound hfresh hfinal
  | exchange sender receiver => exact trivial

omit [DecidableEq ι] in
theorem sound_empty :
    ReplicatedMap.Sound (fun _ : ι => (ReplicatedMap.empty : ReplicaMessages)) where
  known _ _ hwrite := absurd hwrite List.not_mem_nil
  settled _ _ _ hwrite := absurd hwrite List.not_mem_nil

/-- Deletions are final, whatever the replicas do, exactly when no message is marked that
another replica has deleted, and none is deleted that another one has written. -/
theorem deletionIsFinal_iff_timely (users : ι → UserInfo) (events : List (MessageEvent ι))
    (hfresh : ∀ earlier event, earlier ++ [event] <+: events →
      Fresh event (run (step users) (fun _ => .empty) earlier)) :
    (∀ earlier, earlier <+: events →
      DeletionIsFinal (run (step users) (fun _ => .empty) earlier)) ↔
    ∀ earlier event, earlier ++ [event] <+: events →
      Timely users event (run (step users) (fun _ => .empty) earlier) := by
  apply run_holds_iff sound_empty
  · exact fun _ hsound => ReplicatedMap.deletionsFinal_iff.mpr hsound.settled
  · exact fun _ _ hsound hnew htimely => sound_step hsound hnew htimely
  · exact fun _ _ hsound hnew hfinal => timely_of_final hsound hnew hfinal
  · exact hfresh

def chatter (side : Bool) : UserInfo :=
  if side then ⟨2, "ben", "Ben"⟩ else ⟨1, "ann", "Ann"⟩

def written : List (MessageEvent Bool) :=
  [.addMessage false ⟨1, "m", 10⟩ "hello" .text none, .exchange false true]

def readFirst : List (MessageEvent Bool) :=
  written ++ [.markMessageAsRead true 2 "m", .exchange true false, .deleteMessage false "m"]

theorem deletionIsFinal_iff_timely_readFirst :
    DeletionIsFinal (run (step chatter) (fun _ => .empty) readFirst) := by
  let replicas := run (step chatter) (fun _ => .empty)
  have hfresh : EachEvent (fun earlier event => Fresh event (replicas earlier)) []
      readFirst := by
    refine ⟨⟨⟨?_, ?_⟩, ?_⟩, trivial, ⟨?_, ?_⟩, trivial, trivial, trivial⟩
    all_goals decide
  have htimely : EachEvent (fun earlier event => Timely chatter event (replicas earlier)) []
      readFirst := by
    refine ⟨trivial, trivial, fun _ => ?_, trivial, fun _ => ?_, trivial⟩
    · unfold DeletedNowhere
      decide
    · decide
  have hfinal := (deletionIsFinal_iff_timely chatter readFirst fun _ _ hpre =>
    hfresh.of_prefix hpre).mpr fun _ _ hpre => htimely.of_prefix hpre
  exact hfinal readFirst (List.prefix_refl _)

/-- Ben marks the message as read while Ann deletes it, and it is there again. -/
theorem deleted_message_returns :
    ¬ DeletionIsFinal (run (step chatter) (fun _ => .empty)
      (written ++ [.deleteMessage false "m", .markMessageAsRead true 2 "m"])) := by
  intro hfinal
  have hgone := hfinal false true "m" (.inl (by decide))
  revert hgone
  decide

end MessageReplicas

end Osvauld.Libremot
