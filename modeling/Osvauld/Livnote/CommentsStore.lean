import Mathlib.Data.Finset.Image
import Mathlib.Data.Finset.Card
import Mathlib.Data.Multiset.MapFold
import Osvauld.Data.Run

namespace Osvauld.Livnote

open Data

/-! The comments of a note: threads, their replies, and the contents of the replies in a
map of their own. A document knows what has been set, pushed and deleted in it; what two
documents know is put together. -/

structure UserInfo where
  userId : String
  name : String
deriving DecidableEq

structure ThreadInfo where
  position : Int × Int
  createdAt : Int
  resolved : Bool
deriving DecidableEq

structure ReplyInfo where
  id : String
  author : String
  authorName : String
  createdAt : Int
deriving DecidableEq

structure ReadMark where
  item : Nat
  replyId : String
  userId : String
deriving DecidableEq

structure CommentDoc where
  threads : Finset (String × ThreadInfo)
  deletedThreads : Finset String
  replies : Finset String
  deletedReplies : Finset String
  pushed : Finset (String × ReplyInfo)
  readBy : Finset ReadMark
  replyContents : Finset (String × String)
  deletedContents : Finset String
deriving DecidableEq

namespace CommentDoc

def empty : CommentDoc := ⟨∅, ∅, ∅, ∅, ∅, ∅, ∅, ∅⟩

def merge (own received : CommentDoc) : CommentDoc where
  threads := own.threads ∪ received.threads
  deletedThreads := own.deletedThreads ∪ received.deletedThreads
  replies := own.replies ∪ received.replies
  deletedReplies := own.deletedReplies ∪ received.deletedReplies
  pushed := own.pushed ∪ received.pushed
  readBy := own.readBy ∪ received.readBy
  replyContents := own.replyContents ∪ received.replyContents
  deletedContents := own.deletedContents ∪ received.deletedContents

variable (doc : CommentDoc)

def hasThread (threadId : String) : Prop :=
  threadId ∈ doc.threads.image Prod.fst ∧ threadId ∉ doc.deletedThreads

instance (threadId : String) : Decidable (doc.hasThread threadId) :=
  inferInstanceAs (Decidable (_ ∧ _))

def repliesArray (threadId : String) : Option (Finset ReplyInfo) :=
  if threadId ∈ doc.replies ∧ threadId ∉ doc.deletedReplies then
    some ((doc.pushed.filter fun entry => entry.1 = threadId).image Prod.snd)
  else none

def readers (replyId : String) : Multiset String :=
  (doc.readBy.filter fun mark => mark.replyId = replyId).val.map ReadMark.userId

def contentIds : Finset String :=
  doc.replyContents.image Prod.fst \ doc.deletedContents

def replyIds : Finset String :=
  (doc.pushed.filter fun entry => doc.hasThread entry.1 ∧
    (doc.repliesArray entry.1).isSome).image fun entry => entry.2.id

end CommentDoc

structure CommentDraws where
  threadId : String
  replyId : String
  item : Nat
  now : Int

namespace CommentsStore

variable (currentUser : UserInfo)

def newReply (draws : CommentDraws) : ReplyInfo :=
  { id := draws.replyId, author := currentUser.userId, authorName := currentUser.name
    createdAt := draws.now }

def withReply (draws : CommentDraws) (threadId content : String) (doc : CommentDoc) :
    CommentDoc :=
  { doc with
    pushed := insert (threadId, newReply currentUser draws) doc.pushed
    readBy := insert ⟨draws.item, draws.replyId, currentUser.userId⟩ doc.readBy
    replyContents := insert (draws.replyId, content) doc.replyContents }

def createThread (draws : CommentDraws) (position : Int × Int) (initialContent : String)
    (doc : CommentDoc) : CommentDoc :=
  withReply currentUser draws draws.threadId initialContent
    { doc with
      threads := insert (draws.threadId,
        { position, createdAt := draws.now, resolved := false }) doc.threads
      replies := insert draws.threadId doc.replies }

def addReply (draws : CommentDraws) (threadId content : String) (doc : CommentDoc) :
    Except String CommentDoc :=
  if doc.hasThread threadId ∧ (doc.repliesArray threadId).isSome then
    .ok (withReply currentUser draws threadId content doc)
  else .error ("Thread " ++ threadId ++ " not found")

def unread (replies : Finset ReplyInfo) (doc : CommentDoc) : Finset ReplyInfo :=
  replies.filter fun reply => currentUser.userId ∉ doc.readers reply.id

def markReplies (item : Nat) (replies : Finset ReplyInfo) (doc : CommentDoc) : CommentDoc :=
  { doc with
    readBy := doc.readBy ∪ (unread currentUser replies doc).image fun reply =>
      ⟨item, reply.id, currentUser.userId⟩ }

def markThreadAsRead (item : Nat) (threadId : String) (doc : CommentDoc) :
    Except String CommentDoc :=
  match doc.repliesArray threadId with
  | some replies => .ok (markReplies currentUser item replies doc)
  | none => .error ("Thread " ++ threadId ++ " not found")

def markReplyAsRead (item : Nat) (threadId replyId : String) (doc : CommentDoc) :
    Except String CommentDoc :=
  match doc.repliesArray threadId with
  | some replies =>
      let found := replies.filter fun reply => reply.id = replyId
      if found = ∅ then .error ("Reply " ++ replyId ++ " not found in thread " ++ threadId)
      else .ok (markReplies currentUser item found doc)
  | none => .error ("Thread " ++ threadId ++ " not found")

def deleteThread (threadId : String) (doc : CommentDoc) : CommentDoc :=
  let replies := (doc.repliesArray threadId).getD ∅
  { doc with
    deletedContents := doc.deletedContents ∪
      (replies.image ReplyInfo.id).filter fun replyId => replyId ∈ doc.contentIds
    deletedThreads :=
      if doc.hasThread threadId then insert threadId doc.deletedThreads
      else doc.deletedThreads
    deletedReplies :=
      if (doc.repliesArray threadId).isSome then insert threadId doc.deletedReplies
      else doc.deletedReplies }

end CommentsStore

inductive CommentEvent (ι : Type) where
  | createThread (side : ι) (draws : CommentDraws) (position : Int × Int) (content : String)
  | addReply (side : ι) (draws : CommentDraws) (threadId content : String)
  | markThreadAsRead (side : ι) (item : Nat) (threadId : String)
  | markReplyAsRead (side : ι) (item : Nat) (threadId replyId : String)
  | deleteThread (side : ι) (threadId : String)
  | exchange (sender receiver : ι)

abbrev CommentDocs (ι : Type) := ι → CommentDoc

namespace CommentDocs

variable {ι : Type} [DecidableEq ι]

def attempt (side : ι) (call : CommentDoc → Except String CommentDoc)
    (docs : CommentDocs ι) : CommentDocs ι :=
  match call (docs side) with
  | .ok doc => Function.update docs side doc
  | .error _ => docs

def step (users : ι → UserInfo) (event : CommentEvent ι) (docs : CommentDocs ι) :
    CommentDocs ι :=
  match event with
  | .createThread side draws position content =>
      Function.update docs side
        (CommentsStore.createThread (users side) draws position content (docs side))
  | .addReply side draws threadId content =>
      docs.attempt side (CommentsStore.addReply (users side) draws threadId content)
  | .markThreadAsRead side item threadId =>
      docs.attempt side (CommentsStore.markThreadAsRead (users side) item threadId)
  | .markReplyAsRead side item threadId replyId =>
      docs.attempt side (CommentsStore.markReplyAsRead (users side) item threadId replyId)
  | .deleteThread side threadId =>
      Function.update docs side (CommentsStore.deleteThread threadId (docs side))
  | .exchange sender receiver =>
      Function.update docs receiver ((docs receiver).merge (docs sender))

end CommentDocs

structure CommentDoc.Consistent (doc : CommentDoc) : Prop where
  contents : doc.contentIds = doc.replyIds
  readOnce : ∀ replyId ∈ doc.replyIds, (doc.readers replyId).Nodup

namespace CommentDoc

def threadIds (doc : CommentDoc) : Finset String := doc.threads.image Prod.fst

def setContents (doc : CommentDoc) : Finset String := doc.replyContents.image Prod.fst

structure Own (doc : CommentDoc) : Prop where
  replies : doc.replies = doc.threadIds
  deletedReplies : doc.deletedReplies = doc.deletedThreads
  deletedKnown : doc.deletedThreads ⊆ doc.threadIds
  pushedInto : ∀ threadId reply, (threadId, reply) ∈ doc.pushed →
    threadId ∈ doc.threadIds ∧ reply.id ∈ doc.setContents
  contentOf : ∀ replyId ∈ doc.setContents,
    ∃ threadId reply, (threadId, reply) ∈ doc.pushed ∧ reply.id = replyId
  deletedWith : ∀ replyId ∈ doc.deletedContents, ∃ threadId reply,
    (threadId, reply) ∈ doc.pushed ∧ reply.id = replyId ∧ threadId ∈ doc.deletedThreads
  marked : ∀ mark ∈ doc.readBy, ∃ threadId reply,
    (threadId, reply) ∈ doc.pushed ∧ reply.id = mark.replyId

structure Compatible (first second : CommentDoc) : Prop where
  oneThread : ∀ entry ∈ first.pushed, ∀ other ∈ second.pushed,
    entry.2.id = other.2.id → entry = other
  emptied : ∀ threadId ∈ first.deletedThreads, ∀ reply, (threadId, reply) ∈ second.pushed →
    reply.id ∈ first.deletedContents ∨ reply.id ∈ second.deletedContents
  readOnce : ∀ mark ∈ first.readBy, ∀ other ∈ second.readBy,
    mark.replyId = other.replyId → mark.userId = other.userId →
      mark = other ∨ ∃ threadId reply,
        ((threadId, reply) ∈ first.pushed ∨ (threadId, reply) ∈ second.pushed) ∧
        reply.id = mark.replyId ∧
        (threadId ∈ first.deletedThreads ∨ threadId ∈ second.deletedThreads)

section Merge

variable {own received third : CommentDoc}

theorem Own.merge (hown : own.Own) (hreceived : received.Own) : (own.merge received).Own where
  replies := by
    simp only [CommentDoc.merge, threadIds, Finset.image_union]
    rw [hown.replies, hreceived.replies]
    rfl
  deletedReplies := by
    simp only [CommentDoc.merge]
    rw [hown.deletedReplies, hreceived.deletedReplies]
  deletedKnown := by
    simp only [CommentDoc.merge, threadIds, Finset.image_union]
    exact Finset.union_subset_union hown.deletedKnown hreceived.deletedKnown
  pushedInto threadId reply hpushed := by
    simp only [CommentDoc.merge, threadIds, setContents, Finset.image_union,
      Finset.mem_union] at hpushed ⊢
    rcases hpushed with hpushed | hpushed
    · obtain ⟨hthread, hcontent⟩ := hown.pushedInto threadId reply hpushed
      exact ⟨.inl hthread, .inl hcontent⟩
    · obtain ⟨hthread, hcontent⟩ := hreceived.pushedInto threadId reply hpushed
      exact ⟨.inr hthread, .inr hcontent⟩
  contentOf replyId hcontent := by
    simp only [CommentDoc.merge, setContents, Finset.image_union, Finset.mem_union]
      at hcontent ⊢
    rcases hcontent with hcontent | hcontent
    · obtain ⟨threadId, reply, hpushed, hid⟩ := hown.contentOf replyId hcontent
      exact ⟨threadId, reply, .inl hpushed, hid⟩
    · obtain ⟨threadId, reply, hpushed, hid⟩ := hreceived.contentOf replyId hcontent
      exact ⟨threadId, reply, .inr hpushed, hid⟩
  deletedWith replyId hdeleted := by
    simp only [CommentDoc.merge, Finset.mem_union] at hdeleted ⊢
    rcases hdeleted with hdeleted | hdeleted
    · obtain ⟨threadId, reply, hpushed, hid, hthread⟩ := hown.deletedWith replyId hdeleted
      exact ⟨threadId, reply, .inl hpushed, hid, .inl hthread⟩
    · obtain ⟨threadId, reply, hpushed, hid, hthread⟩ :=
        hreceived.deletedWith replyId hdeleted
      exact ⟨threadId, reply, .inr hpushed, hid, .inr hthread⟩
  marked mark hmark := by
    simp only [CommentDoc.merge, Finset.mem_union] at hmark ⊢
    rcases hmark with hmark | hmark
    · obtain ⟨threadId, reply, hpushed, hid⟩ := hown.marked mark hmark
      exact ⟨threadId, reply, .inl hpushed, hid⟩
    · obtain ⟨threadId, reply, hpushed, hid⟩ := hreceived.marked mark hmark
      exact ⟨threadId, reply, .inr hpushed, hid⟩

theorem Compatible.merge_left (hown : own.Compatible third)
    (hreceived : received.Compatible third) : (own.merge received).Compatible third where
  oneThread entry hentry other hother hid := by
    simp only [merge, Finset.mem_union] at hentry
    rcases hentry with hentry | hentry
    · exact hown.oneThread entry hentry other hother hid
    · exact hreceived.oneThread entry hentry other hother hid
  emptied threadId hthread reply hpushed := by
    simp only [merge, Finset.mem_union] at hthread ⊢
    rcases hthread with hthread | hthread
    · rcases hown.emptied threadId hthread reply hpushed with hdeleted | hdeleted
      · exact .inl (.inl hdeleted)
      · exact .inr hdeleted
    · rcases hreceived.emptied threadId hthread reply hpushed with hdeleted | hdeleted
      · exact .inl (.inr hdeleted)
      · exact .inr hdeleted
  readOnce mark hmark other hother hreply huser := by
    simp only [merge, Finset.mem_union] at hmark ⊢
    rcases hmark with hmark | hmark
    · refine (hown.readOnce mark hmark other hother hreply huser).imp_right ?_
      rintro ⟨threadId, reply, hpushed, hid, hdeleted⟩
      exact ⟨threadId, reply, hpushed.imp_left .inl, hid, hdeleted.imp_left .inl⟩
    · refine (hreceived.readOnce mark hmark other hother hreply huser).imp_right ?_
      rintro ⟨threadId, reply, hpushed, hid, hdeleted⟩
      exact ⟨threadId, reply, hpushed.imp_left .inr, hid, hdeleted.imp_left .inr⟩

theorem Compatible.merge_right (hown : third.Compatible own)
    (hreceived : third.Compatible received) : third.Compatible (own.merge received) where
  oneThread entry hentry other hother hid := by
    simp only [merge, Finset.mem_union] at hother
    rcases hother with hother | hother
    · exact hown.oneThread entry hentry other hother hid
    · exact hreceived.oneThread entry hentry other hother hid
  emptied threadId hthread reply hpushed := by
    simp only [merge, Finset.mem_union] at hpushed ⊢
    rcases hpushed with hpushed | hpushed
    · exact (hown.emptied threadId hthread reply hpushed).imp_right .inl
    · exact (hreceived.emptied threadId hthread reply hpushed).imp_right .inr
  readOnce mark hmark other hother hreply huser := by
    simp only [merge, Finset.mem_union] at hother ⊢
    rcases hother with hother | hother
    · refine (hown.readOnce mark hmark other hother hreply huser).imp_right ?_
      rintro ⟨threadId, reply, hpushed, hid, hdeleted⟩
      exact ⟨threadId, reply, hpushed.imp_right .inl, hid, hdeleted.imp_right .inl⟩
    · refine (hreceived.readOnce mark hmark other hother hreply huser).imp_right ?_
      rintro ⟨threadId, reply, hpushed, hid, hdeleted⟩
      exact ⟨threadId, reply, hpushed.imp_right .inr, hid, hdeleted.imp_right .inr⟩

end Merge

section Consistent

variable {doc : CommentDoc}

variable {replyId threadId : String}

theorem mem_readers {userId : String} :
    userId ∈ doc.readers replyId ↔
      ∃ mark ∈ doc.readBy, mark.replyId = replyId ∧ mark.userId = userId := by
  simp [readers, Multiset.mem_map, and_assoc]

theorem nodup_readers_iff :
    (doc.readers replyId).Nodup ↔ ∀ mark ∈ doc.readBy, ∀ other ∈ doc.readBy,
      mark.replyId = replyId → other.replyId = replyId → mark.userId = other.userId →
        mark = other := by
  rw [readers, Multiset.nodup_map_iff_inj_on (Finset.nodup _)]
  simp only [Finset.mem_val, Finset.mem_filter, and_imp]
  constructor
  · exact fun hinj mark hmark other hother hreply hsame => hinj mark hmark hreply other hother hsame
  · exact fun hinj mark hmark hreply other hother hsame => hinj mark hmark other hother hreply hsame

theorem isSome_repliesArray (hown : doc.Own) (threadId : String) :
    (doc.repliesArray threadId).isSome ↔ doc.hasThread threadId := by
  rw [repliesArray, hown.replies, hown.deletedReplies, hasThread, threadIds]
  split
  · next hthere => simpa using hthere
  · next hthere => simpa using hthere

theorem repliesArray_of_hasThread (hown : doc.Own) (hthread : doc.hasThread threadId) :
    doc.repliesArray threadId =
      some ((doc.pushed.filter fun entry => entry.1 = threadId).image Prod.snd) := by
  have hreplies := (isSome_repliesArray hown threadId).mpr hthread
  unfold repliesArray at hreplies ⊢
  split at hreplies
  · next hthere => rw [if_pos hthere]
  · cases hreplies

theorem repliesArray_of_not (hown : doc.Own) (hthread : ¬ doc.hasThread threadId) :
    doc.repliesArray threadId = none := by
  rw [← Option.not_isSome_iff_eq_none, isSome_repliesArray hown]
  exact hthread

theorem mem_repliesOf {reply : ReplyInfo} :
    reply ∈ (doc.pushed.filter fun entry => entry.1 = threadId).image Prod.snd ↔
      (threadId, reply) ∈ doc.pushed := by
  simp only [Finset.mem_image, Finset.mem_filter, Prod.exists]
  constructor
  · rintro ⟨_, _, ⟨hpushed, rfl⟩, rfl⟩
    exact hpushed
  · exact fun hpushed => ⟨threadId, reply, ⟨hpushed, rfl⟩, rfl⟩

theorem mem_replyIds (hown : doc.Own) :
    replyId ∈ doc.replyIds ↔ ∃ threadId reply, (threadId, reply) ∈ doc.pushed ∧
      reply.id = replyId ∧ threadId ∉ doc.deletedThreads := by
  simp only [replyIds, Finset.mem_image, Finset.mem_filter, isSome_repliesArray hown, and_self,
    Prod.exists]
  constructor
  · rintro ⟨threadId, reply, ⟨hpushed, hthread⟩, hid⟩
    exact ⟨threadId, reply, hpushed, hid, hthread.2⟩
  · rintro ⟨threadId, reply, hpushed, hid, hthread⟩
    exact ⟨threadId, reply, ⟨hpushed, (hown.pushedInto _ _ hpushed).1, hthread⟩, hid⟩

theorem mem_contentIds :
    replyId ∈ doc.contentIds ↔ replyId ∈ doc.setContents ∧ replyId ∉ doc.deletedContents := by
  rw [contentIds, Finset.mem_sdiff, setContents]

theorem deletedContents_iff (hown : doc.Own) (hself : doc.Compatible doc) {reply : ReplyInfo}
    (hpushed : (threadId, reply) ∈ doc.pushed) :
    reply.id ∈ doc.deletedContents ↔ threadId ∈ doc.deletedThreads := by
  constructor
  · intro hdeleted
    obtain ⟨other, another, hother, hid, hthread⟩ := hown.deletedWith _ hdeleted
    cases hself.oneThread _ hother _ hpushed hid
    exact hthread
  · intro hthread
    exact (hself.emptied threadId hthread reply hpushed).elim id id

theorem consistent (hown : doc.Own) (hself : doc.Compatible doc) : doc.Consistent where
  contents := by
    ext replyId
    rw [mem_contentIds, mem_replyIds hown]
    constructor
    · rintro ⟨hcontent, hpresent⟩
      obtain ⟨threadId, reply, hpushed, rfl⟩ := hown.contentOf replyId hcontent
      exact ⟨threadId, reply, hpushed, rfl,
        fun hthread => hpresent ((deletedContents_iff hown hself hpushed).mpr hthread)⟩
    · rintro ⟨threadId, reply, hpushed, rfl, hthread⟩
      exact ⟨(hown.pushedInto _ _ hpushed).2,
        fun hdeleted => hthread ((deletedContents_iff hown hself hpushed).mp hdeleted)⟩
  readOnce replyId hreply := by
    obtain ⟨threadId, reply, hpushed, rfl, hthread⟩ := (mem_replyIds hown).mp hreply
    apply nodup_readers_iff.mpr
    intro mark hmark other hother hmarked hlisted huser
    rcases hself.readOnce mark hmark other hother (hmarked.trans hlisted.symm) huser with
      hsame | ⟨otherThread, otherReply, hfound, hid, hdeleted⟩
    · exact hsame
    · cases hself.oneThread _ (hfound.elim id id) _ hpushed (hid.trans hmarked)
      exact absurd (hdeleted.elim id id) hthread

end Consistent

def threadDelta (threadId : String) (info : ThreadInfo) : CommentDoc :=
  { empty with threads := {(threadId, info)}, replies := {threadId} }

def replyDelta (currentUser : UserInfo) (draws : CommentDraws) (threadId content : String) :
    CommentDoc :=
  { empty with
    pushed := {(threadId, CommentsStore.newReply currentUser draws)}
    readBy := {⟨draws.item, draws.replyId, currentUser.userId⟩}
    replyContents := {(draws.replyId, content)} }

def markDelta (marks : Finset ReadMark) : CommentDoc := { empty with readBy := marks }

def deletionDelta (threadId : String) (replyIds : Finset String) : CommentDoc :=
  { empty with
    deletedThreads := {threadId}, deletedReplies := {threadId}, deletedContents := replyIds }

section Deltas

variable {doc other : CommentDoc} {currentUser : UserInfo} {draws : CommentDraws}
  {threadId content : String}

theorem withReply_eq : CommentsStore.withReply currentUser draws threadId content doc =
    doc.merge (replyDelta currentUser draws threadId content) := by
  simp [CommentsStore.withReply, merge, replyDelta, empty]

theorem createThread_eq {position : Int × Int} :
    CommentsStore.createThread currentUser draws position content doc =
      (doc.merge (threadDelta draws.threadId
        { position, createdAt := draws.now, resolved := false })).merge
          (replyDelta currentUser draws draws.threadId content) := by
  rw [CommentsStore.createThread, withReply_eq]
  simp [merge, threadDelta, empty]

theorem own_threadDelta (info : ThreadInfo) : (threadDelta threadId info).Own where
  replies := by simp [threadDelta, threadIds]
  deletedReplies := rfl
  deletedKnown := by simp [threadDelta, empty]
  pushedInto := by simp [threadDelta, empty]
  contentOf := by simp [threadDelta, empty, setContents]
  deletedWith := by simp [threadDelta, empty]
  marked := by simp [threadDelta, empty]

theorem own_merge_replyDelta (hown : doc.Own) (hthread : threadId ∈ doc.threadIds) :
    (doc.merge (replyDelta currentUser draws threadId content)).Own where
  replies := by
    simpa [merge, replyDelta, empty, threadIds] using hown.replies
  deletedReplies := by
    simpa [merge, replyDelta, empty] using hown.deletedReplies
  deletedKnown := by
    simpa [merge, replyDelta, empty, threadIds] using hown.deletedKnown
  pushedInto other reply hpushed := by
    simp only [merge, replyDelta, empty, threadIds, setContents, Finset.union_empty,
      Finset.image_union, Finset.image_singleton, Finset.mem_union, Finset.mem_singleton,
      Prod.mk.injEq] at hpushed ⊢
    rcases hpushed with hpushed | ⟨rfl, rfl⟩
    · obtain ⟨hother, hcontent⟩ := hown.pushedInto other reply hpushed
      exact ⟨hother, .inl hcontent⟩
    · exact ⟨hthread, .inr rfl⟩
  contentOf replyId hcontent := by
    simp only [merge, replyDelta, setContents, Finset.image_union, Finset.image_singleton,
      Finset.mem_union, Finset.mem_singleton] at hcontent ⊢
    rcases hcontent with hcontent | rfl
    · obtain ⟨other, reply, hpushed, hid⟩ := hown.contentOf replyId hcontent
      exact ⟨other, reply, .inl hpushed, hid⟩
    · exact ⟨threadId, _, .inr rfl, rfl⟩
  deletedWith replyId hdeleted := by
    simp only [merge, replyDelta, empty, Finset.union_empty, Finset.mem_union] at hdeleted ⊢
    obtain ⟨other, reply, hpushed, hid, hother⟩ := hown.deletedWith replyId hdeleted
    exact ⟨other, reply, .inl hpushed, hid, hother⟩
  marked mark hmark := by
    simp only [merge, replyDelta, Finset.mem_union, Finset.mem_singleton] at hmark ⊢
    rcases hmark with hmark | rfl
    · obtain ⟨other, reply, hpushed, hid⟩ := hown.marked mark hmark
      exact ⟨other, reply, .inl hpushed, hid⟩
    · exact ⟨threadId, _, .inr rfl, rfl⟩

theorem own_merge_markDelta {marks : Finset ReadMark} (hown : doc.Own)
    (hmarks : ∀ mark ∈ marks, ∃ threadId reply,
      (threadId, reply) ∈ doc.pushed ∧ reply.id = mark.replyId) :
    (doc.merge (markDelta marks)).Own where
  replies := by simpa [merge, markDelta, empty, threadIds] using hown.replies
  deletedReplies := by simpa [merge, markDelta, empty] using hown.deletedReplies
  deletedKnown := by simpa [merge, markDelta, empty, threadIds] using hown.deletedKnown
  pushedInto := by
    simpa [merge, markDelta, empty, threadIds, setContents] using hown.pushedInto
  contentOf := by simpa [merge, markDelta, empty, setContents] using hown.contentOf
  deletedWith := by simpa [merge, markDelta, empty] using hown.deletedWith
  marked mark hmark := by
    simp only [merge, markDelta, empty, Finset.union_empty, Finset.mem_union] at hmark ⊢
    exact hmark.elim (hown.marked mark) (hmarks mark)

theorem own_merge_deletionDelta {replyIds : Finset String} (hown : doc.Own)
    (hthread : threadId ∈ doc.threadIds)
    (hreplyIds : ∀ replyId ∈ replyIds, ∃ reply,
      (threadId, reply) ∈ doc.pushed ∧ reply.id = replyId) :
    (doc.merge (deletionDelta threadId replyIds)).Own where
  replies := by simpa [merge, deletionDelta, empty, threadIds] using hown.replies
  deletedReplies := by
    simp only [merge, deletionDelta]
    rw [hown.deletedReplies]
  deletedKnown := by
    simp only [merge, deletionDelta, empty, threadIds, Finset.union_empty]
    exact Finset.union_subset hown.deletedKnown (Finset.singleton_subset_iff.mpr hthread)
  pushedInto := by
    simpa [merge, deletionDelta, empty, threadIds, setContents] using hown.pushedInto
  contentOf := by simpa [merge, deletionDelta, empty, setContents] using hown.contentOf
  deletedWith replyId hdeleted := by
    simp only [merge, deletionDelta, empty, Finset.union_empty, Finset.mem_union,
      Finset.mem_singleton] at hdeleted ⊢
    rcases hdeleted with hdeleted | hdeleted
    · obtain ⟨other, reply, hpushed, hid, hother⟩ := hown.deletedWith replyId hdeleted
      exact ⟨other, reply, hpushed, hid, .inl hother⟩
    · obtain ⟨reply, hpushed, hid⟩ := hreplyIds replyId hdeleted
      exact ⟨threadId, reply, hpushed, hid, .inr rfl⟩
  marked := by simpa [merge, deletionDelta, empty] using hown.marked

theorem compatible_threadDelta (info : ThreadInfo) :
    (threadDelta threadId info).Compatible doc ∧ doc.Compatible (threadDelta threadId info) := by
  constructor
  · exact ⟨by simp [threadDelta, empty], by simp [threadDelta, empty],
      by simp [threadDelta, empty]⟩
  · exact ⟨by simp [threadDelta, empty], by simp [threadDelta, empty],
      by simp [threadDelta, empty]⟩

theorem compatible_replyDelta (hown : doc.Own) (hfresh : draws.replyId ∉ doc.setContents)
    (hthread : threadId ∉ doc.deletedThreads) :
    (replyDelta currentUser draws threadId content).Compatible doc ∧
      doc.Compatible (replyDelta currentUser draws threadId content) := by
  have hnew : ∀ entry ∈ doc.pushed, entry.2.id ≠ draws.replyId := by
    rintro ⟨other, reply⟩ hentry hid
    exact hfresh (hid ▸ (hown.pushedInto other reply hentry).2)
  have hunmarked : ∀ mark ∈ doc.readBy, mark.replyId ≠ draws.replyId := by
    intro mark hmark hreply
    obtain ⟨other, reply, hpushed, hid⟩ := hown.marked mark hmark
    exact hnew _ hpushed (hid.trans hreply)
  constructor
  · refine ⟨fun entry hentry other hother hid => ?_, by simp [replyDelta, empty],
      fun mark hmark other hother hreply _ => ?_⟩
    · obtain rfl := Finset.mem_singleton.mp hentry
      exact absurd hid.symm (hnew other hother)
    · obtain rfl := Finset.mem_singleton.mp hmark
      exact absurd hreply.symm (hunmarked other hother)
  · refine ⟨fun entry hentry other hother hid => ?_, fun other hother reply hpushed => ?_,
      fun mark hmark other hother hreply _ => ?_⟩
    · obtain rfl := Finset.mem_singleton.mp hother
      exact absurd hid (hnew entry hentry)
    · cases Finset.mem_singleton.mp hpushed
      exact absurd hother hthread
    · obtain rfl := Finset.mem_singleton.mp hother
      exact absurd hreply (hunmarked mark hmark)

theorem compatible_replyDelta_self :
    (replyDelta currentUser draws threadId content).Compatible
      (replyDelta currentUser draws threadId content) := by
  refine ⟨fun entry hentry other hother _ => ?_, by simp [replyDelta, empty],
    fun mark hmark other hother _ _ => .inl ?_⟩
  · exact (Finset.mem_singleton.mp hentry).trans (Finset.mem_singleton.mp hother).symm
  · exact (Finset.mem_singleton.mp hmark).trans (Finset.mem_singleton.mp hother).symm

theorem compatible_markDelta {marks : Finset ReadMark} (hself : other.Own)
    (hcompatible : doc.Compatible other)
    (hmarks : ∀ mark ∈ marks, ∃ reply,
      (threadId, reply) ∈ doc.pushed ∧ reply.id = mark.replyId)
    (honce : threadId ∉ other.deletedThreads →
      ∀ mark ∈ marks, mark.userId ∉ other.readers mark.replyId) :
    (markDelta marks).Compatible other ∧ other.Compatible (markDelta marks) := by
  have hgone : ∀ mark ∈ marks, ∀ listed ∈ other.readBy, mark.replyId = listed.replyId →
      mark.userId = listed.userId → ∃ reply, (threadId, reply) ∈ other.pushed ∧
        reply.id = mark.replyId ∧ threadId ∈ other.deletedThreads := by
    intro mark hmark listed hlisted hreply huser
    have hdeleted : threadId ∈ other.deletedThreads := by
      by_contra hthread
      exact honce hthread mark hmark
        (mem_readers.mpr ⟨listed, hlisted, hreply.symm, huser.symm⟩)
    obtain ⟨reply, hpushed, hid⟩ := hmarks mark hmark
    obtain ⟨another, same, hknown, hsame⟩ := hself.marked listed hlisted
    cases hcompatible.oneThread _ hpushed _ hknown (hid.trans (hreply.trans hsame.symm))
    exact ⟨reply, hknown, hid, hdeleted⟩
  constructor
  · refine ⟨by simp [markDelta, empty], by simp [markDelta, empty],
      fun mark hmark listed hlisted hreply huser => ?_⟩
    obtain ⟨reply, hpushed, hid, hdeleted⟩ := hgone mark hmark listed hlisted hreply huser
    exact .inr ⟨threadId, reply, .inr hpushed, hid, .inr hdeleted⟩
  · refine ⟨by simp [markDelta, empty], by simp [markDelta, empty],
      fun listed hlisted mark hmark hreply huser => ?_⟩
    obtain ⟨reply, hpushed, hid, hdeleted⟩ :=
      hgone mark hmark listed hlisted hreply.symm huser.symm
    exact .inr ⟨threadId, reply, .inl hpushed, hid.trans hreply.symm, .inl hdeleted⟩

theorem compatible_deletionDelta {replyIds : Finset String}
    (hreplyIds : ∀ reply, (threadId, reply) ∈ doc.pushed →
      reply.id ∈ replyIds ∨ reply.id ∈ doc.deletedContents) :
    (deletionDelta threadId replyIds).Compatible doc ∧
      doc.Compatible (deletionDelta threadId replyIds) := by
  constructor
  · refine ⟨by simp [deletionDelta, empty], fun other hother reply hpushed => ?_,
      by simp [deletionDelta, empty]⟩
    obtain rfl := Finset.mem_singleton.mp hother
    exact hreplyIds reply hpushed
  · exact ⟨by simp [deletionDelta, empty], by simp [deletionDelta, empty],
      by simp [deletionDelta, empty]⟩

end Deltas

end CommentDoc

namespace CommentDocs

open CommentDoc CommentsStore

variable {ι : Type} [DecidableEq ι]

def Converges (docs : CommentDocs ι) : Prop :=
  ∀ first second, ((docs first).merge (docs second)).Consistent

def FreshItem (item : Nat) (docs : CommentDocs ι) : Prop :=
  ∀ side, ∀ mark ∈ (docs side).readBy, mark.item ≠ item

def FreshReply (draws : CommentDraws) (docs : CommentDocs ι) : Prop :=
  (∀ side, draws.replyId ∉ (docs side).setContents) ∧ docs.FreshItem draws.item

def Fresh (event : CommentEvent ι) (docs : CommentDocs ι) : Prop :=
  match event with
  | .createThread _ draws _ _ =>
      (∀ side, draws.threadId ∉ (docs side).threadIds) ∧ docs.FreshReply draws
  | .addReply _ draws _ _ => docs.FreshReply draws
  | .markThreadAsRead _ item _ => docs.FreshItem item
  | .markReplyAsRead _ item _ _ => docs.FreshItem item
  | .deleteThread .. => True
  | .exchange .. => True

/-- A reply that the user has not read here, the same user has read nowhere, where its
thread is still there. -/
def ReadNowhere (users : ι → UserInfo) (side : ι) (threadId : String) (reply : ReplyInfo)
    (docs : CommentDocs ι) : Prop :=
  (users side).userId ∉ (docs side).readers reply.id →
    ∀ other, threadId ∉ (docs other).deletedThreads →
      (users side).userId ∉ (docs other).readers reply.id

/-- What a replica does to a thread that it has is not done in ignorance of what another
one has done to it. -/
def Timely (users : ι → UserInfo) (event : CommentEvent ι) (docs : CommentDocs ι) : Prop :=
  match event with
  | .createThread .. => True
  | .addReply side _ threadId _ => (docs side).hasThread threadId →
      ∀ other, threadId ∉ (docs other).deletedThreads
  | .markThreadAsRead side _ threadId => (docs side).hasThread threadId →
      ∀ reply, (threadId, reply) ∈ (docs side).pushed →
        docs.ReadNowhere users side threadId reply
  | .markReplyAsRead side _ threadId replyId => (docs side).hasThread threadId →
      ∀ reply, (threadId, reply) ∈ (docs side).pushed → reply.id = replyId →
        docs.ReadNowhere users side threadId reply
  | .deleteThread side threadId => (docs side).hasThread threadId →
      ∀ other reply, (threadId, reply) ∈ (docs other).pushed →
        threadId ∉ (docs other).deletedThreads → (threadId, reply) ∈ (docs side).pushed
  | .exchange .. => True

structure Sound (docs : CommentDocs ι) : Prop where
  own : ∀ side, (docs side).Own
  compatible : ∀ first second, (docs first).Compatible (docs second)

section Sound

variable {docs : CommentDocs ι} {side : ι}

omit [DecidableEq ι] in
theorem Sound.converges (hsound : docs.Sound) : docs.Converges := by
  intro first second
  apply CommentDoc.consistent
  · exact (hsound.own first).merge (hsound.own second)
  · apply CommentDoc.Compatible.merge_left
    · exact (hsound.compatible first first).merge_right (hsound.compatible first second)
    · exact (hsound.compatible second first).merge_right (hsound.compatible second second)

theorem Sound.update (hsound : docs.Sound) {delta : CommentDoc}
    (hown : ((docs side).merge delta).Own)
    (hdelta : ∀ other, delta.Compatible (docs other) ∧ (docs other).Compatible delta)
    (hself : delta.Compatible delta) :
    Sound (Function.update docs side ((docs side).merge delta)) where
  own other := by
    by_cases hother : other = side
    · subst hother
      rwa [Function.update_self]
    · rw [Function.update_of_ne hother]
      exact hsound.own other
  compatible first second := by
    by_cases hfirst : first = side
    · subst hfirst
      rw [Function.update_self]
      by_cases hsecond : second = first
      · subst hsecond
        rw [Function.update_self]
        apply CommentDoc.Compatible.merge_left
        · exact (hsound.compatible second second).merge_right (hdelta second).2
        · exact (hdelta second).1.merge_right hself
      · rw [Function.update_of_ne hsecond]
        exact (hsound.compatible first second).merge_left (hdelta second).1
    · rw [Function.update_of_ne hfirst]
      by_cases hsecond : second = side
      · subst hsecond
        rw [Function.update_self]
        exact (hsound.compatible first second).merge_right (hdelta first).2
      · rw [Function.update_of_ne hsecond]
        exact hsound.compatible first second

theorem Sound.exchange (hsound : docs.Sound) (sender receiver : ι) :
    Sound (Function.update docs receiver ((docs receiver).merge (docs sender))) :=
  hsound.update ((hsound.own receiver).merge (hsound.own sender))
    (fun other => ⟨hsound.compatible sender other, hsound.compatible other sender⟩)
    (hsound.compatible sender sender)

theorem Sound.withReply (hsound : docs.Sound) {user : UserInfo} {draws : CommentDraws}
    {threadId content : String} (hfresh : docs.FreshReply draws)
    (hthread : threadId ∈ (docs side).threadIds)
    (htimely : ∀ other, threadId ∉ (docs other).deletedThreads) :
    Sound (Function.update docs side
      (CommentsStore.withReply user draws threadId content (docs side))) := by
  rw [withReply_eq]
  apply hsound.update
  · exact own_merge_replyDelta (hsound.own side) hthread
  · exact fun other => compatible_replyDelta (hsound.own other) (hfresh.1 other) (htimely other)
  · exact compatible_replyDelta_self

theorem Sound.createThread (hsound : docs.Sound) {user : UserInfo} {draws : CommentDraws}
    {position : Int × Int} {content : String}
    (hthread : ∀ other, draws.threadId ∉ (docs other).threadIds)
    (hfresh : docs.FreshReply draws) :
    Sound (Function.update docs side
      (CommentsStore.createThread user draws position content (docs side))) := by
  let info : ThreadInfo := { position, createdAt := draws.now, resolved := false }
  have hset : Sound (Function.update docs side
      ((docs side).merge (threadDelta draws.threadId info))) := by
    apply hsound.update
    · exact (hsound.own side).merge (own_threadDelta info)
    · exact fun other => compatible_threadDelta info
    · exact (compatible_threadDelta info).1
  have hcontents : ∀ other, (Function.update docs side
      ((docs side).merge (threadDelta draws.threadId info)) other).setContents =
        (docs other).setContents ∧
      (Function.update docs side
        ((docs side).merge (threadDelta draws.threadId info)) other).readBy =
          (docs other).readBy ∧
      (Function.update docs side
        ((docs side).merge (threadDelta draws.threadId info)) other).deletedThreads =
          (docs other).deletedThreads := by
    intro other
    by_cases hother : other = side
    · subst hother
      simp [merge, threadDelta, CommentDoc.empty, setContents]
    · simp [Function.update_of_ne hother]
  have hreply := @Sound.withReply ι _ _ side hset user draws draws.threadId content
  rw [Function.update_self, Function.update_idem, withReply_eq] at hreply
  rw [createThread_eq]
  apply hreply
  · refine ⟨fun other => ?_, fun other => ?_⟩
    · rw [(hcontents other).1]
      exact hfresh.1 other
    · rw [(hcontents other).2.1]
      exact hfresh.2 other
  · simp [merge, threadDelta, threadIds]
  · intro other hdeleted
    rw [(hcontents other).2.2] at hdeleted
    exact hthread other ((hsound.own other).deletedKnown hdeleted)

theorem Sound.markReplies (hsound : docs.Sound) {users : ι → UserInfo} {item : Nat}
    {threadId : String} {replies : Finset ReplyInfo}
    (hreplies : ∀ reply ∈ replies, (threadId, reply) ∈ (docs side).pushed)
    (htimely : ∀ reply ∈ replies, docs.ReadNowhere users side threadId reply) :
    Sound (Function.update docs side
      (CommentsStore.markReplies (users side) item replies (docs side))) := by
  let marks := (unread (users side) replies (docs side)).image fun reply =>
    (⟨item, reply.id, (users side).userId⟩ : ReadMark)
  have heq : CommentsStore.markReplies (users side) item replies (docs side) =
      (docs side).merge (markDelta marks) := by
    simp [CommentsStore.markReplies, merge, markDelta, CommentDoc.empty, marks]
  have hmarks : ∀ mark ∈ marks, ∃ reply ∈ replies,
      (users side).userId ∉ (docs side).readers reply.id ∧
        mark = ⟨item, reply.id, (users side).userId⟩ := by
    intro mark hmark
    obtain ⟨reply, hreply, rfl⟩ := Finset.mem_image.mp hmark
    obtain ⟨hreply, hunread⟩ := Finset.mem_filter.mp hreply
    exact ⟨reply, hreply, hunread, rfl⟩
  rw [heq]
  apply hsound.update
  · apply own_merge_markDelta (hsound.own side)
    intro mark hmark
    obtain ⟨reply, hreply, -, rfl⟩ := hmarks mark hmark
    exact ⟨threadId, reply, hreplies reply hreply, rfl⟩
  · intro other
    apply compatible_markDelta (hsound.own other) (hsound.compatible side other)
    · intro mark hmark
      obtain ⟨reply, hreply, -, rfl⟩ := hmarks mark hmark
      exact ⟨reply, hreplies reply hreply, rfl⟩
    · intro hthread mark hmark
      obtain ⟨reply, hreply, hunread, rfl⟩ := hmarks mark hmark
      exact htimely reply hreply hunread other hthread
  · refine ⟨by simp [markDelta, CommentDoc.empty], by simp [markDelta, CommentDoc.empty],
      fun mark hmark other hother hreply _ => .inl ?_⟩
    obtain ⟨reply, -, -, rfl⟩ := hmarks mark hmark
    obtain ⟨another, -, -, rfl⟩ := hmarks other hother
    exact congrArg (fun replyId => ReadMark.mk item replyId (users side).userId) hreply

variable {doc : CommentDoc} {threadId : String}

theorem deleteThread_eq (hown : doc.Own) (hthread : doc.hasThread threadId) :
    deleteThread threadId doc = doc.merge (deletionDelta threadId
      (((doc.pushed.filter fun entry => entry.1 = threadId).image fun entry =>
        entry.2.id).filter fun replyId => replyId ∈ doc.contentIds)) := by
  simp [deleteThread, repliesArray_of_hasThread hown hthread, hthread, merge, deletionDelta,
    CommentDoc.empty, Finset.image_image, Function.comp_def]

theorem deleteThread_of_not (hown : doc.Own) (hthread : ¬ doc.hasThread threadId) :
    deleteThread threadId doc = doc := by
  simp [deleteThread, repliesArray_of_not hown hthread, hthread]

theorem own_deleteThread (hown : doc.Own) (hthread : doc.hasThread threadId) :
    (deleteThread threadId doc).Own := by
  rw [deleteThread_eq hown hthread]
  apply own_merge_deletionDelta hown hthread.1
  intro replyId hreplyId
  obtain ⟨hreplyId, -⟩ := Finset.mem_filter.mp hreplyId
  obtain ⟨⟨other, reply⟩, hentry, rfl⟩ := Finset.mem_image.mp hreplyId
  obtain ⟨hpushed, rfl⟩ := Finset.mem_filter.mp hentry
  exact ⟨reply, hpushed, rfl⟩

theorem Sound.deleteThread (hsound : docs.Sound)
    (htimely : (docs side).hasThread threadId → ∀ other reply,
      (threadId, reply) ∈ (docs other).pushed → threadId ∉ (docs other).deletedThreads →
        (threadId, reply) ∈ (docs side).pushed) :
    Sound (Function.update docs side
      (CommentsStore.deleteThread threadId (docs side))) := by
  by_cases hthread : (docs side).hasThread threadId
  · have hown := hsound.own side
    have hself := hsound.compatible side side
    have hafter := own_deleteThread hown hthread
    rw [deleteThread_eq hown hthread] at hafter ⊢
    apply hsound.update
    · exact hafter
    · intro other
      apply compatible_deletionDelta
      intro reply hpushed
      by_cases hdeleted : threadId ∈ (docs other).deletedThreads
      · exact .inr ((hsound.compatible other other).emptied threadId hdeleted reply
          hpushed |>.elim id id)
      · have hknown := htimely hthread other reply hpushed hdeleted
        refine .inl (Finset.mem_filter.mpr ⟨?_, mem_contentIds.mpr ⟨?_, ?_⟩⟩)
        · exact Finset.mem_image.mpr ⟨_, Finset.mem_filter.mpr ⟨hknown, rfl⟩, rfl⟩
        · exact (hown.pushedInto _ _ hknown).2
        · rw [deletedContents_iff hown hself hknown]
          exact hthread.2
    · exact (compatible_deletionDelta (by simp [deletionDelta, CommentDoc.empty])).1
  · rw [deleteThread_of_not (hsound.own side) hthread, Function.update_eq_self]
    exact hsound

theorem step_addReply (hsound : docs.Sound) (users : ι → UserInfo) (draws : CommentDraws)
    (threadId content : String) :
    step users (.addReply side draws threadId content) docs =
      if (docs side).hasThread threadId then
        Function.update docs side
          (CommentsStore.withReply (users side) draws threadId content (docs side))
      else docs := by
  simp only [step, attempt, addReply, isSome_repliesArray (hsound.own side), and_self]
  by_cases hthread : (docs side).hasThread threadId
  · rw [if_pos hthread, if_pos hthread]
  · rw [if_neg hthread, if_neg hthread]

theorem step_markThreadAsRead (hsound : docs.Sound) (users : ι → UserInfo) (item : Nat)
    (threadId : String) :
    step users (.markThreadAsRead side item threadId) docs =
      if (docs side).hasThread threadId then
        Function.update docs side (CommentsStore.markReplies (users side) item
          (((docs side).pushed.filter fun entry => entry.1 = threadId).image Prod.snd)
          (docs side))
      else docs := by
  rw [step, attempt, markThreadAsRead]
  by_cases hthread : (docs side).hasThread threadId
  · rw [repliesArray_of_hasThread (hsound.own side) hthread, if_pos hthread]
  · rw [repliesArray_of_not (hsound.own side) hthread, if_neg hthread]

theorem step_markReplyAsRead (hsound : docs.Sound) (users : ι → UserInfo) (item : Nat)
    (threadId replyId : String) :
    step users (.markReplyAsRead side item threadId replyId) docs =
      if (docs side).hasThread threadId then
        Function.update docs side (CommentsStore.markReplies (users side) item
          ((((docs side).pushed.filter fun entry => entry.1 = threadId).image
            Prod.snd).filter fun reply => reply.id = replyId) (docs side))
      else docs := by
  rw [step, attempt, markReplyAsRead]
  by_cases hthread : (docs side).hasThread threadId
  · rw [repliesArray_of_hasThread (hsound.own side) hthread, if_pos hthread]
    let found := (((docs side).pushed.filter fun entry => entry.1 = threadId).image
      Prod.snd).filter fun reply => reply.id = replyId
    by_cases hfound : found = ∅
    · -- nobody is to be marked
      have hnone : CommentsStore.markReplies (users side) item found (docs side) =
          docs side := by
        simp [hfound, CommentsStore.markReplies, unread]
      rw [hnone, Function.update_eq_self]
      simp only [found, if_pos hfound]
    · simp only [found, if_neg hfound]
  · rw [repliesArray_of_not (hsound.own side) hthread, if_neg hthread]

theorem Sound.step (hsound : docs.Sound) {users : ι → UserInfo} {event : CommentEvent ι}
    (hfresh : docs.Fresh event) (htimely : docs.Timely users event) :
    (step users event docs).Sound := by
  cases event with
  | createThread side draws position content =>
      exact hsound.createThread hfresh.1 hfresh.2
  | addReply side draws threadId content =>
      rw [step_addReply hsound]
      split
      · next hthread => exact hsound.withReply hfresh hthread.1 (htimely hthread)
      · exact hsound
  | markThreadAsRead side item threadId =>
      rw [step_markThreadAsRead hsound]
      split
      · next hthread =>
          apply @Sound.markReplies _ _ _ _ hsound _ _ threadId
          · exact fun reply hreply => mem_repliesOf.mp hreply
          · exact fun reply hreply => htimely hthread reply (mem_repliesOf.mp hreply)
      · exact hsound
  | markReplyAsRead side item threadId replyId =>
      rw [step_markReplyAsRead hsound]
      split
      · next hthread =>
          apply @Sound.markReplies _ _ _ _ hsound _ _ threadId
          · intro reply hreply
            exact mem_repliesOf.mp (Finset.mem_filter.mp hreply).1
          · intro reply hreply
            obtain ⟨hreply, hid⟩ := Finset.mem_filter.mp hreply
            exact htimely hthread reply (mem_repliesOf.mp hreply) hid
      · exact hsound
  | deleteThread side threadId => exact hsound.deleteThread htimely
  | exchange sender receiver => exact hsound.exchange sender receiver

theorem timely_of_withReply (hsound : docs.Sound) {user : UserInfo} {draws : CommentDraws}
    {threadId content : String} (hfresh : docs.FreshReply draws)
    (hthread : (docs side).hasThread threadId)
    (hconverges : Converges (Function.update docs side
      (CommentsStore.withReply user draws threadId content (docs side)))) :
    ∀ other, threadId ∉ (docs other).deletedThreads := by
  intro other hdeleted
  have hother : other ≠ side := fun hsame => hthread.2 (hsame ▸ hdeleted)
  have hmerged := hconverges side other
  rw [Function.update_self, Function.update_of_ne hother, withReply_eq] at hmerged
  have hreply := @own_merge_replyDelta _ user draws _ content (hsound.own side) hthread.1
  have hown := hreply.merge (hsound.own other)
  -- the content of the reply has been set, and nobody has deleted it
  have hdropped : ∀ doc : CommentDoc, doc.Own → draws.replyId ∉ doc.setContents →
      draws.replyId ∉ doc.deletedContents := by
    intro doc hdoc hnew hgone
    obtain ⟨_, _, hpushed, hid, _⟩ := hdoc.deletedWith _ hgone
    exact hnew (hid ▸ (hdoc.pushedInto _ _ hpushed).2)
  have hcontent : draws.replyId ∈ (((docs side).merge
      (replyDelta user draws threadId content)).merge (docs other)).contentIds := by
    rw [mem_contentIds]
    constructor
    · simp [merge, replyDelta, setContents]
    · simp only [merge, replyDelta, CommentDoc.empty, Finset.union_empty, Finset.mem_union,
        not_or]
      exact ⟨hdropped _ (hsound.own side) (hfresh.1 side),
        hdropped _ (hsound.own other) (hfresh.1 other)⟩
  rw [hmerged.contents, mem_replyIds hown] at hcontent
  obtain ⟨foundThread, reply, hpushed, hid, hpresent⟩ := hcontent
  simp only [merge, replyDelta, CommentDoc.empty, Finset.union_empty, Finset.mem_union,
    Finset.mem_singleton, Prod.mk.injEq, not_or] at hpushed hpresent
  rcases hpushed with (hpushed | ⟨rfl, rfl⟩) | hpushed
  · exact hfresh.1 side (hid ▸ ((hsound.own side).pushedInto _ _ hpushed).2)
  · exact hpresent.2 hdeleted
  · exact hfresh.1 other (hid ▸ ((hsound.own other).pushedInto _ _ hpushed).2)

theorem timely_of_deleteThread (hsound : docs.Sound) (hthread : (docs side).hasThread threadId)
    (hconverges : Converges (Function.update docs side
      (CommentsStore.deleteThread threadId (docs side)))) :
    ∀ other reply, (threadId, reply) ∈ (docs other).pushed →
      threadId ∉ (docs other).deletedThreads → (threadId, reply) ∈ (docs side).pushed := by
  intro other reply hpushed hpresent
  by_contra hunknown
  have hother : other ≠ side := fun hsame => hunknown (hsame ▸ hpushed)
  have hmerged := hconverges side other
  rw [Function.update_self, Function.update_of_ne hother] at hmerged
  have hdifferent : ∀ foundThread known, (foundThread, known) ∈ (docs side).pushed →
      known.id ≠ reply.id := by
    intro foundThread known hknown hid
    cases (hsound.compatible side other).oneThread _ hknown _ hpushed hid
    exact hunknown hknown
  have hdeletion := deleteThread_eq (hsound.own side) hthread
  have hown := (own_deleteThread (hsound.own side) hthread).merge (hsound.own other)
  have hcontent : reply.id ∈
      ((deleteThread threadId (docs side)).merge (docs other)).contentIds := by
    rw [mem_contentIds]
    constructor
    · have hset := ((hsound.own other).pushedInto _ _ hpushed).2
      simp only [merge, setContents, Finset.image_union, Finset.mem_union]
      exact .inr hset
    · rw [hdeletion]
      simp only [merge, deletionDelta, Finset.mem_union, not_or]
      refine ⟨⟨fun hgone => ?_, fun hgone => ?_⟩, ?_⟩
      · obtain ⟨_, _, hknown, hid, _⟩ := (hsound.own side).deletedWith _ hgone
        exact hdifferent _ _ hknown hid
      · obtain ⟨hgone, -⟩ := Finset.mem_filter.mp hgone
        obtain ⟨_, hentry, hid⟩ := Finset.mem_image.mp hgone
        exact hdifferent _ _ (Finset.mem_filter.mp hentry).1 hid
      · rw [deletedContents_iff (hsound.own other) (hsound.compatible other other) hpushed]
        exact hpresent
  rw [hmerged.contents, mem_replyIds hown, hdeletion] at hcontent
  obtain ⟨foundThread, found, hfound, hid, hthere⟩ := hcontent
  simp only [merge, deletionDelta, CommentDoc.empty, Finset.union_empty, Finset.mem_union,
    Finset.mem_singleton, not_or] at hfound hthere
  rcases hfound with hfound | hfound
  · exact hdifferent _ _ hfound hid
  · cases (hsound.compatible other other).oneThread _ hfound _ hpushed hid
    exact hthere.1.2 rfl

theorem timely_of_markReplies (hsound : docs.Sound) {users : ι → UserInfo} {item : Nat}
    {replies : Finset ReplyInfo} (hfresh : docs.FreshItem item)
    (hthread : (docs side).hasThread threadId)
    (hconverges : Converges (Function.update docs side
      (CommentsStore.markReplies (users side) item replies (docs side)))) {reply : ReplyInfo}
    (hreply : reply ∈ replies) (hpushed : (threadId, reply) ∈ (docs side).pushed) :
    docs.ReadNowhere users side threadId reply := by
  intro hunread other hpresent hread
  have hother : other ≠ side := by
    rintro rfl
    exact hunread hread
  have hmerged := hconverges side other
  rw [Function.update_self, Function.update_of_ne hother] at hmerged
  obtain ⟨mark, hmark, hlisted, huser⟩ := mem_readers.mp hread
  -- the user is listed under two identifiers
  have hboth : (⟨item, reply.id, (users side).userId⟩ : ReadMark) = mark := by
    have honce := hmerged.readOnce reply.id ?_
    · apply nodup_readers_iff.mp honce
      · apply Finset.mem_union_left
        apply Finset.mem_union_right
        exact Finset.mem_image.mpr
          ⟨reply, Finset.mem_filter.mpr ⟨hreply, hunread⟩, rfl⟩
      · exact Finset.mem_union_right _ hmark
      · rfl
      · exact hlisted
      · exact huser.symm
    · have hown := (hsound.own side).merge (hsound.own other)
      change reply.id ∈ ((docs side).merge (docs other)).replyIds
      rw [mem_replyIds hown]
      refine ⟨threadId, reply, Finset.mem_union_left _ hpushed, rfl, fun hgone => ?_⟩
      exact (Finset.mem_union.mp hgone).elim hthread.2 hpresent
  exact hfresh other mark hmark (congrArg ReadMark.item hboth).symm

theorem Sound.timely (hsound : docs.Sound) {users : ι → UserInfo} {event : CommentEvent ι}
    (hfresh : docs.Fresh event) (hconverges : (CommentDocs.step users event docs).Converges) :
    docs.Timely users event := by
  cases event with
  | createThread side draws position content => exact trivial
  | addReply side draws threadId content =>
      intro hthread
      rw [step_addReply hsound, if_pos hthread] at hconverges
      exact timely_of_withReply hsound hfresh hthread hconverges
  | markThreadAsRead side item threadId =>
      intro hthread reply hpushed
      rw [step_markThreadAsRead hsound, if_pos hthread] at hconverges
      apply timely_of_markReplies hsound hfresh hthread hconverges _ hpushed
      exact mem_repliesOf.mpr hpushed
  | markReplyAsRead side item threadId replyId =>
      intro hthread reply hpushed hid
      rw [step_markReplyAsRead hsound, if_pos hthread] at hconverges
      apply timely_of_markReplies hsound hfresh hthread hconverges _ hpushed
      exact Finset.mem_filter.mpr ⟨mem_repliesOf.mpr hpushed, hid⟩
  | deleteThread side threadId =>
      exact fun hthread => timely_of_deleteThread hsound hthread hconverges
  | exchange sender receiver => exact trivial

end Sound

omit [DecidableEq ι] in
theorem sound_empty : Sound (fun _ : ι => CommentDoc.empty) where
  own side := by
    exact ⟨rfl, rfl, by simp [CommentDoc.empty], by simp [CommentDoc.empty],
      by simp [CommentDoc.empty, setContents], by simp [CommentDoc.empty],
      by simp [CommentDoc.empty]⟩
  compatible first second := by
    exact ⟨by simp [CommentDoc.empty], by simp [CommentDoc.empty], by simp [CommentDoc.empty]⟩

/-- Replicas merge into consistent comments, whatever they do, exactly when no call is
made in ignorance of what it collides with. -/
theorem converges_iff_timely (users : ι → UserInfo) (events : List (CommentEvent ι))
    (hfresh : ∀ earlier event, earlier ++ [event] <+: events →
      Fresh event (run (step users) (fun _ => CommentDoc.empty) earlier)) :
    (∀ earlier, earlier <+: events →
      Converges (run (step users) (fun _ => CommentDoc.empty) earlier)) ↔
    ∀ earlier event, earlier ++ [event] <+: events →
      Timely users event (run (step users) (fun _ => CommentDoc.empty) earlier) := by
  apply run_holds_iff sound_empty
  · exact fun _ hsound => hsound.converges
  · exact fun _ _ hsound hnew htimely => hsound.step hnew htimely
  · exact fun _ _ hsound hnew hconverges => hsound.timely hnew hconverges
  · exact hfresh

def discussion : List (CommentEvent Bool) :=
  [.createThread false ⟨"thread", "first", 1, 10⟩ (0, 4) "Is this so?", .exchange false true,
    .addReply true ⟨"", "second", 2, 20⟩ "thread" "It is.", .exchange true false,
    .markThreadAsRead false 3 "thread", .deleteThread false "thread"]

def commenter (side : Bool) : UserInfo :=
  if side then ⟨"bob", "Bob"⟩ else ⟨"alice", "Alice"⟩

theorem converges_iff_timely_discussion :
    Converges (run (step commenter) (fun _ => CommentDoc.empty) discussion) := by
  let docs := run (step commenter) (fun _ => CommentDoc.empty)
  have hfresh : EachEvent (fun earlier event => Fresh event (docs earlier)) [] discussion := by
    refine ⟨⟨?_, ?_, ?_⟩, trivial, ⟨?_, ?_⟩, trivial, ?_, trivial, trivial⟩
    all_goals dsimp only [FreshItem, Fresh]; decide +kernel
  have htimely : EachEvent (fun earlier event => Timely commenter event (docs earlier)) []
      discussion := by
    refine ⟨trivial, trivial, fun _ => ?_, trivial, fun _ reply hpushed => ?_,
      fun _ other reply hpushed _ => ?_, trivial⟩
    · decide +kernel
    · have hread : ∀ entry ∈ (docs (discussion.take 4) false).pushed,
          "alice" ∉ (docs (discussion.take 4) false).readers entry.2.id →
            ∀ other, "alice" ∉ (docs (discussion.take 4) other).readers entry.2.id := by
        decide +kernel
      exact fun hunread other _ => hread _ hpushed hunread other
    · have hknown : ∀ other, ∀ entry ∈ (docs (discussion.take 5) other).pushed,
          entry ∈ (docs (discussion.take 5) false).pushed := by
        decide +kernel
      exact hknown other _ hpushed
  have hconverges := (converges_iff_timely commenter discussion fun _ _ hpre =>
    hfresh.of_prefix hpre).mpr fun _ _ hpre => htimely.of_prefix hpre
  exact hconverges discussion (List.prefix_refl _)

def answeredLate : List (CommentEvent Bool) :=
  [.createThread false ⟨"thread", "first", 1, 10⟩ (0, 4) "Is this so?", .exchange false true,
    .deleteThread false "thread", .addReply true ⟨"", "second", 2, 20⟩ "thread" "It is."]

def readTwice : List (CommentEvent (Fin 3)) :=
  [.createThread 0 ⟨"thread", "first", 1, 10⟩ (0, 4) "Is this so?", .exchange 0 1,
    .exchange 0 2, .markThreadAsRead 1 2 "thread", .markThreadAsRead 2 3 "thread"]

/-- The content of the late answer stays, and no thread has it; the user who reads twice is
listed twice. -/
theorem merge_not_consistent :
    let docs := run (step commenter) (fun _ => CommentDoc.empty) answeredLate
    let readers := run (step fun side : Fin 3 => commenter (side != 0))
      (fun _ => CommentDoc.empty) readTwice
    (((docs false).merge (docs true)).contentIds = {"second"} ∧
      ((docs false).merge (docs true)).replyIds = ∅) ∧
    ((readers 1).merge (readers 2)).readers "first" = {"alice", "bob", "bob"} := by
  decide +kernel

end CommentDocs

end Osvauld.Livnote
