import Osvauld.Livnote.LiveEditSteps
import Osvauld.Livnote.LiveSession

namespace Osvauld.Livnote

open Osvauld.Core Data

/-! What the ends of a live session have of each other's updates. -/

variable {yrs : Yrs} {L : Type*} [SemilatticeSup L] [OrderBot L]
variable (lawful : ExactYrs yrs L)

structure Grows (buffers buffers' : Buffers yrs) : Prop where
  content : content lawful buffers ≤ content lawful buffers'
  compared : buffers.compared ⊆ buffers'.compared

variable {lawful} in
theorem Grows.trans {first second third : Buffers yrs} (hfirst : Grows lawful first second)
    (hsecond : Grows lawful second third) : Grows lawful first third :=
  ⟨hfirst.content.trans hsecond.content,
    List.Subset.trans hfirst.compared hsecond.compared⟩

theorem Grows.rfl (buffers : Buffers yrs) : Grows lawful buffers buffers :=
  ⟨le_rfl, List.Subset.refl _⟩

variable {buffers buffers' : Buffers yrs} {mine : LiveEnd yrs} {otherId : String}

variable {lawful} in
theorem Advances.grows {connectionId : String} {arriving : Option (DocSelection → Bytes)}
    (hadvances : Advances lawful connectionId arriving buffers buffers') :
    Grows lawful buffers buffers' :=
  ⟨hadvances.content, hadvances.compared⟩

def Linked (buffers other : Buffers yrs) : Prop :=
  ∀ selection ∈ DocSelection.exchanged, ∃ doc, (selection, doc) ∈ other.compared ∧
    lawful.state doc ≤ content lawful buffers selection

def Included (edit : EditTask) (buffers : Buffers yrs) : Prop :=
  edit.selection ≠ .comment ∧ ∀ doc, (edit.selection, doc) ∈ buffers.compared →
    lawful.meaning edit.update ≤ lawful.state doc

def Reaches (resourceId : String) (other : LiveEnd yrs) (edit : EditTask) : Prop :=
  lawful.meaning edit.update ≤ content lawful other.buffers edit.selection ∨
    edit.message resourceId ∈ other.inbox ∨
      ∃ left, other.handling = some (edit.message resourceId, left)

structure EditSound (resourceId : String) (buffers : Buffers yrs) (other : LiveEnd yrs)
    (edit : EditTask) : Prop where
  applied : edit.applied →
    lawful.meaning edit.update ≤ content lawful buffers edit.selection
  heard : edit.broadcast = some true → Reaches lawful resourceId other edit
  unheard : edit.broadcast = some false → Included lawful edit buffers

def Handles (resourceId connectionId : String) (buffers other : Buffers yrs)
    (message : LiveEditMessage) (left : Answers yrs) : Prop :=
  ∃ peer sender arriving since, peer ≤ content lawful buffers ∧
    Grows lawful sender other ∧ Sourced lawful peer sender arriving ∧
    Advances lawful connectionId arriving since buffers ∧ left.Succeeds ∧
    Program.Respects (Advances lawful connectionId arriving)
      (Answered lawful resourceId sender message) since left

structure EndSound (resourceId connectionId : String) (mine other : LiveEnd yrs) :
    Prop where
  note : mine.buffers.noteId = some resourceId
  inbox : ∀ message ∈ mine.inbox, ∃ peer, peer ≤ content lawful mine.buffers ∧
    Faithful lawful resourceId peer other.buffers message
  handling : ∀ message left, mine.handling = some (message, left) →
    Handles lawful resourceId connectionId mine.buffers other.buffers message left
  listed : connectionId ∈ mine.buffers.activeConnections →
    Linked lawful mine.buffers other.buffers
  edits : ∀ edit ∈ mine.edits, EditSound lawful resourceId mine.buffers other edit

variable {lawful} {resourceId connectionId : String}

theorem Linked.mono {buffers buffers' other other' : Buffers yrs}
    (hlinked : Linked lawful buffers other) (hgrows : Grows lawful buffers buffers')
    (hother : Grows lawful other other') : Linked lawful buffers' other' := by
  intro selection hselection
  obtain ⟨doc, hmem, hdoc⟩ := hlinked selection hselection
  exact ⟨doc, hother.compared hmem, hdoc.trans (hgrows.content selection)⟩

theorem Answered.mono {sender buffers buffers' : Buffers yrs} {message : LiveEditMessage}
    {answers : List LiveEditMessage}
    (hanswered : Answered lawful resourceId sender message answers buffers)
    (hgrows : Grows lawful buffers buffers') :
    Answered lawful resourceId sender message answers buffers' := by
  refine ⟨?_, fun answer hanswer =>
    (hanswered.2 answer hanswer).mono lawful hgrows.content hgrows.compared⟩
  cases message with
  | documentUpdate noteId clientId updates docType =>
      exact hanswered.1.trans (WithBot.coe_le_coe.mpr (hgrows.content _))
  | _ => trivial

theorem Sourced.linked {peer : DocSelection → L} {sender other : Buffers yrs}
    {arriving : Option (DocSelection → Bytes)} (hsourced : Sourced lawful peer sender arriving)
    (hsender : Grows lawful sender other) (hpeer : peer ≤ content lawful buffers)
    (harrived : Arrived lawful arriving buffers) : Linked lawful buffers other := by
  obtain ⟨updates, hupdates, hin⟩ := harrived
  intro selection hselection
  obtain ⟨brought, doc, hmeaning, hmem, hdoc⟩ :=
    hsourced updates hupdates selection hselection
  refine ⟨doc, hsender.compared hmem, hdoc.trans (sup_le (hpeer selection) ?_)⟩
  exact WithBot.coe_le_coe.mp (hmeaning ▸ hin selection hselection)

theorem EndSound.other {other other' : LiveEnd yrs}
    (hmine : EndSound lawful resourceId connectionId mine other)
    (hgrows : Grows lawful other.buffers other'.buffers)
    (hreaches : ∀ edit, Reaches lawful resourceId other edit →
      Reaches lawful resourceId other' edit) :
    EndSound lawful resourceId connectionId mine other' where
  note := hmine.note
  inbox message hmessage := by
    obtain ⟨peer, hpeer, hfaithful⟩ := hmine.inbox message hmessage
    exact ⟨peer, hpeer, hfaithful.mono lawful hgrows.content hgrows.compared⟩
  handling message left hhandling := by
    obtain ⟨peer, sender, arriving, since, hpeer, hsender, hrest⟩ :=
      hmine.handling message left hhandling
    exact ⟨peer, sender, arriving, since, hpeer, hsender.trans hgrows, hrest⟩
  listed hlisted := (hmine.listed hlisted).mono (.rfl lawful _) hgrows
  edits edit hedit :=
    ⟨(hmine.edits edit hedit).applied,
      fun htrue => hreaches edit ((hmine.edits edit hedit).heard htrue),
      (hmine.edits edit hedit).unheard⟩

theorem EndSound.grow {other : LiveEnd yrs} {handling' : Option (LiveEditMessage × Answers yrs)}
    {edits' : List EditTask} (hmine : EndSound lawful resourceId connectionId mine other)
    (harriving : Advances lawful connectionId arriving mine.buffers buffers')
    (hlinked : Arrived lawful arriving buffers' → Linked lawful buffers' other.buffers)
    (hhandling : ∀ message left, handling' = some (message, left) →
      Handles lawful resourceId connectionId buffers' other.buffers message left)
    (hedits : ∀ edit ∈ edits', EditSound lawful resourceId buffers' other edit) :
    EndSound lawful resourceId connectionId
      { mine with buffers := buffers', handling := handling', edits := edits' }
      other where
  note := harriving.noteId.trans hmine.note
  inbox message hmessage := by
    obtain ⟨peer, hpeer, hfaithful⟩ := hmine.inbox message hmessage
    exact ⟨peer, hpeer.trans harriving.content, hfaithful⟩
  handling := hhandling
  listed hlisted := by
    rcases harriving.listed hlisted with hbefore | harrived
    · exact (hmine.listed hbefore).mono harriving.grows (.rfl lawful _)
    · exact hlinked harrived
  edits := hedits

theorem Reaches.post {other : LiveEnd yrs} {edit : EditTask}
    (hreaches : Reaches lawful resourceId other edit) (messages : List LiveEditMessage) :
    Reaches lawful resourceId (other.post messages) edit := by
  rcases hreaches with hin | hsent | hhandled
  · exact .inl hin
  · exact .inr (.inl (List.mem_append_left _ hsent))
  · exact .inr (.inr hhandled)

theorem EndSound.post {other : LiveEnd yrs}
    (hmine : EndSound lawful resourceId connectionId mine other) {messages : List LiveEditMessage}
    (hmessages : ∀ message ∈ messages, ∃ peer, peer ≤ content lawful mine.buffers ∧
      Faithful lawful resourceId peer other.buffers message) :
    EndSound lawful resourceId connectionId (mine.post messages) other where
  note := hmine.note
  inbox message hmessage := by
    rcases List.mem_append.mp hmessage with hold | hnew
    · exact hmine.inbox message hold
    · exact hmessages message hnew
  handling := hmine.handling
  listed := hmine.listed
  edits := hmine.edits

theorem EndSound.changeEdits {other : LiveEnd yrs} {edits' : List EditTask}
    (hmine : EndSound lawful resourceId connectionId mine other)
    (hedits : ∀ edit ∈ edits', EditSound lawful resourceId mine.buffers other edit) :
    EndSound lawful resourceId connectionId { mine with edits := edits' } other :=
  { hmine with edits := hedits }

theorem EndSound.edit {other : LiveEnd yrs}
    (hmine : EndSound lawful resourceId connectionId mine other) (update : Bytes) (docType : String)
    (clientId : Nat) :
    EndSound lawful resourceId connectionId (mine.edit update docType clientId) other := by
  unfold LiveEnd.edit
  split
  · exact hmine
  · refine hmine.changeEdits fun edit hedit => ?_
    rcases List.mem_append.mp hedit with hold | hnew
    · exact hmine.edits edit hold
    · obtain rfl := List.mem_singleton.mp hnew
      exact ⟨by simp, by simp, by simp⟩

theorem EndSound.spawn {other : LiveEnd yrs}
    (hmine : EndSound lawful resourceId connectionId mine other) (index : Nat) :
    EndSound lawful resourceId connectionId (mine.spawn resourceId index) other := by
  unfold LiveEnd.spawn
  split
  · exact hmine
  · next task htask =>
      split
      · refine hmine.changeEdits fun edit hedit => ?_
        rcases List.mem_or_eq_of_mem_set hedit with hold | rfl
        · exact hmine.edits edit hold
        · obtain ⟨happlied, hheard, hunheard⟩ :=
            hmine.edits task (List.mem_of_getElem? htask)
          exact ⟨happlied, hheard, hunheard⟩
      · exact hmine

theorem Reaches.grow {other other' : LiveEnd yrs} {edit : EditTask}
    (hreaches : Reaches lawful resourceId other edit)
    (hgrows : Grows lawful other.buffers other'.buffers)
    (hinbox : other'.inbox = other.inbox)
    (hhandling : ∀ message left, other.handling = some (message, left) →
      ∃ left', other'.handling = some (message, left')) :
    Reaches lawful resourceId other' edit := by
  rcases hreaches with hin | hsent | ⟨left, hhandled⟩
  · exact .inl (hin.trans (WithBot.coe_le_coe.mpr (hgrows.content edit.selection)))
  · exact .inr (.inl (hinbox ▸ hsent))
  · exact .inr (.inr (hhandling _ left hhandled))

theorem Included.of_compared {edit : EditTask} (hincluded : Included lawful edit buffers)
    (hcompared : ∀ doc, (edit.selection, doc) ∈ buffers'.compared →
      (edit.selection, doc) ∉ buffers.compared →
        lawful.meaning edit.update ≤ lawful.state doc) : Included lawful edit buffers' := by
  refine ⟨hincluded.1, fun doc hdoc => ?_⟩
  by_cases hbefore : (edit.selection, doc) ∈ buffers.compared
  · exact hincluded.2 doc hbefore
  · exact hcompared doc hdoc hbefore

theorem EditSound.grow {other : LiveEnd yrs} {edit : EditTask}
    (hedit : EditSound lawful resourceId buffers other edit)
    (hgrows : Grows lawful buffers buffers')
    (hcompared : edit.broadcast = some false →
      ∀ doc, (edit.selection, doc) ∈ buffers'.compared →
        (edit.selection, doc) ∉ buffers.compared →
          lawful.meaning edit.update ≤ lawful.state doc) :
    EditSound lawful resourceId buffers' other edit where
  applied happlied := (hedit.applied happlied).trans
    (WithBot.coe_le_coe.mpr (hgrows.content edit.selection))
  heard := hedit.heard
  unheard hunheard := (hedit.unheard hunheard).of_compared (hcompared hunheard)

theorem Handles.interrupted {other : Buffers yrs} {message : LiveEditMessage} {left : Answers yrs}
    (hhandles : Handles lawful resourceId connectionId buffers other message left)
    (hadvances : ∀ arriving, Advances lawful connectionId arriving buffers buffers') :
    Handles lawful resourceId connectionId buffers' other message left := by
  obtain ⟨peer, sender, arriving, since, hpeer, hsender, hsourced, hsince, hrest⟩ :=
    hhandles
  exact ⟨peer, sender, arriving, since, hpeer.trans (hadvances none).content, hsender,
    hsourced, trans_of _ hsince (hadvances arriving), hrest⟩

variable (lawful connectionId) in
theorem run_applyUpdate (arriving : Option (DocSelection → Bytes)) (update : Bytes)
    (docType : String) (buffers : Buffers yrs) :
    Advances lawful connectionId arriving buffers
        ((NoteTask.applyUpdate update docType).run buffers).2 ∧
      lawful.meaning update ≤ content lawful
        ((NoteTask.applyUpdate update docType).run buffers).2
          (DocSelection.ofDocType docType) := by
  have hfollows : Program.Respects (Advances lawful connectionId arriving) _ buffers _ :=
    applyUpdate_follows lawful update docType
  obtain ⟨hadvances, hin⟩ := hfollows.run
  obtain ⟨value, hvalue⟩ := (applyUpdate_succeeds update docType).run buffers
  exact ⟨hadvances, hin value hvalue⟩

theorem compared_applyUpdate (update : Bytes) (docType : String)
    (buffers : Buffers yrs) :
    ((NoteTask.applyUpdate update docType).run buffers).2.compared =
      buffers.compared := by
  unfold NoteTask.applyUpdate NoteTask.applyTo
  split
  · rfl
  · simp only [Program.run_bind, Program.run_attempt, Program.run_write,
      Program.andThen_ok, Program.run_pure]
    cases yrs.applyUpdateV2 (buffers.doc (DocSelection.ofDocType docType)) update with
    | ok doc => simp [Except.map]
    | error error => rfl

theorem EndSound.apply {other : LiveEnd yrs}
    (hmine : EndSound lawful resourceId connectionId mine other) (index : Nat) :
    EndSound lawful resourceId connectionId (mine.apply index) other := by
  unfold LiveEnd.apply
  split
  · exact hmine
  · next task htask =>
      split
      · have hadvances := fun arriving => (run_applyUpdate lawful connectionId arriving
          task.update task.docType mine.buffers).1
        refine hmine.grow (hadvances none) (fun ⟨_, hnone, _⟩ => by cases hnone)
          (fun message left hhandling =>
            (hmine.handling message left hhandling).interrupted hadvances)
          fun edit hedit => ?_
        have hsame : ∀ edit : EditTask, edit.broadcast = some false → ∀ doc,
            (edit.selection, doc) ∈ ((NoteTask.applyUpdate task.update
              task.docType).run mine.buffers).2.compared →
            (edit.selection, doc) ∉ mine.buffers.compared →
              lawful.meaning edit.update ≤ lawful.state doc := by
          intro edit _ doc hdoc hbefore
          rw [compared_applyUpdate] at hdoc
          exact absurd hdoc hbefore
        rcases List.mem_or_eq_of_mem_set hedit with hold | rfl
        · exact (hmine.edits edit hold).grow (hadvances none).grows (hsame edit)
        · have hgrown := (hmine.edits task (List.mem_of_getElem? htask)).grow
            (hadvances none).grows (hsame task)
          refine ⟨fun _ => ?_, hgrown.heard, hgrown.unheard⟩
          exact (run_applyUpdate lawful connectionId none _ _ _).2
      · exact hmine

theorem EndSound.other_edit {other : LiveEnd yrs}
    (hother : EndSound lawful resourceId connectionId other mine) (update : Bytes)
    (docType : String) (clientId : Nat) :
    EndSound lawful resourceId connectionId other
      (mine.edit update docType clientId) := by
  unfold LiveEnd.edit
  split
  · exact hother
  · exact hother.other (.rfl lawful _) fun _ => id

theorem EndSound.other_spawn {other : LiveEnd yrs} {noteId : String}
    (hother : EndSound lawful resourceId connectionId other mine) (index : Nat) :
    EndSound lawful resourceId connectionId other (mine.spawn noteId index) := by
  unfold LiveEnd.spawn
  split
  · exact hother
  · split
    · exact hother.other (.rfl lawful _) fun _ => id
    · exact hother

theorem EndSound.other_apply {other : LiveEnd yrs}
    (hother : EndSound lawful resourceId otherId other mine) (index : Nat) :
    EndSound lawful resourceId otherId other (mine.apply index) := by
  unfold LiveEnd.apply
  split
  · exact hother
  · next task htask =>
      split
      · have hgrows := (run_applyUpdate lawful otherId none task.update task.docType
          mine.buffers).1.grows
        exact hother.other hgrows fun edit hreaches =>
          hreaches.grow hgrows rfl fun message left hhandling => ⟨left, hhandling⟩
      · exact hother

theorem EndSound.broadcast {other : LiveEnd yrs}
    (hmine : EndSound lawful resourceId connectionId mine other)
    (hother : EndSound lawful resourceId otherId other mine) (index : Nat)
    (hincluded : ∀ edit, mine.edits[index]? = some edit → edit.spawned →
      edit.broadcast = none → connectionId ∉ mine.buffers.activeConnections →
        Included lawful edit mine.buffers) :
    EndSound lawful resourceId connectionId
        (mine.broadcast resourceId connectionId index other).1
        (mine.broadcast resourceId connectionId index other).2 ∧
      EndSound lawful resourceId otherId
        (mine.broadcast resourceId connectionId index other).2
        (mine.broadcast resourceId connectionId index other).1 := by
  unfold LiveEnd.broadcast
  cases htask : mine.edits[index]? with
  | none => exact ⟨hmine, hother⟩
  | some task =>
      obtain ⟨happlied, hheard, hunheard⟩ :=
        hmine.edits task (List.mem_of_getElem? htask)
      dsimp only
      split
      · next hready =>
          split
          · next hlisted =>
              have hsent : EndSound lawful resourceId connectionId mine
                  (other.post [task.message resourceId]) :=
                hmine.other (.rfl lawful _) fun edit hreaches => hreaches.post _
              have hmessages : ∀ message ∈ [task.message resourceId],
                  ∃ peer, peer ≤ content lawful other.buffers ∧
                    Faithful lawful resourceId peer mine.buffers message := by
                intro message hmessage
                obtain rfl := List.mem_singleton.mp hmessage
                exact ⟨_, le_rfl, rfl⟩
              refine ⟨hsent.changeEdits fun edit hedit => ?_,
                (hother.post hmessages).other (.rfl lawful _) fun _ => id⟩
              rcases List.mem_or_eq_of_mem_set hedit with hold | rfl
              · exact hsent.edits edit hold
              · refine ⟨happlied, fun _ => .inr (.inl ?_), by simp⟩
                exact List.mem_append_right _ (List.mem_singleton_self _)
          · next hlisted =>
              refine ⟨hmine.changeEdits fun edit hedit => ?_,
                hother.other (.rfl lawful _) fun _ => id⟩
              rcases List.mem_or_eq_of_mem_set hedit with hold | rfl
              · exact hmine.edits edit hold
              · exact ⟨happlied, by simp, fun _ => hincluded task htask hready.1 hready.2 hlisted⟩
      · exact ⟨hmine, hother⟩

theorem EndSound.receive {other : LiveEnd yrs}
    (hmine : EndSound lawful resourceId connectionId mine other) (index : Nat) :
    EndSound lawful resourceId connectionId (mine.receive connectionId index) other := by
  unfold LiveEnd.receive
  split
  · next message hidle hmessage =>
      obtain ⟨peer, hpeer, hfaithful⟩ :=
        hmine.inbox message (List.mem_of_getElem? hmessage)
      obtain ⟨arriving, hsourced, hfollows⟩ :=
        receive_follows lawful connectionId hfaithful
      refine { hmine with
        inbox := fun other hother => hmine.inbox other (List.mem_of_mem_eraseIdx hother)
        handling := fun taken left hhandling => ?_ }
      cases hhandling
      exact ⟨peer, other.buffers, arriving, mine.buffers, hpeer, .rfl lawful _, hsourced,
        refl_of _ _, receive_succeeds _, hfollows _ hmine.note⟩
  · exact hmine

theorem Reaches.receive {edit : EditTask} (hreaches : Reaches lawful resourceId mine edit)
    (index : Nat) : Reaches lawful resourceId (mine.receive connectionId index) edit := by
  unfold LiveEnd.receive
  split
  · next message hidle hmessage =>
      rcases hreaches with hin | hsent | ⟨left, hhandled⟩
      · exact .inl hin
      · obtain ⟨position, hposition⟩ := List.mem_iff_getElem?.mp hsent
        by_cases hindex : position = index
        · obtain rfl : message = edit.message resourceId := by
            rw [hindex, hmessage] at hposition
            exact Option.some.inj hposition
          exact .inr (.inr ⟨_, rfl⟩)
        · exact .inr (.inl (List.mem_eraseIdx_iff_getElem?.mpr
            ⟨position, hindex, hposition⟩))
      · rw [hidle] at hhandled
        cases hhandled
  · exact hreaches

theorem EndSound.other_receive {other : LiveEnd yrs}
    (hother : EndSound lawful resourceId otherId other mine) (index : Nat) :
    EndSound lawful resourceId otherId other (mine.receive connectionId index) := by
  have hbuffers : (mine.receive connectionId index).buffers = mine.buffers := by
    unfold LiveEnd.receive
    split <;> rfl
  refine hother.other ?_ fun edit hreaches => hreaches.receive index
  rw [hbuffers]
  exact .rfl lawful _

theorem EndSound.handle {other : LiveEnd yrs}
    (hmine : EndSound lawful resourceId connectionId mine other)
    (hother : EndSound lawful resourceId otherId other mine)
    (hcompared : ∀ edit ∈ mine.edits, edit.broadcast = some false → ∀ doc,
      (edit.selection, doc) ∈ (mine.handle other).1.buffers.compared →
      (edit.selection, doc) ∉ mine.buffers.compared →
        lawful.meaning edit.update ≤ lawful.state doc) :
    EndSound lawful resourceId connectionId (mine.handle other).1 (mine.handle other).2 ∧
      EndSound lawful resourceId otherId (mine.handle other).2
        (mine.handle other).1 := by
  unfold LiveEnd.handle at hcompared ⊢
  cases hhandling : mine.handling with
  | none => exact ⟨hmine, hother⟩
  | some handled =>
      obtain ⟨message, left⟩ := handled
      obtain ⟨peer, sender, arriving, since, hpeer, hsender, hsourced, hsince, hsucceeds,
        hfollows⟩ := hmine.handling message left hhandling
      rw [hhandling] at hcompared
      cases hfollows with
      | step hnext hrest =>
          have hadvances := hnext mine.buffers hsince trivial
          have hnextLeft := hrest mine.buffers hsince trivial
          cases hsucceeds with
          | step hsucceeds =>
              refine ⟨hmine.grow hadvances ?_ ?_ fun edit hedit => ?_,
                hother.other hadvances.grows fun edit hreaches => ?_⟩
              · exact hsourced.linked hsender (hpeer.trans hadvances.content)
              · intro taken after hafter
                cases hafter
                exact ⟨peer, sender, arriving, _, hpeer.trans hadvances.content, hsender,
                  hsourced, refl_of _ _, hsucceeds _, hnextLeft⟩
              · exact (hmine.edits edit hedit).grow hadvances.grows
                  (hcompared edit hedit)
              · refine hreaches.grow hadvances.grows rfl fun taken after hafter => ?_
                rw [hhandling] at hafter
                cases hafter
                exact ⟨_, rfl⟩
      | ok hanswered =>
          obtain ⟨htaken, hanswers⟩ := hanswered.mono hsince.grows
          have hidle : EndSound lawful resourceId connectionId
              { mine with handling := none } other :=
            { hmine with handling := fun _ _ hnone => by cases hnone }
          have hposted := hother.post fun answer hanswer =>
            ⟨_, hsender.content, hanswers answer hanswer⟩
          refine ⟨hidle.other (.rfl lawful _) fun edit hreaches => hreaches.post _,
            hposted.other (.rfl lawful _) fun edit hreaches => ?_⟩
          rcases hreaches with hin | hsent | ⟨left, hhandled⟩
          · exact .inl hin
          · exact .inr (.inl hsent)
          · rw [hhandling] at hhandled
            cases hhandled
            exact .inl htaken
      | error => cases hsucceeds

variable (lawful) in
/-- An update that is broadcast while the other end is not listed is one of an
exchanged document, and it was applied before that document was, or will be,
compared for the other end. -/
def Timely (connectionId : Peer → String) (event : SessionEvent)
    (session session' : LiveSession yrs) : Prop :=
  match event with
  | .broadcast peer index => ∀ edit, (session peer).edits[index]? = some edit →
      edit.spawned → edit.broadcast = none →
      connectionId peer ∉ (session peer).buffers.activeConnections →
        Included lawful edit (session peer).buffers
  | .handle peer => ∀ edit ∈ (session peer).edits, edit.broadcast = some false →
      ∀ doc, (edit.selection, doc) ∈ (session' peer).buffers.compared →
      (edit.selection, doc) ∉ (session peer).buffers.compared →
        lawful.meaning edit.update ≤ lawful.state doc
  | .edit _ _ _ _ | .spawn _ _ | .apply _ _ | .receive _ _ => True

variable (lawful) in
def Sound (resourceId : String) (connectionId : Peer → String)
    (session : LiveSession yrs) : Prop :=
  ∀ peer, EndSound lawful resourceId (connectionId peer) (session peer)
    (session peer.other)

theorem sound_withEnds {connectionId : Peer → String} {peer : Peer}
    {ends : LiveEnd yrs × LiveEnd yrs}
    (hfirst : EndSound lawful resourceId (connectionId peer) ends.1 ends.2)
    (hsecond : EndSound lawful resourceId (connectionId peer.other) ends.2 ends.1) :
    Sound lawful resourceId connectionId (LiveSession.withEnds peer ends) := by
  intro which
  rcases which.eq_or_eq_other peer with rfl | rfl
  · simpa using hfirst
  · simpa using hsecond

theorem sound_step {connectionId : Peer → String} {event : SessionEvent}
    {session : LiveSession yrs} (hsound : Sound lawful resourceId connectionId session)
    (htimely : Timely lawful connectionId event session
      (LiveSession.step resourceId connectionId event session)) :
    Sound lawful resourceId connectionId
      (LiveSession.step resourceId connectionId event session) := by
  have hother : ∀ peer : Peer, EndSound lawful resourceId (connectionId peer.other)
      (session peer.other) (session peer) := fun peer => by
    simpa using hsound peer.other
  cases event with
  | edit peer update docType clientId =>
      exact sound_withEnds ((hsound peer).edit update docType clientId)
        ((hother peer).other_edit update docType clientId)
  | spawn peer index =>
      exact sound_withEnds ((hsound peer).spawn index) ((hother peer).other_spawn index)
  | apply peer index =>
      exact sound_withEnds ((hsound peer).apply index) ((hother peer).other_apply index)
  | broadcast peer index =>
      obtain ⟨hfirst, hsecond⟩ := (hsound peer).broadcast (hother peer) index htimely
      exact sound_withEnds hfirst hsecond
  | receive peer index =>
      exact sound_withEnds ((hsound peer).receive index)
        ((hother peer).other_receive index)
  | handle peer =>
      have hcompared := htimely
      simp only [Timely, LiveSession.step, LiveSession.withEnds_self] at hcompared
      obtain ⟨hfirst, hsecond⟩ := (hsound peer).handle (hother peer) hcompared
      exact sound_withEnds hfirst hsecond

structure Joining (resourceId : String) (connectionId : Peer → String)
    (buffers : Peer → Buffers yrs) : Prop where
  note : ∀ peer, (buffers peer).noteId = some resourceId
  unlisted : ∀ peer, connectionId peer ∉ (buffers peer).activeConnections

theorem sound_start {connectionId : Peer → String} {buffers : Peer → Buffers yrs}
    (hjoining : Joining resourceId connectionId buffers) :
    Sound lawful resourceId connectionId (LiveSession.start resourceId buffers) := by
  intro peer
  have hidle : ∀ inbox, (∀ message ∈ inbox, message = .documentCheck resourceId) →
      EndSound lawful resourceId (connectionId peer)
        { buffers := buffers peer, inbox } (LiveSession.start resourceId buffers peer.other) := by
    intro inbox hinbox
    refine ⟨hjoining.note peer, fun message hmessage => ?_, fun _ _ hnone => ?_,
      fun hlisted => absurd hlisted (hjoining.unlisted peer), fun edit hedit => ?_⟩
    · obtain rfl := hinbox message hmessage
      exact ⟨_, le_rfl, rfl⟩
    · cases hnone
    · cases hedit
  cases peer with
  | initiator => exact hidle [] (by simp)
  | responder => exact hidle [.documentCheck resourceId] (by simp)

def afterSession (resourceId : String) (connectionId : Peer → String)
    (buffers : Peer → Buffers yrs) (events : List SessionEvent) : LiveSession yrs :=
  run (LiveSession.step resourceId connectionId)
    (LiveSession.start resourceId buffers) events

theorem sound_run {connectionId : Peer → String} {buffers : Peer → Buffers yrs}
    {events : List SessionEvent} (hjoining : Joining resourceId connectionId buffers)
    (htimely : ∀ earlier event, earlier ++ [event] <+: events →
      Timely lawful connectionId event
        (afterSession resourceId connectionId buffers earlier)
        (afterSession resourceId connectionId buffers (earlier ++ [event]))) :
    Sound lawful resourceId connectionId
      (afterSession resourceId connectionId buffers events) := by
  refine @run_invariant _ _ (LiveSession.step resourceId connectionId)
    (LiveSession.start resourceId buffers) events
    (fun _ session => Sound lawful resourceId connectionId session)
    (sound_start hjoining) ?_ events List.prefix_rfl
  intro earlier event hearlier hsound
  have hevent := htimely earlier event hearlier
  unfold afterSession at hevent
  rw [run_concat] at hevent
  exact sound_step hsound hevent

theorem EndSound.settled {other : LiveEnd yrs}
    (hmine : EndSound lawful resourceId connectionId mine other)
    (hlinked : Linked lawful other.buffers mine.buffers) (hinbox : other.inbox = [])
    (hhandling : other.handling = none) {edit : EditTask} (hedit : edit ∈ mine.edits)
    (happlied : edit.applied) (hbroadcast : edit.broadcast ≠ none) :
    lawful.meaning edit.update ≤ content lawful mine.buffers edit.selection ∧
      lawful.meaning edit.update ≤ content lawful other.buffers edit.selection := by
  have hsound := hmine.edits edit hedit
  refine ⟨hsound.applied happlied, ?_⟩
  obtain ⟨heard, hheard⟩ := Option.ne_none_iff_exists'.mp hbroadcast
  cases heard with
  | true =>
      rcases hsound.heard hheard with hin | hsent | ⟨left, hhandled⟩
      · exact hin
      · simp [hinbox] at hsent
      · simp [hhandling] at hhandled
  | false =>
      obtain ⟨hselection, hincluded⟩ := hsound.unheard hheard
      have hexchanged : edit.selection ∈ DocSelection.exchanged := by
        cases hsome : edit.selection <;> simp_all [DocSelection.exchanged]
      obtain ⟨doc, hmem, hdoc⟩ := hlinked edit.selection hexchanged
      exact (hincluded doc hmem).trans (WithBot.coe_le_coe.mpr hdoc)

/-- In a session whose updates are all timely, when both ends list each other
and all messages and tasks are done, every update is in both ends' documents. -/
theorem live_session_leaves_no_gap {yrs : Yrs} (lawful : ExactYrs yrs L)
    (resourceId : String) (connectionId : Peer → String) (buffers : Peer → Buffers yrs)
    (events : List SessionEvent) (hjoining : Joining resourceId connectionId buffers)
    (htimely : ∀ earlier event, earlier ++ [event] <+: events →
      Timely lawful connectionId event
        (afterSession resourceId connectionId buffers earlier)
        (afterSession resourceId connectionId buffers (earlier ++ [event]))) :
    let session := afterSession resourceId connectionId buffers events
    (∀ peer, connectionId peer ∈ (session peer).buffers.activeConnections) →
    LiveSession.Settled session →
    ∀ peer, ∀ edit ∈ (session peer).edits, ∀ which,
      lawful.meaning edit.update ≤
        content lawful (session which).buffers edit.selection := by
  intro session hlisted hsettled peer edit hedit which
  have hsound : Sound lawful resourceId connectionId session := sound_run hjoining htimely
  have hlinked : Linked lawful (session peer.other).buffers (session peer).buffers := by
    simpa using (hsound peer.other).listed (hlisted peer.other)
  obtain ⟨_, _, hdone⟩ := hsettled peer
  obtain ⟨hinbox, hhandling, _⟩ := hsettled peer.other
  obtain ⟨happlied, hbroadcast⟩ := hdone edit hedit
  have hboth := (hsound peer).settled hlinked hinbox hhandling hedit happlied hbroadcast
  rcases which.eq_or_eq_other peer with rfl | rfl
  · exact hboth.1
  · exact hboth.2

def AllHeard (session : LiveSession yrs) : Prop :=
  ∀ peer, ∀ edit ∈ (session peer).edits, edit.broadcast ≠ some false

theorem timely_of_allHeard {connectionId : Peer → String} {event : SessionEvent}
    {session : LiveSession yrs} (hbefore : AllHeard session)
    (hafter : AllHeard (LiveSession.step resourceId connectionId event session)) :
    Timely lawful connectionId event session
      (LiveSession.step resourceId connectionId event session) := by
  cases event with
  | broadcast peer index =>
      intro edit hedit hspawned hbroadcast hunlisted
      have hlt := (List.getElem?_eq_some_iff.mp hedit).1
      refine absurd rfl (hafter peer { edit with broadcast := some false } ?_)
      simp only [LiveSession.step, LiveSession.withEnds_self, LiveEnd.broadcast, hedit,
        hspawned, hbroadcast, and_self, if_true, hunlisted, if_false]
      exact List.mem_set hlt _
  | handle peer =>
      intro edit hedit hunheard
      exact absurd hunheard (hbefore peer edit hedit)
  | edit | spawn | apply | receive => trivial

def sessionIds : Peer → String
  | .initiator => "phone"
  | .responder => "laptop"

def handled (peer : Peer) (steps : Nat) : List SessionEvent :=
  .receive peer 0 :: List.replicate steps (.handle peer)

def typed (peer : Peer) : List SessionEvent :=
  [.edit peer [1] "main_doc" 7, .spawn peer 0, .apply peer 0, .broadcast peer 0]

def lateEdit : List SessionEvent :=
  handled .responder 6 ++ handled .initiator 8 ++ typed .initiator ++
    handled .responder 10 ++ handled .initiator 6

def afterLateEdit : LiveSession Yrs.bits :=
  afterSession "note" sessionIds (fun _ => openNote 0 0) lateEdit

theorem late_edit_left_out :
    ¬ ∀ events, let session :=
        afterSession "note" sessionIds (fun _ => openNote 0 0) events
      (∀ peer, sessionIds peer ∈ (session peer).buffers.activeConnections) →
      LiveSession.Settled session →
      ∀ peer, ∀ edit ∈ (session peer).edits, ∀ which,
        Yrs.exactBits.meaning edit.update ≤
          content Yrs.exactBits (session which).buffers edit.selection := by
  intro hall
  have hlisted : ∀ peer,
      sessionIds peer ∈ (afterLateEdit peer).buffers.activeConnections := by
    intro peer
    cases peer <;> decide +kernel
  have hsettled : LiveSession.Settled afterLateEdit := by
    intro peer
    refine ⟨List.isEmpty_iff.mp ?_, Option.isNone_iff_eq_none.mp ?_, ?_⟩ <;>
      cases peer <;> decide +kernel
  have hmem : { update := [1], docType := "main_doc", clientId := 7, spawned := true
                applied := true, broadcast := some false } ∈
      (afterLateEdit .initiator).edits := by
    decide +kernel
  have hin := hall lateEdit hlisted hsettled .initiator _ hmem .responder
  exact absurd (WithBot.coe_le_coe.mp hin 0) (by decide +kernel)

def heardEdit : List SessionEvent :=
  handled .responder 6 ++ handled .initiator 8 ++ handled .responder 10 ++
    handled .initiator 6 ++ typed .initiator ++ handled .responder 6

theorem heardEdit_allHeard {earlier : List SessionEvent} (hearlier : earlier <+: heardEdit) :
    AllHeard (afterSession "note" sessionIds (fun _ => openNote 0 0) earlier) := by
  have hall : (heardEdit.inits.all fun earlier => [Peer.initiator, .responder].all
      fun peer => (afterSession "note" sessionIds (fun _ => openNote 0 0) earlier
        peer).edits.all fun edit => edit.broadcast ≠ some false) = true := by
    decide +kernel
  simp only [List.all_eq_true, List.mem_inits, decide_eq_true_eq] at hall
  exact fun peer => hall earlier hearlier peer (by cases peer <;> simp)

theorem live_session_leaves_no_gap_heardEdit :
    let session := afterSession "note" sessionIds (fun _ => openNote 0 0) heardEdit
    (∀ peer, sessionIds peer ∈ (session peer).buffers.activeConnections) ∧
      LiveSession.Settled session ∧
      ∀ peer, ∀ edit ∈ (session peer).edits, ∀ which,
        Yrs.exactBits.meaning edit.update ≤
          content Yrs.exactBits (session which).buffers edit.selection := by
  intro session
  have hlisted : ∀ peer, sessionIds peer ∈ (session peer).buffers.activeConnections := by
    intro peer
    cases peer <;> decide +kernel
  have hsettled : LiveSession.Settled session := by
    intro peer
    refine ⟨List.isEmpty_iff.mp ?_, Option.isNone_iff_eq_none.mp ?_, ?_⟩ <;>
      cases peer <;> decide +kernel
  have hjoining : Joining "note" sessionIds fun _ => openNote 0 0 :=
    ⟨fun _ => rfl, fun _ => by simp [openNote]⟩
  refine ⟨hlisted, hsettled, live_session_leaves_no_gap Yrs.exactBits "note" sessionIds
    (fun _ => openNote 0 0) heardEdit hjoining ?_ hlisted hsettled⟩
  intro earlier event hearlier
  have hbefore := heardEdit_allHeard ((List.prefix_append earlier [event]).trans hearlier)
  have hafter := heardEdit_allHeard hearlier
  unfold afterSession at hafter hbefore ⊢
  rw [run_concat] at hafter ⊢
  exact timely_of_allHeard hbefore hafter

end Osvauld.Livnote
