import Mathlib.Data.List.Perm.Basic
import Osvauld.Core.DocumentContent
import Osvauld.Data.Base64
import Osvauld.Data.Run

namespace Osvauld.TypescriptPort

open Osvauld.Core Data

/-! `P2PSyncManager` on two peers of one connection. Sending takes time, and what
is in flight is delivered in any order. -/

inductive MessageType
  | syncRequest
  | syncResponse
  | update
  | offer
  | answer
  | iceCandidate
  | ping
  | pong
deriving DecidableEq

structure P2PMessage where
  type : MessageType
  payload : String

inductive Side
  | left
  | right
deriving DecidableEq

def Side.partner : Side → Side
  | left => right
  | right => left

structure SyncState (yrs : Yrs) where
  ydoc : Side → yrs.Doc
  /-- How often the connection has been added: it is one of the `peers`, and each
  time its messages have got one more listener. -/
  listeners : Side → Nat
  updateHandlers : Side → Nat
  inFlight : List (Side × P2PMessage)
  /-- The sides on which `handleSyncRequest` still sends its response. -/
  answering : List Side
  messagesSent : Nat

variable {yrs : Yrs}

namespace SyncState

def init (docs : Side → yrs.Doc) : SyncState yrs :=
  { ydoc := docs
    listeners := fun _ => 0
    updateHandlers := fun _ => 0
    inFlight := []
    answering := []
    messagesSent := 0 }

def setDoc (side : Side) (doc : yrs.Doc) (state : SyncState yrs) : SyncState yrs :=
  { state with ydoc := Function.update state.ydoc side doc }

def send (side : Side) (type : MessageType) (payload : Bytes)
    (state : SyncState yrs) : SyncState yrs :=
  { state with
    inFlight := state.inFlight ++ [(side.partner, ⟨type, Base64.encode payload⟩)]
    messagesSent := state.messagesSent + 1 }

def sendInitialSync (side : Side) (state : SyncState yrs) : SyncState yrs :=
  state.send side .syncRequest (yrs.stateVector (state.ydoc side))

def addPeer (side : Side) (state : SyncState yrs) : SyncState yrs :=
  sendInitialSync side
    { state with
      listeners := Function.update state.listeners side (state.listeners side + 1) }

def startSync (side : Side) (state : SyncState yrs) : SyncState yrs :=
  { state with
    updateHandlers :=
      Function.update state.updateHandlers side (state.updateHandlers side + 1) }

/-- Up to the end of the first `await`: nothing is sent when the state vector
cannot be read. -/
def handleSyncRequest (side : Side) (stateVector : Bytes)
    (state : SyncState yrs) : SyncState yrs :=
  match yrs.diff (state.ydoc side) stateVector with
  | .error _ => state
  | .ok missingUpdates =>
      let state := state.send side .syncResponse missingUpdates
      { state with answering := state.answering ++ [side] }

/-- The rest of `handleSyncRequest`, once the response is sent. -/
def requestUpdates (index : Nat) (state : SyncState yrs) : SyncState yrs :=
  match state.answering[index]? with
  | none => state
  | some side =>
      send side .syncRequest (yrs.stateVector (state.ydoc side))
        { state with answering := state.answering.eraseIdx index }

/-- `Y.applyUpdate` with the origin `'peer'`: nothing is broadcast, and an error
is caught by `handleMessage`. -/
def applyPeerUpdate (side : Side) (update : Bytes) (state : SyncState yrs) :
    SyncState yrs :=
  match yrs.applyUpdate (state.ydoc side) update with
  | .error _ => state
  | .ok doc => state.setDoc side doc

def handleSyncResponse (side : Side) (updates : Bytes) (state : SyncState yrs) :
    SyncState yrs :=
  if updates.isEmpty then state else state.applyPeerUpdate side updates

def handleUpdate (side : Side) (update : Bytes) (state : SyncState yrs) :
    SyncState yrs :=
  state.applyPeerUpdate side update

def handleMessage (side : Side) (message : P2PMessage) (state : SyncState yrs) :
    SyncState yrs :=
  match Base64.decode message.payload with
  | .error _ => state
  | .ok payload =>
      match message.type with
      | .syncRequest => state.handleSyncRequest side payload
      | .syncResponse => state.handleSyncResponse side payload
      | .update => state.handleUpdate side payload
      | _ => state

def deliver (index : Nat) (state : SyncState yrs) : SyncState yrs :=
  match state.inFlight[index]? with
  | none => state
  | some (side, message) =>
      (handleMessage side message)^[state.listeners side]
        { state with inFlight := state.inFlight.eraseIdx index }

def broadcastUpdate (side : Side) (update : Bytes) (state : SyncState yrs) :
    SyncState yrs :=
  if 0 < state.listeners side then state.send side .update update else state

def edit (side : Side) (update : Bytes) (state : SyncState yrs) : SyncState yrs :=
  match yrs.applyUpdate (state.ydoc side) update with
  | .error _ => state
  | .ok doc =>
      (broadcastUpdate side update)^[state.updateHandlers side] (state.setDoc side doc)

end SyncState

inductive SyncEvent
  | addPeer (side : Side)
  | startSync (side : Side)
  | deliver (index : Nat)
  | requestUpdates (index : Nat)
  | edit (side : Side) (update : Bytes)

def SyncState.step : SyncEvent → SyncState yrs → SyncState yrs
  | .addPeer side => SyncState.addPeer side
  | .startSync side => SyncState.startSync side
  | .deliver index => SyncState.deliver index
  | .requestUpdates index => SyncState.requestUpdates index
  | .edit side update => SyncState.edit side update

namespace SyncState

/-- The requests on their way, and those that `handleSyncRequest` is still to make. -/
def openRequests (state : SyncState yrs) : Nat :=
  state.inFlight.countP (fun entry => entry.2.type = .syncRequest) + state.answering.length

def CarriesVectors (state : SyncState yrs) : Prop :=
  ∀ entry ∈ state.inFlight, entry.2.type = .syncRequest →
    ∃ doc, entry.2.payload = Base64.encode (yrs.stateVector doc)

structure Extends (before after : SyncState yrs) : Prop where
  listeners : after.listeners = before.listeners
  openRequests : before.openRequests ≤ after.openRequests
  sent : after.inFlight.length + before.messagesSent ≤
    before.inFlight.length + after.messagesSent
  sent_le : before.messagesSent ≤ after.messagesSent
  vectors : before.CarriesVectors → after.CarriesVectors

variable (side : Side) (state : SyncState yrs)

theorem Extends.refl : Extends state state :=
  ⟨rfl, le_rfl, le_rfl, le_rfl, id⟩

theorem Extends.trans {first second third : SyncState yrs}
    (hfirst : Extends first second) (hsecond : Extends second third) :
    Extends first third where
  listeners := hsecond.listeners.trans hfirst.listeners
  openRequests := hfirst.openRequests.trans hsecond.openRequests
  sent := by
    have := hfirst.sent
    have := hsecond.sent
    omega
  sent_le := hfirst.sent_le.trans hsecond.sent_le
  vectors := fun hvectors => hsecond.vectors (hfirst.vectors hvectors)

theorem Extends.iterate {handle : SyncState yrs → SyncState yrs}
    (hhandle : ∀ state, Extends state (handle state)) (state : SyncState yrs) (times : Nat) :
    Extends state (handle^[times] state) := by
  induction times generalizing state with
  | zero => exact .refl state
  | succ times ih =>
      rw [Function.iterate_succ_apply]
      exact (hhandle state).trans (ih _)

theorem extends_setDoc (doc : yrs.Doc) (state : SyncState yrs) :
    Extends state (state.setDoc side doc) :=
  ⟨rfl, le_rfl, le_rfl, le_rfl, id⟩

theorem openRequests_send (type : MessageType) (payload : Bytes) (state : SyncState yrs) :
    (state.send side type payload).openRequests =
      state.openRequests + if type = .syncRequest then 1 else 0 := by
  by_cases htype : type = .syncRequest
  · simp [openRequests, send, htype]
    omega
  · simp [openRequests, send, htype]

theorem extends_send {side : Side} {type : MessageType} {payload : Bytes}
    (hpayload : type = .syncRequest → ∃ doc, payload = yrs.stateVector doc)
    (state : SyncState yrs) : Extends state (state.send side type payload) where
  listeners := rfl
  openRequests := by
    rw [openRequests_send]
    exact Nat.le_add_right _ _
  sent := by
    simp only [send, List.length_append, List.length_singleton]
    omega
  sent_le := Nat.le_succ _
  vectors := by
    intro hvectors entry hentry hrequest
    rcases List.mem_append.mp hentry with hold | hnew
    · exact hvectors entry hold hrequest
    · obtain rfl := List.mem_singleton.mp hnew
      obtain ⟨doc, rfl⟩ := hpayload hrequest
      exact ⟨doc, rfl⟩

theorem extends_handleSyncRequest (stateVector : Bytes) (state : SyncState yrs) :
    Extends state (state.handleSyncRequest side stateVector) := by
  unfold handleSyncRequest
  cases yrs.diff (state.ydoc side) stateVector with
  | error message => exact .refl state
  | ok missingUpdates =>
      have hsent : Extends state (state.send side .syncResponse missingUpdates) :=
        extends_send (fun hrequest => by cases hrequest) state
      refine hsent.trans ⟨rfl, ?_, le_rfl, le_rfl, id⟩
      simp only [openRequests, List.length_append]
      omega

theorem openRequests_handleSyncRequest {side : Side} {stateVector missingUpdates : Bytes}
    {state : SyncState yrs}
    (hdiff : yrs.diff (state.ydoc side) stateVector = .ok missingUpdates) :
    (state.handleSyncRequest side stateVector).openRequests = state.openRequests + 1 ∧
      (state.handleSyncRequest side stateVector).messagesSent = state.messagesSent + 1 := by
  simp only [handleSyncRequest, hdiff]
  refine ⟨?_, rfl⟩
  simp [openRequests, send]
  omega

theorem extends_applyPeerUpdate (update : Bytes) (state : SyncState yrs) :
    Extends state (state.applyPeerUpdate side update) := by
  unfold applyPeerUpdate
  cases yrs.applyUpdate (state.ydoc side) update with
  | error message => exact .refl state
  | ok doc => exact extends_setDoc side doc state

theorem extends_handleMessage (message : P2PMessage) (state : SyncState yrs) :
    Extends state (state.handleMessage side message) := by
  unfold handleMessage
  cases Base64.decode message.payload with
  | error error => exact .refl state
  | ok payload =>
      cases message.type with
      | syncRequest => exact extends_handleSyncRequest side payload state
      | syncResponse =>
          dsimp only
          unfold handleSyncResponse
          split
          · exact .refl state
          · exact extends_applyPeerUpdate side payload state
      | update => exact extends_applyPeerUpdate side payload state
      | _ => exact .refl state

theorem extends_broadcastUpdate (update : Bytes) (state : SyncState yrs) :
    Extends state (state.broadcastUpdate side update) := by
  unfold broadcastUpdate
  split
  · exact extends_send (fun hrequest => by cases hrequest) state
  · exact .refl state

theorem extends_edit (update : Bytes) (state : SyncState yrs) :
    Extends state (state.edit side update) := by
  unfold edit
  cases yrs.applyUpdate (state.ydoc side) update with
  | error message => exact .refl state
  | ok doc =>
      exact (extends_setDoc side doc state).trans
        (.iterate (extends_broadcastUpdate side update) _ _)

theorem openRequests_erase {index : Nat} {entry : Side × P2PMessage} {state : SyncState yrs}
    (hentry : state.inFlight[index]? = some entry) :
    state.openRequests =
      openRequests { state with inFlight := state.inFlight.eraseIdx index } +
        if entry.2.type = .syncRequest then 1 else 0 := by
  obtain ⟨hlt, rfl⟩ := List.getElem?_eq_some_iff.mp hentry
  have hperm := List.getElem_cons_eraseIdx_perm hlt
  simp only [openRequests, ← hperm.countP_eq, List.countP_cons, decide_eq_true_eq]
  omega

theorem CarriesVectors.erase {state : SyncState yrs} (hvectors : state.CarriesVectors)
    (index : Nat) :
    CarriesVectors { state with inFlight := state.inFlight.eraseIdx index } :=
  fun entry hentry => hvectors entry (List.mem_of_mem_eraseIdx hentry)

/-- As soon as both peers listen there is a request that one of them has yet to
answer or to make. -/
structure Talks (state : SyncState yrs) : Prop where
  vectors : state.CarriesVectors
  sent : state.inFlight.length ≤ state.messagesSent
  openRequests : (∀ side, 0 < state.listeners side) → 0 < state.openRequests

theorem Talks.extends {before after : SyncState yrs} (htalks : Talks before)
    (hextends : Extends before after) : Talks after where
  vectors := hextends.vectors htalks.vectors
  sent := by
    have := hextends.sent
    have := htalks.sent
    omega
  openRequests := by
    intro hlisten
    rw [hextends.listeners] at hlisten
    exact (htalks.openRequests hlisten).trans_le hextends.openRequests

variable {L : Type*} [SemilatticeSup L] [OrderBot L]

theorem answers_request (lawful : ExactYrs yrs L) {side : Side} {message : P2PMessage}
    {state : SyncState yrs} (hrequest : message.type = .syncRequest)
    (hvector : ∃ doc, message.payload = Base64.encode (yrs.stateVector doc)) :
    (state.handleMessage side message).openRequests = state.openRequests + 1 ∧
      (state.handleMessage side message).messagesSent = state.messagesSent + 1 := by
  obtain ⟨doc, hpayload⟩ := hvector
  obtain ⟨missingUpdates, _, hdiff, -⟩ := lawful.diff_stateVector (state.ydoc side) doc
  have hhandle : state.handleMessage side message =
      state.handleSyncRequest side (yrs.stateVector doc) := by
    simp only [handleMessage, hpayload, Base64.decode_encode, hrequest]
  rw [hhandle]
  exact openRequests_handleSyncRequest hdiff

theorem deliver_request (lawful : ExactYrs yrs L) {index : Nat} {side : Side}
    {message : P2PMessage} {state : SyncState yrs} (hvectors : state.CarriesVectors)
    (hentry : state.inFlight[index]? = some (side, message))
    (hrequest : message.type = .syncRequest) (hlisten : 0 < state.listeners side) :
    state.openRequests ≤ (state.deliver index).openRequests ∧
      state.messagesSent < (state.deliver index).messagesSent := by
  obtain ⟨times, htimes⟩ := Nat.exists_eq_add_one_of_ne_zero hlisten.ne'
  obtain ⟨hopen, hsent⟩ := @answers_request _ _ _ _ lawful side message
    { state with inFlight := state.inFlight.eraseIdx index } hrequest
    (hvectors (side, message) (List.mem_of_getElem? hentry) hrequest)
  have hrest := Extends.iterate (extends_handleMessage side message)
    (handleMessage side message
      { state with inFlight := state.inFlight.eraseIdx index }) times
  simp only [deliver, hentry, htimes, Function.iterate_succ_apply]
  have herase := openRequests_erase hentry
  rw [if_pos hrequest] at herase
  refine ⟨?_, ?_⟩
  · have := hrest.openRequests
    omega
  · have := hrest.sent_le
    dsimp only at hsent
    omega

theorem Talks.deliver (lawful : ExactYrs yrs L) {state : SyncState yrs}
    (htalks : Talks state) (index : Nat) : Talks (state.deliver index) := by
  cases hentry : state.inFlight[index]? with
  | none =>
      simp only [SyncState.deliver, hentry]
      exact htalks
  | some entry =>
      obtain ⟨side, message⟩ := entry
      have hrest := Extends.iterate (extends_handleMessage side message)
        { state with inFlight := state.inFlight.eraseIdx index } (state.listeners side)
      have hdeliver : state.deliver index = (handleMessage side message)^[state.listeners side]
          { state with inFlight := state.inFlight.eraseIdx index } := by
        simp only [SyncState.deliver, hentry]
      rw [← hdeliver] at hrest
      refine ⟨hrest.vectors (htalks.vectors.erase index), ?_, fun hlisten => ?_⟩
      · have hsent := hrest.sent
        have hbefore := htalks.sent
        have hlength := List.length_eraseIdx_le state.inFlight index
        dsimp only at hsent
        omega
      rw [hrest.listeners] at hlisten
      have hopen := htalks.openRequests hlisten
      by_cases hrequest : message.type = .syncRequest
      · exact hopen.trans_le
          (deliver_request lawful htalks.vectors hentry hrequest (hlisten side)).1
      · have herase := openRequests_erase hentry
        rw [if_neg hrequest] at herase
        have := hrest.openRequests
        omega

theorem Talks.addPeer {state : SyncState yrs} (htalks : Talks state) (side : Side) :
    Talks (state.addPeer side) where
  vectors := by
    have hvectors : CarriesVectors { state with
        listeners := Function.update state.listeners side (state.listeners side + 1) } :=
      htalks.vectors
    exact (extends_send (fun _ => ⟨_, rfl⟩) _).vectors hvectors
  sent := by
    have := htalks.sent
    simp only [SyncState.addPeer, sendInitialSync, send, List.length_append,
      List.length_singleton]
    omega
  openRequests := by
    intro _
    unfold SyncState.addPeer sendInitialSync
    rw [openRequests_send, if_pos rfl]
    exact Nat.succ_pos _

theorem extends_requestUpdates (index : Nat) (state : SyncState yrs) :
    Extends state (state.requestUpdates index) := by
  unfold requestUpdates
  cases hside : state.answering[index]? with
  | none => exact .refl state
  | some side =>
      obtain ⟨hlt, -⟩ := List.getElem?_eq_some_iff.mp hside
      have hlength := List.length_eraseIdx_of_lt hlt
      have hsent : Extends
          { state with answering := state.answering.eraseIdx index }
          (send side .syncRequest (yrs.stateVector (state.ydoc side))
            { state with answering := state.answering.eraseIdx index }) :=
        extends_send (fun _ => ⟨_, rfl⟩) _
      refine ⟨rfl, ?_, hsent.sent, hsent.sent_le, hsent.vectors⟩
      dsimp only
      rw [openRequests_send, if_pos rfl]
      simp only [openRequests, hlength]
      omega

theorem Talks.step (lawful : ExactYrs yrs L) {state : SyncState yrs} (htalks : Talks state)
    (event : SyncEvent) : Talks (SyncState.step event state) := by
  cases event with
  | addPeer side => exact htalks.addPeer side
  | startSync side => exact htalks.extends ⟨rfl, le_rfl, le_rfl, le_rfl, id⟩
  | deliver index => exact htalks.deliver lawful index
  | requestUpdates index => exact htalks.extends (extends_requestUpdates index state)
  | edit side update => exact htalks.extends (extends_edit side update state)

theorem talks_init (docs : Side → yrs.Doc) : Talks (init docs) where
  vectors := by
    intro entry hentry
    cases hentry
  sent := le_rfl
  openRequests := by
    intro hlisten
    exact absurd (hlisten .left) (Nat.lt_irrefl 0)

theorem talks_run (lawful : ExactYrs yrs L) (docs : Side → yrs.Doc)
    (events : List SyncEvent) : Talks (run SyncState.step (init docs) events) := by
  induction events using List.reverseRecOn with
  | nil => exact talks_init docs
  | append_singleton earlier event ih =>
      rw [run_concat]
      exact ih.step lawful event

def Quiet (state : SyncState yrs) : Prop :=
  state.inFlight = [] ∧ state.answering = []

theorem openRequests_of_quiet {state : SyncState yrs} (hquiet : state.Quiet) :
    state.openRequests = 0 := by
  simp [openRequests, hquiet.1, hquiet.2]

def Takes (state : SyncState yrs) : SyncEvent → Prop
  | .deliver index => index < state.inFlight.length
  | .requestUpdates index => index < state.answering.length
  | _ => False

def Exchange (state : SyncState yrs) (events : List SyncEvent) : Prop :=
  ∀ earlier event, earlier ++ [event] <+: events →
    (run SyncState.step state earlier).Takes event

theorem Exchange.concat {state : SyncState yrs} {events : List SyncEvent} {event : SyncEvent}
    (hexchange : Exchange state events)
    (htakes : (run SyncState.step state events).Takes event) :
    Exchange state (events ++ [event]) := by
  intro earlier other hearlier
  rcases List.prefix_concat_iff.mp hearlier with heq | hbefore
  · obtain ⟨rfl, hother⟩ := List.append_inj' heq rfl
    cases hother
    exact htakes
  · exact hexchange earlier other hbefore

theorem exists_takes {state : SyncState yrs} (hloud : ¬ state.Quiet) :
    ∃ event, state.Takes event := by
  rcases List.eq_nil_or_concat state.inFlight with hempty | ⟨_, _, hfull⟩
  · rcases List.eq_nil_or_concat state.answering with hdone | ⟨_, _, hbusy⟩
    · exact absurd ⟨hempty, hdone⟩ hloud
    · exact ⟨.requestUpdates 0, by simp [Takes, hbusy]⟩
  · exact ⟨.deliver 0, by simp [Takes, hfull]⟩

theorem length_step {state : SyncState yrs} {event : SyncEvent}
    (htakes : state.Takes event) :
    (SyncState.step event state).inFlight.length + 2 * state.messagesSent + 1 ≤
      state.inFlight.length + 2 * (SyncState.step event state).messagesSent := by
  cases event with
  | deliver index =>
      have hget := List.getElem?_eq_getElem htakes
      have hlength := List.length_eraseIdx_of_lt htakes
      have hrest := Extends.iterate
        (extends_handleMessage state.inFlight[index].1 state.inFlight[index].2)
        { state with inFlight := state.inFlight.eraseIdx index }
        (state.listeners state.inFlight[index].1)
      have hsent := hrest.sent
      have hle := hrest.sent_le
      simp only [SyncState.step, deliver, hget]
      dsimp only at hsent hle
      have hpos : 0 < state.inFlight.length := Nat.zero_lt_of_lt htakes
      omega
  | requestUpdates index =>
      have hget := List.getElem?_eq_getElem htakes
      simp only [SyncState.step, requestUpdates, hget, send, List.length_append,
        List.length_singleton]
      omega
  | _ => exact htakes.elim

theorem length_exchange {state : SyncState yrs} {events : List SyncEvent}
    (hexchange : Exchange state events)
    (hstart : state.inFlight.length ≤ 2 * state.messagesSent) :
    (run SyncState.step state events).inFlight.length + events.length ≤
      2 * (run SyncState.step state events).messagesSent := by
  induction events using List.reverseRecOn with
  | nil => exact hstart
  | append_singleton earlier event ih =>
      have hbefore := ih fun before other hother =>
        hexchange before other (hother.trans (List.prefix_append _ _))
      have hlast := length_step (hexchange earlier event List.prefix_rfl)
      rw [run_concat, List.length_append, List.length_singleton]
      omega

/-- What is expected of the exchange: it sends only so many messages, and comes to
an end with both documents equal. -/
structure Quiesces (state : SyncState yrs) : Prop where
  bounded : ∃ bound, ∀ events, Exchange state events →
    (run SyncState.step state events).messagesSent ≤ bound
  ends : ∃ events, Exchange state events ∧ (run SyncState.step state events).Quiet ∧
    (run SyncState.step state events).ydoc .left =
      (run SyncState.step state events).ydoc .right

theorem run_append (events more : List SyncEvent) :
    run SyncState.step state (events ++ more) =
      run SyncState.step (run SyncState.step state events) more := by
  simp [run, List.foldl_append]

theorem not_quiet_of_talks {state : SyncState yrs} (htalks : Talks state)
    (hlisten : ∀ side, 0 < state.listeners side) : ¬ state.Quiet := by
  intro hquiet
  have hopen := htalks.openRequests hlisten
  rw [openRequests_of_quiet hquiet] at hopen
  exact Nat.lt_irrefl 0 hopen

theorem listeners_step (event : SyncEvent) (side : Side) :
    state.listeners side ≤ (SyncState.step event state).listeners side := by
  cases event with
  | addPeer other =>
      simp only [SyncState.step, addPeer, sendInitialSync, send, Function.update_apply]
      split
      · next hside =>
          rw [hside]
          exact Nat.le_succ _
      · exact le_rfl
  | startSync other => exact le_rfl
  | deliver index =>
      simp only [SyncState.step, deliver]
      split
      · exact le_rfl
      · next other message _ =>
          have hrest := Extends.iterate (extends_handleMessage other message)
            { state with inFlight := state.inFlight.eraseIdx index } (state.listeners other)
          exact (congrFun hrest.listeners side).ge
  | requestUpdates index => exact (congrFun (extends_requestUpdates index state).listeners side).ge
  | edit other update => exact (congrFun (extends_edit other update state).listeners side).ge

theorem listeners_run (events : List SyncEvent) (side : Side) :
    state.listeners side ≤ (run SyncState.step state events).listeners side := by
  induction events using List.reverseRecOn with
  | nil => exact le_rfl
  | append_singleton earlier event ih =>
      rw [run_concat]
      exact ih.trans (listeners_step _ event side)

variable {docs : Side → yrs.Doc} {events : List SyncEvent}

theorem never_quiet (lawful : ExactYrs yrs L)
    (hlisten : ∀ side, 0 < (run SyncState.step (init docs) events).listeners side)
    (more : List SyncEvent) :
    ¬ (run SyncState.step (run SyncState.step (init docs) events) more).Quiet := by
  have htalks := talks_run lawful docs (events ++ more)
  rw [run_append] at htalks
  exact not_quiet_of_talks htalks fun side => (hlisten side).trans_le (listeners_run _ more side)

theorem exists_exchange (lawful : ExactYrs yrs L)
    (hlisten : ∀ side, 0 < (run SyncState.step (init docs) events).listeners side)
    (length : Nat) : ∃ more, more.length = length ∧
      Exchange (run SyncState.step (init docs) events) more := by
  induction length with
  | zero => exact ⟨[], rfl, fun earlier event hpre => by simp at hpre⟩
  | succ length ih =>
      obtain ⟨more, hlength, hexchange⟩ := ih
      obtain ⟨event, htakes⟩ := exists_takes (never_quiet lawful hlisten more)
      exact ⟨more ++ [event], by simp [hlength], hexchange.concat htakes⟩

theorem length_le_sent (lawful : ExactYrs yrs L) {more : List SyncEvent}
    (hexchange : Exchange (run SyncState.step (init docs) events) more) :
    more.length ≤
      2 * (run SyncState.step (run SyncState.step (init docs) events) more).messagesSent := by
  have hsent := (talks_run lawful docs events).sent
  have := length_exchange hexchange (by omega)
  omega

theorem exists_messagesSent (lawful : ExactYrs yrs L)
    (hlisten : ∀ side, 0 < (run SyncState.step (init docs) events).listeners side)
    (bound : Nat) : ∃ more, Exchange (run SyncState.step (init docs) events) more ∧
      bound < (run SyncState.step (run SyncState.step (init docs) events) more).messagesSent := by
  obtain ⟨more, hlength, hexchange⟩ := exists_exchange lawful hlisten (2 * bound + 1)
  have := length_le_sent lawful hexchange
  exact ⟨more, hexchange, by omega⟩

end SyncState

open SyncState

/-- Every request is answered by a request of the other peer: whatever the two
documents are, and in whatever order the messages arrive, the exchange never ends,
and of any two steps that are taken one sends a message. -/
theorem sync_never_quiesces {L : Type*} [SemilatticeSup L] [OrderBot L]
    (lawful : ExactYrs yrs L) (docs : Side → yrs.Doc) (events : List SyncEvent)
    (hadded : ∀ side, 0 < (run SyncState.step (init docs) events).listeners side) :
    ¬ (run SyncState.step (init docs) events).Quiesces ∧
      (∀ bound, ∃ more, Exchange (run SyncState.step (init docs) events) more ∧
        bound <
          (run SyncState.step (run SyncState.step (init docs) events) more).messagesSent) ∧
      ∀ more, Exchange (run SyncState.step (init docs) events) more →
        ¬ (run SyncState.step (run SyncState.step (init docs) events) more).Quiet ∧
          more.length ≤ 2 *
            (run SyncState.step (run SyncState.step (init docs) events) more).messagesSent := by
  refine ⟨fun hquiesces => ?_, exists_messagesSent lawful hadded, fun more hexchange =>
    ⟨never_quiet lawful hadded more, length_le_sent lawful hexchange⟩⟩
  obtain ⟨more, -, hquiet, -⟩ := hquiesces.ends
  exact never_quiet lawful hadded more hquiet

def bothAdded : List SyncEvent := [.addPeer .left, .addPeer .right]

def emptyDocs : Side → Yrs.bits.Doc := fun _ => Yrs.bits.new

theorem bothAdded_listeners (side : Side) :
    0 < (run SyncState.step (init emptyDocs) bothAdded).listeners side := by
  cases side <;> decide

theorem sync_never_quiesces_emptyDocs :
    (∀ side, 0 < (run SyncState.step (init emptyDocs) bothAdded).listeners side) ∧
      ¬ (run SyncState.step (init emptyDocs) bothAdded).Quiesces :=
  ⟨bothAdded_listeners,
    (sync_never_quiesces Yrs.exactBits emptyDocs bothAdded bothAdded_listeners).1⟩

/-- With nothing to exchange, both peers still have messages on their way. -/
theorem not_quiesces_emptyDocs :
    ¬ (run SyncState.step (init emptyDocs) bothAdded).Quiesces := by
  intro hquiesces
  obtain ⟨more, -, hquiet, -⟩ := hquiesces.ends
  exact never_quiet Yrs.exactBits bothAdded_listeners more hquiet

end Osvauld.TypescriptPort
