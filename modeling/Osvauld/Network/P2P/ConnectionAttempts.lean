import Osvauld.Network.P2P.ConnectionActions

namespace Osvauld.Network

open Osvauld.Core Data
open ConnectionManager

/-! One connection for each id: while an attempt is in progress or a connection is
established, the id is reported active, and no second attempt is begun. -/

section Steps

variable (connectionId : String) (index : Nat) (pool : ManagerPool)

def Marks : Prop :=
  connectionId ∉ pool.state.manager.connecting ∧
    connectionId ∈ (Pool.advance index pool).state.manager.connecting

def Unmarks : Prop :=
  connectionId ∈ pool.state.manager.connecting ∧
    connectionId ∉ (Pool.advance index pool).state.manager.connecting

def Establishes : Prop :=
  ∃ task next rest, pool.running[index]? = some task ∧ task.left = .step next rest ∧
    ∀ state, ((next state).manager.connections connectionId).isSome

def AsksNext : Prop :=
  ∃ task, pool.running[index]? = some task ∧ task.left = task.call.body ∧
    task.call.Asks connectionId

end Steps

section Runs

variable (connectionId : String) (start : P2PState) (events : List (PoolEvent ManagerCall))

/-- The call has marked the id as connecting, and since then has neither established
a connection nor come to its end. -/
def InProgress (index : Nat) : Prop :=
  (∃ before after, events = before ++ .advance index :: after ∧
    Marks connectionId index (afterManagerCalls start before) ∧
      ∀ between, between ++ [.advance index] <+: after →
        ¬ Establishes connectionId index
          (afterManagerCalls start (before ++ .advance index :: between))) ∧
    ∀ task result, (afterManagerCalls start events).running[index]? = some task →
      task.left ≠ .done result

/-- The call has taken the mark away with its last step, and is to establish the
connection with its next. -/
def BetweenLocks (index : Nat) : Prop :=
  (∃ before after, events = before ++ .advance index :: after ∧ .advance index ∉ after ∧
    Unmarks connectionId index (afterManagerCalls start before)) ∧
    Establishes connectionId index (afterManagerCalls start events)

def Taken : Prop :=
  (∃ index, InProgress connectionId start events index) ∨
    connectionId ∈ (afterManagerCalls start events).state.manager.connecting ∨
      ((afterManagerCalls start events).state.manager.connections connectionId).isSome

def OneAttempt : Prop :=
  ∀ first second, InProgress connectionId start events first →
    InProgress connectionId start events second → first = second

def ReportsActive (index : Nat) : Prop :=
  AsksNext connectionId index (afterManagerCalls start events) →
    Taken connectionId start events →
      ((isConnectionActive connectionId : Program ConnectionManager P2PServiceError Bool).run
        (afterManagerCalls start events).state.manager).1 = .ok true

/-- The next step of the call takes no mark away but that of its own attempt, and
while another call is between the locks it neither marks the id nor asks for it,
unless an older connection is still there to be found. -/
structure Undisturbed (index : Nat) : Prop where
  ownMark : Unmarks connectionId index (afterManagerCalls start events) →
    ∀ other, InProgress connectionId start events other → other = index
  betweenLocks : ∀ other, BetweenLocks connectionId start events other →
    ¬ Marks connectionId index (afterManagerCalls start events) ∧
      (AsksNext connectionId index (afterManagerCalls start events) →
        ((afterManagerCalls start events).state.manager.connections connectionId).isSome)

end Runs

inductive Phase where
  | outside
  | marked
  | betweenLocks

/-- The steps that are left mark the id at most once, and each mark is followed by
the two steps of `insertConnection`, or taken away by the last step. -/
inductive Dials {α : Type} (connectionId : String) : Phase → P2PCall α → Prop
  | done : phase ≠ .betweenLocks → Dials connectionId phase (.done result)
  | outside :
      (∀ state, connectionId ∈ (next state).manager.connecting →
        connectionId ∈ state.manager.connecting) →
      (∀ state, Dials connectionId .outside (rest state)) →
      Dials connectionId .outside (.step next rest)
  | enter :
      (∀ state, connectionId ∈ (next state).manager.connecting) →
      (∀ state, connectionId ∈ state.manager.connecting →
        Dials connectionId .outside (rest state)) →
      (∀ state, connectionId ∉ state.manager.connecting →
        Dials connectionId .marked (rest state)) →
      Dials connectionId .outside (.step next rest)
  | wait :
      (∀ state, connectionId ∈ state.manager.connecting →
        connectionId ∈ (next state).manager.connecting) →
      (∀ state, Dials connectionId .marked (rest state)) →
      Dials connectionId .marked (.step next rest)
  | withdraw :
      (∀ state, connectionId ∉ (next state).manager.connecting) →
      (∀ state, ∃ result, rest state = .done result) →
      Dials connectionId .marked (.step next rest)
  | leave :
      (∀ state, connectionId ∉ (next state).manager.connecting) →
      (∀ state, Dials connectionId .betweenLocks (rest state)) →
      Dials connectionId .marked (.step next rest)
  | establish :
      (∀ state, ((next state).manager.connections connectionId).isSome) →
      (∀ state, connectionId ∈ (next state).manager.connecting →
        connectionId ∈ state.manager.connecting) →
      (∀ state, Dials connectionId .outside (rest state)) →
      Dials connectionId .betweenLocks (.step next rest)

def MarksNot (connectionId : String) (state later : P2PState) : Prop :=
  connectionId ∈ later.manager.connecting → connectionId ∈ state.manager.connecting

def KeepsMark (connectionId : String) (state later : P2PState) : Prop :=
  connectionId ∈ state.manager.connecting → connectionId ∈ later.manager.connecting

section Programs

variable {connectionId : String} {α β : Type}

theorem Dials.of_marksNot {program : P2PCall α}
    (hprogram : Program.Guarantees (MarksNot connectionId) program) :
    Dials connectionId .outside program := by
  induction hprogram with
  | done => exact .done (by simp)
  | step hnext _ ih => exact .outside hnext ih

theorem Dials.marked_bind {program : P2PCall α} {continuation : α → P2PCall β}
    (hprogram : Program.Guarantees (KeepsMark connectionId) program)
    (hcontinuation : ∀ value, Dials connectionId .marked (continuation value)) :
    Dials connectionId .marked (program >>= continuation) := by
  change Dials connectionId .marked (program.bind continuation)
  induction hprogram with
  | @done result =>
      cases result with
      | ok value => exact hcontinuation value
      | error error => exact .done (by simp)
  | step hnext _ ih => exact .wait hnext ih

theorem SameManager.marksNot {program : P2PCall α}
    (hprogram : Program.Guarantees SameManager program) :
    Program.Guarantees (MarksNot connectionId) program := by
  refine hprogram.mono fun state later hsame hmarked => ?_
  rw [← hsame]
  exact hmarked

theorem onManager_marksNot {ε : Type} {program : Program ConnectionManager ε α}
    (hprogram : Program.Guarantees (fun manager later =>
      connectionId ∈ later.connecting → connectionId ∈ manager.connecting) program) :
    Program.Guarantees (MarksNot connectionId) (onManager program) :=
  .zoom (fun _ _ hinner => hinner) hprogram

theorem onManager_keepsMark {ε : Type} {program : Program ConnectionManager ε α}
    (hprogram : Program.Guarantees (fun manager later =>
      connectionId ∈ manager.connecting → connectionId ∈ later.connecting) program) :
    Program.Guarantees (KeepsMark connectionId) (onManager program) :=
  .zoom (fun _ _ hinner => hinner) hprogram

end Programs

section Service

variable {env : P2PServiceEnv} {connectionId : String} {conn : Connection}
variable {isInitiator : Bool} {connectionType : Option ConnectionType}
variable {action : Option ConnectionAction}

theorem handshake_sameManager (env : NetworkEnv) (number : Nat) (user : User)
    (device : Device) (isInitiator : Bool) (connectionType : Option ConnectionType)
    (action : Option ConnectionAction) :
    Program.Guarantees SameManager (do
      if isInitiator then
        match connectionType, action with
        | none, _ =>
            Program.fail (.configuration "Connection type must be specified for initiator")
        | some _, none =>
            Program.fail (.configuration "Connection action must be specified for initiator")
        | some connectionType, some _ =>
            onPeer number (initiateHandshake env connectionType user device)
      return number) := by
  cases isInitiator with
  | false => exact .pure _
  | true =>
      cases connectionType with
      | none => exact .done
      | some connectionType =>
          cases action with
          | none => exact .done
          | some action => exact .bind (onPeer_sameManager _ _) fun _ => .pure _

theorem insertConnection_erases (connectionId peerNodeId : String) (number : Nat) :
    Program.Guarantees (fun manager later =>
        connectionId ∈ later.connecting → connectionId ∈ manager.connecting)
      (insertConnection peerNodeId number) :=
  .bind (.atomically fun _ => Finset.mem_of_mem_erase) fun _ => .atomically fun _ => id

theorem insertConnection_keeps {connectionId peerNodeId : String}
    (hpeer : connectionId ≠ peerNodeId) (number : Nat) :
    Program.Guarantees (fun manager later =>
        connectionId ∈ manager.connecting → connectionId ∈ later.connecting)
      (insertConnection peerNodeId number) :=
  .bind (.atomically fun _ => Finset.mem_erase_of_ne_of_mem hpeer) fun _ => .atomically fun _ => id

theorem performHandshakeAndCreatePeer_guarantees {relation : P2PState → P2PState → Prop}
    (hsame : ∀ state later, SameManager state later → relation state later)
    (hinsert : ∀ peerNodeId number, conn.remoteNodeId = .ok peerNodeId →
      Program.Guarantees relation (onManager (insertConnection peerNodeId number)))
    (hpending : ∀ peerNodeId, Program.Guarantees relation
      (onManager (getAndClearPendingLiveEditRequests peerNodeId) : P2PCall Bool)) :
    Program.Guarantees relation
      (performHandshakeAndCreatePeer env conn isInitiator connectionType action) := by
  unfold performHandshakeAndCreatePeer getCurrentDevice getCurrentUser
  cases env.currentDevice with
  | none => exact .done
  | some device =>
      cases env.currentUser with
      | none => exact .done
      | some user =>
          cases hconn : conn.remoteNodeId with
          | error message => exact .done
          | ok peerNodeId =>
              change Program.Guarantees relation (onManager _ >>= _)
              refine .bind (hpending peerNodeId) fun isLiveEdit => ?_
              refine .bind (.atomically fun _ => hsame _ _ rfl) fun number => ?_
              refine .bind (.mapError _ (hinsert peerNodeId number hconn)) fun _ => ?_
              exact (handshake_sameManager env.toNetworkEnv number user device isInitiator
                connectionType action).mono hsame

theorem performHandshakeAndCreatePeer_marksNot (connectionId : String) :
    Program.Guarantees (MarksNot connectionId)
      (performHandshakeAndCreatePeer env conn isInitiator connectionType action) := by
  refine performHandshakeAndCreatePeer_guarantees ?_ ?_ ?_
  · intro state later hsame hmarked
    rw [← hsame]
    exact hmarked
  · exact fun _ _ _ => onManager_marksNot (insertConnection_erases _ _ _)
  · exact fun _ => onManager_marksNot (.atomically fun _ => id)

theorem performHandshakeAndCreatePeer_keepsMark (hpeer : conn.remoteNodeId ≠ .ok connectionId) :
    Program.Guarantees (KeepsMark connectionId)
      (performHandshakeAndCreatePeer env conn isInitiator connectionType action) := by
  refine performHandshakeAndCreatePeer_guarantees ?_ ?_ ?_
  · intro state later hsame hmarked
    rw [hsame]
    exact hmarked
  · intro peerNodeId number hconn
    refine onManager_keepsMark (insertConnection_keeps ?_ number)
    rintro rfl
    exact hpeer hconn
  · exact fun _ => onManager_keepsMark (.atomically fun _ => id)

theorem withdraws (connectionId : String) (error : P2PServiceError) :
    Dials connectionId .marked (do
      onManager (removeFromConnecting connectionId)
      Program.fail error : P2PCall (Option Nat)) :=
  .withdraw (fun _ => Finset.notMem_erase _ _) fun _ => ⟨_, rfl⟩

theorem connected_dials (conn : Connection) (connType : ConnectionType)
    (action : Option ConnectionAction) :
    Dials connectionId .marked (do
      match ← (performHandshakeAndCreatePeer env conn true (some connType) action).attempt with
      | .ok peerConnection => return some peerConnection
      | .error error =>
          onManager (removeFromConnecting connectionId)
          Program.fail error : P2PCall (Option Nat)) := by
  by_cases hpeer : conn.remoteNodeId = .ok connectionId
  · unfold performHandshakeAndCreatePeer getCurrentDevice getCurrentUser
    rw [hpeer]
    cases env.currentDevice with
    | none => exact withdraws connectionId _
    | some device =>
        cases env.currentUser with
        | none => exact withdraws connectionId _
        | some user =>
            -- the pending request, the new connection, and the two locks
            refine .wait (fun _ => id) fun state => ?_
            refine .wait (fun _ => id) fun state' => ?_
            refine .leave (fun _ => Finset.notMem_erase _ _) fun _ => ?_
            refine .establish (fun _ => by simp) (fun _ => id) fun _ => ?_
            have hrest := handshake_sameManager env.toNetworkEnv state'.opened user device true
              (some connType) action
            refine .of_marksNot (.bind (.attempt (SameManager.marksNot hrest)) fun result => ?_)
            cases result with
            | ok peerConnection => exact .pure _
            | error error =>
                exact .bind (onManager_marksNot (.atomically fun _ => Finset.mem_of_mem_erase))
                  fun _ => .done
  · refine .marked_bind (.attempt (performHandshakeAndCreatePeer_keepsMark hpeer))
      fun result => ?_
    cases result with
    | ok peerConnection => exact .done (by simp)
    | error error => exact withdraws connectionId error

theorem connectToEndpoint_dials (connType : ConnectionType) (action : Option ConnectionAction) :
    Dials connectionId .marked (connectToEndpoint env connectionId connType action) := by
  unfold connectToEndpoint
  cases env.connect connectionId with
  | error reason => exact withdraws connectionId _
  | ok conn => exact connected_dials conn connType action

theorem removeFromConnecting_marksNot (connectionId nodeId : String) :
    Program.Guarantees (MarksNot connectionId)
      (onManager (removeFromConnecting nodeId) : P2PCall PUnit) :=
  onManager_marksNot (.atomically fun _ => Finset.mem_of_mem_erase)

theorem connectToEndpoint_marksNot (connectionId nodeId : String) (connType : ConnectionType)
    (action : Option ConnectionAction) :
    Program.Guarantees (MarksNot connectionId) (connectToEndpoint env nodeId connType action) := by
  unfold connectToEndpoint
  cases env.connect nodeId with
  | error reason => exact .bind (removeFromConnecting_marksNot _ _) fun _ => .done
  | ok conn =>
      refine .bind (.attempt (performHandshakeAndCreatePeer_marksNot connectionId)) fun result => ?_
      cases result with
      | ok peerConnection => exact .pure _
      | error error => exact .bind (removeFromConnecting_marksNot _ _) fun _ => .done

theorem enterAndConnect_dials (nodeId : String) (connType : ConnectionType)
    (action : Option ConnectionAction) :
    Dials connectionId .outside (enterAndConnect env nodeId connType action) := by
  rw [enterAndConnect_eq]
  by_cases hnode : nodeId = connectionId
  · subst hnode
    refine .enter (fun state => ?_) (fun state hmarked => ?_) fun state hfree => ?_
    · by_cases hmarked : nodeId ∈ state.manager.connecting <;> simp [hmarked]
    · rw [if_pos hmarked]
      exact .done (by simp)
    · rw [if_neg hfree]
      exact connectToEndpoint_dials connType action
  · refine .outside (fun state hlater => ?_) fun state => ?_
    · by_cases hmarked : nodeId ∈ state.manager.connecting
      · rwa [if_pos hmarked] at hlater
      · rw [if_neg hmarked] at hlater
        exact (Finset.mem_insert.mp hlater).resolve_left fun heq => hnode heq.symm
    · split
      · exact .done (by simp)
      · exact .of_marksNot (connectToEndpoint_marksNot _ _ _ _)

theorem useActiveConnection_marksNot (nodeId : String) (action : Option ConnectionAction) :
    Program.Guarantees (MarksNot connectionId)
      (useActiveConnection env nodeId action) := by
  refine .bind (.attempt (onManager_marksNot (.read (fun _ => id) _))) fun result => ?_
  cases result with
  | error message => exact .bind (onManager_marksNot (.atomically fun _ => id)) fun _ => .pure _
  | ok existingConnection =>
      cases action with
      | none => exact .pure _
      | some action =>
          exact .bind (SameManager.marksNot (askExisting_sameManager _ _ _ _)) fun _ => .pure _

theorem connectWithTicket_dials (deviceOrNodeId : String) (connType : ConnectionType)
    (action : Option ConnectionAction) :
    Dials connectionId .outside (connectWithTicket env deviceOrNodeId connType action) := by
  unfold connectWithTicket
  cases nodeOfTicket env deviceOrNodeId with
  | error error => exact .done (by simp)
  | ok nodeId =>
      refine .outside (fun _ => id) fun state => ?_
      change Dials connectionId .outside (if _ then _ else _)
      split
      · exact .of_marksNot (useActiveConnection_marksNot nodeId action)
      · rw [openConnection_eq]
        refine .outside (fun _ => id) fun state => ?_
        split
        · exact .done (by simp)
        · exact enterAndConnect_dials nodeId connType action

theorem dropConnection_marksNot (nodeId : String) :
    Program.Guarantees (MarksNot connectionId) (dropConnection nodeId) := by
  refine .bind (.attempt (onManager_marksNot (.write (fun _ => id) fun manager later hdrop => ?_)))
    fun _ => .pure _
  split at hdrop
  · cases hdrop
    exact id
  · cases hdrop

theorem ManagerCall.body_dials (connectionId : String) (call : ManagerCall) :
    Dials connectionId .outside call.body := by
  cases call with
  | isConnectionActive asked =>
      exact .of_marksNot (.bind (onManager_marksNot (.read (fun _ => id) _)) fun _ => .pure _)
  | connectWithTicket env deviceOrNodeId connType action =>
      exact connectWithTicket_dials deviceOrNodeId connType action
  | performHandshakeAndCreatePeer env conn =>
      exact .of_marksNot (.bind (performHandshakeAndCreatePeer_marksNot connectionId)
        fun _ => .pure _)
  | removeConnection nodeId => exact .of_marksNot (dropConnection_marksNot nodeId)
  | cleanup connection =>
      exact .of_marksNot (.bind (.read (fun _ => id) _) fun nodeId => dropConnection_marksNot nodeId)

end Service

theorem Pool.advance_running_ne {Call : Type w'} {σ : Type u} {ε : Type v} {α : Type w}
    {pool : Pool Call σ ε α} {index other : Nat} (hother : other ≠ index) :
    (Pool.advance index pool).running[other]? = pool.running[other]? := by
  obtain hsame | ⟨_, _, _, _, _, hadvance⟩ := Pool.advance_cases index pool
  · rw [hsame]
  · rw [hadvance, List.getElem?_set_ne hother.symm]

section Tracking

variable {connectionId : String} {start : P2PState} {earlier : List (PoolEvent ManagerCall)}
variable {event : PoolEvent ManagerCall} {index : Nat}

theorem inProgress_concat
    (hprogress : InProgress connectionId start (earlier ++ [event]) index) :
    event = .advance index ∧ Marks connectionId index (afterManagerCalls start earlier) ∨
      InProgress connectionId start earlier index ∧ (event = .advance index →
        ¬ Establishes connectionId index (afterManagerCalls start earlier)) := by
  obtain ⟨⟨before, after, hevents, hmarks, hnone⟩, hgoing⟩ := hprogress
  rcases List.eq_nil_or_concat' after with rfl | ⟨after, last, rfl⟩
  · obtain ⟨rfl, hlast⟩ := List.append_inj' hevents rfl
    cases hlast
    exact .inl ⟨rfl, hmarks⟩
  · rw [← List.cons_append, ← List.append_assoc] at hevents
    obtain ⟨rfl, hlast⟩ := List.append_inj' hevents rfl
    cases hlast
    refine .inr ⟨⟨⟨before, after, rfl, hmarks, fun between hbetween => ?_⟩, ?_⟩, ?_⟩
    · exact hnone between (hbetween.trans (List.prefix_append after [event]))
    · intro task result htask hdone
      refine hgoing task result ?_ hdone
      rw [afterManagerCalls, run_concat]
      exact Pool.step_running_done _ htask hdone
    · rintro rfl
      exact hnone after List.prefix_rfl

theorem betweenLocks_concat (hlocks : BetweenLocks connectionId start earlier index)
    (hother : event ≠ .advance index)
    (hsame : ∀ task, (afterManagerCalls start earlier).running[index]? = some task →
      (afterManagerCalls start (earlier ++ [event])).running[index]? = some task) :
    BetweenLocks connectionId start (earlier ++ [event]) index := by
  obtain ⟨⟨before, after, rfl, hafter, hunmarks⟩, task, next, rest, htask, hleft, hconnection⟩ :=
    hlocks
  refine ⟨⟨before, after ++ [event], by simp, ?_, hunmarks⟩, task, next, rest, hsame task htask,
    hleft, hconnection⟩
  rw [List.mem_append, List.mem_singleton]
  rintro (hadvance | rfl)
  · exact hafter hadvance
  · exact hother rfl

/-- The calls have such steps left, and the attempts in progress hold the mark or are
between the locks; there is only one. -/
structure Tracked (connectionId : String) (start : P2PState)
    (events : List (PoolEvent ManagerCall)) : Prop where
  dials : ∀ task ∈ (afterManagerCalls start events).running,
    ∃ phase, Dials connectionId phase task.left
  attempts : ∀ index, InProgress connectionId start events index →
    ∃ task, (afterManagerCalls start events).running[index]? = some task ∧
      (Dials connectionId .marked task.left ∧
          connectionId ∈ (afterManagerCalls start events).state.manager.connecting ∨
        BetweenLocks connectionId start events index)
  single : OneAttempt connectionId start events

theorem Tracked.nil : Tracked connectionId start [] where
  dials := fun _ htask => by cases htask
  attempts := fun _ ⟨⟨_, _, hevents, _⟩, _⟩ => by simp at hevents
  single := fun _ _ ⟨⟨_, _, hevents, _⟩, _⟩ => by simp at hevents

theorem Tracked.started (htracked : Tracked connectionId start earlier) (call : ManagerCall) :
    Tracked connectionId start (earlier ++ [.start call]) := by
  have hbefore {index : Nat} (hprogress : InProgress connectionId start
      (earlier ++ [.start call]) index) : InProgress connectionId start earlier index := by
    obtain ⟨hevent, _⟩ | ⟨hprogress, _⟩ := inProgress_concat hprogress
    · cases hevent
    · exact hprogress
  have hrunning : (afterManagerCalls start (earlier ++ [.start call])).running =
      (afterManagerCalls start earlier).running ++
        [⟨call, call.body, (afterManagerCalls start earlier).state⟩] := by
    rw [afterManagerCalls, run_concat]
    rfl
  have hstate : (afterManagerCalls start (earlier ++ [.start call])).state =
      (afterManagerCalls start earlier).state := by
    rw [afterManagerCalls, run_concat]
    rfl
  have hold {index : Nat} {task : Running _ _ _ _} (htask : (afterManagerCalls start earlier).running[index]? =
      some task) : (afterManagerCalls start (earlier ++ [.start call])).running[index]? =
        some task := by
    rw [hrunning, List.getElem?_append_left (List.getElem?_eq_some_iff.mp htask).1]
    exact htask
  refine ⟨fun task htask => ?_, fun index hprogress => ?_, fun first second hfirst hsecond =>
    htracked.single first second (hbefore hfirst) (hbefore hsecond)⟩
  · rw [hrunning] at htask
    rcases List.mem_append.mp htask with hmem | hmem
    · exact htracked.dials task hmem
    · obtain rfl := List.mem_singleton.mp hmem
      exact ⟨.outside, call.body_dials connectionId⟩
  · obtain ⟨task, htask, hmarked | hlocks⟩ := htracked.attempts index (hbefore hprogress)
    · refine ⟨task, hold htask, .inl ?_⟩
      rw [hstate]
      exact hmarked
    · exact ⟨task, hold htask, .inr (betweenLocks_concat hlocks (by simp) fun _ => hold)⟩

section

variable {phase : Phase} {next : P2PState → P2PState} {rest : P2PState → P2PCall (Option Nat)}
  (hdials : Dials connectionId phase (.step next rest))

include hdials

theorem Dials.after (state : P2PState) : ∃ phase, Dials connectionId phase (rest state) := by
  cases hdials with
  | outside hnext hrest => exact ⟨_, hrest state⟩
  | enter hnext hmarked hfree =>
      by_cases hconnecting : connectionId ∈ state.manager.connecting
      · exact ⟨_, hmarked state hconnecting⟩
      · exact ⟨_, hfree state hconnecting⟩
  | wait hnext hrest => exact ⟨_, hrest state⟩
  | withdraw hnext hrest =>
      obtain ⟨result, hdone⟩ := hrest state
      rw [hdone]
      exact ⟨.outside, .done (by simp)⟩
  | leave hnext hrest => exact ⟨_, hrest state⟩
  | establish hconnection hnext hrest => exact ⟨_, hrest state⟩

theorem Dials.marked_after {state : P2PState} (hfree : connectionId ∉ state.manager.connecting)
    (hmarked : connectionId ∈ (next state).manager.connecting) :
    Dials connectionId .marked (rest state) := by
  cases hdials with
  | outside hnext hrest => exact absurd (hnext state hmarked) hfree
  | enter hnext _ hrest => exact hrest state hfree
  | wait hnext hrest => exact hrest state
  | withdraw hnext hrest => exact absurd hmarked (hnext state)
  | leave hnext hrest => exact absurd hmarked (hnext state)
  | establish hconnection hnext hrest => exact absurd (hnext state hmarked) hfree

end

theorem Tracked.attempt_advanced (htracked : Tracked connectionId start earlier)
    (hprogress : InProgress connectionId start (earlier ++ [.advance index]) index) :
    ∃ task, (afterManagerCalls start (earlier ++ [.advance index])).running[index]? = some task ∧
      (Dials connectionId .marked task.left ∧ connectionId ∈
          (afterManagerCalls start (earlier ++ [.advance index])).state.manager.connecting ∨
        BetweenLocks connectionId start (earlier ++ [.advance index]) index) := by
  have hgoing := hprogress.2
  have hrun : afterManagerCalls start (earlier ++ [.advance index]) =
      Pool.advance index (afterManagerCalls start earlier) := run_concat _ _
  rw [hrun] at hgoing
  obtain hsame | ⟨task, next, rest, htask, hleft, hadvance⟩ :=
    Pool.advance_cases index (afterManagerCalls start earlier)
  · obtain ⟨-, hmarks⟩ | ⟨hprogress, hnone⟩ := inProgress_concat hprogress
    · rw [Marks, hsame] at hmarks
      exact absurd hmarks.2 hmarks.1
    · obtain ⟨task, htask, hmarked | hlocks⟩ := htracked.attempts index hprogress
      · rw [hrun, hsame]
        exact ⟨task, htask, .inl hmarked⟩
      · exact absurd hlocks.2 (hnone rfl)
  · have hafter : (Pool.advance index (afterManagerCalls start earlier)).running[index]? =
        some { task with
          left := rest (afterManagerCalls start earlier).state
          since := next (afterManagerCalls start earlier).state } := by
      rw [hadvance, List.getElem?_set_self (List.getElem?_eq_some_iff.mp htask).1]
    rw [hrun]
    refine ⟨_, hafter, ?_⟩
    obtain ⟨-, hmarks⟩ | ⟨hprogress, hnone⟩ := inProgress_concat hprogress
    · refine .inl ⟨?_, hmarks.2⟩
      obtain ⟨phase, hdials⟩ := htracked.dials task (List.mem_of_getElem? htask)
      rw [hleft] at hdials
      rw [Marks, hadvance] at hmarks
      exact hdials.marked_after hmarks.1 hmarks.2
    · obtain ⟨found, hfound, ⟨hdials, hmarked⟩ | hlocks⟩ := htracked.attempts index hprogress
      · obtain rfl : task = found := Option.some.inj (htask.symm.trans hfound)
        rw [hleft] at hdials
        cases hdials with
        | wait hnext hrest =>
            refine .inl ⟨hrest _, ?_⟩
            rw [hadvance]
            exact hnext _ hmarked
        | withdraw hnext hrest =>
            obtain ⟨result, hdone⟩ := hrest (afterManagerCalls start earlier).state
            exact absurd hdone (hgoing _ result hafter)
        | leave hnext hrest =>
            have hlast := hrest (afterManagerCalls start earlier).state
            refine .inr ⟨⟨earlier, [], rfl, by simp, hmarked, ?_⟩, ?_⟩
            · rw [hadvance]
              exact hnext _
            · cases hleft' : rest (afterManagerCalls start earlier).state with
              | done result =>
                  rw [hleft'] at hlast
                  cases hlast with
                  | done hphase => exact absurd rfl hphase
              | step next' rest' =>
                  rw [hleft'] at hlast
                  cases hlast with
                  | establish hconnection _ _ =>
                      rw [hrun]
                      exact ⟨_, next', rest', hafter, hleft', hconnection⟩
      · exact absurd hlocks.2 (hnone rfl)

theorem Tracked.advanced (htracked : Tracked connectionId start earlier)
    (hundisturbed : Undisturbed connectionId start earlier index) :
    Tracked connectionId start (earlier ++ [.advance index]) := by
  have hrun : afterManagerCalls start (earlier ++ [.advance index]) =
      Pool.advance index (afterManagerCalls start earlier) := run_concat _ _
  refine ⟨fun task htask => ?_, fun other hprogress => ?_, fun first second hfirst hsecond => ?_⟩
  · rw [hrun] at htask
    obtain hsame | ⟨found, next, rest, hfound, hleft, hadvance⟩ :=
      Pool.advance_cases index (afterManagerCalls start earlier)
    · rw [hsame] at htask
      exact htracked.dials task htask
    · rw [hadvance] at htask
      rcases List.mem_or_eq_of_mem_set htask with hmem | rfl
      · exact htracked.dials task hmem
      · obtain ⟨phase, hdials⟩ := htracked.dials found (List.mem_of_getElem? hfound)
        rw [hleft] at hdials
        exact hdials.after _
  · by_cases hother : other = index
    · subst hother
      exact htracked.attempt_advanced hprogress
    obtain ⟨hevent, -⟩ | ⟨hbefore, -⟩ := inProgress_concat hprogress
    · cases hevent
      exact absurd rfl hother
    have hrunning : (afterManagerCalls start (earlier ++ [.advance index])).running[other]? =
        (afterManagerCalls start earlier).running[other]? := by
      rw [hrun]
      exact Pool.advance_running_ne hother
    obtain ⟨task, htask, ⟨hdials, hmarked⟩ | hlocks⟩ := htracked.attempts other hbefore
    · refine ⟨task, hrunning.trans htask, .inl ⟨hdials, ?_⟩⟩
      rw [hrun]
      by_contra hunmarked
      exact hother (hundisturbed.ownMark ⟨hmarked, hunmarked⟩ other hbefore)
    · refine ⟨task, hrunning.trans htask, .inr (betweenLocks_concat hlocks ?_ fun found hfound =>
        hrunning.trans hfound)⟩
      rintro hevent
      cases hevent
      exact hother rfl
  · -- a second mark would need the first to be taken away
    have hnot {other : Nat} (hprogress : InProgress connectionId start earlier other)
        (hmarks : Marks connectionId index (afterManagerCalls start earlier)) : False := by
      obtain ⟨task, -, ⟨-, hmarked⟩ | hlocks⟩ := htracked.attempts other hprogress
      · exact hmarks.1 hmarked
      · exact (hundisturbed.betweenLocks other hlocks).1 hmarks
    obtain ⟨hfirst, hmarks⟩ | ⟨hfirst, -⟩ := inProgress_concat hfirst
    · cases hfirst
      obtain ⟨hsecond, -⟩ | ⟨hsecond, -⟩ := inProgress_concat hsecond
      · cases hsecond
        rfl
      · exact (hnot hsecond hmarks).elim
    · obtain ⟨hsecond, hmarks⟩ | ⟨hsecond, -⟩ := inProgress_concat hsecond
      · cases hsecond
        exact (hnot hfirst hmarks).elim
      · exact htracked.single first second hfirst hsecond

theorem tracked_run {events : List (PoolEvent ManagerCall)}
    (hundisturbed : ∀ earlier index, earlier ++ [.advance index] <+: events →
      Undisturbed connectionId start earlier index) :
    ∀ earlier, earlier <+: events → Tracked connectionId start earlier := by
  intro earlier hearlier
  induction earlier using List.reverseRecOn with
  | nil => exact .nil
  | append_singleton earlier event ih =>
      have htracked := ih ((List.prefix_append earlier [event]).trans hearlier)
      cases event with
      | start call => exact htracked.started call
      | advance index => exact htracked.advanced (hundisturbed earlier index hearlier)

theorem Tracked.reportsActive (htracked : Tracked connectionId start earlier)
    (hundisturbed : Undisturbed connectionId start earlier index) :
    ReportsActive connectionId start earlier index := by
  intro hasks htaken
  refine congrArg Except.ok ?_
  rw [Bool.or_eq_true, decide_eq_true_eq]
  obtain ⟨other, hprogress⟩ | hmarked | hestablished := htaken
  · obtain ⟨task, -, ⟨-, hmarked⟩ | hlocks⟩ := htracked.attempts other hprogress
    · exact .inr hmarked
    · exact .inl ((hundisturbed.betweenLocks other hlocks).2 hasks)
  · exact .inr hmarked
  · exact .inl hestablished

end Tracking

/-- The id is reported active as long as it is taken, and never is more than one
attempt in progress. -/
theorem one_connection_each_id_throughout {connectionId : String} {start : P2PState}
    {events : List (PoolEvent ManagerCall)}
    (hundisturbed : ∀ earlier index, earlier ++ [.advance index] <+: events →
      Undisturbed connectionId start earlier index) :
    (∀ earlier, earlier <+: events → OneAttempt connectionId start earlier) ∧
      ∀ earlier index, earlier ++ [.advance index] <+: events →
        ReportsActive connectionId start earlier index := by
  refine ⟨fun earlier hearlier => (tracked_run hundisturbed earlier hearlier).single, ?_⟩
  intro earlier index hearlier
  have htracked := tracked_run hundisturbed earlier
    ((List.prefix_append earlier [.advance index]).trans hearlier)
  exact htracked.reportsActive (hundisturbed earlier index hearlier)

theorem undisturbed_of_kept {connectionId : String} {start : P2PState}
    {events : List (PoolEvent ManagerCall)}
    (hkept : ∀ earlier index, earlier ++ [.advance index] <+: events →
      ¬ Unmarks connectionId index (afterManagerCalls start earlier)) :
    ∀ earlier index, earlier ++ [.advance index] <+: events →
      Undisturbed connectionId start earlier index := by
  intro earlier index hearlier
  refine ⟨fun hunmarks => absurd hunmarks (hkept earlier index hearlier), fun other hlocks => ?_⟩
  obtain ⟨⟨before, after, rfl, -, hunmarks⟩, -⟩ := hlocks
  refine absurd hunmarks (hkept before other ?_)
  refine List.IsPrefix.trans ⟨after ++ [.advance index], ?_⟩ hearlier
  simp

theorem Establishes.stopAfter {connectionId : String} {index : Nat} {pool : ManagerPool}
    {task : Running ManagerCall P2PState P2PServiceError (Option Nat)}
    (hestablishes : Establishes connectionId index pool)
    (htask : pool.running[index]? = some task) (state : P2PState) :
    ((task.left.stopAfter 1 state).manager.connections connectionId).isSome := by
  obtain ⟨found, next, rest, hfound, hleft, hconnection⟩ := hestablishes
  obtain rfl : task = found := Option.some.inj (htask.symm.trans hfound)
  rw [hleft]
  change (((rest state).stopAfter 0 (next state)).manager.connections connectionId).isSome
  rw [Program.stopAfter_zero]
  exact hconnection state

instance (connectionId : String) (index : Nat) (pool : ManagerPool) :
    Decidable (Marks connectionId index pool) :=
  inferInstanceAs (Decidable (_ ∧ _))

instance (connectionId : String) (index : Nat) (pool : ManagerPool) :
    Decidable (Unmarks connectionId index pool) :=
  inferInstanceAs (Decidable (_ ∧ _))

namespace Twice

open ReachingX

def asked : ManagerCall := .connectWithTicket env "node-X" .user (some .userSync)

/-- The first call marks the id before the second asks. -/
def askedLater : List (PoolEvent ManagerCall) :=
  [.start asked, .advance 0, .advance 0, .advance 0, .start asked, .advance 1]

/-- The first is about to mark the id. -/
def marking : List (PoolEvent ManagerCall) := [.start asked, .advance 0, .advance 0]

/-- It marks the id and goes on to stand between the locks; the second asks, is not
told, and marks the id in its turn. -/
def meanwhile : List (PoolEvent ManagerCall) :=
  [.advance 0, .advance 0, .advance 0, .start asked, .advance 1, .advance 1, .advance 1]

def betweenLocks : List (PoolEvent ManagerCall) := marking ++ .advance 0 :: meanwhile.take 4

def bothConnecting : List (PoolEvent ManagerCall) := marking ++ .advance 0 :: meanwhile

theorem unmarksNot_askedLater : EachEvent (fun earlier event => ∀ index, event = .advance index →
    ¬ Unmarks "node-X" index (afterManagerCalls start earlier)) [] askedLater := by
  refine ⟨?_, ?_, ?_, ?_, ?_, ?_, trivial⟩ <;>
    · rintro index hevent
      cases hevent <;> decide +kernel

theorem establishesNot_first {between : List (PoolEvent ManagerCall)}
    (hbetween : between ++ [.advance 0] <+: meanwhile) :
    ¬ Establishes "node-X" 0 (afterManagerCalls start (marking ++ .advance 0 :: between)) := by
  have hevery : EachEvent (fun earlier event => event = .advance 0 →
      ((afterManagerCalls start (marking ++ .advance 0 :: earlier)).running[0]?.map fun task =>
        ((task.left.stopAfter 1 start).manager.connections "node-X").isSome) = some false)
      [] meanwhile := by
    refine ⟨fun _ => ?_, fun _ => ?_, fun _ => ?_, by simp, by simp, by simp, by simp, trivial⟩
    · decide +kernel
    · decide +kernel
    · decide +kernel
  intro hestablishes
  obtain ⟨task, htask, hmap⟩ := Option.map_eq_some_iff.mp (hevery.of_prefix hbetween rfl)
  rw [hestablishes.stopAfter htask start] at hmap
  cases hmap

theorem notDone {events : List (PoolEvent ManagerCall)} {index : Nat}
    (hgoing : (afterManagerCalls start events).running[index]?.map
      (fun task => task.left.isDone) = some false) :
    ∀ task result, (afterManagerCalls start events).running[index]? = some task →
      task.left ≠ .done result := by
  intro task result htask hdone
  rw [htask, Option.map_some, hdone] at hgoing
  cases hgoing

theorem inProgress_first {after : List (PoolEvent ManagerCall)} (hafter : after <+: meanwhile)
    (hgoing : (afterManagerCalls start (marking ++ .advance 0 :: after)).running[0]?.map
      (fun task => task.left.isDone) = some false) :
    InProgress "node-X" start (marking ++ .advance 0 :: after) 0 :=
  ⟨⟨marking, after, rfl, by decide +kernel, fun _ hbetween =>
    establishesNot_first (hbetween.trans hafter)⟩, notDone hgoing⟩

theorem inProgress_second : InProgress "node-X" start bothConnecting 1 := by
  refine ⟨⟨betweenLocks ++ [.advance 1, .advance 1], [], rfl, by decide +kernel, ?_⟩,
    notDone (by decide +kernel)⟩
  intro between hbetween
  simp at hbetween

end Twice

open Twice ReachingX in
theorem one_connection_each_id_askedLater :
    (∀ earlier, earlier <+: askedLater → OneAttempt "node-X" start earlier) ∧
      ∀ earlier index, earlier ++ [.advance index] <+: askedLater →
        ReportsActive "node-X" start earlier index := by
  refine one_connection_each_id_throughout (undisturbed_of_kept fun earlier index hearlier => ?_)
  exact unmarksNot_askedLater.of_prefix hearlier index rfl

open Twice ReachingX in
/-- Between the two locks the id is reported free, and a second attempt is begun. -/
theorem second_attempt_between_locks :
    ¬ ReportsActive "node-X" start betweenLocks 1 ∧
      ¬ OneAttempt "node-X" start bothConnecting := by
  refine ⟨fun hreports => ?_, fun hone => ?_⟩
  · have hprogress : InProgress "node-X" start betweenLocks 0 :=
      inProgress_first (List.take_prefix _ _) (by decide +kernel)
    have hactive := hreports ⟨_, rfl, rfl, rfl⟩ (.inl ⟨0, hprogress⟩)
    have hfree : ((isConnectionActive "node-X" : Program ConnectionManager P2PServiceError
        Bool).run (afterManagerCalls start betweenLocks).state.manager).1 = .ok false := rfl
    cases hactive.symm.trans hfree
  · have hfirst := inProgress_first List.prefix_rfl (by decide +kernel)
    cases hone 0 1 hfirst inProgress_second

end Osvauld.Network
