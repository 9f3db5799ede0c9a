import Osvauld.Network.P2P.ConnectionActions

namespace Osvauld.Network

open Osvauld.Core Data

/-! What is left to do when a connection has been closed, and the connections that
have come in its place by then. Of two connections the newer has the higher number. -/

section Runs

variable (start : P2PState) (events : List (PoolEvent ManagerCall))

abbrev inUse (connectionId : String) : Option Nat :=
  (afterManagerCalls start events).state.manager.connections connectionId

/-- When the next step of the call is one of the cleanup of a connection, it removes
no newer one. -/
def CleansOwn (index : Nat) : Prop :=
  ∀ task old, (afterManagerCalls start events).running[index]? = some task →
    task.call = .cleanup old → ∀ connectionId newer,
      inUse start events connectionId = some newer →
        inUse start (events ++ [.advance index]) connectionId = none → newer ≤ old

def Superseded (connectionId : String) (old : Nat) : Prop :=
  ∃ newer earlier index, old < newer ∧ earlier ++ [.advance index] <+: events ∧
    inUse start earlier connectionId ≠ some newer ∧
      ∀ later, earlier ++ [.advance index] <+: later → later <+: events →
        inUse start later connectionId = some newer

def CleansInTime (index : Nat) : Prop :=
  ∀ task old connectionId, (afterManagerCalls start events).running[index]? = some task →
    task.call = .cleanup old → task.left = dropConnection connectionId →
      ¬ Superseded start events connectionId old

end Runs

section Removal

variable {start : P2PState} {earlier events : List (PoolEvent ManagerCall)}
variable {connectionId : String} {number index : Nat}

theorem inUse_since (hstart : start.manager.connections connectionId = none)
    (huse : inUse start events connectionId = some number) :
    ∃ earlier index, earlier ++ [.advance index] <+: events ∧
      inUse start earlier connectionId ≠ some number ∧
        ∀ later, earlier ++ [.advance index] <+: later → later <+: events →
          inUse start later connectionId = some number := by
  induction events using List.reverseRecOn with
  | nil => cases hstart.symm.trans huse
  | append_singleton before event ih =>
      by_cases hbefore : inUse start before connectionId = some number
      · obtain ⟨earlier, index, hearlier, hnot, hlater⟩ := ih hbefore
        refine ⟨earlier, index, hearlier.trans (List.prefix_append _ _), hnot, ?_⟩
        intro later hsince hwithin
        rcases List.prefix_concat_iff.mp hwithin with rfl | hwithin
        · exact huse
        · exact hlater later hsince hwithin
      · cases event with
        | start call =>
            refine absurd ?_ hbefore
            rw [inUse, afterManagerCalls, run_concat] at huse
            exact huse
        | advance index =>
            refine ⟨before, index, List.prefix_rfl, hbefore, fun later hsince hwithin => ?_⟩
            rw [List.IsPrefix.eq_of_length_le hwithin hsince.length_le]
            exact huse

theorem superseded_iff (hstart : start.manager.connections connectionId = none) {old : Nat} :
    Superseded start events connectionId old ↔
      ∃ newer, old < newer ∧ inUse start events connectionId = some newer := by
  constructor
  · rintro ⟨newer, earlier, index, hnewer, hearlier, -, hlater⟩
    exact ⟨newer, hnewer, hlater events hearlier List.prefix_rfl⟩
  · rintro ⟨newer, hnewer, huse⟩
    obtain ⟨earlier, index, hsince⟩ := inUse_since hstart huse
    exact ⟨newer, earlier, index, hnewer, hsince⟩

theorem dropConnection_eq (connectionId : String) :
    dropConnection connectionId =
      .step
        (fun state => { state with manager := { state.manager with
          connections := Function.update state.manager.connections connectionId none } })
        fun _ => return none := by
  refine congrArg₂ Program.step (funext fun state => ?_) (funext fun state => ?_)
  · dsimp only
    cases hused : state.manager.connections connectionId with
    | some number => simp
    | none =>
        have hsame : Function.update state.manager.connections connectionId none =
            state.manager.connections := by
          rw [← hused, Function.update_eq_self]
        simp [hsame]
  · change Program.bind (Program.attempt _) _ = _
    dsimp only
    cases (state.manager.connections connectionId).isSome <;> rfl

theorem cleanup_eq (old : Nat) :
    (ManagerCall.cleanup old).body =
      .step id fun state => dropConnection (state.node.connections old).nodeId :=
  rfl

theorem cleanup_left (start : P2PState) (events : List (PoolEvent ManagerCall)) :
    ∀ task ∈ (afterManagerCalls start events).running, ∀ old, task.call = .cleanup old →
      task.left = (ManagerCall.cleanup old).body ∨
        (∃ connectionId, task.left = dropConnection connectionId) ∨
          ∃ result, task.left = .done result := by
  induction events using List.reverseRecOn with
  | nil =>
      intro task htask
      cases htask
  | append_singleton before event ih =>
      rw [afterManagerCalls, run_concat]
      intro task htask old hcall
      cases event with
      | start call =>
          rcases List.mem_append.mp htask with hold | hnew
          · exact ih task hold old hcall
          · obtain rfl := List.mem_singleton.mp hnew
            refine .inl ?_
            rw [← hcall]
      | advance index =>
          change task ∈ (Pool.advance index _).running at htask
          obtain hsame | ⟨found, next, rest, hfound, hleft, hadvance⟩ :=
            Pool.advance_cases index (afterManagerCalls start before)
          · rw [hsame] at htask
            exact ih task htask old hcall
          · rw [hadvance] at htask
            rcases List.mem_or_eq_of_mem_set htask with hold | rfl
            · exact ih task hold old hcall
            · refine .inr ?_
              obtain hbody | ⟨connectionId, hdrop⟩ | ⟨result, hdone⟩ :=
                ih found (List.mem_of_getElem? hfound) old hcall
              · rw [hleft, cleanup_eq] at hbody
                cases hbody
                exact .inl ⟨_, rfl⟩
              · rw [hleft, dropConnection_eq] at hdrop
                cases hdrop
                exact .inr ⟨_, rfl⟩
              · cases hleft.symm.trans hdone

theorem inUse_advance (start : P2PState) (events : List (PoolEvent ManagerCall)) (index : Nat) :
    inUse start (events ++ [.advance index]) =
      (Pool.advance index (afterManagerCalls start events)).state.manager.connections := by
  unfold inUse
  rw [afterManagerCalls, run_concat]
  rfl

theorem cleansOwn_iff (hstart : ∀ connectionId, start.manager.connections connectionId = none) :
    CleansOwn start events index ↔ CleansInTime start events index := by
  constructor
  · rintro hown task old connectionId htask hcall hleft hsuperseded
    obtain ⟨newer, hnewer, huse⟩ := (superseded_iff (hstart connectionId)).mp hsuperseded
    refine absurd (hown task old htask hcall connectionId newer huse ?_) (Nat.not_le.mpr hnewer)
    rw [inUse_advance]
    unfold Pool.advance
    rw [htask]
    simp only [hleft, dropConnection_eq, Function.update_self]
  · intro htime task old htask hcall connectionId newer huse hremoved
    by_contra hnewer
    rw [inUse_advance] at hremoved
    obtain hsame | ⟨found, next, rest, hfound, hleft, hadvance⟩ :=
      Pool.advance_cases index (afterManagerCalls start events)
    · rw [hsame] at hremoved
      cases huse.symm.trans hremoved
    obtain rfl : task = found := Option.some.inj (htask.symm.trans hfound)
    rw [hadvance] at hremoved
    obtain hbody | ⟨removed, hdrop⟩ | ⟨result, hdone⟩ :=
      cleanup_left start events task (List.mem_of_getElem? htask) old hcall
    · rw [hleft, cleanup_eq] at hbody
      cases hbody
      cases huse.symm.trans hremoved
    · refine htime task old removed htask hcall hdrop ((superseded_iff (hstart removed)).mpr ?_)
      rw [hleft, dropConnection_eq] at hdrop
      cases hdrop
      by_cases hid : connectionId = removed
      · subst hid
        exact ⟨newer, Nat.lt_of_not_le hnewer, huse⟩
      · dsimp only at hremoved
        rw [Function.update_of_ne hid] at hremoved
        cases huse.symm.trans hremoved
    · cases hleft.symm.trans hdone

end Removal

/-- No cleanup of the run removes a newer connection, exactly when none of them comes
after its connection has been superseded. -/
theorem cleanup_removes_own_iff {start : P2PState}
    (hstart : ∀ connectionId, start.manager.connections connectionId = none)
    (events : List (PoolEvent ManagerCall)) :
    (∀ earlier index, earlier ++ [.advance index] <+: events → CleansOwn start earlier index) ↔
      ∀ earlier index, earlier ++ [.advance index] <+: events →
        CleansInTime start earlier index := by
  constructor
  · exact fun hown earlier index hearlier => (cleansOwn_iff hstart).mp (hown earlier index hearlier)
  · exact fun htime earlier index hearlier =>
      (cleansOwn_iff hstart).mpr (htime earlier index hearlier)

namespace ComingBack

open ReachingX

def connected : List (PoolEvent ManagerCall) :=
  .start (.connectWithTicket env "node-X" .user (some .userSync)) ::
    List.replicate 12 (.advance 0)

def cleanedAtOnce : List (PoolEvent ManagerCall) :=
  connected ++ [.start (.cleanup 0), .advance 1, .advance 1]

def comesBack : List (PoolEvent ManagerCall) :=
  .start (.performHandshakeAndCreatePeer env
    { remoteNodeId := .ok "node-X", remoteDeviceId := "dev-X" }) ::
      List.replicate 4 (.advance 1)

/-- The first connection is cleaned up last. -/
def cleanedLate : List (PoolEvent ManagerCall) :=
  connected ++ comesBack ++ [.start (.cleanup 0), .advance 2]

end ComingBack

open ComingBack ReachingX in
theorem cleanup_removes_own_iff_cleanedAtOnce :
    (∀ earlier index, earlier ++ [.advance index] <+: cleanedAtOnce →
        CleansOwn start earlier index) ↔
      ∀ earlier index, earlier ++ [.advance index] <+: cleanedAtOnce →
        CleansInTime start earlier index :=
  cleanup_removes_own_iff (fun _ => rfl) cleanedAtOnce

open ComingBack ReachingX in
/-- The cleanup of the connection with the number 0 removes the one with the number 1. -/
theorem cleanup_removes_newer : ¬ CleansOwn start cleanedLate 2 := by
  intro hown
  have hnewer : inUse start cleanedLate "node-X" = some 1 := by decide +kernel
  have hremoved : inUse start (cleanedLate ++ [.advance 2]) "node-X" = none := by decide +kernel
  have hcleanup : ∃ task, (afterManagerCalls start cleanedLate).running[2]? = some task ∧
      task.call = .cleanup 0 := ⟨_, rfl, rfl⟩
  obtain ⟨task, htask, hcall⟩ := hcleanup
  exact absurd (hown task 0 htask hcall "node-X" 1 hnewer hremoved) (by decide)

end Osvauld.Network
