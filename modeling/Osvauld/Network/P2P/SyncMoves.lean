import Osvauld.Core.Sync
import Osvauld.Data.Lists

namespace Osvauld.Network

open Osvauld.Core Data

/-! What an end of a synchronization has to answer, from the comparison on. -/

/-- The messages of either kind of synchronization; a device sends users and
devices as its entities. -/
inductive SyncMove where
  | ack
  | entities
  | entitiesAck
  | folders
  | recipients
  | resource (resourceId : String)
  | complete
  | stateVector (resourceId : String)
  | foreign
deriving DecidableEq, Repr

namespace SyncMove

def opener : ConnectionType → SyncMove
  | .device => .entitiesAck
  | .user => .recipients

def resource? : SyncMove → Option String
  | .resource resourceId => some resourceId
  | _ => none

def stateVector? : SyncMove → Option String
  | .stateVector resourceId => some resourceId
  | _ => none

def isPhase : SyncMove → Bool
  | .resource _ | .complete | .stateVector _ => false
  | _ => true

def phases (kind : ConnectionType) (isInitiator : Bool) (move : SyncMove) : List SyncMove :=
  match kind, move with
  | _, .ack => [.entities]
  | .device, .entities => [.entitiesAck]
  | .user, .entities => if isInitiator then [.entities, .entitiesAck] else [.entitiesAck]
  | .user, .entitiesAck => [.folders]
  | .user, .folders => if isInitiator then [.recipients] else [.folders]
  | .user, .recipients => if isInitiator then [] else [.recipients]
  | _, _ => []

def causes (kind : ConnectionType) (isInitiator : Bool) (move : SyncMove) : List SyncMove :=
  match kind, move with
  | .device, .entities => [.ack]
  | .device, .entitiesAck => [.entities]
  | .user, .entities => if isInitiator then [.ack, .entities] else [.ack]
  | .user, .entitiesAck => [.entities]
  | .user, .folders => if isInitiator then [.entitiesAck] else [.entitiesAck, .folders]
  | .user, .recipients => if isInitiator then [.folders] else [.recipients]
  | _, _ => []

theorem count_phases (kind : ConnectionType) (isInitiator : Bool) (move cause : SyncMove) :
    (phases kind isInitiator cause).count move = (causes kind isInitiator move).count cause := by
  cases kind <;> cases isInitiator <;> cases cause <;> cases move <;> rfl

theorem isPhase_of_mem_phases {kind : ConnectionType} {isInitiator : Bool}
    {move cause : SyncMove} (hmem : move ∈ phases kind isInitiator cause) :
    move.isPhase = true := by
  have hall : (phases kind isInitiator cause).all isPhase = true := by
    cases kind <;> cases isInitiator <;> cases cause <;> rfl
  exact List.all_eq_true.mp hall move hmem

end SyncMove

structure Standing where
  isInitiator : Bool
  kind : ConnectionType
  toCome : List String
  toSend : List String
  toSync : List String

namespace Standing

def after (standing : Standing) : SyncMove → Standing
  | .resource resourceId =>
      { standing with toCome := standing.toCome.filter fun id => id ≠ resourceId }
  | _ => standing

def sends (standing : Standing) : List SyncMove :=
  (if standing.toSend.isEmpty then [.complete] else []) ++ standing.toSend.map .resource

def transfers (standing : Standing) : SyncMove → List SyncMove
  | .resource resourceId =>
      if (standing.after (.resource resourceId)).toCome.isEmpty then [.complete] else []
  | .complete => if standing.isInitiator then standing.toSync.map .stateVector else []
  | move => if move = SyncMove.opener standing.kind then standing.sends else []

def replies (standing : Standing) (move : SyncMove) : List SyncMove :=
  move.phases standing.kind standing.isInitiator ++ standing.transfers move

def dealing (standing : Standing) (moves : List SyncMove) : Standing :=
  moves.foldl after standing

def told (standing : Standing) : List SyncMove → List SyncMove
  | [] => []
  | move :: rest => standing.replies move ++ (standing.after move).told rest

variable (standing : Standing) (moves : List SyncMove) (move : SyncMove)

@[simp] theorem dealing_cons (rest : List SyncMove) :
    standing.dealing (move :: rest) = (standing.after move).dealing rest := rfl

theorem dealing_concat :
    standing.dealing (moves ++ [move]) = (standing.dealing moves).after move := by
  simp [dealing]

theorem told_concat :
    standing.told (moves ++ [move]) =
      standing.told moves ++ (standing.dealing moves).replies move := by
  induction moves generalizing standing with
  | nil => simp [told, dealing]
  | cons head tail ih =>
      simp only [List.cons_append, told, ih, List.append_assoc]
      rfl

@[simp] theorem after_isInitiator :
    (standing.after move).isInitiator = standing.isInitiator := by cases move <;> rfl

@[simp] theorem after_kind :
    (standing.after move).kind = standing.kind := by cases move <;> rfl

@[simp] theorem after_toSend :
    (standing.after move).toSend = standing.toSend := by cases move <;> rfl

@[simp] theorem after_toSync :
    (standing.after move).toSync = standing.toSync := by cases move <;> rfl

theorem dealing_same :
    (standing.dealing moves).isInitiator = standing.isInitiator ∧
      (standing.dealing moves).kind = standing.kind ∧
        (standing.dealing moves).toSend = standing.toSend ∧
          (standing.dealing moves).toSync = standing.toSync := by
  induction moves generalizing standing with
  | nil => exact ⟨rfl, rfl, rfl, rfl⟩
  | cons move rest ih => simpa using ih (standing.after move)

theorem toCome_dealing :
    (standing.dealing moves).toCome =
      standing.toCome.filter fun id => id ∉ moves.filterMap SyncMove.resource? := by
  induction moves generalizing standing with
  | nil => simp [dealing]
  | cons move rest ih =>
      rw [dealing_cons, ih]
      cases move with
      | resource resourceId =>
          rw [after, List.filter_filter]
          refine List.filter_congr fun id _ => ?_
          have hresource : (SyncMove.resource resourceId).resource? = some resourceId := rfl
          simp only [List.filterMap_cons_some hresource, List.mem_cons, not_or, Bool.decide_and]
          exact Bool.and_comm _ _
      | _ => rfl

theorem filterMap_phases {kind : ConnectionType} {isInitiator : Bool} {cause : SyncMove}
    {part? : SyncMove → Option String}
    (hphase : ∀ move, move.isPhase = true → part? move = none) :
    (cause.phases kind isInitiator).filterMap part? = [] :=
  List.filterMap_eq_nil_iff.mpr fun move hmem =>
    hphase move (SyncMove.isPhase_of_mem_phases hmem)

theorem resources_sends : standing.sends.filterMap SyncMove.resource? = standing.toSend := by
  have hsent : (standing.toSend.map SyncMove.resource).filterMap SyncMove.resource? =
      standing.toSend := by
    rw [List.filterMap_map]
    exact List.filterMap_some
  rw [sends, List.filterMap_append, hsent]
  split <;> rfl

theorem stateVectors_sends : standing.sends.filterMap SyncMove.stateVector? = [] := by
  rw [sends, List.filterMap_append, List.filterMap_map]
  refine List.append_eq_nil_iff.mpr ⟨?_, List.filterMap_eq_nil_iff.mpr fun _ _ => rfl⟩
  split <;> rfl

theorem not_isPhase_of_mem_transfers {standing : Standing} {move cause : SyncMove}
    (hmem : move ∈ standing.transfers cause) : move.isPhase = false := by
  have hsends (hsent : move ∈ standing.sends) : move.isPhase = false := by
    rcases List.mem_append.mp hsent with hcomplete | hresource
    · split at hcomplete
      · rw [List.mem_singleton.mp hcomplete]
        rfl
      · cases hcomplete
    · obtain ⟨resourceId, _, rfl⟩ := List.mem_map.mp hresource
      rfl
  have hopener (hsent : move ∈ if cause = SyncMove.opener standing.kind then standing.sends
      else []) : move.isPhase = false := by
    split at hsent
    · exact hsends hsent
    · cases hsent
  cases cause with
  | resource resourceId =>
      dsimp only [transfers] at hmem
      split at hmem
      · rw [List.mem_singleton.mp hmem]
        rfl
      · cases hmem
  | complete =>
      dsimp only [transfers] at hmem
      split at hmem
      · obtain ⟨resourceId, _, rfl⟩ := List.mem_map.mp hmem
        rfl
      · cases hmem
  | _ => exact hopener hmem

theorem count_replies {move : SyncMove} (hphase : move.isPhase = true) (cause : SyncMove) :
    (standing.replies cause).count move =
      (move.causes standing.kind standing.isInitiator).count cause := by
  have htransfers : (standing.transfers cause).count move = 0 := by
    refine List.count_eq_zero.mpr fun hmem => ?_
    cases hphase.symm.trans (not_isPhase_of_mem_transfers hmem)
  rw [replies, List.count_append, SyncMove.count_phases, htransfers, Nat.add_zero]

theorem resources_replies :
    (standing.replies move).filterMap SyncMove.resource? =
      if move = SyncMove.opener standing.kind then standing.toSend else [] := by
  have hphases : (move.phases standing.kind standing.isInitiator).filterMap
      SyncMove.resource? = [] := by
    refine filterMap_phases fun move hphase => ?_
    cases move <;> first | rfl | cases hphase
  rw [replies, List.filterMap_append, hphases, List.nil_append]
  cases move with
  | resource resourceId =>
      have hother : SyncMove.resource resourceId ≠ SyncMove.opener standing.kind := by
        cases standing.kind <;> exact nofun
      rw [transfers, if_neg hother]
      split <;> rfl
  | complete =>
      have hother : SyncMove.complete ≠ SyncMove.opener standing.kind := by
        cases standing.kind <;> exact nofun
      rw [transfers, if_neg hother]
      split
      · rw [List.filterMap_map]
        exact List.filterMap_eq_nil_iff.mpr fun _ _ => rfl
      · rfl
  | _ =>
      dsimp only [transfers]
      split
      · exact standing.resources_sends
      · rfl

theorem stateVectors_replies :
    (standing.replies move).filterMap SyncMove.stateVector? =
      if move = .complete ∧ standing.isInitiator = true then standing.toSync else [] := by
  have hphases : (move.phases standing.kind standing.isInitiator).filterMap
      SyncMove.stateVector? = [] := by
    refine filterMap_phases fun move hphase => ?_
    cases move <;> first | rfl | cases hphase
  rw [replies, List.filterMap_append, hphases, List.nil_append]
  cases move with
  | resource resourceId =>
      rw [transfers, if_neg fun hcomplete : _ ∧ _ => by cases hcomplete.1]
      split <;> rfl
  | complete =>
      rw [transfers]
      cases standing.isInitiator with
      | true =>
          rw [if_pos rfl, if_pos ⟨rfl, rfl⟩, List.filterMap_map]
          exact List.filterMap_some
      | false => rfl
  | _ =>
      rw [if_neg fun hcomplete : _ ∧ _ => by cases hcomplete.1]
      dsimp only [transfers]
      split
      · exact standing.stateVectors_sends
      · rfl

theorem count_told (standing : Standing) {move : SyncMove} (hphase : move.isPhase = true)
    (moves : List SyncMove) :
    (standing.told moves).count move =
      ((move.causes standing.kind standing.isInitiator).map fun cause =>
        moves.count cause).sum := by
  induction moves generalizing standing with
  | nil => simp [told]
  | cons cause rest ih =>
      rw [told, List.count_append, ih, count_replies standing hphase, after_kind,
        after_isInitiator, sum_map_count_cons]

theorem resources_told :
    (standing.told moves).filterMap SyncMove.resource? =
      (List.replicate (moves.count (SyncMove.opener standing.kind)) standing.toSend).flatten := by
  induction moves generalizing standing with
  | nil => rfl
  | cons move rest ih =>
      rw [told, List.filterMap_append, ih, resources_replies, after_kind, after_toSend]
      by_cases hopener : move = SyncMove.opener standing.kind
      · rw [if_pos hopener, hopener, List.count_cons_self, List.replicate_succ,
          List.flatten_cons]
      · rw [if_neg hopener, List.count_cons_of_ne hopener, List.nil_append]

theorem stateVectors_told :
    (standing.told moves).filterMap SyncMove.stateVector? =
      if standing.isInitiator then
        (List.replicate (moves.count .complete) standing.toSync).flatten
      else [] := by
  induction moves generalizing standing with
  | nil => cases h : standing.isInitiator <;> rfl
  | cons move rest ih =>
      rw [told, List.filterMap_append, ih, stateVectors_replies, after_isInitiator,
        after_toSync]
      cases standing.isInitiator with
      | false => simp
      | true =>
          by_cases hcomplete : move = .complete
          · simp [hcomplete, List.replicate_succ]
          · simp [hcomplete]

def emptied (toCome : List String) : List String → Nat
  | [] => 0
  | resourceId :: rest =>
      let left := toCome.filter fun id => id ≠ resourceId
      (if left.isEmpty then 1 else 0) + emptied left rest

theorem emptied_of_perm {toCome resourceIds : List String} (hnodup : resourceIds.Nodup)
    (hperm : resourceIds.Perm toCome) :
    emptied toCome resourceIds = if toCome.isEmpty then 0 else 1 := by
  induction resourceIds generalizing toCome with
  | nil =>
      obtain rfl := hperm.nil_eq
      rfl
  | cons resourceId rest ih =>
      obtain ⟨hfresh, hrest⟩ := List.nodup_cons.mp hnodup
      have hleft : rest.Perm (toCome.filter fun id => id ≠ resourceId) := by
        have hfiltered := hperm.filter fun id => id ≠ resourceId
        rw [List.filter_cons_of_neg (by simp)] at hfiltered
        have hothers : rest.filter (fun id => id ≠ resourceId) = rest := by
          refine List.filter_eq_self.mpr fun id hid => decide_eq_true ?_
          rintro rfl
          exact hfresh hid
        rwa [hothers] at hfiltered
      have hsome : toCome.isEmpty = false := by
        cases toCome with
        | nil => cases hperm.eq_nil
        | cons _ _ => rfl
      rw [emptied, ih hrest hleft, hsome]
      cases hempty : (toCome.filter fun id => id ≠ resourceId).isEmpty <;> simp

theorem completes_sends :
    standing.sends.count .complete = if standing.toSend.isEmpty then 1 else 0 := by
  have hresources : (standing.toSend.map SyncMove.resource).count .complete = 0 :=
    List.count_eq_zero.mpr fun hmem => by
      obtain ⟨resourceId, _, heq⟩ := List.mem_map.mp hmem
      cases heq
  rw [sends, List.count_append, hresources, Nat.add_zero]
  split <;> rfl

def empties (standing : Standing) : SyncMove → Nat
  | .resource resourceId =>
      if (standing.after (.resource resourceId)).toCome.isEmpty then 1 else 0
  | _ => 0

theorem emptied_cons (rest : List SyncMove) :
    emptied standing.toCome ((move :: rest).filterMap SyncMove.resource?) =
      standing.empties move +
        emptied (standing.after move).toCome (rest.filterMap SyncMove.resource?) := by
  cases move with
  | resource resourceId => rfl
  | _ => exact (Nat.zero_add _).symm

theorem completes_replies :
    (standing.replies move).count .complete =
      (if move = SyncMove.opener standing.kind then
        if standing.toSend.isEmpty then 1 else 0 else 0) + standing.empties move := by
  have hphases : (move.phases standing.kind standing.isInitiator).count .complete = 0 :=
    List.count_eq_zero.mpr fun hmem => by cases SyncMove.isPhase_of_mem_phases hmem
  rw [replies, List.count_append, hphases, Nat.zero_add]
  cases move with
  | resource resourceId =>
      have hother : SyncMove.resource resourceId ≠ SyncMove.opener standing.kind := by
        cases standing.kind <;> exact nofun
      rw [transfers, if_neg hother, Nat.zero_add, empties]
      split <;> rfl
  | complete =>
      have hother : SyncMove.complete ≠ SyncMove.opener standing.kind := by
        cases standing.kind <;> exact nofun
      have hvectors : (standing.toSync.map SyncMove.stateVector).count .complete = 0 :=
        List.count_eq_zero.mpr fun hmem => by
          obtain ⟨resourceId, _, heq⟩ := List.mem_map.mp hmem
          cases heq
      rw [transfers, if_neg hother]
      split
      · exact hvectors
      · rfl
  | _ =>
      dsimp only [transfers]
      split
      · exact standing.completes_sends
      · rfl

theorem completes_told :
    (standing.told moves).count .complete =
      moves.count (SyncMove.opener standing.kind) * (if standing.toSend.isEmpty then 1 else 0) +
        emptied standing.toCome (moves.filterMap SyncMove.resource?) := by
  induction moves generalizing standing with
  | nil => simp [told, emptied]
  | cons move rest ih =>
      rw [told, List.count_append, ih, completes_replies, after_kind, after_toSend]
      have hopeners : (move :: rest).count (SyncMove.opener standing.kind) =
          (if move = SyncMove.opener standing.kind then 1 else 0) +
            rest.count (SyncMove.opener standing.kind) := by
        by_cases hopener : move = SyncMove.opener standing.kind
        · rw [if_pos hopener, hopener, List.count_cons_self, Nat.add_comm]
        · rw [if_neg hopener, List.count_cons_of_ne hopener, Nat.zero_add]
      rw [hopeners, emptied_cons, Nat.add_mul]
      by_cases hopener : move = SyncMove.opener standing.kind
      · rw [if_pos hopener, if_pos hopener, Nat.one_mul]
        omega
      · rw [if_neg hopener, if_neg hopener, Nat.zero_mul]
        omega

end Standing

end Osvauld.Network
