import Osvauld.Services.ResourceService

namespace Osvauld.Services

open Osvauld.Core Data Persistance

/-! The exchange of the keys of a resource that ends a merge. -/

/-- The keys of `FinalUpdateMerge` and those of the `VectorClockResponse` that
answers it: what is added at the responder and then at the initiator. -/
def exchangeResourceKeys (resourceId : String)
    (initiator responder : RepositoryContext) :
    Except RepositoryError (RepositoryContext × RepositoryContext) := do
  let resourceKeys ← ResourceKeyRepo.findByResourceId resourceId initiator
  let localResourceKeys ← ResourceKeyRepo.findByResourceId resourceId responder
  let (localMissing, remoteMissing) :=
    findMissingResourceKeys localResourceKeys resourceKeys
  let responder' ← ResourceKeyRepo.addResourceKeys localMissing responder
  let initiator' ← ResourceKeyRepo.addResourceKeys remoteMissing initiator
  return (initiator', responder')

structure KeyConstraints (rows : List ResourceKey) : Prop where
  ids : (rows.map ResourceKey.id).Nodup
  pairs : (rows.map fun key => (key.resourceId, key.userId)).Nodup

def keyUsers (ctx : RepositoryContext) (resourceId : String) : List String :=
  (ctx.resourceKeys.filter fun key => key.resourceId = resourceId).map
    ResourceKey.userId

def holdsId (ctx : RepositoryContext) (id : String) : Bool :=
  ctx.resourceKeys.any fun key => key.id = id

variable {rows : List ResourceKey} {ctx ctx' other : RepositoryContext} {resourceId : String}
  {row : ResourceKey}

theorem KeyConstraints.sublist {others : List ResourceKey} (hrows : KeyConstraints rows)
    (hsublist : others.Sublist rows) : KeyConstraints others :=
  ⟨hrows.ids.sublist (hsublist.map _), hrows.pairs.sublist (hsublist.map _)⟩

def Insertable (ctx : RepositoryContext) (row : ResourceKey) : Prop :=
  holdsId ctx row.id = false →
    row.userId ∉ keyUsers ctx row.resourceId ∧
      resourceExists ctx row.resourceId = true ∧ userExists ctx row.userId = true

def withKeys (ctx : RepositoryContext) (rows : List ResourceKey) : RepositoryContext :=
  { ctx with
    resourceKeys := ctx.resourceKeys ++ rows.filter fun row => !holdsId ctx row.id }

theorem mem_keyUsers {userId : String} :
    userId ∈ keyUsers ctx resourceId ↔
      ∃ key ∈ ctx.resourceKeys, key.resourceId = resourceId ∧ key.userId = userId := by
  simp [keyUsers, and_assoc]

theorem clash_iff :
    ((Table.resourceKeys.rows ctx).any fun other =>
        Table.resourceKeys.clash other row) = true ↔
      row.userId ∈ keyUsers ctx row.resourceId := by
  simp [mem_keyUsers, Table.resourceKeys]

theorem withKeys_of_held (hheld : holdsId ctx row.id = true) (rows : List ResourceKey) :
    withKeys ctx (row :: rows) = withKeys ctx rows := by
  simp [withKeys, hheld]

theorem insertKey_eq_ok_iff :
    Table.resourceKeys.insert .doNothing row ctx = .ok ctx' ↔
      Insertable ctx row ∧ ctx' = withKeys ctx [row] := by
  unfold Table.insert
  change (if holdsId ctx row.id = true then _ else _) = _ ↔ _
  cases hheld : holdsId ctx row.id with
  | true =>
      rw [if_pos rfl, withKeys_of_held hheld, Except.ok.injEq]
      have hinsertable : Insertable ctx row := fun hfree => by simp [hheld] at hfree
      have hnothing : withKeys ctx [] = ctx := by simp [withKeys]
      rw [hnothing, and_iff_right hinsertable, eq_comm]
  | false =>
      have hwith : withKeys ctx [row] =
          { ctx with resourceKeys := ctx.resourceKeys ++ [row] } := by
        simp [withKeys, hheld]
      rw [if_neg Bool.false_ne_true, hwith]
      by_cases hclash : row.userId ∈ keyUsers ctx row.resourceId
      · rw [if_pos (clash_iff.mpr hclash)]
        simp [Insertable, hheld, hclash]
      rw [if_neg (mt clash_iff.mp hclash)]
      have hreferenced : Table.resourceKeys.referenced ctx row = true ↔
          resourceExists ctx row.resourceId = true ∧ userExists ctx row.userId = true := by
        simp [Table.resourceKeys]
      by_cases hexists : resourceExists ctx row.resourceId = true ∧
          userExists ctx row.userId = true
      · have hinsertable : Insertable ctx row := fun _ => ⟨hclash, hexists⟩
        rw [if_pos (hreferenced.mpr hexists), Except.ok.injEq,
          and_iff_right hinsertable, eq_comm]
        rfl
      · rw [if_neg (mt hreferenced.mp hexists)]
        simp [Insertable, hheld, hexists]

theorem holdsId_withKeys {id : String} (hid : row.id ≠ id) :
    holdsId (withKeys ctx [row]) id = holdsId ctx id := by
  have hnew : ((([row] : List ResourceKey).filter fun row => !holdsId ctx row.id).any
      fun key => key.id = id) = false := by
    simp [hid]
  rw [holdsId, withKeys]
  simp only [List.any_append, hnew, Bool.or_false]
  rfl

theorem mem_keyUsers_withKeys {userId : String} :
    userId ∈ keyUsers (withKeys ctx rows) resourceId ↔
      userId ∈ keyUsers ctx resourceId ∨
        ∃ row ∈ rows, holdsId ctx row.id = false ∧ row.resourceId = resourceId ∧
          row.userId = userId := by
  simp only [mem_keyUsers, withKeys, List.mem_append, List.mem_filter,
    Bool.not_eq_true', or_and_right, exists_or, and_assoc]

theorem insertable_withKeys_iff {other : ResourceKey} (hid : row.id ≠ other.id)
    (hpair : (row.resourceId, row.userId) ≠ (other.resourceId, other.userId)) :
    Insertable (withKeys ctx [row]) other ↔ Insertable ctx other := by
  have husers : other.userId ∈ keyUsers (withKeys ctx [row]) other.resourceId ↔
      other.userId ∈ keyUsers ctx other.resourceId := by
    rw [mem_keyUsers_withKeys, or_iff_left_iff_imp]
    rintro ⟨found, hfound, _, hresource, huser⟩
    obtain rfl := List.mem_singleton.mp hfound
    exact absurd (Prod.ext hresource huser) hpair
  unfold Insertable
  rw [holdsId_withKeys hid, husers]
  rfl

theorem withKeys_cons (hids : ∀ other ∈ rows, row.id ≠ other.id) :
    withKeys (withKeys ctx [row]) rows = withKeys ctx (row :: rows) := by
  have hfilter : (rows.filter fun other => !holdsId (withKeys ctx [row]) other.id) =
      rows.filter fun other => !holdsId ctx other.id :=
    List.filter_congr fun other hother => by rw [holdsId_withKeys (hids other hother)]
  unfold withKeys at hfilter ⊢
  simp only [hfilter]
  cases hheld : holdsId ctx row.id <;> simp [hheld]

theorem insertKeys_eq_ok_iff (hrows : KeyConstraints rows) :
    Table.resourceKeys.insertAll .doNothing rows ctx = .ok ctx' ↔
      (∀ row ∈ rows, Insertable ctx row) ∧ ctx' = withKeys ctx rows := by
  induction rows generalizing ctx with
  | nil => simp [Table.insertAll, withKeys, pure, Except.pure, eq_comm]
  | cons row rows ih =>
      have hrest := hrows.sublist (List.sublist_cons_self row rows)
      have hids : ∀ other ∈ rows, row.id ≠ other.id := by
        simpa [eq_comm] using (List.nodup_cons.mp hrows.ids).1
      have hpairs : ∀ other ∈ rows,
          (row.resourceId, row.userId) ≠ (other.resourceId, other.userId) := by
        intro other hother heq
        exact (List.nodup_cons.mp hrows.pairs).1
          (List.mem_map.mpr ⟨other, hother, heq.symm⟩)
      rw [Table.insertAll, List.foldlM_cons, bind_eq_ok]
      simp only [insertKey_eq_ok_iff, and_assoc, exists_and_left, exists_eq_left]
      rw [← Table.insertAll, ih hrest, withKeys_cons hids, List.forall_mem_cons, and_assoc]
      refine and_congr_right fun _ => and_congr_left fun _ => ?_
      exact forall₂_congr fun other hother =>
        insertable_withKeys_iff (hids other hother) (hpairs other hother)

theorem addResourceKeys_eq_ok_iff (hrows : KeyConstraints rows) :
    ResourceKeyRepo.addResourceKeys rows ctx = .ok ctx' ↔
      (∀ row ∈ rows, Insertable ctx row) ∧ ctx' = withKeys ctx rows := by
  rw [ResourceKeyRepo.addResourceKeys, reportAs_eq_ok, insertKeys_eq_ok_iff hrows]

/-- The keys of the other side fit in: a key's id is taken exactly when its user
has a key, and a new key is for a resource and a user that are stored here. -/
def KeysFit (resourceId : String) (other ctx : RepositoryContext) : Prop :=
  ∀ key ∈ other.resourceKeys, key.resourceId = resourceId →
    (holdsId ctx key.id = true ↔ key.userId ∈ keyUsers ctx resourceId) ∧
      (holdsId ctx key.id = false →
        resourceExists ctx resourceId = true ∧ userExists ctx key.userId = true)

def missingKeys (resourceId : String) (other ctx : RepositoryContext) :
    List ResourceKey :=
  withoutId ResourceKey.id
    (other.resourceKeys.filter fun key => key.resourceId = resourceId)
    (ctx.resourceKeys.filter fun key => key.resourceId = resourceId)

theorem KeyConstraints.missing (hother : KeyConstraints other.resourceKeys) :
    KeyConstraints (missingKeys resourceId other ctx) :=
  hother.sublist (List.filter_sublist.trans List.filter_sublist)

theorem mem_missingKeys :
    row ∈ missingKeys resourceId other ctx ↔
      (row ∈ other.resourceKeys ∧ row.resourceId = resourceId) ∧
        ∀ key ∈ ctx.resourceKeys, key.resourceId = resourceId → key.id ≠ row.id := by
  simp only [missingKeys, withoutId, List.mem_filter, Bool.not_eq_true',
    List.any_eq_false, decide_eq_true_eq, and_imp]

theorem holdsId_eq_false {id : String} :
    holdsId ctx id = false ↔ ∀ key ∈ ctx.resourceKeys, key.id ≠ id := by
  simp [holdsId]

theorem KeyConstraints.withKeys (hctx : KeyConstraints ctx.resourceKeys)
    (hrows : KeyConstraints rows) (hinsertable : ∀ row ∈ rows, Insertable ctx row) :
    KeyConstraints (withKeys ctx rows).resourceKeys := by
  have hnew := hrows.sublist
    (List.filter_sublist (p := fun row => !holdsId ctx row.id) (l := rows))
  constructor
  · rw [Services.withKeys, List.map_append]
    refine hctx.ids.append hnew.ids ?_
    intro id hheld hadded
    obtain ⟨key, hkey, rfl⟩ := List.mem_map.mp hheld
    obtain ⟨row, hrow, hid⟩ := List.mem_map.mp hadded
    obtain ⟨_, hfree⟩ := List.mem_filter.mp hrow
    exact holdsId_eq_false.mp (by simpa using hfree) key hkey hid.symm
  · rw [Services.withKeys, List.map_append]
    refine hctx.pairs.append hnew.pairs ?_
    intro pair hheld hadded
    obtain ⟨key, hkey, rfl⟩ := List.mem_map.mp hheld
    obtain ⟨row, hrow, hpair⟩ := List.mem_map.mp hadded
    obtain ⟨hmem, hfree⟩ := List.mem_filter.mp hrow
    refine (hinsertable row hmem (by simpa using hfree)).1 (mem_keyUsers.mpr ⟨key, hkey, ?_⟩)
    exact ⟨(congrArg Prod.fst hpair).symm, (congrArg Prod.snd hpair).symm⟩

theorem add_missing_iff (hother : KeyConstraints other.resourceKeys) :
    ((∀ row ∈ missingKeys resourceId other ctx, Insertable ctx row) ∧
      ∀ user, user ∈ keyUsers (withKeys ctx (missingKeys resourceId other ctx))
        resourceId ↔ user ∈ keyUsers ctx resourceId ∨ user ∈ keyUsers other resourceId) ↔
    KeysFit resourceId other ctx := by
  have hmissing : ∀ key ∈ other.resourceKeys, key.resourceId = resourceId →
      holdsId ctx key.id = false → key ∈ missingKeys resourceId other ctx :=
    fun key hkey hresource hfree => mem_missingKeys.mpr
      ⟨⟨hkey, hresource⟩, fun held hheld _ => holdsId_eq_false.mp hfree held hheld⟩
  constructor
  · rintro ⟨hinsertable, husers⟩ key hkey hresource
    have hnew : holdsId ctx key.id = false → key.userId ∉ keyUsers ctx resourceId ∧
        resourceExists ctx resourceId = true ∧ userExists ctx key.userId = true := by
      intro hfree
      rw [← hresource]
      exact hinsertable key (hmissing key hkey hresource hfree) hfree
    refine ⟨⟨fun hheld => ?_, fun huser => ?_⟩, fun hfree => (hnew hfree).2⟩
    · have hafter := (husers key.userId).mpr
        (.inr (mem_keyUsers.mpr ⟨key, hkey, hresource, rfl⟩))
      rcases mem_keyUsers_withKeys.mp hafter with hstored | ⟨row, hrow, hfree, heq⟩
      · exact hstored
      · -- The row and the key are one, as they are for the same user.
        obtain ⟨⟨hrowMem, _⟩, _⟩ := mem_missingKeys.mp hrow
        obtain rfl : row = key := List.inj_on_of_nodup_map hother.pairs hrowMem hkey
          (Prod.ext (heq.1.trans hresource.symm) heq.2)
        exact absurd hheld (by simp [hfree])
    · by_contra hfree
      exact (hnew (Bool.not_eq_true _ ▸ hfree)).1 huser
  · intro hfit
    refine ⟨fun row hrow hfree => ?_, fun user => ?_⟩
    · obtain ⟨⟨hrowMem, hresource⟩, _⟩ := mem_missingKeys.mp hrow
      obtain ⟨hiff, hexists⟩ := hfit row hrowMem hresource
      rw [hresource]
      exact ⟨fun huser => by simp [hiff.mpr huser] at hfree, hexists hfree⟩
    · rw [mem_keyUsers_withKeys]
      refine or_congr_right' fun hnone => ⟨?_, fun huser => ?_⟩
      · rintro ⟨row, hrow, _, hresource, huser⟩
        obtain ⟨⟨hrowMem, _⟩, _⟩ := mem_missingKeys.mp hrow
        exact mem_keyUsers.mpr ⟨row, hrowMem, hresource, huser⟩
      · obtain ⟨key, hkey, hresource, rfl⟩ := mem_keyUsers.mp huser
        have hfree : holdsId ctx key.id = false := by
          rw [← Bool.not_eq_true]
          exact mt (hfit key hkey hresource).1.mp hnone
        exact ⟨key, hmissing key hkey hresource hfree, hfree, hresource, rfl⟩

/-- Both sides have their keys added, keep their constraints, and then have keys
for the users of either. -/
def Converges (resourceId : String) (initiator responder : RepositoryContext) : Prop :=
  ∃ initiator' responder',
    exchangeResourceKeys resourceId initiator responder =
      .ok (initiator', responder') ∧
    KeyConstraints initiator'.resourceKeys ∧ KeyConstraints responder'.resourceKeys ∧
    ∀ user, (user ∈ keyUsers initiator' resourceId ↔
        user ∈ keyUsers initiator resourceId ∨ user ∈ keyUsers responder resourceId) ∧
      (user ∈ keyUsers responder' resourceId ↔
        user ∈ keyUsers initiator resourceId ∨ user ∈ keyUsers responder resourceId)

theorem exchangeResourceKeys_eq_ok_iff
    {initiator responder initiator' responder' : RepositoryContext}
    (hinitiator : KeyConstraints initiator.resourceKeys)
    (hresponder : KeyConstraints responder.resourceKeys) :
    exchangeResourceKeys resourceId initiator responder =
        .ok (initiator', responder') ↔
      ((∀ row ∈ missingKeys resourceId initiator responder, Insertable responder row) ∧
        responder' = withKeys responder (missingKeys resourceId initiator responder)) ∧
      (∀ row ∈ missingKeys resourceId responder initiator, Insertable initiator row) ∧
        initiator' = withKeys initiator (missingKeys resourceId responder initiator) := by
  rw [← addResourceKeys_eq_ok_iff hinitiator.missing,
    ← addResourceKeys_eq_ok_iff hresponder.missing]
  have hsteps : exchangeResourceKeys resourceId initiator responder = do
      let responder' ← ResourceKeyRepo.addResourceKeys
        (missingKeys resourceId initiator responder) responder
      let initiator' ← ResourceKeyRepo.addResourceKeys
        (missingKeys resourceId responder initiator) initiator
      return (initiator', responder') := rfl
  rw [hsteps, bind_eq_ok]
  constructor
  · rintro ⟨added, hresponder', hrest⟩
    rw [bind_eq_ok] at hrest
    obtain ⟨answered, hinitiator', hresult⟩ := hrest
    cases hresult
    exact ⟨hresponder', hinitiator'⟩
  · rintro ⟨hresponder', hinitiator'⟩
    refine ⟨responder', hresponder', ?_⟩
    rw [hinitiator']
    rfl

/-- The exchange converges exactly when the keys of each side fit the other. -/
theorem key_exchange_converges_iff (resourceId : String)
    (initiator responder : RepositoryContext)
    (hinitiator : KeyConstraints initiator.resourceKeys)
    (hresponder : KeyConstraints responder.resourceKeys) :
    Converges resourceId initiator responder ↔
      KeysFit resourceId initiator responder ∧
        KeysFit resourceId responder initiator := by
  rw [← add_missing_iff hinitiator, ← add_missing_iff hresponder]
  constructor
  · rintro ⟨initiator', responder', hexchange, _, _, husers⟩
    obtain ⟨⟨hforward, rfl⟩, hbackward, rfl⟩ :=
      (exchangeResourceKeys_eq_ok_iff hinitiator hresponder).mp hexchange
    exact ⟨⟨hforward, fun user => (husers user).2.trans or_comm⟩,
      hbackward, fun user => (husers user).1⟩
  · rintro ⟨⟨hforward, hresponderUsers⟩, hbackward, hinitiatorUsers⟩
    refine ⟨_, _, (exchangeResourceKeys_eq_ok_iff hinitiator hresponder).mpr
      ⟨⟨hforward, rfl⟩, hbackward, rfl⟩, ?_, ?_, fun user => ?_⟩
    · exact hinitiator.withKeys hresponder.missing hbackward
    · exact hresponder.withKeys hinitiator.missing hforward
    · exact ⟨hinitiatorUsers user, (hresponderUsers user).trans or_comm⟩

def keyStore (keys : List ResourceKey) : RepositoryContext :=
  { users := [.sample "P", .sample "Q", .sample "R"]
    resources := [.new "a" 0 .notes (.other "") "folder" "" "R"]
    resourceKeys := keys }

def noteKey (id userId : String) : ResourceKey :=
  .new id 0 "a" userId (.other "") false

/-- The two keys of `Q` differ in their ids, and the exchange fails. -/
theorem key_exchange_clashes :
    let initiator := keyStore [noteKey "k-R" "R", noteKey "k-Q" "Q"]
    let responder := keyStore [noteKey "k-R" "R", noteKey "k-Q'" "Q"]
    KeyConstraints initiator.resourceKeys ∧ KeyConstraints responder.resourceKeys ∧
      ¬Converges "a" initiator responder := by
  intro initiator responder
  refine ⟨⟨by decide, by decide⟩, ⟨by decide, by decide⟩, ?_⟩
  rintro ⟨initiator', responder', hexchange, _⟩
  have hfails : (exchangeResourceKeys "a" initiator responder).isOk = false := by
    decide +kernel
  rw [hexchange] at hfails
  cases hfails

theorem key_exchange_converges_iff_disjoint :
    Converges "a" (keyStore [noteKey "k-R" "R", noteKey "k-Q" "Q"])
      (keyStore [noteKey "k-R" "R", noteKey "k-P" "P"]) := by
  refine (key_exchange_converges_iff "a" _ _ ⟨by decide, by decide⟩
    ⟨by decide, by decide⟩).mpr ⟨?_, ?_⟩
  · unfold KeysFit
    decide +kernel
  · unfold KeysFit
    decide +kernel

end Osvauld.Services
