import Mathlib.Data.List.MinMax
import Mathlib.Data.List.Nodup
import Mathlib.Order.WithBot

namespace Osvauld.Data

/-! Replicated maps in which the last writer of a key wins. Every write carries a
stamp, and of two values for a key the one with the later stamp is kept. -/

section Latest

variable {Stamp V : Type*} [LinearOrder Stamp]

def writtenAt (entry : Option (Stamp × V)) : WithBot Stamp :=
  match entry with
  | none => ⊥
  | some (stamp, _) => stamp

def latest (entry other : Option (Stamp × V)) : Option (Stamp × V) :=
  if writtenAt entry < writtenAt other then other else entry

variable {entry other : Option (Stamp × V)}

theorem latest_of_lt (hlt : writtenAt entry < writtenAt other) : latest entry other = other :=
  if_pos hlt

theorem latest_of_le (hle : writtenAt other ≤ writtenAt entry) : latest entry other = entry :=
  if_neg hle.not_gt

@[simp] theorem latest_none (entry : Option (Stamp × V)) : latest none entry = entry := by
  cases entry with
  | none => simp [latest]
  | some written =>
      apply latest_of_lt
      simp [writtenAt]

theorem isSome_latest (entry other : Option (Stamp × V)) :
    (latest entry other).isSome ↔ entry.isSome ∨ other.isSome := by
  unfold latest
  split
  · next hlt =>
      cases other with
      | none => simp [writtenAt] at hlt
      | some written => simp
  · next hle =>
      cases entry with
      | none =>
          cases other with
          | none => simp
          | some written => simp [writtenAt] at hle
      | some written => simp

theorem latest_comm (hsame : writtenAt entry = writtenAt other → entry = other) :
    latest entry other = latest other entry := by
  rcases lt_trichotomy (writtenAt entry) (writtenAt other) with hlt | heq | hgt
  · rw [latest_of_lt hlt, latest_of_le hlt.le]
  · rw [hsame heq]
  · rw [latest_of_le hgt.le, latest_of_lt hgt]

end Latest

/-- `order` is the one in which the keys are gone through. -/
structure LastWriterMap (K V Stamp : Type*) where
  entry : K → Option (Stamp × V)
  order : List K
  mem_order : ∀ key, key ∈ order ↔ (entry key).isSome
  nodup_order : order.Nodup

namespace LastWriterMap

variable {K V Stamp : Type*}

def empty : LastWriterMap K V Stamp where
  entry := fun _ => none
  order := []
  mem_order := by simp
  nodup_order := List.nodup_nil

def get (map : LastWriterMap K V Stamp) (key : K) : Option V :=
  (map.entry key).map fun written => written.2

def insert [DecidableEq K] (map : LastWriterMap K V Stamp) (key : K) (stamp : Stamp)
    (value : V) : LastWriterMap K V Stamp where
  entry := fun other => if other = key then some (stamp, value) else map.entry other
  order := if key ∈ map.order then map.order else map.order ++ [key]
  mem_order := by
    intro other
    by_cases hother : other = key
    · subst hother
      by_cases hmem : other ∈ map.order <;> simp [hmem]
    · by_cases hmem : key ∈ map.order <;> simp [hmem, hother, map.mem_order]
  nodup_order := by
    split
    · exact map.nodup_order
    · next hmem => simpa [List.nodup_append] using ⟨map.nodup_order, fun _ hother heq =>
        hmem (heq ▸ hother)⟩

@[simp] theorem entry_insert [DecidableEq K] (map : LastWriterMap K V Stamp)
    (key other : K) (stamp : Stamp) (value : V) :
    (map.insert key stamp value).entry other =
      if other = key then some (stamp, value) else map.entry other := rfl

def Merges [LinearOrder Stamp] (own received merged : LastWriterMap K V Stamp) : Prop :=
  ∀ key, merged.entry key = latest (own.entry key) (received.entry key)

theorem merges_empty [LinearOrder Stamp] {received merged : LastWriterMap K V Stamp}
    (hmerges : Merges empty received merged) : merged.entry = received.entry :=
  funext fun key => (hmerges key).trans (latest_none _)

/-- Both maps in one; the keys of the first come first. -/
def merge [DecidableEq K] [LinearOrder Stamp] (own received : LastWriterMap K V Stamp) :
    LastWriterMap K V Stamp where
  entry := fun key => latest (own.entry key) (received.entry key)
  order := own.order ++ received.order.filter fun key => key ∉ own.order
  mem_order := by
    intro key
    rw [isSome_latest, ← own.mem_order, ← received.mem_order]
    by_cases hown : key ∈ own.order <;> simp [hown]
  nodup_order := by
    rw [List.nodup_append]
    refine ⟨own.nodup_order, received.nodup_order.filter _, fun key hown other hother heq => ?_⟩
    subst heq
    simp [hown] at hother

theorem merges_merge [DecidableEq K] [LinearOrder Stamp]
    (own received : LastWriterMap K V Stamp) : Merges own received (merge own received) :=
  fun _ => rfl

end LastWriterMap

/-! Replicated maps from which keys are deleted. A write has an item of its own, and a
deletion is of the writes that are known where it is made: one that is not known there
stays. -/

structure MapWrite (K V : Type*) where
  item : Nat
  key : K
  value : V
deriving DecidableEq

structure ReplicatedMap (K V : Type*) where
  sets : List (MapWrite K V)
  deleted : List (MapWrite K V)
deriving DecidableEq

namespace ReplicatedMap

variable {K V : Type*}

def empty : ReplicatedMap K V := ⟨[], []⟩

def set (item : Nat) (key : K) (value : V) (map : ReplicatedMap K V) :
    ReplicatedMap K V :=
  { map with sets := map.sets ++ [⟨item, key, value⟩] }

def WasDeleted (map : ReplicatedMap K V) (key : K) : Prop :=
  ∃ write ∈ map.deleted, write.key = key

def Known (map : ReplicatedMap K V) : Prop := ∀ write ∈ map.deleted, write ∈ map.sets

def Settled (first second : ReplicatedMap K V) : Prop :=
  ∀ write ∈ first.deleted, ∀ other ∈ second.sets, other.key = write.key →
    other ∈ first.deleted ∨ other ∈ second.deleted

section Reads

variable [DecidableEq K] [DecidableEq V]

def left (map : ReplicatedMap K V) (key : K) : List (MapWrite K V) :=
  map.sets.filter fun write => write.key = key ∧ write ∉ map.deleted

def get (map : ReplicatedMap K V) (key : K) : Option V :=
  ((map.left key).argmax MapWrite.item).map MapWrite.value

def values (map : ReplicatedMap K V) : List V :=
  (map.sets.map MapWrite.key).reverse.dedup.reverse.filterMap map.get

def delete (key : K) (map : ReplicatedMap K V) : ReplicatedMap K V :=
  { map with deleted := map.deleted ++ map.left key }

def merge (own received : ReplicatedMap K V) : ReplicatedMap K V where
  sets := own.sets ∪ received.sets
  deleted := own.deleted ∪ received.deleted

instance (map : ReplicatedMap K V) (key : K) : Decidable (map.WasDeleted key) :=
  inferInstanceAs (Decidable (∃ _ ∈ _, _))

variable {map before after : ReplicatedMap K V} {item : Nat} {keys : K → Prop}

theorem mem_left {key : K} {write : MapWrite K V} :
    write ∈ map.left key ↔ write ∈ map.sets ∧ write.key = key ∧ write ∉ map.deleted := by
  simp [left]

theorem get_eq_none {key : K} : map.get key = none ↔ map.left key = [] := by
  rw [get, Option.map_eq_none_iff, List.argmax_eq_none]

theorem left_set_of_ne {map : ReplicatedMap K V} {item : Nat} {key other : K} {value : V}
    (hne : other ≠ key) : (map.set item key value).left other = map.left other := by
  unfold left set
  rw [List.filter_append, (@List.filter_eq_nil_iff _ _ [_]).mpr, List.append_nil]
  simp [hne.symm]

theorem delete_of_none {key : K} (hnone : map.get key = none) : map.delete key = map := by
  rw [delete, get_eq_none.mp hnone, List.append_nil]

structure Adds (item : Nat) (keys : K → Prop) (before after : ReplicatedMap K V) :
    Prop where
  deleted : after.deleted = before.deleted
  kept : ∀ write ∈ before.sets, write ∈ after.sets
  added : ∀ write ∈ after.sets, write ∈ before.sets ∨ write.item = item ∧ keys write.key
  all : ∀ key, keys key → ∃ write ∈ after.sets, write.item = item ∧ write.key = key
  others : ∀ key, ¬ keys key → after.left key = before.left key

theorem adds_refl (map : ReplicatedMap K V) : Adds item (fun _ => False) map map :=
  ⟨rfl, fun _ hwrite => hwrite, fun _ hwrite => .inl hwrite, fun _ hkey => hkey.elim,
    fun _ _ => rfl⟩

theorem adds_set (item : Nat) (key : K) (value : V) (map : ReplicatedMap K V) :
    Adds item (fun other => other = key) map (map.set item key value) where
  deleted := rfl
  kept write hwrite := List.mem_append_left _ hwrite
  added write hwrite := by
    rcases List.mem_append.mp hwrite with hold | hnew
    · exact .inl hold
    · rw [List.mem_singleton] at hnew
      subst hnew
      exact .inr ⟨rfl, rfl⟩
  all other hother := by
    subst hother
    exact ⟨_, List.mem_append_right _ (List.mem_singleton_self _), rfl, rfl⟩
  others _ hother := left_set_of_ne hother

theorem Adds.trans {first second : K → Prop} {middle : ReplicatedMap K V}
    (hfirst : Adds item first before middle) (hsecond : Adds item second middle after) :
    Adds item (fun key => first key ∨ second key) before after where
  deleted := hsecond.deleted.trans hfirst.deleted
  kept write hwrite := hsecond.kept write (hfirst.kept write hwrite)
  added write hwrite := by
    rcases hsecond.added write hwrite with hmiddle | ⟨hitem, hkey⟩
    · rcases hfirst.added write hmiddle with hbefore | ⟨hitem, hkey⟩
      · exact .inl hbefore
      · exact .inr ⟨hitem, .inl hkey⟩
    · exact .inr ⟨hitem, .inr hkey⟩
  all key hkey := by
    rcases hkey with hkey | hkey
    · obtain ⟨write, hwrite, hsame⟩ := hfirst.all key hkey
      exact ⟨write, hsecond.kept write hwrite, hsame⟩
    · exact hsecond.all key hkey
  others key hkey := by
    rw [not_or] at hkey
    rw [hsecond.others key hkey.2, hfirst.others key hkey.1]

theorem Adds.congr {others : K → Prop} (hadds : Adds item keys before after)
    (hsame : ∀ key, keys key ↔ others key) : Adds item others before after := by
  rwa [← funext fun key => propext (hsame key)]

theorem Adds.get_of_not (hadds : Adds item keys before after) {key : K} (hkey : ¬ keys key) :
    after.get key = before.get key := by
  rw [get, get, hadds.others key hkey]

theorem Known.adds (hknown : before.Known) (hadds : Adds item keys before after) : after.Known := by
  intro write hwrite
  rw [hadds.deleted] at hwrite
  exact hadds.kept write (hknown write hwrite)

theorem Known.delete (hknown : map.Known) (key : K) : (map.delete key).Known := by
  intro write hwrite
  rcases List.mem_append.mp hwrite with hold | hnew
  · exact hknown write hold
  · exact (mem_left.mp hnew).1

theorem Known.merge {own received : ReplicatedMap K V} (hown : own.Known)
    (hreceived : received.Known) : (own.merge received).Known := by
  intro write hwrite
  rcases List.mem_union_iff.mp hwrite with hwrite | hwrite
  · exact List.mem_union_iff.mpr (.inl (hown write hwrite))
  · exact List.mem_union_iff.mpr (.inr (hreceived write hwrite))

end Reads

section Replicas

variable {ι : Type*} [DecidableEq K] [DecidableEq V]

/-- Whatever one of two replicas has deleted is gone when they have put together what
they know. -/
def DeletionsFinal (maps : ι → ReplicatedMap K V) : Prop :=
  ∀ first second key, (maps first).WasDeleted key ∨ (maps second).WasDeleted key →
    ((maps first).merge (maps second)).get key = none

theorem deletionsFinal_iff {maps : ι → ReplicatedMap K V} :
    DeletionsFinal maps ↔ ∀ first second, Settled (maps first) (maps second) := by
  constructor
  · intro hfinal first second write hwrite other hother hkey
    have hgone := hfinal first second write.key (.inl ⟨write, hwrite, rfl⟩)
    rw [get_eq_none, List.eq_nil_iff_forall_not_mem] at hgone
    by_contra hleft
    rw [← List.mem_union_iff] at hleft
    exact hgone other (mem_left.mpr ⟨List.mem_union_iff.mpr (.inr hother), hkey, hleft⟩)
  · intro hsettled first second key hdeleted
    have hgone : ∀ one another, (maps one).WasDeleted key →
        (∀ side, side = one ∨ side = another → ∀ write ∈ (maps side).sets, write.key = key →
          write ∈ (maps one).deleted ∨ write ∈ (maps another).deleted) := by
      rintro one another ⟨found, hfound, rfl⟩ side hside write hwrite hkey
      rcases hside with rfl | rfl
      · exact (hsettled side side found hfound write hwrite hkey).elim .inl .inl
      · exact hsettled one side found hfound write hwrite hkey
    rw [get_eq_none, List.eq_nil_iff_forall_not_mem]
    intro write hwrite
    obtain ⟨hset, hkey, hleft⟩ := mem_left.mp hwrite
    apply hleft
    rw [merge, List.mem_union_iff]
    rcases hdeleted with hdeleted | hdeleted
    · rcases List.mem_union_iff.mp hset with hset | hset
      · exact hgone first second hdeleted first (.inl rfl) write hset hkey
      · exact hgone first second hdeleted second (.inr rfl) write hset hkey
    · apply Or.symm
      rcases List.mem_union_iff.mp hset with hset | hset
      · exact hgone second first hdeleted first (.inr rfl) write hset hkey
      · exact hgone second first hdeleted second (.inl rfl) write hset hkey

structure Sound (maps : ι → ReplicatedMap K V) : Prop where
  known : ∀ side, (maps side).Known
  settled : ∀ first second, Settled (maps first) (maps second)

variable [DecidableEq ι] {maps : ι → ReplicatedMap K V} {side : ι}

omit [DecidableEq K] [DecidableEq V] in
theorem Sound.update {map : ReplicatedMap K V} (hsound : Sound maps) (hknown : map.Known)
    (hself : Settled map map) (hto : ∀ other, other ≠ side → Settled map (maps other))
    (hfrom : ∀ other, other ≠ side → Settled (maps other) map) :
    Sound (Function.update maps side map) where
  known other := by
    by_cases hother : other = side
    · subst hother
      rwa [Function.update_self]
    · rw [Function.update_of_ne hother]
      exact hsound.known other
  settled first second := by
    by_cases hfirst : first = side
    · subst hfirst
      rw [Function.update_self]
      by_cases hsecond : second = first
      · subst hsecond
        rwa [Function.update_self]
      · rw [Function.update_of_ne hsecond]
        exact hto second hsecond
    · rw [Function.update_of_ne hfirst]
      by_cases hsecond : second = side
      · subst hsecond
        rw [Function.update_self]
        exact hfrom first hfirst
      · rw [Function.update_of_ne hsecond]
        exact hsound.settled first second

theorem Settled.merge_left {own received other : ReplicatedMap K V}
    (hown : Settled own other) (hreceived : Settled received other) :
    Settled (own.merge received) other := by
  intro write hwrite found hfound hkey
  rcases List.mem_union_iff.mp hwrite with hwrite | hwrite
  · exact (hown write hwrite found hfound hkey).imp_left
      fun hgone => List.mem_union_iff.mpr (.inl hgone)
  · exact (hreceived write hwrite found hfound hkey).imp_left
      fun hgone => List.mem_union_iff.mpr (.inr hgone)

theorem Settled.merge_right {own received other : ReplicatedMap K V}
    (hown : Settled other own) (hreceived : Settled other received) :
    Settled other (own.merge received) := by
  intro write hwrite found hfound hkey
  rcases List.mem_union_iff.mp hfound with hfound | hfound
  · exact (hown write hwrite found hfound hkey).imp_right
      fun hgone => List.mem_union_iff.mpr (.inl hgone)
  · exact (hreceived write hwrite found hfound hkey).imp_right
      fun hgone => List.mem_union_iff.mpr (.inr hgone)

theorem Sound.merge (hsound : Sound maps) (sender receiver : ι) :
    Sound (Function.update maps receiver ((maps receiver).merge (maps sender))) := by
  have hto : ∀ other, Settled ((maps receiver).merge (maps sender)) (maps other) :=
    fun other => (hsound.settled receiver other).merge_left (hsound.settled sender other)
  apply hsound.update
  · exact (hsound.known receiver).merge (hsound.known sender)
  · exact (hto receiver).merge_right (hto sender)
  · exact fun other _ => hto other
  · exact fun other _ => (hsound.settled other receiver).merge_right (hsound.settled other sender)

section

variable {item : Nat} {keys : K → Prop} {after : ReplicatedMap K V} (hsound : Sound maps)
  (hadds : Adds item keys (maps side) after)

include hsound hadds

theorem Sound.adds (htimely : ∀ key, keys key → ∀ other, ¬ (maps other).WasDeleted key) :
    Sound (Function.update maps side after) := by
  have hto : ∀ other, Settled after (maps other) := by
    intro other write hwrite
    rw [hadds.deleted] at hwrite ⊢
    exact hsound.settled side other write hwrite
  have hfrom : ∀ map : ReplicatedMap K V, Settled map (maps side) →
      (∀ key, keys key → ¬ map.WasDeleted key) → Settled map after := by
    intro map hmap hkeys write hwrite found hfound hkey
    rw [hadds.deleted]
    rcases hadds.added found hfound with hold | ⟨-, hnew⟩
    · exact hmap write hwrite found hold hkey
    · exact absurd ⟨write, hwrite, hkey.symm⟩ (hkeys found.key hnew)
  apply hsound.update
  · exact (hsound.known side).adds hadds
  · apply hfrom after (hto side)
    intro key hkey
    unfold WasDeleted
    rw [hadds.deleted]
    exact htimely key hkey side
  · exact fun other _ => hto other
  · exact fun other _ => hfrom (maps other) (hsound.settled other side)
      fun key hkey => htimely key hkey other

theorem timely_of_adds (hnew : ∀ other, ∀ write ∈ (maps other).sets, write.item ≠ item)
    (hfinal : DeletionsFinal (Function.update maps side after)) {key : K} (hkey : keys key)
    (other : ι) : ¬ (maps other).WasDeleted key := by
  rintro ⟨found, hfound, rfl⟩
  obtain ⟨write, hwrite, hitem, hsame⟩ := hadds.all found.key hkey
  have hgone := deletionsFinal_iff.mp hfinal other side
  rw [Function.update_self] at hgone
  have hthere : found ∈ (Function.update maps side after other).deleted := by
    by_cases hother : other = side
    · subst hother
      rwa [Function.update_self, hadds.deleted]
    · rwa [Function.update_of_ne hother]
  rcases hgone found hthere write hwrite hsame with hdeleted | hdeleted
  · by_cases hother : other = side
    · subst hother
      rw [Function.update_self, hadds.deleted] at hdeleted
      exact hnew other write (hsound.known other write hdeleted) hitem
    · rw [Function.update_of_ne hother] at hdeleted
      exact hnew other write (hsound.known other write hdeleted) hitem
  · rw [hadds.deleted] at hdeleted
    exact hnew side write (hsound.known side write hdeleted) hitem

end

theorem Sound.delete {key : K} (hsound : Sound maps)
    (htimely : (maps side).get key ≠ none → ∀ other, ∀ write ∈ (maps other).left key,
      write ∈ (maps side).sets) :
    Sound (Function.update maps side ((maps side).delete key)) := by
  by_cases hnone : (maps side).get key = none
  · rw [delete_of_none hnone, Function.update_eq_self]
    exact hsound
  · have hfrom : ∀ map : ReplicatedMap K V, Settled map (maps side) →
        Settled map ((maps side).delete key) := by
      intro map hmap write hwrite found hfound hkey
      exact (hmap write hwrite found hfound hkey).imp_right (List.mem_append_left _)
    have hto : ∀ other, Settled ((maps side).delete key) (maps other) := by
      intro other write hwrite found hfound hkey
      rcases List.mem_append.mp hwrite with hold | hnew
      · exact (hsound.settled side other write hold found hfound hkey).imp_left
          (List.mem_append_left _)
      · obtain ⟨-, rfl, -⟩ := mem_left.mp hnew
        by_cases hdeleted : found ∈ (maps other).deleted
        · exact .inr hdeleted
        · have hset := htimely hnone other found (mem_left.mpr ⟨hfound, hkey, hdeleted⟩)
          by_cases hown : found ∈ (maps side).deleted
          · exact .inl (List.mem_append_left _ hown)
          · exact .inl (List.mem_append_right _ (mem_left.mpr ⟨hset, hkey, hown⟩))
    apply hsound.update
    · exact (hsound.known side).delete key
    · exact hfrom _ (hto side)
    · exact fun other _ => hto other
    · exact fun other _ => hfrom _ (hsound.settled other side)

theorem timely_of_delete {key : K} (hsound : Sound maps)
    (hfinal : DeletionsFinal (Function.update maps side ((maps side).delete key)))
    (hthere : (maps side).get key ≠ none) (other : ι) :
    ∀ write ∈ (maps other).left key, write ∈ (maps side).sets := by
  intro write hwrite
  obtain ⟨hset, hkey, hleft⟩ := mem_left.mp hwrite
  by_cases hother : other = side
  · exact hother ▸ hset
  · have hgone := deletionsFinal_iff.mp hfinal side other
    rw [Function.update_self, Function.update_of_ne hother] at hgone
    obtain ⟨found, hfound⟩ := List.exists_mem_of_ne_nil _ (mt get_eq_none.mpr hthere)
    have hsame := (mem_left.mp hfound).2.1
    rcases hgone found (List.mem_append_right _ hfound) write hset (hkey.trans hsame.symm) with
      hdeleted | hdeleted
    · rcases List.mem_append.mp hdeleted with hold | hnew
      · exact hsound.known side write hold
      · exact (mem_left.mp hnew).1
    · exact absurd hdeleted hleft

end Replicas

end ReplicatedMap

end Osvauld.Data
