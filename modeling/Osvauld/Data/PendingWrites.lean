import Mathlib.Data.List.Induction
import Mathlib.Data.Set.Basic

namespace Osvauld.Data

/-! A content with one entry for each key, and the writes to it that are pending: what
will be there when they have been done in the order they were made, and which of them
may be done first. -/

section PendingWrites

variable {D K : Type*} [DecidableEq K] (key : D → K)

def putEntry (entry : D) (content : Set D) : Set D :=
  {other | other = entry ∨ other ∈ content ∧ key other ≠ key entry}

def upcoming (content : Set D) (writes : List D) : Set D :=
  writes.foldl (fun content entry => putEntry key entry content) content

def lastWrite? (writes : List D) (k : K) : Option D :=
  writes.reverse.find? fun entry => key entry = k

/-- A write that may be done before the others: it is made good by a later one, or there
is no other one before it, unless of the same entry. -/
def WriteInTurn (before : List D) (entry : D) (after : List D) : Prop :=
  (lastWrite? key after (key entry)).isSome = true ∨
    ∀ earlier, lastWrite? key before (key entry) = some earlier → earlier = entry

variable {key} {content : Set D} {before writes after : List D} {entry other : D} {k : K}

omit [DecidableEq K] in
theorem mem_putEntry :
    other ∈ putEntry key entry content ↔
      other = entry ∨ other ∈ content ∧ key other ≠ key entry := Iff.rfl

omit [DecidableEq K] in
@[simp] theorem upcoming_nil : upcoming key content [] = content := rfl

omit [DecidableEq K] in
omit [DecidableEq K] in
theorem upcoming_concat :
    upcoming key content (writes ++ [entry]) =
      putEntry key entry (upcoming key content writes) := by
  simp [upcoming]

theorem lastWrite?_append :
    lastWrite? key (before ++ after) k = (lastWrite? key after k).or (lastWrite? key before k) := by
  rw [lastWrite?, List.reverse_append, List.find?_append]
  rfl

theorem lastWrite?_cons :
    lastWrite? key (entry :: after) k =
      (lastWrite? key after k).or (if key entry = k then some entry else none) := by
  have hsingle : lastWrite? key [entry] k = if key entry = k then some entry else none := by
    by_cases hkey : key entry = k <;> simp [lastWrite?, hkey]
  rw [← List.singleton_append, lastWrite?_append, hsingle]

/-- Of the entries with one key the last written one will be there, or else the one that
is there already. -/
theorem mem_upcoming_iff :
    entry ∈ upcoming key content writes ↔
      lastWrite? key writes (key entry) = some entry ∨
        lastWrite? key writes (key entry) = none ∧ entry ∈ content := by
  induction writes using List.reverseRecOn with
  | nil => simp [lastWrite?]
  | append_singleton writes last ih =>
      have hlast := @lastWrite?_cons _ _ _ key [] last (key entry)
      rw [upcoming_concat, mem_putEntry, ih, lastWrite?_append, hlast]
      by_cases hkey : key last = key entry
      · simp [lastWrite?, hkey, eq_comm]
      · have hne : entry ≠ last := fun heq => hkey (heq ▸ rfl)
        have hkey' : key entry ≠ key last := fun heq => hkey heq.symm
        simp [lastWrite?, hkey, hkey', hne]

theorem mem_upcoming_done_of_ne (hne : key other ≠ key entry) :
    other ∈ upcoming key (putEntry key entry content) (before ++ after) ↔
      other ∈ upcoming key content (before ++ entry :: after) := by
  have hother : other ≠ entry := fun heq => hne (heq ▸ rfl)
  rw [mem_upcoming_iff, mem_upcoming_iff, lastWrite?_append, lastWrite?_append, lastWrite?_cons,
    if_neg hne.symm, Option.or_none, mem_putEntry]
  simp [hother, hne]

theorem mem_upcoming_done (hturn : WriteInTurn key before entry after)
    (hkey : key other = key entry) :
    other ∈ upcoming key (putEntry key entry content) (before ++ after) ↔
      other ∈ upcoming key content (before ++ entry :: after) := by
  rw [mem_upcoming_iff, mem_upcoming_iff, lastWrite?_append, lastWrite?_append, lastWrite?_cons,
    hkey, if_pos rfl, mem_putEntry]
  cases hafter : lastWrite? key after (key entry) with
  | some later => simp
  | none =>
      have hbefore : ∀ earlier, lastWrite? key before (key entry) = some earlier →
          earlier = entry := by
        rcases hturn with hlater | hbefore
        · simp [hafter] at hlater
        · exact hbefore
      cases hearlier : lastWrite? key before (key entry) with
      | some earlier => simp [hbefore earlier hearlier, eq_comm]
      | none => simp [hkey, eq_comm]

end PendingWrites

end Osvauld.Data
