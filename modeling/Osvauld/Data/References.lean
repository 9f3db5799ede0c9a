import Mathlib.Data.List.Basic
import Mathlib.Data.List.Infix
import Mathlib.Data.List.TakeWhile

namespace Osvauld.Data

/-! Texts in which a literal and one or more characters up to the next stop are a reference,
and the texts in which references are replaced, the leftmost first. -/

section Separated

variable {α : Type*} [DecidableEq α] {stop : α}

theorem append_stop_inj {first second rest after : List α}
    (hcount : first.count stop = second.count stop)
    (heq : first ++ stop :: rest = second ++ stop :: after) : first = second ∧ rest = after := by
  induction first generalizing second with
  | nil =>
      cases second with
      | nil => exact ⟨rfl, (List.cons.inj heq).2⟩
      | cons char second =>
          rw [List.nil_append, List.cons_append] at heq
          rw [← (List.cons.inj heq).1, List.count_nil, List.count_cons_self] at hcount
          omega
  | cons char first ih =>
      cases second with
      | nil =>
          rw [List.nil_append, List.cons_append] at heq
          rw [(List.cons.inj heq).1, List.count_nil, List.count_cons_self] at hcount
          omega
      | cons other second =>
          rw [List.cons_append, List.cons_append] at heq
          obtain ⟨rfl, htails⟩ := List.cons.inj heq
          rw [List.count_cons, List.count_cons, Nat.add_right_cancel_iff] at hcount
          obtain ⟨rfl, hrest⟩ := ih hcount htails
          exact ⟨rfl, hrest⟩

theorem count_intercalate_le {texts others : List (List α)}
    (hcounts : List.Forall₂ (fun text other => other.count stop ≤ text.count stop) texts others) :
    ([stop].intercalate others).count stop ≤ ([stop].intercalate texts).count stop := by
  induction hcounts with
  | nil => exact Nat.le_refl _
  | @cons text other texts others hcount hrest ih =>
      cases hrest with
      | nil => rw [List.intercalate_singleton, List.intercalate_singleton]; exact hcount
      | cons hnext hmore =>
          rw [List.intercalate_cons_cons, List.intercalate_cons_cons, List.count_append,
            List.count_append, List.count_append, List.count_append]
          omega

theorem intercalate_inj {texts others : List (List α)}
    (hcounts : List.Forall₂ (fun text other => other.count stop ≤ text.count stop) texts others)
    (heq : [stop].intercalate texts = [stop].intercalate others) : texts = others := by
  induction hcounts with
  | nil => rfl
  | @cons text other texts others hcount hrest ih =>
      cases hrest with
      | nil =>
          rw [List.intercalate_singleton, List.intercalate_singleton] at heq
          rw [heq]
      | @cons next following texts others hnext hmore =>
          have htails := count_intercalate_le (.cons hnext hmore)
          have hsame := congrArg (List.count stop) heq
          rw [List.intercalate_cons_cons, List.intercalate_cons_cons, List.append_assoc,
            List.append_assoc, List.singleton_append, List.singleton_append] at heq
          rw [List.intercalate_cons_cons, List.intercalate_cons_cons, List.count_append,
            List.count_append, List.count_append, List.count_append] at hsame
          obtain ⟨rfl, hrest⟩ := append_stop_inj (by omega) heq
          rw [ih hrest]

end Separated

structure ReferenceForm (α : Type*) where
  literal : List α
  isStop : α → Bool
  nonempty : literal ≠ []
  noStop : ∀ char ∈ literal, isStop char = false

namespace ReferenceForm

section Stops

variable {α : Type*} {form : ReferenceForm α}

theorem takeWhile_upTo {id rest : List α} (hid : ∀ char ∈ id, form.isStop char = false)
    (hrest : ∀ char ∈ rest.head?, form.isStop char) :
    ((id ++ rest).takeWhile fun char => !form.isStop char) = id := by
  rw [List.takeWhile_append_of_pos fun char hchar => by simp [hid char hchar]]
  cases rest with
  | nil => simp
  | cons char rest =>
      rw [List.takeWhile_cons_of_neg (by simp [hrest char rfl]), List.append_nil]

theorem countP_noStop {holds : α → Bool} (hholds : ∀ char, holds char → form.isStop char)
    {chars : List α} (hchars : ∀ char ∈ chars, form.isStop char = false) :
    chars.countP holds = 0 := by
  rw [List.countP_eq_zero]
  intro char hchar hheld
  exact Bool.false_ne_true ((hchars char hchar).symm.trans (hholds char hheld))

end Stops

variable {α : Type*} [DecidableEq α] (form : ReferenceForm α)

inductive Token (α : Type*) where
  | plain (char : α)
  | found (id : List α)

def matchAt (chars : List α) : Option (List α) :=
  if form.literal.isPrefixOf chars then
    match (chars.drop form.literal.length).takeWhile fun char => !form.isStop char with
    | [] => none
    | first :: id => some (first :: id)
  else none

def scan : Nat → List α → List (Token α)
  | _, [] => []
  | taken + 1, _ :: rest => scan taken rest
  | 0, char :: rest =>
      match form.matchAt (char :: rest) with
      | some id => .found id :: scan (form.literal.length + id.length - 1) rest
      | none => .plain char :: scan 0 rest

def Token.written (stored : List α → Option (List α)) : Token α → List α
  | plain char => [char]
  | found id => (stored id).getD (form.literal ++ id)

def Token.id? : Token α → Option (List α)
  | plain _ => none
  | found id => some id

def replaceAll (stored : List α → Option (List α)) (chars : List α) : List α :=
  (form.scan 0 chars).flatMap (Token.written form stored)

def captured (chars : List α) : List (List α) := (form.scan 0 chars).filterMap Token.id?

variable {form}

theorem matchAt_eq_some {chars id : List α} (hmatch : form.matchAt chars = some id) :
    ∃ rest, chars = form.literal ++ (id ++ rest) ∧ id ≠ [] ∧
      (∀ char ∈ id, form.isStop char = false) ∧ ∀ char ∈ rest.head?, form.isStop char := by
  unfold matchAt at hmatch
  split at hmatch
  · next hprefix =>
      obtain ⟨rest, rfl⟩ := List.isPrefixOf_iff_prefix.mp hprefix
      rw [List.drop_left] at hmatch
      split at hmatch
      · cases hmatch
      · next first id htake =>
          cases hmatch
          refine ⟨rest.dropWhile fun char => !form.isStop char, ?_, nofun, ?_, ?_⟩
          · rw [← htake, List.takeWhile_append_dropWhile]
          · rw [← htake]
            intro char hchar
            simpa using List.mem_takeWhile_imp hchar
          · intro char hchar
            have hhead := List.head?_dropWhile_not (fun char => !form.isStop char) rest
            rw [Option.mem_def.mp hchar] at hhead
            simpa using hhead
  · cases hmatch

theorem matchAt_reference {id rest : List α} (hne : id ≠ [])
    (hid : ∀ char ∈ id, form.isStop char = false)
    (hrest : ∀ char ∈ rest.head?, form.isStop char) :
    form.matchAt (form.literal ++ (id ++ rest)) = some id := by
  rw [matchAt, if_pos (by simp), List.drop_left, takeWhile_upTo hid hrest]
  obtain ⟨first, more, rfl⟩ := List.exists_cons_of_ne_nil hne
  rfl

theorem scan_taken (taken rest : List α) (more : Nat) :
    form.scan (taken.length + more) (taken ++ rest) = form.scan more rest := by
  induction taken with
  | nil => rw [List.length_nil, Nat.zero_add, List.nil_append]
  | cons char taken ih =>
      rw [List.length_cons, Nat.add_right_comm, List.cons_append, scan, ih]

theorem scan_plain {char : α} {rest : List α} (hnone : form.matchAt (char :: rest) = none) :
    form.scan 0 (char :: rest) = .plain char :: form.scan 0 rest := by
  rw [scan, hnone]

theorem scan_reference {id rest : List α} (hne : id ≠ [])
    (hid : ∀ char ∈ id, form.isStop char = false)
    (hrest : ∀ char ∈ rest.head?, form.isStop char) :
    form.scan 0 (form.literal ++ (id ++ rest)) = .found id :: form.scan 0 rest := by
  have hmatch := matchAt_reference hne hid hrest
  cases hliteral : form.literal with
  | nil => exact absurd hliteral form.nonempty
  | cons char literal =>
      rw [hliteral, List.cons_append] at hmatch
      have htaken := @scan_taken _ _ form (literal ++ id) rest 0
      rw [List.length_append, Nat.add_zero, List.append_assoc] at htaken
      rw [List.cons_append, scan, hmatch]
      dsimp only
      rw [hliteral, List.length_cons, Nat.add_right_comm, Nat.add_sub_cancel, htaken]

theorem scan_induction {motive : List α → Prop} (nil : motive [])
    (plain : ∀ char rest, form.matchAt (char :: rest) = none →
      form.scan 0 (char :: rest) = .plain char :: form.scan 0 rest →
        motive rest → motive (char :: rest))
    (found : ∀ id rest, id ≠ [] → (∀ char ∈ id, form.isStop char = false) →
      (∀ char ∈ rest.head?, form.isStop char) →
        form.scan 0 (form.literal ++ (id ++ rest)) = .found id :: form.scan 0 rest →
          motive rest → motive (form.literal ++ (id ++ rest)))
    (chars : List α) : motive chars := by
  induction hlength : chars.length using Nat.strongRecOn generalizing chars with
  | ind length ih =>
      subst hlength
      cases chars with
      | nil => exact nil
      | cons char rest =>
          cases hmatch : form.matchAt (char :: rest) with
          | none =>
              exact plain char rest hmatch (scan_plain hmatch) (ih _ (by simp) _ rfl)
          | some id =>
              obtain ⟨after, heq, hne, hid, hafter⟩ := matchAt_eq_some hmatch
              have hliteral := List.length_pos_iff.mpr form.nonempty
              rw [heq] at ih ⊢
              apply found id after hne hid hafter (scan_reference hne hid hafter)
              apply ih _ _ _ rfl
              rw [List.length_append, List.length_append]
              omega

theorem matchAt_append_stop {chars rest : List α} {stop : α} (hstop : form.isStop stop) :
    form.matchAt (chars ++ stop :: rest) = form.matchAt chars := by
  have hbegins : form.literal.isPrefixOf (chars ++ stop :: rest) =
      form.literal.isPrefixOf chars := by
    rw [Bool.eq_iff_iff, List.isPrefixOf_iff_prefix, List.isPrefixOf_iff_prefix]
    constructor
    · intro hbegins
      rcases List.prefix_or_prefix_of_prefix hbegins (List.prefix_append chars (stop :: rest)) with
        hshort | ⟨more, heq⟩
      · exact hshort
      · cases more with
        | nil => rw [← heq, List.append_nil]
        | cons first more =>
            rw [← heq, List.prefix_append_right_inj, List.cons_prefix_cons] at hbegins
            have hfirst := form.noStop first (by rw [← heq]; simp)
            rw [hbegins.1, hstop] at hfirst
            cases hfirst
    · exact fun hbegins => hbegins.trans (List.prefix_append chars (stop :: rest))
  unfold matchAt
  rw [hbegins]
  split
  · next hshort =>
      obtain ⟨after, rfl⟩ := List.isPrefixOf_iff_prefix.mp hshort
      rw [List.append_assoc, List.drop_left, List.drop_left]
      have htake : ((after ++ stop :: rest).takeWhile fun char => !form.isStop char) =
          after.takeWhile fun char => !form.isStop char := by
        rw [List.takeWhile_append]
        split
        · next hall =>
            rw [List.takeWhile_cons_of_neg (by simp [hstop]), List.append_nil]
            exact ((List.takeWhile_prefix _).eq_of_length hall).symm
        · rfl
      rw [htake]
  · rfl

theorem scan_append_stop (chars rest : List α) {stop : α} (hstop : form.isStop stop) :
    form.scan 0 (chars ++ stop :: rest) =
      form.scan 0 chars ++ .plain stop :: form.scan 0 rest := by
  induction chars using @scan_induction _ _ form with
  | nil =>
      rw [List.nil_append, scan_plain]
      · rfl
      · have hnone := @matchAt_append_stop _ _ form [] rest _ hstop
        rw [List.nil_append] at hnone
        rw [hnone, matchAt, if_neg]
        intro hprefix
        exact form.nonempty (List.prefix_nil.mp (List.isPrefixOf_iff_prefix.mp hprefix))
  | plain char chars hnone hscan ih =>
      rw [hscan, List.cons_append, List.cons_append, scan_plain, ih]
      rw [← List.cons_append, matchAt_append_stop hstop]
      exact hnone
  | found id chars hne hid hafter hscan ih =>
      rw [hscan, List.append_assoc, List.append_assoc, scan_reference hne hid, ih]
      · rfl
      · intro char hchar
        cases chars with
        | nil => cases hchar; exact hstop
        | cons first chars => exact hafter char hchar

theorem replaceAll_append_stop (stored : List α → Option (List α)) (chars rest : List α)
    {stop : α} (hstop : form.isStop stop) :
    form.replaceAll stored (chars ++ stop :: rest) =
      form.replaceAll stored chars ++ stop :: form.replaceAll stored rest := by
  rw [replaceAll, scan_append_stop _ _ hstop, List.flatMap_append, List.flatMap_cons]
  rfl

theorem replaceAll_intercalate (stored : List α → Option (List α)) {stop : α}
    (hstop : form.isStop stop) (texts : List (List α)) :
    form.replaceAll stored ([stop].intercalate texts) =
      [stop].intercalate (texts.map (form.replaceAll stored)) := by
  induction texts with
  | nil => rfl
  | cons text texts ih =>
      cases texts with
      | nil => rw [List.intercalate_singleton, List.map_singleton, List.intercalate_singleton]
      | cons next texts =>
          rw [List.intercalate_cons_cons, List.append_assoc, List.singleton_append,
            replaceAll_append_stop _ _ _ hstop, ih, List.map_cons, List.map_cons,
            List.map_cons, List.intercalate_cons_cons, List.append_assoc,
            List.singleton_append]

section Replaced

variable {stored : List α → Option (List α)}

variable {chars : List α}

theorem replaceAll_of_scan {token : Token α} {rest : List α}
    (hscan : form.scan 0 chars = token :: form.scan 0 rest) :
    form.replaceAll stored chars = token.written form stored ++ form.replaceAll stored rest := by
  rw [replaceAll, hscan, List.flatMap_cons, ← replaceAll]

theorem captured_of_scan {token : Token α} {rest : List α}
    (hscan : form.scan 0 chars = token :: form.scan 0 rest) :
    form.captured chars = token.id?.toList ++ form.captured rest := by
  rw [captured, hscan, captured]
  cases token with
  | plain char => rfl
  | found id => rfl

theorem countP_le_replaceAll {holds : α → Bool}
    (hholds : ∀ char, holds char → form.isStop char) (chars : List α) :
    chars.countP holds ≤ (form.replaceAll stored chars).countP holds := by
  induction chars using @scan_induction _ _ form with
  | nil => exact Nat.zero_le _
  | plain char rest _ hscan ih =>
      rw [replaceAll_of_scan hscan, Token.written, ← List.singleton_append, List.countP_append,
        List.countP_append]
      omega
  | found id rest _ hid _ hscan ih =>
      rw [replaceAll_of_scan hscan, List.countP_append, List.countP_append, List.countP_append,
        countP_noStop hholds form.noStop, countP_noStop hholds hid]
      omega

theorem head?_replaceAll (hchars : ∀ char ∈ chars.head?, form.isStop char) :
    (form.replaceAll stored chars).head? = chars.head? := by
  cases chars with
  | nil => rfl
  | cons stop rest =>
      have hsplit := replaceAll_append_stop stored [] rest (hchars stop rfl)
      rw [List.nil_append] at hsplit
      rw [hsplit]
      rfl

/-- A text stays as it is exactly when what is stored under the ids in it is what stands
there already. -/
theorem replaceAll_eq_self_iff (chars : List α) :
    form.replaceAll stored chars = chars ↔
      ∀ id ∈ form.captured chars, ∀ data, stored id = some data → data = form.literal ++ id := by
  induction chars using @scan_induction _ _ form with
  | nil => simp [replaceAll, captured, scan]
  | plain char rest _ hscan ih =>
      rw [replaceAll_of_scan hscan, captured_of_scan hscan, Token.id?, Option.toList_none,
        List.nil_append, ← ih]
      exact ⟨fun heq => (List.cons.inj heq).2, fun heq => congrArg (char :: ·) heq⟩
  | found id rest hne hid hafter hscan ih =>
      rw [replaceAll_of_scan hscan, captured_of_scan hscan]
      have hcaptured : (∀ other ∈ (Token.found id).id?.toList ++ form.captured rest, ∀ data,
          stored other = some data → data = form.literal ++ other) ↔
            (∀ data, stored id = some data → data = form.literal ++ id) ∧
              form.replaceAll stored rest = rest := by
        rw [ih]
        exact List.forall_mem_cons
      rw [hcaptured, Token.written]
      constructor
      · intro heq
        have hwritten : ∀ data, stored id = some data → data = form.literal ++ id := by
          intro data hdata
          rw [hdata, Option.getD_some] at heq
          have hcount := congrArg (List.countP form.isStop) heq
          have hle := @countP_le_replaceAll _ _ form stored form.isStop (fun _ h => h) rest
          rw [List.countP_append, List.countP_append, List.countP_append,
            countP_noStop (fun _ h => h) form.noStop, countP_noStop (fun _ h => h) hid] at hcount
          have hdata : ∀ char ∈ data, form.isStop char = false := by
            have hzero : data.countP form.isStop = 0 := by omega
            simpa using List.countP_eq_zero.mp hzero
          have hboth : ∀ char ∈ form.literal ++ id, form.isStop char = false := by
            intro char hchar
            exact (List.mem_append.mp hchar).elim (form.noStop char) (hid char)
          have hhead : (form.replaceAll stored rest).head? = rest.head? := head?_replaceAll hafter
          have htake := congrArg (List.takeWhile fun char => !form.isStop char) heq
          rw [takeWhile_upTo hdata (by rw [hhead]; exact hafter), ← List.append_assoc,
            takeWhile_upTo hboth hafter] at htake
          exact htake
        refine ⟨hwritten, ?_⟩
        cases hstored : stored id with
        | none =>
            rw [hstored, Option.getD_none, List.append_assoc] at heq
            exact List.append_cancel_left (List.append_cancel_left heq)
        | some data =>
            rw [hstored, Option.getD_some, hwritten data hstored, List.append_assoc] at heq
            exact List.append_cancel_left (List.append_cancel_left heq)
      · rintro ⟨hwritten, hrest⟩
        rw [hrest, ← List.append_assoc]
        congr 1
        cases hstored : stored id with
        | none => rfl
        | some data => exact hwritten data hstored

theorem captured_reference {id : List α} (hne : id ≠ [])
    (hid : ∀ char ∈ id, form.isStop char = false) :
    form.captured (form.literal ++ id) = [id] := by
  have hscan := scan_reference hne hid fun char (hchar : char ∈ [].head?) => nomatch hchar
  rw [List.append_nil] at hscan
  rw [captured_of_scan hscan]
  rfl

theorem replaceAll_reference {id data : List α} (hne : id ≠ [])
    (hid : ∀ char ∈ id, form.isStop char = false) (hdata : stored id = some data) :
    form.replaceAll stored (form.literal ++ id) = data := by
  have hscan := scan_reference hne hid fun char (hchar : char ∈ [].head?) => nomatch hchar
  rw [List.append_nil] at hscan
  rw [replaceAll_of_scan hscan, Token.written, hdata, Option.getD_some]
  exact List.append_nil data

theorem of_mem_captured {chars id : List α} (hmem : id ∈ form.captured chars) :
    id ≠ [] ∧ ∀ char ∈ id, form.isStop char = false := by
  induction chars using @scan_induction _ _ form with
  | nil => cases hmem
  | plain char rest _ hscan ih =>
      rw [captured_of_scan hscan] at hmem
      exact ih hmem
  | found other rest hne hid _ hscan ih =>
      rw [captured_of_scan hscan] at hmem
      rcases List.mem_cons.mp hmem with rfl | hrest
      · exact ⟨hne, hid⟩
      · exact ih hrest

theorem captured_eq_nil {chars : List α}
    (hnone : ∀ tail, tail <:+ chars → ¬ form.literal.isPrefixOf tail) :
    form.captured chars = [] := by
  induction chars using @scan_induction _ _ form with
  | nil => rfl
  | plain char rest _ hscan ih =>
      rw [captured_of_scan hscan]
      exact ih fun tail htail => hnone tail (htail.trans (List.suffix_cons char rest))
  | found id rest _ _ _ hscan ih =>
      exact absurd (by simp) (hnone (form.literal ++ (id ++ rest)) List.suffix_rfl)

end Replaced

end ReferenceForm

end Osvauld.Data
