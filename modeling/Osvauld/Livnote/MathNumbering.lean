import Osvauld.Data.Lists
import Osvauld.Data.Outline

namespace Osvauld.Livnote.MathNumbering

open Data Data.DocNode

/-! The plugin that numbers the labelled equations of a note. -/

inductive NumberAttr where
  | text (digits : String)
  | number (value : Int)
deriving DecidableEq

/-- Of the attributes the plugin reads two; the `rest` it copies. -/
structure NodeAttrs (Rest : Type) where
  typeName : String
  label : Option String
  number : Option NumberAttr
  rest : Rest

structure EquationInfo where
  pos : Nat
  label : String
  number : Nat
deriving DecidableEq

structure EquationNumbers where
  equations : List EquationInfo
  labelMap : List (String × Nat)

structure Counting extends EquationNumbers where
  equationNumber : Nat

def setLabel (label : String) (number : Nat) : List (String × Nat) → List (String × Nat)
  | [] => [(label, number)]
  | entry :: rest =>
      if entry.1 = label then (label, number) :: rest else entry :: setLabel label number rest

def getLabel (label : String) (labelMap : List (String × Nat)) : Option Nat :=
  (labelMap.find? fun entry => entry.1 = label).map fun entry => entry.2

section Plugin

variable {Rest : Type}

def isDisplay (head : Head (NodeAttrs Rest)) : Bool :=
  !head.isText && head.markup.typeName = "math_display"

def equationLabel (head : Head (NodeAttrs Rest)) : Option String :=
  if isDisplay head then head.markup.label.filter fun label => label ≠ "" else none

def countEquation (counting : Counting) (visit : DocNode (NodeAttrs Rest) × Nat) : Counting :=
  match equationLabel visit.1.head with
  | none => counting
  | some label =>
      { equations := counting.equations ++ [⟨visit.2, label, counting.equationNumber⟩]
        labelMap := setLabel label counting.equationNumber counting.labelMap
        equationNumber := counting.equationNumber + 1 }

def computeEquationNumbers (doc : DocNode (NodeAttrs Rest)) : EquationNumbers :=
  (doc.descendants.foldl countEquation ⟨⟨[], []⟩, 1⟩).toEquationNumbers

def hasNumberingChanged (oldNumbers newNumbers : EquationNumbers) : Bool :=
  oldNumbers.equations.length ≠ newNumbers.equations.length ||
    (oldNumbers.equations.zip newNumbers.equations).any fun (oldEq, newEq) =>
      oldEq.label ≠ newEq.label || oldEq.number ≠ newEq.number

structure EditorState (Rest : Type) where
  doc : DocNode (NodeAttrs Rest)
  numbers : EquationNumbers
  current : numbers = computeEquationNumbers doc

def EditorState.init (doc : DocNode (NodeAttrs Rest)) : EditorState Rest := ⟨doc, _, rfl⟩

/-- A number is never zero. -/
def getEquationNumber (state : EditorState Rest) (label : String) : Option Nat :=
  (getLabel label state.numbers.labelMap).filter fun number => number ≠ 0

abbrev Transaction (Rest : Type) := Option (DocNode (NodeAttrs Rest))

def EditorState.apply (state : EditorState Rest) (tr : Transaction Rest) : EditorState Rest :=
  match tr with
  | some doc => ⟨doc, computeEquationNumbers doc, rfl⟩
  | none => state

def updateNumber (newState : EditorState Rest) (tr : DocNode (NodeAttrs Rest) × Bool)
    (eq : EquationInfo) : Option (DocNode (NodeAttrs Rest) × Bool) :=
  match newState.doc.nodeAt eq.pos with
  | none => some tr
  | some node =>
      if isDisplay node.head ∧ node.markup.number ≠ some (.number eq.number) then
        (tr.1.setNodeMarkup eq.pos { node.markup with number := some (.number eq.number) }).map
          fun doc => (doc, true)
      else some tr

/-- The transaction that is appended, or `none` in it. There is no outcome where
`setNodeMarkup` throws. -/
def appendTransaction (oldState newState : EditorState Rest) : Option (Transaction Rest) :=
  if hasNumberingChanged oldState.numbers newState.numbers then
    (newState.numbers.equations.foldlM (updateNumber newState) (newState.doc, false)).map
      fun (doc, updated) => if updated then some doc else none
  else some none

/-- The plugin is shown what has changed, and then its own transactions, until it appends
none. -/
inductive Settles : EditorState Rest → EditorState Rest → EditorState Rest → Prop
  | done {oldState newState : EditorState Rest} :
      appendTransaction oldState newState = some none → Settles oldState newState newState
  | round {oldState newState settled : EditorState Rest} {doc : DocNode (NodeAttrs Rest)} :
      appendTransaction oldState newState = some (some doc) →
      Settles newState (newState.apply (some doc)) settled → Settles oldState newState settled

/-- The plugin is called with the state `before` and the one that has been `changed`. -/
structure Call (Rest : Type) where
  before : EditorState Rest
  changed : EditorState Rest
  settled : EditorState Rest

/-- Transactions are dispatched, some of them together with those that other plugins append,
and after each batch the plugin is called. -/
inductive Run : EditorState Rest → List (List (Transaction Rest)) → List (Call Rest) → Prop
  | stop {state : EditorState Rest} : Run state [] []
  | dispatch {state settled : EditorState Rest} {batch : List (Transaction Rest)}
      {batches : List (List (Transaction Rest))} {calls : List (Call Rest)} :
      Settles state (batch.foldl EditorState.apply state) settled → Run settled batches calls →
      Run state (batch :: batches) (⟨state, batch.foldl EditorState.apply state, settled⟩ :: calls)

def labelled (entries : List (Nat × Head (NodeAttrs Rest))) : Nat :=
  entries.countP fun entry => (equationLabel entry.2).isSome

def Ranked (first : Nat) (entries : List (Nat × Head (NodeAttrs Rest))) : Prop :=
  ∀ before entry after, entries = before ++ entry :: after → ∀ label,
    equationLabel entry.2 = some label →
      entry.2.markup.number = some (.number (labelled before + first : Nat))

def OthersBare (entries : List (Nat × Head (NodeAttrs Rest))) : Prop :=
  ∀ entry ∈ entries, isDisplay entry.2 → equationLabel entry.2 = none →
    entry.2.markup.number = none

structure Numbered (doc : DocNode (NodeAttrs Rest)) : Prop where
  ranked : Ranked 1 doc.outline
  bare : OthersBare doc.outline

def labels (doc : DocNode (NodeAttrs Rest)) : List String :=
  doc.outline.filterMap fun entry => equationLabel entry.2

/-- What is left of the plugin's work: a list of labels that is the same must come with the
right numbers, and an equation that has no label with none. -/
structure Fits (before changed : DocNode (NodeAttrs Rest)) : Prop where
  ranked : labels before = labels changed → Ranked 1 changed.outline
  bare : OthersBare changed.outline

def numberedFrom (number : Nat) : List (Nat × Head (NodeAttrs Rest)) → List EquationInfo
  | [] => []
  | entry :: rest =>
      match equationLabel entry.2 with
      | none => numberedFrom number rest
      | some label => ⟨entry.1, label, number⟩ :: numberedFrom (number + 1) rest

def withNumber (number : Nat) (head : Head (NodeAttrs Rest)) : Head (NodeAttrs Rest) :=
  ⟨head.isText, { head.markup with number := some (.number number) }⟩

def renumbered (number : Nat) :
    List (Nat × Head (NodeAttrs Rest)) → List (Nat × Head (NodeAttrs Rest))
  | [] => []
  | entry :: rest =>
      match equationLabel entry.2 with
      | none => entry :: renumbered number rest
      | some _ => (entry.1, withNumber number entry.2) :: renumbered (number + 1) rest

theorem isDisplay_of_equationLabel {head : Head (NodeAttrs Rest)} {label : String}
    (hlabel : equationLabel head = some label) : isDisplay head = true := by
  by_contra hother
  rw [equationLabel, if_neg hother] at hlabel
  cases hlabel

variable (number : Nat) (entries : List (Nat × Head (NodeAttrs Rest)))

@[simp] theorem equationLabel_withNumber (head : Head (NodeAttrs Rest)) :
    equationLabel (withNumber number head) = equationLabel head := rfl

theorem equations_foldl (visits : List (DocNode (NodeAttrs Rest) × Nat)) (counting : Counting) :
    (visits.foldl countEquation counting).equations =
      counting.equations ++ numberedFrom counting.equationNumber
        (visits.map fun visit => (visit.2, visit.1.head)) := by
  induction visits generalizing counting with
  | nil => exact (List.append_nil _).symm
  | cons visit visits ih =>
      rw [List.foldl_cons, ih, List.map_cons, numberedFrom, countEquation]
      cases hlabel : equationLabel visit.1.head with
      | none => rfl
      | some label => simp

theorem computeEquationNumbers_equations (doc : DocNode (NodeAttrs Rest)) :
    (computeEquationNumbers doc).equations = numberedFrom 1 doc.outline := by
  rw [computeEquationNumbers, equations_foldl]
  rfl

theorem getLabel_setLabel (label other : String) (number : Nat)
    (labelMap : List (String × Nat)) :
    getLabel other (setLabel label number labelMap) =
      if label = other then some number else getLabel other labelMap := by
  induction labelMap with
  | nil => simp only [setLabel, getLabel, List.find?_cons, List.find?_nil]; split <;> simp_all
  | cons entry rest ih =>
      simp only [setLabel, getLabel] at ih ⊢
      split
      · by_cases hlabel : label = other <;> simp_all
      · by_cases hother : entry.1 = other <;> simp_all [eq_comm]

theorem labelMap_foldl (label : String) (visits : List (DocNode (NodeAttrs Rest) × Nat))
    (counting : Counting)
    (hlast : getLabel label counting.labelMap =
      (counting.equations.reverse.find? fun eq => eq.label = label).map EquationInfo.number) :
    getLabel label (visits.foldl countEquation counting).labelMap =
      ((visits.foldl countEquation counting).equations.reverse.find? fun eq =>
        eq.label = label).map EquationInfo.number := by
  induction visits generalizing counting with
  | nil => exact hlast
  | cons visit visits ih =>
      apply ih
      rw [countEquation]
      cases hlabel : equationLabel visit.1.head with
      | none => exact hlast
      | some own =>
          simp only [getLabel_setLabel, List.reverse_append, List.reverse_cons, List.reverse_nil,
            List.nil_append, List.singleton_append, List.find?_cons]
          by_cases hown : own = label
          · simp [hown]
          · simp [hown, hlast]

theorem numberedFrom_labels :
    (numberedFrom number entries).map EquationInfo.label =
      entries.filterMap fun entry => equationLabel entry.2 := by
  induction entries generalizing number with
  | nil => rfl
  | cons entry rest ih =>
      rw [numberedFrom, List.filterMap_cons]
      cases hlabel : equationLabel entry.2 with
      | none => exact ih number
      | some label => rw [List.map_cons, ih]

theorem numberedFrom_numbers :
    (numberedFrom number entries).map EquationInfo.number =
      List.range' number (numberedFrom number entries).length := by
  induction entries generalizing number with
  | nil => rfl
  | cons entry rest ih =>
      rw [numberedFrom]
      cases hlabel : equationLabel entry.2 with
      | none => exact ih number
      | some label => rw [List.map_cons, ih, List.length_cons, List.range'_succ]

theorem hasNumberingChanged_iff (old new : DocNode (NodeAttrs Rest)) :
    hasNumberingChanged (computeEquationNumbers old) (computeEquationNumbers new) = false ↔
      labels old = labels new := by
  have hpairs : hasNumberingChanged (computeEquationNumbers old) (computeEquationNumbers new) =
      false ↔ List.Forall₂ (fun oldEq newEq : EquationInfo =>
        oldEq.label = newEq.label ∧ oldEq.number = newEq.number)
          (numberedFrom 1 old.outline) (numberedFrom 1 new.outline) := by
    rw [List.forall₂_iff_zip, hasNumberingChanged, computeEquationNumbers_equations,
      computeEquationNumbers_equations]
    simp
  rw [hpairs, labels, labels, ← numberedFrom_labels 1, ← numberedFrom_labels 1]
  constructor
  · intro hsame
    rw [← List.forall₂_eq_eq_eq, List.forall₂_map_left_iff, List.forall₂_map_right_iff]
    exact hsame.imp fun oldEq newEq heq => heq.1
  · intro hlabels
    have hlength := congrArg List.length hlabels
    rw [List.length_map, List.length_map] at hlength
    have hnumbers : (numberedFrom 1 old.outline).map EquationInfo.number =
        (numberedFrom 1 new.outline).map EquationInfo.number := by
      rw [numberedFrom_numbers, numberedFrom_numbers, hlength]
    have hboth := congrArg₂ List.zip hlabels hnumbers
    rw [List.zip_map', List.zip_map', ← List.forall₂_eq_eq_eq, List.forall₂_map_left_iff,
      List.forall₂_map_right_iff] at hboth
    exact hboth.imp fun oldEq newEq heq => Prod.mk.inj heq

theorem pos_of_mem_numberedFrom {number : Nat} {entries : List (Nat × Head (NodeAttrs Rest))}
    {equation : EquationInfo} (hmem : equation ∈ numberedFrom number entries) :
    number ≤ equation.number := by
  have hnumber := List.mem_map_of_mem (f := EquationInfo.number) hmem
  rw [numberedFrom_numbers, List.mem_range'_1] at hnumber
  exact hnumber.1

theorem getEquationNumber_eq (state : EditorState Rest) (label : String) :
    getEquationNumber state label =
      ((numberedFrom 1 state.doc.outline).reverse.find? fun eq => eq.label = label).map
        EquationInfo.number := by
  rw [getEquationNumber, state.current, computeEquationNumbers, labelMap_foldl _ _ _ rfl,
    ← computeEquationNumbers, computeEquationNumbers_equations]
  cases hfind : (numberedFrom 1 state.doc.outline).reverse.find? fun eq => eq.label = label with
  | none => rfl
  | some equation =>
      have hpos := pos_of_mem_numberedFrom (List.mem_reverse.mp (List.mem_of_find?_eq_some hfind))
      rw [Option.map_some, Option.filter_some, if_pos (by simp; omega)]

theorem foldlM_updateNumber (newState : EditorState Rest)
    (entries : List (Nat × Head (NodeAttrs Rest))) (number : Nat)
    (before : List (Nat × Head (NodeAttrs Rest))) (doc : DocNode (NodeAttrs Rest))
    (updated : Bool) (hentries : ∀ entry ∈ entries, entry ∈ newState.doc.outline)
    (houtline : doc.outline = before ++ entries) :
    ∃ last changed, (numberedFrom number entries).foldlM (updateNumber newState) (doc, updated) =
        some (last, changed) ∧ last.outline = before ++ renumbered number entries ∧
      (changed = false → last = doc ∧ updated = false) := by
  induction entries generalizing number before doc updated with
  | nil => exact ⟨doc, updated, rfl, houtline, fun hsame => ⟨rfl, hsame⟩⟩
  | cons entry rest ih =>
      have hrest : ∀ entry ∈ rest, entry ∈ newState.doc.outline :=
        fun other hother => hentries other (List.mem_cons_of_mem _ hother)
      rw [numberedFrom, renumbered]
      cases hlabel : equationLabel entry.2 with
      | none =>
          rw [← List.singleton_append, ← List.append_assoc] at houtline
          obtain ⟨last, changed, hfold, hlast, hsame⟩ :=
            ih number (before ++ [entry]) doc updated hrest houtline
          refine ⟨last, changed, hfold, ?_, hsame⟩
          rw [hlast, List.append_assoc, List.singleton_append]
      | some label =>
          obtain ⟨node, hnode, hhead⟩ := nodeAt_of_mem_outline (hentries entry (.head _))
          have hdisplay := isDisplay_of_equationLabel hlabel
          have htext : entry.2.isText = false := by
            have hboth := hdisplay
            rw [isDisplay, Bool.and_eq_true, Bool.not_eq_true'] at hboth
            exact hboth.1
          obtain ⟨next, hset, hnext⟩ := @setNodeMarkup_outline _ doc entry.1 entry.2
            { entry.2.markup with number := some (.number number) } before rest houtline htext
          have hstep : ∃ step changed, updateNumber newState (doc, updated)
              ⟨entry.1, label, number⟩ = some (step, changed) ∧
              step.outline = before ++ (entry.1, withNumber number entry.2) :: rest ∧
              (changed = false → step = doc ∧ updated = false) := by
            have hmarkup : node.markup = entry.2.markup := congrArg Head.markup hhead
            simp only [updateNumber, hnode, hhead, hdisplay, hmarkup, true_and]
            split
            · exact ⟨next, true, by rw [hset, Option.map_some], hnext, nofun⟩
            · next hequal =>
                refine ⟨doc, updated, rfl, ?_, fun hsame => ⟨rfl, hsame⟩⟩
                rw [houtline, withNumber, ← not_not.mp hequal]
          obtain ⟨step, stepped, hupdate, houtline', hstepped⟩ := hstep
          rw [← List.singleton_append, ← List.append_assoc] at houtline'
          obtain ⟨last, changed, hfold, hlast, hsame⟩ :=
            ih (number + 1) _ step stepped hrest houtline'
          refine ⟨last, changed, ?_, ?_, fun hchanged => ?_⟩
          · rw [List.foldlM_cons, hupdate]
            exact hfold
          · rw [hlast, List.append_assoc, List.singleton_append]
          · obtain ⟨rfl, hstep⟩ := hsame hchanged
            exact hstepped hstep

theorem appendTransaction_cases (oldState newState : EditorState Rest) :
    (labels oldState.doc = labels newState.doc ∧
      appendTransaction oldState newState = some none) ∨
    (labels oldState.doc ≠ labels newState.doc ∧
      ((appendTransaction oldState newState = some none ∧
          newState.doc.outline = renumbered 1 newState.doc.outline) ∨
        ∃ doc, appendTransaction oldState newState = some (some doc) ∧
          doc.outline = renumbered 1 newState.doc.outline)) := by
  have hchanged := hasNumberingChanged_iff oldState.doc newState.doc
  rw [appendTransaction, oldState.current, newState.current]
  by_cases hlabels : labels oldState.doc = labels newState.doc
  · rw [hchanged.mpr hlabels]
    exact .inl ⟨hlabels, rfl⟩
  · rw [eq_true_of_ne_false (hlabels ∘ hchanged.mp), computeEquationNumbers_equations]
    obtain ⟨last, updated, hfold, hlast, hsame⟩ :=
      foldlM_updateNumber newState newState.doc.outline 1 [] newState.doc false
        (fun entry hentry => hentry) rfl
    rw [hfold]
    refine .inr ⟨hlabels, ?_⟩
    cases updated with
    | true => exact .inr ⟨last, rfl, hlast⟩
    | false =>
        obtain ⟨rfl, -⟩ := hsame rfl
        exact .inl ⟨rfl, hlast⟩

theorem labels_renumbered :
    ((renumbered number entries).filterMap fun entry => equationLabel entry.2) =
      entries.filterMap fun entry => equationLabel entry.2 := by
  induction entries generalizing number with
  | nil => rfl
  | cons entry rest ih =>
      rw [renumbered, List.filterMap_cons]
      cases hlabel : equationLabel entry.2 with
      | none => rw [List.filterMap_cons, hlabel]; exact ih number
      | some label =>
          rw [List.filterMap_cons, equationLabel_withNumber, hlabel]
          exact congrArg (label :: ·) (ih (number + 1))

def leftBy (oldState newState : EditorState Rest) : List (Nat × Head (NodeAttrs Rest)) :=
  if labels oldState.doc = labels newState.doc then newState.doc.outline
  else renumbered 1 newState.doc.outline

theorem labels_of_outline {doc : DocNode (NodeAttrs Rest)} {number : Nat}
    {other : DocNode (NodeAttrs Rest)} (houtline : doc.outline = renumbered number other.outline) :
    labels doc = labels other := by
  rw [labels, houtline, labels_renumbered, labels]

theorem exists_settles (oldState newState : EditorState Rest) :
    ∃ settled, Settles oldState newState settled := by
  rcases appendTransaction_cases oldState newState with
    ⟨-, hnone⟩ | ⟨-, ⟨hnone, -⟩ | ⟨doc, hsome, houtline⟩⟩
  · exact ⟨newState, .done hnone⟩
  · exact ⟨newState, .done hnone⟩
  · refine ⟨newState.apply (some doc), .round hsome (.done ?_)⟩
    rcases appendTransaction_cases newState (newState.apply (some doc)) with
      ⟨-, hnone⟩ | ⟨hlabels, -⟩
    · exact hnone
    · exact absurd (labels_of_outline houtline).symm hlabels

theorem Settles.outline {oldState newState settled : EditorState Rest}
    (hsettles : Settles oldState newState settled) :
    settled.doc.outline = leftBy oldState newState := by
  induction hsettles with
  | @done oldState newState hnone =>
      rw [leftBy]
      rcases appendTransaction_cases oldState newState with
        ⟨hlabels, -⟩ | ⟨hlabels, ⟨-, houtline⟩ | ⟨doc, hsome, -⟩⟩
      · rw [if_pos hlabels]
      · rw [if_neg hlabels, ← houtline]
      · cases hnone.symm.trans hsome
  | @round oldState newState settled doc hsome _ ih =>
      rw [leftBy]
      rcases appendTransaction_cases oldState newState with
        ⟨-, hnone⟩ | ⟨hlabels, ⟨hnone, -⟩ | ⟨other, hother, houtline⟩⟩
      · cases hnone.symm.trans hsome
      · cases hnone.symm.trans hsome
      · cases hother.symm.trans hsome
        have hsame : labels newState.doc = labels (newState.apply (some doc)).doc :=
          (labels_of_outline houtline).symm
        rw [ih, leftBy, if_pos hsame, if_neg hlabels]
        exact houtline

theorem ranked_cons {first : Nat} {entry : Nat × Head (NodeAttrs Rest)}
    {rest : List (Nat × Head (NodeAttrs Rest))} :
    Ranked first (entry :: rest) ↔
      (∀ label, equationLabel entry.2 = some label →
        entry.2.markup.number = some (.number first)) ∧
      Ranked (first + if (equationLabel entry.2).isSome then 1 else 0) rest := by
  rw [Ranked, forall_splits_cons]
  apply and_congr
  · simp [labelled]
  · unfold Ranked labelled
    simp only [List.countP_cons, Nat.add_assoc, Nat.add_comm first]

theorem ranked_renumbered : Ranked number (renumbered number entries) := by
  induction entries generalizing number with
  | nil =>
      intro before entry after heq
      simp [renumbered] at heq
  | cons entry rest ih =>
      rw [renumbered]
      cases hlabel : equationLabel entry.2 with
      | none =>
          rw [ranked_cons, hlabel]
          exact ⟨nofun, ih number⟩
      | some label =>
          rw [ranked_cons, equationLabel_withNumber, hlabel]
          exact ⟨fun _ _ => rfl, ih (number + 1)⟩

theorem othersBare_renumbered : OthersBare (renumbered number entries) ↔ OthersBare entries := by
  induction entries generalizing number with
  | nil => rfl
  | cons entry rest ih =>
      unfold OthersBare at ih ⊢
      rw [renumbered, List.forall_mem_cons]
      cases hlabel : equationLabel entry.2 with
      | none => rw [List.forall_mem_cons, hlabel, ih number]
      | some label =>
          rw [List.forall_mem_cons, equationLabel_withNumber, hlabel, ih (number + 1)]
          simp

theorem Settles.numbered_iff {oldState newState settled : EditorState Rest}
    (hsettles : Settles oldState newState settled) :
    Numbered settled.doc ↔ Fits oldState.doc newState.doc := by
  have hnumbered : Numbered settled.doc ↔
      Ranked 1 settled.doc.outline ∧ OthersBare settled.doc.outline :=
    ⟨fun h => ⟨h.ranked, h.bare⟩, fun h => ⟨h.1, h.2⟩⟩
  have hfits : Fits oldState.doc newState.doc ↔
      (labels oldState.doc = labels newState.doc → Ranked 1 newState.doc.outline) ∧
        OthersBare newState.doc.outline :=
    ⟨fun h => ⟨h.ranked, h.bare⟩, fun h => ⟨h.1, h.2⟩⟩
  rw [hnumbered, hfits, hsettles.outline, leftBy]
  split
  · next hlabels => simp [hlabels]
  · next hlabels => simp [hlabels, ranked_renumbered, othersBare_renumbered]

theorem exists_run (state : EditorState Rest) (batches : List (List (Transaction Rest))) :
    ∃ calls, Run state batches calls := by
  induction batches generalizing state with
  | nil => exact ⟨[], .stop⟩
  | cons batch batches ih =>
      obtain ⟨settled, hsettles⟩ := exists_settles state (batch.foldl EditorState.apply state)
      obtain ⟨calls, hrun⟩ := ih settled
      exact ⟨_, .dispatch hsettles hrun⟩

theorem Run.numbered_iff {state : EditorState Rest} {batches : List (List (Transaction Rest))}
    {calls : List (Call Rest)} (hrun : Run state batches calls) :
    ∀ call ∈ calls, Numbered call.settled.doc ↔ Fits call.before.doc call.changed.doc := by
  induction hrun with
  | stop => exact fun call hcall => absurd hcall List.not_mem_nil
  | dispatch hsettles _ ih => exact List.forall_mem_cons.mpr ⟨hsettles.numbered_iff, ih⟩

/-- The plugin always comes to rest, and in the runs whose batches fit, and in no others, the
numbers are right whenever it does. -/
theorem runs_numbered_iff (doc : DocNode (NodeAttrs Rest))
    (batches : List (List (Transaction Rest))) :
    (∃ calls, Run (.init doc) batches calls) ∧
      ∀ calls, Run (.init doc) batches calls →
        ((∀ call ∈ calls, Numbered call.settled.doc) ↔
          ∀ call ∈ calls, Fits call.before.doc call.changed.doc) := by
  refine ⟨exists_run _ batches, fun calls hrun => ?_⟩
  exact forall₂_congr hrun.numbered_iff

end Plugin

def equation (label : Option String) (number : Option NumberAttr) : DocNode (NodeAttrs Unit) :=
  element ⟨"math_display", label, number, ()⟩ [text ⟨"text", none, none, ()⟩ 120 []]

def noteOf (equations : List (DocNode (NodeAttrs Unit))) : DocNode (NodeAttrs Unit) :=
  element ⟨"doc", none, none, ()⟩ equations

def energyNote : DocNode (NodeAttrs Unit) := noteOf [equation (some "eq:energy") (some (.number 1))]

def pastedNote : DocNode (NodeAttrs Unit) :=
  noteOf [equation (some "eq:energy") (some (.text "7")), equation none (some (.text "8"))]

theorem pasted_numbers_stay :
    ∃ calls, Run (.init energyNote) [[some pastedNote]] calls ∧
      ∃ call ∈ calls, ¬ Ranked 1 call.settled.doc.outline ∧
        ¬ OthersBare call.settled.doc.outline := by
  obtain ⟨settled, hsettles⟩ :=
    exists_settles (.init energyNote) ([some pastedNote].foldl EditorState.apply (.init energyNote))
  refine ⟨_, .dispatch hsettles .stop, _, .head _, ?_⟩
  have houtline : settled.doc.outline = pastedNote.outline := by
    rw [hsettles.outline, leftBy]
    exact if_pos (by decide)
  dsimp only
  rw [houtline]
  constructor
  · intro hranked
    have hnumber := hranked [] _ _ rfl "eq:energy" (by decide)
    cases hnumber
  · intro hbare
    have hnumber := hbare _ (.tail _ (.tail _ (.head _))) (by decide) (by decide)
    cases hnumber

end Osvauld.Livnote.MathNumbering
