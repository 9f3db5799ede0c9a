import Mathlib.Algebra.GroupWithZero.Nat
import Mathlib.Data.List.Chain
import Mathlib.Data.List.Flatten
import Osvauld.Data.Outline

namespace Osvauld.Livnote

open Data Data.DocNode

/-! What is inserted of a slice that has been parsed from pasted HTML. -/

namespace PastedSlices

def isSpace (unit : UInt16) : Bool :=
  (0x09 ≤ unit && unit ≤ 0x0D) || (0x2000 ≤ unit && unit ≤ 0x200A) ||
    unit ∈ ([0x20, 0xA0, 0x1680, 0x2028, 0x2029, 0x202F, 0x205F, 0x3000, 0xFEFF] : List UInt16)

structure Slice (κ : Type) where
  content : List (DocNode κ)
  openStart : Nat
  openEnd : Nat

structure NodeTypes (κ : Type) where
  isParagraph : κ → Bool
  leafText : κ → List UInt16

section Content

variable {κ : Type}

mutual

def textContent (types : NodeTypes κ) : DocNode κ → List UInt16
  | text _ unit units => unit :: units
  | leaf markup => types.leafText markup
  | element _ content => textContentIn types content

def textContentIn (types : NodeTypes κ) : List (DocNode κ) → List UInt16
  | [] => []
  | child :: rest => textContent types child ++ textContentIn types rest

end

def isKept (types : NodeTypes κ) : DocNode κ → Bool
  | element markup content =>
      if types.isParagraph markup then
        contentSize content > 0 && !(textContentIn types content).all isSpace
      else true
  | _ => true

def fromArray [DecidableEq κ] (nodes : List (DocNode κ)) : List (DocNode κ) :=
  nodes.foldr (fun node joined => glue [node] joined) []

def filterSlice [DecidableEq κ] (types : NodeTypes κ) (slice : Slice κ) : Option (Slice κ) :=
  let filteredNodes := slice.content.filter (isKept types)
  if filteredNodes.length = 0 ∧ contentSize slice.content > 0 then none
  else some ⟨fromArray filteredNodes, slice.openStart, slice.openEnd⟩

mutual

def leaves : DocNode κ → List (DocNode κ)
  | text markup unit units => [text markup unit units]
  | leaf markup => [leaf markup]
  | element _ content => leavesIn content

def leavesIn : List (DocNode κ) → List (DocNode κ)
  | [] => []
  | child :: rest => leaves child ++ leavesIn rest

end

def isBlank : DocNode κ → Bool
  | text _ unit units => (unit :: units).all isSpace
  | _ => false

def contentLeaves (nodes : List (DocNode κ)) : List (DocNode κ) :=
  (leavesIn nodes).filter fun node => !isBlank node

mutual

def leftDepth : DocNode κ → Nat
  | element _ content => leftDepthIn content + 1
  | _ => 0

def leftDepthIn : List (DocNode κ) → Nat
  | [] => 0
  | child :: _ => leftDepth child

end

mutual

def rightDepth : DocNode κ → Nat
  | element _ content => rightDepthIn content + 1
  | _ => 0

def rightDepthIn : List (DocNode κ) → Nat
  | [] => 0
  | [child] => rightDepth child
  | _ :: next :: rest => rightDepthIn (next :: rest)

end

structure Slice.WellOpened (slice : Slice κ) : Prop where
  first : slice.openStart ≤ leftDepthIn slice.content
  last : slice.openEnd ≤ rightDepthIn slice.content

/-- The leaves other than blank texts are inserted, in this order, and no deeper opened than
there are nodes. -/
structure KeepsContent [DecidableEq κ] (types : NodeTypes κ) (slice : Slice κ) : Prop where
  leaves : (contentLeaves slice.content).Sublist
    (leavesIn ((filterSlice types slice).elim [] Slice.content))
  opened : ∀ inserted, filterSlice types slice = some inserted → inserted.WellOpened

def Apart (node next : DocNode κ) : Prop :=
  node.isText → next.isText → node.markup = next.markup → isBlank node ∧ isBlank next

/-- The paragraphs that go have no leaf but text and no text of one markup on both sides, and
where they are the first or the last nodes the slice is not opened deeper than the next one. -/
structure Fits (types : NodeTypes κ) (slice : Slice κ) : Prop where
  bare : ∀ node ∈ slice.content, ¬ isKept types node → ∀ leaf ∈ leaves node, leaf.isText
  apart : (slice.content.filter (isKept types)).IsChain Apart
  first : ∀ gone kept rest, slice.content = gone ++ kept :: rest → gone ≠ [] →
    (∀ node ∈ gone, ¬ isKept types node) → isKept types kept → slice.openStart ≤ leftDepth kept
  last : ∀ rest kept gone, slice.content = rest ++ kept :: gone → gone ≠ [] →
    (∀ node ∈ gone, ¬ isKept types node) → isKept types kept → slice.openEnd ≤ rightDepth kept

variable {node : DocNode κ} (nodes : List (DocNode κ)) (types : NodeTypes κ)
  (content : List (DocNode κ))

theorem leavesIn_eq_flatMap : leavesIn nodes = nodes.flatMap leaves := by
  induction nodes with
  | nil => rw [leavesIn, List.flatMap_nil]
  | cons node rest ih => rw [leavesIn, ih, List.flatMap_cons]

theorem contentLeaves_cons (node : DocNode κ) (rest : List (DocNode κ)) :
    contentLeaves (node :: rest) =
      (leaves node).filter (fun node => !isBlank node) ++ contentLeaves rest := by
  rw [contentLeaves, leavesIn, List.filter_append, ← contentLeaves]

theorem isBlank_of_textContent (hblank : (textContentIn types content).all isSpace) :
    ∀ leaf ∈ leavesIn content, leaf.isText → isBlank leaf := by
  induction content using content_induction with
  | nil =>
      intro leaf hleaf
      rw [leavesIn] at hleaf
      cases hleaf
  | cons child rest hcontent hrest =>
      rw [textContentIn, List.all_append, Bool.and_eq_true] at hblank
      intro leaf hleaf htext
      rw [leavesIn, List.mem_append] at hleaf
      rcases hleaf with hchild | hafter
      · cases child with
        | text markup unit units =>
            rw [leaves, List.mem_singleton] at hchild
            rw [hchild]
            exact hblank.1
        | leaf markup =>
            rw [leaves, List.mem_singleton] at hchild
            rw [hchild] at htext
            cases htext
        | element markup content =>
            rw [leaves] at hchild
            rw [textContent] at hblank
            exact hcontent hblank.1 leaf hchild htext
      · exact hrest hblank.2 leaf hafter htext

theorem isBlank_of_not_kept {types : NodeTypes κ} (hgone : ¬ isKept types node) :
    ∀ leaf ∈ leaves node, leaf.isText → isBlank leaf := by
  cases node with
  | text markup unit units => exact absurd rfl hgone
  | leaf markup => exact absurd rfl hgone
  | element markup content =>
      rw [leaves]
      by_cases hempty : content = []
      · intro leaf hleaf
        rw [hempty, leavesIn] at hleaf
        cases hleaf
      · apply isBlank_of_textContent types content
        obtain ⟨child, rest, rfl⟩ := List.exists_cons_of_ne_nil hempty
        have hsize := child.nodeSize_pos
        have hpos : 0 < child.nodeSize + contentSize rest := by omega
        rw [isKept] at hgone
        split at hgone
        · simpa [hpos] using hgone
        · exact absurd rfl hgone

theorem isBlank_isText (hblank : isBlank node) : node.isText := by
  cases node with
  | text markup unit units => rfl
  | leaf markup => cases hblank
  | element markup content => cases hblank

theorem contentLeaves_gone {types : NodeTypes κ} (hgone : ¬ isKept types node) :
    (leaves node).filter (fun node => !isBlank node) = [] ↔ ∀ leaf ∈ leaves node, leaf.isText := by
  rw [List.filter_eq_nil_iff]
  apply forall₂_congr
  intro leaf hleaf
  rw [Bool.not_eq_true', Bool.not_eq_false]
  exact ⟨isBlank_isText, isBlank_of_not_kept hgone leaf hleaf⟩

theorem contentLeaves_filter_sublist :
    (contentLeaves (content.filter (isKept types))).Sublist (contentLeaves content) := by
  rw [contentLeaves, contentLeaves, leavesIn_eq_flatMap, leavesIn_eq_flatMap]
  apply List.Sublist.filter
  exact List.filter_sublist.flatMap _

theorem contentLeaves_filter_eq_iff :
    contentLeaves (content.filter (isKept types)) = contentLeaves content ↔
      ∀ node ∈ content, ¬ isKept types node → ∀ leaf ∈ leaves node, leaf.isText := by
  induction content with
  | nil => simp
  | cons node rest ih =>
      rw [List.forall_mem_cons, ← ih, contentLeaves_cons]
      by_cases hkept : isKept types node
      · rw [List.filter_cons_of_pos hkept, contentLeaves_cons, List.append_cancel_left_eq]
        exact ⟨fun h => ⟨fun hgone => absurd hkept hgone, h⟩, fun h => h.2⟩
      · rw [List.filter_cons_of_neg hkept, ← contentLeaves_gone hkept]
        constructor
        · intro heq
          have hlength := congrArg List.length heq
          have hle := (contentLeaves_filter_sublist types rest).length_le
          rw [List.length_append] at hlength
          have hnil : (leaves node).filter (fun node => !isBlank node) = [] :=
            List.length_eq_zero_iff.mp (by omega)
          exact ⟨fun _ => hnil, by rw [heq, hnil, List.nil_append]⟩
        · rintro ⟨hnil, heq⟩
          rw [hnil hkept, heq, List.nil_append]

theorem isBlank_append (markup : κ) (unit next : UInt16) (units rest : List UInt16) :
    isBlank (text markup unit (units ++ next :: rest)) =
      (isBlank (text markup unit units) && isBlank (text markup next rest)) := by
  simp only [isBlank, ← List.cons_append, List.all_append]

theorem contentLeaves_text (markup : κ) (unit : UInt16) (units : List UInt16)
    (rest : List (DocNode κ)) :
    contentLeaves (text markup unit units :: rest) =
      if isBlank (text markup unit units) then contentLeaves rest
      else text markup unit units :: contentLeaves rest := by
  rw [contentLeaves_cons, leaves, List.filter_singleton]
  cases isBlank (text markup unit units) with
  | true => rfl
  | false => rfl

/-- Texts that are joined without being blank are no more what they were. -/
def weight : DocNode κ → Nat
  | text _ _ units => units.length
  | _ => 0

def contentWeight (nodes : List (DocNode κ)) : Nat := ((contentLeaves nodes).map weight).sum

theorem rightDepthIn_cons {nodes : List (DocNode κ)} (node : DocNode κ) (hnodes : nodes ≠ []) :
    rightDepthIn (node :: nodes) = rightDepthIn nodes := by
  obtain ⟨next, rest, rfl⟩ := List.exists_cons_of_ne_nil hnodes
  rw [rightDepthIn]

theorem leftDepthIn_eq_head : leftDepthIn nodes = nodes.head?.elim 0 leftDepth := by
  cases nodes with
  | nil => rfl
  | cons node rest => rfl

theorem rightDepthIn_eq_head : rightDepthIn nodes = nodes.reverse.head?.elim 0 rightDepth := by
  induction nodes with
  | nil => rfl
  | cons node rest ih =>
      by_cases hrest : rest = []
      · rw [hrest]
        rfl
      · rw [rightDepthIn_cons node hrest, ih, List.reverse_cons,
          List.head?_append_of_ne_nil _ (List.reverse_ne_nil_iff.mpr hrest)]

theorem le_head_filter_iff {α : Type} {kept : α → Bool} {depth : α → Nat} {items : List α}
    {bound : Nat} (hbound : bound ≤ items.head?.elim 0 depth) :
    (items.filter kept ≠ [] ∨ items = [] → bound ≤ (items.filter kept).head?.elim 0 depth) ↔
      ∀ gone item rest, items = gone ++ item :: rest → gone ≠ [] →
        (∀ other ∈ gone, ¬ kept other) → kept item → bound ≤ depth item := by
  constructor
  · rintro hhead gone item rest rfl - hgone hkept
    rw [List.filter_append, List.filter_eq_nil_iff.mpr hgone, List.nil_append,
      List.filter_cons_of_pos hkept] at hhead
    exact hhead (.inl (List.cons_ne_nil _ _))
  · intro hall hsome
    cases hfilter : items.filter kept with
    | nil =>
        rw [hfilter] at hsome
        obtain rfl := hsome.resolve_left (fun hne => hne rfl)
        exact hbound
    | cons first others =>
        obtain ⟨gone, rest, rfl, hgone, hkept, -⟩ := List.filter_eq_cons_iff.mp hfilter
        cases gone with
        | nil => exact hbound
        | cons head gone => exact hall (head :: gone) first rest rfl (by simp) hgone hkept

section Joined

variable [DecidableEq κ]

theorem glue_single (node : DocNode κ) (second : List (DocNode κ)) :
    (glue [node] second = node :: second ∧
      ∀ next ∈ second.head?, node.isText → next.isText → node.markup ≠ next.markup) ∨
    ∃ markup unit units next more tail, node = text markup unit units ∧
      second = text markup next more :: tail ∧
      glue [node] second = text markup unit (units ++ next :: more) :: tail := by
  cases node with
  | leaf markup => exact .inl ⟨rfl, fun next _ htext => nomatch htext⟩
  | element markup content => exact .inl ⟨rfl, fun next _ htext => nomatch htext⟩
  | text markup unit units =>
      cases second with
      | nil => exact .inl ⟨rfl, nofun⟩
      | cons first tail =>
          cases first with
          | leaf other => exact .inl ⟨rfl, by simp [isText]⟩
          | element other content => exact .inl ⟨rfl, by simp [isText]⟩
          | text other next more =>
              by_cases hmarkup : markup = other
              · subst hmarkup
                exact .inr ⟨markup, unit, units, next, more, tail, rfl, rfl, by simp [glue]⟩
              · refine .inl ⟨by simp [glue, hmarkup], ?_⟩
                simpa [isText, DocNode.markup] using hmarkup

theorem fromArray_cons (node : DocNode κ) (rest : List (DocNode κ)) :
    ∃ first others, fromArray (node :: rest) = first :: others ∧
      first.isText = node.isText ∧ first.markup = node.markup ∧
      leftDepth first = leftDepth node ∧ (isBlank first → isBlank node) ∧
      ((node :: rest).IsChain Apart → isBlank node → isBlank first) := by
  induction rest generalizing node with
  | nil =>
      rcases glue_single node [] with ⟨hglue, -⟩ | ⟨_, _, _, _, _, _, _, hnil, _⟩
      · exact ⟨node, [], hglue, rfl, rfl, rfl, id, fun _ => id⟩
      · cases hnil
  | cons next rest ih =>
      obtain ⟨first, others, hfirst, htext, hmarkup, -, -, hblank⟩ := ih next
      rcases glue_single node (fromArray (next :: rest)) with
        ⟨hglue, -⟩ | ⟨markup, unit, units, head, more, tail, rfl, hsecond, hglue⟩
      · exact ⟨node, _, hglue, rfl, rfl, rfl, id, fun _ => id⟩
      · refine ⟨_, tail, hglue, rfl, rfl, rfl, ?_, ?_⟩
        · rw [isBlank_append, Bool.and_eq_true]
          exact And.left
        · intro hchain hnode
          rw [List.isChain_cons_cons] at hchain
          cases hfirst.symm.trans hsecond
          have hboth := hchain.1 rfl (by rw [← htext]; rfl) (by rw [← hmarkup]; rfl)
          rw [isBlank_append, Bool.and_eq_true]
          exact ⟨hnode, hblank hchain.2 hboth.2⟩

variable (nodes : List (DocNode κ))

theorem contentLeaves_fromArray_of_apart (hapart : nodes.IsChain Apart) :
    contentLeaves (fromArray nodes) = contentLeaves nodes := by
  induction nodes with
  | nil => rfl
  | cons node rest ih =>
      rw [List.isChain_cons] at hapart
      have hrest := ih hapart.2
      rcases glue_single node (fromArray rest) with
        ⟨hglue, -⟩ | ⟨markup, unit, units, head, more, tail, rfl, hsecond, hglue⟩
      · rw [fromArray, List.foldr_cons, ← fromArray, hglue, contentLeaves_cons, hrest,
          ← contentLeaves_cons]
      · rw [fromArray, List.foldr_cons, ← fromArray, hglue]
        cases rest with
        | nil => cases hsecond
        | cons next rest =>
            obtain ⟨first, others, hfirst, htext, hmarkup, -, -, hblank⟩ :=
              fromArray_cons next rest
            cases hfirst.symm.trans hsecond
            have hboth := hapart.1 next rfl rfl (by rw [← htext]; rfl) (by rw [← hmarkup]; rfl)
            have hhead := hblank hapart.2 hboth.2
            rw [contentLeaves_text, isBlank_append, hboth.1, hhead, contentLeaves_text, hboth.1,
              ← hrest, hsecond, contentLeaves_text, hhead]
            rfl

theorem fromArray_measured :
    (contentLeaves (fromArray nodes)).length ≤ (contentLeaves nodes).length ∧
      contentWeight nodes ≤ contentWeight (fromArray nodes) ∧
      (contentWeight (fromArray nodes) = contentWeight nodes → nodes.IsChain Apart) := by
  induction nodes with
  | nil => exact ⟨le_rfl, le_rfl, fun _ => .nil⟩
  | cons node rest ih =>
      obtain ⟨hlength, hweight, hchain⟩ := ih
      rw [fromArray, List.foldr_cons, ← fromArray]
      rcases glue_single node (fromArray rest) with
        ⟨hglue, hseparate⟩ | ⟨markup, unit, units, head, more, tail, rfl, hsecond, hglue⟩
      · rw [hglue]
        simp only [contentWeight, contentLeaves_cons node, List.map_append, List.sum_append,
          List.length_append] at hlength hweight hchain ⊢
        refine ⟨by omega, by omega, fun heq => ?_⟩
        rw [List.isChain_cons]
        refine ⟨?_, hchain (by omega)⟩
        intro next hnext hnode htext hmarkup
        cases rest with
        | nil => cases hnext
        | cons other rest =>
            cases hnext
            obtain ⟨first, others, hfirst, hfirstText, hfirstMarkup, -⟩ :=
              fromArray_cons next rest
            refine absurd (hmarkup.trans hfirstMarkup.symm) (hseparate first ?_ hnode ?_)
            · rw [hfirst]
              rfl
            · rw [hfirstText]
              exact htext
      · rw [hglue]
        rw [hsecond] at hlength hweight hchain
        simp only [contentWeight, contentLeaves_text, isBlank_append] at hlength hweight hchain ⊢
        cases hnode : isBlank (text markup unit units) <;>
          cases hhead : isBlank (text markup head more) <;>
          simp only [hhead, Bool.and_true, Bool.and_false, if_true, if_false,
            Bool.false_eq_true, List.map_cons, List.sum_cons, List.length_cons, weight,
            List.length_append] at hlength hweight hchain ⊢
        · exact ⟨by omega, by omega, fun heq => by omega⟩
        · exact ⟨by omega, by omega, fun heq => by omega⟩
        · exact ⟨by omega, by omega, fun heq => by omega⟩
        · refine ⟨hlength, hweight, fun heq => ?_⟩
          rw [List.isChain_cons]
          refine ⟨?_, hchain heq⟩
          intro next hnext _ _ _
          cases rest with
          | nil => cases hnext
          | cons other rest =>
              cases hnext
              obtain ⟨first, others, hfirst, -, -, -, hprefix, -⟩ := fromArray_cons next rest
              cases hfirst.symm.trans hsecond
              exact ⟨hnode, hprefix hhead⟩

theorem leftDepthIn_fromArray : leftDepthIn (fromArray nodes) = leftDepthIn nodes := by
  cases nodes with
  | nil => rfl
  | cons node rest =>
      obtain ⟨first, others, hfirst, -, -, hdepth, -⟩ := fromArray_cons node rest
      rw [hfirst, leftDepthIn, leftDepthIn, hdepth]

theorem rightDepthIn_fromArray : rightDepthIn (fromArray nodes) = rightDepthIn nodes := by
  induction nodes with
  | nil => rfl
  | cons node rest ih =>
      cases rest with
      | nil =>
          rcases glue_single node [] with ⟨hglue, -⟩ | ⟨_, _, _, _, _, _, _, hnil, _⟩
          · rw [fromArray, List.foldr_cons, List.foldr_nil, hglue]
          · cases hnil
      | cons next rest =>
          obtain ⟨first, others, hfirst, -⟩ := fromArray_cons next rest
          rw [rightDepthIn_cons node (List.cons_ne_nil next rest), ← ih, fromArray,
            List.foldr_cons, ← fromArray]
          rcases glue_single node (fromArray (next :: rest)) with
            ⟨hglue, -⟩ | ⟨markup, unit, units, head, more, tail, rfl, hsecond, hglue⟩
          · rw [hglue, rightDepthIn_cons node (by rw [hfirst]; exact List.cons_ne_nil _ _)]
          · rw [hglue, hsecond]
            cases tail with
            | nil => rfl
            | cons after tail => rfl

theorem filterSlice_eq (types : NodeTypes κ) (slice : Slice κ) :
    filterSlice types slice =
      if slice.content.filter (isKept types) ≠ [] ∨ slice.content = [] then
        some ⟨fromArray (slice.content.filter (isKept types)), slice.openStart, slice.openEnd⟩
      else none := by
  have hsize : contentSize slice.content > 0 ↔ slice.content ≠ [] := by
    cases slice.content with
    | nil => simp
    | cons node rest => simp [Nat.add_pos_left node.nodeSize_pos]
  have hcondition : (slice.content.filter (isKept types)).length = 0 ∧
      contentSize slice.content > 0 ↔
        ¬ (slice.content.filter (isKept types) ≠ [] ∨ slice.content = []) := by
    rw [List.length_eq_zero_iff, hsize, not_or, not_not]
  by_cases hsome : slice.content.filter (isKept types) ≠ [] ∨ slice.content = []
  · rw [if_pos hsome]
    exact if_neg fun hnone => hcondition.mp hnone hsome
  · rw [if_neg hsome]
    exact if_pos (hcondition.mpr hsome)

theorem opened_iff {types : NodeTypes κ} {slice : Slice κ} (hopened : slice.WellOpened) :
    (∀ inserted, filterSlice types slice = some inserted → inserted.WellOpened) ↔
      (∀ gone kept rest, slice.content = gone ++ kept :: rest → gone ≠ [] →
        (∀ node ∈ gone, ¬ isKept types node) → isKept types kept →
          slice.openStart ≤ leftDepth kept) ∧
      ∀ rest kept gone, slice.content = rest ++ kept :: gone → gone ≠ [] →
        (∀ node ∈ gone, ¬ isKept types node) → isKept types kept →
          slice.openEnd ≤ rightDepth kept := by
  have hfirst := hopened.first
  have hlast := hopened.last
  rw [leftDepthIn_eq_head] at hfirst
  rw [rightDepthIn_eq_head] at hlast
  have hinserted : (∀ inserted, filterSlice types slice = some inserted → inserted.WellOpened) ↔
      (slice.content.filter (isKept types) ≠ [] ∨ slice.content = [] →
        slice.openStart ≤ leftDepthIn (slice.content.filter (isKept types))) ∧
      (slice.content.filter (isKept types) ≠ [] ∨ slice.content = [] →
        slice.openEnd ≤ rightDepthIn (slice.content.filter (isKept types))) := by
    rw [filterSlice_eq, ← imp_and, ← leftDepthIn_fromArray, ← rightDepthIn_fromArray]
    split
    · next hsome =>
        simp only [hsome, true_imp_iff, Option.some.injEq, forall_eq']
        exact ⟨fun h => ⟨h.first, h.last⟩, fun h => ⟨h.1, h.2⟩⟩
    · next hnone => simp only [hnone, reduceCtorEq, false_imp_iff, implies_true]
  rw [hinserted, leftDepthIn_eq_head, rightDepthIn_eq_head]
  apply and_congr
  · exact le_head_filter_iff hfirst
  · have hreverse := @le_head_filter_iff _ (isKept types) _ _ _ hlast
    rw [List.filter_reverse, List.reverse_eq_nil_iff] at hreverse
    rw [List.reverse_ne_nil_iff] at hreverse
    rw [hreverse]
    constructor
    · intro hall rest kept gone heq hne hgone hkept
      apply hall gone.reverse kept rest.reverse
      · rw [heq, List.reverse_append, List.reverse_cons, List.append_assoc]
        rfl
      · exact List.reverse_ne_nil_iff.mpr hne
      · exact fun node hnode => hgone node (List.mem_reverse.mp hnode)
      · exact hkept
    · intro hall gone kept rest heq hne hgone hkept
      apply hall rest.reverse kept gone.reverse
      · rw [← List.reverse_reverse slice.content, heq, List.reverse_append, List.reverse_cons,
          List.append_assoc]
        rfl
      · exact List.reverse_ne_nil_iff.mpr hne
      · exact fun node hnode => hgone node (List.mem_reverse.mp hnode)
      · exact hkept

theorem leaves_iff (types : NodeTypes κ) (slice : Slice κ) :
    (contentLeaves slice.content).Sublist
        (leavesIn ((filterSlice types slice).elim [] Slice.content)) ↔
      (∀ node ∈ slice.content, ¬ isKept types node → ∀ leaf ∈ leaves node, leaf.isText) ∧
        (slice.content.filter (isKept types)).IsChain Apart := by
  have hinserted : (filterSlice types slice).elim [] Slice.content =
      fromArray (slice.content.filter (isKept types)) := by
    rw [filterSlice_eq]
    split
    · rfl
    · next hnone =>
        rw [not_or, not_not] at hnone
        rw [hnone.1]
        rfl
  rw [hinserted, ← contentLeaves_filter_eq_iff]
  constructor
  · intro hsublist
    obtain ⟨hlength, -, hchain⟩ := fromArray_measured (slice.content.filter (isKept types))
    have hkept := contentLeaves_filter_sublist types slice.content
    have hcontent := hsublist.filter fun node => !isBlank node
    rw [← contentLeaves, contentLeaves, List.filter_filter] at hcontent
    simp only [Bool.and_self] at hcontent
    rw [← contentLeaves] at hcontent
    have heq := hkept.eq_of_length_le (hcontent.length_le.trans hlength)
    have hjoined := hcontent.eq_of_length_le (hlength.trans hkept.length_le)
    exact ⟨heq, hchain (by rw [contentWeight, contentWeight, ← hjoined, heq])⟩
  · rintro ⟨hkept, hapart⟩
    rw [← hkept, ← contentLeaves_fromArray_of_apart _ hapart]
    exact List.filter_sublist

/-- The slice keeps its content and is well opened unless paragraphs go that hold more than
text, that keep texts apart, or that it is opened through. -/
theorem keepsContent_iff (types : NodeTypes κ) (slice : Slice κ) (hopened : slice.WellOpened) :
    KeepsContent types slice ↔ Fits types slice := by
  constructor
  · rintro ⟨hleaves, hinserted⟩
    obtain ⟨hbare, hapart⟩ := (leaves_iff types slice).mp hleaves
    obtain ⟨hfirst, hlast⟩ := (opened_iff hopened).mp hinserted
    exact ⟨hbare, hapart, hfirst, hlast⟩
  · rintro ⟨hbare, hapart, hfirst, hlast⟩
    exact ⟨(leaves_iff types slice).mpr ⟨hbare, hapart⟩,
      (opened_iff hopened).mpr ⟨hfirst, hlast⟩⟩

end Joined

end Content

def noteTypes : NodeTypes String := ⟨fun name => name = "paragraph", fun _ => []⟩

def word : DocNode String := element "paragraph" [text "text" 120 []]

def photo : DocNode String := element "paragraph" [leaf "image"]

theorem keepsContent_word : KeepsContent noteTypes ⟨[word], 1, 1⟩ := by
  apply (keepsContent_iff noteTypes ⟨[word], 1, 1⟩ ⟨by decide, by decide⟩).mpr
  constructor
  · intro node hnode hgone
    cases List.mem_singleton.mp hnode
    exact absurd (by decide) hgone
  · exact .singleton word
  · intro gone kept rest heq hne
    cases gone with
    | nil => exact absurd rfl hne
    | cons first gone => simp at heq
  · intro rest kept gone heq hne
    cases rest with
    | nil => exact absurd (List.cons.inj heq).2.symm hne
    | cons first rest => simp at heq

theorem photo_lost :
    Slice.WellOpened ⟨[word, photo], 1, 1⟩ ∧ ¬ KeepsContent noteTypes ⟨[word, photo], 1, 1⟩ := by
  refine ⟨⟨by decide, by decide⟩, fun hkeeps => ?_⟩
  obtain ⟨hbare, -⟩ := (leaves_iff noteTypes ⟨[word, photo], 1, 1⟩).mp hkeeps.leaves
  exact absurd (hbare photo (.tail _ (.head _)) (by decide) (leaf "image") (.head _)) (by decide)

end PastedSlices

end Osvauld.Livnote
