import Mathlib.Data.List.Basic
import Mathlib.Data.List.Infix

namespace Osvauld.Data

/-! Documents as trees of nodes, and positions in them: a position counts the characters,
the leaves, and the beginnings and ends of the elements before it. -/

inductive DocNode (κ : Type*) where
  | text (markup : κ) (unit : UInt16) (units : List UInt16)
  | leaf (markup : κ)
  | element (markup : κ) (content : List (DocNode κ))

namespace DocNode

variable {κ : Type*}

def markup : DocNode κ → κ
  | text markup _ _ => markup
  | leaf markup => markup
  | element markup _ => markup

def content : DocNode κ → List (DocNode κ)
  | element _ content => content
  | _ => []

mutual

def nodeSize : DocNode κ → Nat
  | text _ _ units => units.length + 1
  | leaf _ => 1
  | element _ content => contentSize content + 2

def contentSize : List (DocNode κ) → Nat
  | [] => 0
  | child :: rest => child.nodeSize + contentSize rest

end

/-- A node that a position is in, the number of its children before the position, and the
position after these. -/
structure Level (κ : Type*) where
  node : DocNode κ
  index : Nat
  offset : Nat

mutual

def levels (start target : Nat) : DocNode κ → List (Level κ)
  | element markup content => levelsIn start target (element markup content) 0 0 content
  | text _ _ _ => []
  | leaf _ => []

def levelsIn (start target : Nat) (parent : DocNode κ) (index before : Nat) :
    List (DocNode κ) → List (Level κ)
  | [] => [⟨parent, index, start + before⟩]
  | child :: rest =>
      if before + child.nodeSize ≤ target then
        levelsIn start target parent (index + 1) (before + child.nodeSize) rest
      else
        ⟨parent, index, start + before⟩ ::
          if before < target then child.levels (start + before + 1) (target - before - 1)
          else []

end

theorem nodeSize_pos (node : DocNode κ) : 0 < node.nodeSize := by
  cases node with
  | text markup unit units => rw [nodeSize]; omega
  | leaf markup => rw [nodeSize]; omega
  | element markup content => rw [nodeSize]; omega

@[simp] theorem contentSize_nil : contentSize ([] : List (DocNode κ)) = 0 := rfl

@[simp] theorem contentSize_cons (child : DocNode κ) (rest : List (DocNode κ)) :
    contentSize (child :: rest) = child.nodeSize + contentSize rest := rfl

@[simp] theorem contentSize_append (first second : List (DocNode κ)) :
    contentSize (first ++ second) = contentSize first + contentSize second := by
  induction first with
  | nil => simp
  | cons child rest ih => rw [List.cons_append, contentSize_cons, contentSize_cons, ih]; omega

@[simp] theorem nodeSize_element (markup : κ) (content : List (DocNode κ)) :
    (element markup content).nodeSize = contentSize content + 2 := by
  rw [nodeSize]

theorem levelsIn_append (start target : Nat) (parent : DocNode κ)
    (passed rest : List (DocNode κ)) (index before : Nat)
    (hpassed : before + contentSize passed ≤ target) :
    levelsIn start target parent index before (passed ++ rest) =
      levelsIn start target parent (index + passed.length) (before + contentSize passed)
        rest := by
  induction passed generalizing index before with
  | nil => rfl
  | cons child passed ih =>
      rw [contentSize_cons] at hpassed
      rw [List.cons_append, levelsIn, if_pos (by omega), ih _ _ (by omega), List.length_cons,
        contentSize_cons]
      congr 1
      · omega
      · omega

theorem levelsIn_boundary (start target : Nat) (parent : DocNode κ)
    (rest : List (DocNode κ)) (index : Nat) :
    levelsIn start target parent index target rest = [⟨parent, index, start + target⟩] := by
  cases rest with
  | nil => rw [levelsIn]
  | cons child rest =>
      have hsize := child.nodeSize_pos
      rw [levelsIn, if_neg (by omega), if_neg (by omega)]

structure Frame (κ : Type*) where
  markup : κ
  before : List (DocNode κ)
  after : List (DocNode κ)

def Frame.plug (frame : Frame κ) (node : DocNode κ) : DocNode κ :=
  element frame.markup (frame.before ++ node :: frame.after)

def plug (frames : List (Frame κ)) (node : DocNode κ) : DocNode κ :=
  frames.foldr Frame.plug node

def frameLevels (start : Nat) (node : DocNode κ) : List (Frame κ) → List (Level κ)
  | [] => []
  | frame :: inner =>
      ⟨plug (frame :: inner) node, frame.before.length, start + contentSize frame.before⟩ ::
        frameLevels (start + contentSize frame.before + 1) node inner

def entry (start : Nat) : List (Frame κ) → Nat
  | [] => start
  | frame :: inner => entry (start + contentSize frame.before + 1) inner

@[simp] theorem plug_nil (node : DocNode κ) : plug [] node = node := rfl

@[simp] theorem plug_cons (frame : Frame κ) (inner : List (Frame κ)) (node : DocNode κ) :
    plug (frame :: inner) node = frame.plug (plug inner node) := rfl

theorem plug_append (outer inner : List (Frame κ)) (node : DocNode κ) :
    plug (outer ++ inner) node = plug outer (plug inner node) := by
  rw [plug, plug, plug, List.foldr_append]

theorem length_frameLevels (start : Nat) (node : DocNode κ) (frames : List (Frame κ)) :
    (frameLevels start node frames).length = frames.length := by
  induction frames generalizing start with
  | nil => rfl
  | cons frame inner ih => rw [frameLevels, List.length_cons, ih, List.length_cons]

theorem frameLevels_append (start : Nat) (node : DocNode κ) (outer inner : List (Frame κ)) :
    frameLevels start node (outer ++ inner) =
      frameLevels start (plug inner node) outer ++ frameLevels (entry start outer) node inner := by
  induction outer generalizing start with
  | nil => rfl
  | cons frame outer ih =>
      rw [List.cons_append, frameLevels, ih, frameLevels, entry, List.cons_append, plug_cons,
        plug_append, plug_cons]

theorem levels_frame (start target : Nat) (frame : Frame κ) (node : DocNode κ)
    (htarget : target + 1 < node.nodeSize) :
    levels start (contentSize frame.before + 1 + target) (frame.plug node) =
      ⟨frame.plug node, frame.before.length, start + contentSize frame.before⟩ ::
        levels (start + contentSize frame.before + 1) target node := by
  rw [Frame.plug, levels, levelsIn_append _ _ _ _ _ _ _ (by omega), levelsIn,
    if_neg (by omega), if_pos (by omega), Nat.zero_add, Nat.zero_add]
  congr 2
  omega

theorem entry_add (first second : Nat) (frames : List (Frame κ)) :
    entry (first + second) frames = first + entry second frames := by
  induction frames generalizing second with
  | nil => rfl
  | cons frame inner ih => rw [entry, entry, ← ih]; congr 1; omega

theorem contentSize_before_lt (frame : Frame κ) (node : DocNode κ) :
    contentSize frame.before + node.nodeSize + 2 ≤ (frame.plug node).nodeSize := by
  rw [Frame.plug, nodeSize_element, contentSize_append, contentSize_cons]
  omega

theorem entry_plug_le (frames : List (Frame κ)) (node : DocNode κ) :
    entry 0 frames + node.nodeSize ≤ (plug frames node).nodeSize := by
  induction frames with
  | nil => rw [entry, plug_nil, Nat.zero_add]
  | cons frame inner ih =>
      have houter := contentSize_before_lt frame (plug inner node)
      rw [entry, Nat.zero_add, ← Nat.add_zero (contentSize frame.before + 1), entry_add,
        plug_cons]
      omega

theorem levels_plug (start target : Nat) (frames : List (Frame κ)) (node : DocNode κ)
    (htarget : target + 1 < node.nodeSize) :
    levels start (entry 0 frames + target) (plug frames node) =
      frameLevels start node frames ++ levels (entry start frames) target node := by
  induction frames generalizing start with
  | nil => rw [entry, entry, frameLevels, Nat.zero_add]; rfl
  | cons frame inner ih =>
      have hinner := entry_plug_le inner node
      rw [entry, Nat.zero_add, ← Nat.add_zero (contentSize frame.before + 1), entry_add,
        Nat.add_assoc, plug_cons, levels_frame _ _ _ _ (by omega), ih, frameLevels, entry]
      rfl

theorem levelsIn_cases (start target : Nat) (parent : DocNode κ) (index before : Nat)
    (content : List (DocNode κ)) :
    (∃ last, levelsIn start target parent index before content = [last] ∧ last.node = parent) ∨
    ∃ passed child rest, content = passed ++ child :: rest ∧
      levelsIn start target parent index before content =
        ⟨parent, index + passed.length, start + (before + contentSize passed)⟩ ::
          child.levels (start + (before + contentSize passed) + 1)
            (target - (before + contentSize passed) - 1) := by
  induction content generalizing index before with
  | nil => exact .inl ⟨_, by rw [levelsIn], rfl⟩
  | cons child rest ih =>
      by_cases hpassed : before + child.nodeSize ≤ target
      · rw [levelsIn, if_pos hpassed]
        rcases ih (index + 1) (before + child.nodeSize) with
          hlast | ⟨passed, inside, after, heq, hlevels⟩
        · exact .inl hlast
        · refine .inr ⟨child :: passed, inside, after, by rw [heq, List.cons_append], ?_⟩
          rw [hlevels, contentSize_cons, List.length_cons, Nat.add_assoc before,
            Nat.add_assoc index, Nat.add_comm 1]
      · rw [levelsIn, if_neg hpassed]
        by_cases hinside : before < target
        · refine .inr ⟨[], child, rest, rfl, ?_⟩
          rw [if_pos hinside]
          rfl
        · exact .inl ⟨_, by rw [if_neg hinside], rfl⟩

theorem exists_frames (depth start target : Nat) (node : DocNode κ) (level : Level κ)
    (hlevel : (levels start target node)[depth]? = some level) :
    ∃ frames, frames.length = depth ∧ plug frames level.node = node ∧
      (levels start target node).take depth = frameLevels start level.node frames := by
  induction depth generalizing start target node with
  | zero =>
      refine ⟨[], rfl, ?_, rfl⟩
      cases node with
      | text markup unit units => cases hlevel
      | leaf markup => cases hlevel
      | element markup content =>
          rw [levels] at hlevel
          rcases levelsIn_cases start target (element markup content) 0 0 content with
            ⟨last, heq, hnode⟩ | ⟨passed, child, rest, _, heq⟩
          · rw [heq] at hlevel
            cases hlevel
            exact hnode
          · rw [heq] at hlevel
            cases hlevel
            rfl
  | succ depth ih =>
      cases node with
      | text markup unit units => cases hlevel
      | leaf markup => cases hlevel
      | element markup content =>
          rw [levels] at hlevel ⊢
          rcases levelsIn_cases start target (element markup content) 0 0 content with
            ⟨last, heq, hnode⟩ | ⟨passed, child, rest, hcontent, heq⟩
          · rw [heq] at hlevel
            cases hlevel
          · rw [heq, List.getElem?_cons_succ] at hlevel
            obtain ⟨frames, hlength, hplug, htake⟩ := ih _ _ child hlevel
            refine ⟨⟨markup, passed, rest⟩ :: frames, by rw [List.length_cons, hlength], ?_, ?_⟩
            · rw [plug_cons, hplug, Frame.plug, hcontent]
            · rw [heq, List.take_succ_cons, htake, frameLevels, plug_cons, hplug, Frame.plug,
                hcontent, Nat.zero_add, Nat.zero_add]

theorem nodeSize_plug_lt (frame : Frame κ) (inner : List (Frame κ)) (node : DocNode κ) :
    node.nodeSize < (plug (frame :: inner) node).nodeSize := by
  have hframe := contentSize_before_lt frame (plug inner node)
  have hinner := entry_plug_le inner node
  rw [plug_cons]
  omega

theorem nodeSize_lt_of_deeper {start target : Nat} {node : DocNode κ} {depth deeper : Nat}
    {level inside : Level κ} (hlevel : (levels start target node)[depth]? = some level)
    (hinside : (levels start target node)[deeper]? = some inside) (hdepth : depth < deeper) :
    inside.node.nodeSize < level.node.nodeSize := by
  obtain ⟨frames, hlength, -, htake⟩ := exists_frames deeper start target node inside hinside
  have hframes := frameLevels_append start inside.node (frames.take depth) (frames.drop depth)
  have htaken : (frames.take depth).length = depth := by
    rw [List.length_take]
    omega
  rw [List.take_append_drop] at hframes
  rw [← List.getElem?_take_of_lt hdepth, htake, hframes, List.getElem?_append_right
    (by rw [length_frameLevels, htaken]), length_frameLevels, htaken, Nat.sub_self] at hlevel
  cases hdrop : frames.drop depth with
  | nil =>
      rw [List.drop_eq_nil_iff] at hdrop
      omega
  | cons frame inner =>
      rw [hdrop, frameLevels] at hlevel
      cases hlevel
      exact nodeSize_plug_lt frame inner inside.node

theorem offset_of_frames {start target : Nat} {node inside : DocNode κ}
    {outer : List (Frame κ)} {frame : Frame κ}
    (htake : (levels start target node).take (outer.length + 1) =
      frameLevels start inside (outer ++ [frame])) :
    (levels start target node)[outer.length]?.map Level.offset =
      some (entry start outer + contentSize frame.before) := by
  rw [← List.getElem?_take_of_lt (Nat.lt_succ_self _), htake, frameLevels_append,
    List.getElem?_append_right (by rw [length_frameLevels]), length_frameLevels, Nat.sub_self]
  rfl

end DocNode

open DocNode

structure ResolvedPos (κ : Type*) where
  pos : Nat
  path : List (Level κ)

namespace ResolvedPos

variable {κ : Type*} (place : ResolvedPos κ)

def depth : Nat := place.path.length - 1

def node (depth : Nat) : Option (DocNode κ) := place.path[depth]?.map Level.node

def index (depth : Nat) : Nat := (place.path[depth]?.map Level.index).getD 0

def before (depth : Nat) : Option Nat :=
  match depth with
  | 0 => none
  | outer + 1 =>
      if outer = place.depth then some place.pos else place.path[outer]?.map Level.offset

def start (depth : Nat) : Nat :=
  match depth with
  | 0 => 0
  | outer + 1 => (place.path[outer]?.map Level.offset).getD 0 + 1

section Innermost

variable (pos : Nat) (outer : List (Level κ)) (last : Level κ)

@[simp] theorem depth_concat : depth ⟨pos, outer ++ [last]⟩ = outer.length := by
  simp [depth]

@[simp] theorem node_concat : node ⟨pos, outer ++ [last]⟩ outer.length = some last.node := by
  simp [node]

@[simp] theorem index_concat : index ⟨pos, outer ++ [last]⟩ outer.length = last.index := by
  simp [index]

theorem start_concat :
    start ⟨pos, outer ++ [last]⟩ outer.length = start ⟨0, outer⟩ outer.length := by
  cases hlength : outer.length with
  | zero => rfl
  | succ depth =>
      have hdepth : depth < outer.length := by omega
      simp only [start, List.getElem?_append_left hdepth]

end Innermost

end ResolvedPos

def DocNode.resolve {κ : Type*} (doc : DocNode κ) (pos : Nat) : Option (ResolvedPos κ) :=
  if pos ≤ contentSize doc.content then some ⟨pos, doc.levels 0 pos⟩ else none

namespace DocNode

variable {κ : Type*} [DecidableEq κ]

def isElement : DocNode κ → Bool
  | element _ _ => true
  | _ => false

def glue : List (DocNode κ) → List (DocNode κ) → List (DocNode κ)
  | [], second => second
  | [text markup unit units], text other next rest :: second =>
      if markup = other then text markup unit (units ++ next :: rest) :: second
      else text markup unit units :: text other next rest :: second
  | child :: first, second => child :: glue first second

def textOf (markup : κ) : List UInt16 → List (DocNode κ)
  | [] => []
  | unit :: units => [text markup unit units]

def upTo (offset : Nat) : DocNode κ → List (DocNode κ)
  | text markup unit units => textOf markup ((unit :: units).take offset)
  | _ => []

def past (offset : Nat) : DocNode κ → List (DocNode κ)
  | text markup unit units => textOf markup ((unit :: units).drop offset)
  | other => [other]

def cutBefore (offset : Nat) : List (DocNode κ) → List (DocNode κ)
  | [] => []
  | child :: rest =>
      if child.nodeSize ≤ offset then child :: cutBefore (offset - child.nodeSize) rest
      else child.upTo offset

def cutAfter (offset : Nat) : List (DocNode κ) → List (DocNode κ)
  | [] => []
  | child :: rest =>
      if child.nodeSize ≤ offset then cutAfter (offset - child.nodeSize) rest
      else child.past offset ++ rest

mutual

def deleteBetween (first last : Nat) : DocNode κ → DocNode κ
  | element markup content =>
      element markup ((deleteInside first last content).getD
        (glue (cutBefore first content) (cutAfter last content)))
  | text markup unit units => text markup unit units
  | leaf markup => leaf markup

def deleteInside (first last : Nat) : List (DocNode κ) → Option (List (DocNode κ))
  | [] => none
  | child :: rest =>
      if child.nodeSize ≤ first then
        (deleteInside (first - child.nodeSize) (last - child.nodeSize) rest).map (child :: ·)
      else if 0 < first ∧ last < child.nodeSize ∧ child.isElement then
        some (child.deleteBetween (first - 1) (last - 1) :: rest)
      else none

end

omit [DecidableEq κ] in
theorem cutBefore_append (before rest : List (DocNode κ)) :
    cutBefore (contentSize before) (before ++ rest) = before := by
  induction before with
  | nil =>
      cases rest with
      | nil => rfl
      | cons child rest =>
          have hsize := child.nodeSize_pos
          rw [List.nil_append, contentSize_nil, cutBefore, if_neg (by omega)]
          cases child with
          | text markup unit units => rfl
          | leaf markup => rfl
          | element markup content => rfl
  | cons child before ih =>
      rw [List.cons_append, contentSize_cons, cutBefore, if_pos (by omega),
        Nat.add_sub_cancel_left, ih]

omit [DecidableEq κ] in
theorem cutAfter_append (before rest : List (DocNode κ)) :
    cutAfter (contentSize before) (before ++ rest) = rest := by
  induction before with
  | nil =>
      cases rest with
      | nil => rfl
      | cons child rest =>
          have hsize := child.nodeSize_pos
          rw [List.nil_append, contentSize_nil, cutAfter, if_neg (by omega)]
          cases child with
          | text markup unit units => rfl
          | leaf markup => rfl
          | element markup content => rfl
  | cons child before ih =>
      rw [List.cons_append, contentSize_cons, cutAfter, if_pos (by omega),
        Nat.add_sub_cancel_left, ih]

theorem deleteInside_child (before after : List (DocNode κ)) (node : DocNode κ) :
    deleteInside (contentSize before) (contentSize before + node.nodeSize)
      (before ++ node :: after) = none := by
  induction before with
  | nil =>
      have hsize := node.nodeSize_pos
      rw [List.nil_append, contentSize_nil, deleteInside, if_neg (by omega), if_neg (by omega)]
  | cons child before ih =>
      rw [List.cons_append, contentSize_cons, deleteInside, if_pos (by omega),
        Nat.add_assoc, Nat.add_sub_cancel_left, Nat.add_sub_cancel_left, ih]
      rfl

theorem deleteInside_element (before after : List (DocNode κ)) (node : DocNode κ)
    (first last : Nat) (hnode : node.isElement) (hordered : first ≤ last)
    (hlast : last + 1 < node.nodeSize) :
    deleteInside (contentSize before + (first + 1)) (contentSize before + (last + 1))
      (before ++ node :: after) = some (before ++ node.deleteBetween first last :: after) := by
  induction before with
  | nil =>
      rw [List.nil_append, contentSize_nil, deleteInside, if_neg (by omega),
        if_pos ⟨by omega, by omega, hnode⟩]
      simp
  | cons child before ih =>
      rw [List.cons_append, contentSize_cons, deleteInside, if_pos (by omega),
        Nat.add_assoc, Nat.add_assoc, Nat.add_sub_cancel_left, Nat.add_sub_cancel_left, ih]
      rfl

omit [DecidableEq κ] in
theorem isElement_plug (frames : List (Frame κ)) (markup : κ) (content : List (DocNode κ)) :
    (plug frames (element markup content)).isElement := by
  cases frames with
  | nil => rfl
  | cons frame inner => rfl

theorem deleteBetween_plug (outer : List (Frame κ)) (frame : Frame κ) (node : DocNode κ) :
    deleteBetween (entry 0 outer + contentSize frame.before)
      (entry 0 outer + contentSize frame.before + node.nodeSize)
      (plug outer (frame.plug node)) =
        plug outer (element frame.markup (glue frame.before frame.after)) := by
  induction outer with
  | nil =>
      rw [entry, Nat.zero_add, plug_nil, Frame.plug, deleteBetween, deleteInside_child,
        cutBefore_append, ← List.singleton_append, ← List.append_assoc]
      have hpassed := cutAfter_append (frame.before ++ [node]) frame.after
      rw [contentSize_append, contentSize_cons, contentSize_nil, Nat.add_zero] at hpassed
      rw [hpassed]
      rfl
  | cons outermost outer ih =>
      have hinside := entry_plug_le outer (frame.plug node)
      have hframe := contentSize_before_lt frame node
      have hentry : entry 0 (outermost :: outer) =
          contentSize outermost.before + (entry 0 outer + 1) := by
        rw [entry, Nat.zero_add, ← Nat.add_zero (contentSize outermost.before + 1), entry_add]
        omega
      have hdeeper := deleteInside_element outermost.before outermost.after
        (plug outer (frame.plug node)) (entry 0 outer + contentSize frame.before)
        (entry 0 outer + contentSize frame.before + node.nodeSize) (isElement_plug _ _ _)
        (by omega) (by omega)
      rw [ih] at hdeeper
      rw [hentry, plug_cons, plug_cons, Frame.plug, deleteBetween]
      have hfirst : contentSize outermost.before + (entry 0 outer + 1) +
          contentSize frame.before = contentSize outermost.before +
            (entry 0 outer + contentSize frame.before + 1) := by omega
      have hlast : contentSize outermost.before +
          (entry 0 outer + contentSize frame.before + 1) + node.nodeSize =
            contentSize outermost.before +
              (entry 0 outer + contentSize frame.before + node.nodeSize + 1) := by omega
      rw [hfirst, hlast, hdeeper]
      rfl

omit [DecidableEq κ] in
theorem resolve_beside (outer : List (Frame κ)) (frame : Frame κ) (node : DocNode κ) :
    (plug outer (frame.plug node)).resolve (entry 0 outer + contentSize frame.before) =
      some ⟨entry 0 outer + contentSize frame.before,
        frameLevels 0 (frame.plug node) outer ++ [⟨frame.plug node, frame.before.length,
          entry 0 outer + contentSize frame.before⟩]⟩ ∧
    (plug outer (frame.plug node)).resolve
        (entry 0 outer + contentSize frame.before + node.nodeSize) =
      some ⟨entry 0 outer + contentSize frame.before + node.nodeSize,
        frameLevels 0 (frame.plug node) outer ++ [⟨frame.plug node, frame.before.length + 1,
          entry 0 outer + contentSize frame.before + node.nodeSize⟩]⟩ := by
  have hframe := contentSize_before_lt frame node
  have hplug := entry_plug_le outer (frame.plug node)
  have hcontent : (plug outer (frame.plug node)).nodeSize =
      contentSize (plug outer (frame.plug node)).content + 2 := by
    have helement := isElement_plug outer frame.markup (frame.before ++ node :: frame.after)
    rw [← Frame.plug] at helement
    cases hnode : plug outer (frame.plug node) with
    | text markup unit units => rw [hnode] at helement; cases helement
    | leaf markup => rw [hnode] at helement; cases helement
    | element markup content => rw [nodeSize_element]; rfl
  have hpassed := contentSize_append frame.before [node]
  rw [contentSize_cons, contentSize_nil, Nat.add_zero] at hpassed
  constructor
  · rw [resolve, if_pos (by omega), levels_plug _ _ _ _ (by omega)]
    congr 3
    rw [Frame.plug, levels, levelsIn_append _ _ _ _ _ _ _ (by omega), Nat.zero_add,
      Nat.zero_add, levelsIn_boundary]
  · rw [resolve, if_pos (by omega), Nat.add_assoc, levels_plug _ _ _ _ (by omega)]
    congr 3
    rw [Frame.plug, levels, ← List.singleton_append, ← List.append_assoc,
      levelsIn_append _ _ _ _ _ _ _ (by omega), Nat.zero_add, Nat.zero_add, hpassed,
      levelsIn_boundary, List.length_append, List.length_singleton]

end DocNode

/-- Whether a node may have some of its children deleted, and what becomes of a document
when the deletion does not fit. -/
structure Schema (κ : Type*) where
  canReplace : DocNode κ → Nat → Nat → Bool
  fit : DocNode κ → Nat → Nat → DocNode κ

namespace Schema

variable {κ : Type*} [DecidableEq κ] (schema : Schema κ)

/-- Both positions are in one node that may do without what is between them. -/
def fitsTrivially (opened closed : ResolvedPos κ) : Bool :=
  opened.start opened.depth = closed.start closed.depth ∧
    (opened.node opened.depth).any fun parent =>
      schema.canReplace parent (opened.index opened.depth) (closed.index closed.depth)

def delete (first last : Nat) (doc : DocNode κ) : Option (DocNode κ) :=
  match doc.resolve first, doc.resolve last with
  | some opened, some closed =>
      if schema.fitsTrivially opened closed then some (doc.deleteBetween first last)
      else some (schema.fit doc first last)
  | _, _ => none

theorem delete_plug (outer : List (Frame κ)) (frame : Frame κ) (node : DocNode κ) :
    schema.delete (entry 0 outer + contentSize frame.before)
        (entry 0 outer + contentSize frame.before + node.nodeSize)
        (plug outer (frame.plug node)) =
      some (if schema.canReplace (frame.plug node) frame.before.length (frame.before.length + 1)
        then plug outer (element frame.markup (glue frame.before frame.after))
        else schema.fit (plug outer (frame.plug node))
          (entry 0 outer + contentSize frame.before)
          (entry 0 outer + contentSize frame.before + node.nodeSize)) := by
  obtain ⟨hopened, hclosed⟩ := resolve_beside outer frame node
  have hfits : ∀ position index offset, ∀ other after later,
      schema.fitsTrivially
        ⟨position, frameLevels 0 (frame.plug node) outer ++ [⟨frame.plug node, index, offset⟩]⟩
        ⟨other, frameLevels 0 (frame.plug node) outer ++ [⟨frame.plug node, after, later⟩]⟩ =
          schema.canReplace (frame.plug node) index after := by
    intro position index offset other after later
    simp [fitsTrivially, ResolvedPos.start_concat]
  rw [delete, hopened, hclosed]
  simp only [hfits, deleteBetween_plug]
  split
  · rfl
  · rfl

end Schema

end Osvauld.Data
