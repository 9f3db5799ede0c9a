import Mathlib.Data.List.Nodup
import Osvauld.Data.Positions

namespace Osvauld.Data

/-! The nodes of a document in their order, and a node whose markup is replaced. -/

namespace DocNode

variable {κ : Type*}

mutual

def visits (pos : Nat) : DocNode κ → List (DocNode κ × Nat)
  | text markup unit units => [(text markup unit units, pos)]
  | leaf markup => [(leaf markup, pos)]
  | element markup content => (element markup content, pos) :: visitsIn (pos + 1) content

def visitsIn (pos : Nat) : List (DocNode κ) → List (DocNode κ × Nat)
  | [] => []
  | child :: rest => child.visits pos ++ visitsIn (pos + child.nodeSize) rest

end

def descendants (doc : DocNode κ) : List (DocNode κ × Nat) := visitsIn 0 doc.content

mutual

def nodeInside (pos : Nat) : DocNode κ → Option (DocNode κ)
  | text markup unit units => some (text markup unit units)
  | leaf _ => none
  | element _ content => nodeIn pos content

def nodeIn (pos : Nat) : List (DocNode κ) → Option (DocNode κ)
  | [] => none
  | child :: rest =>
      if pos = 0 then some child
      else if child.nodeSize ≤ pos then nodeIn (pos - child.nodeSize) rest
      else child.nodeInside (pos - 1)

end

def nodeAt (pos : Nat) (doc : DocNode κ) : Option (DocNode κ) := nodeIn pos doc.content

def isText : DocNode κ → Bool
  | text _ _ _ => true
  | _ => false

def withMarkup (markup : κ) : DocNode κ → DocNode κ
  | text _ unit units => text markup unit units
  | leaf _ => leaf markup
  | element _ content => element markup content

mutual

def withMarkupInside (pos : Nat) (markup : κ) : DocNode κ → DocNode κ
  | text own unit units => text own unit units
  | leaf own => leaf own
  | element own content => element own (withMarkupIn pos markup content)

def withMarkupIn (pos : Nat) (markup : κ) : List (DocNode κ) → List (DocNode κ)
  | [] => []
  | child :: rest =>
      if pos = 0 then child.withMarkup markup :: rest
      else if child.nodeSize ≤ pos then
        child :: withMarkupIn (pos - child.nodeSize) markup rest
      else child.withMarkupInside (pos - 1) markup :: rest

end

/-- There is a node at the position, and it is no text. -/
def setNodeMarkup (pos : Nat) (markup : κ) (doc : DocNode κ) : Option (DocNode κ) :=
  match doc.nodeAt pos with
  | none => none
  | some node => if node.isText then none else some (doc.withMarkupInside pos markup)

structure Head (κ : Type*) where
  isText : Bool
  markup : κ

def head (node : DocNode κ) : Head κ := ⟨node.isText, node.markup⟩

def outlineIn (pos : Nat) (content : List (DocNode κ)) : List (Nat × Head κ) :=
  (visitsIn pos content).map fun visit => (visit.2, visit.1.head)

def outline (doc : DocNode κ) : List (Nat × Head κ) := outlineIn 0 doc.content

theorem head_withMarkup (markup : κ) (node : DocNode κ) :
    (node.withMarkup markup).head = ⟨node.isText, markup⟩ := by
  cases node with
  | text own unit units => rfl
  | leaf own => rfl
  | element own content => rfl

@[simp] theorem nodeSize_withMarkup (markup : κ) (node : DocNode κ) :
    (node.withMarkup markup).nodeSize = node.nodeSize := by
  cases node with
  | text own unit units => rw [withMarkup, nodeSize, nodeSize]
  | leaf own => rw [withMarkup, nodeSize, nodeSize]
  | element own content => rw [withMarkup, nodeSize, nodeSize]

mutual

@[simp] theorem nodeSize_withMarkupInside (pos : Nat) (markup : κ) (node : DocNode κ) :
    (node.withMarkupInside pos markup).nodeSize = node.nodeSize := by
  cases node with
  | text own unit units => rw [withMarkupInside]
  | leaf own => rw [withMarkupInside]
  | element own content =>
      rw [withMarkupInside, nodeSize_element, nodeSize_element,
        contentSize_withMarkupIn pos markup content]

theorem contentSize_withMarkupIn (pos : Nat) (markup : κ) (content : List (DocNode κ)) :
    contentSize (withMarkupIn pos markup content) = contentSize content := by
  cases content with
  | nil => rw [withMarkupIn]
  | cons child rest =>
      rw [withMarkupIn]
      split
      · rw [contentSize_cons, contentSize_cons, nodeSize_withMarkup]
      split
      · rw [contentSize_cons, contentSize_cons, contentSize_withMarkupIn _ markup rest]
      · rw [contentSize_cons, contentSize_cons,
          nodeSize_withMarkupInside (pos - 1) markup child]

end

mutual

theorem visits_within {pos : Nat} {node : DocNode κ} {visit : DocNode κ × Nat}
    (hvisit : visit ∈ node.visits pos) : pos ≤ visit.2 ∧ visit.2 < pos + node.nodeSize := by
  have hsize := node.nodeSize_pos
  cases node with
  | text markup unit units =>
      rw [visits, List.mem_singleton] at hvisit
      subst hvisit
      dsimp only
      omega
  | leaf markup =>
      rw [visits, List.mem_singleton] at hvisit
      subst hvisit
      dsimp only
      omega
  | element markup content =>
      rw [nodeSize_element]
      rw [visits, List.mem_cons] at hvisit
      rcases hvisit with rfl | hinside
      · dsimp only
        omega
      · have hwithin := visitsIn_within hinside
        omega

theorem visitsIn_within {pos : Nat} {content : List (DocNode κ)} {visit : DocNode κ × Nat}
    (hvisit : visit ∈ visitsIn pos content) :
    pos ≤ visit.2 ∧ visit.2 < pos + contentSize content := by
  cases content with
  | nil => rw [visitsIn] at hvisit; cases hvisit
  | cons child rest =>
      rw [contentSize_cons]
      rw [visitsIn, List.mem_append] at hvisit
      rcases hvisit with hchild | hrest
      · have hwithin := visits_within hchild
        omega
      · have hwithin := visitsIn_within hrest
        omega

end

variable {pos : Nat}

theorem visits_cases {node : DocNode κ} {visit : DocNode κ × Nat} (hvisit : visit ∈ node.visits pos) :
    visit = (node, pos) ∨ ∃ markup content, node = element markup content ∧
      visit ∈ visitsIn (pos + 1) content := by
  cases node with
  | text markup unit units =>
      rw [visits, List.mem_singleton] at hvisit
      exact .inl hvisit
  | leaf markup =>
      rw [visits, List.mem_singleton] at hvisit
      exact .inl hvisit
  | element markup content =>
      rw [visits, List.mem_cons] at hvisit
      exact hvisit.imp_right fun hinside => ⟨markup, content, rfl, hinside⟩

mutual

theorem nodeInside_of_visits {start : Nat} {markup : κ} {content : List (DocNode κ)}
    {node : DocNode κ} {pos : Nat} (hvisit : (node, start + pos) ∈ visitsIn start content) :
    nodeInside pos (element markup content) = some node := by
  rw [nodeInside]
  exact nodeIn_of_visits hvisit

theorem nodeIn_of_visits {start : Nat} {content : List (DocNode κ)} {node : DocNode κ}
    {pos : Nat} (hvisit : (node, start + pos) ∈ visitsIn start content) :
    nodeIn pos content = some node := by
  cases content with
  | nil => rw [visitsIn] at hvisit; cases hvisit
  | cons child rest =>
      have hsize := child.nodeSize_pos
      rw [visitsIn, List.mem_append] at hvisit
      rw [nodeIn]
      rcases hvisit with hchild | hrest
      · have hwithin := visits_within hchild
        rcases visits_cases hchild with heq | ⟨markup, content, rfl, hinside⟩
        · obtain ⟨rfl, hpos⟩ := Prod.mk.inj heq
          rw [if_pos (by omega)]
        · have hbelow := visitsIn_within hinside
          have hpos : start + pos = start + 1 + (pos - 1) := by omega
          rw [hpos] at hinside
          rw [if_neg (by omega), if_neg (by omega)]
          exact nodeInside_of_visits hinside
      · have hwithin := visitsIn_within hrest
        have hpos : start + pos = start + child.nodeSize + (pos - child.nodeSize) := by omega
        rw [hpos] at hrest
        rw [if_neg (by omega), if_pos (by omega)]
        exact nodeIn_of_visits hrest

end

theorem nodeAt_of_mem_descendants {doc node : DocNode κ} (hvisit : (node, pos) ∈ doc.descendants) :
    doc.nodeAt pos = some node := by
  rw [descendants, ← Nat.zero_add pos] at hvisit
  exact nodeIn_of_visits hvisit

def replaced (pos : Nat) (markup : κ) (entry : Nat × Head κ) : Nat × Head κ :=
  if entry.1 = pos then (entry.1, ⟨entry.2.isText, markup⟩) else entry

theorem outlineIn_cons (pos : Nat) (child : DocNode κ) (rest : List (DocNode κ)) :
    outlineIn pos (child :: rest) =
      (pos, child.head) ::
        (outlineIn (pos + 1) child.content ++ outlineIn (pos + child.nodeSize) rest) := by
  rw [outlineIn, visitsIn, List.map_append]
  cases child with
  | text markup unit units => rfl
  | leaf markup => rfl
  | element markup content => rfl

theorem outlineIn_within {content : List (DocNode κ)} {entry : Nat × Head κ}
    (hentry : entry ∈ outlineIn pos content) :
    pos ≤ entry.1 ∧ entry.1 < pos + contentSize content := by
  obtain ⟨visit, hvisit, rfl⟩ := List.mem_map.mp hentry
  exact visitsIn_within hvisit

theorem contentSize_content_lt (node : DocNode κ) :
    contentSize node.content < node.nodeSize := by
  cases node with
  | text markup unit units => exact nodeSize_pos _
  | leaf markup => exact nodeSize_pos _
  | element markup content => rw [nodeSize_element, DocNode.content]; omega

/-- Induction over the children of a node and the children of these. -/
theorem content_induction {motive : List (DocNode κ) → Prop} (nil : motive [])
    (cons : ∀ child rest, motive child.content → motive rest → motive (child :: rest))
    (content : List (DocNode κ)) : motive content := by
  induction hsize : contentSize content using Nat.strongRecOn generalizing content with
  | ind size ih =>
      subst hsize
      cases content with
      | nil => exact nil
      | cons child rest =>
          have hsize := child.nodeSize_pos
          have hinside := child.contentSize_content_lt
          rw [contentSize_cons] at ih
          apply cons
          · exact ih _ (by omega) _ rfl
          · exact ih _ (by omega) _ rfl

theorem pairwise_outlineIn (content : List (DocNode κ)) :
    ∀ pos, (outlineIn pos content).Pairwise fun entry later => entry.1 < later.1 := by
  induction content using content_induction with
  | nil => exact fun pos => .nil
  | cons child rest hcontent hrest =>
      intro pos
      have hchild := child.contentSize_content_lt
      rw [outlineIn_cons, List.pairwise_cons, List.pairwise_append]
      refine ⟨?_, hcontent _, hrest _, ?_⟩
      · intro entry hentry
        rcases List.mem_append.mp hentry with hinside | hafter
        · exact (outlineIn_within hinside).1
        · have hwithin := outlineIn_within hafter
          dsimp only
          omega
      · intro entry hinside later hafter
        have hwithin := outlineIn_within hinside
        have hlater := outlineIn_within hafter
        omega

theorem map_replaced_of_ne {pos : Nat} {markup : κ} {entries : List (Nat × Head κ)}
    (hne : ∀ entry ∈ entries, entry.1 ≠ pos) :
    entries.map (replaced pos markup) = entries := by
  have hself : ∀ entry ∈ entries, replaced pos markup entry = id entry :=
    fun entry hentry => if_neg (hne entry hentry)
  rw [List.map_congr_left hself, List.map_id]

theorem content_withMarkup (markup : κ) (node : DocNode κ) :
    (node.withMarkup markup).content = node.content := by
  cases node with
  | text own unit units => rfl
  | leaf own => rfl
  | element own content => rfl

theorem content_withMarkupInside (pos : Nat) (markup : κ) (node : DocNode κ) :
    (node.withMarkupInside pos markup).content = withMarkupIn pos markup node.content := by
  cases node with
  | text own unit units => rfl
  | leaf own => rfl
  | element own content => rfl

theorem head_withMarkupInside (pos : Nat) (markup : κ) (node : DocNode κ) :
    (node.withMarkupInside pos markup).head = node.head := by
  cases node with
  | text own unit units => rfl
  | leaf own => rfl
  | element own content => rfl

theorem outlineIn_withMarkupIn (markup : κ) (content : List (DocNode κ)) :
    ∀ start pos, outlineIn start (withMarkupIn pos markup content) =
      (outlineIn start content).map (replaced (start + pos) markup) := by
  induction content using content_induction with
  | nil => exact fun start pos => rfl
  | cons child rest hcontent hrest =>
      intro start pos
      have hchild := child.contentSize_content_lt
      rw [outlineIn_cons, List.map_cons, List.map_append, withMarkupIn]
      split
      · next hpos =>
          rw [outlineIn_cons, head_withMarkup, content_withMarkup, nodeSize_withMarkup,
            map_replaced_of_ne, map_replaced_of_ne, replaced, if_pos (by omega)]
          · rfl
          · intro entry hentry
            have hwithin := outlineIn_within hentry
            have hsize := child.nodeSize_pos
            omega
          · intro entry hentry
            have hwithin := outlineIn_within hentry
            omega
      split
      · next hpos =>
          have hafter : start + pos = start + child.nodeSize + (pos - child.nodeSize) := by omega
          rw [outlineIn_cons, hrest, ← hafter,
            @map_replaced_of_ne _ _ _ (outlineIn _ child.content), replaced, if_neg (by omega)]
          intro entry hentry
          have hwithin := outlineIn_within hentry
          omega
      · next hpos =>
          have hinside : start + pos = start + 1 + (pos - 1) := by omega
          rw [outlineIn_cons, head_withMarkupInside, content_withMarkupInside,
            nodeSize_withMarkupInside, hcontent, ← hinside,
            @map_replaced_of_ne _ _ _ (outlineIn _ rest), replaced, if_neg (by omega)]
          intro entry hentry
          have hwithin := outlineIn_within hentry
          omega

theorem outline_withMarkupInside (pos : Nat) (markup : κ) (doc : DocNode κ) :
    (doc.withMarkupInside pos markup).outline = doc.outline.map (replaced pos markup) := by
  rw [outline, content_withMarkupInside, outlineIn_withMarkupIn, Nat.zero_add, ← outline]

theorem nodeAt_of_mem_outline {doc : DocNode κ} {own : Head κ} (hentry : (pos, own) ∈ doc.outline) :
    ∃ node, doc.nodeAt pos = some node ∧ node.head = own := by
  obtain ⟨⟨node, _⟩, hvisit, heq⟩ := List.mem_map.mp hentry
  obtain ⟨rfl, rfl⟩ := Prod.mk.inj heq
  exact ⟨node, nodeAt_of_mem_descendants hvisit, rfl⟩

theorem setNodeMarkup_outline {doc : DocNode κ} {pos : Nat} {own : Head κ} {markup : κ}
    {before after : List (Nat × Head κ)} (houtline : doc.outline = before ++ (pos, own) :: after)
    (htext : own.isText = false) :
    ∃ next, doc.setNodeMarkup pos markup = some next ∧
      next.outline = before ++ (pos, ⟨own.isText, markup⟩) :: after := by
  have hentry : (pos, own) ∈ doc.outline := by
    rw [houtline]
    exact List.mem_append_right _ (.head _)
  obtain ⟨node, hnode, rfl⟩ := nodeAt_of_mem_outline hentry
  refine ⟨doc.withMarkupInside pos markup, ?_, ?_⟩
  · rw [setNodeMarkup, hnode]
    exact if_neg (Bool.eq_false_iff.mp htext)
  · have hgrow : doc.outline.Pairwise fun entry later => entry.1 < later.1 :=
      pairwise_outlineIn _ _
    rw [houtline, List.pairwise_append, List.pairwise_cons] at hgrow
    obtain ⟨-, ⟨hafter, -⟩, hbefore⟩ := hgrow
    rw [outline_withMarkupInside, houtline, List.map_append, List.map_cons, map_replaced_of_ne,
      map_replaced_of_ne, replaced, if_pos rfl]
    · intro entry hmem
      exact Nat.ne_of_gt (hafter entry hmem)
    · intro entry hmem
      exact Nat.ne_of_lt (hbefore entry hmem (pos, node.head) (.head _))

end DocNode

end Osvauld.Data
