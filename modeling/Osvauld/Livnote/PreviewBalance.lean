import Osvauld.Livnote.PreviewGenerator

namespace Osvauld.Livnote

open PreviewState

/-! Notes as forests, the tags of their previews, and what is cut off after the first
root-level blocks. -/

inductive Forest where
  | nil
  | element (name : String) (attributes : XmlAttributes) (children rest : Forest)
  | empty (name : String) (attributes : XmlAttributes) (rest : Forest)
  | text (content : String) (rest : Forest)
  | ignored (rest : Forest)

namespace Forest

def events : Forest → List XmlEvent
  | nil => []
  | element name attributes children rest =>
      .start name attributes :: (children.events ++ .finish name :: rest.events)
  | empty name attributes rest => .empty name attributes :: rest.events
  | text content rest => .text content :: rest.events
  | ignored rest => .ignored :: rest.events

def blocks : Forest → Nat
  | nil => 0
  | element name _ _ rest => if isBlockElement name then rest.blocks + 1 else rest.blocks
  | empty _ _ rest => rest.blocks
  | text _ rest => rest.blocks
  | ignored rest => rest.blocks

def cut : Nat → Forest → Forest
  | _, nil => nil
  | maxNodes, element name attributes children rest =>
      if isBlockElement name then
        match maxNodes with
        | 0 => nil
        | maxNodes + 1 => element name attributes children (cut maxNodes rest)
      else element name attributes children (cut maxNodes rest)
  | maxNodes, empty name attributes rest => empty name attributes (cut maxNodes rest)
  | maxNodes, text content rest => text content (cut maxNodes rest)
  | maxNodes, ignored rest => ignored (cut maxNodes rest)

def cutOff : Nat → Forest → Forest
  | _, nil => nil
  | maxNodes, element name attributes children rest =>
      if isBlockElement name then
        match maxNodes with
        | 0 => element name attributes children rest
        | maxNodes + 1 => cutOff maxNodes rest
      else cutOff maxNodes rest
  | maxNodes, empty _ _ rest => cutOff maxNodes rest
  | maxNodes, text _ rest => cutOff maxNodes rest
  | maxNodes, ignored rest => cutOff maxNodes rest

end Forest

def openTags : List String → List HtmlEvent → Option (List String)
  | tags, [] => some tags
  | tags, .start name :: rest => openTags (name :: tags) rest
  | [], .finish _ :: _ => none
  | tag :: tags, .finish name :: rest => if name = tag then openTags tags rest else none
  | tags, .empty _ _ :: rest => openTags tags rest
  | tags, .text _ :: rest => openTags tags rest

def Balanced (written : List HtmlEvent) : Prop := openTags [] written = some []

def preview (maxNodes : Nat) (note : Forest) : List HtmlEvent :=
  (convert maxNodes note.events {}).1

/-- The conversion succeeds, its tags are balanced, and it is the conversion of what
comes before the first block that is one too many. -/
structure CutsOff (maxNodes : Nat) (note : Forest) : Prop where
  succeeds : convertProsemirrorToHtml (note.events.map .ok) maxNodes =
    .ok (render (preview maxNodes note))
  balanced : Balanced (preview maxNodes note)
  cut : preview maxNodes note = preview maxNodes (note.cut maxNodes)

namespace Forest

def insideCode (kind : ElementKind) (inCodeBlock : Bool) : Bool :=
  match kind with
  | .codeBlock => true
  | _ => inCodeBlock

def outsideCode (kind : ElementKind) (inCodeBlock : Bool) : Bool :=
  match kind with
  | .codeBlock => false
  | _ => inCodeBlock

def codeAfter : Bool → Forest → Bool
  | inCodeBlock, nil => inCodeBlock
  | inCodeBlock, element name _ children rest =>
      let kind := ElementKind.of name
      codeAfter (outsideCode kind (codeAfter (insideCode kind inCodeBlock) children)) rest
  | inCodeBlock, empty _ _ rest => codeAfter inCodeBlock rest
  | inCodeBlock, text _ rest => codeAfter inCodeBlock rest
  | inCodeBlock, ignored rest => codeAfter inCodeBlock rest

def slips (kind : ElementKind) (before after : Bool) : Bool :=
  match kind with
  | .code => before && !after
  | _ => false

def codeSlips : Bool → Forest → Nat
  | _, nil => 0
  | inCodeBlock, element name _ children rest =>
      let kind := ElementKind.of name
      let after := codeAfter (insideCode kind inCodeBlock) children
      codeSlips (insideCode kind inCodeBlock) children +
        ((slips kind inCodeBlock after).toNat + codeSlips (outsideCode kind after) rest)
  | inCodeBlock, empty _ _ rest => codeSlips inCodeBlock rest
  | inCodeBlock, text _ rest => codeSlips inCodeBlock rest
  | inCodeBlock, ignored rest => codeSlips inCodeBlock rest

end Forest

structure SkipState where
  skipping : Bool
  depth : Int

namespace SkipState

/-- The start of an element, if nothing is written there. A block that starts the
skipping is not counted in. -/
def enter (name : String) (state : SkipState) : Option SkipState :=
  if state.skipping then some { state with depth := state.depth + 1 }
  else if state.depth = 0 ∧ isBlockElement name then some { skipping := true, depth := 0 }
  else
    match ElementKind.of name with
    | .unknown => some { state with depth := state.depth + 1 }
    | _ => none

/-- The end of an element, if nothing is written there. The skipping ends where the
count is back at the root, which may be within the block that started it. -/
def leave (name : String) (state : SkipState) : Option SkipState :=
  if state.skipping then some { skipping := state.depth ≠ 1, depth := state.depth - 1 }
  else if closed (ElementKind.of name) none false = [] then
    some { state with depth := state.depth - 1 }
  else none

def afterSilently : SkipState → Forest → Option SkipState
  | state, .nil => some state
  | state, .element name _ children rest => do
      let inside ← enter name state
      let last ← afterSilently inside children
      let next ← leave name last
      afterSilently next rest
  | state, .empty name _ rest =>
      if state.skipping then afterSilently state rest
      else
        match ElementKind.of name with
        | .hardBreak => none
        | .image => none
        | _ => afterSilently state rest
  | state, .text _ rest => if state.skipping then afterSilently state rest else none
  | state, .ignored rest => afterSilently state rest

end SkipState

/-- No `code` element slips out of its code block, and nothing is written of what is
cut off. -/
structure InStep (maxNodes : Nat) (note : Forest) : Prop where
  code : (note.cut maxNodes).codeSlips false = 0
  cutOff : (SkipState.afterSilently { skipping := false, depth := 0 }
    (note.cutOff maxNodes)).isSome

namespace Forest

def html : Bool → Forest → List HtmlEvent
  | _, nil => []
  | inCodeBlock, element name attributes children rest =>
      let kind := ElementKind.of name
      let inside := insideCode kind inCodeBlock
      let after := codeAfter inside children
      (opened kind attributes inCodeBlock).1 ++ (html inside children ++
        (closed kind (opened kind attributes inCodeBlock).2 after ++
          html (outsideCode kind after) rest))
  | inCodeBlock, empty name attributes rest =>
      PreviewState.empty name attributes {} ++ html inCodeBlock rest
  | inCodeBlock, text content rest => .text content :: html inCodeBlock rest
  | inCodeBlock, ignored rest => html inCodeBlock rest

theorem closed_head (kind : ElementKind) (attributes : XmlAttributes)
    (inCodeBlock after : Bool) (elementStack : List String) :
    closed kind ((opened kind attributes inCodeBlock).2.toList ++ elementStack).head? after =
      closed kind (opened kind attributes inCodeBlock).2 after := by
  cases kind <;> rfl

theorem pops_tail (kind : ElementKind) (attributes : XmlAttributes) (inCodeBlock : Bool)
    (elementStack : List String) :
    (if pops kind then ((opened kind attributes inCodeBlock).2.toList ++ elementStack).tail
      else (opened kind attributes inCodeBlock).2.toList ++ elementStack) = elementStack := by
  cases kind <;> rfl

def entered (name : String) (attributes : XmlAttributes) (state : PreviewState) :
    PreviewState :=
  { state with
    blockCount :=
      if state.depth = 0 ∧ isBlockElement name then state.blockCount + 1 else state.blockCount
    depth := state.depth + 1
    inCodeBlock := insideCode (ElementKind.of name) state.inCodeBlock
    elementStack :=
      (opened (ElementKind.of name) attributes state.inCodeBlock).2.toList ++
        state.elementStack }

theorem start_normal {maxNodes : Nat} {state : PreviewState} {name : String}
    (attributes : XmlAttributes) (hskip : state.skipDepth = none)
    (hblock : ¬ (state.depth = 0 ∧ isBlockElement name ∧ maxNodes ≤ state.blockCount)) :
    PreviewState.start maxNodes name attributes state =
      ((opened (ElementKind.of name) attributes state.inCodeBlock).1,
        entered name attributes state) := by
  unfold PreviewState.start
  rw [if_neg (by simp [hskip]), if_neg hblock]
  rfl

theorem finish_normal {state : PreviewState} (name : String) (hskip : state.skipDepth = none) :
    PreviewState.finish name state =
      (closed (ElementKind.of name) state.elementStack.head? state.inCodeBlock,
        { state with
          depth := state.depth - 1
          inCodeBlock := outsideCode (ElementKind.of name) state.inCodeBlock
          elementStack :=
            if pops (ElementKind.of name) then state.elementStack.tail
            else state.elementStack }) := by
  unfold PreviewState.finish
  simp only [hskip]
  rfl

theorem finish_entered {state : PreviewState} (name : String) (attributes : XmlAttributes)
    (inCodeBlock : Bool) (hskip : state.skipDepth = none) :
    PreviewState.finish name { entered name attributes state with inCodeBlock } =
      (closed (ElementKind.of name)
          (opened (ElementKind.of name) attributes state.inCodeBlock).2 inCodeBlock,
        { state with
          blockCount := (entered name attributes state).blockCount
          inCodeBlock := outsideCode (ElementKind.of name) inCodeBlock }) := by
  rw [@finish_normal { entered name attributes state with inCodeBlock } name hskip]
  simp only [entered, closed_head, pops_tail, Int.add_sub_cancel]

theorem convert_events {maxNodes : Nat} (forest : Forest) {state : PreviewState}
    (hskip : state.skipDepth = none) (hdepth : 0 ≤ state.depth)
    (hblocks : state.depth = 0 → state.blockCount + forest.blocks ≤ maxNodes) :
    convert maxNodes forest.events state =
      (forest.html state.inCodeBlock,
        { state with
          blockCount :=
            if state.depth = 0 then state.blockCount + forest.blocks else state.blockCount
          inCodeBlock := forest.codeAfter state.inCodeBlock }) := by
  induction forest generalizing state with
  | nil =>
      rw [events, convert_nil, html, codeAfter, blocks]
      simp
  | element name attributes children rest ihChildren ihRest =>
      have hblock : ¬ (state.depth = 0 ∧ isBlockElement name ∧ maxNodes ≤ state.blockCount) := by
        rintro ⟨hroot, hname, hmany⟩
        have hfew := hblocks hroot
        rw [blocks, if_pos hname] at hfew
        omega
      have hinner : state.depth + 1 ≠ 0 := by omega
      have hinside : convert maxNodes children.events (entered name attributes state) =
          (children.html (insideCode (ElementKind.of name) state.inCodeBlock),
            { entered name attributes state with
              inCodeBlock :=
                children.codeAfter (insideCode (ElementKind.of name) state.inCodeBlock) }) := by
        have hconvert := @ihChildren (entered name attributes state) hskip
          (Int.le_add_one hdepth) fun hroot => absurd hroot hinner
        rw [hconvert, if_neg (show (entered name attributes state).depth ≠ 0 from hinner)]
        rfl
      rw [events, convert_cons, step, start_normal attributes hskip hblock, convert_append]
      dsimp only
      rw [hinside, convert_cons, step]
      dsimp only
      rw [finish_entered name attributes _ hskip]
      dsimp only
      rw [@ihRest { state with
          blockCount := (entered name attributes state).blockCount
          inCodeBlock := outsideCode (ElementKind.of name)
            (children.codeAfter (insideCode (ElementKind.of name) state.inCodeBlock)) }
        hskip hdepth ?_]
      · dsimp only
        rw [html, codeAfter]
        refine congrArg (Prod.mk _) ?_
        by_cases hroot : state.depth = 0
        · by_cases hname : isBlockElement name
          · simp [entered, hroot, hname, blocks, Nat.add_assoc, Nat.add_comm]
          · simp [entered, hroot, hname, blocks]
        · simp [entered, hroot]
      · intro hroot
        have hfew := hblocks hroot
        rw [blocks] at hfew
        dsimp only [entered]
        split at hfew
        · next hname =>
            rw [if_pos ⟨hroot, hname⟩]
            omega
        · next hname =>
            rw [if_neg fun hboth => hname hboth.2]
            exact hfew
  | empty name attributes rest ih =>
      rw [events, convert_cons, step, ih hskip hdepth hblocks, html]
      simp [PreviewState.empty, hskip, codeAfter, blocks]
  | text content rest ih =>
      rw [events, convert_cons, step, ih hskip hdepth hblocks, html]
      simp [hskip, codeAfter, blocks]
  | ignored rest ih =>
      rw [events, convert_cons, step, ih hskip hdepth hblocks, html]
      simp [codeAfter, blocks]

end Forest

section Tags

theorem openTags_append (first second : List HtmlEvent) (tags : List String) :
    openTags tags (first ++ second) =
      (openTags tags first).bind fun tags => openTags tags second := by
  induction first generalizing tags with
  | nil => rfl
  | cons event rest ih =>
      cases event with
      | start name => simp only [List.cons_append, openTags, ih]
      | finish name =>
          cases tags with
          | nil => rfl
          | cons tag tags =>
              simp only [List.cons_append, openTags]
              split
              · exact ih tags
              · rfl
      | empty name attributes => simp only [List.cons_append, openTags, ih]
      | text content => simp only [List.cons_append, openTags, ih]

variable (forest : Forest)

theorem Forest.codeAfter_false : forest.codeAfter false = false := by
  induction forest with
  | nil => rfl
  | element name attributes children rest ihChildren ihRest =>
      rw [Forest.codeAfter]
      cases ElementKind.of name <;> simp [Forest.insideCode, Forest.outsideCode, ihChildren, ihRest]
  | empty name attributes rest ih => exact ih
  | text content rest ih => exact ih
  | ignored rest ih => exact ih

theorem openTags_element {kind : ElementKind} {attributes : XmlAttributes} {before after : Bool}
    (hslips : Forest.slips kind before after = false)
    (hafter : kind = .code → before = false → after = false) {inside : List HtmlEvent}
    (hinside : ∀ tags, openTags tags inside = some tags) (tags : List String) :
    openTags tags ((opened kind attributes before).1 ++ (inside ++
      closed kind (opened kind attributes before).2 after)) = some tags := by
  rw [openTags_append]
  cases kind with
  | plain tag => simp [opened, closed, openTags, openTags_append, hinside]
  | heading => simp [opened, closed, openTags, openTags_append, hinside]
  | codeBlock => simp [opened, closed, openTags, openTags_append, hinside]
  | code =>
      cases before with
      | true =>
          have hstill : after = true := by simpa [Forest.slips] using hslips
          simp [opened, closed, openTags, hinside, hstill]
      | false =>
          simp [opened, closed, openTags, openTags_append, hinside, hafter rfl rfl]
  | image => simp [opened, closed, openTags, hinside]
  | hardBreak => simp [opened, closed, openTags, hinside]
  | unknown => simp [opened, closed, openTags, hinside]

theorem openTags_emptyElement (name : String) (attributes : XmlAttributes)
    (tags : List String) :
    openTags tags (PreviewState.empty name attributes {}) = some tags := by
  unfold PreviewState.empty
  split
  · rfl
  · split <;> rfl

theorem Forest.openTags_html {forest : Forest} {inCodeBlock : Bool}
    (hslips : forest.codeSlips inCodeBlock = 0) (tags : List String) :
    openTags tags (forest.html inCodeBlock) = some tags := by
  induction forest generalizing inCodeBlock tags with
  | nil => rfl
  | element name attributes children rest ihChildren ihRest =>
      rw [codeSlips, Nat.add_eq_zero_iff, Nat.add_eq_zero_iff, Bool.toNat_eq_zero] at hslips
      obtain ⟨hchildren, hself, hrest⟩ := hslips
      have hafter (hkind : ElementKind.of name = .code) (hbefore : inCodeBlock = false) :
          codeAfter (insideCode (ElementKind.of name) inCodeBlock) children = false := by
        rw [hkind, hbefore]
        exact codeAfter_false children
      have helement := @openTags_element _ attributes _ _ hself hafter _
        (fun tags => ihChildren hchildren tags) tags
      rw [html, ← List.append_assoc _ (closed _ _ _), ← List.append_assoc, openTags_append,
        helement]
      exact ihRest hrest tags
  | empty name attributes rest ih =>
      rw [html, openTags_append, openTags_emptyElement]
      exact ih hslips tags
  | text content rest ih => exact ih hslips tags
  | ignored rest ih => exact ih hslips tags

theorem count_openTags {written : List HtmlEvent} {tags tags' : List String}
    (hopen : openTags tags written = some tags') :
    written.count (.start "code") + tags.count "code" =
      written.count (.finish "code") + tags'.count "code" := by
  induction written generalizing tags with
  | nil =>
      cases hopen
      rfl
  | cons event rest ih =>
      cases event with
      | start name =>
          have hrest := ih hopen
          by_cases hname : name = "code"
          · subst hname
            simp at hrest ⊢
            omega
          · simp [hname] at hrest ⊢
            omega
      | finish name =>
          cases tags with
          | nil => cases hopen
          | cons tag tags =>
              simp only [openTags] at hopen
              split at hopen
              · next hname =>
                  subst hname
                  have hrest := ih hopen
                  by_cases hname : name = "code"
                  · subst hname
                    simp at hrest ⊢
                    omega
                  · simp [hname] at hrest ⊢
                    omega
              · cases hopen
      | empty name attributes =>
          have hrest := ih hopen
          simpa using hrest
      | text content =>
          have hrest := ih hopen
          simpa using hrest

theorem count_element (kind : ElementKind) (attributes : XmlAttributes) (before after : Bool)
    (hafter : kind = .code → before = false → after = false) :
    (opened kind attributes before).1.count (.finish "code") +
        (closed kind (opened kind attributes before).2 after).count (.finish "code") =
      (opened kind attributes before).1.count (.start "code") +
        (closed kind (opened kind attributes before).2 after).count (.start "code") +
          (Forest.slips kind before after).toNat := by
  cases kind with
  | plain tag => by_cases htag : tag = "code" <;> simp [opened, closed, Forest.slips, htag]
  | heading =>
      by_cases htag : "h" ++ headingLevel attributes = "code" <;>
        simp [opened, closed, Forest.slips, htag]
  | codeBlock => simp [opened, closed, Forest.slips]
  | code =>
      cases before with
      | true => cases after <;> simp [opened, closed, Forest.slips]
      | false => simp [opened, closed, Forest.slips, hafter rfl rfl]
  | image => simp [opened, closed, Forest.slips]
  | hardBreak => simp [opened, closed, Forest.slips]
  | unknown => simp [opened, closed, Forest.slips]

theorem Forest.count_html (inCodeBlock : Bool) :
    (forest.html inCodeBlock).count (.finish "code") =
      (forest.html inCodeBlock).count (.start "code") + forest.codeSlips inCodeBlock := by
  induction forest generalizing inCodeBlock with
  | nil => rfl
  | element name attributes children rest ihChildren ihRest =>
      have hafter (hkind : ElementKind.of name = .code) (hbefore : inCodeBlock = false) :
          codeAfter (insideCode (ElementKind.of name) inCodeBlock) children = false := by
        rw [hkind, hbefore]
        exact codeAfter_false children
      have helement := count_element (ElementKind.of name) attributes inCodeBlock _ hafter
      simp only [html, codeSlips, List.count_append, ihChildren, ihRest]
      omega
  | empty name attributes rest ih =>
      have hempty : ∀ event : HtmlEvent, event = .start "code" ∨ event = .finish "code" →
          (PreviewState.empty name attributes {}).count event = 0 := by
        rintro event hevent
        rw [List.count_eq_zero]
        unfold PreviewState.empty
        split
        · simp
        · split <;> rcases hevent with rfl | rfl <;> simp
      simp only [html, List.count_append, hempty _ (.inl rfl), hempty _ (.inr rfl), ih, codeSlips]
      omega
  | text content rest ih =>
      have hrest := ih inCodeBlock
      simpa [html, codeSlips] using hrest
  | ignored rest ih => exact ih inCodeBlock

theorem Forest.balanced_html_iff : Balanced (forest.html false) ↔ forest.codeSlips false = 0 := by
  constructor
  · intro hbalanced
    have hcount := count_openTags hbalanced
    have hslips := forest.count_html false
    omega
  · exact fun hslips => Forest.openTags_html hslips []

end Tags

section Skipping

variable {maxNodes : Nat}

def SkipState.toPreview (maxNodes : Nat) (state : SkipState) : PreviewState :=
  { blockCount := maxNodes, depth := state.depth
    skipDepth := if state.skipping then some 0 else none }

def GoesTo (maxNodes : Nat) (next : Option SkipState)
    (outcome : List HtmlEvent × PreviewState) : Prop :=
  match next with
  | some next => outcome = ([], next.toPreview maxNodes)
  | none => outcome.1 ≠ []

theorem start_goesTo (name : String) (attributes : XmlAttributes) (state : SkipState) :
    GoesTo maxNodes (state.enter name)
      (PreviewState.start maxNodes name attributes (state.toPreview maxNodes)) := by
  obtain ⟨skipping, depth⟩ := state
  cases skipping with
  | true => simp [SkipState.enter, PreviewState.start, SkipState.toPreview, GoesTo]
  | false =>
      by_cases hblock : depth = 0 ∧ isBlockElement name
      · obtain ⟨rfl, hname⟩ := hblock
        simp [SkipState.enter, PreviewState.start, SkipState.toPreview, GoesTo, hname]
      · simp only [SkipState.enter, Bool.false_eq_true, if_false, hblock,
          PreviewState.start, SkipState.toPreview]
        cases ElementKind.of name with
        | unknown => simp [hblock, opened, GoesTo, SkipState.toPreview]
        | code => simp [hblock, opened, GoesTo]
        | plain tag => simp [hblock, opened, GoesTo]
        | heading => simp [hblock, opened, GoesTo]
        | codeBlock => simp [hblock, opened, GoesTo]
        | image => simp [hblock, opened, GoesTo]
        | hardBreak => simp [hblock, opened, GoesTo]

theorem finish_goesTo (name : String) (state : SkipState) :
    GoesTo maxNodes (state.leave name)
      (PreviewState.finish name (state.toPreview maxNodes)) := by
  obtain ⟨skipping, depth⟩ := state
  cases skipping with
  | true =>
      by_cases hroot : depth = 1
      · subst hroot
        simp [SkipState.leave, PreviewState.finish, SkipState.toPreview, GoesTo]
      · have hstill : depth - 1 ≠ 0 := by omega
        simp [SkipState.leave, PreviewState.finish, SkipState.toPreview, GoesTo, hroot, hstill]
  | false =>
      simp only [SkipState.leave, Bool.false_eq_true, if_false, PreviewState.finish,
        SkipState.toPreview]
      cases ElementKind.of name with
      | plain tag => simp [closed, GoesTo]
      | heading => simp [closed, GoesTo, SkipState.toPreview, pops]
      | codeBlock => simp [closed, GoesTo]
      | code => simp [closed, GoesTo]
      | image => simp [closed, GoesTo, SkipState.toPreview, pops]
      | hardBreak => simp [closed, GoesTo, SkipState.toPreview, pops]
      | unknown => simp [closed, GoesTo, SkipState.toPreview, pops]

theorem GoesTo.then {first : Option SkipState} {outcome : List HtmlEvent × PreviewState}
    (hfirst : GoesTo maxNodes first outcome) {continuation : SkipState → Option SkipState}
    {events : List XmlEvent} (hrest : ∀ next, first = some next →
      GoesTo maxNodes (continuation next)
        (convert maxNodes events (next.toPreview maxNodes))) :
    GoesTo maxNodes (first.bind continuation)
      (outcome.1 ++ (convert maxNodes events outcome.2).1,
        (convert maxNodes events outcome.2).2) := by
  cases first with
  | none => exact fun hnone => hfirst (List.append_eq_nil_iff.mp hnone).1
  | some next =>
      obtain rfl : outcome = ([], next.toPreview maxNodes) := hfirst
      exact hrest next rfl

theorem convert_goesTo (forest : Forest) (state : SkipState) :
    GoesTo maxNodes (state.afterSilently forest)
      (convert maxNodes forest.events (state.toPreview maxNodes)) := by
  induction forest generalizing state with
  | nil => rfl
  | element name attributes children rest ihChildren ihRest =>
      rw [Forest.events, convert_cons]
      refine (start_goesTo name attributes state).then fun inside _ => ?_
      rw [convert_append]
      refine (ihChildren inside).then fun last _ => ?_
      rw [convert_cons]
      exact (finish_goesTo name last).then fun next _ => ihRest next
  | empty name attributes rest ih =>
      rw [Forest.events, convert_cons, step, PreviewState.empty]
      have hrest := ih state
      obtain ⟨skipping, depth⟩ := state
      cases skipping with
      | true => simpa [SkipState.afterSilently, SkipState.toPreview] using hrest
      | false =>
          cases hkind : ElementKind.of name with
          | hardBreak => simp [SkipState.afterSilently, SkipState.toPreview, hkind, GoesTo]
          | image => simp [SkipState.afterSilently, SkipState.toPreview, hkind, GoesTo]
          | _ => simpa [SkipState.afterSilently, SkipState.toPreview, hkind] using hrest
  | text content rest ih =>
      rw [Forest.events, convert_cons, step]
      have hrest := ih state
      obtain ⟨skipping, depth⟩ := state
      cases skipping with
      | true => simpa [SkipState.afterSilently, SkipState.toPreview] using hrest
      | false => simp [SkipState.afterSilently, SkipState.toPreview, GoesTo]
  | ignored rest ih =>
      rw [Forest.events, convert_cons, step]
      simpa [SkipState.afterSilently] using ih state

end Skipping

namespace Forest

theorem blocks_cut_le (maxNodes : Nat) (note : Forest) : (note.cut maxNodes).blocks ≤ maxNodes := by
  induction note generalizing maxNodes with
  | nil => exact Nat.zero_le _
  | element name attributes children rest ihChildren ihRest =>
      unfold cut
      split
      · next hname =>
          cases maxNodes with
          | zero => exact Nat.zero_le _
          | succ maxNodes =>
              dsimp only
              rw [blocks, if_pos hname]
              exact Nat.succ_le_succ (ihRest maxNodes)
      · next hname =>
          rw [blocks, if_neg hname]
          exact ihRest maxNodes
  | empty name attributes rest ih => exact ih maxNodes
  | text content rest ih => exact ih maxNodes
  | ignored rest ih => exact ih maxNodes

theorem events_cut (maxNodes : Nat) (note : Forest) :
    note.events = (note.cut maxNodes).events ++ (note.cutOff maxNodes).events := by
  induction note generalizing maxNodes with
  | nil => rfl
  | element name attributes children rest ihChildren ihRest =>
      unfold cut cutOff
      split
      · cases maxNodes with
        | zero => rfl
        | succ maxNodes =>
            dsimp only
            rw [events, events, ihRest maxNodes]
            simp
      · rw [events, events, ihRest maxNodes]
        simp
  | empty name attributes rest ih => rw [cut, cutOff, events, events, ih maxNodes, List.cons_append]
  | text content rest ih => rw [cut, cutOff, events, events, ih maxNodes, List.cons_append]
  | ignored rest ih => rw [cut, cutOff, events, events, ih maxNodes, List.cons_append]

theorem blocks_cut_eq {maxNodes : Nat} {note : Forest} (hoff : note.cutOff maxNodes ≠ nil) :
    (note.cut maxNodes).blocks = maxNodes := by
  induction note generalizing maxNodes with
  | nil => exact absurd rfl hoff
  | element name attributes children rest ihChildren ihRest =>
      unfold cutOff at hoff
      unfold cut
      split at hoff
      · next hname =>
          rw [if_pos hname]
          cases maxNodes with
          | zero => rfl
          | succ maxNodes =>
              dsimp only at hoff ⊢
              rw [blocks, if_pos hname, ihRest hoff]
      · next hname =>
          rw [if_neg hname, blocks, if_neg hname]
          exact ihRest hoff
  | empty name attributes rest ih => exact ih hoff
  | text content rest ih => exact ih hoff
  | ignored rest ih => exact ih hoff

end Forest

theorem convert_cut (maxNodes : Nat) (note : Forest) :
    convert maxNodes (note.cut maxNodes).events {} =
      ((note.cut maxNodes).html false,
        { blockCount := (note.cut maxNodes).blocks }) := by
  have hconvert := @Forest.convert_events maxNodes (note.cut maxNodes) {} rfl (Int.le_refl 0)
    fun _ => by simpa using note.blocks_cut_le maxNodes
  rw [hconvert]
  simp [Forest.codeAfter_false]

theorem written_cutOff_iff (maxNodes : Nat) (note : Forest) :
    (convert maxNodes (note.cutOff maxNodes).events
        { blockCount := (note.cut maxNodes).blocks }).1 = [] ↔
      (SkipState.afterSilently { skipping := false, depth := 0 }
        (note.cutOff maxNodes)).isSome := by
  by_cases hoff : note.cutOff maxNodes = .nil
  · rw [hoff]
    exact iff_of_true rfl rfl
  · rw [Forest.blocks_cut_eq hoff]
    have hgoes := @convert_goesTo maxNodes (note.cutOff maxNodes)
      { skipping := false, depth := 0 }
    change GoesTo maxNodes _ (convert maxNodes _ { blockCount := maxNodes }) at hgoes
    cases hlast : SkipState.afterSilently { skipping := false, depth := 0 }
        (note.cutOff maxNodes) with
    | none =>
        rw [hlast] at hgoes
        exact iff_of_false hgoes (by simp)
    | some last =>
        rw [hlast] at hgoes
        exact iff_of_true (congrArg Prod.fst hgoes) rfl

def boldParagraph : Forest :=
  .element "paragraph" [] (.text "first" .nil)
    (.element "paragraph" [] (.element "strong" [] (.text "second" .nil) (.text "third" .nil))
      .nil)

end Osvauld.Livnote
