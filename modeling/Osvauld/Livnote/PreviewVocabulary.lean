import Osvauld.Livnote.PreviewGenerator

namespace Osvauld.Livnote

open Data

/-! The tags of a preview: their names, their attributes, and that nothing else in the
HTML reads as a tag. -/

def vocabulary : List String :=
  ["p", "h1", "h2", "h3", "h4", "h5", "h6", "blockquote", "pre", "code", "ul", "ol", "li",
    "table", "tr", "th", "td", "img", "br", "strong", "em"]

def headingLevels : List String := ["1", "2", "3", "4", "5", "6"]

def HtmlEvent.InVocabulary : HtmlEvent → Prop
  | start name => name ∈ vocabulary
  | finish name => name ∈ vocabulary
  | empty name attributes =>
      name ∈ vocabulary ∧ (attributes ≠ [] → name = "img") ∧
        ∀ attr ∈ attributes, attr.1 ∈ ["src", "alt", "title", "width", "height"] ∧
          '"' ∉ escape attr.2
  | text _ => True

/-- What a reader of the HTML finds between `<` and `>`; within a tag it has read the
given part so far. -/
def readTags : Option (List Char) → List Char → List (List Char)
  | _, [] => []
  | none, c :: rest => if c = '<' then readTags (some []) rest else readTags none rest
  | some read, c :: rest =>
      if c = '>' then read :: readTags none rest else readTags (some (read ++ [c])) rest

structure Confined (written : List HtmlEvent) : Prop where
  vocabulary : ∀ event ∈ written, event.InVocabulary
  tags : readTags none (render written).toList = written.filterMap HtmlEvent.tag?

/-- A heading that is converted has one of the six levels, and the end of a heading
does not close a code block. -/
def Harmless (maxNodes : Nat) (state : PreviewState) : XmlEvent → Prop
  | .start name attributes =>
      state.skipDepth = none →
        ¬ (state.depth = 0 ∧ isBlockElement name ∧ maxNodes ≤ state.blockCount) →
          ElementKind.of name = .heading → headingLevel attributes ∈ headingLevels
  | .finish name =>
      state.skipDepth = none → ElementKind.of name = .heading →
        state.elementStack.head? ≠ some "code_block"
  | .empty _ _ => True
  | .text _ => True
  | .ignored => True

section Reading

theorem readTags_text {text rest : List Char} (htext : '<' ∉ text) :
    readTags none (text ++ rest) = readTags none rest := by
  induction text with
  | nil => rfl
  | cons c text ih =>
      rw [List.mem_cons, not_or] at htext
      rw [List.cons_append, readTags, if_neg (Ne.symm htext.1), ih htext.2]

theorem readTags_tag {read tag rest : List Char} (htag : '>' ∉ tag) :
    readTags (some read) (tag ++ '>' :: rest) = (read ++ tag) :: readTags none rest := by
  induction tag generalizing read with
  | nil => simp [readTags]
  | cons c tag ih =>
      rw [List.mem_cons, not_or] at htag
      rw [List.cons_append, readTags, if_neg (Ne.symm htag.1), ih htag.2]
      simp

theorem notMem_escapeChar {c : Char} (hc : c ∈ ['<', '>', '"']) (other : Char) :
    c ∉ escapeChar other := by
  have hletters : ∀ letters ∈ ["&lt;", "&gt;", "&amp;", "&quot;", "&apos;"],
      ∀ c ∈ ['<', '>', '"'], c ∉ letters.toList := by simp
  unfold escapeChar
  split
  · exact hletters _ (by simp) c hc
  · exact hletters _ (by simp) c hc
  · exact hletters _ (by simp) c hc
  · exact hletters _ (by simp) c hc
  · next hlt hgt _ hquote =>
      split
      · exact hletters _ (by simp) c hc
      · intro hmem
        obtain rfl := List.mem_singleton.mp hmem
        simp only [List.mem_cons, List.not_mem_nil, or_false] at hc
        exact hc.elim hlt fun hc => hc.elim hgt hquote

theorem notMem_escape {c : Char} (hc : c ∈ ['<', '>', '"']) (text : String) :
    c ∉ escape text := by
  unfold escape
  rw [List.mem_flatMap]
  rintro ⟨other, -, hmem⟩
  exact notMem_escapeChar hc other hmem

theorem readTags_render {written : List HtmlEvent}
    (hnames : ∀ event ∈ written, ∀ tag, event.tag? = some tag → '>' ∉ tag) :
    readTags none (written.flatMap HtmlEvent.render) = written.filterMap HtmlEvent.tag? := by
  induction written with
  | nil => rfl
  | cons event rest ih =>
      have hrest := ih fun other hother => hnames other (List.mem_cons_of_mem _ hother)
      rw [List.flatMap_cons, List.filterMap_cons]
      cases htag : event.tag? with
      | none =>
          cases event with
          | text content =>
              rw [HtmlEvent.render, readTags_text (notMem_escape (by simp) content), hrest]
          | start name => cases htag
          | finish name => cases htag
          | empty name attributes => cases htag
      | some tag =>
          have hrender : event.render = '<' :: tag ++ ['>'] := by
            cases event with
            | text content => cases htag
            | start name => simp only [HtmlEvent.render, htag]
            | finish name => simp only [HtmlEvent.render, htag]
            | empty name attributes => simp only [HtmlEvent.render, htag]
          have hread : readTags none (event.render ++ rest.flatMap HtmlEvent.render) =
              readTags (some []) (tag ++ '>' :: rest.flatMap HtmlEvent.render) := by
            rw [hrender]
            simp [readTags]
          rw [hread, readTags_tag (hnames event List.mem_cons_self tag htag), hrest]
          rfl

theorem notMem_renderAttribute {attr : String × String} (hname : '>' ∉ attr.1.toList) :
    '>' ∉ renderAttribute attr := by
  have hvalue := notMem_escape (c := '>') (by simp) attr.2
  simp [renderAttribute, hname, hvalue]

theorem HtmlEvent.InVocabulary.notMem_tag {event : HtmlEvent} {tag : List Char}
    (hevent : event.InVocabulary) (htag : event.tag? = some tag) : '>' ∉ tag := by
  have hnames : ∀ name ∈ Livnote.vocabulary ++ ["src", "alt", "title", "width", "height"],
      '>' ∉ name.toList := by decide
  cases event with
  | text content => cases htag
  | start name =>
      cases htag
      exact hnames name (List.mem_append_left _ hevent)
  | finish name =>
      cases htag
      rw [List.mem_cons, not_or]
      exact ⟨by decide, hnames name (List.mem_append_left _ hevent)⟩
  | empty name attributes =>
      cases htag
      obtain ⟨hname, -, hattributes⟩ := hevent
      simp only [List.mem_append, List.mem_flatMap, not_or]
      refine ⟨⟨hnames name (List.mem_append_left _ hname), ?_⟩, by simp⟩
      rintro ⟨attr, hattr, hmem⟩
      exact notMem_renderAttribute
        (hnames attr.1 (List.mem_append_right _ (hattributes attr hattr).1)) hmem

theorem confined_iff_vocabulary {written : List HtmlEvent} :
    Confined written ↔ ∀ event ∈ written, event.InVocabulary := by
  refine ⟨fun hconfined => hconfined.vocabulary, fun hvocabulary => ⟨hvocabulary, ?_⟩⟩
  rw [render, String.toList_ofList]
  exact readTags_render fun event hevent tag htag =>
    (hvocabulary event hevent).notMem_tag htag

end Reading

section Conversion

open PreviewState

variable {maxNodes : Nat}

theorem heading_inVocabulary_iff (level : String) :
    "h" ++ level ∈ vocabulary ↔ level ∈ headingLevels := by
  have hsame (other : String) : "h" ++ level = other ↔ 'h' :: level.toList = other.toList := by
    rw [← String.toList_inj, String.toList_append]
    rfl
  have hlevel (other : String) : level = other ↔ level.toList = other.toList :=
    String.toList_inj.symm
  simp only [vocabulary, headingLevels, List.mem_cons, List.not_mem_nil, hsame, hlevel]
  simp

theorem imageAttributes_inVocabulary (attributes : XmlAttributes) :
    (HtmlEvent.empty "img" (imageAttributes attributes)).InVocabulary := by
  refine ⟨by decide, fun _ => rfl, fun attr hattr => ?_⟩
  refine ⟨?_, notMem_escape (by simp) attr.2⟩
  obtain ⟨given, -, hcopied⟩ := List.mem_filterMap.mp hattr
  cases given with
  | error message => cases hcopied
  | ok given =>
      dsimp only at hcopied
      split at hcopied
      · next hkey =>
          cases hcopied
          exact hkey
      · cases hcopied

variable {name : String}

theorem plain_inVocabulary {tag : String} (hkind : ElementKind.of name = .plain tag) :
    tag ∈ vocabulary := by
  unfold ElementKind.of at hkind
  split at hkind <;> cases hkind <;> decide

def StackFine (elementStack : List String) : Prop :=
  ∀ tag ∈ elementStack, tag ∈ vocabulary ∨ tag = "code_block"

theorem opened_inVocabulary_iff (attributes : XmlAttributes) (inCodeBlock : Bool) :
    (∀ event ∈ (opened (ElementKind.of name) attributes inCodeBlock).1, event.InVocabulary) ↔
      (ElementKind.of name = .heading → headingLevel attributes ∈ headingLevels) := by
  cases hkind : ElementKind.of name with
  | plain tag => simp [opened, HtmlEvent.InVocabulary, plain_inVocabulary hkind]
  | heading => simp [opened, HtmlEvent.InVocabulary, heading_inVocabulary_iff]
  | codeBlock => simp [opened, HtmlEvent.InVocabulary, vocabulary]
  | code => cases inCodeBlock <;> simp [opened, HtmlEvent.InVocabulary, vocabulary]
  | image => simp [opened, imageAttributes_inVocabulary]
  | hardBreak => simp [opened, HtmlEvent.InVocabulary, vocabulary]
  | unknown => simp [opened]

theorem opened_stackFine {attributes : XmlAttributes} {inCodeBlock : Bool}
    (hlevel : ElementKind.of name = .heading → headingLevel attributes ∈ headingLevels) :
    StackFine (opened (ElementKind.of name) attributes inCodeBlock).2.toList := by
  intro tag htag
  cases hkind : ElementKind.of name with
  | plain plainTag =>
      rw [hkind] at htag
      obtain rfl : tag = plainTag := by simpa [opened] using htag
      exact .inl (plain_inVocabulary hkind)
  | heading =>
      rw [hkind] at htag
      obtain rfl : tag = "h" ++ headingLevel attributes := by simpa [opened] using htag
      exact .inl ((heading_inVocabulary_iff _).mpr (hlevel hkind))
  | codeBlock =>
      rw [hkind] at htag
      exact .inr (by simpa [opened] using htag)
  | code =>
      rw [hkind] at htag
      obtain rfl : tag = "code" := by simpa [opened] using htag
      exact .inl (by decide)
  | image => simp [hkind, opened] at htag
  | hardBreak => simp [hkind, opened] at htag
  | unknown => simp [hkind, opened] at htag

theorem closed_inVocabulary_iff {elementStack : List String} (hstack : StackFine elementStack)
    (inCodeBlock : Bool) :
    (∀ event ∈ closed (ElementKind.of name) elementStack.head? inCodeBlock,
        event.InVocabulary) ↔
      (ElementKind.of name = .heading → elementStack.head? ≠ some "code_block") := by
  cases hkind : ElementKind.of name with
  | plain tag => simp [closed, HtmlEvent.InVocabulary, plain_inVocabulary hkind]
  | heading =>
      cases elementStack with
      | nil => simp [closed]
      | cons tag rest =>
          simp only [closed, List.head?_cons, Option.map_some, Option.toList_some,
            List.mem_singleton, forall_eq, HtmlEvent.InVocabulary, true_implies, ne_eq,
            Option.some.injEq]
          refine ⟨?_, (hstack tag List.mem_cons_self).resolve_right⟩
          rintro htag rfl
          revert htag
          decide
  | codeBlock => simp [closed, HtmlEvent.InVocabulary, vocabulary]
  | code => cases inCodeBlock <;> simp [closed, HtmlEvent.InVocabulary, vocabulary]
  | image => simp [closed]
  | hardBreak => simp [closed]
  | unknown => simp [closed]

theorem step_inVocabulary_iff {state : PreviewState} (hstack : StackFine state.elementStack)
    (event : XmlEvent) :
    (∀ written ∈ (step maxNodes state event).1, written.InVocabulary) ↔
      Harmless maxNodes state event := by
  cases event with
  | start name attributes =>
      simp only [step, start, Harmless, ← Option.not_isSome_iff_eq_none]
      split
      · next hskip => simp [hskip]
      · next hskip =>
          split
          · next hblock => simp [hblock]
          · next hblock =>
              rw [opened_inVocabulary_iff]
              simp [hskip, hblock]
  | finish name =>
      simp only [step, finish, Harmless]
      cases hskip : state.skipDepth with
      | some skipDepth => simp
      | none =>
          dsimp only
          rw [closed_inVocabulary_iff hstack]
          simp
  | empty name attributes =>
      simp only [step, empty, Harmless, iff_true]
      split
      · simp
      · split
        · simp [HtmlEvent.InVocabulary, vocabulary]
        · simp [imageAttributes_inVocabulary]
        · simp
  | text content =>
      simp only [step, Harmless, iff_true]
      split <;> simp [HtmlEvent.InVocabulary]
  | ignored => simp [step, Harmless]

theorem step_stackFine {state : PreviewState} (hstack : StackFine state.elementStack)
    {event : XmlEvent} (hharmless : Harmless maxNodes state event) :
    StackFine (step maxNodes state event).2.elementStack := by
  cases event with
  | start name attributes =>
      simp only [Harmless, ← Option.not_isSome_iff_eq_none] at hharmless
      simp only [step, start]
      split
      · exact hstack
      · next hskip =>
          split
          · exact hstack
          · next hblock =>
              intro tag htag
              rcases List.mem_append.mp htag with hpushed | hold
              · exact opened_stackFine (hharmless hskip hblock) tag hpushed
              · exact hstack tag hold
  | finish name =>
      simp only [step, finish]
      split
      · exact hstack
      · dsimp only
        split
        · exact fun tag htag => hstack tag (List.mem_of_mem_tail htag)
        · exact hstack
  | empty name attributes => exact hstack
  | text content => exact hstack
  | ignored => exact hstack

theorem convert_inVocabulary (events : List XmlEvent) :
    ((∀ written ∈ (convert maxNodes events {}).1, written.InVocabulary) ↔
      ∀ earlier event, earlier ++ [event] <+: events →
        Harmless maxNodes (convert maxNodes earlier {}).2 event) ∧
      ((∀ earlier event, earlier ++ [event] <+: events →
          Harmless maxNodes (convert maxNodes earlier {}).2 event) →
        StackFine (convert maxNodes events {}).2.elementStack) := by
  induction events using List.reverseRecOn with
  | nil => simp [StackFine]
  | append_singleton events event ih =>
      obtain ⟨hiff, hfine⟩ := ih
      have hsplit : (∀ earlier other, earlier ++ [other] <+: events ++ [event] →
          Harmless maxNodes (convert maxNodes earlier {}).2 other) ↔
          (∀ earlier other, earlier ++ [other] <+: events →
            Harmless maxNodes (convert maxNodes earlier {}).2 other) ∧
            Harmless maxNodes (convert maxNodes events {}).2 event := by
        constructor
        · exact fun hall => ⟨fun earlier other hearlier =>
            hall earlier other (hearlier.trans (List.prefix_append _ _)),
            hall events event List.prefix_rfl⟩
        · rintro ⟨hall, hlast⟩ earlier other hearlier
          rcases List.prefix_concat_iff.mp hearlier with heq | hbefore
          · obtain ⟨rfl, hother⟩ := List.append_inj' heq rfl
            cases hother
            exact hlast
          · exact hall earlier other hbefore
      rw [hsplit, convert_concat]
      refine ⟨?_, fun hall => step_stackFine (hfine hall.1) hall.2⟩
      simp only [List.forall_mem_append]
      constructor
      · rintro ⟨hbefore, hlast⟩
        have hall := hiff.mp hbefore
        exact ⟨hall, (step_inVocabulary_iff (hfine hall) event).mp hlast⟩
      · rintro ⟨hall, hlast⟩
        exact ⟨hiff.mpr hall, (step_inVocabulary_iff (hfine hall) event).mpr hlast⟩

end Conversion

/-- A preview keeps to its vocabulary exactly when every heading that is converted has
one of the six levels, and no end of a heading closes a code block. -/
theorem preview_confined_iff (events : List XmlEvent) (maxNodes : Nat) :
    convertProsemirrorToHtml (events.map .ok) maxNodes =
        .ok (render (PreviewState.convert maxNodes events {}).1) ∧
      (Confined (PreviewState.convert maxNodes events {}).1 ↔
        ∀ earlier event, earlier ++ [event] <+: events →
          Harmless maxNodes (PreviewState.convert maxNodes earlier {}).2 event) := by
  exact ⟨convertProsemirrorToHtml_ok events maxNodes,
    confined_iff_vocabulary.trans (convert_inVocabulary events).1⟩

def scriptHeading : List XmlEvent :=
  [.start "heading" [.ok ("level", "1><script")], .text "alert(1)", .finish "heading"]

/-- The level brings an element of its own into the preview. -/
theorem heading_level_opens_tag :
    "script".toList ∈
        readTags none (render (PreviewState.convert 10 scriptHeading {}).1).toList ∧
      ¬ Confined (PreviewState.convert 10 scriptHeading {}).1 := by
  refine ⟨by decide +kernel, fun hconfined => ?_⟩
  have hname : "h1><script" ∈ vocabulary :=
    hconfined.vocabulary (.start "h1><script") (by decide +kernel)
  exact absurd hname (by decide)

end Osvauld.Livnote
