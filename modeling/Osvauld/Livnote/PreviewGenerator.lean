import Osvauld.Data.Run

namespace Osvauld.Livnote

open Data

/-! The conversion of a note to the HTML of its preview: a loop over what the reader of
`quick_xml` gives for the note, with what its writer is given in turn. -/

abbrev XmlAttributes := List (Except String (String × String))

inductive XmlEvent where
  | start (name : String) (attributes : XmlAttributes)
  | finish (name : String)
  | empty (name : String) (attributes : XmlAttributes)
  | text (content : String)
  | ignored

inductive HtmlEvent where
  | start (name : String)
  | finish (name : String)
  | empty (name : String) (attributes : List (String × String))
  | text (content : String)
deriving DecidableEq, Repr

def escapeChar : Char → List Char
  | '<' => "&lt;".toList
  | '>' => "&gt;".toList
  | '&' => "&amp;".toList
  | '"' => "&quot;".toList
  | c => if c.toNat = 39 then "&apos;".toList else [c]

def escape (text : String) : List Char := text.toList.flatMap escapeChar

def renderAttribute (attr : String × String) : List Char :=
  ' ' :: attr.1.toList ++ ['=', '"'] ++ escape attr.2 ++ ['"']

def HtmlEvent.tag? : HtmlEvent → Option (List Char)
  | start name => some name.toList
  | finish name => some ('/' :: name.toList)
  | empty name attributes =>
      some (name.toList ++ attributes.flatMap renderAttribute ++ ['/'])
  | text _ => none

def HtmlEvent.render (event : HtmlEvent) : List Char :=
  match event with
  | text content => escape content
  | event =>
      match event.tag? with
      | some tag => '<' :: tag ++ ['>']
      | none => []

def render (events : List HtmlEvent) : String :=
  String.ofList (events.flatMap HtmlEvent.render)

inductive ElementKind where
  | plain (tag : String)
  | heading
  | codeBlock
  | code
  | image
  | hardBreak
  | unknown

def ElementKind.of (name : String) : ElementKind :=
  match name with
  | "paragraph" => plain "p"
  | "heading" => heading
  | "blockquote" => plain "blockquote"
  | "code_block" => codeBlock
  | "code" => code
  | "bullet_list" => plain "ul"
  | "ordered_list" => plain "ol"
  | "list_item" => plain "li"
  | "table" => plain "table"
  | "table_row" => plain "tr"
  | "table_header" => plain "th"
  | "table_cell" => plain "td"
  | "image" => image
  | "hard_break" => hardBreak
  | "strong" => plain "strong"
  | "bold" => plain "strong"
  | "em" => plain "em"
  | "italic" => plain "em"
  | _ => unknown

def isBlockElement (name : String) : Bool :=
  name ∈ ["paragraph", "heading", "blockquote", "code_block", "bullet_list",
    "ordered_list", "table", "image", "hard_break"]

def getAttribute (attributes : XmlAttributes) (name : String) : Option String :=
  attributes.findSome? fun attr =>
    match attr with
    | .ok (key, value) => if key = name then some value else none
    | .error _ => none

def headingLevel (attributes : XmlAttributes) : String :=
  (getAttribute attributes "level").getD "1"

def imageAttributes (attributes : XmlAttributes) : List (String × String) :=
  attributes.filterMap fun attr =>
    match attr with
    | .ok (key, value) =>
        if key ∈ ["src", "alt", "title", "width", "height"] then some (key, value) else none
    | .error _ => none

structure PreviewState where
  blockCount : Nat := 0
  depth : Int := 0
  skipDepth : Option Int := none
  inCodeBlock : Bool := false
  elementStack : List String := []

namespace PreviewState

def opened (kind : ElementKind) (attributes : XmlAttributes) (inCodeBlock : Bool) :
    List HtmlEvent × Option String :=
  match kind with
  | .plain tag => ([.start tag], some tag)
  | .heading =>
      let tagName := "h" ++ headingLevel attributes
      ([.start tagName], some tagName)
  | .codeBlock => ([.start "pre", .start "code"], some "code_block")
  | .code => (if inCodeBlock then [] else [.start "code"], some "code")
  | .image => ([.empty "img" (imageAttributes attributes)], none)
  | .hardBreak => ([.empty "br" []], none)
  | .unknown => ([], none)

/-- The block count goes up at the root only, and from `maxNodes` on a block is
skipped: its depth is noted, but not counted up. -/
def start (maxNodes : Nat) (name : String) (attributes : XmlAttributes)
    (state : PreviewState) : List HtmlEvent × PreviewState :=
  if state.skipDepth.isSome then ([], { state with depth := state.depth + 1 })
  else if state.depth = 0 ∧ isBlockElement name ∧ maxNodes ≤ state.blockCount then
    ([], { state with skipDepth := some state.depth })
  else
    let kind := ElementKind.of name
    let (written, pushed) := opened kind attributes state.inCodeBlock
    (written,
      { state with
        blockCount :=
          if state.depth = 0 ∧ isBlockElement name then state.blockCount + 1
          else state.blockCount
        depth := state.depth + 1
        inCodeBlock := match kind with
          | .codeBlock => true
          | _ => state.inCodeBlock
        elementStack := pushed.toList ++ state.elementStack })

def closed (kind : ElementKind) (closingTag : Option String) (inCodeBlock : Bool) :
    List HtmlEvent :=
  match kind with
  | .plain tag => [.finish tag]
  | .heading => (closingTag.map HtmlEvent.finish).toList
  | .codeBlock => [.finish "code", .finish "pre"]
  | .code => if inCodeBlock then [] else [.finish "code"]
  | .image => []
  | .hardBreak => []
  | .unknown => []

def pops : ElementKind → Bool
  | .image => false
  | .hardBreak => false
  | .unknown => false
  | _ => true

def finish (name : String) (state : PreviewState) : List HtmlEvent × PreviewState :=
  let depth := state.depth - 1
  match state.skipDepth with
  | some skipDepth =>
      ([], { state with depth, skipDepth := if depth = skipDepth then none else some skipDepth })
  | none =>
      let kind := ElementKind.of name
      (closed kind state.elementStack.head? state.inCodeBlock,
        { state with
          depth
          inCodeBlock := match kind with
            | .codeBlock => false
            | _ => state.inCodeBlock
          elementStack := if pops kind then state.elementStack.tail else state.elementStack })

def empty (name : String) (attributes : XmlAttributes) (state : PreviewState) :
    List HtmlEvent :=
  if state.skipDepth.isSome then []
  else
    match ElementKind.of name with
    | .hardBreak => [.empty "br" []]
    | .image => [.empty "img" (imageAttributes attributes)]
    | _ => []

def step (maxNodes : Nat) (state : PreviewState) : XmlEvent → List HtmlEvent × PreviewState
  | .start name attributes => start maxNodes name attributes state
  | .finish name => finish name state
  | .empty name attributes => (empty name attributes state, state)
  | .text content => (if state.skipDepth.isSome then [] else [.text content], state)
  | .ignored => ([], state)

def convert (maxNodes : Nat) : List XmlEvent → PreviewState → List HtmlEvent × PreviewState
  | [], state => ([], state)
  | event :: rest, state =>
      let (written, next) := step maxNodes state event
      let (more, last) := convert maxNodes rest next
      (written ++ more, last)

section Convert

variable {maxNodes : Nat}

@[simp] theorem convert_nil (state : PreviewState) :
    convert maxNodes [] state = ([], state) := rfl

theorem convert_cons (event : XmlEvent) (rest : List XmlEvent) (state : PreviewState) :
    convert maxNodes (event :: rest) state =
      ((step maxNodes state event).1 ++
          (convert maxNodes rest (step maxNodes state event).2).1,
        (convert maxNodes rest (step maxNodes state event).2).2) := rfl

theorem convert_append (first second : List XmlEvent) (state : PreviewState) :
    convert maxNodes (first ++ second) state =
      ((convert maxNodes first state).1 ++
          (convert maxNodes second (convert maxNodes first state).2).1,
        (convert maxNodes second (convert maxNodes first state).2).2) := by
  induction first generalizing state with
  | nil => simp
  | cons event rest ih =>
      rw [List.cons_append, convert_cons, convert_cons, ih, List.append_assoc]

theorem convert_concat (earlier : List XmlEvent) (event : XmlEvent) (state : PreviewState) :
    convert maxNodes (earlier ++ [event]) state =
      ((convert maxNodes earlier state).1 ++
          (step maxNodes (convert maxNodes earlier state).2 event).1,
        (step maxNodes (convert maxNodes earlier state).2 event).2) := by
  rw [convert_append, convert_cons]
  simp

end Convert

end PreviewState

def convertProsemirrorToHtml (events : List (Except String XmlEvent)) (maxNodes : Nat) :
    Except String String := do
  let events ← events.mapM id
  return render (PreviewState.convert maxNodes events {}).1

theorem convertProsemirrorToHtml_ok (events : List XmlEvent) (maxNodes : Nat) :
    convertProsemirrorToHtml (events.map .ok) maxNodes =
      .ok (render (PreviewState.convert maxNodes events {}).1) := by
  have hread : (events.map Except.ok : List (Except String XmlEvent)).mapM id = .ok events := by
    induction events with
    | nil => rfl
    | cons event rest ih =>
        rw [List.map_cons, List.mapM_cons, ih]
        rfl
  rw [convertProsemirrorToHtml, hread]
  rfl

end Osvauld.Livnote
