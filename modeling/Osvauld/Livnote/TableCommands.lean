import Osvauld.Data.Positions

namespace Osvauld.Livnote

open Data Data.DocNode

/-! The commands on tables in the editor of notes. They find the table by going up from the
place of the cursor. -/

structure Markup where
  name : String
  tableRole : Option String
  marks : List String
deriving DecidableEq

structure EditorState where
  doc : DocNode Markup
  place : ResolvedPos Markup
  resolved : doc.resolve place.pos = some place

structure TableInfo where
  table : DocNode Markup
  tablePos : Nat
  depth : Nat
  cell : DocNode Markup
  cellPos : Nat

structure Transaction where
  doc : DocNode Markup
  selectionNear : Nat

namespace TableCommands

def isTable (node : DocNode Markup) : Bool := node.markup.tableRole = some "table"

def isInTableFrom (place : ResolvedPos Markup) : Nat → Bool
  | 0 => false
  | depth + 1 => (place.node (depth + 1)).any isTable || isInTableFrom place depth

def isInTable (state : EditorState) : Bool := isInTableFrom state.place state.place.depth

def tableInfoAt (place : ResolvedPos Markup) (depth : Nat) : Option TableInfo := do
  let table ← place.node depth
  let tablePos ← place.before depth
  let cellPos ← place.before (depth - 1)
  let cell ← place.node (depth - 1)
  some { table, tablePos, depth, cell, cellPos }

def tableInfoFrom (place : ResolvedPos Markup) : Nat → Option TableInfo
  | 0 => none
  | depth + 1 =>
      if (place.node (depth + 1)).any isTable then
        -- what is thrown makes the loop go on
        (tableInfoAt place (depth + 1)).or (tableInfoFrom place depth)
      else tableInfoFrom place depth

def getTableInfo (state : EditorState) : Option TableInfo :=
  tableInfoFrom state.place state.place.depth

def paragraph : DocNode Markup := element ⟨"paragraph", none, []⟩ []

def withParagraph (doc : DocNode Markup) : DocNode Markup :=
  if contentSize doc.content = 0 then element doc.markup [paragraph] else doc

variable (schema : Schema Markup)

/-- What is returned, and what is dispatched. There is nothing when a position does not
resolve. -/
def deleteTable (state : EditorState) (dispatch : Bool) : Option (Bool × Option Transaction) :=
  match getTableInfo state with
  | none => some (false, none)
  | some info =>
      if dispatch then do
        let doc ← schema.delete info.tablePos (info.tablePos + info.table.nodeSize) state.doc
        some (true, some {
          doc := withParagraph doc
          selectionNear :=
            if contentSize doc.content = 0 then 1
            else min info.tablePos (contentSize doc.content - 1) })
      else some (true, none)

structure Innermost (place : ResolvedPos Markup) (depth : Nat) (table : DocNode Markup) :
    Prop where
  inside : 0 < depth
  node : place.node depth = some table
  isTable : isTable table = true
  nearest : ∀ deeper, depth < deeper → (place.node deeper).any TableCommands.isTable = false

structure DescribesTable (place : ResolvedPos Markup) (info : TableInfo) : Prop where
  innermost : Innermost place info.depth info.table
  tablePos : place.before info.depth = some info.tablePos

def isCell (node : DocNode Markup) : Bool :=
  node.markup.tableRole = some "cell" ∨ node.markup.tableRole = some "header_cell"

def DescribesCell (place : ResolvedPos Markup) (info : TableInfo) : Prop :=
  ∃ depth, info.depth < depth ∧ place.node depth = some info.cell ∧ isCell info.cell ∧
    place.before depth = some info.cellPos

structure Framed (state : EditorState) (depth : Nat) (table : DocNode Markup)
    (outer : List (Frame Markup)) (frame : Frame Markup) : Prop where
  doc : state.doc = plug outer (frame.plug table)
  length : outer.length + 1 = depth
  levels : state.place.path.take depth = frameLevels 0 table (outer ++ [frame])

def DeletesOnly (state : EditorState) (outer : List (Frame Markup)) (frame : Frame Markup) :
    Prop :=
  ∃ near, deleteTable schema state true = some (true, some {
    doc := withParagraph (plug outer (element frame.markup (glue frame.before frame.after)))
    selectionNear := near })

structure Right (state : EditorState) : Prop where
  found : (getTableInfo state).isSome ↔ isInTable state
  table : ∀ info, getTableInfo state = some info → DescribesTable state.place info
  cell : ∀ info, getTableInfo state = some info → DescribesCell state.place info
  deletes : ∀ depth table, Innermost state.place depth table →
    ∀ outer frame, Framed state depth table outer frame → DeletesOnly schema state outer frame

section Search

variable {place : ResolvedPos Markup} {depth : Nat} {table : DocNode Markup}

theorem le_depth {node : DocNode Markup} (hnode : place.node depth = some node) :
    depth ≤ place.depth := by
  obtain ⟨level, hlevel, -⟩ := Option.map_eq_some_iff.mp hnode
  obtain ⟨hdepth, -⟩ := List.getElem?_eq_some_iff.mp hlevel
  rw [ResolvedPos.depth]
  omega

variable {upper : Nat}

theorem isInTableFrom_of_innermost (hinnermost : Innermost place depth table)
    (hfrom : depth ≤ upper) : isInTableFrom place upper = true := by
  induction upper with
  | zero => exact absurd hinnermost.inside (by omega)
  | succ below ih =>
      rw [isInTableFrom]
      by_cases hdepth : depth = below + 1
      · subst hdepth
        rw [hinnermost.node, Option.any_some, hinnermost.isTable, Bool.true_or]
      · rw [ih (by omega), Bool.or_true]

theorem exists_innermost
    (habove : ∀ deeper, upper < deeper → (place.node deeper).any isTable = false)
    (hin : isInTableFrom place upper = true) : ∃ depth table, Innermost place depth table := by
  induction upper with
  | zero => cases hin
  | succ below ih =>
      rw [isInTableFrom, Bool.or_eq_true] at hin
      by_cases hhere : (place.node (below + 1)).any isTable = true
      · obtain ⟨table, hnode, htable⟩ := Option.any_eq_true _ _ |>.mp hhere
        exact ⟨below + 1, table, ⟨by omega, hnode, htable, habove⟩⟩
      · apply ih
        · intro deeper hdeeper
          by_cases heq : deeper = below + 1
          · subst heq
            simpa using hhere
          · exact habove deeper (by omega)
        · exact hin.resolve_left hhere

theorem tableInfoFrom_innermost (hinnermost : Innermost place depth table) (hfrom : depth ≤ upper) :
    tableInfoFrom place upper =
      (tableInfoAt place depth).or (tableInfoFrom place (depth - 1)) := by
  induction upper with
  | zero => exact absurd hinnermost.inside (by omega)
  | succ below ih =>
      by_cases hdepth : depth = below + 1
      · subst hdepth
        rw [tableInfoFrom, hinnermost.node, Option.any_some, if_pos hinnermost.isTable,
          Nat.add_sub_cancel]
      · rw [tableInfoFrom, hinnermost.nearest _ (by omega), if_neg Bool.false_ne_true,
          ih (by omega)]

theorem tableInfoFrom_of_not (hnot : isInTableFrom place upper = false) :
    tableInfoFrom place upper = none := by
  induction upper with
  | zero => rfl
  | succ below ih =>
      rw [isInTableFrom, Bool.or_eq_false_iff] at hnot
      rw [tableInfoFrom, hnot.1, if_neg Bool.false_ne_true, ih hnot.2]

theorem before_of_le {outer : Nat} (hdepth : outer + 1 ≤ place.depth) :
    place.before (outer + 1) = place.path[outer]?.map Level.offset := by
  rw [ResolvedPos.before, if_neg (by omega)]

theorem exists_before {outer : Nat} (hdepth : outer + 1 ≤ place.depth) :
    ∃ pos, place.before (outer + 1) = some pos := by
  rw [ResolvedPos.depth] at hdepth
  rw [before_of_le hdepth, List.getElem?_eq_getElem (by omega)]
  exact ⟨_, rfl⟩

theorem exists_node (hdepth : depth < place.depth) : ∃ node, place.node depth = some node := by
  rw [ResolvedPos.depth] at hdepth
  rw [ResolvedPos.node, List.getElem?_eq_getElem (by omega)]
  exact ⟨_, rfl⟩

theorem tableInfoAt_top : tableInfoAt place 1 = none := by
  rw [tableInfoAt]
  cases place.node 1 with
  | none => rfl
  | some table =>
      cases place.before 1 with
      | none => rfl
      | some tablePos => rfl

theorem tableInfoAt_nested {outer : Nat} (hnode : place.node (outer + 2) = some table) :
    ∃ info, tableInfoAt place (outer + 2) = some info ∧ info.table = table ∧
      info.depth = outer + 2 ∧ place.before (outer + 2) = some info.tablePos ∧
      place.node (outer + 1) = some info.cell := by
  have hdepth := le_depth hnode
  obtain ⟨tablePos, htablePos⟩ := exists_before hdepth
  obtain ⟨cellPos, hcellPos⟩ := @exists_before place outer (by omega)
  obtain ⟨cell, hcell⟩ := @exists_node place (outer + 1) (by omega)
  refine ⟨⟨table, tablePos, outer + 2, cell, cellPos⟩, ?_, rfl, rfl, htablePos, hcell⟩
  simp [tableInfoAt, hnode, htablePos, hcell, hcellPos]

end Search

section State

variable {state : EditorState} {depth : Nat} {table : DocNode Markup}

theorem getTableInfo_top (hinnermost : Innermost state.place 1 table) :
    getTableInfo state = none := by
  rw [getTableInfo, tableInfoFrom_innermost hinnermost (le_depth hinnermost.node),
    tableInfoAt_top]
  rfl

theorem getTableInfo_nested {outer : Nat}
    (hinnermost : Innermost state.place (outer + 2) table) :
    ∃ info, getTableInfo state = some info ∧ info.table = table ∧ info.depth = outer + 2 ∧
      state.place.before (outer + 2) = some info.tablePos ∧
      state.place.node (outer + 1) = some info.cell := by
  obtain ⟨info, hinfo, hrest⟩ := tableInfoAt_nested hinnermost.node
  refine ⟨info, ?_, hrest⟩
  rw [getTableInfo, tableInfoFrom_innermost hinnermost (le_depth hinnermost.node), hinfo]
  rfl

theorem getTableInfo_of_not (hnot : isInTable state = false) : getTableInfo state = none :=
  tableInfoFrom_of_not hnot

theorem exists_innermost_of_isInTable (hin : isInTable state = true) :
    ∃ depth table, Innermost state.place depth table := by
  apply exists_innermost _ hin
  intro deeper hdeeper
  cases hnode : state.place.node deeper with
  | none => rfl
  | some node => exact absurd (le_depth hnode) (by omega)

theorem isInTable_of_innermost (hinnermost : Innermost state.place depth table) :
    isInTable state = true :=
  isInTableFrom_of_innermost hinnermost (le_depth hinnermost.node)

theorem getTableInfo_isSome_iff (hinnermost : Innermost state.place depth table) :
    (getTableInfo state).isSome ↔ depth ≠ 1 := by
  have hinside := hinnermost.inside
  obtain rfl | ⟨outer, rfl⟩ : depth = 1 ∨ ∃ outer, depth = outer + 2 := by
    by_cases hdepth : depth = 1
    · exact .inl hdepth
    · exact .inr ⟨depth - 2, by omega⟩
  · simp [getTableInfo_top hinnermost]
  · obtain ⟨info, hinfo, -⟩ := getTableInfo_nested hinnermost
    simp [hinfo]

variable {info : TableInfo}

theorem getTableInfo_eq_some (hinnermost : Innermost state.place depth table)
    (hinfo : getTableInfo state = some info) :
    info.table = table ∧ info.depth = depth ∧
      state.place.before depth = some info.tablePos ∧
      state.place.node (depth - 1) = some info.cell := by
  have hdepth := (getTableInfo_isSome_iff hinnermost).mp (by rw [hinfo]; rfl)
  have hinside := hinnermost.inside
  obtain ⟨outer, rfl⟩ : ∃ outer, depth = outer + 2 := ⟨depth - 2, by omega⟩
  obtain ⟨found, hfound, hrest⟩ := getTableInfo_nested hinnermost
  cases hinfo.symm.trans hfound
  exact hrest

theorem describesTable (hinnermost : Innermost state.place depth table)
    (hinfo : getTableInfo state = some info) : DescribesTable state.place info := by
  obtain ⟨htable, hdepth, hpos, -⟩ := getTableInfo_eq_some hinnermost hinfo
  rw [← htable, ← hdepth] at hinnermost
  rw [← hdepth] at hpos
  exact ⟨hinnermost, hpos⟩

theorem path_eq (state : EditorState) :
    state.place.path = state.doc.levels 0 state.place.pos := by
  have hresolved := state.resolved
  rw [resolve] at hresolved
  split at hresolved
  · exact congrArg ResolvedPos.path (Option.some.inj hresolved).symm
  · cases hresolved

theorem not_describesCell (hinnermost : Innermost state.place depth table)
    (hinfo : getTableInfo state = some info) : ¬ DescribesCell state.place info := by
  rintro ⟨deeper, hdeeper, hcell, -, -⟩
  obtain ⟨-, hdepth, -, hparent⟩ := getTableInfo_eq_some hinnermost hinfo
  rw [ResolvedPos.node, path_eq] at hcell hparent
  obtain ⟨level, hlevel, hnode⟩ := Option.map_eq_some_iff.mp hparent
  obtain ⟨inside, hinside, hsame⟩ := Option.map_eq_some_iff.mp hcell
  have hsize := nodeSize_lt_of_deeper hlevel hinside (by omega)
  rw [hnode, hsame] at hsize
  exact Nat.lt_irrefl _ hsize

variable {schema : Schema Markup} {outer : List (Frame Markup)} {frame : Frame Markup}

theorem Framed.before (hframed : Framed state depth table outer frame)
    (hinnermost : Innermost state.place depth table) :
    state.place.before depth = some (entry 0 outer + contentSize frame.before) := by
  obtain ⟨-, rfl, hlevels⟩ := hframed
  rw [before_of_le (le_depth hinnermost.node)]
  rw [path_eq] at hlevels ⊢
  exact offset_of_frames hlevels

theorem deletesOnly_iff (hinnermost : Innermost state.place depth table)
    (hframed : Framed state depth table outer frame)
    (hcan : schema.canReplace (frame.plug table) frame.before.length
      (frame.before.length + 1) = true) :
    DeletesOnly schema state outer frame ↔ depth ≠ 1 := by
  constructor
  · rintro ⟨near, hdeleted⟩ rfl
    rw [deleteTable, getTableInfo_top hinnermost] at hdeleted
    cases hdeleted
  · intro hdepth
    obtain ⟨info, hinfo⟩ :=
      Option.isSome_iff_exists.mp ((getTableInfo_isSome_iff hinnermost).mpr hdepth)
    obtain ⟨htable, -, hpos, -⟩ := getTableInfo_eq_some hinnermost hinfo
    rw [hframed.before hinnermost] at hpos
    rw [DeletesOnly, deleteTable, hinfo]
    simp only [← Option.some.inj hpos, htable, hframed.doc, schema.delete_plug, hcan, if_true,
      Option.bind_eq_bind, Option.bind_some]
    exact ⟨_, rfl⟩

theorem exists_framed (hinnermost : Innermost state.place depth table) :
    ∃ outer frame, Framed state depth table outer frame := by
  obtain ⟨level, hlevel, rfl⟩ := Option.map_eq_some_iff.mp hinnermost.node
  rw [path_eq] at hlevel
  obtain ⟨frames, hlength, hplug, htake⟩ := exists_frames depth 0 _ state.doc level hlevel
  have hinside := hinnermost.inside
  cases frames using List.reverseRecOn with
  | nil => exact absurd hlength (by simp; omega)
  | append_singleton outer frame =>
      rw [List.length_append, List.length_singleton] at hlength
      rw [plug_append] at hplug
      exact ⟨outer, frame, hplug.symm, hlength, by rw [path_eq, htake]⟩

end State

/-- The commands do all that is asked of them only where there is no table. In a table, what
fails is always the cell; the rest fails for a table at the top level. -/
theorem right_iff (schema : Schema Markup) (state : EditorState) :
    (Right schema state ↔ isInTable state = false) ∧
    ∀ depth table, Innermost state.place depth table →
      ((getTableInfo state).isSome ↔ depth ≠ 1) ∧
      (∀ info, getTableInfo state = some info →
        DescribesTable state.place info ∧ ¬ DescribesCell state.place info) ∧
      ∃ outer frame, Framed state depth table outer frame ∧
        (schema.canReplace (frame.plug table) frame.before.length
            (frame.before.length + 1) = true →
          (DeletesOnly schema state outer frame ↔ depth ≠ 1)) := by
  constructor
  · constructor
    · intro hright
      rw [← Bool.not_eq_true]
      intro hin
      obtain ⟨depth, table, hinnermost⟩ := exists_innermost_of_isInTable hin
      obtain ⟨info, hinfo⟩ := Option.isSome_iff_exists.mp (hright.found.mpr hin)
      exact not_describesCell hinnermost hinfo (hright.cell info hinfo)
    · intro hnot
      have hnone := getTableInfo_of_not hnot
      constructor
      · simp [hnone, hnot]
      · simp [hnone]
      · simp [hnone]
      · intro depth table hinnermost
        rw [isInTable_of_innermost hinnermost] at hnot
        cases hnot
  · intro depth table hinnermost
    obtain ⟨outer, frame, hframed⟩ := exists_framed hinnermost
    refine ⟨getTableInfo_isSome_iff hinnermost, fun info hinfo => ?_, outer, frame, hframed,
      deletesOnly_iff hinnermost hframed⟩
    exact ⟨describesTable hinnermost hinfo, not_describesCell hinnermost hinfo⟩

def named (name : String) (role : Option String) (content : List (DocNode Markup)) :
    DocNode Markup := element ⟨name, role, []⟩ content

def smallTable : DocNode Markup :=
  named "table" (some "table") [named "table_row" (some "row")
    [named "table_cell" (some "cell") [named "paragraph" none [text ⟨"text", none, []⟩ 97 []]]]]

def topTable : EditorState where
  doc := named "doc" none [smallTable]
  place := ⟨4, (named "doc" none [smallTable]).levels 0 4⟩
  resolved := by rfl

def listedTable : EditorState where
  doc := named "doc" none [named "bullet_list" none [named "list_item" none [smallTable]]]
  place := ⟨6, (named "doc" none [named "bullet_list" none
    [named "list_item" none [smallTable]]]).levels 0 6⟩
  resolved := by rfl

/-- A table at the top level is not found, and the cell of a table in a list is said to be
the item of the list. -/
theorem table_not_described :
    isInTable topTable = true ∧ (getTableInfo topTable).isNone ∧
      (getTableInfo listedTable).map (fun info => (info.table.markup.name, info.tablePos,
        info.cell.markup.name, info.cellPos)) = some ("table", 2, "list_item", 1) := by
  decide +kernel

end TableCommands

end Osvauld.Livnote
