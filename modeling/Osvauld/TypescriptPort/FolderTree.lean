import Osvauld.TypescriptPort.FolderForest

namespace Osvauld.TypescriptPort

open Data

/-! The tree that is built of a user's folders, compared with their parents. -/

mutual

def FolderNode.paths : FolderNode → List (List Folder)
  | .mk folder children => [folder] :: (FolderNode.pathsAll children).map (folder :: ·)

def FolderNode.pathsAll : List FolderNode → List (List Folder)
  | [] => []
  | node :: rest => node.paths ++ FolderNode.pathsAll rest

end

def ownedFolders (folders : Table Folder) (userId : String) : List Folder :=
  folders.rows.filter fun folder => folder.ownerId = userId

def ParentPath : List Folder → Prop :=
  List.IsChain fun up child => child.parentId = some up.id

structure PlacePath (folders : Table Folder) (userId : String) (path : List Folder) : Prop where
  owned : ∀ folder ∈ path, folder ∈ ownedFolders folders userId
  root : ∀ folder, path.head? = some folder → truthy folder.parentId = none
  parents : ParentPath path

variable {folder : Folder} {path : List Folder}

theorem mem_ownedFolders {folders : Table Folder} {userId : String} :
    folder ∈ ownedFolders folders userId ↔ folder ∈ folders.rows ∧ folder.ownerId = userId := by
  simp [ownedFolders]

structure Builds (all : List Folder) (folder : Folder) (node : FolderNode) : Prop where
  mem_paths : ∀ path, path ∈ node.paths ↔
    ∃ rest, path = folder :: rest ∧ ParentPath path ∧ ∀ other ∈ rest, other ∈ all
  nodup_paths : node.paths.Nodup

variable {all : List Folder}

theorem mem_pathsAll {children : List Folder} {nodes : List FolderNode}
    (hnodes : List.Forall₂ (Builds all) children nodes) :
    path ∈ FolderNode.pathsAll nodes ↔ ∃ child ∈ children, ∃ rest, path = child :: rest ∧
      ParentPath path ∧ ∀ other ∈ rest, other ∈ all := by
  induction hnodes with
  | nil => simp [FolderNode.pathsAll]
  | cons hnode _ ih =>
      rw [FolderNode.pathsAll, List.mem_append, hnode.mem_paths, ih, List.exists_mem_cons_iff]

theorem nodup_pathsAll {children : List Folder} {nodes : List FolderNode}
    (hchildren : children.Nodup) (hnodes : List.Forall₂ (Builds all) children nodes) :
    (FolderNode.pathsAll nodes).Nodup := by
  induction hnodes with
  | nil => exact List.nodup_nil
  | @cons child node children nodes hnode hrest ih =>
      rw [List.nodup_cons] at hchildren
      rw [FolderNode.pathsAll, List.nodup_append]
      refine ⟨hnode.nodup_paths, ih hchildren.2, fun path hpath other hother heq => ?_⟩
      subst heq
      obtain ⟨_, rfl, -, -⟩ := (hnode.mem_paths path).mp hpath
      obtain ⟨other, hmem, _, heq, -, -⟩ := (mem_pathsAll hrest).mp hother
      cases heq
      exact hchildren.1 hmem

theorem Builds.node {nodes : List FolderNode} (hall : all.Nodup)
    (hnodes : List.Forall₂ (Builds all)
      (all.filter fun other => other.parentId = some folder.id) nodes) :
    Builds all folder (.mk folder nodes) where
  mem_paths := by
    intro path
    rw [FolderNode.paths, List.mem_cons, List.mem_map]
    constructor
    · rintro (rfl | ⟨path, hpath, rfl⟩)
      · exact ⟨[], rfl, List.isChain_singleton _, by simp⟩
      · obtain ⟨child, hchild, rest, rfl, hparents, hrest⟩ := (mem_pathsAll hnodes).mp hpath
        obtain ⟨hmem, hup⟩ := List.mem_filter.mp hchild
        refine ⟨child :: rest, rfl, List.isChain_cons_cons.mpr ⟨by simpa using hup, hparents⟩, ?_⟩
        exact List.forall_mem_cons.mpr ⟨hmem, hrest⟩
    · rintro ⟨rest, rfl, hparents, hrest⟩
      cases rest with
      | nil => exact .inl rfl
      | cons child rest =>
          obtain ⟨hup, hparents⟩ := List.isChain_cons_cons.mp hparents
          obtain ⟨hmem, hrest⟩ := List.forall_mem_cons.mp hrest
          refine .inr ⟨child :: rest, (mem_pathsAll hnodes).mpr ⟨child, ?_, rest, rfl,
            hparents, hrest⟩, rfl⟩
          exact List.mem_filter.mpr ⟨hmem, by simpa using hup⟩
  nodup_paths := by
    have hpaths := nodup_pathsAll (hall.filter _) hnodes
    rw [FolderNode.paths, List.nodup_cons]
    refine ⟨fun hmem => ?_, hpaths.map (List.cons_injective)⟩
    obtain ⟨path, hpath, heq⟩ := List.mem_map.mp hmem
    obtain ⟨_, _, _, rfl, -, -⟩ := (mem_pathsAll hnodes).mp hpath
    cases heq

namespace FolderManager

variable {folders : Table Folder} {userId : String}

theorem mapM_enough {ε : Type} {Item Result : Type} (body : Nat → Item → Except ε Result)
    (good : Item → Result → Prop) (items : List Item)
    (hbody : ∀ item ∈ items, ∃ result, good item result ∧
      ∃ enough, ∀ rounds ≥ enough, body rounds item = .ok result) :
    ∃ results, List.Forall₂ good items results ∧
      ∃ enough, ∀ rounds ≥ enough, items.mapM (body rounds) = .ok results := by
  induction items with
  | nil => exact ⟨[], .nil, 0, fun _ _ => rfl⟩
  | cons item rest ih =>
      obtain ⟨result, hgood, first, hfirst⟩ := hbody item List.mem_cons_self
      obtain ⟨results, hresults, second, hsecond⟩ :=
        ih fun other hother => hbody other (List.mem_cons_of_mem _ hother)
      refine ⟨result :: results, .cons hgood hresults, max first second,
        fun rounds hrounds => ?_⟩
      rw [List.mapM_cons, hfirst rounds ((le_max_left _ _).trans hrounds),
        hsecond rounds ((le_max_right _ _).trans hrounds)]
      rfl

theorem nodup_ownedFolders (folders : Table Folder) (userId : String) :
    (ownedFolders folders userId).Nodup :=
  (List.Nodup.of_map _ folders.nodup).filter _

theorem buildFolderNode_builds (hforest : FolderForest folders) (id : String) :
    ∀ folder ∈ ownedFolders folders userId, folder.id = id →
      ∃ node, Builds (ownedFolders folders userId) folder node ∧
        ∃ enough, ∀ rounds ≥ enough,
          buildFolderNode (ownedFolders folders userId) rounds folder = .ok node := by
  induction id using
    (hforest.forest.children (FolderForest.finite_parents folders)).induction with
  | _ id ih =>
      rintro folder hfolder rfl
      have hne := hforest.id_ne folder (mem_ownedFolders.mp hfolder).1
      obtain ⟨nodes, hnodes, enough, henough⟩ := mapM_enough
        (buildFolderNode (ownedFolders folders userId)) (Builds (ownedFolders folders userId))
        ((ownedFolders folders userId).filter fun other => other.parentId = some folder.id) (by
          intro child hchild
          obtain ⟨hmem, hup⟩ := List.mem_filter.mp hchild
          refine ih child.id ?_ child hmem rfl
          rw [Up, parentOf_of_mem (mem_ownedFolders.mp hmem).1,
            show child.parentId = some folder.id by simpa using hup, truthy_of_ne hne])
      refine ⟨.mk folder nodes, .node (nodup_ownedFolders folders userId) hnodes,
        enough + 1, fun rounds hrounds => ?_⟩
      cases rounds with
      | zero => cases hrounds
      | succ rounds =>
          rw [buildFolderNode, henough rounds (Nat.le_of_succ_le_succ hrounds)]
          rfl

theorem getFolderTree_ends (hforest : FolderForest folders) (userId : String) :
    ∃ tree, Ends (fun rounds => getFolderTree rounds userId) folders (.ok tree) folders ∧
      List.Forall₂ (Builds (ownedFolders folders userId))
        ((ownedFolders folders userId).filter fun folder => truthy folder.parentId = none)
        tree := by
  obtain ⟨tree, htree, enough, henough⟩ := mapM_enough
    (buildFolderNode (ownedFolders folders userId)) (Builds (ownedFolders folders userId))
    ((ownedFolders folders userId).filter fun folder => truthy folder.parentId = none)
    (fun folder hfolder =>
        buildFolderNode_builds hforest folder.id folder (List.mem_of_mem_filter hfolder) rfl)
  refine ⟨tree, ⟨by simp, enough, fun rounds hrounds => ?_⟩, htree⟩
  have hmap := henough rounds hrounds
  simp only [getFolderTree, Program.run_bind, listFolders_run, Program.andThen_ok,
    Program.run_ofExcept]
  exact congrArg (fun outcome => (outcome, folders)) hmap

end FolderManager

variable {folders : Table Folder} {userId : String}

theorem mem_pathsAll_iff {tree : List FolderNode}
    (htree : List.Forall₂ (Builds (ownedFolders folders userId))
      ((ownedFolders folders userId).filter fun folder => truthy folder.parentId = none) tree) :
    path ∈ FolderNode.pathsAll tree ↔ path ≠ [] ∧ PlacePath folders userId path := by
  rw [mem_pathsAll htree]
  constructor
  · rintro ⟨root, hroot, rest, rfl, hparents, hrest⟩
    obtain ⟨howned, hnone⟩ := List.mem_filter.mp hroot
    refine ⟨List.cons_ne_nil _ _, List.forall_mem_cons.mpr ⟨howned, hrest⟩, ?_, hparents⟩
    rintro folder ⟨⟩
    simpa using hnone
  · rintro ⟨hne, hplace⟩
    cases path with
    | nil => exact absurd rfl hne
    | cons root rest =>
        obtain ⟨howned, hrest⟩ := List.forall_mem_cons.mp hplace.owned
        exact ⟨root, List.mem_filter.mpr ⟨howned, by simpa using hplace.root root rfl⟩, rest, rfl,
          hplace.parents, hrest⟩

theorem exists_placePath (hforest : FolderForest folders) (id : String) :
    ∀ folder ∈ ownedFolders folders userId, folder.id = id →
      ∃ path, PlacePath folders userId path ∧ path.getLast? = some folder := by
  induction id using hforest.forest.induction with
  | _ id ih =>
      rintro folder hfolder rfl
      obtain ⟨hmem, howner⟩ := mem_ownedFolders.mp hfolder
      cases hparent : truthy folder.parentId with
      | none =>
          refine ⟨[folder], ⟨by simpa using hfolder, ?_, List.isChain_singleton _⟩, rfl⟩
          rintro _ ⟨⟩
          exact hparent
      | some parentId =>
          obtain ⟨parent, hparentMem, rfl, hsame⟩ := hforest.parents folder hmem parentId hparent
          obtain ⟨path, hplace, hlast⟩ := ih parent.id ((parentOf_of_mem hmem).trans hparent)
            parent (mem_ownedFolders.mpr ⟨hparentMem, hsame.trans howner⟩) rfl
          refine ⟨path ++ [folder], ⟨?_, ?_, ?_⟩, List.getLast?_concat⟩
          · intro other hother
            rcases List.mem_append.mp hother with hold | hnew
            · exact hplace.owned other hold
            · exact List.mem_singleton.mp hnew ▸ hfolder
          · intro root hroot
            refine hplace.root root ?_
            cases path with
            | nil => cases hlast
            | cons first rest => exact hroot
          · refine List.isChain_append.mpr ⟨hplace.parents, List.isChain_singleton _, ?_⟩
            intro up hup child hchild
            obtain rfl : parent = up := Option.some.inj (hlast.symm.trans hup)
            obtain rfl : folder = child := by simpa using hchild
            exact (truthy_eq_some_iff.mp hparent).1

theorem PlacePath.dropLast (hplace : PlacePath folders userId (path ++ [folder]))
    (hpath : path ≠ []) :
    PlacePath folders userId path ∧
      ∃ up, path.getLast? = some up ∧ folder.parentId = some up.id := by
  obtain ⟨before, up, rfl⟩ := (List.eq_nil_or_concat path).resolve_left hpath
  obtain ⟨hparents, -, hlink⟩ := List.isChain_append.mp hplace.parents
  refine ⟨⟨fun other hother => hplace.owned other (List.mem_append_left _ hother), ?_, hparents⟩,
    up, by simp, hlink up (by simp) folder (by simp)⟩
  intro root hroot
  refine hplace.root root ?_
  rw [List.head?_append, hroot]
  rfl

theorem PlacePath.unique (hforest : FolderForest folders) {other : List Folder}
    (hplace : PlacePath folders userId path) (hother : PlacePath folders userId other)
    (hlast : path.getLast? = some folder) (hotherLast : other.getLast? = some folder) :
    path = other := by
  induction path using List.reverseRecOn generalizing other folder with
  | nil => cases hlast
  | append_singleton before last ih =>
      obtain rfl : last = folder := by simpa using hlast
      obtain ⟨before', rfl⟩ : ∃ before', other = before' ++ [last] := by
        rcases List.eq_nil_or_concat other with rfl | ⟨before', last', rfl⟩
        · cases hotherLast
        · exact ⟨before', by simpa using hotherLast⟩
      -- A parent is no root: its identifier is not empty.
      have hnotRoot : ∀ {path : List Folder}, PlacePath folders userId (path ++ [last]) →
          path ≠ [] → truthy last.parentId ≠ none := by
        intro path hpath hne hnone
        obtain ⟨hup, up, hget, hparent⟩ := hpath.dropLast hne
        have hmem := (mem_ownedFolders.mp (hup.owned up (List.mem_of_getLast? hget))).1
        rw [hparent, truthy_of_ne (hforest.id_ne up hmem)] at hnone
        cases hnone
      by_cases hbefore : before = []
      · subst hbefore
        have hroot := hplace.root last rfl
        by_cases hbefore' : before' = []
        · rw [hbefore']
        · exact absurd hroot (hnotRoot hother hbefore')
      · have hbefore' : before' ≠ [] := by
          rintro rfl
          exact hnotRoot hplace hbefore (hother.root last rfl)
        obtain ⟨hup, up, hget, hparent⟩ := hplace.dropLast hbefore
        obtain ⟨hup', up', hget', hparent'⟩ := hother.dropLast hbefore'
        have hmem := (mem_ownedFolders.mp (hup.owned up (List.mem_of_getLast? hget))).1
        have hmem' := (mem_ownedFolders.mp (hup'.owned up' (List.mem_of_getLast? hget'))).1
        obtain rfl : up = up' := Table.eq_of_id hmem hmem'
          (Option.some.inj (hparent.symm.trans hparent'))
        rw [ih hup hup' hget hget']

theorem places_perm (hforest : FolderForest folders) {tree : List FolderNode}
    (htree : List.Forall₂ (Builds (ownedFolders folders userId))
      ((ownedFolders folders userId).filter fun folder => truthy folder.parentId = none) tree) :
    ((FolderNode.pathsAll tree).map List.getLast?).Perm
      ((ownedFolders folders userId).map some) := by
  have hpaths := nodup_pathsAll ((FolderManager.nodup_ownedFolders folders userId).filter _) htree
  refine (List.perm_ext_iff_of_nodup (hpaths.map_on ?_)
    ((FolderManager.nodup_ownedFolders folders userId).map (Option.some_injective _))).mpr ?_
  · intro path hpath other hother heq
    obtain ⟨hne, hplace⟩ := (mem_pathsAll_iff htree).mp hpath
    obtain ⟨-, hother⟩ := (mem_pathsAll_iff htree).mp hother
    have hlast := List.getLast?_eq_some_getLast hne
    exact hplace.unique hforest hother hlast (heq ▸ hlast)
  · intro last
    simp only [List.mem_map]
    constructor
    · rintro ⟨path, hpath, rfl⟩
      obtain ⟨hne, hplace⟩ := (mem_pathsAll_iff htree).mp hpath
      exact ⟨path.getLast hne, hplace.owned _ (List.getLast_mem hne),
        (List.getLast?_eq_some_getLast hne).symm⟩
    · rintro ⟨folder, hfolder, rfl⟩
      obtain ⟨path, hplace, hlast⟩ := exists_placePath hforest folder.id folder hfolder rfl
      refine ⟨path, (mem_pathsAll_iff htree).mpr ⟨?_, hplace⟩, hlast⟩
      rintro rfl
      cases hlast

theorem rejected_unchanged {call : FolderCall} {outcome : Except PortError Unit}
    {after : Table Folder} (hstep : FolderStep folders call outcome after) {error : PortError}
    (herror : outcome = .error error) : after = folders := by
  cases hstep with
  | failed => rfl
  | _ => cases herror

open FolderManager in
theorem deleteFolder_resolves_iff (hforest : FolderForest folders) (folderId userId : String)
    (recursive : Bool) :
    (∃ after, Ends (fun rounds => deleteFolder rounds folderId userId recursive) folders
      (.ok ()) after) ↔
    (∃ folder ∈ folders.rows, folder.id = folderId ∧ folder.ownerId = userId) ∧
      (recursive = true ∨ ∀ child, folders.parentOf child ≠ some folderId) := by
  obtain ⟨hexists, hchildren, after, hends, -⟩ | ⟨hnot, error, hends⟩ :=
    deleteFolder_ends hforest folderId userId recursive
  · exact ⟨fun _ => ⟨hexists, hchildren⟩, fun _ => ⟨after, hends⟩⟩
  · refine ⟨?_, fun hcan => absurd hcan hnot⟩
    rintro ⟨after, hok⟩
    cases (hok.unique hends).1

open FolderManager in
theorem removed_of_resolves (hforest : FolderForest folders) {folderId userId : String}
    {recursive : Bool} {after : Table Folder}
    (hok : Ends (fun rounds => deleteFolder rounds folderId userId recursive) folders
      (.ok ()) after) : Removed folders folderId after := by
  obtain ⟨-, -, after', hends, hremoved⟩ | ⟨-, error, hends⟩ :=
    deleteFolder_ends hforest folderId userId recursive
  · obtain ⟨-, rfl⟩ := hok.unique hends
    exact hremoved
  · cases (hok.unique hends).1

def emptyParentCall : FolderCall :=
  .createFolder ⟨"f1", by decide⟩ 1 "notes" "u1" (some "")

def emptyParentFolder : Folder := ⟨"f1", "notes", some "", "u1", 1, 1⟩

def emptyParentFolders : Table Folder := ⟨[emptyParentFolder], by decide⟩

theorem emptyParentCall_ends :
    FolderManager.Ends emptyParentCall.body Table.empty (.ok ()) emptyParentFolders :=
  .of_const (fun _ => rfl) rfl (by simp)

theorem emptyParentFolders_reached : FoldersReached emptyParentFolders :=
  .call .empty emptyParentCall_ends

end Osvauld.TypescriptPort
