import Mathlib.Data.Nat.Digits.Lemmas
import Osvauld.Core.DocumentContent
import Osvauld.Data.SharedText

namespace Osvauld.TypescriptPort

open Osvauld.Core Data

/-! The text of Yjs documents. -/

/-- Beside what a document is to its peers: `YText.insert`, which writes for the client
of the document, and `YText.toString`. -/
structure Yjs extends Yrs where
  insert : (clientId : Nat) → Doc → (index : Nat) → String → Doc
  text : Doc → String

/-- The text is part of the replicated state, and what a client writes into a new
document has that client for its author. -/
structure LawfulYjs (yjs : Yjs) (L : Type*) [SemilatticeSup L] [OrderBot L] (Item : Type*)
    [DecidableEq Item] extends ExactYrs yjs.toYrs L where
  shared : SharedText L Item
  client : Item → Nat
  text_eq : ∀ doc, yjs.text doc = shared.text (state doc)
  known_insert : ∀ clientId text,
    ∀ item ∈ shared.known (state (yjs.insert clientId yjs.new 0 text)), client item = clientId
  deleted_insert : ∀ clientId text,
    shared.deleted (state (yjs.insert clientId yjs.new 0 text)) = ∅
  visible_insert : ∀ clientId text,
    (shared.visible (state (yjs.insert clientId yjs.new 0 text))).map Prod.snd = text.toList

def WrittenChar := ℕ ×ₗ ℕ ×ₗ ℕ

namespace WrittenChar

instance : LinearOrder WrittenChar := inferInstanceAs (LinearOrder (ℕ ×ₗ ℕ ×ₗ ℕ))

instance : Encodable WrittenChar :=
  Encodable.ofEquiv (ℕ × ℕ × ℕ) (ofLex.trans ((Equiv.refl ℕ).prodCongr ofLex))

def of (client clock : ℕ) (char : Char) : WrittenChar :=
  toLex (client, toLex (clock, char.toNat))

def client (written : WrittenChar) : ℕ := (ofLex written).1

def clock (written : WrittenChar) : ℕ := (ofLex (ofLex written).2).1

def char (written : WrittenChar) : Char := Char.ofNat (ofLex (ofLex written).2).2

@[simp] theorem client_of (client clock : ℕ) (char : Char) : (of client clock char).client = client :=
  rfl

@[simp] theorem clock_of (client clock : ℕ) (char : Char) : (of client clock char).clock = clock :=
  rfl

@[simp] theorem char_of (client clock : ℕ) (char : Char) : (of client clock char).char = char :=
  Char.ofNat_toNat char

theorem of_lt {client clock : ℕ} {char : Char} {later : WrittenChar}
    (hclient : later.client = client) (hclock : clock < later.clock) :
    of client clock char < later := by
  refine Prod.Lex.lt_iff.mpr (.inr ⟨hclient.symm, Prod.Lex.lt_iff.mpr (.inl hclock)⟩)

end WrittenChar

def writtenText (client : ℕ) : ℕ → List Char → List WrittenChar
  | _, [] => []
  | clock, char :: rest => .of client clock char :: writtenText client (clock + 1) rest

theorem mem_writtenText {client clock : ℕ} {text : List Char} {written : WrittenChar}
    (hwritten : written ∈ writtenText client clock text) :
    written.client = client ∧ clock ≤ written.clock := by
  induction text generalizing clock with
  | nil => cases hwritten
  | cons char rest ih =>
      rcases List.mem_cons.mp hwritten with rfl | hrest
      · exact ⟨rfl, le_rfl⟩
      · obtain ⟨hclient, hclock⟩ := ih hrest
        exact ⟨hclient, by omega⟩

theorem writtenText_sorted (client clock : ℕ) (text : List Char) :
    (writtenText client clock text).Pairwise (· < ·) := by
  induction text generalizing clock with
  | nil => exact .nil
  | cons char rest ih =>
      refine .cons (fun later hlater => ?_) (ih (clock + 1))
      obtain ⟨hclient, hclock⟩ := mem_writtenText hlater
      exact WrittenChar.of_lt hclient hclock

theorem map_char_writtenText (client clock : ℕ) (text : List Char) :
    (writtenText client clock text).map WrittenChar.char = text := by
  induction text generalizing clock with
  | nil => rfl
  | cons char rest ih => rw [writtenText, List.map_cons, ih, WrittenChar.char_of]

abbrev WrittenDoc := Finset WrittenChar × Finset WrittenChar

namespace WrittenDoc

def visible (doc : WrittenDoc) : List (WrittenChar × Char) :=
  ((doc.1 \ doc.2).sort).map fun written => (written, written.char)

theorem map_fst_visible (doc : WrittenDoc) : doc.visible.map Prod.fst = (doc.1 \ doc.2).sort := by
  rw [visible, List.map_map]
  exact List.map_id _

def shared : SharedText WrittenDoc WrittenChar where
  known doc := doc.1
  deleted doc := doc.2
  visible := visible
  nodup_visible doc := by
    rw [map_fst_visible]
    exact Finset.sort_nodup _ _
  mem_visible doc item := by
    rw [map_fst_visible, Finset.mem_sort, Finset.mem_sdiff]
  known_sup _ _ := rfl
  deleted_sup _ _ := rfl
  visible_of_le earlier later hle := by
    have hsame : ((later.1 \ later.2).sort).filter (fun written => written ∈ earlier.1) =
        ((earlier.1 \ earlier.2).sort).filter fun written => written ∉ later.2 := by
      refine ((Finset.sortedLT_sort _).pairwise.filter _).eq_of_mem_iff
        ((Finset.sortedLT_sort _).pairwise.filter _) fun written => ?_
      have hknown := @hle.1 written
      have hdeleted := @hle.2 written
      simp only [List.mem_filter, Finset.mem_sort, Finset.mem_sdiff, decide_eq_true_eq]
      constructor
      · rintro ⟨⟨-, hkept⟩, hearlier⟩
        exact ⟨⟨hearlier, fun hgone => hkept (hdeleted hgone)⟩, hkept⟩
      · rintro ⟨⟨hearlier, -⟩, hkept⟩
        exact ⟨⟨hknown hearlier, hkept⟩, hearlier⟩
    rw [visible, visible, List.filter_map, List.filter_map]
    exact congrArg _ hsame

/-- A document as bytes. -/
def encode (doc : WrittenDoc) : Bytes :=
  (Nat.digits 256 (Encodable.encode doc + 1)).map UInt8.ofNat

def decode (bytes : Bytes) : Option WrittenDoc :=
  if bytes.isEmpty then none
  else Encodable.decode (Nat.ofDigits 256 (bytes.map UInt8.toNat) - 1)

theorem encode_ne_nil (doc : WrittenDoc) : doc.encode ≠ [] := by
  simp [encode]

theorem decode_encode (doc : WrittenDoc) : decode doc.encode = some doc := by
  have hbytes : (doc.encode.map UInt8.toNat) = Nat.digits 256 (Encodable.encode doc + 1) := by
    rw [encode, List.map_map]
    refine (List.map_congr_left fun digit hdigit => ?_).trans (List.map_id _)
    exact Nat.mod_eq_of_lt (Nat.digits_lt_base (by norm_num) hdigit)
  have hne : doc.encode.isEmpty = false := by simpa using doc.encode_ne_nil
  rw [decode, hne, hbytes, Nat.ofDigits_digits, Nat.add_sub_cancel]
  exact Encodable.encodek doc

def apply (doc : WrittenDoc) (update : Bytes) : Except String WrittenDoc :=
  match decode update with
  | some brought => .ok (doc ⊔ brought)
  | none => .error "not an update"

def missing (doc : WrittenDoc) (stateVector : Bytes) : Except String Bytes :=
  match decode stateVector with
  | some peer => .ok (encode (doc \ peer))
  | none => .error "not a state vector"

def insert (clientId : Nat) (doc : WrittenDoc) (_index : Nat) (text : String) : WrittenDoc :=
  let clock := (doc.1.filter fun written => written.client = clientId).card
  (doc.1 ∪ (writtenText clientId clock text.toList).toFinset, doc.2)

def meaning (bytes : Bytes) : WithBot WrittenDoc :=
  if bytes.isEmpty then (⊥ : WrittenDoc)
  else
    match decode bytes with
    | some doc => doc
    | none => ⊥

theorem meaning_encode (doc : WrittenDoc) : meaning doc.encode = doc := by
  have hne : doc.encode.isEmpty = false := by simpa using doc.encode_ne_nil
  rw [meaning, hne, decode_encode]
  rfl

variable {update : Bytes} {brought : WrittenDoc}

theorem decode_of_meaning (hupdate : update ≠ []) (hmeaning : meaning update = brought) :
    decode update = some brought := by
  have hne : update.isEmpty = false := by simpa using hupdate
  rw [meaning, hne] at hmeaning
  cases hdecode : decode update with
  | none =>
      rw [hdecode] at hmeaning
      cases hmeaning
  | some doc =>
      rw [hdecode] at hmeaning
      exact congrArg some (WithBot.coe_injective hmeaning)

theorem meaning_of_decode (hdecode : decode update = some brought) : meaning update = brought := by
  cases update with
  | nil => cases hdecode
  | cons byte rest =>
      rw [meaning, hdecode]
      rfl

theorem apply_ok {doc after : WrittenDoc} (happly : apply doc update = .ok after) :
    ∃ brought : WrittenDoc, meaning update = brought ∧ after = doc ⊔ brought := by
  unfold apply at happly
  cases hdecode : decode update with
  | none =>
      rw [hdecode] at happly
      cases happly
  | some brought =>
      rw [hdecode] at happly
      cases happly
      exact ⟨brought, meaning_of_decode hdecode, rfl⟩

theorem apply_of_meaning (hupdate : update ≠ []) (hmeaning : meaning update = brought)
    (doc : WrittenDoc) : apply doc update = .ok (doc ⊔ brought) := by
  rw [apply, decode_of_meaning hupdate hmeaning]

theorem missing_encode (doc peer : WrittenDoc) :
    missing doc peer.encode = .ok (encode (doc \ peer)) := by
  rw [missing, decode_encode]

theorem insert_new (clientId : Nat) (text : String) :
    insert clientId ⊥ 0 text = ((writtenText clientId 0 text.toList).toFinset, ∅) := by
  simp [insert]

theorem sort_writtenText (clientId : Nat) (text : List Char) :
    (writtenText clientId 0 text).toFinset.sort = writtenText clientId 0 text :=
  (Finset.sortedLT_sort _).pairwise.eq_of_mem_iff (writtenText_sorted clientId 0 text)
    fun written => by rw [Finset.mem_sort, List.mem_toFinset]

theorem client_insert {clientId : Nat} {text : String} {written : WrittenChar}
    (hwritten : written ∈ (insert clientId ⊥ 0 text).1) : written.client = clientId := by
  rw [insert_new, List.mem_toFinset] at hwritten
  exact (mem_writtenText hwritten).1

theorem map_snd_visible_insert (clientId : Nat) (text : String) :
    (visible (insert clientId ⊥ 0 text)).map Prod.snd = text.toList := by
  rw [insert_new, visible, Finset.sdiff_empty, sort_writtenText, List.map_map]
  exact map_char_writtenText clientId 0 text.toList

end WrittenDoc

def Yjs.written : Yjs where
  Doc := WrittenDoc
  new := ⊥
  applyUpdate := WrittenDoc.apply
  stateVector := WrittenDoc.encode
  stateAsUpdate := WrittenDoc.encode
  diff := WrittenDoc.missing
  insert := WrittenDoc.insert
  text := WrittenDoc.shared.text

def Yjs.lawfulWritten : LawfulYjs Yjs.written WrittenDoc WrittenChar where
  state doc := doc
  meaning := WrittenDoc.meaning
  state_new := rfl
  meaning_nil := rfl
  state_applyUpdate _ _ _ happly := WrittenDoc.apply_ok happly
  meaning_stateAsUpdate := WrittenDoc.meaning_encode
  applies doc _ _ hupdate hmeaning := ⟨_, WrittenDoc.apply_of_meaning hupdate hmeaning doc⟩
  stateVector_ne_nil := WrittenDoc.encode_ne_nil
  diff_stateVector doc peer :=
    ⟨_, _, WrittenDoc.missing_encode doc peer, WrittenDoc.meaning_encode _, sdiff_le, le_sup_sdiff⟩
  shared := WrittenDoc.shared
  client := WrittenChar.client
  text_eq _ := rfl
  known_insert _ _ _ hitem := WrittenDoc.client_insert hitem
  deleted_insert clientId text := congrArg Prod.snd (WrittenDoc.insert_new clientId text)
  visible_insert := WrittenDoc.map_snd_visible_insert

structure SnapshotYjs extends Yrs where
  Snapshot : Type
  snapshot : Doc → Snapshot

section Snapshots

variable (yjs : SnapshotYjs)

def createSnapshot (ydoc : yjs.Doc) : yjs.Snapshot := yjs.snapshot ydoc

/-- The snapshot is not looked at. -/
def restoreSnapshot (ydoc : yjs.Doc) (_snapshot : yjs.Snapshot) : Except String yjs.Doc :=
  let restoredDoc := yjs.new
  let update := yjs.stateAsUpdate ydoc
  yjs.applyUpdate restoredDoc update

end Snapshots

structure LawfulSnapshots (yjs : SnapshotYjs) (L : Type*) [SemilatticeSup L] [OrderBot L]
    (Name Item Value : Type*) [DecidableEq Item] extends ExactYrs yjs.toYrs L where
  types : SharedTypes L Name Item Value
  stateAsUpdate_ne_nil : ∀ doc, yjs.stateAsUpdate doc ≠ []

namespace LawfulSnapshots

variable {yjs : SnapshotYjs} {L Name Item Value : Type*} [SemilatticeSup L] [OrderBot L]
  [DecidableEq Item] (lawful : LawfulSnapshots yjs L Name Item Value)

structure Edit where
  apply : yjs.Doc → yjs.Doc
  grows : ∀ doc, lawful.state doc ≤ lawful.state (apply doc)

variable {lawful}

def edited (edits : List lawful.Edit) (doc : yjs.Doc) : yjs.Doc :=
  edits.foldl (fun doc edit => edit.apply doc) doc

theorem state_le_edited (edits : List lawful.Edit) (doc : yjs.Doc) :
    lawful.state doc ≤ lawful.state (edited edits doc) := by
  induction edits generalizing doc with
  | nil => exact le_rfl
  | cons edit rest ih => exact (edit.grows doc).trans (ih (edit.apply doc))

variable (lawful)

def shown (name : Name) (doc : yjs.Doc) : List (Item × Value) :=
  lawful.types.shown name (lawful.state doc)

def content (name : Name) (doc : yjs.Doc) : List Value :=
  (lawful.shown name doc).map Prod.snd

/-- The document that is restored from a snapshot of `doc` has the content of `doc`. -/
def Restores (doc later : yjs.Doc) : Prop :=
  ∃ restored, restoreSnapshot yjs later (createSnapshot yjs doc) = .ok restored ∧
    ∀ name, lawful.content name restored = lawful.content name doc

def RestoresItems (doc later : yjs.Doc) : Prop :=
  ∃ restored, restoreSnapshot yjs later (createSnapshot yjs doc) = .ok restored ∧
    ∀ name, lawful.shown name restored = lawful.shown name doc

theorem restoreSnapshot_state (later : yjs.Doc) (snapshot : yjs.Snapshot) :
    ∃ restored, restoreSnapshot yjs later snapshot = .ok restored ∧
      lawful.state restored = lawful.state later := by
  obtain ⟨restored, hrestored⟩ := lawful.applies yjs.new (yjs.stateAsUpdate later)
    (lawful.state later) (lawful.stateAsUpdate_ne_nil later) (lawful.meaning_stateAsUpdate later)
  obtain ⟨brought, hmeaning, hstate⟩ := lawful.state_applyUpdate _ _ _ hrestored
  refine ⟨restored, hrestored, ?_⟩
  rw [lawful.meaning_stateAsUpdate] at hmeaning
  obtain rfl := WithBot.coe_injective hmeaning
  rw [hstate, lawful.state_new, bot_sup_eq]

variable {lawful} in
theorem exists_restored_iff {P : L → Prop} {later : yjs.Doc} {snapshot : yjs.Snapshot} :
    (∃ restored, restoreSnapshot yjs later snapshot = .ok restored ∧
      P (lawful.state restored)) ↔ P (lawful.state later) := by
  obtain ⟨restored, hrestored, hstate⟩ := lawful.restoreSnapshot_state later snapshot
  constructor
  · rintro ⟨other, hother, hproperty⟩
    cases hrestored.symm.trans hother
    exact hstate ▸ hproperty
  · intro hproperty
    exact ⟨restored, hrestored, hstate.symm ▸ hproperty⟩

end LawfulSnapshots

open LawfulSnapshots in
/-- The content of the snapshot comes back when the edits since have changed none of it;
the items come back when none has been deleted and each new one has. -/
theorem restoreSnapshot_restores_iff {yjs : SnapshotYjs} {L Name Item Value : Type*}
    [SemilatticeSup L] [OrderBot L] [DecidableEq Item]
    (lawful : LawfulSnapshots yjs L Name Item Value) (doc : yjs.Doc)
    (edits : List lawful.Edit) :
    (lawful.Restores doc (edited edits doc) ↔
      ∀ name, lawful.content name (edited edits doc) = lawful.content name doc) ∧
    (lawful.RestoresItems doc (edited edits doc) ↔
      lawful.types.Undone (lawful.state doc) (lawful.state (edited edits doc))) := by
  constructor
  · exact exists_restored_iff (P := fun state => ∀ name,
      (lawful.types.shown name state).map Prod.snd = lawful.content name doc)
  · rw [← lawful.types.shown_eq_iff (state_le_edited edits doc)]
    exact exists_restored_iff (P := fun state => ∀ name,
      lawful.types.shown name state = lawful.shown name doc)

def SnapshotYjs.written : SnapshotYjs where
  toYrs := Yjs.written.toYrs
  Snapshot := WrittenDoc
  snapshot doc := doc

def SnapshotYjs.lawfulWritten :
    LawfulSnapshots SnapshotYjs.written WrittenDoc Unit WrittenChar Char where
  toExactYrs := Yjs.lawfulWritten.toExactYrs
  types := WrittenDoc.shared.types
  stateAsUpdate_ne_nil := WrittenDoc.encode_ne_nil

def insertion (clientId : Nat) (text : String) : SnapshotYjs.lawfulWritten.Edit where
  apply doc := WrittenDoc.insert clientId doc 0 text
  grows _ := ⟨Finset.subset_union_left, le_rfl⟩

theorem content_insertion (clientId : Nat) (text : String) :
    SnapshotYjs.lawfulWritten.content () (LawfulSnapshots.edited [insertion clientId text]
      SnapshotYjs.written.new) = text.toList :=
  WrittenDoc.map_snd_visible_insert clientId text

theorem content_new : SnapshotYjs.lawfulWritten.content () SnapshotYjs.written.new = [] := by
  have hempty := WrittenDoc.insert_new 1 ""
  have hcontent := WrittenDoc.map_snd_visible_insert 1 ""
  rw [hempty] at hcontent
  exact hcontent

/-- The snapshot of an empty document brings back the text that has been written since. -/
theorem restoreSnapshot_keeps_insertion :
    ¬ SnapshotYjs.lawfulWritten.Restores SnapshotYjs.written.new
      (LawfulSnapshots.edited [insertion 1 "a"] SnapshotYjs.written.new) := by
  intro hrestores
  have hsame := (LawfulSnapshots.exists_restored_iff (P := fun state => ∀ name,
    (SnapshotYjs.lawfulWritten.types.shown name state).map Prod.snd =
      SnapshotYjs.lawfulWritten.content name SnapshotYjs.written.new)).mp hrestores ()
  rw [content_new] at hsame
  cases (content_insertion 1 "a").symm.trans hsame

end Osvauld.TypescriptPort
