import Osvauld.Data.Run
import Osvauld.TypescriptPort.UcanTokens

namespace Osvauld.TypescriptPort

open Osvauld.Core Data

/-! The share links of a sandbox, from their creation to their revocation or cleanup. -/

namespace SharingManager

section Calls

variable (libraries : TokenLibraries)

/-- `now` is in milliseconds, and the token's times are in seconds. -/
def verifyShareLink (now : Nat) (shareLinkId : String) :
    ShareProgram (Except String (List Capability)) :=
  .read fun table =>
    match table.get shareLinkId with
    | none => .ok (.error "Share link not found")
    | some shareLink =>
        if shareLink.expiresAt < now then .ok (.error "Share link expired")
        else
          match verifyUCAN libraries (now / 1000) shareLink.token with
          | .error message => .ok (.error message)
          | .ok _ => .ok (.ok shareLink.capabilities)

def getDocumentCapabilities (now : Nat) (token documentId : String) : List Capability :=
  match verifyUCAN libraries now token with
  | .error _ => []
  | .ok payload =>
      let matching := payload.att.filter fun att =>
        att.resource.type = .all ∨ (att.resource.type = .document ∧
          (att.resource.id = none ∨ att.resource.id = some documentId))
      (matching.flatMap Attestation.capabilities).eraseDups

def cleanupLink (now : Int) (count : Nat) (link : ShareLink) : ShareProgram Nat :=
  if link.expiresAt < now then do
    BaseRepository.delete link.id
    return count + 1
  else return count

def cleanupExpiredLinks (now : Int) : ShareProgram Nat := do
  let allLinks ← BaseRepository.list
  allLinks.foldlM (cleanupLink now) 0

def shareDuration (request : ShareRequest) : Int :=
  (request.expiresIn.filter fun expiresIn => expiresIn ≠ 0).getD (7 * 24 * 60 * 60 * 1000)

/-- The link that is created for the key that the request is parsed to. -/
def sharedLink (id : String) (now : Int) (request : ShareRequest)
    (privateKey publicKey recipient : Bytes) : ShareLink :=
  { id
    documentId := request.documentId
    token := createUCAN libraries now privateKey publicKey recipient
      [⟨⟨.document, some request.documentId⟩, request.capabilities⟩]
      { expiresIn := some (shareDuration request), notBefore := none, proofs := [] }
    capabilities := request.capabilities
    expiresAt := now + shareDuration request
    createdBy := base64urlEncode publicKey
    createdAt := now }

inductive LinkCall
  | createShareLink (id : String) (now : Int) (request : ShareRequest)
      (privateKey publicKey : Bytes)
  | revokeShareLink (shareLinkId : String)
  | cleanupExpiredLinks (now : Int)

def LinkCall.step : LinkCall → Table ShareLink → Table ShareLink
  | .createShareLink id now request privateKey publicKey, table =>
      ((SharingManager.createShareLink libraries id now request privateKey
        publicKey).run table).2
  | .revokeShareLink shareLinkId, table =>
      ((SharingManager.revokeShareLink shareLinkId).run table).2
  | .cleanupExpiredLinks now, table => ((SharingManager.cleanupExpiredLinks now).run table).2

def LinkCall.Creates (call : LinkCall) (table : Table ShareLink) (link : ShareLink) : Prop :=
  match call with
  | .createShareLink id now request privateKey publicKey =>
      ((SharingManager.createShareLink libraries id now request privateKey
        publicKey).run table).1 = .ok link
  | _ => False

def LinkCall.Ends (call : LinkCall) (link : ShareLink) : Prop :=
  match call with
  | .createShareLink .. => False
  | .revokeShareLink shareLinkId => link.id = shareLinkId
  | .cleanupExpiredLinks now => link.expiresAt < now

/-- The calls create the link, and none after that ends it. -/
def Lasting (calls : List LinkCall) (link : ShareLink) : Prop :=
  ∃ before call after, calls = before ++ call :: after ∧
    call.Creates libraries (run (LinkCall.step libraries) Table.empty before) link ∧
    ∀ later ∈ after, ¬ later.Ends link

end Calls

variable {libraries : TokenLibraries} {table : Table ShareLink} {link : ShareLink}

theorem createShareLink_run (id : String) (now : Int) (request : ShareRequest)
    (privateKey publicKey recipient : Bytes)
    (hrecipient : base64urlDecode request.recipientPublicKey = .ok recipient) :
    (createShareLink libraries id now request privateKey publicKey).run table =
      match table.add (sharedLink libraries id now request privateKey publicKey recipient) with
      | .ok after =>
          (.ok (sharedLink libraries id now request privateKey publicKey recipient), after)
      | .error error => (.error error, table) := by
  rw [createShareLink, parsePublicKey, hrecipient]
  simp only [Program.run_bind, Program.run_ofExcept, Program.andThen_ok, BaseRepository.create,
    Program.run_write]
  unfold sharedLink shareDuration
  generalize ShareLink.mk _ _ _ _ _ _ _ = created
  cases table.add created <;> rfl

/-- The cleanup deletes by id what it has listed. -/
theorem mem_cleanup {now : Int} (links : List ShareLink) (count : Nat) (table : Table ShareLink) :
    link ∈ ((links.foldlM (cleanupLink now) count).run table).2.rows ↔
      link ∈ table.rows ∧ ∀ listed ∈ links, listed.expiresAt < now → link.id ≠ listed.id := by
  induction links generalizing count table with
  | nil => simp
  | cons listed rest ih =>
      rw [List.foldlM_cons, Program.run_bind, cleanupLink, List.forall_mem_cons]
      by_cases hexpired : listed.expiresAt < now
      · have hdelete : (BaseRepository.delete listed.id >>= fun _ =>
            (pure (count + 1) : ShareProgram Nat)).run table =
              (.ok (count + 1), table.delete listed.id) := by
          rw [Program.run_bind, BaseRepository.delete, Program.run_write]
          rfl
        rw [if_pos hexpired, hdelete, Program.andThen_ok, ih, Table.mem_delete, and_assoc]
        simp only [hexpired, true_implies]
        rfl
      · simp [hexpired, ih]

theorem mem_step (call : LinkCall) : link ∈ (call.step libraries table).rows ↔
    call.Creates libraries table link ∨ link ∈ table.rows ∧ ¬ call.Ends link := by
  cases call with
  | createShareLink id now request privateKey publicKey =>
      dsimp only [LinkCall.step, LinkCall.Creates, LinkCall.Ends]
      cases hrecipient : base64urlDecode request.recipientPublicKey with
      | error message => simp [createShareLink, parsePublicKey, hrecipient]
      | ok recipient =>
          rw [createShareLink_run id now request privateKey publicKey recipient hrecipient]
          cases hadd : table.add (sharedLink libraries id now request privateKey publicKey
            recipient) with
          | error error => simp
          | ok after => simp [Table.mem_add hadd, eq_comm]
  | revokeShareLink shareLinkId =>
      dsimp only [LinkCall.step, LinkCall.Creates, LinkCall.Ends, revokeShareLink]
      rw [BaseRepository.delete, Program.run_write, false_or]
      exact Table.mem_delete
  | cleanupExpiredLinks now =>
      dsimp only [LinkCall.step, LinkCall.Creates, LinkCall.Ends, cleanupExpiredLinks]
      rw [Program.run_bind, BaseRepository.list, Program.run_read, Program.andThen_ok, mem_cleanup,
        false_or]
      apply and_congr_right
      intro hlink
      constructor
      · intro hkept hexpired
        exact hkept link hlink hexpired rfl
      · intro hcurrent listed hlisted hexpired hid
        rw [Table.eq_of_id hlink hlisted hid] at hcurrent
        exact hcurrent hexpired

theorem lasting_concat (calls : List LinkCall) (last : LinkCall) :
    Lasting libraries (calls ++ [last]) link ↔
      last.Creates libraries (run (LinkCall.step libraries) Table.empty calls) link ∨
        Lasting libraries calls link ∧ ¬ last.Ends link := by
  constructor
  · rintro ⟨before, call, after, hcalls, hcreates, hafter⟩
    rcases List.eq_nil_or_concat after with rfl | ⟨rest, final, rfl⟩
    · obtain ⟨rfl, hlast⟩ := List.append_inj' hcalls rfl
      cases hlast
      exact .inl hcreates
    · rw [List.concat_eq_append, ← List.cons_append, ← List.append_assoc] at hcalls
      obtain ⟨rfl, hlast⟩ := List.append_inj' hcalls rfl
      cases hlast
      rw [List.concat_eq_append] at hafter
      obtain ⟨hrest, hfinal⟩ := List.forall_mem_append.mp hafter
      exact .inr ⟨⟨before, call, rest, rfl, hcreates, hrest⟩, hfinal last List.mem_cons_self⟩
  · rintro (hcreates | ⟨⟨before, call, after, rfl, hcreates, hafter⟩, hlast⟩)
    · exact ⟨calls, last, [], rfl, hcreates, by simp⟩
    · refine ⟨before, call, after ++ [last], by simp, hcreates, fun later hlater => ?_⟩
      rcases List.mem_append.mp hlater with hlater | hlater
      · exact hafter later hlater
      · rwa [List.mem_singleton.mp hlater]

theorem mem_run (calls : List LinkCall) :
    link ∈ (run (LinkCall.step libraries) Table.empty calls).rows ↔
      Lasting libraries calls link := by
  induction calls using List.reverseRecOn with
  | nil => simp [Table.empty, Lasting]
  | append_singleton calls last ih => rw [run_concat, mem_step, ih, lasting_concat]

theorem mem_getDocumentCapabilities (now : Nat) (token documentId : String)
    (capability : Capability) :
    capability ∈ getDocumentCapabilities libraries now token documentId ↔
      verifyAccess libraries now token documentId capability = true := by
  unfold getDocumentCapabilities verifyAccess
  cases verifyUCAN libraries now token with
  | error message => simp
  | ok payload => simp [hasCapability, List.mem_eraseDups, and_assoc]

/-- What the token of a share link says. -/
def sharePayload (now : Int) (request : ShareRequest) (publicKey recipient : Bytes) :
    UcanPayload :=
  ucanPayload now publicKey recipient
    [⟨⟨.document, some request.documentId⟩, request.capabilities⟩]
    { expiresIn := some (shareDuration request), notBefore := none, proofs := [] }

theorem shareDuration_ne_zero (request : ShareRequest) : shareDuration request ≠ 0 := by
  unfold shareDuration
  cases hexpiresIn : request.expiresIn.filter fun expiresIn => expiresIn ≠ 0 with
  | none => decide
  | some expiresIn => simpa using (Option.filter_eq_some_iff.mp hexpiresIn).2

theorem validAt_sharePayload (now : Int) (request : ShareRequest)
    (publicKey recipient : Bytes) (later : Nat) :
    ValidAt (sharePayload now request publicKey recipient) later ↔
      later ≤ (now + shareDuration request) / 1000 := by
  have hexp : (sharePayload now request publicKey recipient).exp =
      ((now + shareDuration request) / 1000 : Int) := by
    simp [sharePayload, ucanPayload, Option.filter, shareDuration_ne_zero]
  have hnbf : (sharePayload now request publicKey recipient).nbf = none := rfl
  rw [ValidAt, hexp, hnbf, ← Rat.intCast_natCast, Rat.intCast_le_intCast]
  simp

theorem verifyUCAN_signed_eq {privateKey publicKey : Bytes} {payload accepted : UcanPayload}
    (laws : TokenLaws libraries privateKey publicKey payload) {now : Nat}
    (haccepted : verifyUCAN libraries now (signingInput libraries payload ++ "." ++
      base64urlEncode (signatureOf libraries privateKey payload)) = .ok accepted) :
    accepted = payload := by
  rw [verifyUCAN, signingInput, splitOn_token] at haccepted
  simp only [if_neg laws.parts, base64urlDecode_encode, bind, Except.bind, laws.readHeader,
    laws.readPayload] at haccepted
  repeat' split at haccepted
  all_goals cases haccepted
  rfl

def readRequest : ShareRequest :=
  { documentId := "doc-1", recipientPublicKey := "Aw", capabilities := [.read]
    expiresIn := some 3600000 }

end SharingManager

end Osvauld.TypescriptPort
