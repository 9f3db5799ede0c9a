import Osvauld.CryptoUtils.CryptoUtils
import Osvauld.Data.Interference
import Osvauld.Persistance.RepositoryContext

namespace Osvauld.Services

open Osvauld.Core CryptoUtils Data Persistance

/-! What the services share: their surroundings, their errors and their steps.
Each call to a repository is one atomic step. -/

structure ServiceEnv where
  libraries : Libraries
  /-- The public key of the loaded certificate, when one is loaded. -/
  cert : Option String
  now : Int
  domain : String
  /-- How deep a proof chain is followed before its validation is given up as
  one that does not return. -/
  fuel : Nat

inductive ServiceError where
  | parseError (message : String)
  | defaultFolderNotFound
  | folderValidation (message : String)
  | insufficientPermissions
  | crypto (error : CryptoError)
  | repository (error : RepositoryError)
  /-- Not an error of the source: the call does not return. -/
  | diverged
deriving DecidableEq, Repr

abbrev Service (α : Type) := Program RepositoryContext ServiceError α

def query {α : Type} (read : RepositoryContext → Except RepositoryError α) :
    Service α :=
  Program.read fun ctx => (read ctx).mapError .repository

def update
    (write : RepositoryContext → Except RepositoryError RepositoryContext) :
    Service PUnit :=
  Program.write fun ctx => (write ctx).mapError .repository

def liftCrypto {α : Type} (result : CryptoResult α) : Service α :=
  Program.ofExcept (result.mapError .crypto)

def drawIds (env : ServiceEnv) (count : Nat) : Service (Nat → String) :=
  Program.atomically fun ctx =>
    (.ok fun index => env.libraries.uuid (ctx.drawnIds + index),
      { ctx with drawnIds := ctx.drawnIds + count })

def drawId (env : ServiceEnv) : Service String := do
  let ids ← drawIds env 1
  return ids 0

variable {allowed : RepositoryContext → RepositoryContext → RepositoryContext → Prop}
variable {reach : RepositoryContext → RepositoryContext → Prop}
variable [IsPreorder RepositoryContext reach] {since : RepositoryContext}
variable {α : Type} {good : α → RepositoryContext → Prop}

theorem query_follows {read : RepositoryContext → Except RepositoryError α}
    (hread : ∀ ctx value, reach since ctx → allowed since ctx ctx →
      read ctx = .ok value → good value ctx) :
    Program.Follows allowed reach good since (query read) :=
  .atomically_allowed (fun ctx _ _ => refl_of reach ctx)
    fun ctx value hctx hallowed hvalue =>
      hread ctx value hctx hallowed (mapError_eq_ok.mp hvalue)

theorem update_follows {good : PUnit → RepositoryContext → Prop}
    {write : RepositoryContext → Except RepositoryError RepositoryContext}
    (hwrite : ∀ ctx ctx', reach since ctx → allowed since ctx ctx' →
      write ctx = .ok ctx' → reach ctx ctx' ∧ good .unit ctx') :
    Program.Follows allowed reach good since (update write) := by
  refine .atomically_allowed (fun ctx hctx hallowed => ?_)
    fun ctx value hctx hallowed hvalue => ?_
  · dsimp only at hallowed ⊢
    cases hresult : write ctx with
    | ok ctx' =>
        rw [hresult] at hallowed
        exact (hwrite ctx ctx' hctx hallowed hresult).1
    | error error => exact refl_of reach ctx
  · dsimp only at hallowed hvalue ⊢
    cases hresult : write ctx with
    | ok ctx' =>
        rw [hresult] at hallowed
        exact (hwrite ctx ctx' hctx hallowed hresult).2
    | error error => simp [hresult, Except.mapError] at hvalue

section Keeps

variable {invariant : RepositoryContext → Prop} {good : α → Prop}

theorem query_keeps {read : RepositoryContext → Except RepositoryError α}
    (hread : ∀ ctx value, invariant ctx → read ctx = .ok value → good value) :
    Program.Keeps invariant good (query read) :=
  .read fun ctx value hctx hvalue => hread ctx value hctx (mapError_eq_ok.mp hvalue)

theorem query_keeps_any (read : RepositoryContext → Except RepositoryError α) :
    Program.Keeps invariant (fun _ => True) (query read) :=
  query_keeps fun _ _ _ _ => trivial

theorem update_keeps {write : RepositoryContext → Except RepositoryError RepositoryContext}
    (hwrite : ∀ ctx ctx', invariant ctx → write ctx = .ok ctx' → invariant ctx') :
    Program.Keeps invariant (fun _ => True) (update write) :=
  .write fun ctx ctx' hctx hupdate => hwrite ctx ctx' hctx (mapError_eq_ok.mp hupdate)

theorem liftCrypto_keeps {result : CryptoResult α}
    (hresult : ∀ value, result = .ok value → good value) :
    Program.Keeps invariant good (liftCrypto result) :=
  .ofExcept fun value hvalue => hresult value (mapError_eq_ok.mp hvalue)

theorem liftCrypto_keeps_any (result : CryptoResult α) :
    Program.Keeps invariant (fun _ => True) (liftCrypto result) :=
  liftCrypto_keeps fun _ _ => trivial

theorem drawIds_keeps
    (hdraw : ∀ ctx drawnIds, invariant ctx → invariant { ctx with drawnIds })
    (env : ServiceEnv) (count : Nat) :
    Program.Keeps invariant (fun _ => True) (drawIds env count) :=
  .atomically (fun ctx hctx => hdraw ctx _ hctx) fun _ _ _ _ => trivial

theorem drawId_keeps
    (hdraw : ∀ ctx drawnIds, invariant ctx → invariant { ctx with drawnIds })
    (env : ServiceEnv) : Program.Keeps invariant (fun _ => True) (drawId env) :=
  .bind (drawIds_keeps hdraw env 1) fun _ _ => .pure trivial

end Keeps

section Ends

variable {before after : RepositoryContext → Prop}

theorem update_ends {write : RepositoryContext → Except RepositoryError RepositoryContext}
    (hstill : ∀ ctx, before ctx → after ctx)
    (hwrite : ∀ ctx ctx', before ctx → write ctx = .ok ctx' → after ctx') :
    Program.Ends before after (update write) :=
  .write hstill fun ctx ctx' hctx hupdate =>
    hwrite ctx ctx' hctx (mapError_eq_ok.mp hupdate)

end Ends

end Osvauld.Services
