import Osvauld.Data.Run
import Osvauld.TypescriptPort.Accounts

namespace Osvauld.TypescriptPort

open Osvauld.Core Data

/-! The life of accounts: what users have been given at registration, and what later
calls still give them. -/

/-- The libraries do what they are for: what is encrypted is decrypted with its key and
with no other one, keys differ with the password or the salt, and a public key of BIP32
is not as long as one of Ed25519. -/
structure LawfulAccounts (crypto : AccountCrypto) : Prop where
  decrypt_encrypt : ∀ data key iv, crypto.decrypt (crypto.encrypt data key iv) key iv = .ok data
  decrypt_other : ∀ data key iv other, other ≠ key →
    ∃ message, crypto.decrypt (crypto.encrypt data key iv) other iv = .error message
  deriveKey_injective : ∀ password salt password' salt',
    crypto.deriveKey password salt = crypto.deriveKey password' salt' →
      password = password' ∧ salt = salt'
  ed25519_length : ∀ privateKey, (crypto.ed25519PublicKey privateKey).length = 32
  bip32_length : ∀ seed path derived, crypto.deriveKeyPair seed path = .ok derived →
    derived.publicKey.length = 33

structure Account where
  username : String
  mnemonic : String
  signingKey : KeyPair
  password : String
  salt : Bytes
  registered : String × Bytes

structure AccountWorld where
  users : Table User
  accounts : List Account

inductive AccountCall
  | register (draws : AccountDraws) (now : Date) (username password : String)
      (email : Option String)
  | login (username password : String)
  | changePassword (newSalt newIv : Bytes) (now : Date)
      (username oldPassword newPassword : String)
  | recoverAccount (mnemonic : String) (path : Option String)

variable (crypto : AccountCrypto)

open AuthenticationManager in
def changeStoredPassword (newSalt newIv : Bytes) (now : Date)
    (username oldPassword newPassword : String) : UserProgram User := do
  let users ← BaseRepository.list
  match users.find? fun user => user.username = username with
  | none => .fail (.error "Invalid username or password")
  | some user =>
      let changed ← Program.ofExcept
        (changePassword crypto newSalt newIv oldPassword newPassword user)
      updateUser now user.id (storeChangedPassword changed)

def registeredAccount (draws : AccountDraws) (username password : String) : Account :=
  let account := createAccount crypto draws username password
  { username
    mnemonic := account.mnemonic
    signingKey := account.signingKey
    password
    salt := account.salt
    registered := (password, account.salt) }

def Account.changed (username password : String) (salt : Bytes) (account : Account) :
    Account :=
  if account.username = username then { account with password, salt } else account

namespace AccountWorld

def empty : AccountWorld := ⟨Table.empty, []⟩

def afterRegister (draws : AccountDraws) (username password : String) (world : AccountWorld) :
    Except PortError (User × AuthSession) × Table User → AccountWorld
  | (.ok _, users) => ⟨users, world.accounts ++ [registeredAccount crypto draws username password]⟩
  | (.error _, users) => ⟨users, world.accounts⟩

def afterChange (newSalt : Bytes) (username newPassword : String) (world : AccountWorld) :
    Except PortError User × Table User → AccountWorld
  | (.ok _, users) => ⟨users, world.accounts.map (Account.changed username newPassword newSalt)⟩
  | (.error _, users) => ⟨users, world.accounts⟩

def step : AccountCall → AccountWorld → AccountWorld
  | .register draws now username password email, world =>
      world.afterRegister crypto draws username password
        ((AuthenticationManager.register crypto draws now username password email).run world.users)
  | .login username password, world =>
      { world with users := ((AuthenticationManager.login crypto username password).run world.users).2 }
  | .changePassword newSalt newIv now username oldPassword newPassword, world =>
      world.afterChange newSalt username newPassword
        ((changeStoredPassword crypto newSalt newIv now username oldPassword newPassword).run
          world.users)
  | .recoverAccount _ _, world => world

end AccountWorld

/-- What is expected of a call: a login with the account's password gives the key pair of
its registration, one with any other password is rejected, and the mnemonic of the
registration gives that key pair as well. -/
def AccountCall.Meets (world : AccountWorld) : AccountCall → Prop
  | .login username password => ∀ account ∈ world.accounts, account.username = username →
      (password = account.password → ∃ user,
        ((AuthenticationManager.login crypto username password).run world.users).1 =
          .ok (user, ⟨account.signingKey.privateKey, account.signingKey.publicKey⟩)) ∧
      (password ≠ account.password → ∃ error,
        ((AuthenticationManager.login crypto username password).run world.users).1 =
          .error error)
  | .recoverAccount mnemonic path => ∀ account ∈ world.accounts, account.mnemonic = mnemonic →
      ∃ derived, TypescriptPort.recoverAccount crypto mnemonic path = .ok derived ∧
        (⟨derived.publicKey, derived.privateKey⟩ : KeyPair) = account.signingKey
  | _ => True

/-- Before the call: the password that a login gives is still the one of the
registration, with its salt, if it is the account's password at all; and a mnemonic to
recover from is that of no account. -/
def AccountCall.KeepsRegistration (world : AccountWorld) : AccountCall → Prop
  | .login username password => ∀ account ∈ world.accounts, account.username = username →
      password = account.password → (account.password, account.salt) = account.registered
  | .recoverAccount mnemonic _ => ∀ account ∈ world.accounts, account.mnemonic ≠ mnemonic
  | _ => True

structure Stores (account : Account) (user : User) : Prop where
  username : user.username = account.username
  publicKey : user.publicKey = account.signingKey.publicKey
  pair : account.signingKey.publicKey = crypto.ed25519PublicKey account.signingKey.privateKey
  privateKey : ∃ iv, user.metadata.privateKeyIV = Base64.encode iv ∧
    user.encryptedPrivateKey = some (crypto.encrypt account.signingKey.privateKey
      (crypto.deriveKey account.registered.1 account.registered.2) iv)
  mnemonic : ∃ data iv, user.metadata.mnemonicIV = Base64.encode iv ∧
    user.metadata.encryptedMnemonic = Base64.encode (crypto.encrypt data
      (crypto.deriveKey account.password account.salt) iv)
  salt : user.metadata.passwordSalt = Base64.encode account.salt

structure AccountWorld.StoresAll (world : AccountWorld) : Prop where
  stored : ∀ account ∈ world.accounts, ∃ user ∈ world.users.rows, Stores crypto account user
  usernames : (world.users.rows.map User.username).Nodup

variable {crypto}

@[simp] theorem fromBase64_encode (bytes : Bytes) : fromBase64 (Base64.encode bytes) = .ok bytes := by
  rw [fromBase64, Base64.decode_encode]

variable {user : User}

theorem find_username {users : List User} (hnodup : (users.map User.username).Nodup)
    (huser : user ∈ users) :
    (users.find? fun other => other.username = user.username) = some user := by
  cases hfind : users.find? fun other => other.username = user.username with
  | none =>
      have hall := List.find?_eq_none.mp hfind user huser
      simp at hall
  | some other =>
      have hother := List.mem_of_find?_eq_some hfind
      have hname : other.username = user.username := by simpa using List.find?_some hfind
      rw [List.inj_on_of_nodup_map hnodup hother huser hname]

section Login

variable (hlaw : LawfulAccounts crypto) {account : Account} {user : User}
variable (hstores : Stores crypto account user)
include hlaw hstores

theorem openMnemonic_ok : ∃ data,
    openMnemonic crypto account.password user.metadata = .ok data := by
  obtain ⟨data, iv, hiv, hciphertext⟩ := hstores.mnemonic
  refine ⟨data, ?_⟩
  simp [openMnemonic, hstores.salt, hiv, hciphertext, decrypt, hlaw.decrypt_encrypt, bind,
    Except.bind]

variable {password : String}

theorem openMnemonic_error (hpassword : password ≠ account.password) :
    ∃ error, openMnemonic crypto password user.metadata = .error error := by
  obtain ⟨data, iv, hiv, hciphertext⟩ := hstores.mnemonic
  have hkey : crypto.deriveKey password account.salt ≠
      crypto.deriveKey account.password account.salt :=
    fun heq => hpassword (hlaw.deriveKey_injective _ _ _ _ heq).1
  obtain ⟨message, hmessage⟩ := hlaw.decrypt_other data _ iv _ hkey
  refine ⟨.error ("Decryption failed: " ++ message), ?_⟩
  simp [openMnemonic, hstores.salt, hiv, hciphertext, decrypt, hmessage, bind, Except.bind]

theorem openPrivateKey_ok_iff {data : Bytes} :
    AuthenticationManager.openPrivateKey crypto account.password user = .ok data ↔
      data = account.signingKey.privateKey ∧
        (account.password, account.salt) = account.registered := by
  obtain ⟨iv, hiv, hciphertext⟩ := hstores.privateKey
  by_cases hsame : (account.password, account.salt) = account.registered
  · have hkey : crypto.deriveKey account.password account.salt =
        crypto.deriveKey account.registered.1 account.registered.2 := by rw [← hsame]
    simp [AuthenticationManager.openPrivateKey, hstores.salt, hiv, hciphertext, decrypt, hkey,
      hlaw.decrypt_encrypt, hsame, eq_comm, bind, Except.bind]
  · have hkey : crypto.deriveKey account.password account.salt ≠
        crypto.deriveKey account.registered.1 account.registered.2 := by
      intro heq
      obtain ⟨hpassword, hsalt⟩ := hlaw.deriveKey_injective _ _ _ _ heq
      exact hsame (Prod.ext hpassword hsalt)
    obtain ⟨message, hmessage⟩ := hlaw.decrypt_other account.signingKey.privateKey _ iv _ hkey
    simp [AuthenticationManager.openPrivateKey, hstores.salt, hiv, hciphertext, decrypt,
      hmessage, hsame, bind, Except.bind]

theorem mnemonicLogin_ok : ∃ pair,
    mnemonicLogin crypto account.username account.password user = .ok pair := by
  obtain ⟨data, hopen⟩ := openMnemonic_ok hlaw hstores
  refine ⟨⟨user.publicKey, user.encryptedPrivateKey.getD (List.replicate 32 0)⟩, ?_⟩
  simp [mnemonicLogin, hstores.username, hstores.salt, hopen]

theorem mnemonicLogin_error (hpassword : password ≠ account.password) :
    mnemonicLogin crypto account.username password user =
      .error (.error "Invalid credentials") := by
  obtain ⟨error, hopen⟩ := openMnemonic_error hlaw hstores hpassword
  simp [mnemonicLogin, hstores.username, hstores.salt, hopen]

variable {users : Table User} (huser : user ∈ users.rows)
variable (hnodup : (users.rows.map User.username).Nodup)
include huser hnodup

open AuthenticationManager in
theorem login_current_iff :
    (∃ found, ((login crypto account.username account.password).run users).1 =
      .ok (found, ⟨account.signingKey.privateKey, account.signingKey.publicKey⟩)) ↔
    (account.password, account.salt) = account.registered := by
  obtain ⟨pair, hmnemonic⟩ := mnemonicLogin_ok hlaw hstores
  have hfind := find_username hnodup huser
  rw [hstores.username] at hfind
  have hopen := @openPrivateKey_ok_iff _ hlaw _ _ hstores
  cases hkey : openPrivateKey crypto account.password user with
  | error error =>
      have hnot : ¬ (account.password, account.salt) = account.registered := by
        intro hsame
        have hok := hopen.mpr ⟨rfl, hsame⟩
        rw [hkey] at hok
        cases hok
      simp [login, BaseRepository.list, hfind, hmnemonic, hkey, hnot]
  | ok privateKey =>
      obtain ⟨rfl, hsame⟩ := hopen.mp hkey
      simp [login, BaseRepository.list, hfind, hmnemonic, hkey, hsame, hstores.publicKey]

open AuthenticationManager in
theorem login_other (hpassword : password ≠ account.password) :
    ((login crypto account.username password).run users).1 =
      .error (.error "Invalid credentials") := by
  have hfind := find_username hnodup huser
  rw [hstores.username] at hfind
  simp [login, BaseRepository.list, hfind, mnemonicLogin_error hlaw hstores hpassword]

omit huser hnodup in
theorem recoverAccount_ne {mnemonic : String} {path : Option String}
    {derived : DerivedKeyPair} (hderived : recoverAccount crypto mnemonic path = .ok derived) :
    (⟨derived.publicKey, derived.privateKey⟩ : KeyPair) ≠ account.signingKey := by
  intro heq
  have hlength : derived.publicKey.length = 33 := by
    unfold recoverAccount recoverFromMnemonic at hderived
    split at hderived
    · split at hderived
      · next found hfound =>
          cases hderived
          exact hlaw.bip32_length _ _ _ hfound
      · cases hderived
    · cases hderived
  have hpublic : derived.publicKey = account.signingKey.publicKey := congrArg KeyPair.publicKey heq
  rw [hpublic, hstores.pair, hlaw.ed25519_length] at hlength
  omega

end Login

theorem meets_iff (hlaw : LawfulAccounts crypto) {world : AccountWorld}
    (hworld : world.StoresAll crypto) (call : AccountCall) :
    call.Meets crypto world ↔ call.KeepsRegistration world := by
  cases call with
  | register => exact Iff.rfl
  | changePassword => exact Iff.rfl
  | login username password =>
      refine forall₂_congr fun account haccount => ?_
      obtain ⟨user, huser, hstores⟩ := hworld.stored account haccount
      refine imp_congr_right ?_
      rintro rfl
      have hcurrent := login_current_iff hlaw hstores huser hworld.usernames
      constructor
      · rintro ⟨hmeets, -⟩ rfl
        exact hcurrent.mp (hmeets rfl)
      · refine fun hsame => ⟨?_, fun hpassword =>
          ⟨_, login_other hlaw hstores huser hworld.usernames hpassword⟩⟩
        rintro rfl
        exact hcurrent.mpr (hsame rfl)
  | recoverAccount mnemonic path =>
      refine forall₂_congr fun account haccount => ?_
      obtain ⟨user, -, hstores⟩ := hworld.stored account haccount
      refine ⟨fun hmeets hmnemonic => ?_, fun hne hmnemonic => absurd hmnemonic hne⟩
      obtain ⟨derived, hderived, heq⟩ := hmeets hmnemonic
      exact recoverAccount_ne hlaw hstores hderived heq

def registeredUser (crypto : AccountCrypto) (draws : AccountDraws) (now : Date)
    (username password : String) (email : Option String) : User :=
  let account := createAccount crypto draws username password
  AuthenticationManager.newUser account
    (encrypt crypto account.signingKey.privateKey (crypto.deriveKey password account.salt)
      draws.privateKeyIv) now email

theorem stores_registeredUser (draws : AccountDraws) (now : Date) (username password : String)
    (email : Option String) :
    Stores crypto (registeredAccount crypto draws username password)
      (registeredUser crypto draws now username password email) where
  username := rfl
  publicKey := rfl
  pair := rfl
  privateKey := ⟨_, rfl, rfl⟩
  mnemonic := ⟨_, _, rfl, rfl⟩
  salt := rfl

open AuthenticationManager Program in
theorem register_cases (draws : AccountDraws) (now : Date) (username password : String)
    (email : Option String) (users : Table User) :
    (∃ after, users.add (registeredUser crypto draws now username password email) = .ok after ∧
      (∀ other ∈ users.rows, other.username ≠ username) ∧
      (register crypto draws now username password email).run users =
        (.ok (registeredUser crypto draws now username password email,
          ⟨draws.privateKey, crypto.ed25519PublicKey draws.privateKey⟩), after)) ∨
    ∃ error, (register crypto draws now username password email).run users =
      (.error error, users) := by
  have hlist : (BaseRepository.list : UserProgram (List User)).run users =
      (.ok users.rows, users) := rfl
  by_cases htaken : users.rows.any fun user => user.username = username
  · refine .inr ⟨.error "Username already exists", ?_⟩
    rw [register, run_bind, hlist, andThen_ok, if_pos htaken, run_fail]
  · have hfree : ∀ other ∈ users.rows, other.username ≠ username := by simpa using htaken
    cases hadd : users.add (registeredUser crypto draws now username password email) with
    | ok after =>
        have hcreate : (BaseRepository.create (registeredUser crypto draws now username password
            email)).run users =
              (.ok (registeredUser crypto draws now username password email), after) := by
          simp [BaseRepository.create, run_write, hadd]
        refine .inl ⟨after, rfl, hfree, ?_⟩
        rw [register, run_bind, hlist, andThen_ok, if_neg htaken]
        exact (run_bind _ _ _).trans (by rw [← registeredUser, hcreate]; rfl)
    | error error =>
        have hcreate : (BaseRepository.create (registeredUser crypto draws now username password
            email)).run users = (.error error, users) := by
          simp [BaseRepository.create, run_write, hadd]
        refine .inr ⟨error, ?_⟩
        rw [register, run_bind, hlist, andThen_ok, if_neg htaken]
        exact (run_bind _ _ _).trans (by rw [← registeredUser, hcreate]; rfl)

def changedUser (now : Date) (changed : EncryptedData × Bytes) (user : User) : User :=
  { storeChangedPassword changed user with
    id := user.id, createdAt := user.createdAt, updatedAt := now }

theorem changePassword_of_ok {oldPassword : String} {data : Bytes}
    (hopen : openMnemonic crypto oldPassword user.metadata = .ok data) (newSalt newIv : Bytes)
    (newPassword : String) :
    changePassword crypto newSalt newIv oldPassword newPassword user =
      .ok (encrypt crypto (encodeText (crypto.decodeText data))
        (crypto.deriveKey newPassword newSalt) newIv, newSalt) := by
  simp [changePassword, hopen, bind, Except.bind, pure, Except.pure]

theorem changePassword_of_error {oldPassword : String} {error : PortError}
    (hopen : openMnemonic crypto oldPassword user.metadata = .error error) (newSalt newIv : Bytes)
    (newPassword : String) :
    changePassword crypto newSalt newIv oldPassword newPassword user = .error error := by
  simp [changePassword, hopen, bind, Except.bind]

open AuthenticationManager Program in
theorem changeStoredPassword_cases (newSalt newIv : Bytes) (now : Date)
    (username oldPassword newPassword : String) (users : Table User) :
    (∃ user ∈ users.rows, user.username = username ∧ ∃ data updated,
      (changeStoredPassword crypto newSalt newIv now username oldPassword newPassword).run users =
        (.ok updated, users.update user.id (changedUser now
          (encrypt crypto data (crypto.deriveKey newPassword newSalt) newIv, newSalt) user))) ∨
    ∃ error, (changeStoredPassword crypto newSalt newIv now username oldPassword
      newPassword).run users = (.error error, users) := by
  have hlist : (BaseRepository.list : UserProgram (List User)).run users =
      (.ok users.rows, users) := rfl
  unfold changeStoredPassword
  rw [run_bind, hlist, andThen_ok]
  cases hfind : users.rows.find? fun user => user.username = username with
  | none => exact .inr ⟨_, rfl⟩
  | some user =>
      have hmem := List.mem_of_find?_eq_some hfind
      have hname : user.username = username := by simpa using List.find?_some hfind
      dsimp only
      rw [run_bind]
      cases hopen : openMnemonic crypto oldPassword user.metadata with
      | error error =>
          refine .inr ⟨error, ?_⟩
          rw [changePassword_of_error hopen, run_ofExcept, andThen_error]
      | ok data =>
          have hget : users.get user.id = some user := Table.get_of_mem hmem
          have hread : (BaseRepository.get user.id).run users = (.ok user, users) := by
            simp [BaseRepository.get, hget]
          have hupdated : ∀ record : User, ∃ updated,
              (BaseRepository.update user.id record).run users =
                (.ok updated, users.update user.id record) := by
            intro record
            have hafter : (users.update user.id record).get user.id =
                some (Entity.assign user record) :=
              Table.get_eq_some_iff.mpr ⟨Table.mem_update.mpr (.inl ⟨user, hmem, rfl, rfl⟩),
                Entity.id_assign user record⟩
            exact ⟨Entity.assign user record, by
              simp [BaseRepository.update, BaseRepository.get, run_write, hafter]⟩
          obtain ⟨updated, hupdate⟩ := hupdated (changedUser now
            (encrypt crypto (encodeText (crypto.decodeText data))
              (crypto.deriveKey newPassword newSalt) newIv, newSalt) user)
          refine .inl ⟨user, hmem, hname, encodeText (crypto.decodeText data), updated, ?_⟩
          rw [changePassword_of_ok hopen, run_ofExcept, andThen_ok, updateUser, run_bind, hread, andThen_ok]
          exact hupdate

theorem Stores.changed {account : Account} (hstores : Stores crypto account user) (now : Date)
    (data newSalt newIv : Bytes) (newPassword : String) :
    Stores crypto (account.changed user.username newPassword newSalt) (changedUser now
      (encrypt crypto data (crypto.deriveKey newPassword newSalt) newIv, newSalt) user) := by
  rw [Account.changed, if_pos hstores.username.symm]
  exact
    { username := hstores.username
      publicKey := hstores.publicKey
      pair := hstores.pair
      privateKey := hstores.privateKey
      mnemonic := ⟨data, newIv, rfl, rfl⟩
      salt := rfl }

namespace AccountWorld

theorem StoresAll.register {world : AccountWorld} (hworld : world.StoresAll crypto)
    (draws : AccountDraws) (now : Date) (username password : String) (email : Option String) :
    StoresAll crypto
      (step crypto (.register draws now username password email) world) := by
  rw [step]
  obtain ⟨after, hadd, hfree, hrun⟩ | ⟨error, hrun⟩ :=
    @register_cases crypto draws now username password email world.users
  · rw [hrun, afterRegister]
    refine ⟨fun account haccount => ?_, ?_⟩
    · rcases List.mem_append.mp haccount with hold | hnew
      · obtain ⟨user, huser, hstores⟩ := hworld.stored account hold
        exact ⟨user, (Table.mem_add hadd).mpr (.inr huser), hstores⟩
      · obtain rfl := List.mem_singleton.mp hnew
        exact ⟨_, (Table.mem_add hadd).mpr (.inl rfl),
          stores_registeredUser draws now username password email⟩
    · have hperm := (List.perm_orderedInsert
        (fun a b : User => Entity.id a ≤ Entity.id b)
        (registeredUser crypto draws now username password email) world.users.rows).map User.username
      rw [← (Table.add_eq_ok_iff.mp hadd).2] at hperm
      rw [hperm.nodup_iff, List.map_cons, List.nodup_cons]
      refine ⟨fun hmem => ?_, hworld.usernames⟩
      obtain ⟨other, hother, hname⟩ := List.mem_map.mp hmem
      exact hfree other hother hname
  · rw [hrun, afterRegister]
    exact hworld

theorem StoresAll.changePassword {world : AccountWorld} (hworld : world.StoresAll crypto)
    (newSalt newIv : Bytes) (now : Date) (username oldPassword newPassword : String) :
    StoresAll crypto
      (step crypto (.changePassword newSalt newIv now username oldPassword newPassword) world) := by
  rw [step]
  obtain ⟨user, huser, rfl, data, updated, hrun⟩ | ⟨error, hrun⟩ :=
    @changeStoredPassword_cases crypto newSalt newIv now username oldPassword newPassword
      world.users
  · rw [hrun, afterChange]
    refine ⟨fun account haccount => ?_, ?_⟩
    · obtain ⟨before, hbefore, rfl⟩ := List.mem_map.mp haccount
      obtain ⟨stored, hstored, hstores⟩ := hworld.stored before hbefore
      by_cases hsame : stored.username = user.username
      · obtain rfl := List.inj_on_of_nodup_map hworld.usernames hstored huser hsame
        exact ⟨_, Table.mem_update.mpr (.inl ⟨stored, hstored, rfl, rfl⟩),
          hstores.changed now data newSalt newIv newPassword⟩
      · have hid : stored.id ≠ user.id :=
          fun heq => hsame (Table.eq_of_id hstored huser heq ▸ rfl)
        have hother : before.username ≠ user.username := hstores.username ▸ hsame
        rw [Account.changed, if_neg hother]
        exact ⟨stored, Table.mem_update.mpr (.inr ⟨hstored, hid⟩), hstores⟩
    · have hnames : ((world.users.update user.id (changedUser now
          (encrypt crypto data (crypto.deriveKey newPassword newSalt) newIv, newSalt)
            user)).rows.map User.username) = world.users.rows.map User.username := by
        rw [Table.update, List.map_map]
        refine List.map_congr_left fun other hother => ?_
        by_cases hid : Entity.id other = user.id
        · obtain rfl := Table.eq_of_id hother huser hid
          simp only [Function.comp_apply, hid, if_true]
          rfl
        · simp only [Function.comp_apply, hid, if_false]
      rw [hnames]
      exact hworld.usernames
  · rw [hrun, afterChange]
    exact hworld

theorem login_users (username password : String) (users : Table User) :
    ((AuthenticationManager.login crypto username password).run users).2 = users := by
  simp only [AuthenticationManager.login, Program.run_bind, BaseRepository.list,
    Program.run_read, Program.andThen_ok]
  split
  · rfl
  · next user _ =>
      cases mnemonicLogin crypto username password user with
      | error error => rfl
      | ok pair =>
          cases AuthenticationManager.openPrivateKey crypto password user with
          | error error => rfl
          | ok privateKey => rfl

theorem StoresAll.step {world : AccountWorld} (hworld : world.StoresAll crypto)
    (call : AccountCall) : StoresAll crypto (AccountWorld.step crypto call world) := by
  cases call with
  | register draws now username password email =>
      exact hworld.register draws now username password email
  | login username password =>
      rw [AccountWorld.step, login_users]
      exact hworld
  | changePassword newSalt newIv now username oldPassword newPassword =>
      exact hworld.changePassword newSalt newIv now username oldPassword newPassword
  | recoverAccount mnemonic path => exact hworld

theorem storesAll_run (calls : List AccountCall) :
    StoresAll crypto (run (AccountWorld.step crypto) AccountWorld.empty calls) := by
  induction calls using List.reverseRecOn with
  | nil =>
      refine ⟨fun account haccount => ?_, List.nodup_nil⟩
      cases haccount
  | append_singleton earlier call ih =>
      rw [run_concat]
      exact ih.step call

end AccountWorld

/-- Whatever calls there have been: the next one does what is expected of it exactly when
the password it logs in with, if it is the account's, has not been changed since the
registration, and when it does not recover an account. -/
theorem account_call_meets_iff (hlaw : LawfulAccounts crypto) (calls : List AccountCall)
    (call : AccountCall) :
    call.Meets crypto (run (AccountWorld.step crypto) AccountWorld.empty calls) ↔
      call.KeepsRegistration (run (AccountWorld.step crypto) AccountWorld.empty calls) :=
  meets_iff hlaw (AccountWorld.storesAll_run calls) call

def framed (bytes : Bytes) : Bytes := List.replicate bytes.length 1 ++ 0 :: bytes

theorem replicate_prefix {first second : Nat} {rest rest' : Bytes}
    (hpre : List.replicate first (1 : UInt8) ++ 0 :: rest <+:
      List.replicate second 1 ++ 0 :: rest') : first = second ∧ rest <+: rest' := by
  induction first generalizing second with
  | zero =>
      cases second with
      | zero => exact ⟨rfl, (List.cons_prefix_cons.mp hpre).2⟩
      | succ second => exact absurd (List.cons_prefix_cons.mp hpre).1 (by decide)
  | succ first ih =>
      cases second with
      | zero => exact absurd (List.cons_prefix_cons.mp hpre).1 (by decide)
      | succ second =>
          obtain ⟨hsame, hrest⟩ := ih (List.cons_prefix_cons.mp hpre).2
          exact ⟨congrArg _ hsame, hrest⟩

theorem framed_prefix {bytes other rest : Bytes}
    (hpre : framed bytes <+: framed other ++ rest) : bytes = other := by
  rw [framed, framed, List.append_assoc, List.cons_append] at hpre
  obtain ⟨hlength, hbytes⟩ := replicate_prefix hpre
  exact (List.prefix_of_prefix_length_le hbytes (List.prefix_append other rest)
    hlength.le).eq_of_length hlength

theorem encodeText_injective : Function.Injective encodeText := by
  intro text other heq
  have harray : text.toByteArray.data = other.toByteArray.data := Array.toList_inj.mp heq
  exact String.toByteArray_inj.mp (ByteArray.ext harray)

def framedCrypto : AccountCrypto where
  deriveKey password salt := framed salt ++ encodeText password
  encrypt data key _ := framed key ++ data
  decrypt ciphertext key _ :=
    if (framed key).isPrefixOf ciphertext then .ok (ciphertext.drop (framed key).length)
    else .error "OperationError"
  ed25519PublicKey privateKey := (privateKey ++ List.replicate 32 0).take 32
  generateMnemonic entropy := Base64.encode entropy
  validateMnemonic _ := true
  mnemonicToSeed := encodeText
  deriveKeyPair seed path := .ok ⟨List.replicate 33 2, seed, [], path⟩
  decodeText bytes := (String.fromUTF8? ⟨bytes.toArray⟩).getD ""

theorem framedCrypto_lawful : LawfulAccounts framedCrypto where
  decrypt_encrypt data key iv := by simp [framedCrypto]
  decrypt_other data key iv other hother := by
    refine ⟨"OperationError", if_neg fun hpre => hother ?_⟩
    exact framed_prefix (List.isPrefixOf_iff_prefix.mp hpre)
  deriveKey_injective password salt password' salt' heq := by
    have hsalt : salt = salt' := framed_prefix ⟨encodeText password, heq⟩
    subst hsalt
    exact ⟨encodeText_injective (List.append_cancel_left heq), rfl⟩
  ed25519_length privateKey := by simp [framedCrypto]
  bip32_length seed path derived hderived := by
    cases hderived
    rfl

def passwordChange : List AccountCall :=
  [.register ⟨[1], [2], [3], [4], [5]⟩ 1 "alice" "old password" none,
    .changePassword [6] [7] 2 "alice" "old password" "new password"]

theorem passwordChange_account :
    (run (AccountWorld.step framedCrypto) AccountWorld.empty passwordChange).accounts.any
      fun account => account.username = "alice" ∧ account.password = "new password" ∧
        (account.password, account.salt) ≠ account.registered := by
  decide +kernel

theorem not_keepsRegistration_passwordChange :
    ¬ (AccountCall.login "alice" "new password").KeepsRegistration
      (run (AccountWorld.step framedCrypto) AccountWorld.empty passwordChange) := by
  intro hkeeps
  obtain ⟨account, haccount, hchanged⟩ := List.any_eq_true.mp passwordChange_account
  obtain ⟨hname, hpassword, hother⟩ := of_decide_eq_true hchanged
  exact hother (hkeeps account haccount hname hpassword.symm)

theorem account_call_meets_iff_passwordChange :
    LawfulAccounts framedCrypto ∧
      ¬ (AccountCall.login "alice" "new password").Meets framedCrypto
        (run (AccountWorld.step framedCrypto) AccountWorld.empty passwordChange) := by
  refine ⟨framedCrypto_lawful, fun hmeets => ?_⟩
  exact not_keepsRegistration_passwordChange
    ((account_call_meets_iff framedCrypto_lawful passwordChange _).mp hmeets)

/-- After the change the new password is the user's, and it does not log the user in. -/
theorem not_login_after_change :
    ¬ ∀ calls call, AccountCall.Meets framedCrypto
      (run (AccountWorld.step framedCrypto) AccountWorld.empty calls) call := by
  intro hall
  exact not_keepsRegistration_passwordChange ((meets_iff framedCrypto_lawful
    (AccountWorld.storesAll_run passwordChange) _).mp (hall passwordChange _))

end Osvauld.TypescriptPort
