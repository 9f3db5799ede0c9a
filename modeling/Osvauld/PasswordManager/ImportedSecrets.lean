import Mathlib.Data.List.DropRight
import Osvauld.Data.Outcome
import Osvauld.PasswordManager.ImportRows

namespace Osvauld.PasswordManager

open Data

/-! What becomes of a row until its credential is handed over. -/

inductive FieldType where
  | metaField
  | sensitive
  | additional
  | totp
deriving DecidableEq, Repr

/-- A field as it is given to the sanitizer; an import leaves `sensitive` out. -/
structure CredentialField where
  fieldName : String
  fieldValue : String
  fieldType : FieldType
  sensitive : Option Bool := none
deriving DecidableEq, Repr

structure Field where
  fieldName : String
  fieldValue : String
  fieldType : FieldType
deriving DecidableEq, Repr

structure CredentialPayload where
  name : String
  description : String
  credentialType : String
  credentialFields : List Field
deriving DecidableEq, Repr

structure CredentialData where
  name : String
  description : String
  credentialType : String
  credentialFields : List CredentialField

structure Importer extends Browser where
  setProtocol : ParsedUrl → String → ParsedUrl
  toUpperCase : Char → List Char
  purifyText : String → String
  purifyUrl : String → String
  addCredential : CredentialPayload → String → Except String Unit

def isControl (char : Char) : Bool := char.toNat ≤ 0x1F || char.toNat = 0x7F

def isSpace (char : Char) : Bool :=
  (0x09 ≤ char.toNat && char.toNat ≤ 0x0D) || (0x2000 ≤ char.toNat && char.toNat ≤ 0x200A) ||
    char.toNat ∈ [0x20, 0xA0, 0x1680, 0x2028, 0x2029, 0x202F, 0x205F, 0x3000, 0xFEFF]

def isBase32 (char : Char) : Bool :=
  ('A' ≤ char && char ≤ 'Z') || ('2' ≤ char && char ≤ '7')

def trim (value : String) : String :=
  String.ofList ((value.toList.dropWhile isSpace).rdropWhile isSpace)

def removeControl (chars : List Char) : List Char := chars.filter fun char => !isControl char

/-- White space of two characters or more goes; `run` is the one that is read. -/
def removeRuns (run : List Char) : List Char → List Char
  | [] => if run.length < 2 then run else []
  | char :: rest =>
      if isSpace char then removeRuns (run ++ [char]) rest
      else (if run.length < 2 then run else []) ++ char :: removeRuns [] rest

def removeTags (inTag : Bool) : List Char → List Char
  | [] => []
  | char :: rest =>
      if inTag then removeTags (char != '>') rest
      else if char = '<' then removeTags true rest
      else char :: removeTags false rest

section Handler

variable (importer : Importer)

def isValidTOTP (secret : String) : Bool :=
  secret.toList.all isBase32 && 10 ≤ secret.length && secret.length ≤ 64

def domainOf (url : ParsedUrl) : String :=
  let parts := url.hostname.toList.splitOn '.'
  if 2 < parts.length then
    String.ofList (['.'].intercalate (parts.drop (parts.length - 2)))
  else url.hostname

def getDomain (urlString : String) : Except String String :=
  match importer.parseUrl urlString with
  | some url => .ok (domainOf url)
  | none => .error "Invalid URL"

def hasWebProtocol (url : String) : Bool :=
  let lower := url.toList.map Char.toLower
  "http://".toList.isPrefixOf lower || "https://".toList.isPrefixOf lower

def isValidURL (url : String) : Option String :=
  if hasWebProtocol url then (getDomain importer url).toOption else none

def validateCredentialFields (fields : List CredentialField) : Except String Unit :=
  let totpField := fields.find? fun field => field.fieldName = "TOTP" && field.fieldValue ≠ ""
  if totpField.any fun field => !isValidTOTP field.fieldValue then .error "Invalid TOTP secret"
  else if fields.any fun field => field.fieldName = "URL" && field.fieldValue ≠ "" &&
      !isTruthy (isValidURL importer field.fieldValue) then
    .error "Invalid URL format"
  else .ok ()

def domainField (url : String) : List Field :=
  match isValidURL importer url with
  | some domain => if domain = "" then [] else [⟨"Domain", domain, .additional⟩]
  | none => []

def determinedType (field : CredentialField) : FieldType :=
  if field.fieldName = "TOTP" then .totp
  else if field.sensitive = some true then .sensitive
  else .metaField

/-- The domains of the input are skipped. -/
def processField (field : CredentialField) : List Field :=
  if field.fieldName = "" ∨ field.fieldValue = "" then []
  else
    (if field.fieldName = "URL" then domainField importer field.fieldValue else []) ++
      if field.fieldName = "Domain" then []
      else [⟨field.fieldName, field.fieldValue, determinedType field⟩]

def processFields (fields : List CredentialField) : List Field :=
  fields.flatMap (processField importer)

def sanitizeGeneralInput (value : String) : String :=
  importer.purifyText (trim (String.ofList (removeTags false value.toList)))

def sanitizeTOTP (secret : String) : String :=
  String.ofList (((removeRuns [] (removeControl secret.toList)).flatMap
    importer.toUpperCase).filter isBase32)

def sanitizeURL (url : String) : Except String String :=
  if url = "" then .ok ""
  else
    let cleaned := importer.purifyUrl url
    if cleaned = "" then .error "Invalid URL format"
    else
      match importer.parseUrl cleaned with
      | none => .error "Invalid URL format"
      | some parsed =>
          .ok (String.ofList (removeControl (importer.setProtocol parsed "https:").href.toList))

def sanitizeValue (fieldName value : String) : Except String String :=
  let trimmed := trim value
  match fieldName with
  | "TOTP" => .ok (sanitizeTOTP importer trimmed)
  | "URL" => sanitizeURL importer trimmed
  | "Password" => .ok (String.ofList (removeControl trimmed.toList))
  | "Username" => .ok (String.ofList (removeControl trimmed.toList))
  | _ => .ok (sanitizeGeneralInput importer trimmed)

def sanitizeCredentialField (field : CredentialField) : Except String CredentialField := do
  let fieldValue ← sanitizeValue importer field.fieldName field.fieldValue
  return { field with fieldValue }

def sanitizeCredentialData (data : CredentialData) : Except String CredentialData := do
  let credentialFields ← data.credentialFields.mapM (sanitizeCredentialField importer)
  return {
    data with
    name := sanitizeGeneralInput importer data.name
    description := sanitizeGeneralInput importer data.description
    credentialFields }

structure Handed where
  payload : Option CredentialPayload
  success : Bool
  message : String
deriving DecidableEq

def addCredentialHandler (rawCredentialData : CredentialData) (folderId : String) :
    Except String Handed := do
  let credentialData ← sanitizeCredentialData importer rawCredentialData
  match validateCredentialFields importer credentialData.credentialFields with
  | .error message => return ⟨none, false, message⟩
  | .ok () =>
      let processedFields := processFields importer credentialData.credentialFields
      if processedFields = [] then return ⟨none, false, "Please add valid fields"⟩
      else
        let payload : CredentialPayload :=
          { name := credentialData.name
            description := credentialData.description
            credentialType := credentialData.credentialType
            credentialFields := processedFields }
        match importer.addCredential payload folderId with
        | .ok () => return ⟨some payload, true, "Credential added successfully"⟩
        | .error _ => return ⟨some payload, false, "Failed to save credential"⟩

def fieldFor (fieldName : String) (fieldType : FieldType) (value : Option String) :
    List CredentialField :=
  if isTruthy value then [{ fieldName, fieldValue := value.getD "", fieldType }] else []

def importFields (data : IntermediateCredential) : List CredentialField :=
  fieldFor "Username" .metaField data.username ++ fieldFor "Password" .sensitive data.password ++
    fieldFor "Domain" .additional data.domain ++ fieldFor "URL" .metaField data.domain ++
    fieldFor "TOTP" .totp data.totp ++ fieldFor "Email" .sensitive data.email

def finalProcessing (folderId : String) (credentialData : IntermediateCredential) : Handed :=
  let outcome := addCredentialHandler importer
    { name := credentialData.name.getD ""
      description := credentialData.description.getD ""
      credentialType := "Login"
      credentialFields := importFields credentialData } folderId
  match outcome with
  | .ok response => response
  | .error error => ⟨none, false, error⟩

end Handler

namespace Platform

def rowEmail (platform : Platform) (row : CsvRow) : Option String :=
  match platform with
  | .protonpass =>
      if platform.rowUsername row = row "username" ∧ isTruthy (row "email") then row "email"
      else none
  | _ => none

def rowTotp (platform : Platform) (row : CsvRow) : Option String :=
  match platform with
  | .safari => row "OTPAuth"
  | .lastpass => row "totp"
  | .bitwarden => row "login_totp"
  | .protonpass => row "totp"
  | .dashlane => row "otpSecret"
  | .onepassword => row "OTPAuth"
  | _ => none

def importedTotp (platform : Platform) (row : CsvRow) : Option String :=
  match platform with
  | .safari => none
  | .protonpass =>
      if isTruthy (platform.rowTotp row) then (platform.rowTotp row).bind extractTOTPSecret
      else none
  | _ => platform.rowTotp row

end Platform

section Meaning

variable (importer : Importer)

def secretDigits (chars : List Char) : List Char :=
  (chars.flatMap importer.toUpperCase).filter isBase32

def bareSecret (text : String) : Option String :=
  let digits := secretDigits importer text.toList
  if digits = [] then none else some (String.ofList digits)

def isOtpauth (totp : String) : Bool := "otpauth://".toList.isPrefixOf (trim totp).toList

def denotedSecret (totp : String) : Option String :=
  if isOtpauth totp then (extractTOTPSecret totp).bind (bareSecret importer)
  else bareSecret importer totp

/-- The domain of the URL of the row, as `DOMPurify` leaves it: a plain text as it is. -/
def rowDomain (url : Option String) : Option String :=
  let text := trim (url.getD "")
  if text = "" then none else (importer.parseUrl (importer.purifyUrl text)).map domainOf

end Meaning

def valuesOf (fieldName : String) (fields : List Field) : List String :=
  (fields.filter fun field => field.fieldName = fieldName).map Field.fieldValue

structure SecretsSurvive (importer : Importer) (platform : Platform) (row : CsvRow)
    (payload : CredentialPayload) : Prop where
  username : isTruthy (platform.rowUsername row) = true →
    ∃ field ∈ payload.credentialFields, field.fieldName = "Username" ∧
      some field.fieldValue = platform.rowUsername row
  password : isTruthy (platform.rowPassword row) = true →
    ∃ field ∈ payload.credentialFields, field.fieldName = "Password" ∧
      some field.fieldValue = platform.rowPassword row ∧ field.fieldType = .sensitive
  email : isTruthy (platform.rowEmail row) = true →
    ∃ field ∈ payload.credentialFields, field.fieldName = "Email" ∧
      field.fieldType = .sensitive
  totp : valuesOf "TOTP" payload.credentialFields =
    ((platform.rowTotp row).bind (denotedSecret importer)).toList
  domain : valuesOf "Domain" payload.credentialFields =
    (rowDomain importer (row platform.urlColumn)).toList

structure IsClean (text : String) : Prop where
  noControl : ∀ char ∈ text.toList, isControl char = false
  start : ∀ char ∈ text.toList.head?, isSpace char = false
  stop : ∀ char ∈ text.toList.getLast?, isSpace char = false

/-- Safari takes no secret over; Protonpass takes the parameter of a URI, the others what
is no URI. -/
def TotpTaken (importer : Importer) (platform : Platform) (totp : Option String) : Prop :=
  match platform with
  | .safari => totp.bind (denotedSecret importer) = none
  | .protonpass => totp.any isOtpauth = true ∨ totp.bind (denotedSecret importer) = none
  | _ => totp.any isOtpauth = false

structure SecretsPlain (importer : Importer) (platform : Platform) (row : CsvRow) : Prop where
  password : isTruthy (platform.rowPassword row) = false
  email : isTruthy (platform.rowEmail row) = false
  username : IsClean ((platform.rowUsername row).getD "")
  totp : TotpTaken importer platform (platform.rowTotp row)

structure Importer.Lawful (importer : Importer) : Prop where
  upper_ascii : ∀ char, char.toNat < 128 → importer.toUpperCase char = [char.toUpper]
  upper_space : ∀ char, isSpace char = true → importer.toUpperCase char = [char]
  parse_empty : importer.parseUrl "" = none
  hostname_https : ∀ url, (importer.setProtocol url "https:").hostname = url.hostname
  parse_href : ∀ text url, importer.parseUrl text = some url →
    importer.parseUrl (importer.setProtocol url "https:").href =
      some (importer.setProtocol url "https:")
  href_plain : ∀ text url, importer.parseUrl text = some url →
    ∀ char ∈ (importer.setProtocol url "https:").href.toList, isControl char = false

theorem fields_of_credential {browser : Browser} {platform : Platform} {row : CsvRow}
    {data : IntermediateCredential} (hdata : platform.credential browser row = .ok data) :
    data.username = platform.rowUsername row ∧ data.password = platform.rowPassword row ∧
      data.domain = row platform.urlColumn ∧ data.totp = platform.importedTotp row ∧
      data.email = platform.rowEmail row := by
  cases platform with
  | firefox =>
      obtain ⟨url, -, hbuilt⟩ := bind_eq_ok.mp hdata
      cases hbuilt
      exact ⟨rfl, rfl, rfl, rfl, rfl⟩
  | keepass =>
      obtain ⟨url, -, hbuilt⟩ := bind_eq_ok.mp hdata
      cases hbuilt
      exact ⟨rfl, rfl, rfl, rfl, rfl⟩
  | _ =>
      cases hdata
      exact ⟨rfl, rfl, rfl, rfl, rfl⟩

section Digits

variable {importer : Importer}

theorem secretDigits_append (first second : List Char) :
    secretDigits importer (first ++ second) =
      secretDigits importer first ++ secretDigits importer second := by
  simp [secretDigits]

theorem secretDigits_cons (char : Char) (rest : List Char) :
    secretDigits importer (char :: rest) =
      secretDigits importer [char] ++ secretDigits importer rest := by
  rw [← secretDigits_append]
  rfl

theorem bareSecret_eq_none {text : String} :
    bareSecret importer text = none ↔ secretDigits importer text.toList = [] := by
  simp [bareSecret]

variable {char : Char}

theorem isBase32_toNat (hdigit : isBase32 char = true) :
    50 ≤ char.toNat ∧ char.toNat ≤ 55 ∨ 65 ≤ char.toNat ∧ char.toNat ≤ 90 := by
  simp only [isBase32, Bool.or_eq_true, Bool.and_eq_true, decide_eq_true_eq, Char.le_def,
    UInt32.le_iff_toNat_le] at hdigit
  rcases hdigit with ⟨hfirst, hlast⟩ | ⟨hfirst, hlast⟩
  · exact .inr ⟨hfirst, hlast⟩
  · exact .inl ⟨hfirst, hlast⟩

theorem toUpper_of_not_lower (hother : ¬ (97 ≤ char.toNat ∧ char.toNat ≤ 122)) :
    char.toUpper = char := by
  unfold Char.toUpper
  rw [dif_neg]
  rintro ⟨hfirst, hlast⟩
  exact hother ⟨UInt32.le_iff_toNat_le.mp hfirst, UInt32.le_iff_toNat_le.mp hlast⟩

theorem secretDigits_of_upper (hupper : importer.toUpperCase char = [char])
    (hother : ¬ (50 ≤ char.toNat ∧ char.toNat ≤ 55 ∨ 65 ≤ char.toNat ∧ char.toNat ≤ 90)) :
    secretDigits importer [char] = [] := by
  simp only [secretDigits, List.flatMap_cons, List.flatMap_nil, List.append_nil, hupper]
  exact List.filter_cons_of_neg fun hdigit => hother (isBase32_toNat hdigit)

variable (lawful : importer.Lawful)
include lawful

theorem secretDigits_space (hspace : isSpace char = true) : secretDigits importer [char] = [] := by
  apply secretDigits_of_upper (lawful.upper_space char hspace)
  simp only [isSpace, Bool.or_eq_true, Bool.and_eq_true, decide_eq_true_eq, List.mem_cons,
    List.not_mem_nil, or_false] at hspace
  omega

theorem secretDigits_control (hcontrol : isControl char = true) :
    secretDigits importer [char] = [] := by
  simp only [isControl, Bool.or_eq_true, decide_eq_true_eq] at hcontrol
  apply secretDigits_of_upper
  · rw [lawful.upper_ascii char (by omega), toUpper_of_not_lower (by omega)]
  · omega

theorem secretDigits_spaces {chars : List Char} (hspaces : ∀ char ∈ chars, isSpace char = true) :
    secretDigits importer chars = [] := by
  induction chars with
  | nil => rfl
  | cons char rest ih =>
      rw [secretDigits_cons, secretDigits_space lawful (hspaces char (by simp)),
        ih fun other hother => hspaces other (List.mem_cons_of_mem _ hother)]
      rfl

theorem secretDigits_removeControl (chars : List Char) :
    secretDigits importer (removeControl chars) = secretDigits importer chars := by
  induction chars with
  | nil => rfl
  | cons char rest ih =>
      rw [secretDigits_cons char rest, removeControl]
      cases hcontrol : isControl char with
      | true =>
          rw [List.filter_cons_of_neg (by simp [hcontrol]), ← removeControl, ih,
            secretDigits_control lawful hcontrol, List.nil_append]
      | false =>
          rw [List.filter_cons_of_pos (by simp [hcontrol]), ← removeControl,
            secretDigits_cons, ih]

theorem secretDigits_removeRuns (chars run : List Char)
    (hrun : ∀ char ∈ run, isSpace char = true) :
    secretDigits importer (removeRuns run chars) = secretDigits importer chars := by
  have hkept : secretDigits importer (if run.length < 2 then run else []) = [] := by
    split
    · exact secretDigits_spaces lawful hrun
    · rfl
  induction chars generalizing run with
  | nil => exact hkept
  | cons char rest ih =>
      rw [secretDigits_cons char rest, removeRuns]
      split
      · next hspace =>
          have hlonger : ∀ other ∈ run ++ [char], isSpace other = true := by
            simpa [or_imp, forall_and, hspace] using hrun
          rw [secretDigits_space lawful hspace, List.nil_append]
          apply ih (run ++ [char]) hlonger
          split
          · exact secretDigits_spaces lawful hlonger
          · rfl
      · rw [secretDigits_append, hkept, List.nil_append, secretDigits_cons]
        rw [ih [] (by simp) (by simp [secretDigits])]

theorem secretDigits_dropWhile (chars : List Char) :
    secretDigits importer (chars.dropWhile isSpace) = secretDigits importer chars := by
  induction chars with
  | nil => rfl
  | cons char rest ih =>
      cases hspace : isSpace char with
      | true =>
          rw [List.dropWhile_cons_of_pos hspace, ih, secretDigits_cons char rest,
            secretDigits_space lawful hspace, List.nil_append]
      | false => rw [List.dropWhile_cons_of_neg (by simp [hspace])]

theorem secretDigits_trim (text : String) :
    secretDigits importer (trim text).toList = secretDigits importer text.toList := by
  rw [trim, String.toList_ofList, ← secretDigits_dropWhile lawful text.toList]
  induction text.toList.dropWhile isSpace using List.reverseRecOn with
  | nil => rfl
  | append_singleton earlier char ih =>
      cases hspace : isSpace char with
      | true =>
          rw [List.rdropWhile_concat_pos _ _ _ hspace, ih, secretDigits_append,
            secretDigits_space lawful hspace, List.append_nil]
      | false => rw [List.rdropWhile_concat_neg _ _ _ (by simp [hspace])]

theorem sanitizeTOTP_trim (text : String) :
    sanitizeTOTP importer (trim text) = String.ofList (secretDigits importer text.toList) := by
  rw [sanitizeTOTP, ← secretDigits, secretDigits_removeRuns lawful _ [] (by simp),
    secretDigits_removeControl lawful, secretDigits_trim lawful]

theorem secretDigits_ascii {chars : List Char}
    (hascii : (chars.all fun char => char.toNat < 128) = true) :
    secretDigits importer chars = (chars.map Char.toUpper).filter isBase32 := by
  induction chars with
  | nil => rfl
  | cons char rest ih =>
      rw [List.all_cons, Bool.and_eq_true, decide_eq_true_eq] at hascii
      rw [secretDigits_cons, ih hascii.2, List.map_cons, List.filter_cons]
      simp only [secretDigits, List.flatMap_cons, List.flatMap_nil, List.append_nil,
        lawful.upper_ascii char hascii.1, List.filter_cons, List.filter_nil]
      split
      · rfl
      · rfl

theorem lt_length_of_extractSecret {chars value : List Char}
    (hextract : extractSecret chars = some value) :
    (secretDigits importer value).length < (secretDigits importer chars).length := by
  induction chars with
  | nil => cases hextract
  | cons char rest ih =>
      rw [secretDigits_cons, List.length_append]
      unfold extractSecret at hextract
      dsimp only at hextract
      split at hextract
      · next hfound =>
          obtain ⟨-, ⟨after, rfl⟩, -⟩ := hfound
          cases hextract
          have hkey : (secretDigits importer "secret=".toList).length = 6 := by
            rw [secretDigits_ascii lawful (by decide)]
            decide
          have hdrop : ("secret=".toList ++ after).drop "secret=".length = after :=
            List.drop_left' (by decide)
          have hvalue : (secretDigits importer (after.takeWhile fun char => char ≠ '&')).length ≤
              (secretDigits importer after).length := by
            conv_rhs => rw [← @List.takeWhile_append_dropWhile _ (fun char => char ≠ '&') after]
            rw [secretDigits_append, List.length_append]
            omega
          rw [hdrop, secretDigits_append, List.length_append, hkey]
          omega
      · have hrest := ih hextract
        omega

theorem bareSecret_ne_of_extract {text value : String}
    (hextract : extractTOTPSecret text = some value) :
    bareSecret importer text ≠ bareSecret importer value ∧ bareSecret importer text ≠ none := by
  obtain ⟨chars, hchars, rfl⟩ := Option.map_eq_some_iff.mp hextract
  have hlonger := lt_length_of_extractSecret lawful hchars
  have hsome : secretDigits importer text.toList ≠ [] := by
    intro hnil
    simp [hnil] at hlonger
  refine ⟨fun hsame => ?_, fun hnone => hsome (bareSecret_eq_none.mp hnone)⟩
  unfold bareSecret at hsame
  simp only [String.toList_ofList, if_neg hsome] at hsame
  split at hsame
  · cases hsame
  · have hdigits := String.ofList_injective (Option.some.inj hsame)
    rw [hdigits] at hlonger
    omega

theorem bareSecret_otpauth {text : String} (huri : isOtpauth text = true) :
    bareSecret importer text ≠ none := by
  obtain ⟨rest, hrest⟩ := List.isPrefixOf_iff_prefix.mp huri
  have hscheme : secretDigits importer "otpauth://".toList ≠ [] := by
    rw [secretDigits_ascii lawful (by decide)]
    decide
  rw [Ne, bareSecret_eq_none, ← secretDigits_trim lawful, ← hrest, secretDigits_append]
  exact fun hnil => hscheme (List.append_eq_nil_iff.mp hnil).1

theorem imported_iff_taken (platform : Platform) (row : CsvRow) :
    (platform.importedTotp row).bind (bareSecret importer) =
        (platform.rowTotp row).bind (denotedSecret importer) ↔
      TotpTaken importer platform (platform.rowTotp row) := by
  have hother : ∀ totp : Option String,
      totp.bind (bareSecret importer) = totp.bind (denotedSecret importer) ↔
        totp.any isOtpauth = false := by
    intro totp
    cases totp with
    | none => simp
    | some text =>
        simp only [Option.bind_some, Option.any_some, denotedSecret]
        cases huri : isOtpauth text with
        | false => simp
        | true =>
            simp only [if_true, Bool.true_eq_false, iff_false]
            cases hextract : extractTOTPSecret text with
            | none => exact bareSecret_otpauth lawful huri
            | some value => exact (bareSecret_ne_of_extract lawful hextract).1
  have hprotonpass : ∀ totp : Option String,
      (if isTruthy totp then totp.bind extractTOTPSecret else none).bind (bareSecret importer) =
          totp.bind (denotedSecret importer) ↔
        totp.any isOtpauth = true ∨ totp.bind (denotedSecret importer) = none := by
    intro totp
    cases totp with
    | none => simp
    | some text =>
        have htruthy : (if isTruthy (some text) then extractTOTPSecret text else none) =
            extractTOTPSecret text := by
          by_cases hempty : text = ""
          · subst hempty
            decide
          · rw [if_pos (by simp [isTruthy, hempty])]
        simp only [Option.bind_some, Option.any_some, htruthy, denotedSecret]
        cases huri : isOtpauth text with
        | true => simp
        | false =>
            simp only [Bool.false_eq_true, if_false, false_or]
            cases hextract : extractTOTPSecret text with
            | none => exact eq_comm
            | some value =>
                obtain ⟨hne, hsome⟩ := bareSecret_ne_of_extract lawful hextract
                exact iff_of_false hne.symm hsome
  cases platform with
  | safari => exact eq_comm
  | protonpass => exact hprotonpass _
  | _ => exact hother _

end Digits

def cleaned (value : String) : String := String.ofList (removeControl (trim value).toList)

theorem dropWhile_eq_self {chars : List Char} :
    chars.dropWhile isSpace = chars ↔ ∀ char ∈ chars.head?, isSpace char = false := by
  rw [List.dropWhile_eq_self_iff]
  cases chars with
  | nil => simp
  | cons char rest => simp

theorem rdropWhile_eq_self {chars : List Char} :
    chars.rdropWhile isSpace = chars ↔ ∀ char ∈ chars.getLast?, isSpace char = false := by
  rw [List.rdropWhile_eq_self_iff]
  cases chars using List.reverseRecOn with
  | nil => simp
  | append_singleton earlier char => simp

theorem cleaned_eq_iff {text : String} : cleaned text = text ↔ IsClean text := by
  have htext : cleaned text = text ↔
      removeControl ((text.toList.dropWhile isSpace).rdropWhile isSpace) = text.toList := by
    rw [cleaned, trim, String.toList_ofList, ← String.toList_inj, String.toList_ofList]
  have hdropped : ((text.toList.dropWhile isSpace).rdropWhile isSpace).Sublist
      (text.toList.dropWhile isSpace) := (List.rdropWhile_prefix _ _).sublist
  have hstart : (text.toList.dropWhile isSpace).Sublist text.toList :=
    (List.dropWhile_suffix _).sublist
  rw [htext]
  constructor
  · intro hsame
    have hfilter : text.toList.Sublist ((text.toList.dropWhile isSpace).rdropWhile isSpace) := by
      conv_lhs => rw [← hsame]
      exact List.filter_sublist
    have htrimmed := (hdropped.trans hstart).antisymm hfilter
    have hleft := hstart.antisymm (hfilter.trans hdropped)
    rw [htrimmed] at hsame
    rw [hleft] at htrimmed
    refine ⟨fun char hchar => ?_, dropWhile_eq_self.mp hleft, rdropWhile_eq_self.mp htrimmed⟩
    simpa using List.filter_eq_self.mp hsame char hchar
  · rintro ⟨hcontrol, hfirst, hlast⟩
    rw [dropWhile_eq_self.mpr hfirst, rdropWhile_eq_self.mpr hlast]
    exact List.filter_eq_self.mpr fun char hchar => by simp [hcontrol char hchar]

theorem valuesOf_append (fieldName : String) (first second : List Field) :
    valuesOf fieldName (first ++ second) =
      valuesOf fieldName first ++ valuesOf fieldName second := by
  simp [valuesOf]

section Fields

variable {importer : Importer} {fieldName wanted : String} {fieldType : FieldType}
  {value : Option String} {fields : List CredentialField}

theorem mem_domainField {url : String} {out : Field}
    (hout : out ∈ domainField importer url) :
    out.fieldName = "Domain" ∧ out.fieldType = .additional := by
  unfold domainField at hout
  split at hout
  · next domain _ =>
      split at hout
      · cases hout
      · rw [List.mem_singleton] at hout
        subst hout
        exact ⟨rfl, rfl⟩
  · cases hout

theorem mem_processField {field : CredentialField} {out : Field}
    (hout : out ∈ processField importer field) :
    out.fieldName = field.fieldName ∧ field.fieldName ≠ "Domain" ∧
        out.fieldType = determinedType field ∨
      field.fieldName = "URL" ∧ out.fieldName = "Domain" ∧ out.fieldType = .additional := by
  unfold processField at hout
  split at hout
  · cases hout
  · rcases List.mem_append.mp hout with hdomain | hown
    · split at hdomain
      · next hurl => exact .inr ⟨hurl, mem_domainField hdomain⟩
      · cases hdomain
    · split at hown
      · cases hown
      · next hname =>
          rw [List.mem_singleton] at hown
          subst hown
          exact .inl ⟨rfl, hname, rfl⟩

theorem not_sensitive {field : CredentialField} (hfield : field.sensitive = none)
    {out : Field} (hout : out ∈ processField importer field) : out.fieldType ≠ .sensitive := by
  rcases mem_processField hout with ⟨-, -, htype⟩ | ⟨-, -, htype⟩
  · rw [htype, determinedType, hfield]
    split
    · decide
    · decide
  · rw [htype]
    decide

theorem mapM_fieldFor
    (hfields : (fieldFor fieldName fieldType value).mapM (sanitizeCredentialField importer) =
      .ok fields) :
    isTruthy value = false ∧ fields = [] ∨ isTruthy value = true ∧ ∃ sanitized,
      sanitizeValue importer fieldName (value.getD "") = .ok sanitized ∧
        fields = [{ fieldName, fieldValue := sanitized, fieldType }] := by
  unfold fieldFor at hfields
  cases htruthy : isTruthy value with
  | false =>
      rw [htruthy] at hfields
      cases hfields
      exact .inl ⟨rfl, rfl⟩
  | true =>
      rw [htruthy, if_pos rfl, List.mapM_cons, bind_eq_ok] at hfields
      obtain ⟨field, hfield, hfields⟩ := hfields
      obtain ⟨sanitized, hsanitized, hbuilt⟩ := bind_eq_ok.mp hfield
      cases hbuilt
      cases hfields
      exact .inr ⟨rfl, sanitized, hsanitized, rfl⟩

theorem valuesOf_other
    (hfields : (fieldFor fieldName fieldType value).mapM (sanitizeCredentialField importer) =
      .ok fields) (hname : fieldName ≠ wanted) (hurl : fieldName = "URL" → wanted ≠ "Domain") :
    valuesOf wanted (processFields importer fields) = [] := by
  rw [valuesOf, List.map_eq_nil_iff, List.filter_eq_nil_iff]
  intro out hout
  obtain ⟨field, hfield, hout⟩ := List.mem_flatMap.mp hout
  rcases mapM_fieldFor hfields with ⟨-, rfl⟩ | ⟨-, sanitized, -, rfl⟩
  · cases hfield
  · rw [List.mem_singleton] at hfield
    subst hfield
    rcases mem_processField hout with ⟨hsame, -, -⟩ | ⟨hsame, hdomain, -⟩
    · simpa [hsame] using hname
    · simpa [hdomain] using (hurl hsame).symm

theorem valuesOf_domain_skipped
    (hfields : (fieldFor "Domain" fieldType value).mapM (sanitizeCredentialField importer) =
      .ok fields) : valuesOf "Domain" (processFields importer fields) = [] := by
  rcases mapM_fieldFor hfields with ⟨-, rfl⟩ | ⟨-, sanitized, -, rfl⟩
  · rfl
  · simp [processFields, processField, valuesOf]

theorem valuesOf_own
    (hfields : (fieldFor fieldName fieldType value).mapM (sanitizeCredentialField importer) =
      .ok fields) (hname : fieldName ≠ "URL" ∧ fieldName ≠ "Domain" ∧ fieldName ≠ "") :
    isTruthy value = false ∧ valuesOf fieldName (processFields importer fields) = [] ∨
      isTruthy value = true ∧ ∃ sanitized,
        sanitizeValue importer fieldName (value.getD "") = .ok sanitized ∧
        valuesOf fieldName (processFields importer fields) =
          if sanitized = "" then [] else [sanitized] := by
  rcases mapM_fieldFor hfields with ⟨huntrue, rfl⟩ | ⟨htruthy, sanitized, hsanitized, rfl⟩
  · exact .inl ⟨huntrue, rfl⟩
  · refine .inr ⟨htruthy, sanitized, hsanitized, ?_⟩
    simp only [processFields, List.flatMap_cons, List.flatMap_nil, List.append_nil, processField,
      hname, false_or, if_false, List.nil_append]
    split
    · rfl
    · simp [valuesOf]

theorem sanitizeValue_username (value : String) :
    sanitizeValue importer "Username" value = .ok (cleaned value) := by
  simp [sanitizeValue, cleaned]

theorem sanitizeValue_totp (value : String) :
    sanitizeValue importer "TOTP" value = .ok (sanitizeTOTP importer (trim value)) := by
  simp [sanitizeValue]

theorem sanitizeValue_url (value : String) :
    sanitizeValue importer "URL" value = sanitizeURL importer (trim value) := by
  simp [sanitizeValue]

theorem valuesOf_username
    (hfields : (fieldFor "Username" fieldType value).mapM (sanitizeCredentialField importer) =
      .ok fields) :
    valuesOf "Username" (processFields importer fields) =
      if cleaned (value.getD "") = "" then [] else [cleaned (value.getD "")] := by
  rcases valuesOf_own hfields (by decide) with ⟨huntrue, hnone⟩ | ⟨-, sanitized, hvalue, hown⟩
  · have hempty : value.getD "" = "" := by simpa [isTruthy] using huntrue
    rw [hnone, hempty, if_pos (by decide)]
  · rw [sanitizeValue_username] at hvalue
    rw [Except.ok.inj hvalue]
    exact hown

theorem bind_bareSecret_of_untrue (huntrue : isTruthy value = false) :
    value.bind (bareSecret importer) = none := by
  cases value with
  | none => rfl
  | some text =>
      have hempty : text = "" := by simpa [isTruthy] using huntrue
      rw [hempty, Option.bind_some, bareSecret_eq_none]
      rfl

theorem valuesOf_totp (lawful : importer.Lawful)
    (hfields : (fieldFor "TOTP" fieldType value).mapM (sanitizeCredentialField importer) =
      .ok fields) :
    valuesOf "TOTP" (processFields importer fields) =
      (value.bind (bareSecret importer)).toList := by
  rcases valuesOf_own hfields (by decide) with
    ⟨huntrue, hnone⟩ | ⟨htruthy, sanitized, hvalue, hown⟩
  · rw [hnone, bind_bareSecret_of_untrue huntrue]
    rfl
  · rw [sanitizeValue_totp, sanitizeTOTP_trim lawful] at hvalue
    rw [hown, ← Except.ok.inj hvalue]
    cases value with
    | none => cases htruthy
    | some text =>
        simp only [Option.getD_some, Option.bind_some, bareSecret, String.ofList_eq_empty_iff]
        split
        · rfl
        · rfl

theorem domainOf_https (lawful : importer.Lawful) (url : ParsedUrl) :
    domainOf (importer.setProtocol url "https:") = domainOf url := by
  rw [domainOf, domainOf, lawful.hostname_https]

theorem parse_sanitizeURL (lawful : importer.Lawful) {url sanitized : String}
    (hsanitized : sanitizeURL importer url = .ok sanitized) :
    url = "" ∧ sanitized = "" ∨ url ≠ "" ∧ sanitized ≠ "" ∧ ∃ parsed,
      importer.parseUrl (importer.purifyUrl url) = some parsed ∧
        importer.parseUrl sanitized = some (importer.setProtocol parsed "https:") := by
  unfold sanitizeURL at hsanitized
  split at hsanitized
  · next hempty =>
      cases hsanitized
      exact .inl ⟨hempty, rfl⟩
  · next hurl =>
      dsimp only at hsanitized
      split at hsanitized
      · cases hsanitized
      · split at hsanitized
        · cases hsanitized
        · next parsed hparsed =>
            have hplain : String.ofList
                (removeControl (importer.setProtocol parsed "https:").href.toList) =
                  (importer.setProtocol parsed "https:").href := by
              rw [removeControl, List.filter_eq_self.mpr, String.ofList_toList]
              intro char hchar
              simp [lawful.href_plain _ _ hparsed char hchar]
            have hread := lawful.parse_href _ _ hparsed
            rw [hplain] at hsanitized
            cases hsanitized
            refine .inr ⟨hurl, ?_, parsed, hparsed, hread⟩
            intro hnone
            rw [hnone, lawful.parse_empty] at hread
            cases hread

theorem valuesOf_domain (lawful : importer.Lawful)
    (hfields : (fieldFor "URL" fieldType value).mapM (sanitizeCredentialField importer) =
      .ok fields)
    (hvalid : ∀ field ∈ fields, field.fieldValue ≠ "" →
      isTruthy (isValidURL importer field.fieldValue) = true) :
    valuesOf "Domain" (processFields importer fields) = (rowDomain importer value).toList := by
  rcases mapM_fieldFor hfields with ⟨huntrue, rfl⟩ | ⟨-, sanitized, hsanitized, rfl⟩
  · have hempty : value.getD "" = "" := by simpa [isTruthy] using huntrue
    rw [rowDomain, hempty]
    rfl
  · rw [sanitizeValue_url] at hsanitized
    rcases parse_sanitizeURL lawful hsanitized with
      ⟨hempty, rfl⟩ | ⟨hurl, hvalue, parsed, hparsed, hread⟩
    · simp [rowDomain, hempty, processFields, processField, valuesOf]
    · have htruthy := hvalid _ (List.mem_singleton_self _) hvalue
      have hdomain : isValidURL importer sanitized = some (domainOf parsed) := by
        unfold isValidURL at htruthy ⊢
        split
        · rw [getDomain, hread]
          exact congrArg some (domainOf_https lawful parsed)
        · next hprotocol =>
            rw [if_neg hprotocol] at htruthy
            cases htruthy
      have hname : domainOf parsed ≠ "" := by
        simpa [hdomain, isTruthy] using htruthy
      simp [rowDomain, hurl, hparsed, processFields, processField, domainField, hvalue, hdomain,
        hname, valuesOf]

end Fields

section Import

variable {importer : Importer} {folderId : String} {data : IntermediateCredential}
  {payload : CredentialPayload}

theorem finalProcessing_cases (importer : Importer) (folderId : String)
    (data : IntermediateCredential) :
    (finalProcessing importer folderId data).payload = none ∧
        (finalProcessing importer folderId data).success = false ∨
      ∃ payload fields, (finalProcessing importer folderId data).payload = some payload ∧
        (importFields data).mapM (sanitizeCredentialField importer) = .ok fields ∧
        validateCredentialFields importer fields = .ok () ∧
        payload.credentialFields = processFields importer fields := by
  unfold finalProcessing
  dsimp only
  split
  · next response hresponse =>
      obtain ⟨sanitized, hsanitized, hrest⟩ := bind_eq_ok.mp hresponse
      obtain ⟨fields, hfields, hbuilt⟩ := bind_eq_ok.mp hsanitized
      cases hbuilt
      dsimp only at hrest
      cases hvalid : validateCredentialFields importer fields with
      | error message =>
          rw [hvalid] at hrest
          cases hrest
          exact .inl ⟨rfl, rfl⟩
      | ok done =>
          rw [hvalid] at hrest
          dsimp only at hrest
          split at hrest
          · cases hrest
            exact .inl ⟨rfl, rfl⟩
          · split at hrest
            · cases hrest
              exact .inr ⟨_, fields, rfl, hfields, hvalid, rfl⟩
            · cases hrest
              exact .inr ⟨_, fields, rfl, hfields, hvalid, rfl⟩
  · exact .inl ⟨rfl, rfl⟩

theorem credentialFields_of_handed
    (hhanded : (finalProcessing importer folderId data).payload = some payload) :
    ∃ fields, (importFields data).mapM (sanitizeCredentialField importer) = .ok fields ∧
      validateCredentialFields importer fields = .ok () ∧
      payload.credentialFields = processFields importer fields := by
  rcases finalProcessing_cases importer folderId data with
    ⟨hnone, -⟩ | ⟨other, fields, hother, hrest⟩
  · rw [hnone] at hhanded
    cases hhanded
  · cases hother.symm.trans hhanded
    exact ⟨fields, hrest⟩

theorem processFields_append (first second : List CredentialField) :
    processFields importer (first ++ second) =
      processFields importer first ++ processFields importer second := by
  rw [processFields, List.flatMap_append]
  rfl

variable {fields : List CredentialField}

theorem mapM_append_eq_ok {first second : List CredentialField}
    (hfields : (first ++ second).mapM (sanitizeCredentialField importer) = .ok fields) :
    ∃ before after, first.mapM (sanitizeCredentialField importer) = .ok before ∧
      second.mapM (sanitizeCredentialField importer) = .ok after ∧
      fields = before ++ after := by
  rw [List.mapM_append] at hfields
  obtain ⟨before, hbefore, hfields⟩ := bind_eq_ok.mp hfields
  obtain ⟨after, hafter, hfields⟩ := bind_eq_ok.mp hfields
  cases hfields
  exact ⟨before, after, hbefore, hafter, rfl⟩

structure Sanitized (importer : Importer) (data : IntermediateCredential)
    (username password domain url totp email : List CredentialField) : Prop where
  username : (fieldFor "Username" .metaField data.username).mapM
    (sanitizeCredentialField importer) = .ok username
  password : (fieldFor "Password" .sensitive data.password).mapM
    (sanitizeCredentialField importer) = .ok password
  domain : (fieldFor "Domain" .additional data.domain).mapM
    (sanitizeCredentialField importer) = .ok domain
  url : (fieldFor "URL" .metaField data.domain).mapM
    (sanitizeCredentialField importer) = .ok url
  totp : (fieldFor "TOTP" .totp data.totp).mapM
    (sanitizeCredentialField importer) = .ok totp
  email : (fieldFor "Email" .sensitive data.email).mapM
    (sanitizeCredentialField importer) = .ok email

theorem exists_sanitized
    (hfields : (importFields data).mapM (sanitizeCredentialField importer) = .ok fields) :
    ∃ username password domain url totp email,
      Sanitized importer data username password domain url totp email ∧
      fields = username ++ password ++ domain ++ url ++ totp ++ email := by
  obtain ⟨_, email, htoTotp, hemail, rfl⟩ := mapM_append_eq_ok hfields
  obtain ⟨_, totp, htoUrl, htotp, rfl⟩ := mapM_append_eq_ok htoTotp
  obtain ⟨_, url, htoDomain, hurl, rfl⟩ := mapM_append_eq_ok htoUrl
  obtain ⟨_, domain, hfirst, hdomain, rfl⟩ := mapM_append_eq_ok htoDomain
  obtain ⟨username, password, husername, hpassword, rfl⟩ := mapM_append_eq_ok hfirst
  exact ⟨_, _, _, _, _, _, ⟨husername, hpassword, hdomain, hurl, htotp, hemail⟩, rfl⟩

theorem valid_url (hvalid : validateCredentialFields importer fields = .ok ())
    {field : CredentialField} (hfield : field ∈ fields) (hname : field.fieldName = "URL")
    (hvalue : field.fieldValue ≠ "") : isTruthy (isValidURL importer field.fieldValue) = true := by
  unfold validateCredentialFields at hvalid
  dsimp only at hvalid
  split at hvalid
  · cases hvalid
  · split at hvalid
    · cases hvalid
    · next hurls =>
        by_contra hinvalid
        apply hurls
        rw [List.any_eq_true]
        exact ⟨field, hfield, by simp [hname, hvalue, hinvalid]⟩

theorem values_of_handed (lawful : importer.Lawful)
    (hhanded : (finalProcessing importer folderId data).payload = some payload) :
    valuesOf "Username" payload.credentialFields =
        (if cleaned (data.username.getD "") = "" then [] else [cleaned (data.username.getD "")]) ∧
      valuesOf "TOTP" payload.credentialFields =
        (data.totp.bind (bareSecret importer)).toList ∧
      valuesOf "Domain" payload.credentialFields = (rowDomain importer data.domain).toList := by
  obtain ⟨fields, hfields, hvalid, hpayload⟩ := credentialFields_of_handed hhanded
  obtain ⟨username, password, domain, url, totp, email, hparts, rfl⟩ := exists_sanitized hfields
  have hurl : ∀ field ∈ url, field.fieldValue ≠ "" →
      isTruthy (isValidURL importer field.fieldValue) = true := by
    intro field hfield hvalue
    apply valid_url hvalid (by simp [hfield]) _ hvalue
    rcases mapM_fieldFor hparts.url with ⟨-, rfl⟩ | ⟨-, sanitized, -, rfl⟩
    · cases hfield
    · rw [List.mem_singleton] at hfield
      rw [hfield]
  rw [hpayload]
  simp only [processFields_append, valuesOf_append]
  refine ⟨?_, ?_, ?_⟩
  · rw [valuesOf_username hparts.username, valuesOf_other hparts.password (by decide) (by decide),
      valuesOf_other hparts.domain (by decide) (by decide),
      valuesOf_other hparts.url (by decide) (by decide),
      valuesOf_other hparts.totp (by decide) (by decide),
      valuesOf_other hparts.email (by decide) (by decide)]
    simp
  · rw [valuesOf_totp lawful hparts.totp, valuesOf_other hparts.username (by decide) (by decide),
      valuesOf_other hparts.password (by decide) (by decide),
      valuesOf_other hparts.domain (by decide) (by decide),
      valuesOf_other hparts.url (by decide) (by decide),
      valuesOf_other hparts.email (by decide) (by decide)]
    simp
  · rw [valuesOf_domain lawful hparts.url hurl,
      valuesOf_other hparts.username (by decide) (by decide),
      valuesOf_other hparts.password (by decide) (by decide),
      valuesOf_domain_skipped hparts.domain,
      valuesOf_other hparts.totp (by decide) (by decide),
      valuesOf_other hparts.email (by decide) (by decide)]
    simp

theorem no_sensitive (hhanded : (finalProcessing importer folderId data).payload = some payload)
    {field : Field} (hfield : field ∈ payload.credentialFields) :
    field.fieldType ≠ .sensitive := by
  obtain ⟨fields, hfields, -, hpayload⟩ := credentialFields_of_handed hhanded
  rw [hpayload] at hfield
  obtain ⟨source, hsource, hout⟩ := List.mem_flatMap.mp hfield
  obtain ⟨given, hgiven, hsanitized⟩ := mem_of_mapM_eq_ok hfields hsource
  obtain ⟨value, -, hbuilt⟩ := bind_eq_ok.mp hsanitized
  cases hbuilt
  apply not_sensitive _ hout
  simp only [importFields, fieldFor, List.mem_append, List.mem_ite_nil_right,
    List.mem_singleton] at hgiven
  rcases hgiven with ((((⟨-, rfl⟩ | ⟨-, rfl⟩) | ⟨-, rfl⟩) | ⟨-, rfl⟩) | ⟨-, rfl⟩) | ⟨-, rfl⟩
  all_goals rfl

theorem exists_payload (hsuccess : (finalProcessing importer folderId data).success = true) :
    ∃ payload, (finalProcessing importer folderId data).payload = some payload := by
  rcases finalProcessing_cases importer folderId data with
    ⟨-, hfailed⟩ | ⟨payload, -, hpayload, -⟩
  · rw [hfailed] at hsuccess
    cases hsuccess
  · exact ⟨payload, hpayload⟩

theorem mem_valuesOf {fieldName value : String} {fields : List Field} :
    value ∈ valuesOf fieldName fields ↔
      ∃ field ∈ fields, field.fieldName = fieldName ∧ field.fieldValue = value := by
  simp [valuesOf, and_assoc]

theorem stored_iff_clean {fields : List Field} {username : Option String}
    (hvalues : valuesOf "Username" fields =
      if cleaned (username.getD "") = "" then [] else [cleaned (username.getD "")]) :
    (isTruthy username = true → ∃ field ∈ fields, field.fieldName = "Username" ∧
        some field.fieldValue = username) ↔ IsClean (username.getD "") := by
  rw [← cleaned_eq_iff]
  cases username with
  | none => exact iff_of_true (fun htruthy => by cases htruthy) (by decide)
  | some text =>
      simp only [Option.getD_some, Option.some.injEq] at hvalues ⊢
      rw [← mem_valuesOf, hvalues]
      by_cases htext : text = ""
      · subst htext
        exact iff_of_true (fun htruthy => by cases htruthy) (by decide)
      · simp only [isTruthy, Option.getD_some, ne_eq, htext, not_false_eq_true, decide_true,
          true_imp_iff]
        split
        · next hnone => simp [hnone, eq_comm, htext]
        · rw [List.mem_singleton, eq_comm]

end Import

def HandsOver (importer : Importer) (folderId : String) (platform : Platform) (row : CsvRow)
    (data : IntermediateCredential) : Prop :=
  ∃ payload, (finalProcessing importer folderId data).payload = some payload ∧
    SecretsSurvive importer platform row payload

def exampleImporter : Importer where
  toBrowser := browserOf [(exampleUrl.href, exampleUrl)]
  setProtocol url _ := url
  toUpperCase char := [char.toUpper]
  purifyText text := text
  purifyUrl text := text
  addCredential _ _ := .ok ()

theorem parse_example {text : String} {url : ParsedUrl}
    (hparse : exampleImporter.parseUrl text = some url) : url = exampleUrl := by
  dsimp only [exampleImporter, browserOf, List.lookup] at hparse
  split at hparse
  · exact (Option.some.inj hparse).symm
  · cases hparse

theorem lawful_exampleImporter : exampleImporter.Lawful where
  upper_ascii char _ := rfl
  upper_space char hspace := by
    simp only [isSpace, Bool.or_eq_true, Bool.and_eq_true, decide_eq_true_eq, List.mem_cons,
      List.not_mem_nil, or_false] at hspace
    simp only [exampleImporter]
    rw [toUpper_of_not_lower (by omega)]
  parse_empty := by decide
  hostname_https _ := rfl
  parse_href text url hparse := by
    rw [parse_example hparse]
    decide
  href_plain text url hparse := by
    have hplain : exampleUrl.href.toList.all (fun char => !isControl char) = true := by
      decide
    intro char hchar
    rw [parse_example hparse] at hchar
    simpa using List.all_eq_true.mp hplain char hchar

def dashlaneRow (column : String) : Option String :=
  List.lookup column [("title", "Mail"), ("url", exampleUrl.href), ("username", "ann"),
    ("password", ""), ("otpSecret", "jbsw y3dp ehpk 3pxp"), ("note", "")]

def onepasswordRow (column : String) : Option String :=
  List.lookup column [("Title", "Mail"), ("Url", exampleUrl.href), ("Username", "ann"),
    ("Password", "secret"), ("OTPAuth", "otpauth://totp/a?secret=JBSWY3DPEHPK3PXP"),
    ("Notes", "")]

def onepasswordPayload : CredentialPayload where
  name := "Mail"
  description := ""
  credentialType := "Login"
  credentialFields :=
    [⟨"Username", "ann", .metaField⟩, ⟨"Password", "secret", .metaField⟩,
      ⟨"Domain", "a.example", .additional⟩, ⟨"URL", "https://a.example/", .metaField⟩,
      ⟨"TOTP", "OTPAUTHTOTPASECRETJBSWY3DPEHPK3PXP", .totp⟩]

end Osvauld.PasswordManager
