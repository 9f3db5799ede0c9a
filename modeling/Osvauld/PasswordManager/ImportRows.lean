import Osvauld.Data.Lists

namespace Osvauld.PasswordManager

open Data

/-! Credentials from the rows of a CSV file that another password manager has written. -/

/-- A row by the names of the columns. A row that is cut short has no value for the last
of them. -/
abbrev CsvRow := String → Option String

structure ParsedUrl where
  protocol : String
  hostname : String
  href : String
deriving DecidableEq

structure Browser where
  /-- `new URL`, which throws where there is none. -/
  parseUrl : String → Option ParsedUrl
  /-- `new Date` of the number that the text stands for, as a text again. -/
  dateText : Option String → String

inductive Platform where
  | safari
  | firefox
  | chrome
  | opera
  | bitwarden
  | edge
  | dashlane
  | onepassword
  | nordpass
  | keepass
  | protonpass
  | lastpass
  | roboform
deriving DecidableEq, Repr

structure IntermediateCredential where
  name : Option String
  description : Option String
  domain : Option String
  username : Option String
  password : Option String
  totp : Option String := none
  email : Option String := none
deriving DecidableEq, Repr

def isTruthy (value : Option String) : Bool := value.getD "" ≠ ""

def extractUsername (username email : Option String) : Option String :=
  if isTruthy username then username else email

def extractSecret : List Char → Option (List Char)
  | [] => none
  | first :: rest =>
      let value := (rest.drop "secret=".length).takeWhile fun char => char ≠ '&'
      if (first = '?' ∨ first = '&') ∧ "secret=".toList <+: rest ∧ value ≠ [] then some value
      else extractSecret rest

def extractTOTPSecret (uri : String) : Option String :=
  (extractSecret uri.toList).map String.ofList

def hasColumns (columns : List String) (credential : CsvRow) : Bool :=
  columns.all fun column => (credential column).isSome

def isSafariCredential : CsvRow → Bool := hasColumns ["Title", "URL"]

def isFirefoxCredential : CsvRow → Bool := hasColumns ["url", "guid"]

def isDashlaneCredential : CsvRow → Bool := hasColumns ["username", "url", "note"]

def isKeepassCredential : CsvRow → Bool := hasColumns ["Web Site", "Login Name", "Comments"]

def isRoboformCredential : CsvRow → Bool := hasColumns ["MatchUrl", "Pwd", "Login"]

def isNordpassCredential : CsvRow → Bool := hasColumns ["name", "url", "note"]

def is1passwordCredential : CsvRow → Bool := hasColumns ["Title", "Url", "OTPAuth"]

def isChromeCredential : CsvRow → Bool := hasColumns ["name", "url", "note"]

def isLastpassCredential : CsvRow → Bool := hasColumns ["name", "url"]

def isBitwardenCredential : CsvRow → Bool := hasColumns ["login_username", "login_uri"]

def isProtonCredential : CsvRow → Bool := hasColumns ["username", "email"]

section Transforms

variable (browser : Browser) (parsedData : List CsvRow)

def newUrl (text : Option String) : Except String ParsedUrl :=
  match browser.parseUrl (text.getD "undefined") with
  | some url => .ok url
  | none => .error "Invalid URL"

def safariCredential (credential : CsvRow) : IntermediateCredential :=
  { name := credential "Title"
    description := credential "Notes"
    domain := credential "URL"
    username := credential "Username"
    password := credential "Password" }

def transformSafariCredentials : List IntermediateCredential :=
  (parsedData.filter isSafariCredential).map safariCredential

def firefoxCredential (credential : CsvRow) : Except String IntermediateCredential := do
  let url ← newUrl browser (credential "url")
  return {
    name := some ("Login - " ++ url.hostname)
    description := some ("Created on " ++ browser.dateText (credential "timeCreated"))
    domain := credential "url"
    username := credential "username"
    password := credential "password" }

def transformFirefoxCredentials : Except String (List IntermediateCredential) :=
  (parsedData.filter isFirefoxCredential).mapM (firefoxCredential browser)

def chromeCredential (credential : CsvRow) : IntermediateCredential :=
  { name := credential "name"
    description := credential "note"
    domain := credential "url"
    username := credential "username"
    password := credential "password" }

def transformChromeCredentials : List IntermediateCredential :=
  (parsedData.filter isChromeCredential).map chromeCredential

def lastpassCredential (credential : CsvRow) : IntermediateCredential :=
  { name := credential "name"
    description := credential "extra"
    domain := credential "url"
    username := credential "username"
    password := credential "password"
    totp := credential "totp" }

def transformLastpassCredentials : List IntermediateCredential :=
  ((parsedData.filter isLastpassCredential).filter fun credential =>
    isTruthy (credential "username") && isTruthy (credential "password")).map lastpassCredential

def bitwardenCredential (credential : CsvRow) : IntermediateCredential :=
  { name := credential "name"
    description := credential "notes"
    domain := credential "login_uri"
    username := credential "login_username"
    password := credential "login_password"
    totp := credential "login_totp" }

def transformBitwardenCredentials : List IntermediateCredential :=
  ((parsedData.filter isBitwardenCredential).filter fun credential =>
    credential "type" = some "login").map bitwardenCredential

def protonpassCredential (credential : CsvRow) : IntermediateCredential :=
  let extractedUsername := extractUsername (credential "username") (credential "email")
  { name := credential "name"
    description := credential "note"
    domain := credential "url"
    username := extractedUsername
    password := credential "password"
    email :=
      if extractedUsername = credential "username" ∧ isTruthy (credential "email") then
        credential "email"
      else none
    totp :=
      if isTruthy (credential "totp") then (credential "totp").bind extractTOTPSecret
      else none }

def transformProtonpassCredentials : List IntermediateCredential :=
  ((parsedData.filter isProtonCredential).filter fun credential =>
    credential "type" = some "login").map protonpassCredential

def dashlaneCredential (credential : CsvRow) : IntermediateCredential :=
  { name := credential "title"
    description := credential "note"
    domain := credential "url"
    username := credential "username"
    password := credential "password"
    totp := credential "otpSecret" }

def transformDashlaneCredentials : List IntermediateCredential :=
  (parsedData.filter isDashlaneCredential).map dashlaneCredential

def nordpassCredential (credential : CsvRow) : IntermediateCredential :=
  { name := credential "name"
    description := credential "note"
    domain := credential "url"
    username := credential "username"
    password := credential "password" }

def transformNordpassCredentials : List IntermediateCredential :=
  ((parsedData.filter isNordpassCredential).filter fun credential =>
    credential "type" = some "password").map nordpassCredential

def keepassCredential (credential : CsvRow) : Except String IntermediateCredential := do
  let url ← newUrl browser (credential "Web Site")
  return {
    name := some ("Login - " ++ url.hostname)
    description := credential "Comments"
    domain := credential "Web Site"
    username := credential "Login Name"
    password := credential "Password" }

def transformKeepassCredentials : Except String (List IntermediateCredential) :=
  (parsedData.filter isKeepassCredential).mapM (keepassCredential browser)

def roboformCredential (credential : CsvRow) : IntermediateCredential :=
  { name := credential "Name"
    description := credential "Note"
    domain := credential "Url"
    username := credential "Login"
    password := credential "Pwd" }

def transformRoboformCredentials : List IntermediateCredential :=
  (parsedData.filter isRoboformCredential).map roboformCredential

def onepasswordCredential (credential : CsvRow) : IntermediateCredential :=
  { name := credential "Title"
    description := credential "Notes"
    domain := credential "Url"
    username := credential "Username"
    password := credential "Password"
    totp := credential "OTPAuth" }

def transformOnepasswordCredentials : List IntermediateCredential :=
  (parsedData.filter is1passwordCredential).map onepasswordCredential

def manageParsedData (platform : Platform) : Except String (List IntermediateCredential) :=
  match platform with
  | .safari => .ok (transformSafariCredentials parsedData)
  | .firefox => transformFirefoxCredentials browser parsedData
  | .chrome => .ok (transformChromeCredentials parsedData)
  | .opera => .ok (transformChromeCredentials parsedData)
  | .edge => .ok (transformChromeCredentials parsedData)
  | .lastpass => .ok (transformLastpassCredentials parsedData)
  | .bitwarden => .ok (transformBitwardenCredentials parsedData)
  | .protonpass => .ok (transformProtonpassCredentials parsedData)
  | .dashlane => .ok (transformDashlaneCredentials parsedData)
  | .nordpass => .ok (transformNordpassCredentials parsedData)
  | .keepass => transformKeepassCredentials browser parsedData
  | .roboform => .ok (transformRoboformCredentials parsedData)
  | .onepassword => .ok (transformOnepasswordCredentials parsedData)

/-- What is thrown is caught here, for the whole file. -/
def parseCsvLogins (platform : Platform) : List IntermediateCredential :=
  match manageParsedData browser parsedData platform with
  | .ok intermediateData => intermediateData
  | .error _ => []

end Transforms

namespace Platform

def urlColumn : Platform → String
  | .safari => "URL"
  | .bitwarden => "login_uri"
  | .keepass => "Web Site"
  | .roboform => "Url"
  | .onepassword => "Url"
  | _ => "url"

def usernameColumn : Platform → String
  | .safari => "Username"
  | .bitwarden => "login_username"
  | .keepass => "Login Name"
  | .roboform => "Login"
  | .onepassword => "Username"
  | _ => "username"

def passwordColumn : Platform → String
  | .safari => "Password"
  | .bitwarden => "login_password"
  | .keepass => "Password"
  | .roboform => "Pwd"
  | .onepassword => "Password"
  | _ => "password"

/-- In a row of Protonpass the e-mail stands in for a user name that is not there. -/
def rowUsername (platform : Platform) (row : CsvRow) : Option String :=
  match platform with
  | .protonpass => extractUsername (row "username") (row "email")
  | _ => row platform.usernameColumn

def rowPassword (platform : Platform) (row : CsvRow) : Option String :=
  row platform.passwordColumn

def taken (platform : Platform) (row : CsvRow) : Bool :=
  match platform with
  | .safari => isSafariCredential row
  | .firefox => isFirefoxCredential row
  | .chrome => isChromeCredential row
  | .opera => isChromeCredential row
  | .edge => isChromeCredential row
  | .lastpass =>
      (isTruthy (row "username") && isTruthy (row "password")) && isLastpassCredential row
  | .bitwarden => row "type" = some "login" && isBitwardenCredential row
  | .protonpass => row "type" = some "login" && isProtonCredential row
  | .dashlane => isDashlaneCredential row
  | .nordpass => row "type" = some "password" && isNordpassCredential row
  | .keepass => isKeepassCredential row
  | .roboform => isRoboformCredential row
  | .onepassword => is1passwordCredential row

def credential (browser : Browser) (platform : Platform) (row : CsvRow) :
    Except String IntermediateCredential :=
  match platform with
  | .safari => .ok (safariCredential row)
  | .firefox => firefoxCredential browser row
  | .chrome => .ok (chromeCredential row)
  | .opera => .ok (chromeCredential row)
  | .edge => .ok (chromeCredential row)
  | .lastpass => .ok (lastpassCredential row)
  | .bitwarden => .ok (bitwardenCredential row)
  | .protonpass => .ok (protonpassCredential row)
  | .dashlane => .ok (dashlaneCredential row)
  | .nordpass => .ok (nordpassCredential row)
  | .keepass => keepassCredential browser row
  | .roboform => .ok (roboformCredential row)
  | .onepassword => .ok (onepasswordCredential row)

def Unreadable (browser : Browser) (platform : Platform) (row : CsvRow) : Prop :=
  (platform = .firefox ∨ platform = .keepass) ∧
    browser.parseUrl ((row platform.urlColumn).getD "undefined") = none

instance (browser : Browser) (platform : Platform) (row : CsvRow) :
    Decidable (platform.Unreadable browser row) :=
  inferInstanceAs (Decidable (_ ∧ _))

end Platform

section Rows

variable (browser : Browser) (platform : Platform) (front back : List CsvRow)

def CarriesLogin (row : CsvRow) : Prop :=
  isTruthy (platform.rowUsername row) = true ∧ isTruthy (platform.rowPassword row) = true

/-- Two lists of rows yield what each of them does, no row takes the credential of another
one away, and a row with a user name and a password has one. -/
structure RowsIndependent : Prop where
  concat : parseCsvLogins browser (front ++ back) platform =
    parseCsvLogins browser front platform ++ parseCsvLogins browser back platform
  kept : ∀ row ∈ front ++ back, ∀ credential ∈ parseCsvLogins browser [row] platform,
    credential ∈ parseCsvLogins browser (front ++ back) platform
  yields : ∀ row ∈ front ++ back, CarriesLogin platform row →
    parseCsvLogins browser [row] platform ≠ []

/-- No URL that is read is malformed (or each one is), and no row with a user name and a
password is left out. -/
structure RowsRead : Prop where
  readable : (∀ row ∈ front ++ back, platform.taken row = true →
      ¬ platform.Unreadable browser row) ∨
    ∀ row ∈ front ++ back, platform.taken row = true → platform.Unreadable browser row
  taken : ∀ row ∈ front ++ back, CarriesLogin platform row →
    platform.taken row = true ∧ ¬ platform.Unreadable browser row

end Rows

variable {browser : Browser} {platform : Platform}

variable {row : CsvRow}

theorem throws_newUrl {text : CsvRow → Option String}
    {build : CsvRow → ParsedUrl → IntermediateCredential} :
    Throws (fun row => do let url ← newUrl browser (text row); return build row url) row ↔
      browser.parseUrl ((text row).getD "undefined") = none := by
  rw [← not_iff_not, not_throws]
  unfold newUrl
  cases browser.parseUrl ((text row).getD "undefined") with
  | none => simp [bind, Except.bind]
  | some url => simp [bind, Except.bind, pure, Except.pure]

theorem throws_credential :
    Throws (platform.credential browser) row ↔ platform.Unreadable browser row := by
  cases platform with
  | firefox => exact throws_newUrl.trans (by simp [Platform.Unreadable, Platform.urlColumn])
  | keepass => exact throws_newUrl.trans (by simp [Platform.Unreadable, Platform.urlColumn])
  | _ => simp [Throws, Platform.credential, Platform.Unreadable]

theorem manageParsedData_eq (rows : List CsvRow) :
    manageParsedData browser rows platform =
      (rows.filter platform.taken).mapM (platform.credential browser) := by
  have hmap : ∀ (left : List CsvRow) (build : CsvRow → IntermediateCredential),
      (.ok (left.map build) : Except String (List IntermediateCredential)) =
        left.mapM fun row => .ok (build row) := by
    intro left build
    exact (@List.mapM_pure (Except String) _ _ _ _ left build).symm
  have hfilter : ∀ (guard more : CsvRow → Bool) (build : CsvRow → IntermediateCredential),
      (.ok (((rows.filter guard).filter more).map build) :
          Except String (List IntermediateCredential)) =
        (rows.filter fun row => more row && guard row).mapM fun row => .ok (build row) := by
    intro guard more build
    rw [List.filter_filter, hmap]
  cases platform with
  | firefox => rfl
  | keepass => rfl
  | lastpass => exact hfilter _ _ _
  | bitwarden => exact hfilter _ _ _
  | protonpass => exact hfilter _ _ _
  | nordpass => exact hfilter _ _ _
  | _ => exact hmap _ _

theorem parseCsvLogins_eq (rows : List CsvRow) :
    parseCsvLogins browser rows platform =
      allOrNone (platform.credential browser) (rows.filter platform.taken) := by
  rw [parseCsvLogins, manageParsedData_eq, allOrNone]
  cases (rows.filter platform.taken).mapM (platform.credential browser) with
  | ok results => rfl
  | error error => rfl

theorem mem_parse_row {credential : IntermediateCredential} :
    credential ∈ parseCsvLogins browser [row] platform ↔
      platform.taken row = true ∧ platform.credential browser row = .ok credential := by
  rw [parseCsvLogins_eq]
  by_cases htaken : platform.taken row = true
  · rw [List.filter_cons_of_pos htaken, List.filter_nil]
    cases hrow : platform.credential browser row with
    | ok result => simp [allOrNone, hrow, htaken, pure, Except.pure, bind, Except.bind, eq_comm]
    | error error => simp [allOrNone, hrow, bind, Except.bind]
  · rw [List.filter_cons_of_neg htaken]
    simp [allOrNone, htaken, pure, Except.pure]

theorem parse_row_ne_nil :
    parseCsvLogins browser [row] platform ≠ [] ↔
      platform.taken row = true ∧ ¬ platform.Unreadable browser row := by
  rw [← throws_credential, not_throws, Ne, List.eq_nil_iff_forall_not_mem]
  simp only [mem_parse_row, not_forall, not_not, exists_and_left]

theorem concat_kept_iff {front back : List CsvRow} :
    (parseCsvLogins browser (front ++ back) platform =
        parseCsvLogins browser front platform ++ parseCsvLogins browser back platform ∧
      ∀ row ∈ front ++ back, ∀ credential ∈ parseCsvLogins browser [row] platform,
        credential ∈ parseCsvLogins browser (front ++ back) platform) ↔
    ((∀ row ∈ front ++ back, platform.taken row = true → ¬ platform.Unreadable browser row) ∨
      ∀ row ∈ front ++ back, platform.taken row = true → platform.Unreadable browser row) := by
  have hrows := @allOrNone_independent_iff _ _ _ (platform.credential browser)
    (front.filter platform.taken) (back.filter platform.taken)
  rw [← List.filter_append] at hrows
  simp only [List.mem_filter, and_imp, throws_credential] at hrows
  rw [← hrows, parseCsvLogins_eq, parseCsvLogins_eq front, parseCsvLogins_eq back]
  apply and_congr_right
  intro _
  simp only [mem_parse_row, and_imp]
  constructor
  · exact fun hkept row hrow htaken credential => hkept row hrow credential htaken
  · exact fun hkept row hrow credential htaken => hkept row hrow htaken credential

/-- The rows are independent of each other exactly when they are all read, but for rows
without a user name or a password that a filter takes out. -/
theorem rowsIndependent_iff {front back : List CsvRow} :
    RowsIndependent browser platform front back ↔ RowsRead browser platform front back := by
  constructor
  · rintro ⟨hconcat, hkept, hyields⟩
    exact ⟨concat_kept_iff.mp ⟨hconcat, hkept⟩, fun row hrow hlogin =>
      parse_row_ne_nil.mp (hyields row hrow hlogin)⟩
  · rintro ⟨hreadable, htaken⟩
    obtain ⟨hconcat, hkept⟩ := concat_kept_iff.mpr hreadable
    exact ⟨hconcat, hkept, fun row hrow hlogin =>
      parse_row_ne_nil.mpr (htaken row hrow hlogin)⟩

def browserOf (urls : List (String × ParsedUrl)) : Browser where
  parseUrl text := List.lookup text urls
  dateText _ := "Invalid Date"

def exampleUrl : ParsedUrl := ⟨"https:", "a.example", "https://a.example/"⟩

def firefoxRow (url column : String) : Option String :=
  List.lookup column [("url", url), ("username", "ann"), ("password", "secret"), ("guid", "1")]

/-- The malformed row takes the credential of the other one away. -/
theorem firefox_file_lost :
    ¬ RowsIndependent (browserOf [(exampleUrl.href, exampleUrl)]) .firefox
      [firefoxRow exampleUrl.href] [firefoxRow "a.example"] := by
  intro hindependent
  have hconcat := congrArg List.length hindependent.concat
  revert hconcat
  decide

end Osvauld.PasswordManager
