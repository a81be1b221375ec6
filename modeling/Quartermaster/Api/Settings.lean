import Quartermaster.Text.Blank
import Quartermaster.Text.Case

/-!
Settings from named values, such as an environment. Names count in any case, unknown names do not
count at all, and no known name may occur twice. Slashes at the end of addresses are dropped.
-/

namespace Quartermaster.Api

open Quartermaster.Text

inductive SettingName
  | apiUrl
  | apiPublicUrl
  | appUrl
  | prodErrorMessages
  | disabledCcpwgl
  | prodUrl
  | datetimeFormat
  | vapidPublicKey
  | vapidPrivateKey
  | vapidContact
  | sharedSecret
  | esiUrl
  | sunTypesFile
  deriving DecidableEq, Repr

namespace SettingName

def text : SettingName → String
  | .apiUrl => "api_url"
  | .apiPublicUrl => "api_public_url"
  | .appUrl => "app_url"
  | .prodErrorMessages => "prod_error_messages"
  | .disabledCcpwgl => "disabled_ccpwgl"
  | .prodUrl => "prod_url"
  | .datetimeFormat => "datetime_format"
  | .vapidPublicKey => "vapid_public_key"
  | .vapidPrivateKey => "vapid_private_key"
  | .vapidContact => "vapid_contact"
  | .sharedSecret => "shared_secret"
  | .esiUrl => "esi_url"
  | .sunTypesFile => "sun_types_file"

def all : List SettingName :=
  [.apiUrl, .apiPublicUrl, .appUrl, .prodErrorMessages, .disabledCcpwgl, .prodUrl,
    .datetimeFormat, .vapidPublicKey, .vapidPrivateKey, .vapidContact, .sharedSecret, .esiUrl,
    .sunTypesFile]

/-- The name that a text is in any case. -/
def ofText? (text : String) : Option SettingName :=
  all.find? fun name => name.text = String.ofList (lower text.toList)

end SettingName

inductive SettingsError
  | missing (name : SettingName)
  | duplicate (name : SettingName)
  deriving DecidableEq, Repr

def SettingsError.message : SettingsError → String
  | .missing name => "missing value for field " ++ name.text
  | .duplicate name => "duplicate field `" ++ name.text ++ "`"

/-- The settings of the program. Addresses have no slash at the end. -/
structure Settings where
  apiUrl : String
  apiPublicUrl : Option String
  appUrl : String
  prodErrorMessages : Bool
  disabledCcpwgl : Bool
  prodUrl : String
  datetimeFormat : String
  vapidPublicKey : Option String
  vapidPrivateKey : Option String
  vapidContact : Option String
  sharedSecret : Option String
  esiUrl : String
  sunTypesFile : Option String
  deriving DecidableEq, Repr

namespace Settings

def trimSlashes (address : String) : String :=
  String.ofList (dropEndWhile (· = '/') address.toList)

def known (assignments : List (String × String)) : List (SettingName × String) :=
  assignments.filterMap fun (name, value) => (SettingName.ofText? name).map (·, value)

def firstRepeated? : List (SettingName × String) → List SettingName → Option SettingName
  | [], _ => none
  | (name, _) :: rest, seen =>
    if name ∈ seen then some name else firstRepeated? rest (name :: seen)

/-- A flag is on when it is set to exactly the word true. -/
def flag (value : Option String) (unset : Bool) : Bool :=
  match value with
  | some text => text = "true"
  | none => unset

def defaultProdUrl : String := "https://my.minmatar.org"

def defaultDatetimeFormat : String := "%Y-%m-%d %H:%M"

def defaultEsiUrl : String := "https://esi.evetech.net/latest"

/-- The settings of the two required addresses and the values of the other names. -/
def ofValues (apiUrl appUrl : String) (optional : SettingName → Option String) : Settings where
  apiUrl := trimSlashes apiUrl
  apiPublicUrl := (optional .apiPublicUrl).map trimSlashes
  appUrl := trimSlashes appUrl
  prodErrorMessages := flag (optional .prodErrorMessages) false
  disabledCcpwgl := flag (optional .disabledCcpwgl) true
  prodUrl := (optional .prodUrl).getD defaultProdUrl
  datetimeFormat := (optional .datetimeFormat).getD defaultDatetimeFormat
  vapidPublicKey := optional .vapidPublicKey
  vapidPrivateKey := optional .vapidPrivateKey
  vapidContact := optional .vapidContact
  sharedSecret := optional .sharedSecret
  esiUrl := trimSlashes ((optional .esiUrl).getD defaultEsiUrl)
  sunTypesFile := optional .sunTypesFile

def ofVariables (assignments : List (String × String)) : Except SettingsError Settings := do
  let values := known assignments
  if let some name := firstRepeated? values [] then throw (.duplicate name)
  let required (name : SettingName) : Except SettingsError String :=
    match values.lookup name with
    | some value => .ok value
    | none => .error (.missing name)
  let apiUrl ← required .apiUrl
  let appUrl ← required .appUrl
  return ofValues apiUrl appUrl fun name => values.lookup name

def publicUrl (settings : Settings) : String :=
  settings.apiPublicUrl.getD settings.apiUrl

def loginUrl (settings : Settings) : String :=
  settings.publicUrl ++ "/api/users/login?redirect_url=" ++ settings.appUrl ++ "/auth/login"

def friendLoginUrl (settings : Settings) : String :=
  settings.apiUrl ++ "/api/users/login?redirect_url=" ++ settings.appUrl ++ "/friend/login"

def pageUrl (settings : Settings) (path : String) : String := settings.appUrl ++ path

end Settings

end Quartermaster.Api
