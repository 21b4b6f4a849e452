import RestQuery.Connection.Settings
import RestQuery.Error
import RestQuery.Text.Blank

/-!
# Configurations

The address of a server with connection settings. An address is accepted with
white space around it, and kept as it was given, if it starts with one of the
two schemes that can be requested.
-/

namespace RestQuery

/-- An address with settings. -/
structure Config where
  url : String
  settings : Settings
  deriving DecidableEq

namespace Config

/-- The text starts with a scheme that can be requested. -/
def hasScheme (s : List Char) : Bool :=
  Text.startsWith "http://".toList s || Text.startsWith "https://".toList s

/-- The configuration, if its address can be requested. -/
def checked (config : Config) : Except Error Config :=
  if hasScheme (Text.trim config.url.toList) then .ok config
  else .error (.config (.unsupportedUrl config.url))

/-- A setting that a variable may give. -/
def settingOf
    (lookup : String → Option String)
    (name : String)
    (set : Settings → String → Settings)
    (settings : Settings) :
    Settings :=
  match lookup name with
  | some value => set settings value
  | none => settings

/-- The settings that variables give. -/
def settingsOf (lookup : String → Option String) : Settings :=
  settingOf lookup "PGREST_BEARER" Settings.withBearer
    (settingOf lookup "PGREST_API_KEY" Settings.withApiKey
      (settingOf lookup "PGREST_SCHEMA" Settings.withSchema {}))

/-- The configuration that variables give; the address must be among them. -/
def ofVariables (lookup : String → Option String) : Except Error Config :=
  match lookup "PGREST_URL" with
  | none => .error (.config .missingUrl)
  | some url => checked ⟨url, settingsOf lookup⟩

end Config
end RestQuery
