import Billing.Service.Form
import Billing.Settings.Company

/-!
# Company settings over the service

The settings of the issuing company can be looked at (`showSettings`) and replaced
(`saveSettings`). Only the known fields are shown and stored, and all of them are texts.
-/

namespace Billing.Service

/-- The fields of the settings that may be left empty. -/
def optionalSettings : List String :=
  ["representative", "postal_code", "address", "phone", "email", "bank_info", "seal_text"]

/-- The fields of the settings. -/
def settingNames : List String := "company_name" :: optionalSettings

/-- The settings that a form holds. -/
def settingsForm (form : Form) : Checked Form :=
  let read (name : String) (x : Checked Text.Raw) : Checked (Text.Raw × Json) :=
    (fun s => (name, .ofRaw s)) <$> x
  List.cons <$> read "company_name" (requiredText form "company_name") <*>
    optionalSettings.foldr
      (fun name rest => List.cons <$> read name (defaultText form name "") <*> rest) (pure [])

/-- The known fields of the settings. -/
def knownSettings (settings : CompanySettings) : Form :=
  settingNames.map fun (name : String) => (name, (settings.find? name).getD (.str ""))

/-- The message about settings of which some are no texts. -/
def settingsError (count : Nat) : String :=
  toString count ++ (if count = 1 then " validation error" else " validation errors") ++
    " for CompanyConfig"

/-- The settings, if all of them are texts. -/
def showSettings (store : SettingsStore) (env : Environment) : Response :=
  let (settings, warned) := store.load env
  let known := knownSettings settings
  let response : Response := match (known.filter (·.2.raw?.isNone)).length with
    | 0 => { content := .json (.obj known) }
    | count => Response.refusal 500 (.str (settingsError count))
  response.after (if warned then [settingsWarning] else [])

/-- The store with the settings of a form in it, and the response. -/
def saveSettings (store : SettingsStore) (r : Request) : Response × SettingsStore :=
  match r.form with
  | .error e => (e.response, store)
  | .ok form =>
    match settingsForm form with
    | .refused problems => (unprocessable problems, store)
    | .accepted settings =>
      let (store, saved) := store.save (.obj settings)
      let response : Response :=
        if saved then
          { content := .json (.obj [("success", .bool true),
              ("message", .str "自社情報を保存しました")]) }
        else (Response.refusal 500 (.str "保存に失敗しました")).after [saveError]
      (response, store)

end Billing.Service
