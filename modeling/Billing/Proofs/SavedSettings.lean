import Billing.Proofs.Json.Texts
import Billing.Service.Company
import Mathlib.Data.List.Induction

/-!
# Saved settings

A settings file under saves and loads in any order, where every save may be complete, may find that
the file cannot be opened, or may stop after any number of characters (`SettingsStore.Allows`).
Opening the file empties it. So what a load gives is settled by the last save that opened the file,
complete or not (`lastOpened?`): if its text was written to the end the defaults overlaid with it,
and else the defaults, with a warning. A save that fails leaves what loads give as it was only if it
could not open the file.

* `SettingsStore.exists_allowed_save`: what a save of any value does.
* `SettingsStore.load_saveTo`: what a load gives after one save.
* `SettingsStore.reply_of_replies`: the answers to any saves and loads in a row.
* `SettingsStore.kept_of_not_stopped`: if no save stops on the way, the last complete one is kept.
* `Service.saveSettings_cases`: a request saves texts.
-/

namespace Billing

/-- Settings to be saved: texts under distinct keys. -/
structure TextSettings where
  members : List (Text.Raw × Text.Raw)
  distinct : (members.map (·.1)).Nodup

namespace TextSettings

/-- The settings as a JSON value. -/
def toJson (x : TextSettings) : Json := .ofTexts x.members

/-- What a load gives where the file holds the settings. -/
def loaded (x : TextSettings) (env : Environment) : CompanySettings × Bool :=
  overlay (defaultSettings env) x.toJson

end TextSettings

/-- Whether a save that opened the file has written a text of this length to its end. -/
def SaveOutcome.reaches (length : Nat) : SaveOutcome → Bool
  | .written => true
  | .unopened => false
  | .stopped count => length ≤ count

namespace SettingsStore

/-- Whether a save of a value can get as far as that: only pieces without halves of characters are
written, and only if the directory is there. -/
def Allows (s : SettingsStore) (value : Json) : SaveOutcome → Prop
  | .unopened => True
  | .written => s.reachable ∧ value.indentedPieces.all (·.isWhole)
  | .stopped count =>
    s.reachable ∧ count ≤ (Json.join (value.indentedPieces.takeWhile (·.isWhole))).length

/-- A save gets as far as it can. -/
theorem exists_allowed_save (s : SettingsStore) (value : Json) :
    ∃ outcome, s.Allows value outcome ∧ s.save value = s.saveTo value outcome := by
  unfold save
  by_cases hreachable : s.reachable
  · by_cases hwhole : value.indentedPieces.all (·.isWhole)
    · exact ⟨.written, ⟨hreachable, hwhole⟩, by simp only [hreachable, hwhole]; rfl⟩
    · exact ⟨.stopped _, ⟨hreachable, Nat.le_refl _⟩, by simp only [hreachable, hwhole]; rfl⟩
  · exact ⟨.unopened, trivial, by simp only [hreachable]; rfl⟩

@[simp] theorem reachable_saveTo (s : SettingsStore) (value : Json) (outcome : SaveOutcome) :
    (s.saveTo value outcome).1.reachable = s.reachable := by
  cases outcome <;> rfl

/-- A load after a save of texts: a save that opened the file settles what it gives. -/
theorem load_saveTo {s : SettingsStore} {x : TextSettings} {outcome : SaveOutcome}
    (hallowed : s.Allows x.toJson outcome) (env : Environment) :
    (s.saveTo x.toJson outcome).1.load env =
      if outcome = .unopened then s.load env
      else if outcome.reaches x.toJson.indented.length then x.loaded env
      else (defaultSettings env, true) := by
  have hload {text : String} (hreachable : s.reachable) :
      load { s with file := some text } env = loadSettings env (some text) := by
    simp [load, text?, hreachable]
  have hwhole (h : x.toJson.indentedPieces.all (·.isWhole)) :
      loadSettings env (some x.toJson.indented) = x.loaded env := by
    have hread := Json.read_indented_ofTexts (Json.isWhole_of_all_isWhole h) x.distinct
    simp only [loadSettings, TextSettings.toJson, hread, TextSettings.loaded]
  cases outcome with
  | unopened => rfl
  | written => exact (hload hallowed.1).trans (hwhole hallowed.2)
  | stopped count =>
    refine (hload hallowed.1).trans ?_
    by_cases hend : x.toJson.indented.length ≤ count
    · have hall : x.toJson.indentedPieces.all (·.isWhole) := by
        by_contra h
        exact absurd (Json.length_takeWhile_lt (Bool.eq_false_iff.2 h))
          (Nat.not_lt.2 (Nat.le_trans hend hallowed.2))
      rw [List.take_of_length_le (by rwa [String.length_toList]), String.ofList_toList,
        hwhole hall]
      simp [SaveOutcome.reaches, hend]
    · obtain ⟨e, he⟩ : ∃ e, Json.read (String.ofList (x.toJson.indented.toList.take count)) =
          .error e := Json.exists_error_of_read_take x.members (Nat.not_le.1 hend)
      simp [loadSettings, he, SaveOutcome.reaches, hend]

end SettingsStore

/-! ## Saves and loads in a row -/

/-- What is asked of a settings file. -/
inductive SettingsAction where
  /-- A save that gets as far as said. -/
  | save (settings : TextSettings) (outcome : SaveOutcome)
  | load

/-- What is answered. -/
inductive SettingsReply where
  /-- Whether the save was complete. -/
  | saved (complete : Bool)
  /-- The settings, and whether there was a warning. -/
  | loaded (settings : CompanySettings × Bool)

/-- The settings of a save that opens the file, with how far it gets. -/
def SettingsAction.opened? : SettingsAction → Option (TextSettings × SaveOutcome)
  | .save _ .unopened | .load => none
  | .save x outcome => some (x, outcome)

/-- The settings of a complete save. -/
def SettingsAction.saved? : SettingsAction → Option TextSettings
  | .save x .written => some x
  | _ => none

/-- The last save that opened the file. -/
def lastOpened? (actions : List SettingsAction) : Option (TextSettings × SaveOutcome) :=
  (actions.filterMap SettingsAction.opened?).getLast?

namespace SettingsStore

/-- The store after an action, and the answer. -/
def perform (env : Environment) (s : SettingsStore) : SettingsAction → SettingsStore × SettingsReply
  | .save x outcome =>
    let (s, complete) := s.saveTo x.toJson outcome
    (s, .saved complete)
  | .load => (s, .loaded (s.load env))

/-- The store after actions in a row. -/
def after (env : Environment) (s : SettingsStore) (actions : List SettingsAction) : SettingsStore :=
  actions.foldl (fun s action => (s.perform env action).1) s

/-- The answers to actions in a row. -/
def replies (env : Environment) (s : SettingsStore) : List SettingsAction → List SettingsReply
  | [] => []
  | action :: actions => (s.perform env action).2 :: replies env (s.perform env action).1 actions

/-- What a load gives after actions in a row. -/
def kept (env : Environment) (s : SettingsStore) (actions : List SettingsAction) :
    CompanySettings × Bool :=
  match lastOpened? actions with
  | none => s.load env
  | some (x, outcome) =>
    if outcome.reaches x.toJson.indented.length then x.loaded env else (defaultSettings env, true)

variable {env : Environment} {s : SettingsStore}

theorem reachable_after (actions : List SettingsAction) :
    (s.after env actions).reachable = s.reachable := by
  induction actions using List.reverseRecOn with
  | nil => rfl
  | append_singleton actions action ih =>
    rw [after, List.foldl_append, List.foldl_cons, List.foldl_nil, ← after]
    cases action with
    | load => exact ih
    | save x outcome => exact (reachable_saveTo ..).trans ih

/-- Whether a save can get as far as that does not depend on what the file holds. -/
theorem allows_congr {s t : SettingsStore} (h : s.reachable = t.reachable) (value : Json)
    (outcome : SaveOutcome) : s.Allows value outcome ↔ t.Allows value outcome := by
  cases outcome <;> simp [Allows, h]

/-- What is kept after one more action is what a load gives after it. -/
theorem load_after {actions : List SettingsAction}
    (hallowed : ∀ x outcome, .save x outcome ∈ actions → s.Allows x.toJson outcome) :
    (s.after env actions).load env = s.kept env actions := by
  induction actions using List.reverseRecOn with
  | nil => rfl
  | append_singleton actions action ih =>
    have ih := ih fun x outcome h => hallowed x outcome (List.mem_append_left _ h)
    rw [after, List.foldl_append, List.foldl_cons, List.foldl_nil, ← after]
    cases action with
    | load =>
      refine ih.trans ?_
      simp [kept, lastOpened?, SettingsAction.opened?]
    | save x outcome =>
      have hsave : (s.after env actions).Allows x.toJson outcome :=
        (allows_congr (reachable_after actions) _ _).2 (hallowed x outcome (by simp))
      refine (load_saveTo hsave env).trans ?_
      cases outcome with
      | unopened =>
        rw [if_pos rfl, ih]
        simp [kept, lastOpened?, SettingsAction.opened?]
      | written => simp [kept, lastOpened?, SettingsAction.opened?]
      | stopped count => simp [kept, lastOpened?, SettingsAction.opened?]

theorem getElem?_replies (before rest : List SettingsAction) (action : SettingsAction) :
    (s.replies env (before ++ action :: rest))[before.length]? =
      some ((s.after env before).perform env action).2 := by
  induction before generalizing s with
  | nil => rfl
  | cons first before ih => simpa [replies, after] using ih

/-- If no save stops on the way, what is kept is what the last complete save has saved. -/
theorem kept_of_not_stopped {actions : List SettingsAction}
    (h : ∀ x count, .save x (.stopped count) ∉ actions) :
    s.kept env actions =
      match (actions.filterMap SettingsAction.saved?).getLast? with
      | none => s.load env
      | some x => x.loaded env := by
  have hopened : actions.filterMap SettingsAction.opened? =
      (actions.filterMap SettingsAction.saved?).map (·, .written) := by
    rw [List.map_filterMap]
    refine List.filterMap_congr fun action haction => ?_
    obtain ⟨x, _ | _ | count⟩ | _ := action
    · rfl
    · rfl
    · exact absurd haction (h x count)
    · rfl
  rw [kept, lastOpened?, hopened, List.getLast?_map]
  cases (actions.filterMap SettingsAction.saved?).getLast? <;> rfl

end SettingsStore

namespace Service

theorem Checked.map_accepted {α β : Type} {f : α → β} {x : Checked α} {y : β} :
    f <$> x = .accepted y ↔ ∃ a, x = .accepted a ∧ f a = y := by
  refine (seq_accepted (f := .accepted f)).trans ?_
  simp

/-- A member that is read is a text under its name. -/
theorem exists_of_readMember {name : String} {x : Checked Text.Raw} {m : Text.Raw × Json}
    (h : (fun s => (Text.Raw.whole name, Json.ofRaw s)) <$> x = .accepted m) :
    ∃ s, m = (.whole name, .ofRaw s) := by
  obtain ⟨s, -, rfl⟩ := Checked.map_accepted.1 h
  exact ⟨s, rfl⟩

/-- Members that are read one after the other are texts under their names. -/
theorem exists_of_readMembers (read : String → Checked Text.Raw) {names : List String}
    {settings : Form}
    (h : names.foldr (fun name rest => List.cons <$>
      ((fun s => (Text.Raw.whole name, Json.ofRaw s)) <$> read name) <*> rest) (pure []) =
        Checked.accepted settings) :
    ∃ ms : List (Text.Raw × Text.Raw), ms.map (·.1) = names.map .whole ∧
      settings = ms.map fun m => (m.1, .ofRaw m.2) := by
  induction names generalizing settings with
  | nil =>
    cases h
    exact ⟨[], rfl, rfl⟩
  | cons name names ih =>
    obtain ⟨_, rest, hname, hrest, rfl⟩ := Checked.seq_accepted.1 h
    obtain ⟨m, hm, rfl⟩ := Checked.map_accepted.1 hname
    obtain ⟨s, rfl⟩ := exists_of_readMember hm
    obtain ⟨ms, hms, rfl⟩ := ih hrest
    exact ⟨(.whole name, s) :: ms, by simp [hms], rfl⟩

/-- What a request saves are texts under the names of the settings. -/
theorem exists_of_settingsForm {form settings : Form} (h : settingsForm form = .accepted settings) :
    ∃ x : TextSettings,
      x.members.map (·.1) = settingNames.map .whole ∧ .obj settings = x.toJson := by
  obtain ⟨_, rest, hname, hrest, rfl⟩ := Checked.seq_accepted.1 h
  obtain ⟨m, hm, rfl⟩ := Checked.map_accepted.1 hname
  obtain ⟨s, rfl⟩ := exists_of_readMember hm
  obtain ⟨ms, hms, rfl⟩ := exists_of_readMembers (defaultText form · "") hrest
  have hnames : ((Text.Raw.whole "company_name", s) :: ms).map (·.1) =
      settingNames.map .whole := by
    simp [settingNames, hms]
  exact ⟨⟨_, hnames ▸ by decide⟩, hnames, rfl⟩

/-- A request either leaves the store as it is or saves texts, and then its status tells whether the
save was complete. -/
theorem saveSettings_cases (store : SettingsStore) (r : Request) :
    (saveSettings store r).2 = store ∨
      ∃ x : TextSettings, x.members.map (·.1) = settingNames.map .whole ∧
        (saveSettings store r).2 = (store.save x.toJson).1 ∧
        (saveSettings store r).1.status = if (store.save x.toJson).2 then 200 else 500 := by
  unfold saveSettings
  cases r.form with
  | error e => exact .inl rfl
  | ok form =>
    cases hform : settingsForm form with
    | refused problems => exact .inl (by simp [hform])
    | accepted settings =>
      obtain ⟨x, hnames, hx⟩ := exists_of_settingsForm hform
      refine .inr ⟨x, hnames, ?_⟩
      simp only [hform, hx, true_and]
      cases (store.save x.toJson).2 <;> rfl

end Service

/-- Settings of a company's name. -/
def nameSettings (name : Text.Raw) : TextSettings := ⟨[("company_name", name)], by simp⟩

/-- A name that is half a character. -/
def tornName : Text.Raw := .torn [.half 0xD800]

/-- A save of whole settings, and one that stops at half a character. -/
def tornSaves : List SettingsAction :=
  [.save (nameSettings "A") .written, .save (nameSettings tornName) (.stopped 20)]

namespace SettingsStore

variable {env : Environment} {s : SettingsStore}

/-- The answers among saves and loads in any order: a save says whether it was complete, and a load
gives what the last save that opened the file has left, whether or not that save was complete. -/
theorem reply_of_replies {before : List SettingsAction}
    (hallowed : ∀ x outcome, .save x outcome ∈ before → s.Allows x.toJson outcome)
    (action : SettingsAction) (rest : List SettingsAction) :
    (s.replies env (before ++ action :: rest))[before.length]? =
      match action with
      | .save _ outcome => some (.saved (outcome = .written))
      | .load => some (.loaded (s.kept env before)) := by
  rw [getElem?_replies]
  cases action with
  | save x outcome => cases outcome <;> rfl
  | load => rw [perform, load_after hallowed]

/-- A save that stops leaves the defaults. -/
theorem reply_of_tornSaves :
    (∀ x outcome, .save x outcome ∈ tornSaves →
        ({} : SettingsStore).Allows x.toJson outcome) ∧
      (({} : SettingsStore).replies [] (tornSaves ++ .load :: []))[2]? =
        some (.loaded (defaultSettings [], true)) := by
  have hallowed (x : TextSettings) (outcome : SaveOutcome) (h : .save x outcome ∈ tornSaves) :
      ({} : SettingsStore).Allows x.toJson outcome := by
    simp only [tornSaves, List.mem_cons, SettingsAction.save.injEq, List.not_mem_nil,
      or_false] at h
    obtain ⟨rfl, rfl⟩ | ⟨rfl, rfl⟩ := h
    · exact ⟨rfl, rfl⟩
    · exact ⟨rfl, by decide⟩
  exact ⟨hallowed, reply_of_replies hallowed .load []⟩

/-- A save that is not complete loses what an earlier one has saved. -/
theorem exists_lost_settings :
    ∃ (s : SettingsStore) (env : Environment) (x y : TextSettings),
      (s.save x.toJson).2 = true ∧ (s.save x.toJson).1.load env = x.loaded env ∧
      ((s.save x.toJson).1.save y.toJson).2 = false ∧
      (((s.save x.toJson).1.save y.toJson).1.load env).1 ≠ (x.loaded env).1 := by
  have hwhole : ({} : SettingsStore).Allows (nameSettings "A").toJson .written := ⟨rfl, rfl⟩
  have htorn (s : SettingsStore) (h : s.reachable) :
      s.save (nameSettings tornName).toJson =
          s.saveTo (nameSettings tornName).toJson (.stopped 20) ∧
        s.Allows (nameSettings tornName).toJson (.stopped 20) := by
    refine ⟨?_, h, by decide⟩
    unfold save
    rw [h]
    rfl
  refine ⟨{}, [], nameSettings "A", nameSettings tornName, rfl, load_saveTo hwhole [], rfl, ?_⟩
  obtain ⟨hsave, hstopped⟩ := htorn (({} : SettingsStore).save (nameSettings "A").toJson).1 rfl
  rw [hsave, load_saveTo hstopped]
  intro h
  have hname : Json.str "株式会社サンプル" = .str "A" :=
    congrArg (fun settings => (settings.head?.map (·.2)).getD .null) h
  exact absurd (Json.str.inj hname) (by decide)

end SettingsStore

end Billing
