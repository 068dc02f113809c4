import Billing.Settings.Company
import Mathlib.Data.List.Forall2

/-!
# Loaded settings

What a load gives for a settings file, whatever the file holds. A file that is no JSON, and one
whose JSON is neither an object, a list nor an empty text, leaves the defaults as they are, with a
warning. An object sets all its members, an empty text sets nothing, both without a warning
(`HoldsPairs`). A list sets its pairs up to the first item that is none:
if there is one, a load warns and the pairs before it stay set (`BreaksOff`). So a load gives all
that the file holds or nothing of it, unless the file is a list that breaks off after a pair.

* `sameKey_iff`: when two values are one key.
* `valueOf?_putAll`: the last value of a key counts.
* `settingsLoaded_loadSettings`: what every load gives.
-/

namespace Billing

namespace CompanySettings

/-! ## Keys -/

/-- A value as a key: numbers count for what they are. -/
def asKey (x : Json) : Json ⊕ Rat :=
  match keyNumber? x with
  | some q => .inr q
  | none => .inl x

theorem sameKey_iff {x y : Json} : sameKey x y ↔ isKey x ∧ asKey x = asKey y := by
  rcases x with _ | _ | _ | (_ | _ | _) | _ | _ | _ | _ <;>
    rcases y with _ | _ | _ | (_ | _ | _) | _ | _ | _ | _ <;>
    simp [sameKey, isKey, asKey, keyNumber?, Binary64.isFinite]

theorem isKey_of_asKey_eq {x y : Json} (h : asKey x = asKey y) (hx : isKey x) : isKey y := by
  cases hy : keyNumber? y with
  | none =>
    cases hx' : keyNumber? x with
    | none =>
      simp only [asKey, hx', hy, Sum.inl.injEq] at h
      rwa [← h]
    | some q => simp [asKey, hx', hy] at h
  | some q => cases y <;> first | rfl | cases hy

theorem sameKey_self {x : Json} (h : isKey x) : sameKey x x := sameKey_iff.2 ⟨h, rfl⟩

theorem sameKey_comm {x y : Json} (h : sameKey x y) : sameKey y x := by
  obtain ⟨hx, h⟩ := sameKey_iff.1 h
  exact sameKey_iff.2 ⟨isKey_of_asKey_eq h hx, h.symm⟩

theorem sameKey_trans {x y z : Json} (hxy : sameKey x y) (hyz : sameKey y z) : sameKey x z := by
  obtain ⟨hx, hxy⟩ := sameKey_iff.1 hxy
  exact sameKey_iff.2 ⟨hx, hxy.trans (sameKey_iff.1 hyz).2⟩

/-! ## Values of keys -/

/-- The value of a key. -/
def valueOf? (settings : CompanySettings) (key : Json) : Option Json :=
  (List.find? (sameKey ·.1 key) settings).map (·.2)

/-- The value that the last pair of a key sets. -/
def lastValue? (pairs : List (Json × Json)) (key : Json) : Option Json :=
  valueOf? pairs.reverse key

/-- No key stands twice. -/
def HasDistinctKeys (settings : CompanySettings) : Prop :=
  settings.Pairwise fun m m' => ¬ sameKey m.1 m'.1

/-- The settings with pairs set one after the other. -/
def putAll (settings : CompanySettings) (pairs : List (Json × Json)) : CompanySettings :=
  pairs.foldl (fun settings p => settings.put p.1 p.2) settings

theorem valueOf?_cons (m : Json × Json) (ms : CompanySettings) (key : Json) :
    valueOf? (m :: ms) key = if sameKey m.1 key then some m.2 else valueOf? ms key := by
  rw [valueOf?, valueOf?, List.find?_cons]
  cases sameKey m.1 key <;> rfl

theorem valueOf?_put (key key' value : Json) (settings : CompanySettings) :
    valueOf? (put key value settings) key' =
      if sameKey key key' then some value else valueOf? settings key' := by
  induction settings with
  | nil => exact valueOf?_cons (key, value) [] key'
  | cons m ms ih =>
    rw [put]
    by_cases hm : sameKey m.1 key
    · have hiff : sameKey m.1 key' ↔ sameKey key key' :=
        ⟨sameKey_trans (sameKey_comm hm), sameKey_trans hm⟩
      rw [if_pos hm, valueOf?_cons, valueOf?_cons]
      simp only [hiff]
      split <;> rfl
    · rw [if_neg hm, valueOf?_cons, valueOf?_cons, ih]
      by_cases hm' : sameKey m.1 key'
      · rw [if_pos hm', if_pos hm', if_neg fun h => hm (sameKey_trans hm' (sameKey_comm h))]
      · rw [if_neg hm', if_neg hm']

/-- The last value of a key counts, and a key that is not set keeps its value. -/
theorem valueOf?_putAll (settings : CompanySettings) (pairs : List (Json × Json)) (key : Json) :
    (settings.putAll pairs).valueOf? key = (lastValue? pairs key).or (settings.valueOf? key) := by
  induction pairs generalizing settings with
  | nil => rfl
  | cons p ps ih =>
    have hlast : lastValue? (p :: ps) key =
        (lastValue? ps key).or (if sameKey p.1 key then some p.2 else none) := by
      simp only [lastValue?, valueOf?, List.reverse_cons, List.find?_append, Option.map_or,
        List.find?_singleton]
      split <;> rfl
    have hput : (settings.putAll (p :: ps)) = (settings.put p.1 p.2).putAll ps := rfl
    rw [hput, ih, valueOf?_put, hlast, Option.or_assoc]
    split <;> simp

theorem exists_mem_of_mem_put {key value : Json} {settings : CompanySettings} {m : Json × Json}
    (h : m ∈ put key value settings) : m.1 = key ∨ ∃ m' ∈ settings, m'.1 = m.1 := by
  induction settings with
  | nil => exact .inl (by rw [List.mem_singleton.1 h])
  | cons first ms ih =>
    rw [put] at h
    split at h
    case isTrue =>
      obtain rfl | h := List.mem_cons.1 h
      · exact .inr ⟨first, List.mem_cons_self, rfl⟩
      · exact .inr ⟨m, List.mem_cons_of_mem _ h, rfl⟩
    case isFalse =>
      obtain rfl | h := List.mem_cons.1 h
      · exact .inr ⟨m, List.mem_cons_self, rfl⟩
      · obtain hkey | ⟨m', hm', hkey⟩ := ih h
        · exact .inl hkey
        · exact .inr ⟨m', List.mem_cons_of_mem _ hm', hkey⟩

theorem HasDistinctKeys.put {settings : CompanySettings} (h : settings.HasDistinctKeys)
    (key value : Json) : HasDistinctKeys (settings.put key value) := by
  induction settings with
  | nil => exact List.pairwise_singleton _ _
  | cons m ms ih =>
    obtain ⟨hm, hms⟩ := List.pairwise_cons.1 h
    rw [CompanySettings.put]
    split
    case isTrue => exact List.pairwise_cons.2 ⟨hm, hms⟩
    case isFalse hkey =>
      refine List.pairwise_cons.2 ⟨fun m' hm' => ?_, ih hms⟩
      obtain hm' | ⟨m'', hm'', heq⟩ := exists_mem_of_mem_put hm'
      · rwa [hm']
      · rw [← heq]
        exact hm m'' hm''

theorem HasDistinctKeys.putAll {settings : CompanySettings} (h : settings.HasDistinctKeys)
    (pairs : List (Json × Json)) : HasDistinctKeys (settings.putAll pairs) := by
  induction pairs generalizing settings with
  | nil => exact h
  | cons p ps ih => exact ih (h.put p.1 p.2)

theorem hasDistinctKeys_defaultSettings (env : Environment) :
    HasDistinctKeys (defaultSettings env) := by
  have hkeys : (defaultSettings env).map (·.1) = (defaultSettings []).map (·.1) := rfl
  have hdistinct : ((defaultSettings []).map (·.1)).Pairwise fun x y => ¬ sameKey x y := by decide
  rw [← hkeys, List.pairwise_map] at hdistinct
  exact hdistinct

theorem isSome_lastValue? {pairs : List (Json × Json)} {p : Json × Json} (h : p ∈ pairs)
    (hkey : isKey p.1) : (lastValue? pairs p.1).isSome := by
  rw [lastValue?, valueOf?, Option.isSome_map, List.find?_isSome]
  exact ⟨p, List.mem_reverse.2 h, sameKey_self hkey⟩

/-- Settings overlaid with pairs: every key has the value of its last pair, or the one it had. -/
structure Overlaid (settings : CompanySettings) (pairs : List (Json × Json))
    (result : CompanySettings) : Prop where
  distinct : result.HasDistinctKeys
  value : ∀ key, result.valueOf? key = (lastValue? pairs key).or (settings.valueOf? key)
  set : ∀ p ∈ pairs, (result.valueOf? p.1).isSome

theorem overlaid_putAll (env : Environment) {pairs : List (Json × Json)}
    (hkeys : ∀ p ∈ pairs, isKey p.1) :
    Overlaid (defaultSettings env) pairs ((defaultSettings env).putAll pairs) where
  distinct := (hasDistinctKeys_defaultSettings env).putAll pairs
  value := valueOf?_putAll _ pairs
  set p hp := by
    rw [valueOf?_putAll, Option.isSome_or, isSome_lastValue? hp (hkeys p hp), Bool.true_or]

end CompanySettings

/-! ## Files -/

/-- The pairs that a JSON value holds, and nothing else. -/
inductive HoldsPairs : Json → List (Json × Json) → Prop
  | members (ms : List (Text.Raw × Json)) :
      HoldsPairs (.obj ms) (ms.map fun m => (.ofRaw m.1, m.2))
  | items {xs pairs} (items : List.Forall₂ (pairOf? · = some ·) xs pairs) :
      HoldsPairs (.arr xs) pairs
  | emptyText : HoldsPairs (.str "") []

/-- The pairs before the point where a JSON value holds something else. -/
inductive BreaksOff : Json → List (Json × Json) → Prop
  /-- A list has an item that is no pair. -/
  | item {before pairs x rest} (items : List.Forall₂ (pairOf? · = some ·) before pairs)
      (no_pair : pairOf? x = none) : BreaksOff (.arr (before ++ x :: rest)) pairs
  /-- The value is neither a list, an object nor an empty text. -/
  | other {value} (no_list : ∀ xs, value ≠ .arr xs) (no_object : ∀ ms, value ≠ .obj ms)
      (some : value ≠ .str "") : BreaksOff value []

theorem isKey_ofRaw (s : Text.Raw) : CompanySettings.isKey (.ofRaw s) := by cases s <;> rfl

/-- What counts as a pair has a key. -/
theorem isKey_of_pairOf? {x : Json} {p : Json × Json} (h : pairOf? x = some p) :
    CompanySettings.isKey p.1 := by
  have hpoints {points : List Text.Point} (h : pairOfPoints? points = some p) :
      CompanySettings.isKey p.1 := by
    unfold pairOfPoints? at h
    split at h <;> cases h
    exact isKey_ofRaw _
  unfold pairOf? at h
  split at h
  case h_1 key value =>
    split at h <;> cases h
    assumption
  case h_2 s => exact hpoints h
  case h_3 points => exact hpoints h
  case h_4 key _ value _ =>
    cases h
    exact isKey_ofRaw key
  case h_5 => cases h

theorem isKey_of_forall₂ {xs : List Json} {pairs : List (Json × Json)}
    (h : List.Forall₂ (pairOf? · = some ·) xs pairs) :
    ∀ p ∈ pairs, CompanySettings.isKey p.1 := by
  induction h with
  | nil => exact List.forall_mem_nil _
  | cons hx _ ih => exact List.forall_mem_cons.2 ⟨isKey_of_pairOf? hx, ih⟩

theorem HoldsPairs.isKey {value : Json} {pairs : List (Json × Json)} (h : HoldsPairs value pairs) :
    ∀ p ∈ pairs, CompanySettings.isKey p.1 := by
  cases h with
  | members ms => exact List.forall_mem_map.2 fun m _ => isKey_ofRaw m.1
  | items items => exact isKey_of_forall₂ items
  | emptyText => exact List.forall_mem_nil _

theorem BreaksOff.isKey {value : Json} {pairs : List (Json × Json)} (h : BreaksOff value pairs) :
    ∀ p ∈ pairs, CompanySettings.isKey p.1 := by
  cases h with
  | item items => exact isKey_of_forall₂ items
  | other => exact List.forall_mem_nil _

theorem HoldsPairs.cons {x : Json} {p : Json × Json} (hx : pairOf? x = some p) {xs pairs}
    (h : HoldsPairs (.arr xs) pairs) : HoldsPairs (.arr (x :: xs)) (p :: pairs) := by
  cases h with
  | items items => exact .items (.cons hx items)

theorem BreaksOff.head {x : Json} (hx : pairOf? x = none) (xs : List Json) :
    BreaksOff (.arr (x :: xs)) [] :=
  @BreaksOff.item [] [] x xs .nil hx

theorem BreaksOff.cons {x : Json} {p : Json × Json} (hx : pairOf? x = some p) {xs pairs}
    (h : BreaksOff (.arr xs) pairs) : BreaksOff (.arr (x :: xs)) (p :: pairs) := by
  cases h with
  | @item before _ y rest items no_pair =>
    exact @BreaksOff.item (x :: before) (p :: pairs) y rest (.cons hx items) no_pair
  | other no_list => exact absurd rfl (no_list xs)

/-- A list sets all its pairs, or those before the first item that is none. -/
theorem overlayPairs_cases (settings : CompanySettings) (xs : List Json) :
    ∃ pairs, (overlayPairs settings xs).1 = settings.putAll pairs ∧
      if (overlayPairs settings xs).2 then BreaksOff (.arr xs) pairs
      else HoldsPairs (.arr xs) pairs := by
  induction xs generalizing settings with
  | nil => exact ⟨[], rfl, .items .nil⟩
  | cons x xs ih =>
    rw [overlayPairs]
    cases hx : pairOf? x with
    | none => exact ⟨[], rfl, .head hx xs⟩
    | some p =>
      obtain ⟨pairs, hresult, h⟩ := ih (settings.put p.1 p.2)
      refine ⟨p :: pairs, hresult, ?_⟩
      dsimp only
      split at h
      case isTrue hbroken =>
        rw [if_pos hbroken]
        exact h.cons hx
      case isFalse hwhole =>
        rw [if_neg hwhole]
        exact h.cons hx

/-- A JSON value sets all it holds, or what it holds before it breaks off. -/
theorem overlay_cases (settings : CompanySettings) (value : Json) :
    ∃ pairs, (overlay settings value).1 = settings.putAll pairs ∧
      if (overlay settings value).2 then BreaksOff value pairs else HoldsPairs value pairs := by
  cases value with
  | obj ms =>
    refine ⟨_, ?_, .members ms⟩
    rw [CompanySettings.putAll, List.foldl_map]
    rfl
  | arr xs => exact overlayPairs_cases settings xs
  | str s =>
    refine ⟨[], rfl, ?_⟩
    by_cases hs : s = ""
    · subst hs
      exact .emptyText
    · rw [overlay, if_pos (by simpa [String.isEmpty_iff] using hs)]
      exact .other (by simp) (by simp) (by simpa using hs)
  | null | bool | int | float | torn => exact ⟨[], rfl, .other (by simp) (by simp) (by simp)⟩

open CompanySettings (Overlaid)

/-- What a load may give for a settings file: the settings, and whether there is a warning. -/
inductive SettingsLoaded (env : Environment) : Option String → CompanySettings × Bool → Prop
  | missing : SettingsLoaded env none (defaultSettings env, false)
  | unreadable {text e} (read : Json.read text = .error e) :
      SettingsLoaded env (some text) (defaultSettings env, true)
  | whole {text value pairs settings} (read : Json.read text = .ok value)
      (holds : HoldsPairs value pairs) (overlaid : Overlaid (defaultSettings env) pairs settings) :
      SettingsLoaded env (some text) (settings, false)
  /-- The file holds something else before any pair. -/
  | refused {text value} (read : Json.read text = .ok value) (breaks : BreaksOff value []) :
      SettingsLoaded env (some text) (defaultSettings env, true)
  /-- The file breaks off after some pairs, which stay set. -/
  | broken {text value pairs settings} (read : Json.read text = .ok value)
      (breaks : BreaksOff value pairs) (some_pair : pairs ≠ [])
      (overlaid : Overlaid (defaultSettings env) pairs settings) :
      SettingsLoaded env (some text) (settings, true)

/-- Every load gives the defaults overlaid with all that the file holds or, with a warning, the
defaults; if the file is a list that breaks off after some pairs, these are set nevertheless. -/
theorem settingsLoaded_loadSettings (env : Environment) (file : Option String) :
    SettingsLoaded env file (loadSettings env file) := by
  cases file with
  | none => exact .missing
  | some text =>
    cases hread : Json.read text with
    | error e =>
      rw [show loadSettings env (some text) = (defaultSettings env, true) by
        simp only [loadSettings, hread]]
      exact .unreadable hread
    | ok value =>
      rw [show loadSettings env (some text) = overlay (defaultSettings env) value by
        simp only [loadSettings, hread]]
      obtain ⟨pairs, hresult, h⟩ := overlay_cases (defaultSettings env) value
      generalize overlay (defaultSettings env) value = loaded at hresult h ⊢
      obtain ⟨settings, warned⟩ := loaded
      obtain rfl : settings = (defaultSettings env).putAll pairs := hresult
      cases warned with
      | false =>
        have h : HoldsPairs value pairs := h
        exact .whole hread h (CompanySettings.overlaid_putAll env h.isKey)
      | true =>
        have h : BreaksOff value pairs := h
        by_cases hpairs : pairs = []
        · subst hpairs
          exact .refused hread h
        · exact .broken hread h hpairs (CompanySettings.overlaid_putAll env h.isKey)

/-- A list of a pair and a number: the load warns, and the pair stays set. -/
theorem exists_settings_set_in_part :
    ∃ text, (loadSettings [] (some text)).2 = true ∧
      (loadSettings [] (some text)).1 ≠ defaultSettings [] := by
  refine ⟨"[[\"company_name\",\"A\"],1]", by decide +kernel, fun h => ?_⟩
  have hname := congrArg (fun settings => settings.head?.map (·.2.raw?)) h
  exact absurd hname (by decide +kernel)

end Billing
