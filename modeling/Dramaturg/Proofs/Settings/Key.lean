import Dramaturg.Application.Settings

set_option autoImplicit false

/-! # The key of a model

A key may stand at four places: in the story, in the configuration file and in two variables of the
environment. Each of them may be unset, empty, or hold a key that can be used. The access takes the
first usable key, except for one thing: among the file and the two variables the first that is set
is taken, even if it is empty, and what comes behind it is not looked at. Such an empty place is
`Hides` here, and `findsKey_ofSettings_iff` says that it is the only thing that keeps the access
from the first usable key. -/

namespace Dramaturg.ProviderAccess

/-! ## Keys at places -/

/-- A key that is set and not empty. -/
def Usable (place : Option String) : Prop := ∃ key, place = some key ∧ key ≠ ""

/-- The key is the first one of some places that can be used. -/
def IsFirstUsable (key : String) (places : List (Option String)) : Prop :=
  ∃ before after, places = before ++ some key :: after ∧ key ≠ "" ∧
    ∀ place ∈ before, ¬ Usable place

/-- The first place that is set is empty, and a usable key stands behind it. -/
def Hides (places : List (Option String)) : Prop :=
  ∃ before after, places = before ++ some "" :: after ∧ (∀ place ∈ before, place = none) ∧
    ∃ place ∈ after, Usable place

/-- The key of a place if it can be used. -/
def usable? (place : Option String) : Option String := place.filter (!·.isEmpty)

/-- The first usable key of some places. -/
def firstUsable? (places : List (Option String)) : Option String := places.findSome? usable?

/-- The first key of some places that is set. -/
def firstSet? (places : List (Option String)) : Option String := places.findSome? id

variable {key : String} {place : Option String} {places : List (Option String)}

theorem usable?_eq_some_iff : usable? place = some key ↔ place = some key ∧ key ≠ "" := by
  simp [usable?, Option.filter_eq_some_iff]

@[simp] theorem usable?_empty : usable? (some "") = none := rfl

theorem usable_iff : Usable place ↔ ∃ key, usable? place = some key := by
  simp only [Usable, usable?_eq_some_iff]

theorem usable?_eq_none_iff : usable? place = none ↔ ¬ Usable place := by
  rw [usable_iff, Option.eq_none_iff_forall_ne_some, not_exists]

theorem firstUsable?_eq_some_iff :
    firstUsable? places = some key ↔ IsFirstUsable key places := by
  simp only [firstUsable?, List.findSome?_eq_some_iff, usable?_eq_none_iff, usable?_eq_some_iff,
    IsFirstUsable]
  constructor
  · rintro ⟨before, place, after, rfl, ⟨rfl, hkey⟩, hbefore⟩
    exact ⟨before, after, rfl, hkey, hbefore⟩
  · rintro ⟨before, after, rfl, hkey, hbefore⟩
    exact ⟨before, some key, after, rfl, ⟨rfl, hkey⟩, hbefore⟩

theorem firstUsable?_eq_none_iff :
    firstUsable? places = none ↔ ¬ ∃ place ∈ places, Usable place := by
  simp [firstUsable?, List.findSome?_eq_none_iff, usable?_eq_none_iff]

/-! ## What hides a key -/

theorem not_hides_nil : ¬ Hides [] := by
  rintro ⟨before, after, h, -⟩
  simp at h

/-- A place that is unset hides nothing. -/
theorem hides_none_cons : Hides (none :: places) ↔ Hides places := by
  constructor
  · rintro ⟨before, after, h, hbefore, hafter⟩
    cases before with
    | nil => simp at h
    | cons first before =>
      obtain ⟨-, rfl⟩ := List.cons.inj h
      exact ⟨before, after, rfl, fun place hp => hbefore place (List.mem_cons_of_mem _ hp), hafter⟩
  · rintro ⟨before, after, rfl, hbefore, hafter⟩
    refine ⟨none :: before, after, rfl, ?_, hafter⟩
    intro place hplace
    rcases List.mem_cons.1 hplace with rfl | hplace
    · rfl
    · exact hbefore place hplace

/-- A place that is set hides something only if it is empty. -/
theorem hides_some_cons :
    Hides (some key :: places) ↔ key = "" ∧ ∃ place ∈ places, Usable place := by
  constructor
  · rintro ⟨before, after, h, hbefore, hafter⟩
    cases before with
    | nil =>
      obtain ⟨hkey, rfl⟩ := List.cons.inj h
      exact ⟨Option.some.inj hkey, hafter⟩
    | cons first before =>
      obtain ⟨rfl, -⟩ := List.cons.inj h
      exact absurd (hbefore (some key) List.mem_cons_self) (by simp)
  · rintro ⟨rfl, hafter⟩
    exact ⟨[], places, rfl, by simp, hafter⟩

/-- The first set key is the first usable one, unless it is empty and hides that one. -/
theorem usable?_firstSet?_iff :
    usable? (firstSet? places) = firstUsable? places ↔ ¬ Hides places := by
  induction places with
  | nil => simp [firstSet?, firstUsable?, usable?, not_hides_nil]
  | cons place places ih =>
    cases place with
    | none =>
      rw [hides_none_cons, ← ih]
      rfl
    | some key =>
      have hset : firstSet? (some key :: places) = some key := rfl
      rw [hides_some_cons, hset]
      by_cases hkey : key = ""
      · subst hkey
        have hfirst : firstUsable? (some "" :: places) = firstUsable? places := rfl
        rw [hfirst, usable?_empty, eq_comm, firstUsable?_eq_none_iff]
        simp only [true_and]
      · have husable : usable? (some key) = some key := usable?_eq_some_iff.2 ⟨rfl, hkey⟩
        simp [firstUsable?, husable, hkey]

/-- The first set key is of no use if it hides another, or if there is none to hide. -/
theorem usable?_firstSet?_eq_none_iff :
    usable? (firstSet? places) = none ↔ Hides places ∨ ¬ ∃ place ∈ places, Usable place := by
  by_cases hhides : Hides places
  · obtain ⟨before, after, rfl, hbefore, -⟩ := id hhides
    have hset : firstSet? (before ++ some "" :: after) = some "" :=
      List.findSome?_eq_some_iff.2 ⟨before, some "", after, rfl, rfl, hbefore⟩
    simp [hset, hhides]
  · rw [usable?_firstSet?_iff.2 hhides, firstUsable?_eq_none_iff]
    simp only [hhides, false_or]

/-! ## The access -/

/-- The places of a key that stand behind the story. -/
def outerPlaces (env : String → Option String) (app : AppSettings) : List (Option String) :=
  [app.apiKey, env "VNCHAT_API_KEY", env "OPENROUTER_API_KEY"]

/-- The places where a key may stand, in the order in which they count. -/
def keyPlaces (env : String → Option String) (app : AppSettings) (storyKey : Option String) :
    List (Option String) :=
  storyKey :: outerPlaces env app

/-- An access is given if some place has a usable key, and it has the first such key. -/
structure FindsKey (places : List (Option String))
    (result : Except ProviderFailure ProviderAccess) : Prop where
  succeeds_iff : (∃ access, result = .ok access) ↔ ∃ place ∈ places, Usable place
  first : ∀ access, result = .ok access → IsFirstUsable access.key places

/-- The failure that is told when no key is found. -/
def noKey : ProviderFailure :=
  .notConfigured "no API key in the global document, config file or environment"

/-- Either there is no key, or the access has it. -/
theorem ofSettings_cases (app : AppSettings) (storyKey : Option String) :
    (key? app storyKey = none ∧ ofSettings app storyKey = .error noKey) ∨
      ∃ access, key? app storyKey = some access.key ∧ ofSettings app storyKey = .ok access := by
  unfold ofSettings
  cases key? app storyKey with
  | none => exact .inl ⟨rfl, rfl⟩
  | some key => exact .inr ⟨_, rfl, rfl⟩

theorem ofSettings_eq_error_iff (app : AppSettings) (storyKey : Option String) :
    ofSettings app storyKey = .error noKey ↔ key? app storyKey = none := by
  rcases ofSettings_cases app storyKey with ⟨hkey, hresult⟩ | ⟨access, hkey, hresult⟩
  · simp [hkey, hresult]
  · simp [hkey, hresult]

theorem findsKey_iff_key? (app : AppSettings) (storyKey : Option String) :
    FindsKey places (ofSettings app storyKey) ↔ key? app storyKey = firstUsable? places := by
  rcases ofSettings_cases app storyKey with ⟨hkey, hresult⟩ | ⟨access, hkey, hresult⟩
  · rw [hkey, hresult, eq_comm, firstUsable?_eq_none_iff]
    constructor
    · intro h husable
      obtain ⟨access, haccess⟩ := h.succeeds_iff.2 husable
      cases haccess
    · intro hnone
      refine ⟨⟨?_, fun husable => absurd husable hnone⟩, ?_⟩
      · rintro ⟨access, ⟨⟩⟩
      · rintro access ⟨⟩
  · rw [hkey, hresult, eq_comm, firstUsable?_eq_some_iff]
    constructor
    · intro h
      exact h.first access rfl
    · intro hfirst
      have husable : ∃ place ∈ places, Usable place := by
        obtain ⟨before, after, rfl, hne, -⟩ := hfirst
        exact ⟨some access.key, by simp, access.key, rfl, hne⟩
      refine ⟨⟨fun _ => husable, fun _ => ⟨access, rfl⟩⟩, ?_⟩
      rintro access' ⟨⟩
      exact hfirst

section

variable (env : String → Option String) (app : AppSettings) (storyKey : Option String)

theorem apiKey_withEnvironment :
    (app.withEnvironment env).apiKey = firstSet? (outerPlaces env app) := by
  simp only [AppSettings.withEnvironment, firstSet?, outerPlaces]
  cases app.apiKey with
  | some key => rfl
  | none =>
    cases env "VNCHAT_API_KEY" with
    | some key => rfl
    | none => cases env "OPENROUTER_API_KEY" <;> rfl

/-- Among the places behind the story only the first that is set is looked at. -/
theorem key?_withEnvironment :
    key? (app.withEnvironment env) storyKey
      = (usable? storyKey).or (usable? (firstSet? (outerPlaces env app))) := by
  rw [← apiKey_withEnvironment]
  rfl

theorem firstUsable?_keyPlaces :
    firstUsable? (keyPlaces env app storyKey)
      = (usable? storyKey).or (firstUsable? (outerPlaces env app)) := by
  rw [keyPlaces, firstUsable?, List.findSome?_cons]
  cases usable? storyKey <;> rfl

/-- The access is given if and only if some place has a usable key, and has the first such key,
    exactly where the story has a usable key or no empty place hides one. It is refused where there
    is no usable key, and also where there is one that an empty place hides. -/
theorem findsKey_ofSettings_iff :
    (FindsKey (keyPlaces env app storyKey) (ofSettings (app.withEnvironment env) storyKey) ↔
      Usable storyKey ∨ ¬ Hides (outerPlaces env app)) ∧
    (ofSettings (app.withEnvironment env) storyKey = .error noKey ↔
      ¬ Usable storyKey ∧
        (Hides (outerPlaces env app) ∨ ¬ ∃ place ∈ outerPlaces env app, Usable place)) := by
  constructor
  · rw [findsKey_iff_key?, key?_withEnvironment, firstUsable?_keyPlaces, ← usable?_firstSet?_iff]
    cases hstory : usable? storyKey with
    | some key =>
      have husable : Usable storyKey := usable_iff.2 ⟨key, hstory⟩
      simp [husable]
    | none =>
      have hunusable : ¬ Usable storyKey := usable?_eq_none_iff.1 hstory
      simp [hunusable]
  · rw [ofSettings_eq_error_iff, key?_withEnvironment, Option.or_eq_none_iff, usable?_eq_none_iff,
      usable?_firstSet?_eq_none_iff]

end

/-- The environment in which one variable is set. -/
def onlyVariable (name value : String) : String → Option String :=
  fun other => if other = name then some value else none

/-- An empty key in the file hides the one in the environment. -/
theorem not_findsKey_emptyInFile :
    ¬ FindsKey (keyPlaces (onlyVariable "VNCHAT_API_KEY" "sk-env") { apiKey := some "" } none)
      (ofSettings
        (AppSettings.withEnvironment (onlyVariable "VNCHAT_API_KEY" "sk-env")
          { apiKey := some "" }) none) := by
  rw [findsKey_iff_key?]
  decide

end Dramaturg.ProviderAccess
