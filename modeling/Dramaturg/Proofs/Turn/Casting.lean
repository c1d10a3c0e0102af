import Dramaturg.Turn.Paragraph
import Dramaturg.Proofs.Table.Lookup
import Mathlib.Data.List.Forall2

set_option autoImplicit false

/-! # Figures of one row

A figure is shown with a model and a feature. The feature comes from the first row that the speaker
matches, as strictly as the story asks for. The model comes from the first row whose name occurs in
that of the speaker, however strict the story is. Where the name of one row is part of the name of
another these can be two rows: a figure then shows the pose of one character with the model of the
other, or stays away although its own row has a model. `figures_fromRow_iff` says for which
poses this does not happen. -/

namespace Dramaturg

/-! ## Rows -/

namespace FigureTable

variable {t : FigureTable} {strict : Bool} {name : String} {row : Character}

theorem mem_of_character?_eq_some (h : t.character? strict name = some row) :
    row ∈ t.characters ∧ keyMatches strict row.speaker name = true :=
  ⟨List.mem_of_find?_eq_some h,
    List.find?_some (p := fun c : Character => keyMatches strict c.speaker name) h⟩

/-- A speaker that matches a row as strictly as asked for matches some row otherwise. -/
theorem exists_character?_false (h : t.character? strict name = some row) :
    ∃ found, t.character? false name = some found := by
  obtain ⟨hmem, hmatches⟩ := mem_of_character?_eq_some h
  apply Option.isSome_iff_exists.1
  exact List.find?_isSome.2 ⟨row, hmem, keyMatches_iff.2 (keyMatches_iff.1 hmatches).lax⟩

theorem defaultPath?_of_character? (h : t.character? false name = some row) :
    t.defaultPath? name = if row.defaultPath.isEmpty then none else some row.defaultPath := by
  rw [defaultPath?, h, Option.map_some, Option.filter_some]
  cases row.defaultPath.isEmpty <;> rfl

end FigureTable

/-- From a list that is not empty a feature is always chosen. -/
theorem Stage.exists_choose {α β : Type} {options : List β} (h : options ≠ []) (s : Stage α) :
    ∃ option ∈ options, ∃ s', s.choose options = (some option, s') := by
  cases options with
  | nil => exact absurd rfl h
  | cons first rest =>
    rcases hindex : s.random.index rest.length with ⟨i, random⟩
    have hbound : i.val < (first :: rest).length := i.isLt
    refine ⟨(first :: rest)[i.val], List.getElem_mem hbound, { s with random := random }, ?_⟩
    rw [Stage.choose, Random.Source.choose, hindex]
    simp only [List.getElem?_eq_getElem hbound]

namespace Resolution

open Directive

section

variable (d : DirectiveRules) (t : Tables)

/-- Where a pose comes from: the first row that the speaker matches, and its first trigger that
    answers the pose. -/
def origin? (p : Pose) : Option (Character × FigureTrigger) :=
  (t.figures.character? d.figure.strict p.speaker).bind fun row =>
    (row.trigger? d.figure.strict p.pose).map fun trigger => (row, trigger)

/-- Where poses come from, as far as the rows have a model. -/
def origins (poses : List Pose) : List (Character × FigureTrigger) :=
  (poses.filterMap (origin? d t)).filter fun origin => !origin.1.defaultPath.isEmpty

/-- Whether a figure has its model and its feature from one row. -/
def FromRow (origin : Character × FigureTrigger) (figure : Feature × String) : Prop :=
  figure.2 = origin.1.defaultPath ∧ figure.1 ∈ origin.2.features

/-- Whether the first row whose name occurs in that of the speaker has the model of the row that the
    pose comes from. -/
def ModelAgrees (p : Pose) : Prop :=
  ∀ origin, origin? d t p = some origin →
    ∃ row, t.figures.character? false p.speaker = some row ∧
      row.defaultPath = origin.1.defaultPath

end

variable {α : Type} {d : DirectiveRules} {t : Tables} {p : Pose}

/-! ## Poses -/

theorem character?_of_origin? {origin : Character × FigureTrigger}
    (h : origin? d t p = some origin) :
    t.figures.character? d.figure.strict p.speaker = some origin.1 ∧
      origin.2 ∈ origin.1.triggers ∧ origin.2.answers d.figure.strict p.pose = true := by
  obtain ⟨row, hrow, htrigger⟩ := Option.bind_eq_some_iff.1 h
  obtain ⟨trigger, hfound, rfl⟩ := Option.map_eq_some_iff.1 htrigger
  exact ⟨hrow, List.mem_of_find?_eq_some hfound,
    List.find?_some (p := FigureTrigger.answers d.figure.strict p.pose) hfound⟩

theorem features_ne_nil_of_origin? {origin : Character × FigureTrigger}
    (h : origin? d t p = some origin) : origin.2.features ≠ [] := by
  obtain ⟨-, -, hanswers⟩ := character?_of_origin? h
  have hsome := (Bool.and_eq_true_iff.1 hanswers).2
  simpa using hsome

/-- The model and the features are looked up apart from each other. -/
theorem candidates?_eq (p : Pose) :
    candidates? d t p = (t.figures.defaultPath? p.speaker).bind fun path =>
      (origin? d t p).map fun origin => (path, origin.2.features) := by
  have hfeatures : t.figures.features? d.figure.strict p.speaker p.pose
      = (origin? d t p).map fun origin => origin.2.features := by
    unfold FigureTable.features? origin?
    cases t.figures.character? d.figure.strict p.speaker with
    | none => rfl
    | some row => simp only [Option.bind_some, Option.map_map, Function.comp_def]
  unfold candidates?
  rw [hfeatures]
  cases t.figures.defaultPath? p.speaker <;> cases origin? d t p <;> rfl

theorem candidates?_of_origin?_eq_none (h : origin? d t p = none) : candidates? d t p = none := by
  rw [candidates?_eq, h]
  cases t.figures.defaultPath? p.speaker <;> rfl

/-- A pose with a row is taken for the model of the first row whose name occurs in its speaker. -/
theorem candidates?_of_origin? {origin : Character × FigureTrigger} {row : Character}
    (h : origin? d t p = some origin) (hrow : t.figures.character? false p.speaker = some row) :
    candidates? d t p
      = if row.defaultPath.isEmpty then none else some (row.defaultPath, origin.2.features) := by
  rw [candidates?_eq, FigureTable.defaultPath?_of_character? hrow, h]
  cases row.defaultPath.isEmpty <;> rfl

theorem chooseFigures_of_none (h : candidates? d t p = none) (rest : List Pose) (s : Stage α) :
    chooseFigures d t (p :: rest) s = chooseFigures d t rest s := by
  rw [chooseFigures, h]

theorem exists_chooseFigures_of_some {path : String} {features : List Feature}
    (h : candidates? d t p = some (path, features)) (hfeatures : features ≠ []) (rest : List Pose)
    (s : Stage α) :
    ∃ feature ∈ features, ∃ s' : Stage α,
      (chooseFigures d t (p :: rest) s).1 = (feature, path) :: (chooseFigures d t rest s').1 := by
  obtain ⟨feature, hmem, s', hchoose⟩ := s.exists_choose hfeatures
  refine ⟨feature, hmem, s', ?_⟩
  rw [chooseFigures, h]
  simp only [hchoose]
  rfl

theorem origins_cons_of_none (h : origin? d t p = none) (rest : List Pose) :
    origins d t (p :: rest) = origins d t rest := by
  rw [origins, List.filterMap_cons_none h, origins]

theorem origins_cons_of_some {origin : Character × FigureTrigger}
    (h : origin? d t p = some origin) (rest : List Pose) :
    origins d t (p :: rest)
      = if origin.1.defaultPath.isEmpty then origins d t rest
        else origin :: origins d t rest := by
  rw [origins, List.filterMap_cons_some h, List.filter_cons]
  cases origin.1.defaultPath.isEmpty <;> rfl

/-! ## Figures -/

theorem modelAgrees_of_not_strict (h : d.figure.strict = false) (p : Pose) : ModelAgrees d t p := by
  intro origin horigin
  obtain ⟨hrow, -⟩ := character?_of_origin? horigin
  exact ⟨origin.1, h ▸ hrow, rfl⟩

/-- Each pose whose model agrees is shown from its row, if the row has a model, and no other pose is
    shown. -/
theorem forall₂_chooseFigures {poses : List Pose} (h : ∀ p ∈ poses, ModelAgrees d t p)
    (s : Stage α) : List.Forall₂ FromRow (origins d t poses) (chooseFigures d t poses s).1 := by
  induction poses generalizing s with
  | nil => exact .nil
  | cons p rest ih =>
    have hrest := ih fun q hq => h q (List.mem_cons_of_mem p hq)
    cases horigin : origin? d t p with
    | none =>
      rw [origins_cons_of_none horigin,
        chooseFigures_of_none (candidates?_of_origin?_eq_none horigin)]
      exact hrest s
    | some origin =>
      obtain ⟨row, hrow, hmodel⟩ := h p List.mem_cons_self origin horigin
      have hcandidates := candidates?_of_origin? horigin hrow
      rw [origins_cons_of_some horigin, ← hmodel]
      by_cases hempty : row.defaultPath.isEmpty = true
      · rw [if_pos hempty] at hcandidates ⊢
        rw [chooseFigures_of_none hcandidates]
        exact hrest s
      · rw [if_neg hempty] at hcandidates
        obtain ⟨feature, hfeature, s', hshown⟩ := exists_chooseFigures_of_some hcandidates
          (features_ne_nil_of_origin? horigin) rest s
        rw [if_neg hempty, hshown]
        exact .cons ⟨hmodel, hfeature⟩ (hrest s')

/-- A pose that is shown from its row, or not shown for want of a model of that row, has a model
    that agrees. -/
theorem modelAgrees_of_forall₂ {s : Stage α}
    (h : List.Forall₂ FromRow (origins d t [p]) (chooseFigures d t [p] s).1) :
    ModelAgrees d t p := by
  intro origin horigin
  obtain ⟨row, hrow⟩ := FigureTable.exists_character?_false (character?_of_origin? horigin).1
  refine ⟨row, hrow, ?_⟩
  have hcandidates := candidates?_of_origin? horigin hrow
  rw [origins_cons_of_some horigin] at h
  by_cases hempty : row.defaultPath.isEmpty = true
  · rw [if_pos hempty] at hcandidates
    rw [chooseFigures_of_none hcandidates] at h
    by_cases hempty' : origin.1.defaultPath.isEmpty = true
    · rw [String.isEmpty_iff.1 hempty, String.isEmpty_iff.1 hempty']
    · rw [if_neg hempty'] at h
      cases h
  · rw [if_neg hempty] at hcandidates
    obtain ⟨feature, -, s', hshown⟩ := exists_chooseFigures_of_some hcandidates
      (features_ne_nil_of_origin? horigin) [] s
    rw [hshown] at h
    by_cases hempty' : origin.1.defaultPath.isEmpty = true
    · rw [if_pos hempty'] at h
      cases h
    · rw [if_neg hempty'] at h
      exact (List.forall₂_cons.1 h).1.1

/-- **When a figure has model and pose of one row.** The row that a pose comes from is one of the
    table, with a trigger that answers the pose. A pose is shown with the model and a feature of
    this row, and is shown at all if this row has a model, if and only if the first row whose name
    occurs in the speaker has the same model. If this is so for all poses of a paragraph, its
    figures are those poses, in order, each from its row. It is always so where figures are not
    looked up strictly. -/
theorem figures_fromRow_iff (story : Story) :
    let d := story.settings.directives
    let t := story.tables
    (∀ p origin, origin? d t p = some origin →
      origin.1 ∈ t.figures.characters ∧
        keyMatches d.figure.strict origin.1.speaker p.speaker = true ∧
        origin.2 ∈ origin.1.triggers ∧ origin.2.answers d.figure.strict p.pose = true) ∧
      (∀ p (s : Stage α),
        List.Forall₂ FromRow (origins d t [p]) (chooseFigures d t [p] s).1 ↔ ModelAgrees d t p) ∧
      (∀ (channels : Channels) (currentScene : String) (b : Bundle) (s : Stage α),
        channels.figure = true → (∀ p ∈ b.poses, ModelAgrees d t p) →
        List.Forall₂ FromRow (origins d t b.poses)
          (ofBundle story channels currentScene b s).1.figures) ∧
      (d.figure.strict = false → ∀ p, ModelAgrees d t p) := by
  refine ⟨?_, ?_, ?_, modelAgrees_of_not_strict⟩
  · intro p origin horigin
    obtain ⟨hrow, htrigger, hanswers⟩ := character?_of_origin? horigin
    obtain ⟨hmem, hmatches⟩ := FigureTable.mem_of_character?_eq_some hrow
    exact ⟨hmem, hmatches, htrigger, hanswers⟩
  · intro p s
    refine ⟨modelAgrees_of_forall₂, fun hagrees => ?_⟩
    exact forall₂_chooseFigures (by simpa using hagrees) s
  · intro channels currentScene b s hfigure hagrees
    have hfigures : (ofBundle story channels currentScene b s).1.figures
        = (chooseFigures story.settings.directives story.tables b.poses s).1 := by
      simp only [ofBundle, hfigure, if_true]
    rw [hfigures]
    exact forall₂_chooseFigures hagrees s

/-! ## A name inside another -/

/-- The only pose of Alice. -/
def wave : Feature := ⟨"wave", "smile", ""⟩

/-- A story of two characters that looks figures up exactly. The name of the first is the front of
    that of the second. -/
def namesakes (model : String) : Story where
  base := {}
  settings := { directives := { figure := ⟨"<<<", ">>>", "|", true, false⟩ } }
  tables :=
    { figures := ⟨[⟨"Al", model, []⟩, ⟨"Alice", "alice.json", [⟨"smile", [wave]⟩]⟩]⟩ }

/-- A paragraph that shows Alice. -/
def smiling : Bundle := ⟨[], [⟨"Alice", "smile"⟩], none, none, none, none, "", ""⟩

/-- A stage on which nothing has happened. -/
def emptyStage : Stage Float where
  rules := ⟨⟨0, 0, 0, 0⟩, false, false, false⟩
  random := ⟨fun _ => 0, 0⟩
  ids := ⟨fun _ => "", 0⟩

/-- If the two share a model, Alice is shown from her own row. -/
theorem forall₂_figures_namesakes :
    let story := namesakes "alice.json"
    ({} : Channels).figure = true ∧
      (∀ p ∈ smiling.poses, ModelAgrees story.settings.directives story.tables p) ∧
      List.Forall₂ FromRow [(⟨"Alice", "alice.json", [⟨"smile", [wave]⟩]⟩, ⟨"smile", [wave]⟩)]
        (ofBundle story {} "" smiling emptyStage).1.figures := by
  intro story
  have hagrees : ∀ p ∈ smiling.poses, ModelAgrees story.settings.directives story.tables p := by
    intro p hp origin horigin
    obtain rfl := List.mem_singleton.1 hp
    obtain rfl : _ = origin := Option.some.inj horigin
    exact ⟨_, rfl, rfl⟩
  exact ⟨rfl, hagrees, (figures_fromRow_iff story).2.2.1 {} "" smiling emptyStage rfl hagrees⟩

/-- If they do not, Alice is shown with the model of Al, who has no pose at all. If Al has no model
    she is not shown, although her row has one. -/
theorem figures_namesakes :
    (ofBundle (namesakes "al.json") {} "" smiling emptyStage).1.figures = [(wave, "al.json")] ∧
      (¬ ∃ row ∈ (namesakes "al.json").tables.figures.characters, row.defaultPath = "al.json" ∧
        ∃ trigger ∈ row.triggers, wave ∈ trigger.features) ∧
      (ofBundle (namesakes "") {} "" smiling emptyStage).1.figures = [] ∧
      origins (namesakes "").settings.directives (namesakes "").tables smiling.poses
        = [(⟨"Alice", "alice.json", [⟨"smile", [wave]⟩]⟩, ⟨"smile", [wave]⟩)] := by
  refine ⟨by decide, by decide, by decide, by decide⟩

end Resolution

end Dramaturg
