import Dramaturg.Table.Tables
import Dramaturg.Proofs.Text.Occurrence

set_option autoImplicit false

/-! # Looking up in tables

Every lookup is a search for the first row that answers. `FirstAt` says which row that is, by its
place; two rows may be equal, so the place tells more than the row. A flat table is searched once. A
scene table and a figure table are searched twice: for the first row of the scene or the speaker,
whatever it holds, and in this row alone for the first trigger that answers (`WithinAt`).

What a longer target matches includes all that the target itself matches, so the first row that
answers it stands at the same place or earlier (`FirstAt.earlier`). The laws of the three tables,
`Lawful`, follow from this and from what a row has to be to answer. -/

namespace Dramaturg

/-! ## Matching -/

/-- A stored key matches a target: it is the target, or occurs in it if that is enough. -/
def Matches (strict : Bool) (stored target : String) : Prop :=
  if strict then stored = target else stored.toList <:+: target.toList

section

variable {strict : Bool} {stored target text : String}

theorem matches_true_iff : Matches true stored target ↔ stored = target := Iff.rfl

theorem matches_false_iff : Matches false stored target ↔ stored.toList <:+: target.toList :=
  Iff.of_eq (if_neg Bool.false_ne_true)

theorem keyMatches_iff : keyMatches strict stored target = true ↔ Matches strict stored target := by
  cases strict with
  | true => rw [matches_true_iff, keyMatches, if_pos rfl, beq_iff_eq]
  | false => rw [matches_false_iff, keyMatches, if_neg Bool.false_ne_true, Text.contains_iff_isInfix]

/-- A key that matches strictly also matches otherwise. -/
theorem Matches.lax (h : Matches strict stored target) : Matches false stored target := by
  cases strict with
  | false => exact h
  | true =>
    obtain rfl := matches_true_iff.1 h
    exact matches_false_iff.2 (List.infix_refl _)

/-- What occurs in a target occurs in every text that holds the target. -/
theorem Matches.mono (h : Matches false stored target) (htext : target.toList <:+: text.toList) :
    Matches false stored text :=
  matches_false_iff.2 ((matches_false_iff.1 h).trans htext)

end

/-- A row answers a target: its key matches, and its value is not empty. -/
def TableRow.Answers (strict : Bool) (target : String) (row : TableRow) : Prop :=
  Matches strict row.key target ∧ row.value ≠ ""

/-- A trigger answers a target: its key matches, and it has a feature. -/
def FigureTrigger.Answers (strict : Bool) (target : String) (trigger : FigureTrigger) : Prop :=
  Matches strict trigger.key target ∧ trigger.features ≠ []

theorem TableRow.answers_iff {strict : Bool} {target : String} (row : TableRow) :
    row.answers strict target = true ↔ row.Answers strict target := by
  simp [TableRow.answers, TableRow.Answers, keyMatches_iff]

theorem FigureTrigger.answers_iff {strict : Bool} {target : String} (trigger : FigureTrigger) :
    trigger.answers strict target = true ↔ trigger.Answers strict target := by
  simp [FigureTrigger.answers, FigureTrigger.Answers, keyMatches_iff]

/-! ## First rows -/

/-- The row at a place is the first of some rows with a property. -/
structure FirstAt {α : Type} (p : α → Prop) (rows : List α) (place : Nat) (row : α) : Prop where
  stands : rows[place]? = some row
  holds : p row
  first : ∀ earlier < place, ∀ other, rows[earlier]? = some other → ¬ p other

section

variable {α β γ : Type} {p q : α → Prop} {rows : List α} {row : α} {place : Nat}

theorem find?_eq_some_iff_firstAt {test : α → Bool} (htest : ∀ x, test x = true ↔ p x) :
    rows.find? test = some row ↔ ∃ place, FirstAt p rows place row := by
  rw [List.find?_eq_some_iff_getElem]
  constructor
  · rintro ⟨hrow, place, hlt, rfl, hfirst⟩
    refine ⟨place, List.getElem?_eq_getElem hlt, (htest _).1 hrow, ?_⟩
    intro earlier hearlier other hother hp
    obtain ⟨hlt', rfl⟩ := List.getElem?_eq_some_iff.1 hother
    simpa [(htest _).2 hp] using hfirst earlier hearlier
  · rintro ⟨place, hstands, hrow, hfirst⟩
    obtain ⟨hlt, rfl⟩ := List.getElem?_eq_some_iff.1 hstands
    refine ⟨(htest _).2 hrow, place, hlt, rfl, ?_⟩
    intro earlier hearlier
    have hother := hfirst earlier hearlier _ (List.getElem?_eq_getElem (Nat.lt_trans hearlier hlt))
    simpa [← htest] using hother

/-- A value is found if the first row has it. -/
theorem map_find?_eq_some_iff_firstAt {test : α → Bool} {value : α → γ} {v : γ}
    (htest : ∀ x, test x = true ↔ p x) :
    (rows.find? test).map value = some v ↔ ∃ place row, FirstAt p rows place row ∧ value row = v := by
  simp only [Option.map_eq_some_iff, find?_eq_some_iff_firstAt htest]
  constructor
  · rintro ⟨row, ⟨place, hrow⟩, hvalue⟩
    exact ⟨place, row, hrow, hvalue⟩
  · rintro ⟨place, row, hrow, hvalue⟩
    exact ⟨row, ⟨place, hrow⟩, hvalue⟩

theorem FirstAt.mem (h : FirstAt p rows place row) : row ∈ rows :=
  List.mem_of_getElem? h.stands

/-- There is a first row as soon as there is a row. -/
theorem exists_firstAt (hmem : row ∈ rows) (hrow : p row) :
    ∃ place first, FirstAt p rows place first := by
  classical
  obtain ⟨first, hfind⟩ : ∃ first, rows.find? (fun x => decide (p x)) = some first :=
    Option.isSome_iff_exists.1 (List.find?_isSome.2 ⟨row, hmem, decide_eq_true hrow⟩)
  obtain ⟨place, hfirst⟩ := (find?_eq_some_iff_firstAt fun x => decide_eq_true_iff).1 hfind
  exact ⟨place, first, hfirst⟩

/-- The first row with a weaker property stands at the same place or earlier. -/
theorem FirstAt.earlier (h : FirstAt p rows place row) (hpq : ∀ x, p x → q x) :
    ∃ place' ≤ place, ∃ row', FirstAt q rows place' row' := by
  obtain ⟨place', row', hfirst⟩ := exists_firstAt h.mem (hpq row h.holds)
  have hle : place' ≤ place := by
    rcases Nat.lt_or_ge place place' with hlt | hge
    · exact absurd (hpq row h.holds) (hfirst.first place hlt row h.stands)
    · exact hge
  exact ⟨place', hle, row', hfirst⟩

theorem FirstAt.unique {place' : Nat} {row' : α} (h : FirstAt p rows place row)
    (h' : FirstAt p rows place' row') : place = place' ∧ row = row' := by
  have hplace : place = place' := by
    rcases Nat.lt_trichotomy place place' with hlt | heq | hgt
    · exact absurd h.holds (h'.first place hlt row h.stands)
    · exact heq
    · exact absurd h'.holds (h.first place' hgt row' h'.stands)
  subst hplace
  exact ⟨rfl, Option.some.inj (h.stands.symm.trans h'.stands)⟩

/-- A thing inside the first row with a property, the first there with a property of its own. -/
def WithinAt (p : α → Prop) (inside : α → List β) (q : β → Prop) (rows : List α)
    (place inner : Nat) (thing : β) : Prop :=
  ∃ row, FirstAt p rows place row ∧ FirstAt q (inside row) inner thing

/-- A value is found inside rows if the first thing inside the first row has it. -/
theorem bind_find?_eq_some_iff_withinAt {test : α → Bool} {test' : β → Bool} {q : β → Prop}
    {inside : α → List β} {value : β → γ} {v : γ} (htest : ∀ x, test x = true ↔ p x)
    (htest' : ∀ y, test' y = true ↔ q y) :
    ((rows.find? test).bind fun row => ((inside row).find? test').map value) = some v ↔
      ∃ place inner thing, WithinAt p inside q rows place inner thing ∧ value thing = v := by
  simp only [Option.bind_eq_some_iff, find?_eq_some_iff_firstAt htest,
    map_find?_eq_some_iff_firstAt htest', WithinAt]
  constructor
  · rintro ⟨row, ⟨place, hrow⟩, inner, thing, hthing, hvalue⟩
    exact ⟨place, inner, thing, ⟨row, hrow, hthing⟩, hvalue⟩
  · rintro ⟨place, inner, thing, ⟨row, hrow, hthing⟩, hvalue⟩
    exact ⟨row, ⟨place, hrow⟩, inner, thing, hthing, hvalue⟩

theorem WithinAt.earlier {inside : α → List β} {r r' : β → Prop} {inner : Nat} {thing : β}
    (h : WithinAt p inside r rows place inner thing) (hr : ∀ y, r y → r' y) :
    ∃ inner' ≤ inner, ∃ thing', WithinAt p inside r' rows place inner' thing' := by
  obtain ⟨row, hrow, hthing⟩ := h
  obtain ⟨inner', hle, thing', hthing'⟩ := hthing.earlier hr
  exact ⟨inner', hle, thing', row, hrow, hthing'⟩

/-- What is found inside rows is found inside the first one, if anywhere. -/
theorem exists_withinAt_iff_of_firstAt {inside : α → List β} {r : β → Prop} {value : β → γ} {v : γ}
    (h : FirstAt p rows place row) :
    (∃ place' inner thing, WithinAt p inside r rows place' inner thing ∧ value thing = v) ↔
      ∃ inner thing, FirstAt r (inside row) inner thing ∧ value thing = v := by
  constructor
  · rintro ⟨place', inner, thing, ⟨row', hrow', hthing⟩, hvalue⟩
    obtain ⟨-, rfl⟩ := hrow'.unique h
    exact ⟨inner, thing, hthing, hvalue⟩
  · rintro ⟨inner, thing, hthing, hvalue⟩
    exact ⟨place, inner, thing, ⟨row, h, hthing⟩, hvalue⟩

end

theorem TableRow.Answers.mono {target text : String} (htext : target.toList <:+: text.toList)
    (row : TableRow) (h : row.Answers false target) : row.Answers false text :=
  ⟨h.1.mono htext, h.2⟩

theorem FigureTrigger.Answers.mono {target text : String}
    (htext : target.toList <:+: text.toList) (trigger : FigureTrigger)
    (h : trigger.Answers false target) : trigger.Answers false text :=
  ⟨h.1.mono htext, h.2⟩

/-! ## Flat tables -/

namespace FlatTable

/-- The row at a place is the one that answers a target. -/
def FoundAt (t : FlatTable) (strict : Bool) (target : String) (place : Nat) (row : TableRow) :
    Prop :=
  FirstAt (TableRow.Answers strict target) t.rows place row

/-- What holds of looking up in a flat table. -/
structure Lawful (t : FlatTable) : Prop where
  lookup_iff : ∀ strict target value, t.lookup? strict target = some value ↔
    ∃ place row, t.FoundAt strict target place row ∧ row.value = value
  ne_empty : ∀ strict target value, t.lookup? strict target = some value → value ≠ ""
  strict_iff : ∀ target, (∃ value, t.lookup? true target = some value) ↔
    ∃ row ∈ t.rows, row.key = target ∧ row.value ≠ ""
  lax_of_strict : ∀ target value, t.lookup? true target = some value →
    ∃ value', t.lookup? false target = some value'
  monotone : ∀ target text place row, target.toList <:+: text.toList →
    t.FoundAt false target place row → ∃ place' ≤ place, ∃ row', t.FoundAt false text place' row'

theorem lookup?_eq_some_iff {t : FlatTable} {strict : Bool} {target value : String} :
    t.lookup? strict target = some value ↔
      ∃ place row, t.FoundAt strict target place row ∧ row.value = value :=
  map_find?_eq_some_iff_firstAt TableRow.answers_iff

/-- A lookup succeeds as soon as a row answers. -/
theorem exists_lookup?_iff {t : FlatTable} {strict : Bool} {target : String} :
    (∃ value, t.lookup? strict target = some value) ↔ ∃ row ∈ t.rows, row.Answers strict target := by
  simp only [lookup?_eq_some_iff]
  constructor
  · rintro ⟨value, place, row, hrow, -⟩
    exact ⟨row, hrow.mem, hrow.holds⟩
  · rintro ⟨row, hmem, hrow⟩
    obtain ⟨place, first, hfirst⟩ := exists_firstAt hmem hrow
    exact ⟨first.value, place, first, hfirst, rfl⟩

theorem lawful (t : FlatTable) : t.Lawful where
  lookup_iff := fun _ _ _ => lookup?_eq_some_iff
  ne_empty := by
    intro strict target value h
    obtain ⟨place, row, hrow, rfl⟩ := lookup?_eq_some_iff.1 h
    exact hrow.holds.2
  strict_iff := fun _ => exists_lookup?_iff
  lax_of_strict := by
    intro target value h
    obtain ⟨row, hmem, hmatches, hvalue⟩ := exists_lookup?_iff.1 ⟨value, h⟩
    exact exists_lookup?_iff.2 ⟨row, hmem, hmatches.lax, hvalue⟩
  monotone := fun _ _ _ _ htext h => h.earlier (TableRow.Answers.mono htext)

end FlatTable

/-! ## Scene tables -/

namespace SceneTable

/-- The row at a place is the one of a scene. -/
def RowAt (t : SceneTable) (strict : Bool) (scene : String) (place : Nat) (row : SceneRow) : Prop :=
  FirstAt (fun row => Matches strict row.scene scene) t.rows place row

/-- The trigger at a place inside the row of a scene is the one that answers a target. -/
def FoundAt (t : SceneTable) (strict : Bool) (scene target : String) (place inner : Nat)
    (trigger : TableRow) : Prop :=
  WithinAt (fun row => Matches strict row.scene scene) SceneRow.triggers
    (TableRow.Answers strict target) t.rows place inner trigger

/-- What holds of looking up in a scene table. -/
structure Lawful (t : SceneTable) : Prop where
  lookup_iff : ∀ strict scene target value, t.lookup? strict scene target = some value ↔
    ∃ place inner trigger, t.FoundAt strict scene target place inner trigger ∧
      trigger.value = value
  ne_empty : ∀ strict scene target value,
    t.lookup? strict scene target = some value → value ≠ ""
  first_row : ∀ strict scene target place row, t.RowAt strict scene place row → ∀ value,
    t.lookup? strict scene target = some value ↔
      ∃ inner trigger, FirstAt (TableRow.Answers strict target) row.triggers inner trigger ∧
        trigger.value = value
  monotone : ∀ scene target text place inner trigger, target.toList <:+: text.toList →
    t.FoundAt false scene target place inner trigger →
      ∃ inner' ≤ inner, ∃ trigger', t.FoundAt false scene text place inner' trigger'

theorem lookup?_eq_some_iff {t : SceneTable} {strict : Bool} {scene target value : String} :
    t.lookup? strict scene target = some value ↔
      ∃ place inner trigger, t.FoundAt strict scene target place inner trigger ∧
        trigger.value = value := by
  have hlookup : t.lookup? strict scene target
      = (t.row? strict scene).bind fun row =>
          (row.triggers.find? (TableRow.answers strict target)).map (·.value) := Option.map_bind
  rw [hlookup]
  exact bind_find?_eq_some_iff_withinAt (fun _ => keyMatches_iff) TableRow.answers_iff

theorem lawful (t : SceneTable) : t.Lawful where
  lookup_iff := fun _ _ _ _ => lookup?_eq_some_iff
  ne_empty := by
    intro strict scene target value h
    obtain ⟨place, inner, trigger, ⟨row, -, htrigger⟩, rfl⟩ := lookup?_eq_some_iff.1 h
    exact htrigger.holds.2
  first_row := by
    intro strict scene target place row hrow value
    exact lookup?_eq_some_iff.trans (exists_withinAt_iff_of_firstAt hrow)
  monotone := fun _ _ _ _ _ _ htext h => WithinAt.earlier h (TableRow.Answers.mono htext)

end SceneTable

/-! ## Figure tables -/

namespace FigureTable

/-- The character at a place is the one of a name. -/
def RowAt (t : FigureTable) (strict : Bool) (name : String) (place : Nat) (row : Character) :
    Prop :=
  FirstAt (fun row => Matches strict row.speaker name) t.characters place row

/-- The trigger at a place inside the character of a name is the one that answers a target. -/
def FoundAt (t : FigureTable) (strict : Bool) (name target : String) (place inner : Nat)
    (trigger : FigureTrigger) : Prop :=
  WithinAt (fun row => Matches strict row.speaker name) Character.triggers
    (FigureTrigger.Answers strict target) t.characters place inner trigger

/-- What holds of looking up in a figure table. -/
structure Lawful (t : FigureTable) : Prop where
  character_iff : ∀ strict name row,
    t.character? strict name = some row ↔ ∃ place, t.RowAt strict name place row
  features_iff : ∀ strict name target features, t.features? strict name target = some features ↔
    ∃ place inner trigger, t.FoundAt strict name target place inner trigger ∧
      trigger.features = features
  defaultPath_iff : ∀ name path, t.defaultPath? name = some path ↔
    ∃ place row, t.RowAt false name place row ∧ row.defaultPath = path ∧ path ≠ ""
  features_ne_nil : ∀ strict name target features,
    t.features? strict name target = some features → features ≠ []
  path_ne_empty : ∀ name path, t.defaultPath? name = some path → path ≠ ""
  first_row : ∀ strict name target place row, t.RowAt strict name place row → ∀ features,
    t.features? strict name target = some features ↔
      ∃ inner trigger, FirstAt (FigureTrigger.Answers strict target) row.triggers inner trigger ∧
        trigger.features = features
  name_monotone : ∀ name text place row, name.toList <:+: text.toList →
    t.RowAt false name place row → ∃ place' ≤ place, ∃ row', t.RowAt false text place' row'
  monotone : ∀ name target text place inner trigger, target.toList <:+: text.toList →
    t.FoundAt false name target place inner trigger →
      ∃ inner' ≤ inner, ∃ trigger', t.FoundAt false name text place inner' trigger'

theorem character?_eq_some_iff {t : FigureTable} {strict : Bool} {name : String}
    {row : Character} :
    t.character? strict name = some row ↔ ∃ place, t.RowAt strict name place row :=
  find?_eq_some_iff_firstAt fun _ => keyMatches_iff

theorem features?_eq_some_iff {t : FigureTable} {strict : Bool} {name target : String}
    {features : List Feature} :
    t.features? strict name target = some features ↔
      ∃ place inner trigger, t.FoundAt strict name target place inner trigger ∧
        trigger.features = features :=
  bind_find?_eq_some_iff_withinAt (fun _ => keyMatches_iff) FigureTrigger.answers_iff

theorem ne_empty_of_defaultPath?_eq_some {t : FigureTable} {name path : String}
    (h : t.defaultPath? name = some path) : path ≠ "" := by
  unfold defaultPath? at h
  obtain ⟨-, hnonempty⟩ := Option.filter_eq_some_iff.1 h
  simpa using hnonempty

theorem lawful (t : FigureTable) : t.Lawful where
  character_iff := fun _ _ _ => character?_eq_some_iff
  features_iff := fun _ _ _ _ => features?_eq_some_iff
  defaultPath_iff := by
    intro name path
    have hfind : (t.character? false name).map (·.defaultPath) = some path ↔
        ∃ place row, t.RowAt false name place row ∧ row.defaultPath = path :=
      map_find?_eq_some_iff_firstAt fun _ => keyMatches_iff
    rw [defaultPath?, Option.filter_eq_some_iff, hfind]
    constructor
    · rintro ⟨⟨place, row, hrow, hpath⟩, hne⟩
      exact ⟨place, row, hrow, hpath, by simpa using hne⟩
    · rintro ⟨place, row, hrow, hpath, hne⟩
      exact ⟨⟨place, row, hrow, hpath⟩, by simpa using hne⟩
  features_ne_nil := by
    intro strict name target features h
    obtain ⟨place, inner, trigger, ⟨row, -, htrigger⟩, rfl⟩ := features?_eq_some_iff.1 h
    exact htrigger.holds.2
  path_ne_empty := fun _ _ => ne_empty_of_defaultPath?_eq_some
  first_row := by
    intro strict name target place row hrow features
    exact features?_eq_some_iff.trans (exists_withinAt_iff_of_firstAt hrow)
  name_monotone := fun _ _ _ _ htext h => h.earlier fun _ hrow => hrow.mono htext
  monotone := fun _ _ _ _ _ _ htext h => WithinAt.earlier h (FigureTrigger.Answers.mono htext)

end FigureTable

/-- Looking up in the tables of a story: nothing empty is found, what is found strictly is found
    otherwise too, a longer target finds at the same place or earlier, and of scenes and characters
    only the first that matches is searched. -/
theorem Tables.lookups_lawful (t : Tables) :
    t.background.Lawful ∧ t.bgm.Lawful ∧ t.scene.Lawful ∧ t.figures.Lawful :=
  ⟨t.background.lawful, t.bgm.lawful, t.scene.lawful, t.figures.lawful⟩

end Dramaturg
