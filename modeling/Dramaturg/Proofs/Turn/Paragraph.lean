import Dramaturg.Turn.Paragraph
import Dramaturg.Proofs.Stage.Restriction

set_option autoImplicit false

/-! # Paragraphs with channels switched off

A paragraph is looked up, and then acted out. Each part of it keeps to a channel, and so does the
lookup: it draws from the source of chance, but for figures only. So with some channels switched off
a paragraph is restricted to the others. -/

namespace Dramaturg

namespace Resolution

variable {α : Type} {m : Channels}

/-! ## Looking up -/

/-- Whether two paragraphs come to the same on the channels that are on. -/
structure Agree (m : Channels) (r r' : Resolution) : Prop where
  speaker : r.speaker = r'.speaker
  figures : m.isOn .figure = true → r.figures = r'.figures
  background : m.isOn .background = true → r.background = r'.background
  bgm : m.isOn .music = true → r.bgm = r'.bgm
  scene : m.isOn .scene = true → r.scene = r'.scene

/-- Figures are chosen by the source of chance alone, and nothing else changes. -/
theorem exists_chooseFigures (d : DirectiveRules) (t : Tables) (poses : List Directive.Pose) :
    ∃ (figures : Random.Source → List (Feature × String)) (draw : Random.Source → Random.Source),
      ∀ s : Stage α,
        chooseFigures d t poses s = (figures s.random, { s with random := draw s.random }) := by
  induction poses with
  | nil => exact ⟨fun _ => [], id, fun s => rfl⟩
  | cons p poses ih =>
    obtain ⟨figures, draw, hrest⟩ := ih
    cases hpose : candidates? d t p with
    | none =>
      refine ⟨figures, draw, ?_⟩
      intro s
      rw [chooseFigures, hpose]
      exact hrest s
    | some found =>
      obtain ⟨path, features⟩ := found
      let chosen (source : Random.Source) := source.choose features
      refine ⟨fun source =>
        ((chosen source).1.map fun feature => (feature, path)).toList ++ figures (chosen source).2,
        fun source => draw (chosen source).2, ?_⟩
      intro s
      simp only [chooseFigures, hpose, hrest]
      rfl

theorem keepsTo_chooseFigures (d : DirectiveRules) (t : Tables) (poses : List Directive.Pose) :
    (Act.silent fun s : Stage α => (chooseFigures d t poses s).2).KeepsTo .figure := by
  obtain ⟨figures, draw, hchosen⟩ := exists_chooseFigures (α := α) d t poses
  simp only [hchosen]
  exact Act.keepsTo_drawing draw

variable (story : Story) (channels : Channels) (currentScene : String) (b : Bundle)

/-- The stage when a paragraph has been looked up: if figures are on, features have been chosen. -/
theorem stage_ofBundle (s : Stage α) :
    (ofBundle story channels currentScene b s).2
      = (Act.when channels.figure (Act.silent fun s =>
          (chooseFigures story.settings.directives story.tables b.poses s).2) s).2 := by
  unfold ofBundle Act.when
  cases channels.figure <;> rfl

theorem restricts_choosing :
    (Act.when channels.figure (Act.silent fun s : Stage α =>
        (chooseFigures story.settings.directives story.tables b.poses s).2)).Restricts m
      (Act.when (channels.both m).figure (Act.silent fun s =>
        (chooseFigures story.settings.directives story.tables b.poses s).2)) :=
  (keepsTo_chooseFigures _ _ _).restricts_when (fun _ => rfl) channels.figure

theorem sameOn_ofBundle (s : Stage α) {k : Channel} (hoff : ¬ m.isOn k = true) :
    s.SameOn (ofBundle story (channels.both m) currentScene b s).2 k := by
  rw [stage_ofBundle]
  exact (restricts_choosing story channels b).untouched s k hoff

/-- Looking up with some channels off comes to the same on the others, and leaves a stage that
    agrees. -/
theorem agree_ofBundle {s s' : Stage α} (h : s.Agree m s') :
    let found := ofBundle story channels currentScene b s
    let found' := ofBundle story (channels.both m) currentScene b s'
    Agree m found.1 found'.1 ∧ found.2.Agree m found'.2 := by
  intro found found'
  constructor
  · refine ⟨rfl, ?_, ?_, ?_, ?_⟩
    · intro hon
      have hrandom : s.random = s'.random := (h.same .figure hon).2
      obtain ⟨_, _, hchosen⟩ := exists_chooseFigures (α := α) story.settings.directives story.tables
        b.poses
      have hon : m.figure = true := hon
      by_cases hfigure : channels.figure = true <;>
        simp [found, found', ofBundle, Channels.both, hon, hfigure, hchosen, hrandom]
    · intro hon
      have hon : m.background = true := hon
      simp [found, found', ofBundle, Channels.both, hon]
    · intro hon
      have hon : m.music = true := hon
      simp [found, found', ofBundle, Channels.both, hon]
    · intro hon
      have hon : m.scene = true := hon
      simp [found, found', ofBundle, Channels.both, hon]
  · simp only [found, found', stage_ofBundle]
    rcases (restricts_choosing story channels b).agrees s s' h with ⟨_, hcount⟩ | ⟨-, hagree⟩
    · rw [Act.fst_when_silent] at hcount
      cases hcount
    · exact hagree

/-! ## Acting -/

variable [Coordinate α] {r r' : Resolution}

theorem restricts_pageAct (h : r.Agree m r') (channels : Channels) (reply page : String) :
    (r.pageAct (α := α) channels reply page).Restricts m
      (r'.pageAct (channels.both m) reply page) := by
  have hfigures := (Act.keepsTo_figures (α := α) (r.figures.map (·.1))
    (r.figures.map (·.2))).restricts_when (m := m) (fun hon => by rw [h.figures hon])
      channels.figure
  have hsay := (Act.keepsTo_say (α := α) r.speaker reply page).restricts_when (m := m)
    (fun _ => by rw [h.speaker]) channels.dialogue
  unfold pageAct
  exact Act.restricts_inOrder (.cons hfigures (.cons hsay .nil))

theorem restricts_pagesAct (h : r.Agree m r') (channels : Channels) (reply : String)
    (pages : Except Fault (List String)) :
    (r.pagesAct (α := α) channels reply pages).Restricts m
      (r'.pagesAct (channels.both m) reply pages) := by
  cases pages with
  | error fault => exact Act.restricts_stopped fault
  | ok pages =>
    apply Act.restricts_inOrder
    rw [List.forall₂_map_left_iff, List.forall₂_map_right_iff, List.forall₂_same]
    exact fun page _ => restricts_pageAct h channels reply page

theorem restricts_act (h : r.Agree m r') (channels : Channels) (reply : String)
    (pages : Except Fault (List String)) :
    (r.act (α := α) channels reply pages).Restricts m (r'.act (channels.both m) reply pages) := by
  have hmusic := (Ambience.keepsTo_act (α := α) .music r.bgm).restricts_when (m := m)
    (fun hon => by rw [h.bgm hon]) channels.music
  have hbackground := (Ambience.keepsTo_act (α := α) .background r.background).restricts_when
    (m := m) (fun hon => by rw [h.background hon]) channels.background
  have hscene := (Ambience.keepsTo_act (α := α) .scene r.scene).restricts_when (m := m)
    (fun hon => by rw [h.scene hon]) channels.scene
  have hpages := restricts_pagesAct (α := α) h channels reply pages
  unfold act
  exact Act.restricts_inOrder
    (.cons Act.restricts_beginSentence (.cons hmusic (.cons hbackground
      (.cons hpages (.cons hscene .nil)))))

end Resolution

end Dramaturg
