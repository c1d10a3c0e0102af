import Dramaturg.Stage.Act
import Dramaturg.Turn.Request
import Dramaturg.Proofs.Stage.Roster

set_option autoImplicit false

/-! # Channels

Each command goes out on a channel, and each channel has a part of the stage to itself: the roster
with the source of chance, or the memory of what was given last. The rest of the stage, the rules and
the identifiers, is a frame that all channels share. An act keeps to a channel if it gives commands
on that channel only, changes nothing but the part of the channel, and depends on nothing but that
part and the frame. -/

namespace Dramaturg

/-- What commands go out on. -/
inductive Channel where
  | dialogue
  | figure
  | background
  | music
  | scene
deriving DecidableEq

/-- The channel of commands of a kind. -/
def CommandKind.channel : CommandKind → Channel
  | .say => .dialogue
  | .changeFigure => .figure
  | .setTransform => .figure
  | .changeBackground => .background
  | .bgm => .music
  | .changeScene => .scene

namespace Channels

/-- Whether a channel is switched on. -/
def isOn (c : Channels) : Channel → Bool
  | .dialogue => c.dialogue
  | .figure => c.figure
  | .background => c.background
  | .music => c.music
  | .scene => c.scene

theorem allows_eq_isOn (c : Channels) (kind : CommandKind) :
    c.allows kind = c.isOn kind.channel := by
  cases kind <;> rfl

@[simp] theorem isOn_both (c d : Channels) (k : Channel) :
    (c.both d).isOn k = (c.isOn k && d.isOn k) := by
  cases k <;> rfl

@[simp] theorem both_self (c : Channels) : c.both c = c := by
  simp [both]

end Channels

variable {α : Type}

/-! ## The parts of a stage -/

namespace Stage

/-- Whether two stages are the same in what all channels share. -/
structure SameFrame (s s' : Stage α) : Prop where
  rules : s.rules = s'.rules
  paragraphId : s.paragraphId = s'.paragraphId
  sentenceId : s.sentenceId = s'.sentenceId
  ids : s.ids = s'.ids

/-- Whether two stages are the same in what a channel has to itself. -/
def SameOn (s s' : Stage α) : Channel → Prop
  | .dialogue => s.lastSpeaker = s'.lastSpeaker
  | .figure => s.roster = s'.roster ∧ s.random = s'.random
  | .background => s.lastBackground = s'.lastBackground
  | .music => s.lastBgm = s'.lastBgm
  | .scene => s.lastScene = s'.lastScene

variable {s s' s'' : Stage α} {k : Channel}

theorem SameFrame.refl (s : Stage α) : s.SameFrame s := ⟨rfl, rfl, rfl, rfl⟩

theorem SameFrame.symm (h : s.SameFrame s') : s'.SameFrame s :=
  ⟨h.rules.symm, h.paragraphId.symm, h.sentenceId.symm, h.ids.symm⟩

theorem SameFrame.trans (h : s.SameFrame s') (h' : s'.SameFrame s'') : s.SameFrame s'' :=
  ⟨h.rules.trans h'.rules, h.paragraphId.trans h'.paragraphId, h.sentenceId.trans h'.sentenceId,
    h.ids.trans h'.ids⟩

theorem SameOn.refl (s : Stage α) (k : Channel) : s.SameOn s k := by
  cases k with
  | figure => exact ⟨rfl, rfl⟩
  | dialogue | background | music | scene => rfl

theorem SameOn.symm (h : s.SameOn s' k) : s'.SameOn s k := by
  cases k with
  | figure => exact ⟨h.1.symm, h.2.symm⟩
  | dialogue | background | music | scene => exact Eq.symm h

theorem SameOn.trans (h : s.SameOn s' k) (h' : s'.SameOn s'' k) : s.SameOn s'' k := by
  cases k with
  | figure => exact ⟨h.1.trans h'.1, h.2.trans h'.2⟩
  | dialogue | background | music | scene => exact Eq.trans h h'

end Stage

/-! ## Acts that keep to a channel -/

/-- Whether an act keeps to a channel. Only want of numbers for figures may stop it. -/
structure Act.KeepsTo (act : Act α) (k : Channel) : Prop where
  frame (s : Stage α) : s.SameFrame (act s).2
  others (s : Stage α) (k' : Channel) : k' ≠ k → s.SameOn (act s).2 k'
  channel (s : Stage α) (commands : List Command) : (act s).1 = .ok commands →
    ∀ c ∈ commands, c.kind.channel = k
  fault (s : Stage α) (fault : Fault) : (act s).1 = .error fault →
    ∃ figures, fault = .idsExhausted figures
  congr (s s' : Stage α) : s.SameFrame s' → s.SameOn s' k →
    (act s).1 = (act s').1 ∧ (act s).2.SameOn (act s').2 k

namespace Act

theorem keepsTo_say (speaker reply page : String) :
    (single (Stage.say (α := α) speaker reply page)).KeepsTo .dialogue where
  frame s := ⟨rfl, rfl, rfl, rfl⟩
  others s k' hother := by
    cases k' with
    | dialogue => exact absurd rfl hother
    | figure => exact ⟨rfl, rfl⟩
    | background | music | scene => rfl
  channel s commands hcommands c hc := by
    obtain rfl := Except.ok.inj hcommands
    obtain rfl := List.mem_singleton.1 hc
    rfl
  fault s fault hfault := nomatch hfault
  congr s s' hframe hsame := by
    have hlast : s.lastSpeaker = s'.lastSpeaker := hsame
    have hspeaker : s.speakerFor speaker = s'.speakerFor speaker := by
      unfold Stage.speakerFor
      rw [hlast]
    constructor
    · simp [single, Stage.say, hspeaker, hframe.paragraphId, hframe.sentenceId]
    · exact hspeaker

end Act

/-! ## Background, music and scene -/

/-- What is announced when it changes. -/
inductive Ambience where
  | background
  | music
  | scene
deriving DecidableEq

namespace Ambience

/-- The channel on which an ambience is announced. -/
def channel : Ambience → Channel
  | .background => .background
  | .music => .music
  | .scene => .scene

/-- What was announced last. -/
def memo (a : Ambience) (s : Stage α) : Option String :=
  match a with
  | .background => s.lastBackground
  | .music => s.lastBgm
  | .scene => s.lastScene

/-- Whether what was announced last may be announced again. -/
def repeats (a : Ambience) (rules : StageRules α) : Bool :=
  match a with
  | .background => rules.repeatBackground
  | .music => rules.repeatBgm
  | .scene => rules.repeatScene

/-- The command that announces a value. -/
def command (a : Ambience) (value : String) : Command :=
  match a with
  | .background => ⟨.changeBackground, value, [⟨"next", .flag true⟩]⟩
  | .music => ⟨.bgm, value, [⟨"next", .flag true⟩]⟩
  | .scene => ⟨.changeScene, value, []⟩

/-- The stage when a value has been announced. -/
def remember (a : Ambience) (value : String) (s : Stage α) : Stage α :=
  match a with
  | .background => { s with lastBackground := some value }
  | .music => { s with lastBgm := some value }
  | .scene => { s with lastScene := some value }

/-- The act that announces what was found. -/
def act (a : Ambience) (found : Option String) : Act α :=
  match a with
  | .background => Act.optional (Stage.background found)
  | .music => Act.optional (Stage.bgm found)
  | .scene => Act.optional (Stage.scene found)

/-- What is announced on a stage of what was found. -/
def announced? (a : Ambience) (found : Option String) (s : Stage α) : Option String :=
  Stage.announce? (a.repeats s.rules) (a.memo s) found

theorem channel_command (a : Ambience) (value : String) :
    (a.command value).kind.channel = a.channel := by
  cases a <;> rfl

theorem content_command (a : Ambience) (value : String) : (a.command value).content = value := by
  cases a <;> rfl

theorem memo_remember (a : Ambience) (value : String) (s : Stage α) :
    a.memo (a.remember value s) = some value := by
  cases a <;> rfl

theorem sameFrame_remember (a : Ambience) (value : String) (s : Stage α) :
    s.SameFrame (a.remember value s) := by
  cases a <;> exact ⟨rfl, rfl, rfl, rfl⟩

theorem sameOn_remember (a : Ambience) (value : String) (s : Stage α) {k : Channel}
    (h : k ≠ a.channel) : s.SameOn (a.remember value s) k := by
  cases k with
  | figure => cases a <;> exact ⟨rfl, rfl⟩
  | dialogue => cases a <;> rfl
  | background | music | scene => cases a <;> first | rfl | exact absurd rfl h

theorem sameOn_channel (a : Ambience) (s s' : Stage α) :
    s.SameOn s' a.channel ↔ a.memo s = a.memo s' := by
  cases a <;> rfl

/-- An ambience is announced, and remembered, or nothing happens. -/
theorem act_eq (a : Ambience) (found : Option String) (s : Stage α) :
    a.act found s =
      match a.announced? found s with
      | none => (.ok [], s)
      | some value => (.ok [a.command value], a.remember value s) := by
  cases a with
  | background =>
    simp only [act, Act.optional, Stage.background, announced?, repeats, memo]
    cases Stage.announce? s.rules.repeatBackground s.lastBackground found <;> rfl
  | music =>
    simp only [act, Act.optional, Stage.bgm, announced?, repeats, memo]
    cases Stage.announce? s.rules.repeatBgm s.lastBgm found <;> rfl
  | scene =>
    simp only [act, Act.optional, Stage.scene, announced?, repeats, memo]
    cases Stage.announce? s.rules.repeatScene s.lastScene found <;> rfl

theorem act_of_none {a : Ambience} {found : Option String} {s : Stage α}
    (h : a.announced? found s = none) : a.act found s = (.ok [], s) := by
  rw [act_eq, h]

theorem act_of_some {a : Ambience} {found : Option String} {s : Stage α} {value : String}
    (h : a.announced? found s = some value) :
    a.act found s = (.ok [a.command value], a.remember value s) := by
  rw [act_eq, h]

theorem exists_act_eq_ok (a : Ambience) (found : Option String) (s : Stage α) :
    ∃ commands, (a.act found s).1 = .ok commands := by
  cases h : a.announced? found s with
  | none => exact ⟨_, congrArg Prod.fst (act_of_none h)⟩
  | some value => exact ⟨_, congrArg Prod.fst (act_of_some h)⟩

theorem keepsTo_act (a : Ambience) (found : Option String) :
    (a.act (α := α) found).KeepsTo a.channel where
  frame s := by
    cases h : a.announced? found s with
    | none => rw [act_of_none h]; exact .refl s
    | some value => rw [act_of_some h]; exact a.sameFrame_remember value s
  others s k hother := by
    cases h : a.announced? found s with
    | none => rw [act_of_none h]; exact .refl s k
    | some value => rw [act_of_some h]; exact a.sameOn_remember value s hother
  channel s commands hcommands c hc := by
    cases h : a.announced? found s with
    | none =>
      rw [act_of_none h] at hcommands
      obtain rfl := Except.ok.inj hcommands
      cases hc
    | some value =>
      rw [act_of_some h] at hcommands
      obtain rfl := Except.ok.inj hcommands
      rw [List.mem_singleton.1 hc, channel_command]
  fault s fault hfault := by
    cases h : a.announced? found s with
    | none => rw [act_of_none h] at hfault; cases hfault
    | some value => rw [act_of_some h] at hfault; cases hfault
  congr s s' hframe hsame := by
    have hmemo : a.memo s = a.memo s' := (a.sameOn_channel s s').1 hsame
    have heq : a.announced? found s = a.announced? found s' := by
      unfold announced?
      rw [hframe.rules, hmemo]
    cases h : a.announced? found s with
    | none =>
      rw [act_of_none h, act_of_none (heq ▸ h)]
      exact ⟨rfl, hsame⟩
    | some value =>
      rw [act_of_some h, act_of_some (heq ▸ h), sameOn_channel, memo_remember, memo_remember]
      exact ⟨rfl, rfl⟩

end Ambience

/-! ## Figures -/

namespace Act

theorem keepsTo_drawing (draw : Random.Source → Random.Source) :
    (silent fun s : Stage α => { s with random := draw s.random }).KeepsTo .figure where
  frame s := ⟨rfl, rfl, rfl, rfl⟩
  others s k' hother := by
    cases k' with
    | figure => exact absurd rfl hother
    | dialogue | background | music | scene => rfl
  channel s commands hcommands c hc := by
    obtain rfl := Except.ok.inj hcommands
    cases hc
  fault s fault hfault := nomatch hfault
  congr s s' hframe hsame := by
    obtain ⟨hroster, hrandom⟩ := hsame
    exact ⟨rfl, hroster, congrArg draw hrandom⟩

theorem keepsTo_choose {β : Type} (options : List β) :
    (silent fun s : Stage α => (s.choose options).2).KeepsTo .figure :=
  keepsTo_drawing fun source => (source.choose options).2

variable [Coordinate α]

theorem channel_of_mem_showOne (factor : α) (feature : Feature) (path : String) (r : Roster α) :
    ∀ c ∈ (Stage.showOne factor feature path r).1, c.kind.channel = .figure := by
  unfold Stage.showOne
  cases r.find? path with
  | none => simp
  | some f =>
    by_cases hmoved : Stage.hasMoved f = true
    · simp [hmoved, Stage.showCommand, Stage.moveCommand, CommandKind.channel]
    · simp [hmoved, Stage.showCommand, CommandKind.channel]

theorem channel_of_mem_showAll (factor : α) (cast : List (Feature × String)) (r : Roster α) :
    ∀ c ∈ (Stage.showAll factor cast r).1, c.kind.channel = .figure := by
  induction cast generalizing r with
  | nil =>
    intro c hc
    cases hc
  | cons first rest ih =>
    obtain ⟨feature, path⟩ := first
    intro c hc
    rcases List.mem_append.1 hc with hc | hc
    · exact channel_of_mem_showOne factor feature path r c hc
    · exact ih _ c hc

theorem keepsTo_figures (features : List Feature) (paths : List String) :
    KeepsTo (Stage.figures (α := α) features paths) .figure where
  frame s := by
    unfold Stage.figures
    split
    · exact .refl s
    · dsimp only
      split <;> exact ⟨rfl, rfl, rfl, rfl⟩
  others s k' hother := by
    unfold Stage.figures
    split
    · exact .refl s k'
    · dsimp only
      split <;> (cases k' <;> first | rfl | exact absurd rfl hother)
  channel s commands hcommands c hc := by
    unfold Stage.figures at hcommands
    split at hcommands
    · obtain rfl := Except.ok.inj hcommands
      cases hc
    · dsimp only at hcommands
      split at hcommands
      · cases hcommands
      · obtain rfl := Except.ok.inj hcommands
        rcases List.mem_append.1 hc with hc | hc
        · obtain ⟨id, -, rfl⟩ := List.mem_map.1 hc
          rfl
        · exact channel_of_mem_showAll _ _ _ c hc
  fault s fault hfault := by
    unfold Stage.figures at hfault
    split at hfault
    · cases hfault
    · dsimp only at hfault
      split at hfault
      · next reason roster _ hadded =>
        obtain rfl := Except.error.inj hfault
        obtain ⟨_, _, _, -, -, -, -, hreason⟩ := Roster.exists_of_addMissing_eq_error hadded
        exact ⟨roster.size, hreason⟩
      · cases hfault
  congr s s' hframe hsame := by
    obtain ⟨hroster, hrandom⟩ := hsame
    unfold Stage.figures
    rw [hframe.rules, hroster, hrandom]
    split
    · exact ⟨rfl, hroster, hrandom⟩
    · dsimp only
      split <;> exact ⟨rfl, rfl, rfl⟩

end Act

end Dramaturg
