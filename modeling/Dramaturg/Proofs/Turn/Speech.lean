import Dramaturg.Turn.Runner
import Dramaturg.Proofs.Stage.Performance
import Dramaturg.Proofs.Turn.Paragraph

set_option autoImplicit false

/-! # What is said

Of all acts of a paragraph only its pages say something, and only they remember who spoke. So what a
reply says can be read off its paragraphs: each page is said by the latest speaker that was named by
a paragraph with a page, its own or one before it. A paragraph without a page names nobody. -/

namespace Dramaturg

open Text

/-! ## Commands that say something -/

namespace Command

/-- Who says a page, if somebody is named. -/
def speaker? (c : Command) : Option String :=
  match c.get? "speaker" with
  | some (.text name) => some name
  | _ => none

/-- What commands say: each page with its speaker. -/
def speeches (commands : List Command) : List (Option String × String) :=
  (commands.filter fun c => decide (c.kind = .say)).map fun c => (c.speaker?, c.content)

@[simp] theorem speeches_nil : speeches [] = [] := rfl

@[simp] theorem speeches_append (before after : List Command) :
    speeches (before ++ after) = speeches before ++ speeches after := by
  unfold speeches
  rw [List.filter_append, List.map_append]

theorem speeches_eq_nil {commands : List Command} (h : ∀ c ∈ commands, c.kind ≠ .say) :
    speeches commands = [] := by
  unfold speeches
  rw [List.filter_eq_nil_iff.2 (by simpa using h), List.map_nil]

end Command

/-! ## Speakers -/

/-- Who speaks under a name after somebody spoke: a blank name stands for the last speaker. -/
def takeOver (last name : String) : String :=
  if isBlankText name then last else name

theorem takeOver_takeOver (last name : String) :
    takeOver (takeOver last name) name = takeOver last name := by
  unfold takeOver
  split <;> rfl

/-- The speaker that a page names; none if nobody has spoken yet. -/
def named (speaker : String) : Option String :=
  if speaker.isEmpty then none else some speaker

theorem Stage.speaker?_say {α : Type} (name reply page : String) (s : Stage α) :
    (s.say name reply page).1.speaker? = named (takeOver s.lastSpeaker name) := by
  have hfor : s.speakerFor name = takeOver s.lastSpeaker name := rfl
  unfold say named
  rw [hfor]
  by_cases hempty : (takeOver s.lastSpeaker name).isEmpty = true
  · simp only [hempty, if_true]
    rfl
  · simp only [hempty, Bool.false_eq_true, if_false]
    rfl

/-! ## Acts that say something -/

namespace Act

variable {α : Type}

/-- Whether an act says nothing and leaves the last speaker alone. -/
def Mute (act : Act α) : Prop :=
  ∀ s commands s', act s = (.ok commands, s') →
    Command.speeches commands = [] ∧ s'.lastSpeaker = s.lastSpeaker

/-- Whether an act says `said` on a stage whose last speaker is `before`, and makes `after` the last
    speaker. -/
def Says (act : Act α) (before : String) (said : List (Option String × String)) (after : String) :
    Prop :=
  ∀ s commands s', s.lastSpeaker = before → act s = (.ok commands, s') →
    Command.speeches commands = said ∧ s'.lastSpeaker = after

theorem Mute.says_nil {act : Act α} (h : act.Mute) (last : String) : act.Says last [] last := by
  intro s commands s' hbefore hact
  obtain ⟨hsaid, hlast⟩ := h s commands s' hact
  exact ⟨hsaid, hlast.trans hbefore⟩

theorem says_stopped (fault : Fault) (before : String) (said : List (Option String × String))
    (after : String) : (stopped fault : Act α).Says before said after := by
  intro s commands s' _ hact
  cases hact

theorem Says.andThen {first second : Act α} {before between after : String}
    {said said' : List (Option String × String)} (h : first.Says before said between)
    (h' : second.Says between said' after) :
    (first.andThen second).Says before (said ++ said') after := by
  intro s commands s' hbefore hact
  obtain ⟨commands₁, s₁, commands₂, hfirst, hsecond, rfl⟩ := andThen_eq_ok hact
  obtain ⟨hsaid, hbetween⟩ := h _ _ _ hbefore hfirst
  obtain ⟨hsaid', hafter⟩ := h' _ _ _ hbetween hsecond
  exact ⟨by rw [Command.speeches_append, hsaid, hsaid'], hafter⟩

theorem mute_idle : (idle : Act α).Mute := by
  rintro s commands s' ⟨⟩
  exact ⟨rfl, rfl⟩

theorem mute_silent (change : Stage α → Stage α)
    (h : ∀ s, (change s).lastSpeaker = s.lastSpeaker) : (silent change).Mute := by
  rintro s commands s' ⟨⟩
  exact ⟨rfl, h s⟩

theorem mute_when (condition : Bool) {act : Act α} (h : condition = true → act.Mute) :
    (when condition act).Mute := by
  unfold when
  split
  · exact h ‹_›
  · exact mute_idle

/-- Whatever keeps to another channel than that of the dialogue is mute. -/
theorem KeepsTo.mute {act : Act α} {k : Channel} (h : act.KeepsTo k) (hk : k ≠ .dialogue) :
    act.Mute := by
  intro s commands s' hact
  have hcommands : (act s).1 = .ok commands := congrArg Prod.fst hact
  constructor
  · apply Command.speeches_eq_nil
    intro c hc hsay
    have hchannel := h.channel s commands hcommands c hc
    rw [hsay] at hchannel
    exact hk hchannel.symm
  · have hlast : s.lastSpeaker = (act s).2.lastSpeaker := h.others s .dialogue hk.symm
    rw [hlast, hact]

theorem says_say (name reply page last : String) :
    (single (Stage.say (α := α) name reply page)).Says last [(named (takeOver last name), page)]
      (takeOver last name) := by
  rintro s commands s' rfl ⟨⟩
  refine ⟨?_, rfl⟩
  rw [← Stage.speaker?_say name reply page s]
  rfl

end Act

/-! ## Paragraphs -/

/-- A paragraph as it is acted out: whom it names, and the pages of it that are said. -/
structure Line where
  speaker : String
  pages : List String
deriving DecidableEq

/-- Whether something is said. -/
def Line.isSaid (l : Line) : Bool := !l.pages.isEmpty

/-- A line of some pages, which are said if the dialogue is switched on. -/
def Line.ofPages (speaker : String) (channels : Channels) (pages : Except Fault (List String)) :
    Line :=
  ⟨speaker, if channels.dialogue then pages.toOption.getD [] else []⟩

/-- Whether an act says a line after somebody spoke, and makes its speaker the last one if there is
    anything to say. -/
def Act.SaysLine {α : Type} (act : Act α) (l : Line) : Prop :=
  ∀ last, act.Says last (l.pages.map fun page => (named (takeOver last l.speaker), page))
    (if l.isSaid then takeOver last l.speaker else last)

namespace Resolution

variable {α : Type} [Coordinate α] (r : Resolution) {channels : Channels} (reply : String)

theorem mute_figuresAct (channels : Channels) :
    (Act.when channels.figure (Stage.figures (α := α) (r.figures.map (·.1))
      (r.figures.map (·.2)))).Mute :=
  Act.mute_when _ fun _ => (Act.keepsTo_figures _ _).mute nofun

theorem says_pageAct (hdialogue : channels.dialogue = true) (page last : String) :
    (r.pageAct (α := α) channels reply page).Says last [(named (takeOver last r.speaker), page)]
      (takeOver last r.speaker) := by
  have hsay := (Act.says_say (α := α) r.speaker reply page last).andThen (Act.mute_idle.says_nil _)
  unfold pageAct
  rw [hdialogue]
  exact ((r.mute_figuresAct channels).says_nil last).andThen hsay

theorem says_pageAct_of_silent (hdialogue : channels.dialogue = false) (page last : String) :
    (r.pageAct (α := α) channels reply page).Says last [] last := by
  unfold pageAct
  rw [hdialogue]
  exact ((r.mute_figuresAct channels).says_nil last).andThen
    ((Act.mute_idle.says_nil last).andThen (Act.mute_idle.says_nil last))

/-- All pages of a paragraph have the same speaker. -/
theorem saysLine_pages (channels : Channels) (pages : List String) :
    (Act.inOrder (pages.map (r.pageAct (α := α) channels reply))).SaysLine
      (.ofPages r.speaker channels (.ok pages)) := by
  intro last
  cases hdialogue : channels.dialogue with
  | false =>
    simp only [Line.ofPages, hdialogue]
    induction pages with
    | nil => exact Act.mute_idle.says_nil last
    | cons page pages ih => exact (r.says_pageAct_of_silent reply hdialogue page last).andThen ih
  | true =>
    simp only [Line.ofPages, hdialogue]
    induction pages generalizing last with
    | nil => exact Act.mute_idle.says_nil last
    | cons page pages ih =>
      -- From the second page on the name has been taken over already.
      have hrest := ih (takeOver last r.speaker)
      rw [takeOver_takeOver, ite_self] at hrest
      exact (r.says_pageAct reply hdialogue page last).andThen hrest

theorem saysLine_act (pages : Except Fault (List String)) :
    (r.act (α := α) channels reply pages).SaysLine (.ofPages r.speaker channels pages) := by
  intro last
  have hpages : (r.pagesAct (α := α) channels reply pages).SaysLine
      (.ofPages r.speaker channels pages) := by
    cases pages with
    | error fault => exact fun _ => Act.says_stopped fault _ _ _
    | ok pages => exact r.saysLine_pages reply channels pages
  have hbegin := (Act.mute_silent (α := α) Stage.beginSentence fun _ => rfl).says_nil last
  have hambience (a : Ambience) (found : Option String) : (a.act (α := α) found).Mute :=
    (a.keepsTo_act found).mute (by cases a <;> nofun)
  have hbgm := (Act.mute_when channels.music fun _ => hambience .music r.bgm).says_nil last
  have hbackground := (Act.mute_when channels.background fun _ =>
    hambience .background r.background).says_nil last
  have hscene := Act.mute_when channels.scene fun _ => hambience .scene r.scene
  have hall := hbegin.andThen (hbgm.andThen (hbackground.andThen
    ((hpages last).andThen ((hscene.says_nil _).andThen (Act.mute_idle.says_nil _)))))
  simp only [List.nil_append, List.append_nil] at hall
  exact hall

omit [Coordinate α] in
/-- Looking up what a paragraph directs leaves the last speaker alone. -/
theorem lastSpeaker_ofBundle (story : Story) (channels : Channels) (currentScene : String)
    (b : Bundle) (s : Stage α) :
    (ofBundle story channels currentScene b s).2.lastSpeaker = s.lastSpeaker := by
  have hmute := Act.mute_when channels.figure fun _ =>
    (keepsTo_chooseFigures (α := α) story.settings.directives story.tables b.poses).mute nofun
  rw [stage_ofBundle]
  exact (hmute s [] _ (Prod.ext (Act.fst_when_silent _ _ s) rfl)).2

end Resolution

/-! ## Replies -/

namespace Runner

/-- The line of a paragraph. -/
def line (r : Runner) (channels : Channels) (paragraph : String) : Line :=
  let b := r.directives.read paragraph
  .ofPages (Resolution.speakerOf r.story.settings.directives r.story.tables b) channels
    (r.pager.paginate b.cleaned)

/-- The lines of a reply, in order. -/
def lines (r : Runner) (channels : Channels) (reply : String) : List Line :=
  (splitParagraphs r.story.settings.paragraphSplitter reply).map (r.line channels)

theorem saysLine_paragraphAct (r : Runner) (channels : Channels)
    (reply currentScene paragraph : String) :
    (r.paragraphAct channels reply currentScene paragraph).SaysLine
      (r.line channels paragraph) := by
  intro last s commands s' hbefore hact
  let b := r.directives.read paragraph
  let found := Resolution.ofBundle r.story channels currentScene b s
  have hlast : found.2.lastSpeaker = last :=
    (Resolution.lastSpeaker_ofBundle r.story channels currentScene b s).trans hbefore
  have hline : (found.1.act (α := Float) channels reply (r.pager.paginate b.cleaned)).SaysLine
      (r.line channels paragraph) := found.1.saysLine_act reply _
  exact hline last found.2 commands s' hlast hact

end Runner

/-- Lines said one after the other: each page with its speaker, after somebody spoke. -/
def recited (last : String) : List Line → List (Option String × String)
  | [] => []
  | l :: lines =>
    l.pages.map (fun page => (named (takeOver last l.speaker), page))
      ++ recited (takeOver last l.speaker) lines

theorem mem_pages_of_mem_recited {last : String} {lines : List Line}
    {said : Option String × String} (h : said ∈ recited last lines) :
    ∃ l ∈ lines, said.2 ∈ l.pages := by
  induction lines generalizing last with
  | nil => cases h
  | cons l lines ih =>
    rcases List.mem_append.1 h with h | h
    · obtain ⟨page, hpage, rfl⟩ := List.mem_map.1 h
      exact ⟨l, List.mem_cons_self, hpage⟩
    · obtain ⟨l', hl', hpage⟩ := ih h
      exact ⟨l', List.mem_cons_of_mem l hl', hpage⟩

/-- The last speaker when lines have been said. -/
def lastOf (last : String) (lines : List Line) : String :=
  lines.foldl (fun last l => takeOver last l.speaker) last

theorem recited_append (last : String) (before after : List Line) :
    recited last (before ++ after) = recited last before ++ recited (lastOf last before) after := by
  induction before generalizing last with
  | nil => rfl
  | cons l before ih => simp [recited, lastOf, ih]

/-- Acts that say a line each say together what the lines are that have a page. -/
theorem Act.says_lines {α : Type} {acts : List (Act α)} {lines : List Line}
    (h : List.Forall₂ SaysLine acts lines) (last : String) :
    (Act.inOrder acts).Says last (recited last (lines.filter Line.isSaid))
      (lastOf last (lines.filter Line.isSaid)) := by
  induction h generalizing last with
  | nil => exact Act.mute_idle.says_nil last
  | @cons act l acts lines hfirst _ ih =>
    have hline := hfirst last
    by_cases hsaid : l.isSaid = true
    · rw [if_pos hsaid] at hline
      rw [List.filter_cons_of_pos hsaid]
      exact hline.andThen (ih (takeOver last l.speaker))
    · have hpages : l.pages = [] := by simpa [Line.isSaid] using hsaid
      rw [if_neg hsaid, hpages] at hline
      rw [List.filter_cons_of_neg hsaid]
      exact hline.andThen (ih last)

/-- What a reply says: those of its lines that have a page. -/
theorem Runner.says_replyAct (r : Runner) (channels : Channels) (reply currentScene last : String) :
    (r.replyAct channels reply currentScene).Says last
      (recited last ((r.lines channels reply).filter Line.isSaid))
      (lastOf last ((r.lines channels reply).filter Line.isSaid)) := by
  have hparagraphs : List.Forall₂ Act.SaysLine
      ((splitParagraphs r.story.settings.paragraphSplitter reply).map
        (r.paragraphAct channels reply currentScene)) (r.lines channels reply) := by
    unfold lines
    rw [List.forall₂_map_left_iff, List.forall₂_map_right_iff, List.forall₂_same]
    exact fun paragraph _ => r.saysLine_paragraphAct channels reply currentScene paragraph
  have hbegin := (Act.mute_silent (α := Float) Stage.beginParagraph fun _ => rfl).says_nil last
  exact hbegin.andThen (Act.says_lines hparagraphs last)

end Dramaturg
