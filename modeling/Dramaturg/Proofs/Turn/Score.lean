import Dramaturg.Proofs.Stage.Score
import Dramaturg.Proofs.Turn.Course

set_option autoImplicit false

/-! # The score of a reply

A reply that is acted out without a fault plays one `Score` for each of its paragraphs. The pages of
the score are those of the paragraph without its directives, and each of them carries the whole
reply, the identifier of the reply, and an identifier of the paragraph. The identifiers are taken
from the supply in order: one for the reply, and then one for each paragraph, also for one without a
page. -/

namespace Dramaturg

open Act

/-- A supply of which some more identifiers are spent. -/
def IdSupply.spend (count : Nat) (ids : IdSupply) : IdSupply :=
  { ids with used := ids.used + count }

@[simp] theorem IdSupply.name_spend (count : Nat) (ids : IdSupply) :
    (ids.spend count).name = ids.name := rfl

@[simp] theorem IdSupply.used_spend (count : Nat) (ids : IdSupply) :
    (ids.spend count).used = ids.used + count := rfl

theorem IdSupply.spend_spend (count more : Nat) (ids : IdSupply) :
    (ids.spend count).spend more = ids.spend (count + more) := by
  rw [spend, used_spend, name_spend, Nat.add_assoc, spend]

/-! ## Pages -/

namespace Resolution

variable {α : Type} [Coordinate α] {r : Resolution} {channels : Channels} {reply : String}
  {s s' : Stage α} {commands : List Command}

theorem exists_score_pageAct (hdialogue : channels.dialogue = true) {page : String}
    (h : r.pageAct channels reply page s = (.ok commands, s')) :
    ∃ p : PageScore, commands = p.commands ∧ p.words.content = page ∧
      p.words.Carries reply s.sentenceId s.paragraphId ∧ s.SameFrame s' := by
  obtain ⟨figures, s₁, _, hfigures, hwords, rfl⟩ := andThen_eq_ok h
  obtain ⟨_, s₂, _, hsay, hidle, rfl⟩ := andThen_eq_ok hwords
  obtain ⟨hchannel, hframe⟩ := (keepsTo_figures _ _).of_when_eq_ok hfigures
  rw [hdialogue] at hsay
  cases hsay
  cases hidle
  have hcarries := s₁.carries_say r.speaker reply page
  rw [← hframe.sentenceId, ← hframe.paragraphId] at hcarries
  have hsaid : s₁.SameFrame (s₁.say r.speaker reply page).2 :=
    (keepsTo_say r.speaker reply page).frame s₁
  exact ⟨⟨figures, (s₁.say r.speaker reply page).1, hchannel, rfl⟩, rfl, rfl, hcarries,
    hframe.trans hsaid⟩

theorem exists_scores_pages (hdialogue : channels.dialogue = true) {pages : List String}
    (h : inOrder (pages.map (r.pageAct channels reply)) s = (.ok commands, s')) :
    ∃ ps : List PageScore, commands = ps.flatMap PageScore.commands ∧
      ps.map (·.words.content) = pages ∧
      (∀ p ∈ ps, p.words.Carries reply s.sentenceId s.paragraphId) ∧ s.SameFrame s' := by
  induction pages generalizing s commands with
  | nil =>
    cases h
    exact ⟨[], rfl, rfl, fun p hp => absurd hp List.not_mem_nil, .refl _⟩
  | cons page pages ih =>
    obtain ⟨_, s₁, _, hpage, hrest, rfl⟩ := andThen_eq_ok h
    obtain ⟨p, rfl, rfl, hcarries, hframe⟩ := exists_score_pageAct hdialogue hpage
    obtain ⟨ps, rfl, rfl, hall, hrestFrame⟩ := ih hrest
    rw [← hframe.sentenceId, ← hframe.paragraphId] at hall
    exact ⟨p :: ps, rfl, rfl, List.forall_mem_cons.2 ⟨hcarries, hall⟩, hframe.trans hrestFrame⟩

/-! ## Paragraphs -/

/-- A paragraph spends one identifier, and its score has its pages, all under that identifier. -/
theorem exists_score_act (hdialogue : channels.dialogue = true) {pages : Except Fault (List String)}
    (h : r.act channels reply pages s = (.ok commands, s')) :
    ∃ p : Score, commands = p.commands ∧ pages = .ok (p.words.map (·.content)) ∧
      (∀ c ∈ p.words, c.Carries reply (s.ids.name s.ids.used) s.paragraphId) ∧
      s'.ids = s.ids.spend 1 ∧ s'.paragraphId = s.paragraphId := by
  unfold act at h
  obtain ⟨_, s₁, _, hbegin, hall, rfl⟩ := andThen_eq_ok h
  obtain ⟨_, s₂, _, hbgm, hafterBgm, rfl⟩ := andThen_eq_ok hall
  obtain ⟨_, s₃, _, hbackground, hafterBackground, rfl⟩ := andThen_eq_ok hafterBgm
  obtain ⟨_, s₄, _, hpages, hafterPages, rfl⟩ := andThen_eq_ok hafterBackground
  obtain ⟨_, s₅, _, hscene, hidle, rfl⟩ := andThen_eq_ok hafterPages
  cases hbegin
  cases hidle
  obtain ⟨⟨bgm, rfl⟩, hframe₁⟩ := Ambience.exists_commands_of_when (a := .music) hbgm
  obtain ⟨⟨background, rfl⟩, hframe₂⟩ :=
    Ambience.exists_commands_of_when (a := .background) hbackground
  obtain ⟨⟨scene, rfl⟩, hframe₄⟩ := Ambience.exists_commands_of_when (a := .scene) hscene
  cases pages with
  | error fault => cases hpages
  | ok pages =>
    obtain ⟨ps, rfl, rfl, hcarries, hframe₃⟩ := exists_scores_pages hdialogue hpages
    have hbefore := hframe₁.trans hframe₂
    have hafter := hbefore.trans (hframe₃.trans hframe₄)
    rw [← hbefore.sentenceId, ← hbefore.paragraphId] at hcarries
    refine ⟨⟨bgm, background, ps, scene⟩, ?_, ?_, ?_, hafter.ids.symm, hafter.paragraphId.symm⟩
    · simp [Score.commands]
    · simp [Score.words]
    · intro c hc
      obtain ⟨p, hp, rfl⟩ := List.mem_map.1 hc
      exact hcarries p hp

end Resolution

namespace Runner

variable {r : Runner} {channels : Channels} {reply currentScene : String}
  {s s' : Stage Float} {commands : List Command}

theorem exists_score_paragraphAct (hdialogue : channels.dialogue = true) {paragraph : String}
    (h : r.paragraphAct channels reply currentScene paragraph s = (.ok commands, s')) :
    ∃ p : Score, commands = p.commands ∧
      r.pager.paginate (r.directives.clean paragraph) = .ok (p.words.map (·.content)) ∧
      (∀ c ∈ p.words, c.Carries reply (s.ids.name s.ids.used) s.paragraphId) ∧
      s'.ids = s.ids.spend 1 ∧ s'.paragraphId = s.paragraphId := by
  let b := r.directives.read paragraph
  have hframe := Resolution.sameFrame_ofBundle r.story channels currentScene b s
  have hact : (Resolution.ofBundle r.story channels currentScene b s).1.act channels reply
      (r.pager.paginate b.cleaned) (Resolution.ofBundle r.story channels currentScene b s).2
        = (.ok commands, s') := h
  have hscore := Resolution.exists_score_act hdialogue hact
  rw [← hframe.ids, ← hframe.paragraphId] at hscore
  exact hscore

/-- The paragraphs of a reply spend one identifier each: that of the paragraph at a place is the one
    at this place among those that were left. -/
theorem exists_scores_paragraphs (hdialogue : channels.dialogue = true) {paragraphs : List String}
    (h : inOrder (paragraphs.map (r.paragraphAct channels reply currentScene)) s
      = (.ok commands, s')) :
    ∃ scores : List Score, commands = scores.flatMap Score.commands ∧
      List.Forall₂ (fun paragraph p =>
        r.pager.paginate (r.directives.clean paragraph) = .ok (p.words.map (·.content)))
        paragraphs scores ∧
      (∀ (i : Nat) (p : Score), scores[i]? = some p →
        ∀ c ∈ p.words, c.Carries reply (s.ids.name (s.ids.used + i)) s.paragraphId) ∧
      s'.ids = s.ids.spend paragraphs.length := by
  induction paragraphs generalizing s commands with
  | nil =>
    cases h
    exact ⟨[], rfl, .nil, fun i p hp => by simp at hp, rfl⟩
  | cons paragraph paragraphs ih =>
    obtain ⟨_, s₁, _, hfirst, hrest, rfl⟩ := andThen_eq_ok h
    obtain ⟨p, rfl, hpages, hcarries, hids, hparagraph⟩ :=
      exists_score_paragraphAct hdialogue hfirst
    obtain ⟨scores, rfl, hall, hallCarry, hallIds⟩ := ih hrest
    rw [hids, hparagraph] at hallCarry
    refine ⟨p :: scores, rfl, .cons hpages hall, ?_, ?_⟩
    · rintro (_ | i) q hq
      · obtain rfl := Option.some.inj hq
        exact hcarries
      · have hplace : s.ids.used + (i + 1) = s.ids.used + 1 + i := by omega
        rw [hplace]
        exact hallCarry i q hq
    · rw [hallIds, hids, IdSupply.spend_spend, List.length_cons, Nat.add_comm]

/-- **The score of a reply.** What is played of a reply is a score for each paragraph, which has the
    pages of the paragraph. All pages carry the first identifier that was left, and those of the
    paragraph at a place carry the one that stands that far behind it. -/
theorem exists_scores_replyAct (hdialogue : channels.dialogue = true)
    (h : r.replyAct channels reply currentScene s = (.ok commands, s')) :
    ∃ scores : List Score, commands = scores.flatMap Score.commands ∧
      List.Forall₂ (fun paragraph p =>
        r.pager.paginate (r.directives.clean paragraph) = .ok (p.words.map (·.content)))
        (splitParagraphs r.story.settings.paragraphSplitter reply) scores ∧
      (∀ (i : Nat) (p : Score), scores[i]? = some p → ∀ c ∈ p.words,
        c.Carries reply (s.ids.name (s.ids.used + 1 + i)) (s.ids.name s.ids.used)) ∧
      s'.ids = s.ids.spend (scores.length + 1) := by
  unfold replyAct at h
  obtain ⟨_, s₁, _, hbegin, hparagraphs, rfl⟩ := andThen_eq_ok h
  cases hbegin
  obtain ⟨scores, rfl, hpages, hcarries, hids⟩ := exists_scores_paragraphs hdialogue hparagraphs
  refine ⟨scores, rfl, hpages, hcarries, ?_⟩
  have hfirst : s.beginParagraph.ids = s.ids.spend 1 := rfl
  rw [hids, hfirst, IdSupply.spend_spend, hpages.length_eq, Nat.add_comm]

end Runner

end Dramaturg
