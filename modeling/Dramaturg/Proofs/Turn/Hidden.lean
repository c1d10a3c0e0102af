import Dramaturg.Proofs.Directive.Weave
import Dramaturg.Proofs.Page.Cutting
import Dramaturg.Proofs.Turn.Speech
import Dramaturg.Proofs.Turn.Splitting

set_option autoImplicit false

/-! # Directives stay hidden

A reply is cleaned paragraph by paragraph. No page that is said holds a whole directive, and if no
directive lies across the end of a paragraph, what is said holds no delimiter that cleaning the
whole reply removes (`speeches_hold_no_directive`). A directive that lies across the end of a
paragraph is taken apart before anything is cleaned, and both its parts are said. -/

namespace Dramaturg

open Text Directive

/-! ## What is said -/

theorem Line.exists_of_mem_pages_ofPages {speaker page : String} {channels : Channels}
    {pages : Except Fault (List String)} (h : page ∈ (ofPages speaker channels pages).pages) :
    ∃ shown, pages = .ok shown ∧ page ∈ shown := by
  unfold ofPages at h
  cases pages with
  | error fault => simp [Except.toOption] at h
  | ok shown =>
    cases hdialogue : channels.dialogue with
    | false => simp [hdialogue] at h
    | true => exact ⟨shown, rfl, by simpa [hdialogue, Except.toOption] using h⟩

namespace Runner

/-- The reply in the stretches that are acted out one by one. -/
def replyStretches (r : Runner) (reply : String) : List (List Char) :=
  let splitter := r.story.settings.paragraphSplitter.toList
  stretches splitter (splitOn splitter reply.toList)

theorem flatten_replyStretches (r : Runner) (reply : String) :
    (r.replyStretches reply).flatten = reply.toList :=
  (flatten_stretches_splitOn _ _).2

variable {r : Runner} {channels : Channels} {reply scene : String} {s s' : Stage Float}
  {commands : List Command}

/-- What is said stands in a cleaned stretch of the reply. -/
theorem exists_isInfix_of_mem_speeches
    (hact : r.replyAct channels reply scene s = (.ok commands, s'))
    {said : Option String × String} (hsaid : said ∈ Command.speeches commands) :
    ∃ stretch ∈ r.replyStretches reply,
      said.2.toList <:+: cleanText r.directives.inOrder stretch := by
  obtain ⟨hspeeches, -⟩ := r.says_replyAct channels reply scene s.lastSpeaker s commands s' rfl hact
  rw [hspeeches] at hsaid
  obtain ⟨l, hl, hpage⟩ := mem_pages_of_mem_recited hsaid
  obtain ⟨paragraph, hparagraph, rfl⟩ := List.mem_map.1 (List.mem_filter.1 hl).1
  obtain ⟨stretch, hstretch, rfl⟩ := List.mem_map.1 hparagraph
  obtain ⟨shown, hshown, hpage⟩ := Line.exists_of_mem_pages_ofPages hpage
  refine ⟨stretch, (restoreSplitter_sublist _ _).subset hstretch, ?_⟩
  have hwithin := Pager.isInfix_of_mem_paginate hshown hpage
  have hclean : (r.directives.clean (String.ofList stretch)).toList
      = cleanText r.directives.inOrder stretch := by
    rw [DirectiveRules.clean, String.toList_ofList, String.toList_ofList]
  rwa [← hclean]

/-- **Directives stay hidden.** No page that is said holds a whole directive of an enabled rule. If
    no directive that is taken out of the whole reply lies across the end of a paragraph, cleaning
    the reply comes to cleaning its paragraphs, but for blanks between them, and what is said holds
    no delimiter of a rule that the cleaned reply is free of. -/
theorem speeches_hold_no_directive
    (hact : r.replyAct channels reply scene s = (.ok commands, s')) :
    let rules := r.directives.inOrder
    let cleaned := r.directives.clean reply
    (∀ rule ∈ rules, rule.isEnabled = true → ∀ said ∈ Command.speeches commands,
        ¬ HasSpan rule.front.toList rule.back.toList said.2.toList) ∧
      (Separable rules (r.replyStretches reply) →
        (∃ parts, Woven ((r.replyStretches reply).map (cleanText rules)) parts ∧
          parts.flatten = cleaned.toList) ∧
        ∀ rule ∈ rules, contains cleaned rule.front = false →
          contains cleaned rule.back = false → ∀ said ∈ Command.speeches commands,
            contains said.2 rule.front = false ∧ contains said.2 rule.back = false) := by
  intro rules cleaned
  refine ⟨fun rule hrule henabled said hsaid hspan => ?_, fun hseparable => ?_⟩
  · obtain ⟨stretch, -, hwithin⟩ := exists_isInfix_of_mem_speeches hact hsaid
    exact not_hasSpan_of_strip_eq (strip_cleanText rules stretch rule hrule) henabled
      (hspan.of_isInfix hwithin)
  · have hcleaned : cleaned.toList = cleanText rules (r.replyStretches reply).flatten := by
      rw [flatten_replyStretches]
      exact String.toList_ofList
    obtain ⟨parts, hwoven, hflatten⟩ := hseparable.exists_woven_cleanText
    rw [← hcleaned] at hflatten
    refine ⟨⟨parts, hwoven, hflatten⟩, fun rule _ hfront hback said hsaid => ?_⟩
    obtain ⟨stretch, hstretch, hwithin⟩ := exists_isInfix_of_mem_speeches hact hsaid
    have hwhole : said.2.toList <:+: cleaned.toList := by
      rw [← hflatten]
      exact hwithin.trans (hwoven.isInfix_flatten (List.mem_map_of_mem hstretch))
    have hfree {needle : String} (h : contains cleaned needle = false) :
        contains said.2 needle = false := by
      rw [← Bool.not_eq_true, contains_iff_isInfix] at h ⊢
      exact fun hneedle => h (hneedle.trans hwhole)
    exact ⟨hfree hfront, hfree hback⟩

/-! ## Paragraphs that end with an empty line -/

/-- A runner for which an empty line ends a paragraph. -/
def spaced : Runner :=
  new { base := {}, settings := { paragraphSplitter := "\n\n" }, tables := {} } ⟨fun _ => 0, 0⟩
    ⟨fun _ => "", 0⟩

/-- Two paragraphs, of which the first has a directive. -/
def farewell : String := "<<<Alice>>>Hi.\n\nBye."

theorem separable_farewell :
    Separable spaced.directives.inOrder (spaced.replyStretches farewell) := by
  have hstretches : spaced.replyStretches farewell
      = ["<<<Alice>>>Hi.\n\n".toList, "Bye.".toList] := by decide +kernel
  rw [hstretches]
  refine separable_of_first (by decide +kernel) (by decide +kernel) ?_
  rintro ⟨-, before, behind, hparts, left, right, htakes, hleft, hright⟩
  -- the only span that is taken out stands at the beginning
  have hcut : cut? "<<<".toList farewell.toList = some ([], "Alice>>>Hi.\n\nBye.".toList) := by
    decide +kernel
  have hcut' : cut? ">>>".toList "Alice>>>Hi.\n\nBye.".toList
      = some ("Alice".toList, "Hi.\n\nBye.".toList) := by decide +kernel
  have hrest : ¬ HasSpan "<<<".toList ">>>".toList "Hi.\n\nBye.".toList := fun hspan =>
    absurd (length_removeSpans_lt (by decide) hspan) (by decide +kernel)
  rw [← List.flatten_append, ← hparts] at htakes
  obtain ⟨rfl, rfl⟩ := ((takes_iff hcut hcut').1 htakes).resolve_right
    fun ⟨_, _, hlater⟩ => hrest hlater.hasSpan
  rcases List.cons_eq_append_iff.1 hparts with ⟨rfl, rfl⟩ | ⟨before, rfl, hbefore⟩
  · exact absurd hleft (by decide)
  · have hlength : before.flatten.length + behind.flatten.length = "Bye.".toList.length := by
      rw [← List.length_append, ← List.flatten_append, ← hbefore, List.flatten_singleton]
    have hshorter : "Bye.".toList.length < "Hi.\n\nBye.".toList.length := by decide
    omega

/-- The directive is taken out of the first paragraph, and the second is said as it is. -/
theorem speeches_farewell :
    ∃ commands s', spaced.replyAct {} farewell "" spaced.stage = (.ok commands, s') ∧
      Separable spaced.directives.inOrder (spaced.replyStretches farewell) ∧
      Command.speeches commands = [(none, "Hi."), (none, "Bye.")] ∧
      spaced.directives.clean farewell = "Hi. Bye." ∧
      ∀ said ∈ Command.speeches commands,
        contains said.2 spaced.directives.speaker.front = false := by
  have hsome : (spaced.replyAct {} farewell "" spaced.stage).1.toOption.map Command.speeches
      = some [(none, "Hi."), (none, "Bye.")] := by decide +kernel
  have hclean : spaced.directives.clean farewell = "Hi. Bye." := by decide +kernel
  rcases hact : spaced.replyAct {} farewell "" spaced.stage with ⟨fault | commands, s'⟩
  · rw [hact] at hsome
    cases hsome
  · rw [hact] at hsome
    have hhidden := ((speeches_hold_no_directive hact).2 separable_farewell).2
      spaced.directives.speaker List.mem_cons_self (by rw [hclean]; decide +kernel)
      (by rw [hclean]; decide +kernel)
    exact ⟨commands, s', rfl, separable_farewell, Option.some.inj hsome, hclean,
      fun said hsaid => (hhidden said hsaid).1⟩

/-- A reply whose memory holds an empty line. -/
def torn : String := "[[[She likes tea.\n\nHe does not.]]]Hello."

/-- Cleaning the whole reply takes the memory out, and yet both its parts are said. -/
theorem speeches_torn :
    let said := [(none, "[[[She likes tea."), (none, "He does not.]]]Hello.")]
    let cleaned := spaced.directives.clean torn
    let memory := spaced.directives.memory
    (spaced.replyAct {} torn "" spaced.stage).1.toOption.map Command.speeches = some said ∧
      cleaned = "Hello." ∧ memory ∈ spaced.directives.inOrder ∧ memory.isEnabled = true ∧
      contains cleaned memory.front = false ∧ contains cleaned memory.back = false ∧
      contains "[[[She likes tea." memory.front = true ∧
      contains "He does not.]]]Hello." memory.back = true := by
  refine ⟨?_, ?_, ?_, ?_, ?_, ?_, ?_, ?_⟩ <;> decide +kernel

end Runner

end Dramaturg
