import Dramaturg.Proofs.Directive.Seam

set_option autoImplicit false

/-! # Cleaning part by part

A text of several parts can be cleaned as a whole or part by part. Tidying the blanks tells the two
apart only by blanks between the parts, so at every stage the parts, as far as they are cleaned
by themselves, stand in the text in order with blanks between them: they are woven into it
(`Woven`). Rules keep them apart as long as no directive that is taken out lies across the end of a
part (`Separable`), and then the cleaned text is made of the cleaned parts
(`Separable.exists_woven_cleanText`). -/

namespace Dramaturg

open Text

namespace Directive

/-! ## Blanks at a seam -/

theorem trimLeft_append_of_allBlank {blanks : List Char} (h : allBlank blanks = true)
    (text : List Char) : trimLeft (blanks ++ text) = trimLeft text :=
  List.dropWhile_append_of_pos (List.all_eq_true.1 h)

theorem trim_append_of_allBlank {blanks : List Char} (h : allBlank blanks = true)
    (text : List Char) : trim (blanks ++ text) = trim text := by
  rw [trim, trimLeft_append_of_allBlank h, trim]

theorem trim_append_allBlank {blanks : List Char} (h : allBlank blanks = true)
    (text : List Char) : trim (text ++ blanks) = trim text := by
  have hnone : trimLeft blanks = [] := by
    rw [← List.append_nil blanks, trimLeft_append_of_allBlank h]
    rfl
  have hreverse : ∀ c ∈ blanks.reverse, isBlank c = true := fun c hc =>
    List.all_eq_true.1 h c (List.mem_reverse.1 hc)
  unfold trim
  rw [trimLeft, List.dropWhile_append]
  split
  · rename_i hempty
    change trimRight (trimLeft blanks) = trimRight (trimLeft text)
    rw [hnone, trimLeft, List.isEmpty_iff.1 hempty]
  · rw [trimRight, List.reverse_append, List.dropWhile_append_of_pos hreverse]
    rfl

theorem exists_eq_append_trim (text : List Char) :
    ∃ before behind, allBlank before = true ∧ allBlank behind = true ∧
      text = before ++ trim text ++ behind := by
  refine ⟨text.takeWhile isBlank, ((trimLeft text).reverse.takeWhile isBlank).reverse, ?_, ?_, ?_⟩
  · exact List.all_takeWhile
  · rw [allBlank, List.all_reverse]
    exact List.all_takeWhile
  · rw [List.append_assoc, trim, trimRight, ← List.reverse_append, List.takeWhile_append_dropWhile,
      List.reverse_reverse]
    exact List.takeWhile_append_dropWhile.symm

/-- Two texts put together are trimmed apart, but for blanks between them. -/
theorem exists_trim_append (u v : List Char) :
    ∃ gap, allBlank gap = true ∧ trim (u ++ v) = trim u ++ gap ++ trim v := by
  obtain ⟨left, gap, hleft, hgap, hu⟩ := exists_eq_append_trim u
  obtain ⟨gap', right, hgap', hright, hv⟩ := exists_eq_append_trim v
  have hblank : allBlank (gap ++ gap') = true := by
    rw [allBlank, List.all_append]
    exact Bool.and_eq_true_iff.2 ⟨hgap, hgap'⟩
  have hinner : trim (u ++ v) = trim (trim u ++ (gap ++ gap') ++ trim v) := by
    have hwhole : u ++ v = left ++ ((trim u ++ (gap ++ gap') ++ trim v) ++ right) := by
      conv_lhs => rw [hu, hv]
      simp only [List.append_assoc]
    rw [hwhole, trim_append_of_allBlank hleft, trim_append_allBlank hright]
  rw [hinner]
  by_cases hu' : trim u = []
  · refine ⟨[], rfl, ?_⟩
    rw [hu', List.nil_append, trim_append_of_allBlank hblank, trim_trim]
    rfl
  by_cases hv' : trim v = []
  · refine ⟨[], rfl, ?_⟩
    rw [hv', List.append_nil, trim_append_allBlank hblank, trim_trim, List.append_nil,
      List.append_nil]
  · refine ⟨gap ++ gap', hblank, trim_eq_self (fun c hc => ?_) fun c hc => ?_⟩
    · rw [List.append_assoc, List.head?_append_of_ne_nil _ hu'] at hc
      exact isBlank_eq_false_of_mem_head?_trim hc
    · rw [List.getLast?_append_of_ne_nil _ hv'] at hc
      exact isBlank_eq_false_of_mem_getLast?_trim hc

theorem allBlank_tidyRun {run : List Char} (h : allBlank run = true) :
    allBlank (tidyRun run) = true := by
  match run with
  | [] => rfl
  | [c] => exact h
  | _ :: _ :: _ => rfl

/-- Blanks that were passed before a text show at most in front of it. -/
theorem trimLeft_tidyAfter {run : List Char} (h : allBlank run = true) (text : List Char) :
    trimLeft (tidyAfter run text) = trimLeft (tidyAfter [] text) := by
  have hrun {blanks : List Char} (hblanks : allBlank blanks = true) (rest : List Char) :
      trimLeft (tidyRun blanks ++ rest) = trimLeft rest :=
    trimLeft_append_of_allBlank (allBlank_tidyRun hblanks) rest
  induction text generalizing run with
  | nil =>
    rw [tidyAfter, ← List.append_nil (tidyRun run), hrun h]
    rfl
  | cons c cs ih =>
    rw [tidyAfter, tidyAfter]
    split
    · rename_i hc
      have hlonger {blanks : List Char} (hblanks : allBlank blanks = true) :
          allBlank (c :: blanks) = true := Bool.and_eq_true_iff.2 ⟨hc, hblanks⟩
      rw [ih (hlonger h), ih (hlonger rfl)]
    · exact hrun h _

/-- Tidying the blanks of two texts tidies those of the first, but for its last run of blanks, which
    may go on in the second. -/
theorem exists_tidyAfter_append (run : List Char) (h : allBlank run = true) (u : List Char) :
    ∃ start last, allBlank last = true ∧
      ∀ v, tidyAfter run (u ++ v) = start ++ tidyAfter last v := by
  induction u generalizing run with
  | nil => exact ⟨[], run, h, fun _ => rfl⟩
  | cons c cs ih =>
    by_cases hc : isBlank c = true
    · obtain ⟨start, last, hlast, htidy⟩ := ih (c :: run) (Bool.and_eq_true_iff.2 ⟨hc, h⟩)
      refine ⟨start, last, hlast, fun v => ?_⟩
      rw [List.cons_append, tidyAfter, if_pos hc, htidy]
    · obtain ⟨start, last, hlast, htidy⟩ := ih [] rfl
      refine ⟨tidyRun run ++ c :: start, last, hlast, fun v => ?_⟩
      rw [List.cons_append, tidyAfter, if_neg hc, htidy, List.append_assoc, List.cons_append]

/-- The blanks of two texts put together are tidied apart, but for blanks between them. -/
theorem exists_collapseBlanks_append (u v : List Char) :
    ∃ gap, allBlank gap = true ∧
      collapseBlanks (u ++ v) = collapseBlanks u ++ gap ++ collapseBlanks v := by
  obtain ⟨start, last, hlast, htidy⟩ := exists_tidyAfter_append [] rfl u
  have hu : collapseBlanks u = trim start := by
    rw [collapseBlanks, ← List.append_nil u, htidy, tidyAfter,
      trim_append_allBlank (allBlank_tidyRun hlast)]
  have hv : collapseBlanks v = trim (tidyAfter last v) := by
    rw [collapseBlanks, trim, trim, trimLeft_tidyAfter hlast]
  rw [collapseBlanks, htidy, hu, hv]
  exact exists_trim_append _ _

theorem collapseBlanks_eq_nil {blanks : List Char} (h : allBlank blanks = true) :
    collapseBlanks blanks = [] := by
  have hsolid : solid (tidyAfter [] blanks) = [] := by
    rw [solid_tidyAfter (by simp), solid_eq_nil (List.all_eq_true.1 h)]
  have hblank : allBlank (tidyAfter [] blanks) = true :=
    List.all_eq_true.2 fun c hc => by simpa using List.filter_eq_nil_iff.1 hsolid c hc
  rw [collapseBlanks, ← List.append_nil (tidyAfter [] blanks), trim_append_of_allBlank hblank]
  rfl

/-! ## Woven texts -/

/-- Whether a list holds some parts in their order, with blanks before, between and behind them. -/
inductive Woven : List (List Char) → List (List Char) → Prop
  | last {gap : List Char} (hgap : allBlank gap = true) : Woven [] [gap]
  | part {gap p : List Char} {ps parts : List (List Char)} (hgap : allBlank gap = true)
      (h : Woven ps parts) : Woven (p :: ps) (gap :: p :: parts)

namespace Woven

variable {ps parts : List (List Char)}

/-- Any texts put together are woven without blanks. -/
theorem exists_flatten_eq (ps : List (List Char)) :
    ∃ parts, Woven ps parts ∧ parts.flatten = ps.flatten := by
  induction ps with
  | nil => exact ⟨[[]], .last rfl, rfl⟩
  | cons p ps ih =>
    obtain ⟨parts, hwoven, hflatten⟩ := ih
    exact ⟨[] :: p :: parts, .part rfl hwoven, by simp [hflatten]⟩

/-- More blanks may come first. -/
theorem exists_blank_append {blanks : List Char} (hblanks : allBlank blanks = true)
    (h : Woven ps parts) :
    ∃ parts', Woven ps parts' ∧ parts'.flatten = blanks ++ parts.flatten := by
  have hall {gap : List Char} (hgap : allBlank gap = true) : allBlank (blanks ++ gap) = true := by
    rw [allBlank, List.all_append]
    exact Bool.and_eq_true_iff.2 ⟨hblanks, hgap⟩
  cases h with
  | last hgap => exact ⟨_, .last (hall hgap), by simp⟩
  | part hgap hrest => exact ⟨_, .part (hall hgap) hrest, by simp⟩

theorem map {f : List Char → List Char}
    (hf : ∀ gap, allBlank gap = true → allBlank (f gap) = true) (h : Woven ps parts) :
    Woven (ps.map f) (parts.map f) := by
  induction h with
  | last hgap => exact .last (hf _ hgap)
  | part hgap _ ih => exact .part (hf _ hgap) ih

theorem length_flatten_le (h : Woven ps parts) : ps.flatten.length ≤ parts.flatten.length := by
  induction h with
  | last => exact Nat.zero_le _
  | part _ _ ih =>
    simp only [List.flatten_cons, List.length_append]
    omega

/-- Parts that are woven without blanks have the seams that they have beside each other. -/
theorem exists_seam (h : Woven ps parts) (hflatten : parts.flatten = ps.flatten)
    {before behind : List (List Char)} (hparts : parts = before ++ behind) :
    ∃ before' behind', ps = before' ++ behind' ∧ before.flatten = before'.flatten ∧
      behind.flatten = behind'.flatten := by
  induction h generalizing before with
  | last =>
    refine ⟨[], [], rfl, ?_⟩
    rwa [hparts, List.flatten_append, List.flatten_nil, List.append_eq_nil_iff] at hflatten
  | @part gap p ps parts _ hwoven ih =>
    have hlength := congrArg List.length hflatten
    have hle := hwoven.length_flatten_le
    simp only [List.flatten_cons, List.length_append] at hlength
    obtain rfl : gap = [] := List.eq_nil_of_length_eq_zero (by omega)
    rcases List.cons_eq_append_iff.1 hparts with ⟨rfl, rfl⟩ | ⟨later, rfl, hlater⟩
    · exact ⟨[], p :: ps, rfl, rfl, hflatten⟩
    rcases List.cons_eq_append_iff.1 hlater with ⟨rfl, rfl⟩ | ⟨last, rfl, hlast⟩
    · exact ⟨[], p :: ps, rfl, rfl, hflatten⟩
    obtain ⟨before', behind', rfl, hbefore, hbehind⟩ := ih (List.append_cancel_left hflatten) hlast
    exact ⟨p :: before', behind', rfl, by simp [hbefore], hbehind⟩

theorem isInfix_flatten (h : Woven ps parts) {p : List Char} (hp : p ∈ ps) :
    p <:+: parts.flatten := by
  induction h with
  | last => cases hp
  | @part gap q ps parts _ _ ih =>
    rcases List.mem_cons.1 hp with rfl | hp
    · exact ⟨gap, parts.flatten, by simp⟩
    · refine (ih hp).trans ⟨gap ++ q, [], ?_⟩
      simp

/-- Tidying the blanks of a woven text tidies those of its parts. -/
theorem exists_collapseBlanks (h : Woven ps parts) :
    ∃ parts', Woven (ps.map collapseBlanks) parts' ∧
      parts'.flatten = collapseBlanks parts.flatten := by
  induction h with
  | last hgap => exact ⟨[[]], .last rfl, by simp [collapseBlanks_eq_nil hgap]⟩
  | @part gap p ps parts hgap _ ih =>
    obtain ⟨rest, hwoven, hflatten⟩ := ih
    obtain ⟨first, hfirst, heq⟩ := exists_collapseBlanks_append gap (p ++ parts.flatten)
    obtain ⟨second, hsecond, heq'⟩ := exists_collapseBlanks_append p parts.flatten
    obtain ⟨rest', hwoven', hflatten'⟩ := hwoven.exists_blank_append hsecond
    refine ⟨first :: collapseBlanks p :: rest', .part hfirst hwoven', ?_⟩
    simp only [List.flatten_cons]
    rw [heq, collapseBlanks_eq_nil hgap, heq', hflatten', hflatten]
    simp only [List.nil_append, List.append_assoc]

end Woven

/-! ## Cleaning part by part -/

/-- The text that a rule is given: after some passes, without the directives of earlier rules. -/
def stageText (rules : List Rule) (passes : Nat) (earlier : List Rule) (text : List Char) :
    List Char :=
  stripAll earlier ((cleanPass rules)^[passes] text)

/-- Whether no directive that is taken out of a text while it is cleaned lies across the end of one
    of its parts: wherever the parts stand in what a rule is given, the rule cuts across none. -/
def Separable (rules : List Rule) (ps : List (List Char)) : Prop :=
  ∀ passes earlier r later, rules = earlier ++ r :: later → ∀ parts,
    Woven (ps.map (stageText rules passes earlier)) parts →
      parts.flatten = stageText rules passes earlier ps.flatten → ¬ r.CutsAcross parts

variable {rules : List Rule} {ps : List (List Char)}

theorem allBlank_strip (r : Rule) {blanks : List Char} (h : allBlank blanks = true) :
    allBlank (r.strip blanks) = true :=
  List.all_eq_true.2 fun c hc => List.all_eq_true.1 h c ((stripAll_sublist [r] blanks).subset hc)

theorem stageText_concat (passes : Nat) (earlier : List Rule) (r : Rule) :
    stageText rules passes (earlier ++ [r]) = r.strip ∘ stageText rules passes earlier := by
  funext text
  unfold stageText stripAll
  rw [List.foldl_append]
  rfl

theorem collapseBlanks_comp_stageText (passes : Nat) :
    collapseBlanks ∘ stageText rules passes rules = (cleanPass rules)^[passes + 1] :=
  (Function.iterate_succ' (cleanPass rules) passes).symm

/-- The rules keep the parts of a text apart. -/
theorem Separable.exists_woven_stageText (h : Separable rules ps) (passes : Nat)
    (hpasses : ∃ parts, Woven (ps.map (cleanPass rules)^[passes]) parts ∧
      parts.flatten = (cleanPass rules)^[passes] ps.flatten)
    (earlier later : List Rule) (hrules : rules = earlier ++ later) :
    ∃ parts, Woven (ps.map (stageText rules passes earlier)) parts ∧
      parts.flatten = stageText rules passes earlier ps.flatten := by
  induction earlier using List.reverseRecOn generalizing later with
  | nil => exact hpasses
  | append_singleton earlier r ih =>
    have hrules' : rules = earlier ++ r :: later := by
      rw [hrules, List.append_assoc, List.singleton_append]
    obtain ⟨parts, hwoven, hflatten⟩ := ih (r :: later) hrules'
    have happart := h passes earlier r later hrules' parts hwoven hflatten
    refine ⟨parts.map r.strip, ?_, ?_⟩
    · rw [stageText_concat, ← List.map_map]
      exact hwoven.map fun _ => allBlank_strip r
    · rw [stageText_concat, Function.comp_apply, ← hflatten, Rule.strip_flatten happart]

theorem Separable.exists_woven_iterate (h : Separable rules ps) (passes : Nat) :
    ∃ parts, Woven (ps.map (cleanPass rules)^[passes]) parts ∧
      parts.flatten = (cleanPass rules)^[passes] ps.flatten := by
  induction passes with
  | zero =>
    obtain ⟨parts, hwoven, hflatten⟩ := Woven.exists_flatten_eq ps
    exact ⟨parts, by simpa using hwoven, hflatten⟩
  | succ passes ih =>
    obtain ⟨parts, hwoven, hflatten⟩ :=
      h.exists_woven_stageText passes ih rules [] (List.append_nil rules).symm
    obtain ⟨parts', hwoven', hflatten'⟩ := hwoven.exists_collapseBlanks
    refine ⟨parts', ?_, ?_⟩
    · rwa [← collapseBlanks_comp_stageText, ← List.map_map]
    · rw [hflatten', hflatten, ← collapseBlanks_comp_stageText, Function.comp_apply]

/-- Passes beyond those that a text needs change nothing. -/
theorem iterate_cleanPass_eq {text : List Char} {passes : Nat} (h : text.length ≤ passes) :
    (cleanPass rules)^[passes] text = cleanText rules text := by
  obtain ⟨n, hn, hclean⟩ := exists_iterate_cleanPass_eq rules text
  obtain ⟨more, rfl⟩ := Nat.exists_eq_add_of_le (hn.trans h)
  rw [Nat.add_comm, Function.iterate_add_apply, hclean]
  exact Function.iterate_fixed (cleanPass_cleanText rules text) more

/-- **Cleaning part by part.** If no directive that is taken out of a text lies across the end of
    one of its parts, the cleaned text is made of the cleaned parts, but for blanks between them. -/
theorem Separable.exists_woven_cleanText (h : Separable rules ps) :
    ∃ parts, Woven (ps.map (cleanText rules)) parts ∧
      parts.flatten = cleanText rules ps.flatten := by
  obtain ⟨parts, hwoven, hflatten⟩ := h.exists_woven_iterate ps.flatten.length
  refine ⟨parts, ?_, by rw [hflatten, iterate_cleanPass_eq (Nat.le_refl _)]⟩
  have hparts : ps.map (cleanPass rules)^[ps.flatten.length] = ps.map (cleanText rules) :=
    List.map_congr_left fun p hp =>
      iterate_cleanPass_eq (List.sublist_flatten_of_mem hp).length_le
  rwa [hparts] at hwoven

theorem stripAll_eq_self {rules : List Rule} {text : List Char}
    (h : ∀ r ∈ rules, r.strip text = text) : stripAll rules text = text := by
  induction rules with
  | nil => rfl
  | cons r rules ih =>
    change stripAll rules (r.strip text) = text
    rw [h r List.mem_cons_self]
    exact ih fun r' hr' => h r' (List.mem_cons_of_mem r hr')

/-- Where only the first rule finds anything, and that but once, the parts are separable if it cuts
    across none. -/
theorem separable_of_first {first : Rule} {rest : List Rule}
    (hrest : ∀ r ∈ rest, r.strip (first.strip ps.flatten) = first.strip ps.flatten)
    (hclean : cleanPass (first :: rest) (cleanPass (first :: rest) ps.flatten)
      = cleanPass (first :: rest) ps.flatten)
    (hfirst : ¬ first.CutsAcross ps) : Separable (first :: rest) ps := by
  intro passes earlier r later hrules parts hwoven hflatten
  have hfixed (text : List Char) (hstage : parts.flatten = text) (htext : r.strip text = text) :
      ¬ r.CutsAcross parts :=
    Rule.not_cutsAcross_of_strip_eq (by rw [hstage, htext])
  cases passes with
  | succ passes =>
    have hstrip := strip_eq_of_cleanPass_eq hclean
    refine hfixed (cleanPass (first :: rest) ps.flatten) ?_ (hstrip r (by simp [hrules]))
    rw [hflatten, stageText, Function.iterate_succ_apply, Function.iterate_fixed hclean]
    refine stripAll_eq_self fun r' hr' => hstrip r' ?_
    rw [hrules]
    exact List.mem_append_left _ hr'
  | zero =>
    cases earlier with
    | nil =>
      obtain ⟨rfl, -⟩ := List.cons.inj hrules
      have hsame : stageText (first :: rest) 0 [] = id := rfl
      rw [hsame, List.map_id] at hwoven
      rintro ⟨hr, before, behind, hparts, hcuts⟩
      obtain ⟨before', behind', hps, hbefore, hbehind⟩ := hwoven.exists_seam hflatten hparts
      rw [hbefore, hbehind] at hcuts
      exact hfirst ⟨hr, before', behind', hps, hcuts⟩
    | cons r' earlier =>
      obtain ⟨rfl, hlater⟩ := List.cons.inj hrules
      refine hfixed (first.strip ps.flatten) ?_ (hrest r (by simp [hlater]))
      refine hflatten.trans (stripAll_eq_self fun r' hr' => hrest r' ?_)
      rw [hlater]
      exact List.mem_append_left _ hr'

end Directive

end Dramaturg
