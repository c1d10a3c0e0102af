import Dramaturg.Directive.Bundle
import Dramaturg.Proofs.Directive.Leftmost
import Dramaturg.Proofs.Directive.Tidy
import Dramaturg.Proofs.Text.Parts
import Mathlib.Tactic.MkIffOfInductiveProp

set_option autoImplicit false

/-! # Directives read back

`Rule.write` writes a directive with given items. If the delimiters and the splitter of the rule can
be told apart, and the items hold nothing of them, then the directive at the beginning of a text is
read back item by item (`items_write`), whatever stands behind it. A pose is an item of two words
with an indicator between them, and it is read back as these two words. -/

namespace Dramaturg

open Text

section

-- To be taken before the search among all characters that there are.
variable (p : Char → Prop) [DecidablePred p]

instance (priority := high) decidableForallChars (cs : List Char) : Decidable (∀ c ∈ cs, p c) :=
  List.decidableBAll p cs

instance (priority := high) decidableForallChar? (c? : Option Char) : Decidable (∀ c ∈ c?, p c) :=
  Option.decidableForallMem c?

end

namespace Rule

/-- Whether the delimiters and the splitter are there, lie on one line, and where an item ends is
    told by the splitter or by the back delimiter, but not by both. -/
@[mk_iff]
structure TellsApart (r : Rule) : Prop where
  front : r.front ≠ ""
  back : r.back ≠ ""
  splitter : r.splitter ≠ ""
  back_line : ∀ c ∈ r.back.toList, isLineEnd c = false
  splitter_line : ∀ c ∈ r.splitter.toList, isLineEnd c = false
  disjoint : ∀ c ∈ r.splitter.toList, c ∉ r.back.toList

/-- Whether a character ends neither the line nor an item. -/
@[mk_iff]
structure Plain (r : Rule) (c : Char) : Prop where
  line : isLineEnd c = false
  splitter : c ∉ r.splitter.toList
  back : c ∉ r.back.toList

/-- Whether a text can be an item, or a part of one, without anything being cut off. -/
@[mk_iff]
structure IsWord (r : Rule) (word : String) : Prop where
  nonempty : word ≠ ""
  first : ∀ c ∈ word.toList.head?, isBlank c = false
  last : ∀ c ∈ word.toList.getLast?, isBlank c = false
  plain : ∀ c ∈ word.toList, r.Plain c

instance (r : Rule) : Decidable r.TellsApart := decidable_of_iff' _ (tellsApart_iff r)

instance (r : Rule) (c : Char) : Decidable (r.Plain c) := decidable_of_iff' _ (plain_iff r c)

instance (r : Rule) (word : String) : Decidable (r.IsWord word) :=
  decidable_of_iff' _ (isWord_iff r word)

/-- The directive with these items. -/
def write (r : Rule) (items : List String) : String :=
  r.front ++ r.splitter.intercalate items ++ r.back

variable {r : Rule}

theorem IsWord.trim_eq {word : String} (h : r.IsWord word) : trim word.toList = word.toList :=
  Directive.trim_eq_self h.first h.last

theorem IsWord.isEmpty_eq {word : String} (h : r.IsWord word) : word.toList.isEmpty = false := by
  rw [List.isEmpty_eq_false_iff]
  exact mt String.toList_eq_nil_iff.1 h.nonempty

end Rule

namespace Directive

/-- A pose as an item of a figure directive. -/
def Pose.item (indicator : Char) (p : Pose) : String :=
  p.speaker ++ String.singleton indicator ++ p.pose

theorem Pose.toList_item (indicator : Char) (p : Pose) :
    (p.item indicator).toList = p.speaker.toList ++ indicator :: p.pose.toList := by
  simp only [Pose.item, String.toList_append, String.toList_singleton, List.append_assoc,
    List.singleton_append]

/-! ## The body -/

/-- A body without line ends, which holds nothing of the back delimiter, is read back. -/
theorem body?_append {front back body : List Char} (hfront : front ≠ []) (hback : back ≠ [])
    (hline : ∀ c ∈ body ++ back, isLineEnd c = false) (hbody : ∀ c ∈ body, c ∉ back)
    (rest : List Char) : body? front back (front ++ body ++ back ++ rest) = some body := by
  have hspan : LineSpan front back (front ++ body ++ back ++ rest) [] body :=
    ⟨⟨rest, rfl⟩, hline⟩
  refine (body?_eq_some_iff hfront).2 ⟨[], hspan, fun _ _ _ => Nat.zero_le _, ?_⟩
  rintro body' ⟨⟨rest', htext⟩, -⟩
  -- both bodies stand before an occurrence of the back delimiter, and the cut lies at the leftmost
  simp only [List.nil_append, List.append_assoc, List.append_cancel_left_eq] at htext
  rw [← List.append_assoc body' back] at htext
  exact length_le_of_cut? (cut?_append_needle hback hbody rest) htext

section

variable {r : Rule} (hr : r.TellsApart) {written : List String}
  (hwritten : ∀ item ∈ written, ∀ c ∈ item.toList, r.Plain c)

include hr hwritten in
/-- Nothing in the body ends the line or begins the back delimiter. -/
theorem plain_intercalate {c : Char} (hc : c ∈ (r.splitter.intercalate written).toList) :
    isLineEnd c = false ∧ c ∉ r.back.toList := by
  rw [String.toList_intercalate] at hc
  induction written with
  | nil => cases hc
  | cons item written ih =>
    obtain ⟨hitem, hwritten⟩ := List.forall_mem_cons.1 hwritten
    cases written with
    | nil =>
      rw [List.map_singleton, List.intercalate_singleton] at hc
      exact ⟨(hitem c hc).line, (hitem c hc).back⟩
    | cons next written =>
      rw [List.map_cons, List.map_cons, List.intercalate_cons_cons, List.append_assoc,
        List.mem_append, List.mem_append] at hc
      rcases hc with hc | hc | hc
      · exact ⟨(hitem c hc).line, (hitem c hc).back⟩
      · exact ⟨hr.splitter_line c hc, hr.disjoint c hc⟩
      · exact ih hwritten hc

include hr hwritten in
theorem extract?_write (rest : String) :
    extract? r (r.write written ++ rest) = some (r.splitter.intercalate written) := by
  have henabled : r.isEnabled = true := by simp [Rule.isEnabled, hr.front, hr.back]
  have hline : ∀ c ∈ (r.splitter.intercalate written).toList ++ r.back.toList,
      isLineEnd c = false := by
    intro c hc
    rcases List.mem_append.1 hc with hc | hc
    · exact (plain_intercalate hr hwritten hc).1
    · exact hr.back_line c hc
  have hbody := body?_append (mt String.toList_eq_nil_iff.1 hr.front)
    (mt String.toList_eq_nil_iff.1 hr.back) hline
    (fun c hc => (plain_intercalate hr hwritten hc).2) rest.toList
  rw [extract?, if_pos henabled, Rule.write]
  simp only [String.toList_append, hbody, Option.map_some, String.ofList_toList]

include hr hwritten in
/-- The items of a written body are those that were written, if there are any. -/
theorem items_write (hne : written ≠ []) :
    items r.splitter (r.splitter.intercalate written) = written.map String.toList := by
  rw [items, String.toList_intercalate]
  refine splitOn_intercalate (mt String.toList_eq_nil_iff.1 hr.splitter) (by simpa using hne) ?_
  intro part hpart c hc
  obtain ⟨item, hitem, rfl⟩ := List.mem_map.1 hpart
  exact (hwritten item hitem c hc).splitter

end

/-- An empty body has one item, and nothing in it. -/
theorem items_empty (splitter : String) : items splitter (splitter.intercalate []) = [[]] := by
  have hbody : (splitter.intercalate []).toList = [] := by
    rw [String.toList_intercalate, List.map_nil, List.intercalate_nil]
  rw [items, hbody]
  by_cases hsplitter : splitter.toList = []
  · rw [splitOn, dif_pos hsplitter]
  · exact splitOn_of_cut?_eq_none hsplitter (cut?_nil hsplitter)

/-! ## Names and poses -/

theorem pose?_item {r : Rule} {indicators : List Char} {indicator : Char}
    (hindicator : indicator ∈ indicators) {p : Pose} (hspeaker : r.IsWord p.speaker)
    (hpose : r.IsWord p.pose) (hspeaker' : ∀ c ∈ p.speaker.toList, c ∉ indicators)
    (hpose' : ∀ c ∈ p.pose.toList, c ∉ indicators) :
    pose? indicators (p.item indicator).toList = some p := by
  have hsplit : splitAny (indicators.contains ·) (p.item indicator).toList
      = [p.speaker.toList, p.pose.toList] := by
    rw [Pose.toList_item, splitAny_append_cons (by simpa using hspeaker') (by simpa using hindicator),
      splitAny_eq_singleton (by simpa using hpose')]
  rw [pose?, hsplit]
  simp only [hspeaker.trim_eq, hpose.trim_eq, hspeaker.isEmpty_eq, hpose.isEmpty_eq, Bool.or_self,
    Bool.false_eq_true, if_false, String.ofList_toList]

theorem speakers_write {r : Rule} (hr : r.TellsApart) {names : List String}
    (hnames : ∀ name ∈ names, r.IsWord name) (rest : String) :
    speakers r (r.write names ++ rest) = names := by
  have hplain : ∀ name ∈ names, ∀ c ∈ name.toList, r.Plain c := fun name hname =>
    (hnames name hname).plain
  rw [speakers, extract?_write hr hplain]
  cases names with
  | nil =>
    simp only [items_empty]
    rfl
  | cons first others =>
    have hitems := items_write hr hplain (List.cons_ne_nil first others)
    generalize first :: others = names at *
    have htrim : (names.map String.toList).map trim = names.map String.toList := by
      rw [List.map_map]
      exact List.map_congr_left fun name hname => (hnames name hname).trim_eq
    have hkept : (names.map String.toList).filter (!·.isEmpty) = names.map String.toList := by
      refine List.filter_eq_self.2 fun word hword => ?_
      obtain ⟨name, hname, rfl⟩ := List.mem_map.1 hword
      rw [(hnames name hname).isEmpty_eq, Bool.not_false]
    simp only [hitems, htrim, hkept, List.map_map]
    exact List.map_id'' (fun name => String.ofList_toList) _

theorem poses_write {r : Rule} (hr : r.TellsApart) {indicators : List Char} {indicator : Char}
    (hindicator : indicator ∈ indicators) (hplain : r.Plain indicator) {written : List Pose}
    (hwords : ∀ p ∈ written, r.IsWord p.speaker ∧ r.IsWord p.pose)
    (hapart : ∀ p ∈ written, ∀ c ∈ p.speaker.toList ++ p.pose.toList, c ∉ indicators)
    (rest : String) :
    poses r indicators (r.write (written.map (Pose.item indicator)) ++ rest) = written := by
  have hitems : ∀ item ∈ written.map (Pose.item indicator), ∀ c ∈ item.toList, r.Plain c := by
    intro item hitem c hc
    obtain ⟨p, hp, rfl⟩ := List.mem_map.1 hitem
    rw [Pose.toList_item, List.mem_append, List.mem_cons] at hc
    rcases hc with hc | rfl | hc
    · exact (hwords p hp).1.plain c hc
    · exact hplain
    · exact (hwords p hp).2.plain c hc
  rw [poses, extract?_write hr hitems]
  cases written with
  | nil =>
    simp only [List.map_nil, items_empty]
    rfl
  | cons first others =>
    have hread : ∀ p ∈ first :: others,
        (pose? indicators ∘ String.toList ∘ Pose.item indicator) p = some p := by
      intro p hp
      obtain ⟨hspeaker, hpose⟩ := List.forall_mem_append.1 (hapart p hp)
      exact pose?_item hindicator (hwords p hp).1 (hwords p hp).2 hspeaker hpose
    simp only [items_write hr hitems (List.cons_ne_nil _ _), List.map_map, List.filterMap_map]
    rw [List.filterMap_congr hread, List.filterMap_some]

end Directive

open Directive

/-- **A directive is read back as it was written.** If the delimiters and the splitter of a figure
    directive can be told apart, and nothing of them, no line end and no indicator stands in the
    words, then the poses written with an indicator, which is none of these characters itself, are
    read back from the text that begins with the directive, in their order. The same holds for the
    names in a speaker directive, in which indicators may stand. -/
theorem DirectiveRules.read_write (d : DirectiveRules) (rest : String) :
    (∀ (indicator : Char) (written : List Pose), d.figure.TellsApart →
      indicator ∈ d.speakerIndicators → d.figure.Plain indicator →
      (∀ p ∈ written, d.figure.IsWord p.speaker ∧ d.figure.IsWord p.pose) →
      (∀ p ∈ written, ∀ c ∈ p.speaker.toList ++ p.pose.toList, c ∉ d.speakerIndicators) →
      (d.read (d.figure.write (written.map (Pose.item indicator)) ++ rest)).poses = written) ∧
    ∀ names : List String, d.speaker.TellsApart → (∀ name ∈ names, d.speaker.IsWord name) →
      (d.read (d.speaker.write names ++ rest)).speakers = names := by
  constructor
  · intro indicator written hr hindicator hplain hwords hapart
    exact poses_write hr hindicator hplain hwords hapart rest
  · intro names hr hnames
    exact speakers_write hr hnames rest

/-- Rules with a splitter and delimiters of several characters. -/
def DirectiveRules.wordy : DirectiveRules where
  figure := { front := "[pose:", back := "]]", splitter := " + " }

/-- Two poses and two names, with another directive behind them. -/
theorem DirectiveRules.read_write_duet :
    let d := wordy
    let written : List Pose := [⟨"Alice", "smile"⟩, ⟨"Bob", "wave"⟩]
    let names := ["Alice: the elder", "Bob"]
    (d.figure.TellsApart ∧ ':' ∈ d.speakerIndicators ∧ d.figure.Plain ':' ∧
      (∀ p ∈ written, d.figure.IsWord p.speaker ∧ d.figure.IsWord p.pose) ∧
      (∀ p ∈ written, ∀ c ∈ p.speaker.toList ++ p.pose.toList, c ∉ d.speakerIndicators) ∧
      (d.read ("[pose:Alice:smile + Bob:wave]]" ++ "Hi.[pose:Eve:nod]]")).poses = written) ∧
    d.speaker.TellsApart ∧ (∀ name ∈ names, d.speaker.IsWord name) ∧
      (d.read ("<<<Alice: the elder|Bob>>>" ++ "Hi.<<<Eve>>>")).speakers = names := by
  intro d written names
  have hfigure : d.figure.TellsApart ∧ ':' ∈ d.speakerIndicators ∧ d.figure.Plain ':' := by
    decide +kernel
  have hwords : ∀ p ∈ written, d.figure.IsWord p.speaker ∧ d.figure.IsWord p.pose := by
    decide +kernel
  have hapart : ∀ p ∈ written, ∀ c ∈ p.speaker.toList ++ p.pose.toList,
      c ∉ d.speakerIndicators := by decide +kernel
  have hspeaker : d.speaker.TellsApart ∧ ∀ name ∈ names, d.speaker.IsWord name := by
    decide +kernel
  obtain ⟨htells, hindicator, hplain⟩ := hfigure
  have hposes := (d.read_write "Hi.[pose:Eve:nod]]").1 ':' written htells hindicator hplain hwords
    hapart
  have hnames := (d.read_write "Hi.<<<Eve>>>").2 names hspeaker.1 hspeaker.2
  have hfigures : d.figure.write (written.map (Pose.item ':')) = "[pose:Alice:smile + Bob:wave]]" := by
    decide +kernel
  have hspeakers : d.speaker.write names = "<<<Alice: the elder|Bob>>>" := by decide +kernel
  rw [hfigures] at hposes
  rw [hspeakers] at hnames
  exact ⟨⟨htells, hindicator, hplain, hwords, hapart, hposes⟩, hspeaker.1, hspeaker.2, hnames⟩

end Dramaturg
