import Dramaturg.Proofs.Turn.Run
import Dramaturg.Proofs.Turn.Speech

set_option autoImplicit false

/-! # Who says a page

A page should be said by the latest speaker that any paragraph up to its own has named, in this turn
or an earlier one. A stage remembers speakers only with their pages, so what is said is attributed
as if paragraphs without a page were not there. `speeches_performed` says when the two agree. Where
a paragraph ends with the directive that names its speaker they need not: the words then stand in
the next paragraph. -/

namespace Dramaturg

open Text

/-! ## The latest speaker -/

/-- The latest of some names that is not blank. -/
def latest? (names : List String) : Option String :=
  (names.filter fun name => !isBlankText name).getLast?

/-- Each page with the latest speaker that is named up to its line, or by names before the lines. -/
def attributed (names : List String) : List Line → List (Option String × String)
  | [] => []
  | l :: lines =>
    l.pages.map (fun page => (latest? (names ++ [l.speaker]), page))
      ++ attributed (names ++ [l.speaker]) lines

/-- A name that is not blank is not empty, so that a page names it. -/
theorem named_latest? (names : List String) : named ((latest? names).getD "") = latest? names := by
  cases hlatest : latest? names with
  | none => rfl
  | some name =>
    have hmem := (List.mem_filter.1 (List.mem_of_getLast? hlatest)).2
    have hname : name ≠ "" := by
      rintro rfl
      simp [isBlankText, allBlank] at hmem
    simp [named, hname]

theorem takeOver_latest? (names : List String) (name : String) :
    takeOver ((latest? names).getD "") name = (latest? (names ++ [name])).getD "" := by
  unfold latest? takeOver
  rw [List.filter_append]
  by_cases hblank : isBlankText name = true <;> simp [hblank]

/-- Who is taken to speak is the latest speaker. -/
theorem recited_eq_attributed (names : List String) (lines : List Line) :
    recited ((latest? names).getD "") lines = attributed names lines := by
  induction lines generalizing names with
  | nil => rfl
  | cons l lines ih => rw [recited, attributed, takeOver_latest?, named_latest?, ih]

/-! ## Lines -/

/-- What holds at all places of a list holds at the first place and at those behind it. -/
theorem forall_split_cons_iff {α : Type} {P : List α → α → Prop} {first : α} {rest : List α} :
    (∀ before a after, first :: rest = before ++ a :: after → P before a) ↔
      P [] first ∧ ∀ before a after, rest = before ++ a :: after → P (first :: before) a := by
  constructor
  · intro h
    refine ⟨h [] first rest rfl, fun before a after hrest => ?_⟩
    exact h (first :: before) a after (by rw [hrest, List.cons_append])
  · rintro ⟨hfirst, hrest⟩ before a after hsplit
    cases before with
    | nil =>
      obtain ⟨rfl, -⟩ := List.cons.inj hsplit
      exact hfirst
    | cons b before =>
      obtain ⟨rfl, htail⟩ := List.cons.inj hsplit
      exact hrest before a after htail

/-- For a line that is said, the speakers of its pages can be compared. -/
theorem Line.attribution_eq_iff {l : Line} (h : l.isSaid = true) {name name' : Option String}
    {rest rest' : List (Option String × String)} :
    l.pages.map (fun page => (name', page)) ++ rest'
        = l.pages.map (fun page => (name, page)) ++ rest ↔
      name = name' ∧ rest' = rest := by
  constructor
  · intro heq
    obtain ⟨hpages, hrest⟩ := List.append_inj heq (by rw [List.length_map, List.length_map])
    obtain ⟨page, hpage⟩ := List.exists_mem_of_ne_nil l.pages (by simpa [Line.isSaid] using h)
    have hpage := List.map_inj_left.1 hpages page hpage
    exact ⟨(Prod.mk.inj hpage).1.symm, hrest⟩
  · rintro ⟨rfl, rfl⟩
    rfl

/-- Attributing pages among all lines and among those that are said comes to the same exactly if,
    before each page, the latest speakers agree. -/
theorem attributed_eq_iff (names names' : List String) (lines : List Line) :
    attributed names' (lines.filter Line.isSaid) = attributed names lines ↔
      ∀ before l after, lines = before ++ l :: after → l.isSaid = true →
        latest? (names ++ (before ++ [l]).map (·.speaker))
          = latest? (names' ++ ((before ++ [l]).filter Line.isSaid).map (·.speaker)) := by
  induction lines generalizing names names' with
  | nil => simp [attributed]
  | cons first lines ih =>
    rw [forall_split_cons_iff (P := fun before l => l.isSaid = true →
      latest? (names ++ (before ++ [l]).map (·.speaker))
        = latest? (names' ++ ((before ++ [l]).filter Line.isSaid).map (·.speaker)))]
    by_cases hsaid : first.isSaid = true
    · rw [List.filter_cons_of_pos hsaid, attributed, attributed, Line.attribution_eq_iff hsaid,
        ih (names ++ [first.speaker]) (names' ++ [first.speaker])]
      simp [hsaid]
    · have hpages : first.pages = [] := by simpa [Line.isSaid] using hsaid
      rw [List.filter_cons_of_neg hsaid, attributed, hpages, List.map_nil, List.nil_append,
        ih (names ++ [first.speaker]) names']
      simp [hsaid]

/-! ## Runs -/

/-- The lines of a turn that was acted out. -/
def Performed.lines (p : Performed) : List Line := p.runner.lines p.channels p.reply

namespace Runner

variable {σ : Type}

/-- What is said in a run are the lines that have a page. -/
theorem speeches_flatMap_performed (model : Model σ) (occasions : List Occasion) (r : Runner)
    (s : σ) :
    let turns := performed model occasions r s
    Command.speeches (turns.flatMap (·.commands))
      = recited r.stage.lastSpeaker ((turns.flatMap Performed.lines).filter Line.isSaid) := by
  induction occasions generalizing r s with
  | nil => rfl
  | cons occasion rest ih =>
    intro turns
    cases occasion with
    | reload disk =>
      rw [← lastSpeaker_reload disk r]
      exact ih (r.reload disk).2 s
    | turn request transcript currentScene =>
      rcases hrun : r.run model request transcript currentScene s with ⟨outcome, after, s'⟩
      simp only [turns, performed, hrun]
      rcases stage_of_run hrun with ⟨reply, commands, rfl, hact⟩ | ⟨fault, rfl⟩ |
        ⟨houtcome, hstage⟩
      · obtain ⟨hsaid, hafter⟩ :=
          r.says_replyAct request.channels reply currentScene _ _ _ _ rfl hact
        simp only [List.flatMap_cons, Command.speeches_append, List.filter_append, recited_append]
        rw [hsaid, ih after s', hafter]
        rfl
      · rfl
      · rw [← hstage]
        rcases houtcome with rfl | ⟨failure, rfl⟩
        · exact ih after s'
        · exact ih after s'

/-- **Who says a page.** In a run from the beginning each page is said by the latest speaker that is
    named up to its line, of the lines that are said, and by nobody if none of them names one. It is
    said by the latest speaker that any line up to its own names, if and only if, before each page,
    the latest speaker of all lines is that of the lines that are said. -/
theorem speeches_performed (model : Model σ) (occasions : List Occasion) (story : Story)
    (random : Random.Source) (ids : IdSupply) (clock : SessionClock) (s : σ) :
    let turns := performed model occasions { new story random ids with clock := clock } s
    let lines := turns.flatMap Performed.lines
    let said := Command.speeches (turns.flatMap (·.commands))
    said = attributed [] (lines.filter Line.isSaid) ∧
      (said = attributed [] lines ↔
        ∀ before l after, lines = before ++ l :: after → l.isSaid = true →
          latest? ((before ++ [l]).map (·.speaker))
            = latest? (((before ++ [l]).filter Line.isSaid).map (·.speaker))) := by
  intro turns lines said
  have hsaid : said = attributed [] (lines.filter Line.isSaid) := by
    rw [← recited_eq_attributed]
    exact speeches_flatMap_performed model occasions _ s
  refine ⟨hsaid, ?_⟩
  rw [hsaid, attributed_eq_iff]
  simp only [List.nil_append]

/-! ## A name without words -/

/-- A story whose only setting is that it knows Alice. -/
def wonderland : Story where
  base := {}
  settings := {}
  tables := { figures := ⟨[⟨"Alice", "alice.json", []⟩]⟩ }

/-- A model that lets Alice greet, in the form that stories without settings ask for. -/
def greeter : Model Unit := fun _ s => ({ answer := .ok ⟨"<<<Alice>>>Hello.", "", none⟩ }, s)

/-- The occasions of a run of one turn. -/
def oneTurn : List Occasion := [.turn ⟨.zero, "Hi", none, {}, false⟩ [] ""]

/-- The greeting of Alice is said by nobody: the paragraph that names her has no page. -/
theorem speeches_wonderland :
    let turns := performed greeter oneTurn (new wonderland ⟨fun _ => 0, 0⟩ ⟨fun _ => "", 0⟩) ()
    turns.flatMap Performed.lines = [⟨"Alice", []⟩, ⟨"", ["Hello."]⟩] ∧
      Command.speeches (turns.flatMap (·.commands)) = [(none, "Hello.")] ∧
      attributed [] (turns.flatMap Performed.lines) = [(some "Alice", "Hello.")] := by
  refine ⟨by decide +kernel, by decide +kernel, by decide +kernel⟩

end Runner

end Dramaturg
