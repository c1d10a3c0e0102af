import Dramaturg.Proofs.Stage.Direction
import Mathlib.Data.List.Destutter

set_option autoImplicit false

/-! # What is announced

A stage remembers what it announced last, of background, music and scene each for itself. That this
is also what was found last, whether it was announced or suppressed, is the invariant behind
`announcements_of_opening`: a value that is found is announced exactly if repetitions are allowed
just then, or if it is not the value that was found before it. -/

namespace Dramaturg

variable {α : Type}

/-! ## What a direction is about -/

namespace Direction

/-- The channel that a direction is about; none if it is about what all channels share. -/
def channel? : Direction α → Option Channel
  | .figures _ _ => some .figure
  | .say _ _ _ => some .dialogue
  | .background _ => some .background
  | .bgm _ => some .music
  | .scene _ => some .scene
  | .choose _ => some .figure
  | .reconfigure _ => none
  | .beginParagraph => none
  | .beginSentence => none

/-- The rules that a direction brings. -/
def rules? : Direction α → Option (StageRules α)
  | .reconfigure rules => some rules
  | _ => none

variable [Coordinate α]

/-- The commands that a direction gives. -/
def commands (d : Direction α) (s : Stage α) : List Command := (d.act s).1.toOption.getD []

theorem keepsTo {d : Direction α} {k : Channel} (h : d.channel? = some k) : d.act.KeepsTo k := by
  cases d with
  | figures features paths => cases h; exact Act.keepsTo_figures features paths
  | say speaker reply page => cases h; exact Act.keepsTo_say speaker reply page
  | background found => cases h; exact Ambience.background.keepsTo_act found
  | bgm found => cases h; exact Ambience.music.keepsTo_act found
  | scene found => cases h; exact Ambience.scene.keepsTo_act found
  | choose features => cases h; exact Act.keepsTo_choose features
  | reconfigure | beginParagraph | beginSentence => cases h

/-- What is about no channel leaves the parts of all of them alone, and gives no command. -/
theorem sameOn_of_channel?_eq_none {d : Direction α} (h : d.channel? = none) (s : Stage α)
    (k : Channel) : s.SameOn (d.act s).2 k ∧ (d.act s).1 = .ok [] := by
  cases d with
  | reconfigure | beginParagraph | beginSentence => exact ⟨.refl s k, rfl⟩
  | figures | say | background | bgm | scene | choose => cases h

/-- What is not about a channel leaves its part alone, and gives no command on it. -/
theorem sameOn_of_channel?_ne {d : Direction α} {k : Channel} (h : d.channel? ≠ some k)
    (s : Stage α) :
    s.SameOn (d.act s).2 k ∧ ∀ c ∈ d.commands s, c.kind.channel ≠ k := by
  unfold commands
  cases hd : d.channel? with
  | none =>
    obtain ⟨hsame, hnone⟩ := sameOn_of_channel?_eq_none hd s k
    rw [hnone]
    exact ⟨hsame, fun c hc => absurd hc List.not_mem_nil⟩
  | some k' =>
    have hother : k ≠ k' := fun heq => h (heq ▸ hd)
    have hkeeps := keepsTo hd
    refine ⟨hkeeps.others s k hother, ?_⟩
    cases hgiven : (d.act s).1 with
    | error fault => exact fun c hc => absurd hc List.not_mem_nil
    | ok given => exact fun c hc heq => hother (heq.symm.trans (hkeeps.channel s given hgiven c hc))

theorem rules_act (d : Direction α) (s : Stage α) : (d.act s).2.rules = d.rules?.getD s.rules := by
  cases hd : d.channel? with
  | none =>
    cases d with
    | reconfigure | beginParagraph | beginSentence => rfl
    | figures | say | background | bgm | scene | choose => cases hd
  | some k =>
    have hnone : d.rules? = none := by
      cases d with
      | reconfigure => cases hd
      | _ => rfl
    rw [← ((keepsTo hd).frame s).rules, hnone, Option.getD_none]

end Direction

/-- The rules in force after directions: those that were brought last. -/
def StageRules.after (rules : StageRules α) (directions : List (Direction α)) : StageRules α :=
  (directions.filterMap Direction.rules?).getLast?.getD rules

variable [Coordinate α]

namespace Stage

theorem rules_follow (directions : List (Direction α)) (s : Stage α) :
    (s.follow directions).rules = s.rules.after directions := by
  induction directions generalizing s with
  | nil => rfl
  | cons d directions ih =>
    have hfollow : s.follow (d :: directions) = (d.act s).2.follow directions := rfl
    rw [hfollow, ih, d.rules_act]
    unfold StageRules.after
    cases hrules : d.rules? with
    | none => simp [hrules]
    | some rules => simp [hrules, List.getLast?_cons]

/-- The commands that directions give. -/
def given : List (Direction α) → Stage α → List Command
  | [], _ => []
  | d :: directions, s => d.commands s ++ given directions (d.act s).2

end Stage

/-! ## One direction -/

namespace Ambience

/-- What was found, if a direction asks for an ambience to be announced. -/
def asked? : Ambience → Direction α → Option (Option String)
  | .background, .background found => some found
  | .music, .bgm found => some found
  | .scene, .scene found => some found
  | _, _ => none

/-- The values that were found, in the order in which directions asked for them. -/
def found (a : Ambience) (directions : List (Direction α)) : List String :=
  directions.filterMap fun d => (a.asked? d).join

/-- What commands announce. -/
def contents (a : Ambience) (commands : List Command) : List String :=
  (commands.filter fun c => decide (c.kind.channel = a.channel)).map (·.content)

theorem contents_append (a : Ambience) (before after : List Command) :
    a.contents (before ++ after) = a.contents before ++ a.contents after := by
  simp [contents]

variable {a : Ambience} {d : Direction α} {s : Stage α}

theorem act_of_asked? {found : Option String} (h : a.asked? d = some found) :
    d.act = a.act found := by
  cases a <;> cases d <;> cases h <;> rfl

omit [Coordinate α] in
theorem channel?_of_asked? (h : a.asked? d = none) : d.channel? ≠ some a.channel := by
  cases a <;> cases d <;> simp_all [asked?, Direction.channel?, channel]

omit [Coordinate α] in
/-- A value is announced if it was found, and may be repeated or is not what is remembered. -/
theorem announced?_eq_some_iff {found : Option String} {value : String} :
    a.announced? found s = some value ↔
      found = some value ∧ (a.repeats s.rules = true ∨ a.memo s ≠ some value) := by
  unfold announced? Stage.announce?
  simp [Option.filter_eq_some_iff]

omit [Coordinate α] in
/-- A value that was found and is not announced is the one that is remembered. -/
theorem announced?_or_memo (a : Ambience) (found : Option String) (s : Stage α) :
    (a.announced? found s).or (a.memo s) = found.or (a.memo s) := by
  cases h : a.announced? found s with
  | some value =>
    obtain ⟨rfl, -⟩ := announced?_eq_some_iff.1 h
    rfl
  | none =>
    cases found with
    | none => rfl
    | some value =>
      by_contra hmemo
      have hannounced := announced?_eq_some_iff.2 ⟨rfl, .inr hmemo⟩
      rw [h] at hannounced
      cases hannounced

/-- What a direction announces. -/
theorem contents_commands (a : Ambience) (d : Direction α) (s : Stage α) :
    a.contents (d.commands s) = (a.announced? (a.asked? d).join s).toList := by
  cases hasked : a.asked? d with
  | none =>
    obtain ⟨-, hkind⟩ := Direction.sameOn_of_channel?_ne (channel?_of_asked? hasked) s
    have hnone : (d.commands s).filter (fun c => decide (c.kind.channel = a.channel)) = [] := by
      simpa using hkind
    unfold contents
    rw [hnone]
    rfl
  | some found =>
    unfold Direction.commands
    rw [act_of_asked? hasked]
    cases h : a.announced? found s with
    | none => simp [act_of_none h, contents, Except.toOption, h]
    | some value =>
      simp [act_of_some h, contents, Except.toOption, channel_command, content_command, h]

/-- The step of the invariant: what is remembered is what was found last, also if it was not
    announced. -/
theorem memo_act (a : Ambience) (d : Direction α) (s : Stage α) :
    a.memo (d.act s).2 = (a.asked? d).join.or (a.memo s) := by
  cases hasked : a.asked? d with
  | none =>
    obtain ⟨hsame, -⟩ := Direction.sameOn_of_channel?_ne (channel?_of_asked? hasked) s
    exact ((a.sameOn_channel s _).1 hsame).symm
  | some found =>
    rw [act_of_asked? hasked, Option.join_some, ← announced?_or_memo]
    cases h : a.announced? found s with
    | none => rw [act_of_none h, Option.none_or]
    | some value => rw [act_of_some h, memo_remember, Option.some_or]

/-! ## Runs -/

/-- The last of one value at most is that value. -/
theorem getLast?_toList (value? : Option String) : value?.toList.getLast? = value? := by
  cases value? <;> rfl

omit [Coordinate α] in
theorem found_cons (a : Ambience) (d : Direction α) (directions : List (Direction α)) :
    a.found (d :: directions) = (a.asked? d).join.toList ++ a.found directions := by
  unfold found
  cases h : (a.asked? d).join <;> simp [h]

theorem contents_given_cons (a : Ambience) (d : Direction α) (directions : List (Direction α))
    (s : Stage α) :
    a.contents (s.given (d :: directions))
      = (a.announced? (a.asked? d).join s).toList
          ++ a.contents ((d.act s).2.given directions) := by
  show a.contents (d.commands s ++ _) = _
  rw [contents_append, contents_commands]

theorem memo_follow (a : Ambience) (directions : List (Direction α)) (s : Stage α) :
    a.memo (s.follow directions) = (a.found directions).getLast?.or (a.memo s) := by
  induction directions generalizing s with
  | nil => rfl
  | cons d directions ih =>
    have hfollow : s.follow (d :: directions) = (d.act s).2.follow directions := rfl
    rw [hfollow, ih, memo_act, found_cons, List.getLast?_append, getLast?_toList, Option.or_assoc]

/-- What is remembered is what was announced last. -/
theorem memo_follow_eq_contents (a : Ambience) (directions : List (Direction α)) (s : Stage α) :
    a.memo (s.follow directions)
      = (a.contents (s.given directions)).getLast?.or (a.memo s) := by
  induction directions generalizing s with
  | nil => rfl
  | cons d directions ih =>
    have hfollow : s.follow (d :: directions) = (d.act s).2.follow directions := rfl
    rw [hfollow, ih, memo_act, contents_given_cons, List.getLast?_append, getLast?_toList,
      Option.or_assoc, announced?_or_memo]

/-- Without repetitions, what is announced is what was found, each run of one value once. What is
    remembered from before stands in front. -/
theorem contents_given_eq_destutter (a : Ambience) (directions : List (Direction α)) (s : Stage α)
    (hrules : a.repeats s.rules = false)
    (hlater : ∀ rules, .reconfigure rules ∈ directions → a.repeats rules = false) :
    (a.memo s).toList ++ a.contents (s.given directions)
      = ((a.memo s).toList ++ a.found directions).destutter (· ≠ ·) := by
  induction directions generalizing s with
  | nil => cases h : a.memo s <;> rfl
  | cons d directions ih =>
    have hnext : a.repeats (d.act s).2.rules = false := by
      rw [d.rules_act]
      cases hd : d.rules? with
      | none => exact hrules
      | some rules =>
        cases d with
        | reconfigure rules' =>
          cases hd
          exact hlater rules List.mem_cons_self
        | _ => cases hd
    have hrest := ih (d.act s).2 hnext fun rules hmem => hlater rules (List.mem_cons_of_mem d hmem)
    rw [memo_act] at hrest
    rw [contents_given_cons, found_cons]
    cases hfound : (a.asked? d).join with
    | none =>
      rw [hfound] at hrest
      exact hrest
    | some value =>
      rw [hfound] at hrest
      cases hmemo : a.memo s with
      | none =>
        have hannounced : a.announced? (some value) s = some value :=
          announced?_eq_some_iff.2 ⟨rfl, .inr (by simp [hmemo])⟩
        rw [hannounced]
        exact hrest
      | some last =>
        by_cases hsame : last = value
        · -- A repetition is neither announced nor kept.
          have hannounced : a.announced? (some value) s = none := by
            simp [announced?, Stage.announce?, hmemo, hrules, hsame]
          rw [hannounced, hsame]
          simpa [List.destutter_cons_cons, List.destutter_cons'] using hrest
        · have hannounced : a.announced? (some value) s = some value :=
            announced?_eq_some_iff.2 ⟨rfl, .inr (by simp [hmemo, hsame])⟩
          rw [hannounced]
          simpa [List.destutter_cons_cons, List.destutter_cons', hsame] using hrest

/-- **Only what changes is announced.** After any directions from the opening on, a direction that
    asks for an ambience to be announced gives a command if and only if a value was found for it, and
    the rules in force allow repetitions or another value was found last. The command announces that
    value, and no other direction announces any. So over a whole run what was announced last is what
    was found last, and where the rules never allow repetitions, what is announced is what was found
    without its repetitions. -/
theorem announcements_of_opening (a : Ambience) (rules : StageRules α) (random : Random.Source)
    (ids : IdSupply) (directions : List (Direction α)) :
    let start := Stage.opening rules random ids
    (∀ d found, a.asked? d = some found →
      ∃ commands, (d.act (start.follow directions)).1 = .ok commands ∧
        (commands ≠ [] ↔ ∃ value, found = some value ∧
          (a.repeats (rules.after directions) = true ∨
            (a.found directions).getLast? ≠ some value)) ∧
        ∀ c ∈ commands, commands = [c] ∧ c.kind.channel = a.channel ∧ found = some c.content) ∧
    (∀ d, a.asked? d = none → a.contents (d.commands (start.follow directions)) = []) ∧
    (a.contents (start.given directions)).getLast? = (a.found directions).getLast? ∧
    (a.repeats rules = false →
      (∀ rules', .reconfigure rules' ∈ directions → a.repeats rules' = false) →
      a.contents (start.given directions) = (a.found directions).destutter (· ≠ ·)) := by
  intro start
  have hnothing : a.memo start = none := by cases a <;> rfl
  have hmemo : a.memo (start.follow directions) = (a.found directions).getLast? := by
    rw [memo_follow, hnothing, Option.or_none]
  refine ⟨?_, ?_, ?_, ?_⟩
  · intro d found hasked
    have hannounced (value : String) : a.announced? found (start.follow directions) = some value ↔
        found = some value ∧ (a.repeats (rules.after directions) = true ∨
          (a.found directions).getLast? ≠ some value) := by
      rw [announced?_eq_some_iff, Stage.rules_follow, hmemo]
      rfl
    rw [act_of_asked? hasked]
    cases h : a.announced? found (start.follow directions) with
    | none =>
      refine ⟨[], congrArg Prod.fst (act_of_none h), ?_, fun c hc => absurd hc List.not_mem_nil⟩
      simp [← hannounced, h]
    | some value =>
      refine ⟨[a.command value], congrArg Prod.fst (act_of_some h), ?_, ?_⟩
      · simp [← hannounced, h]
      · intro c hc
        obtain rfl := List.mem_singleton.1 hc
        rw [content_command]
        exact ⟨rfl, channel_command a value, ((hannounced value).1 h).1⟩
  · intro d hasked
    rw [contents_commands, hasked]
    rfl
  · rw [← hmemo, memo_follow_eq_contents, hnothing, Option.or_none]
  · intro hrules hlater
    have hcontents := a.contents_given_eq_destutter directions start hrules hlater
    rwa [hnothing] at hcontents

/-- Calls for music, with a miss and a change of background in between. -/
def requests : List (Direction Float) :=
  [.bgm (some "battle.mp3"), .bgm none, .background (some "hall.png"), .bgm (some "battle.mp3"),
    .bgm (some "calm.mp3")]

/-- A repetition is suppressed across the miss and the change of background, and after the calls,
    too. -/
theorem announcements_of_requests :
    let rules : StageRules Float := ⟨⟨0, 0, 0, 0⟩, false, false, false⟩
    let start := Stage.opening rules ⟨fun _ => 0, 0⟩ ⟨fun _ => "", 0⟩
    let again : Direction Float := .bgm (some "calm.mp3")
    music.asked? again = some (some "calm.mp3") ∧
      (again.act (start.follow requests)).1 = .ok [] ∧
      music.asked? (.beginSentence : Direction Float) = none ∧
      music.contents (Direction.beginSentence.commands (start.follow requests)) = [] ∧
      music.repeats rules = false ∧
      (∀ rules', .reconfigure rules' ∈ requests → music.repeats rules' = false) ∧
      music.contents (start.given requests) = ["battle.mp3", "calm.mp3"] := by
  intro rules start again
  have hlater : ∀ rules', .reconfigure rules' ∈ requests → music.repeats rules' = false := by
    simp [requests]
  have hfound : music.found requests = ["battle.mp3", "battle.mp3", "calm.mp3"] := rfl
  obtain ⟨hasked, hother, -, hcontents⟩ :=
    announcements_of_opening music rules ⟨fun _ => 0, 0⟩ ⟨fun _ => "", 0⟩ requests
  obtain ⟨commands, hact, hannounced, -⟩ := hasked again (some "calm.mp3") rfl
  have hnone : commands = [] := by
    by_contra hsome
    obtain ⟨value, hvalue, hrepeat | hnew⟩ := hannounced.1 hsome
    · cases hrepeat
    · cases hvalue
      exact hnew rfl
  exact ⟨rfl, hact.trans (congrArg _ hnone), rfl, hother .beginSentence rfl, rfl, hlater,
    (hcontents rfl hlater).trans (by rw [hfound]; decide)⟩

end Ambience

end Dramaturg
