import Dramaturg.Proofs.Stage.Channel
import Mathlib.Data.List.Forall2

set_option autoImplicit false

/-! # Acts with channels switched off

Two stages agree for some channels if they are the same in the frame and on each of these channels.
One act restricts another to some channels if, on stages that agree, it does what the other one does
on them, and on other channels nothing at all. Restriction goes through acts in order, and an act
that keeps to a channel is restricted by doing it only if the channel is on. Only where the
unrestricted act is stopped for want of numbers for figures, the two cannot be compared: the
restricted one may go on. -/

namespace Dramaturg

variable {α : Type} {m : Channels}

/-- The commands on channels that are switched on. -/
def Command.within (m : Channels) (commands : List Command) : List Command :=
  commands.filter fun c => m.allows c.kind

namespace Command

theorem within_append (before after : List Command) :
    within m (before ++ after) = within m before ++ within m after := List.filter_append ..

theorem within_of_isOn {commands : List Command} {k : Channel} (hon : m.isOn k = true)
    (h : ∀ c ∈ commands, c.kind.channel = k) : within m commands = commands := by
  unfold within
  rw [List.filter_eq_self]
  intro c hc
  rw [m.allows_eq_isOn, h c hc, hon]

theorem within_of_not_isOn {commands : List Command} {k : Channel} (hoff : ¬ m.isOn k = true)
    (h : ∀ c ∈ commands, c.kind.channel = k) : within m commands = [] := by
  unfold within
  rw [List.filter_eq_nil_iff]
  intro c hc
  rwa [m.allows_eq_isOn, h c hc]

end Command

/-- Whether two stages are the same in the frame and on the channels that are on. -/
structure Stage.Agree (m : Channels) (s s' : Stage α) : Prop where
  frame : s.SameFrame s'
  same (k : Channel) : m.isOn k = true → s.SameOn s' k

theorem Stage.Agree.refl (s : Stage α) : Stage.Agree m s s := ⟨.refl s, fun k _ => .refl s k⟩

/-- Whether an act is what another one comes to when only some channels are on. -/
structure Act.Restricts (m : Channels) (act act' : Act α) : Prop where
  /-- What belongs to a channel that is off is left alone. -/
  untouched (s' : Stage α) (k : Channel) : ¬ m.isOn k = true → s'.SameOn (act' s').2 k
  agrees (s s' : Stage α) : s.Agree m s' →
    (∃ count, (act s).1 = .error (.idsExhausted count)) ∨
      (act' s').1 = (act s).1.map (Command.within m) ∧ (act s).2.Agree m (act' s').2

namespace Act

/-! ## Acts in order -/

theorem andThen_of_error {first second : Act α} {s : Stage α} {fault : Fault}
    (h : (first s).1 = .error fault) :
    first.andThen second s = (.error fault, (first s).2) := by
  unfold andThen
  rcases hfirst : first s with ⟨result, between⟩
  rw [hfirst] at h
  obtain rfl : result = .error fault := h
  rfl

theorem andThen_of_ok {first second : Act α} {s : Stage α} {commands : List Command}
    (h : (first s).1 = .ok commands) :
    first.andThen second s
      = ((second (first s).2).1.map (commands ++ ·), (second (first s).2).2) := by
  unfold andThen
  rcases hfirst : first s with ⟨result, between⟩
  rw [hfirst] at h
  obtain rfl : result = .ok commands := h
  rcases hsecond : second between with ⟨fault | more, after⟩
  · simp only [hsecond]
    rfl
  · simp only [hsecond]
    rfl

theorem restricts_idle : Restricts m (idle : Act α) idle where
  untouched s' k _ := .refl s' k
  agrees _ _ hagree := .inr ⟨rfl, hagree⟩

theorem restricts_stopped (fault : Fault) :
    Restricts m (stopped fault : Act α) (stopped fault) where
  untouched s' k _ := .refl s' k
  agrees _ _ hagree := .inr ⟨rfl, hagree⟩

theorem Restricts.andThen {first first' second second' : Act α} (h : first.Restricts m first')
    (h' : second.Restricts m second') :
    (first.andThen second).Restricts m (first'.andThen second') where
  untouched s' k hoff := by
    have hfirst := h.untouched s' k hoff
    cases hresult : (first' s').1 with
    | error fault =>
      rw [andThen_of_error hresult]
      exact hfirst
    | ok commands =>
      rw [andThen_of_ok hresult]
      exact hfirst.trans (h'.untouched (first' s').2 k hoff)
  agrees s s' hagree := by
    rcases h.agrees s s' hagree with ⟨count, hcount⟩ | ⟨hsame, hbetween⟩
    · exact .inl ⟨count, congrArg Prod.fst (andThen_of_error hcount)⟩
    · cases hresult : (first s).1 with
      | error fault =>
        rw [hresult] at hsame
        rw [andThen_of_error hresult, andThen_of_error hsame]
        exact .inr ⟨rfl, hbetween⟩
      | ok commands =>
        rw [hresult] at hsame
        rw [andThen_of_ok hresult, andThen_of_ok hsame]
        rcases h'.agrees _ _ hbetween with ⟨count, hcount⟩ | ⟨hmore, hafter⟩
        · exact .inl ⟨count, by rw [hcount]; rfl⟩
        · refine .inr ⟨?_, hafter⟩
          rw [hmore]
          cases (second (first s).2).1 with
          | error fault => rfl
          | ok more => exact congrArg Except.ok (Command.within_append commands more).symm

theorem restricts_inOrder {acts acts' : List (Act α)}
    (h : List.Forall₂ (Restricts m) acts acts') : (inOrder acts).Restricts m (inOrder acts') := by
  induction h with
  | nil => exact restricts_idle
  | cons hfirst _ ih => exact hfirst.andThen ih

/-! ## Acts that keep to a channel -/

variable {act act' : Act α} {k : Channel}

theorem KeepsTo.restricts_self (h : act.KeepsTo k) (hon : m.isOn k = true) :
    act.Restricts m act where
  untouched s' k' hoff := by
    apply h.others
    rintro rfl
    exact hoff hon
  agrees s s' hagree := by
    obtain ⟨hresult, hsame⟩ := h.congr s s' hagree.frame (hagree.same k hon)
    refine .inr ⟨?_, ?_, ?_⟩
    · rw [← hresult]
      cases hcommands : (act s).1 with
      | error fault => rfl
      | ok commands =>
        exact congrArg Except.ok (Command.within_of_isOn hon (h.channel s commands hcommands)).symm
    · exact (h.frame s).symm.trans (hagree.frame.trans (h.frame s'))
    · intro k' hon'
      by_cases hk : k' = k
      · rw [hk]
        exact hsame
      · exact (h.others s k' hk).symm.trans ((hagree.same k' hon').trans (h.others s' k' hk))

theorem KeepsTo.restricts_idle (h : act.KeepsTo k) (hoff : ¬ m.isOn k = true) :
    act.Restricts m idle where
  untouched s' k' _ := .refl s' k'
  agrees s s' hagree := by
    cases hresult : (act s).1 with
    | error fault =>
      obtain ⟨count, rfl⟩ := h.fault s fault hresult
      exact .inl ⟨count, rfl⟩
    | ok commands =>
      -- Whatever the act does belongs to the channel that is off.
      refine .inr ⟨?_, ?_, ?_⟩
      · exact congrArg Except.ok
          (Command.within_of_not_isOn hoff (h.channel s commands hresult)).symm
      · exact (h.frame s).symm.trans hagree.frame
      · intro k' hon'
        have hk : k' ≠ k := by
          rintro rfl
          exact hoff hon'
        exact (h.others s k' hk).symm.trans (hagree.same k' hon')

/-- An act that keeps to a channel, and is done on a condition, is restricted by doing it only if
    the channel is on, too. It may then be another act if the channel is off. -/
theorem KeepsTo.restricts_when (h : act.KeepsTo k) (heq : m.isOn k = true → act' = act)
    (condition : Bool) :
    (when condition act).Restricts m (when (condition && m.isOn k) act') := by
  cases condition with
  | false => exact Act.restricts_idle
  | true =>
    by_cases hon : m.isOn k = true
    · rw [hon, heq hon]
      exact h.restricts_self hon
    · rw [Bool.eq_false_iff.2 hon]
      exact h.restricts_idle hon

theorem fst_when_silent (condition : Bool) (change : Stage α → Stage α) (s : Stage α) :
    (when condition (silent change) s).1 = .ok [] := by
  cases condition with
  | false => rfl
  | true => rfl

/-- An act that only concerns the frame is not restricted. -/
theorem restricts_silent {change : Stage α → Stage α}
    (hframe : ∀ s s' : Stage α, s.SameFrame s' → (change s).SameFrame (change s'))
    (hsame : ∀ (s : Stage α) (k : Channel), s.SameOn (change s) k) :
    (silent change).Restricts m (silent change) where
  untouched s' k _ := hsame s' k
  agrees s s' hagree := by
    refine .inr ⟨rfl, hframe s s' hagree.frame, ?_⟩
    intro k hon
    exact (hsame s k).symm.trans ((hagree.same k hon).trans (hsame s' k))

theorem restricts_beginParagraph :
    (silent (Stage.beginParagraph (α := α))).Restricts m (silent Stage.beginParagraph) := by
  apply restricts_silent
  · rintro s s' ⟨hrules, hparagraph, hsentence, hids⟩
    refine ⟨hrules, ?_, hsentence, ?_⟩
    · show s.ids.draw.1 = s'.ids.draw.1
      rw [hids]
    · show s.ids.draw.2 = s'.ids.draw.2
      rw [hids]
  · exact fun s k => .refl s k

theorem restricts_beginSentence :
    (silent (Stage.beginSentence (α := α))).Restricts m (silent Stage.beginSentence) := by
  apply restricts_silent
  · rintro s s' ⟨hrules, hparagraph, hsentence, hids⟩
    refine ⟨hrules, hparagraph, ?_, ?_⟩
    · show s.ids.draw.1 = s'.ids.draw.1
      rw [hids]
    · show s.ids.draw.2 = s'.ids.draw.2
      rw [hids]
  · exact fun s k => .refl s k

end Act

end Dramaturg
