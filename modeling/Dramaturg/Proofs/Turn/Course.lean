import Dramaturg.Proofs.Turn.Interference

set_option autoImplicit false

/-! # The course of a reply

Apart from beginning paragraphs, all that a reply does to the frame of a stage is to leave it alone.
So a relation between stages that lasts through all this relates the stage before a reply to the one
after it, also where a fault stops the reply on its way. -/

namespace Dramaturg

variable {α : Type} {R : Stage α → Stage α → Prop}

/-- Whether a relation between stages lasts through a reply: it does not look beyond the frame, and
    it holds from before to after the beginning of a reply and of its paragraphs. -/
structure Stage.Lasts (R : Stage α → Stage α → Prop) : Prop where
  trans {s s' s'' : Stage α} : R s s' → R s' s'' → R s s''
  frame {s s' : Stage α} : s.SameFrame s' → R s s'
  beginParagraph (s : Stage α) : R s s.beginParagraph
  beginSentence (s : Stage α) : R s s.beginSentence

/-- Whether an act takes each stage to a related one, whatever it comes to. -/
def Act.Keeps (R : Stage α → Stage α → Prop) (act : Act α) : Prop := ∀ s, R s (act s).2

namespace Act

variable {act first second : Act α} (hR : Stage.Lasts R)

include hR

theorem keeps_idle : Keeps R idle := fun s => hR.frame (.refl s)

theorem KeepsTo.keeps {k : Channel} (h : act.KeepsTo k) : act.Keeps R :=
  fun s => hR.frame (h.frame s)

theorem Keeps.when (h : act.Keeps R) (condition : Bool) : (when condition act).Keeps R := by
  cases condition with
  | false => exact keeps_idle hR
  | true => exact h

theorem Keeps.andThen (h : first.Keeps R) (h' : second.Keeps R) :
    (first.andThen second).Keeps R := by
  intro s
  cases hfirst : (first s).1 with
  | error fault =>
    rw [andThen_of_error hfirst]
    exact h s
  | ok commands =>
    rw [andThen_of_ok hfirst]
    exact hR.trans (h s) (h' (first s).2)

theorem keeps_inOrder {acts : List (Act α)} (h : ∀ act ∈ acts, act.Keeps R) :
    (inOrder acts).Keeps R := by
  induction acts with
  | nil => exact keeps_idle hR
  | cons act acts ih =>
    exact (h act List.mem_cons_self).andThen hR
      (ih fun act' hact => h act' (List.mem_cons_of_mem act hact))

end Act

namespace Resolution

variable [Coordinate α]

theorem keeps_act (hR : Stage.Lasts R) (r : Resolution) (channels : Channels) (reply : String)
    (pages : Except Fault (List String)) : (r.act channels reply pages).Keeps R := by
  have hpage (page : String) : (r.pageAct channels reply page).Keeps R := by
    refine Act.keeps_inOrder hR (List.forall_mem_cons.2 ⟨?_, List.forall_mem_cons.2 ⟨?_, nofun⟩⟩)
    · exact ((Act.keepsTo_figures _ _).keeps hR).when hR channels.figure
    · exact ((Act.keepsTo_say _ _ _).keeps hR).when hR channels.dialogue
  have hpages : (r.pagesAct channels reply pages).Keeps R := by
    cases pages with
    | error fault => exact fun s => hR.frame (.refl s)
    | ok pages =>
      refine Act.keeps_inOrder hR fun act hact => ?_
      obtain ⟨page, -, rfl⟩ := List.mem_map.1 hact
      exact hpage page
  have hambience (a : Ambience) (found : Option String) (condition : Bool) :
      (Act.when condition (a.act found)).Keeps R :=
    ((a.keepsTo_act found).keeps hR).when hR condition
  have hbegin : (Act.silent Stage.beginSentence).Keeps R := hR.beginSentence
  exact hbegin.andThen hR ((hambience .music r.bgm channels.music).andThen hR
    ((hambience .background r.background channels.background).andThen hR
      (hpages.andThen hR
        ((hambience .scene r.scene channels.scene).andThen hR (Act.keeps_idle hR)))))

omit [Coordinate α] in
/-- Looking up what a paragraph directs leaves the frame alone. -/
theorem sameFrame_ofBundle (story : Story) (channels : Channels) (currentScene : String)
    (b : Bundle) (s : Stage α) : s.SameFrame (ofBundle story channels currentScene b s).2 := by
  rw [stage_ofBundle]
  have hchoose := keepsTo_chooseFigures (α := α) story.settings.directives story.tables b.poses
  cases channels.figure with
  | false => exact .refl s
  | true => exact hchoose.frame s

end Resolution

namespace Runner

variable {R : Stage Float → Stage Float → Prop} (hR : Stage.Lasts R)

include hR

theorem keeps_paragraphAct (r : Runner) (channels : Channels)
    (reply currentScene paragraph : String) :
    (r.paragraphAct channels reply currentScene paragraph).Keeps R := fun s =>
  hR.trans (hR.frame (Resolution.sameFrame_ofBundle r.story channels currentScene _ s))
    (Resolution.keeps_act hR _ channels reply _ _)

/-- What lasts through a reply holds from the stage before it to the one after it. -/
theorem keeps_replyAct (r : Runner) (channels : Channels) (reply currentScene : String) :
    (r.replyAct channels reply currentScene).Keeps R := by
  refine Act.keeps_inOrder hR (List.forall_mem_cons.2 ⟨hR.beginParagraph, fun act hact => ?_⟩)
  obtain ⟨paragraph, -, rfl⟩ := List.mem_map.1 hact
  exact r.keeps_paragraphAct hR channels reply currentScene paragraph

/-- A turn that acts nothing out leaves the stage alone. -/
theorem keeps_run {σ : Type} (model : Model σ) (request : TurnRequest)
    (transcript : List TranscriptEntry) (currentScene : String) (r : Runner) (s : σ) :
    R r.stage (r.run model request transcript currentScene s).2.1.stage := by
  rcases run_cases_of_channels model request transcript currentScene r s with
    ⟨outcome, clock, s₁, -, hrun⟩ | ⟨reply, compactor, clock, s₁, hrun⟩
  · have hstage : (r.run model request transcript currentScene s).2.1.stage = r.stage :=
      congrArg (fun ran => ran.2.1.stage) (hrun request.channels r.stage)
    rw [hstage]
    exact hR.frame (.refl r.stage)
  · have hstage : (r.run model request transcript currentScene s).2.1.stage
        = (r.replyAct request.channels reply currentScene r.stage).2 :=
      congrArg (fun ran => ran.2.1.stage) (hrun request.channels r.stage)
    rw [hstage]
    exact r.keeps_replyAct hR request.channels reply currentScene r.stage

end Runner

end Dramaturg
