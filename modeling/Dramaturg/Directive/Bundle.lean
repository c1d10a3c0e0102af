import Dramaturg.Directive.Cleanup
import Dramaturg.Settings.Basic

set_option autoImplicit false

/-! # What a paragraph directs

`DirectiveRules.read` reads every kind of directive out of one paragraph, and the text that is left
when all of them are taken out. -/

namespace Dramaturg

open Text

namespace Directive

/-- A speaker and the pose that the model gives it. -/
structure Pose where
  speaker : String
  pose : String
deriving DecidableEq

/-- The items of a directive; an empty splitter separates nothing. -/
def items (splitter body : String) : List (List Char) :=
  splitOn splitter.toList body.toList

/-- The names in a speaker directive. -/
def speakers (r : Rule) (text : String) : List String :=
  match extract? r text with
  | none => []
  | some body =>
    ((items r.splitter body).map trim |>.filter (!·.isEmpty)).map String.ofList

/-- An item of a figure directive: what stands before the first indicator, and what stands between
    it and the next. Both have to be there. -/
def pose? (indicators : List Char) (item : List Char) : Option Pose :=
  match splitAny (indicators.contains ·) item with
  | speaker :: pose :: _ =>
    let speaker := trim speaker
    let pose := trim pose
    if speaker.isEmpty || pose.isEmpty then none
    else some ⟨String.ofList speaker, String.ofList pose⟩
  | _ => none

/-- The poses in a figure directive. -/
def poses (r : Rule) (indicators : List Char) (text : String) : List Pose :=
  match extract? r text with
  | none => []
  | some body => (items r.splitter body).filterMap (pose? indicators)

end Directive

open Directive

/-- The text without any directive. -/
def DirectiveRules.clean (d : DirectiveRules) (text : String) : String :=
  String.ofList (cleanText d.inOrder text.toList)

/-- What one paragraph directs, and what it says. -/
structure Bundle where
  speakers : List String
  poses : List Pose
  background : Option String
  bgm : Option String
  scene : Option String
  memory : Option String
  /-- The text without its directives. -/
  cleaned : String
  raw : String
deriving DecidableEq

/-- Reads a paragraph by the rules of a story. -/
def DirectiveRules.read (d : DirectiveRules) (text : String) : Bundle where
  speakers := Directive.speakers d.speaker text
  poses := Directive.poses d.figure d.speakerIndicators text
  background := extract? d.background text
  bgm := extract? d.bgm text
  scene := extract? d.scene text
  memory := extract? d.memory text
  cleaned := d.clean text
  raw := text

end Dramaturg
