import Dramaturg.Directive.Bundle
import Dramaturg.Stage.Act
import Dramaturg.Story.Basic
import Dramaturg.Turn.Request

set_option autoImplicit false

/-! # The paragraphs of a reply

A reply is split into paragraphs, and each of them is acted out: what its directives name is looked
up in the tables of the story, music and background come first, then for each page the figures and
the words, and last the scene. -/

namespace Dramaturg

open Text

/-! ## Splitting -/

/-- The parts that are not blank, each but the last of all followed by the splitter again. -/
def restoreSplitter (splitter : List Char) : List (List Char) → List (List Char)
  | [] => []
  | [part] => if allBlank part then [] else [part]
  | part :: next :: rest =>
    let restored := restoreSplitter splitter (next :: rest)
    if allBlank part then restored else (part ++ splitter) :: restored

/-- The paragraphs of a reply. The splitter may be the end of a directive, and so it stays with the
    paragraph that it ends. -/
def splitParagraphs (splitter reply : String) : List String :=
  (restoreSplitter splitter.toList (splitOn splitter.toList reply.toList)).map String.ofList

/-! ## Looking up -/

/-- What the directives of a paragraph come to. -/
structure Resolution where
  speaker : String
  /-- The figures to be shown: a feature and the default model for each. -/
  figures : List (Feature × String)
  background : Option String
  bgm : Option String
  scene : Option String
deriving DecidableEq

namespace Resolution

/-- The names of the known characters among the speakers, joined by the splitter. -/
def speakerOf (d : DirectiveRules) (t : Tables) (b : Bundle) : String :=
  d.speaker.splitter.intercalate
    (b.speakers.filterMap fun name =>
      (t.figures.character? d.speaker.strict name).map (·.speaker))

/-- The default model and the candidate features of a pose, if both are known. -/
def candidates? (d : DirectiveRules) (t : Tables) (p : Directive.Pose) :
    Option (String × List Feature) :=
  match t.figures.defaultPath? p.speaker, t.figures.features? d.figure.strict p.speaker p.pose with
  | some path, some features => some (path, features)
  | _, _ => none

/-- Chooses a feature for each pose that is known, by chance. -/
def chooseFigures {α : Type} (d : DirectiveRules) (t : Tables) :
    List Directive.Pose → Stage α → List (Feature × String) × Stage α
  | [], s => ([], s)
  | p :: rest, s =>
    match candidates? d t p with
    | none => chooseFigures d t rest s
    | some (path, features) =>
      let (chosen, s) := s.choose features
      let (more, s) := chooseFigures d t rest s
      ((chosen.map fun feature => (feature, path)).toList ++ more, s)

/-- Looks up what a paragraph directs. Kinds that are switched off are not looked up, and draw
    nothing. -/
def ofBundle {α : Type} (story : Story) (channels : Channels) (currentScene : String) (b : Bundle)
    (s : Stage α) : Resolution × Stage α :=
  let d := story.settings.directives
  let t := story.tables
  let (figures, s) := if channels.figure then chooseFigures d t b.poses s else ([], s)
  ({ speaker := speakerOf d t b
     figures := figures
     background :=
      if channels.background then b.background.bind (t.background.lookup? d.background.strict)
      else none
     bgm := if channels.music then b.bgm.bind (t.bgm.lookup? d.bgm.strict) else none
     scene :=
      if channels.scene then b.scene.bind (t.scene.lookup? d.scene.strict currentScene)
      else none }, s)

/-! ## Acting -/

variable {α : Type} [Coordinate α]

/-- A page: the figures, then the words. -/
def pageAct (r : Resolution) (channels : Channels) (reply page : String) : Act α :=
  Act.inOrder [
    Act.when channels.figure (Stage.figures (r.figures.map (·.1)) (r.figures.map (·.2))),
    Act.when channels.dialogue (Act.single (Stage.say r.speaker reply page))]

/-- The pages of a paragraph. -/
def pagesAct (r : Resolution) (channels : Channels) (reply : String) :
    Except Fault (List String) → Act α
  | .error fault => Act.stopped fault
  | .ok pages => Act.inOrder (pages.map (r.pageAct channels reply))

/-- A whole paragraph, with its pages. -/
def act (r : Resolution) (channels : Channels) (reply : String)
    (pages : Except Fault (List String)) : Act α :=
  Act.inOrder [
    Act.silent Stage.beginSentence,
    Act.when channels.music (Act.optional (Stage.bgm r.bgm)),
    Act.when channels.background (Act.optional (Stage.background r.background)),
    r.pagesAct channels reply pages,
    Act.when channels.scene (Act.optional (Stage.scene r.scene))]

end Resolution

end Dramaturg
