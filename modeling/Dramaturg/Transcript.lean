import Dramaturg.Chat.Request

set_option autoImplicit false

/-! # Transcripts

The host notes every line it shows. A line that came from a model also names the paragraph that it
is a page of, and holds the whole reply. -/

namespace Dramaturg

/-- A line that was shown. -/
structure TranscriptEntry where
  speakerName : String := ""
  shownText : String := ""
  paragraphId : Option String := none
  /-- The reply of which the line is a page. -/
  fullReply : String := ""
deriving DecidableEq

namespace TranscriptEntry

/-- A line of the script. -/
def scripted (speaker text : String) : TranscriptEntry :=
  { speakerName := speaker, shownText := text }

/-- A line out of a reply. -/
def generated (speaker text paragraph reply : String) : TranscriptEntry :=
  ⟨speaker, text, some paragraph, reply⟩

/-- The paragraph that a line belongs to; an empty name is none. -/
def paragraph? (e : TranscriptEntry) : Option String :=
  e.paragraphId.filter (!·.isEmpty)

def toJson (e : TranscriptEntry) : Json :=
  .object ([("speakerName", .string e.speakerName), ("shownText", .string e.shownText)]
    ++ Json.optionalMember "paragraphId" Json.string e.paragraphId
    ++ [("fullAiText", .string e.fullReply)])

/-- The names of the members of a line. -/
def memberNames : List String := ["speakerName", "shownText", "paragraphId", "fullAiText"]

def ofJson? (j : Json) : Option TranscriptEntry := do
  let members ← j.record? memberNames 0
  return ⟨← Json.withDefault? members "speakerName" "" Json.asString?,
    ← Json.withDefault? members "shownText" "" Json.asString?,
    ← Json.optional? members "paragraphId" Json.asString?,
    ← Json.withDefault? members "fullAiText" "" Json.asString?⟩

/-- What a line looks like in a text. -/
def shape : Json.Shape := .record (memberNames.map fun name => (name, .any))

/-- Reads a transcript, a list of lines. -/
def listOfText? (text : String) : Option (List TranscriptEntry) :=
  (Json.ofTextAs? (.list shape) text).bind (Json.asList? ofJson?)

end TranscriptEntry

end Dramaturg
