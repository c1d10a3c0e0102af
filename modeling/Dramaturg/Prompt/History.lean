import Dramaturg.Chat.Message
import Dramaturg.Fault
import Dramaturg.Settings.Basic
import Dramaturg.Transcript

set_option autoImplicit false

/-! # The history window

The transcript holds a line for every page that was shown; a prompt holds one message for every
reply. Lines are read from the newest to the oldest, and a line of the paragraph that was met last
is skipped, so that of the pages of a reply only the newest counts, and it stands for the whole
reply. -/

namespace Dramaturg

/-- Turns lines into messages, and remembers the paragraph met last. -/
structure Compactor where
  userName : String
  waitingInfo : String
  /-- The paragraph of the reply that was met last. -/
  lastParagraph : Option String := none
deriving DecidableEq

namespace Compactor

/-- The name under which the host shows what is not for the model. -/
def debugSpeaker : String := "debuggerInfo"

/-- The compactor of a story, before it has met a reply. -/
def ofSettings (s : Settings) : Compactor := ⟨s.userName, s.waitingInfo, none⟩

/-- Whether a line gives a message. -/
def qualifies (c : Compactor) (e : TranscriptEntry) : Bool :=
  !(e.paragraph?.isSome && e.paragraph? == c.lastParagraph) &&
    !(e.shownText.isEmpty || e.shownText == c.waitingInfo || e.speakerName == debugSpeaker)

/-- The message of a line: the player's words, the whole reply, or a line of the script. -/
def message (c : Compactor) (e : TranscriptEntry) : Message :=
  if e.speakerName = c.userName then .user e.shownText
  else
    match e.paragraph? with
    | some _ => .assistant e.fullReply
    | none => .system (e.speakerName ++ ":" ++ e.shownText)

/-- The compactor after a line that gave a message. -/
def after (c : Compactor) (e : TranscriptEntry) : Compactor :=
  if e.speakerName = c.userName then c
  else
    match e.paragraph? with
    | some id => { c with lastParagraph := some id }
    | none => c

/-- The first `n` messages of lines that are read from the newest to the oldest. -/
def collect : Nat → List TranscriptEntry → Compactor → List Message × Compactor
  | 0, _, c => ([], c)
  | _ + 1, [], c => ([], c)
  | n + 1, e :: older, c =>
    if c.qualifies e then
      let (messages, c') := collect n older (c.after e)
      (c.message e :: messages, c')
    else collect (n + 1) older c

/-- How many bytes a message takes in a list. -/
def messageSize : Nat := 32

/-- The most bytes that a list can have. -/
def listLimit : Nat := Number.twoTo 63 - 1

/-- The last `n` messages of a transcript, oldest first. Room for all `n` is taken beforehand. -/
def recent (c : Compactor) (transcript : List TranscriptEntry) (n : Nat) :
    Except Fault (List Message × Compactor) :=
  if listLimit < n * messageSize then .error .historyTooLong
  else
    let (messages, c') := collect n transcript.reverse c
    .ok (messages.reverse, c')

end Compactor

end Dramaturg
