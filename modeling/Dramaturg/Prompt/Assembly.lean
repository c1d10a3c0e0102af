import Dramaturg.Chat.Failure
import Dramaturg.Lore.Entry

set_option autoImplicit false

/-! # Assembling a prompt

A prompt is the list of messages that a model is asked with: the fixed parts, the characters, the
history and the active lore. Lore is sorted by position, then depth with the deepest first, then
order; entries that agree in all three keep the order of their activation. Anchored entries are put
into the history one after the other, each so that `depth` messages follow it, or as many as there
are. -/

namespace Dramaturg

/-- What a prompt is assembled from. -/
structure PromptInput where
  front : String
  format : String
  characters : List Message
  /-- The history, oldest message first. -/
  history : List Message
  /-- The active lore, in the order of activation. -/
  lore : List Lore
  utterance : String
  back : String

namespace Prompt

/-- Whether an entry may stand before another. -/
def loreLE (a b : Lore) : Bool :=
  let pa := a.position.number
  let pb := b.position.number
  decide (pa < pb) ||
    (pa == pb && (decide (b.depth < a.depth) || (a.depth == b.depth && decide (a.order ≤ b.order))))

/-- The entries in the order of the prompt. -/
def sortLore (lore : List Lore) : List Lore :=
  lore.mergeSort loreLE

/-- Puts a message into a list so that exactly `fromBack` messages follow it. -/
def insertFromBack (messages : List Message) (message : Message) (fromBack : Nat) :
    Except Failure (List Message) :=
  if fromBack ≤ messages.length then
    .ok (messages.insertIdx (messages.length - fromBack) message)
  else
    .error (.internal ("insert position " ++ toString fromBack
      ++ " from the back is out of range for " ++ toString messages.length ++ " messages"))

/-- The entries of a position, as messages. -/
def messagesAt (position : LorePosition) (lore : List Lore) : List Message :=
  (lore.filter fun e => e.position == position).map Lore.message

/-- Puts anchored entries into a history, one after the other. -/
def anchor : List Lore → List Message → Except Failure (List Message)
  | [], history => .ok history
  | e :: rest, history => do
    anchor rest (← insertFromBack history e.message (min e.depth history.length))

/-- The messages of a prompt. -/
def assemble (input : PromptInput) : Except Failure (List Message) := do
  let lore := sortLore input.lore
  let history ← anchor (lore.filter fun e => e.position == .anchored) input.history
  return [.system input.front, .system input.format]
    ++ messagesAt .beforeCharacters lore ++ input.characters ++ messagesAt .afterCharacters lore
    ++ history ++ [.user input.utterance, .user input.back]

end Prompt

end Dramaturg
