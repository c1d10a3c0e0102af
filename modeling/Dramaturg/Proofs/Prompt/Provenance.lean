import Dramaturg.Prompt.Assembly
import Dramaturg.Proofs.Row
import Mathlib.Data.List.Sort

set_option autoImplicit false

/-! # Where the messages of a prompt come from

A message does not show whether it was said or is lore. `Prompt.pieces` assembles a prompt out of
pieces that know where they come from, and `assemble_eq_pieces` says that its messages are those of
`Prompt.assemble`, which therefore never fails. An active entry is known by its place in the order
of activation, since two entries may have the same content. -/

namespace Dramaturg

namespace Prompt

/-- An active entry with its place in the order of activation. -/
abbrev Activated : Type := Lore × Nat

/-- A message with where it comes from. -/
inductive Piece where
  | fixed (message : Message)
  | character (message : Message)
  | history (message : Message)
  | lore (entry : Activated)

namespace Piece

/-- The message itself. That of an entry has its role and its content. -/
def message : Piece → Message
  | .fixed m => m
  | .character m => m
  | .history m => m
  | .lore e => ⟨e.1.role, e.1.content⟩

/-- The entry that a piece comes from. -/
def lore? : Piece → Option Activated
  | .lore e => some e
  | _ => none

end Piece

/-- The entries among some pieces, in order. -/
def loreOf (pieces : List Piece) : List Activated := pieces.filterMap Piece.lore?

@[simp] theorem loreOf_append (ps qs : List Piece) : loreOf (ps ++ qs) = loreOf ps ++ loreOf qs :=
  List.filterMap_append

@[simp] theorem loreOf_cons_lore (e : Activated) (ps : List Piece) :
    loreOf (.lore e :: ps) = e :: loreOf ps := rfl

@[simp] theorem loreOf_map_lore (es : List Activated) : loreOf (es.map .lore) = es := by
  induction es with
  | nil => rfl
  | cons e es ih => simp [ih]

@[simp] theorem loreOf_map_character (ms : List Message) : loreOf (ms.map .character) = [] := by
  induction ms with
  | nil => rfl
  | cons m ms ih => exact ih

@[simp] theorem loreOf_map_history (ms : List Message) : loreOf (ms.map .history) = [] := by
  induction ms with
  | nil => rfl
  | cons m ms ih => exact ih

/-! ## Assembling pieces -/

/-- The active entries in the order of the prompt. -/
def ranked (lore : List Lore) : List Activated := lore.zipIdx.mergeSort (List.zipIdxLE loreLE)

/-- The entries of a position. -/
def entriesAt (position : LorePosition) (es : List Activated) : List Activated :=
  es.filter fun e => e.1.position == position

/-- Puts a piece into a window so that `depth` pieces follow it, or all if there are fewer. -/
def putAbove (piece : Piece) (depth : Nat) (window : List Piece) : List Piece :=
  window.take (window.length - depth) ++ piece :: window.drop (window.length - depth)

/-- Puts anchored entries into a window, one after the other. -/
def weave : List Activated → List Piece → List Piece
  | [], window => window
  | e :: rest, window => weave rest (putAbove (.lore e) e.1.depth window)

/-- The pieces of a prompt. -/
def pieces (input : PromptInput) : List Piece :=
  let lore := ranked input.lore
  [.fixed (.system input.front), .fixed (.system input.format)]
    ++ (entriesAt .beforeCharacters lore).map .lore
    ++ input.characters.map .character
    ++ (entriesAt .afterCharacters lore).map .lore
    ++ weave (entriesAt .anchored lore) (input.history.map .history)
    ++ [.fixed (.user input.utterance), .fixed (.user input.back)]

/-! ## Agreement with the assembly of messages -/

theorem map_fst_ranked (lore : List Lore) : (ranked lore).map (·.1) = sortLore lore :=
  List.mergeSort_zipIdx

theorem map_fst_entriesAt (position : LorePosition) (es : List Activated) :
    (entriesAt position es).map (·.1) = (es.map (·.1)).filter fun e => e.position == position := by
  rw [List.filter_map]
  rfl

theorem map_message_entriesAt (position : LorePosition) (es : List Activated) :
    ((entriesAt position es).map Piece.lore).map Piece.message
      = messagesAt position (es.map (·.1)) := by
  rw [messagesAt, ← map_fst_entriesAt, List.map_map, List.map_map]
  rfl

/-- A depth that is cut to the length of the list is never out of range. -/
theorem insertFromBack_min (messages : List Message) (message : Message) (depth : Nat) :
    insertFromBack messages message (min depth messages.length) =
      .ok (messages.take (messages.length - depth) ++
        message :: messages.drop (messages.length - depth)) := by
  have hplace : messages.length - min depth messages.length = messages.length - depth := by omega
  rw [insertFromBack, if_pos (Nat.min_le_right _ _), hplace,
    Row.insertIdx_eq_take_append_drop _ _ (Nat.sub_le _ _)]

theorem anchor_eq_weave (es : List Activated) (window : List Piece) :
    anchor (es.map (·.1)) (window.map Piece.message) = .ok ((weave es window).map Piece.message) := by
  induction es generalizing window with
  | nil => rfl
  | cons e rest ih =>
    have hstep := insertFromBack_min (window.map Piece.message) e.1.message e.1.depth
    have hwindow := ih (putAbove (.lore e) e.1.depth window)
    simp only [putAbove, List.map_append, List.map_cons, List.map_take, List.map_drop] at hwindow
    rw [List.length_map] at hstep
    simp only [List.map_cons, anchor, weave, List.length_map, hstep]
    exact hwindow

/-- **The messages of a prompt are those of its pieces**, and assembling them never fails. -/
theorem assemble_eq_pieces (input : PromptInput) :
    assemble input = .ok ((pieces input).map Piece.message) := by
  have hanchor : anchor ((sortLore input.lore).filter fun e => e.position == .anchored) input.history
      = .ok ((weave (entriesAt .anchored (ranked input.lore))
          (input.history.map .history)).map Piece.message) := by
    rw [← anchor_eq_weave, map_fst_entriesAt, map_fst_ranked, List.map_map]
    congr 1
    exact (List.map_id _).symm
  have hcharacters : (input.characters.map Piece.character).map Piece.message = input.characters := by
    rw [List.map_map]
    exact List.map_id _
  unfold assemble
  simp only [hanchor]
  simp only [pieces, List.map_append, map_message_entriesAt, map_fst_ranked, hcharacters]
  rfl

end Prompt

end Dramaturg
