import Dramaturg.Proofs.Prompt.LoreOrder

set_option autoImplicit false

/-! # The shape of a prompt

A prompt is a frame of fixed messages around the characters, with lore on both sides of them, and
around one block in which the anchored entries are woven into the history. In this block an entry of
depth `d` is followed by `d` messages of the history, or by all of them if there are fewer.

Depths count whatever is in the window, and the window grows with each entry. That the count of
history messages comes out right all the same rests on the deepest entry being put in first: what
follows an entry of depth `d` is never touched by one that is deeper, so the last `d` pieces are
still pure history when its turn comes (`historyOf_drop_putAbove`). An entry that is put in later
leaves the messages behind an earlier one as they are (`Settled.insert`). -/

namespace Dramaturg

namespace Prompt

/-! ## The history in a window -/

/-- The message of the history that a piece is. -/
def Piece.history? : Piece → Option Message
  | .history m => some m
  | _ => none

/-- The messages of the history among some pieces, in order. -/
def historyOf (pieces : List Piece) : List Message := pieces.filterMap Piece.history?

@[simp] theorem historyOf_append (ps qs : List Piece) :
    historyOf (ps ++ qs) = historyOf ps ++ historyOf qs :=
  List.filterMap_append

@[simp] theorem historyOf_cons_lore (e : Activated) (ps : List Piece) :
    historyOf (.lore e :: ps) = historyOf ps := rfl

@[simp] theorem historyOf_map_history (ms : List Message) : historyOf (ms.map .history) = ms := by
  induction ms with
  | nil => rfl
  | cons m ms ih =>
    have hfirst : historyOf ((m :: ms).map .history) = m :: historyOf (ms.map .history) := rfl
    rw [hfirst, ih]

theorem historyOf_putAbove (e : Activated) (depth : Nat) (window : List Piece) :
    historyOf (putAbove (.lore e) depth window) = historyOf window := by
  rw [putAbove, historyOf_append, historyOf_cons_lore, ← historyOf_append, List.take_append_drop]

theorem historyOf_weave (es : List Activated) (window : List Piece) :
    historyOf (weave es window) = historyOf window := by
  induction es generalizing window with
  | nil => rfl
  | cons e rest ih => rw [weave, ih, historyOf_putAbove]

/-- An entry changes nothing of the history in the last `n` pieces, if it is put above them or in
    front of everything. -/
theorem historyOf_drop_putAbove (e : Activated) {n depth : Nat} (hn : n ≤ depth)
    (window : List Piece) :
    historyOf ((putAbove (.lore e) depth window).drop
        ((putAbove (.lore e) depth window).length - n))
      = historyOf (window.drop (window.length - n)) := by
  rw [length_putAbove]
  by_cases hlength : n ≤ window.length
  · have hplace : window.length + 1 - n
        = (window.take (window.length - depth)).length + (min depth window.length - n + 1) := by
      rw [List.length_take]
      omega
    have hbelow : window.length - depth + (min depth window.length - n) = window.length - n := by
      omega
    rw [hplace, putAbove, List.drop_length_add_append, List.drop_succ_cons, List.drop_drop, hbelow]
  · -- all of the window is meant, before and after
    have hbefore : window.length - n = 0 := by omega
    have hafter : window.length + 1 - n = 0 := by omega
    rw [hbefore, hafter, List.drop_zero, List.drop_zero, historyOf_putAbove]

/-! ## The entries in a window -/

theorem loreOf_putAbove_perm (e : Activated) (depth : Nat) (window : List Piece) :
    (loreOf (putAbove (.lore e) depth window)).Perm (e :: loreOf window) := by
  rw [putAbove, loreOf_append, loreOf_cons_lore]
  refine List.perm_middle.trans ?_
  rw [← loreOf_append, List.take_append_drop]

theorem loreOf_weave_perm (es : List Activated) (window : List Piece) :
    (loreOf (weave es window)).Perm (es ++ loreOf window) := by
  induction es generalizing window with
  | nil => exact List.Perm.refl _
  | cons e rest ih =>
    have hstep := (loreOf_putAbove_perm e e.1.depth window).append_left rest
    exact ((ih _).trans hstep).trans List.perm_middle

theorem mem_putAbove {p piece : Piece} {depth : Nat} {window : List Piece}
    (h : p ∈ putAbove piece depth window) : p = piece ∨ p ∈ window := by
  rw [putAbove] at h
  rcases List.mem_append.1 h with h | h
  · exact .inr (List.mem_of_mem_take h)
  · rcases List.mem_cons.1 h with h | h
    · exact .inl h
    · exact .inr (List.mem_of_mem_drop h)

theorem mem_weave {p : Piece} {es : List Activated} {window : List Piece}
    (h : p ∈ weave es window) : p ∈ window ∨ ∃ e ∈ es, p = .lore e := by
  induction es generalizing window with
  | nil => exact .inl h
  | cons e rest ih =>
    rcases ih h with hp | ⟨e', he', hp⟩
    · rcases mem_putAbove hp with hp | hp
      · exact .inr ⟨e, List.mem_cons_self, hp⟩
      · exact .inl hp
    · exact .inr ⟨e', List.mem_cons_of_mem e he', hp⟩

/-! ## What follows an entry -/

/-- Each entry of a window is followed by as many messages of the history as its depth says, or by
    all `n` of them. -/
def Settled (n : Nat) (window : List Piece) : Prop :=
  ∀ above e below, window = above ++ .lore e :: below →
    (historyOf below).length = min e.1.depth n

theorem settled_map_history (n : Nat) (ms : List Message) : Settled n (ms.map .history) := by
  intro above e below hsplit
  have hmem : Piece.lore e ∈ ms.map Piece.history := by
    rw [hsplit]
    exact List.mem_append_right _ List.mem_cons_self
  simp at hmem

/-- An entry leaves the others settled, whatever its place, and is so itself if its place is
    right. -/
theorem Settled.insert {n : Nat} {above below : List Piece} {e : Activated}
    (hsettled : Settled n (above ++ below))
    (hplace : (historyOf below).length = min e.1.depth n) :
    Settled n (above ++ .lore e :: below) := by
  intro above' e' below' hsplit
  rcases List.append_eq_append_iff.1 hsplit with
    ⟨between, habove, hbelow⟩ | ⟨between, habove, hbelow⟩
  · cases between with
    | nil =>
      obtain ⟨he, rfl⟩ := List.cons.inj hbelow
      obtain rfl := Piece.lore.inj he
      exact hplace
    | cons p between =>
      -- the other entry is below the new one
      obtain ⟨-, rfl⟩ := List.cons.inj hbelow
      exact hsettled (above ++ between) e' below' (by simp)
  · cases between with
    | nil =>
      obtain ⟨he, rfl⟩ := List.cons.inj hbelow
      obtain rfl := Piece.lore.inj he
      exact hplace
    | cons p between =>
      -- the other entry is above the new one, which is no message of the history
      rw [List.cons_append] at hbelow
      obtain ⟨rfl, rfl⟩ := List.cons.inj hbelow
      have hothers := hsettled above' e' (between ++ below) (by simp [habove])
      rw [historyOf_append] at hothers
      rw [historyOf_append, historyOf_cons_lore]
      exact hothers

/-- Entries with the deepest first come to stand where their depths say, if the pieces behind each
    place are pure history. -/
theorem settled_weave {n : Nat} {es : List Activated} {window : List Piece}
    (hdepths : es.Pairwise fun a b => b.1.depth ≤ a.1.depth) (hsettled : Settled n window)
    (hplaces : ∀ e ∈ es,
      (historyOf (window.drop (window.length - e.1.depth))).length = min e.1.depth n) :
    Settled n (weave es window) := by
  induction es generalizing window with
  | nil => exact hsettled
  | cons e rest ih =>
    obtain ⟨hfirst, hrest⟩ := List.pairwise_cons.1 hdepths
    rw [weave]
    refine ih hrest ?_ ?_
    · refine Settled.insert ?_ (hplaces e List.mem_cons_self)
      rwa [List.take_append_drop]
    · intro e' he'
      rw [historyOf_drop_putAbove e (hfirst e' he')]
      exact hplaces e' (List.mem_cons_of_mem e he')

/-! ## The block of the history -/

/-- A block in which entries are interleaved with a history: it holds the messages of the history in
    their order, each of the entries once and nothing else, and each entry stands where its depth
    says. -/
structure Interleaves (history : List Message) (entries : List Activated) (block : List Piece) :
    Prop where
  historyOf_eq : historyOf block = history
  loreOf_perm : (loreOf block).Perm entries
  history_or_lore : ∀ p ∈ block, (∃ m, p = .history m) ∨ ∃ e, p = .lore e
  settled : Settled history.length block

theorem interleaves_weave (history : List Message) {es : List Activated}
    (hdepths : es.Pairwise fun a b => b.1.depth ≤ a.1.depth) :
    Interleaves history es (weave es (history.map .history)) where
  historyOf_eq := by rw [historyOf_weave, historyOf_map_history]
  loreOf_perm := by
    have hperm := loreOf_weave_perm es (history.map .history)
    rwa [loreOf_map_history, List.append_nil] at hperm
  history_or_lore := by
    intro p hp
    rcases mem_weave hp with hp | ⟨e, -, hp⟩
    · obtain ⟨m, -, hm⟩ := List.mem_map.1 hp
      exact .inl ⟨m, hm.symm⟩
    · exact .inr ⟨e, hp⟩
  settled := by
    refine settled_weave hdepths (settled_map_history _ _) ?_
    intro e _
    rw [← List.map_drop, historyOf_map_history, List.length_drop, List.length_map]
    omega

/-! ## The frame -/

/-- Whether one entry stands before another of the same position: the deeper one, then the one of
    the smaller order, then the one that was activated first. -/
def Outranks (a b : Activated) : Prop :=
  b.1.depth < a.1.depth ∨
    a.1.depth = b.1.depth ∧ (a.1.order < b.1.order ∨ a.1.order = b.1.order ∧ a.2 < b.2)

/-- Among entries of one position, ranks go by depth, order and activation. -/
theorem outranks_of_pairwise {es : List Activated} (h : es.Pairwise Precedes)
    (position : LorePosition) : (entriesAt position es).Pairwise Outranks := by
  refine (entriesAt_pairwise h position).imp_of_mem ?_
  intro a b ha hb hab
  have hposition : a.1.position = b.1.position :=
    (position_of_mem_entriesAt ha).trans (position_of_mem_entriesAt hb).symm
  unfold Precedes at hab
  rw [hposition] at hab
  rcases hab with hab | ⟨-, hab⟩
  · exact absurd hab (Nat.lt_irrefl _)
  · exact hab

/-- **Every prompt has the same shape.** The lore before and after the characters is that of its
    position, each entry once, by its rank, and with its own role and content; the history is
    interleaved with the anchored entries. -/
theorem exists_assemble_eq_frame (input : PromptInput) :
    ∃ before after : List Activated, ∃ block : List Piece,
      assemble input = .ok
        ([⟨.system, input.front⟩, ⟨.system, input.format⟩]
          ++ before.map (fun e => Message.mk e.1.role e.1.content) ++ input.characters
          ++ after.map (fun e => Message.mk e.1.role e.1.content) ++ block.map Piece.message
          ++ [⟨.user, input.utterance⟩, ⟨.user, input.back⟩]) ∧
      (before.Perm (entriesAt .beforeCharacters input.lore.zipIdx) ∧ before.Pairwise Outranks) ∧
      (after.Perm (entriesAt .afterCharacters input.lore.zipIdx) ∧ after.Pairwise Outranks) ∧
      Interleaves input.history (entriesAt .anchored input.lore.zipIdx) block := by
  have hpairwise := ranked_pairwise input.lore
  have hperm : ∀ position,
      (entriesAt position (ranked input.lore)).Perm (entriesAt position input.lore.zipIdx) :=
    fun position => (ranked_perm input.lore).filter _
  have hblock := interleaves_weave input.history (depths_of_pairwise hpairwise .anchored)
  refine ⟨entriesAt .beforeCharacters (ranked input.lore),
    entriesAt .afterCharacters (ranked input.lore),
    weave (entriesAt .anchored (ranked input.lore)) (input.history.map .history), ?_,
    ⟨hperm _, outranks_of_pairwise hpairwise _⟩, ⟨hperm _, outranks_of_pairwise hpairwise _⟩,
    { hblock with loreOf_perm := hblock.loreOf_perm.trans (hperm _) }⟩
  have hlore : ∀ es : List Activated,
      (es.map Piece.lore).map Piece.message = es.map fun e => Message.mk e.1.role e.1.content := by
    intro es
    rw [List.map_map]
    rfl
  have hcharacters : (input.characters.map Piece.character).map Piece.message
      = input.characters := by
    rw [List.map_map]
    exact List.map_id _
  rw [assemble_eq_pieces]
  simp only [pieces, List.map_append, hlore, hcharacters]
  rfl

/-- A prompt with lore in all three positions. Of the anchored entries one reaches beyond the
    history. -/
def crossroads : PromptInput where
  front := "front"
  format := "format"
  characters := [.system "Alice is a guide."]
  history := [.user "Hello?", .assistant "Hi!", .user "Where are we?"]
  lore :=
    [{ content := "signpost", keys := [], depth := 1, role := .user },
      { content := "inn", keys := [], position := .afterCharacters, role := .assistant },
      { content := "mill", keys := [], position := .beforeCharacters, depth := 2 },
      { content := "bridge", keys := [], position := .beforeCharacters, depth := 6,
        role := .assistant },
      { content := "fog", keys := [], depth := 9 }]
  utterance := "hello"
  back := "back"

theorem assemble_crossroads : assemble crossroads = .ok
    [⟨.system, "front"⟩, ⟨.system, "format"⟩, ⟨.assistant, "bridge"⟩, ⟨.system, "mill"⟩,
      ⟨.system, "Alice is a guide."⟩, ⟨.assistant, "inn"⟩, ⟨.system, "fog"⟩, ⟨.user, "Hello?"⟩,
      ⟨.assistant, "Hi!"⟩, ⟨.user, "signpost"⟩, ⟨.user, "Where are we?"⟩, ⟨.user, "hello"⟩,
      ⟨.user, "back"⟩] := by
  -- The sort recurses on the halves of a list, which `rfl` alone does not follow.
  simp [assemble, sortLore, crossroads, List.mergeSort, List.MergeSort.Internal.splitInTwo, loreLE,
    LorePosition.number]
  rfl

/-- The frame of that prompt: the deeper of the two entries before the characters comes first, and
    in the history the entries stand before three messages and before one. -/
theorem exists_frame_crossroads :
    ∃ before after : List Activated, ∃ block : List Piece,
      assemble crossroads = .ok
        ([⟨.system, "front"⟩, ⟨.system, "format"⟩]
          ++ before.map (fun e => Message.mk e.1.role e.1.content)
          ++ [⟨.system, "Alice is a guide."⟩]
          ++ after.map (fun e => Message.mk e.1.role e.1.content) ++ block.map Piece.message
          ++ [⟨.user, "hello"⟩, ⟨.user, "back"⟩]) ∧
      before.map (fun e => (e.1.role, e.1.content)) = [(.assistant, "bridge"), (.system, "mill")] ∧
      after.map (fun e => (e.1.role, e.1.content)) = [(.assistant, "inn")] ∧
      block.map Piece.message
        = [⟨.system, "fog"⟩, ⟨.user, "Hello?"⟩, ⟨.assistant, "Hi!"⟩, ⟨.user, "signpost"⟩,
          ⟨.user, "Where are we?"⟩] := by
  obtain ⟨before, after, block, hframe, ⟨hbefore, -⟩, ⟨hafter, -⟩, -⟩ :=
    exists_assemble_eq_frame crossroads
  obtain ⟨bridge, mill, rfl⟩ := List.length_eq_two.1 hbefore.length_eq
  obtain ⟨inn, rfl⟩ := List.length_eq_one_iff.1 hafter.length_eq
  refine ⟨_, _, block, hframe, ?_⟩
  have hmessages := Except.ok.inj (hframe.symm.trans assemble_crossroads)
  simp only [crossroads, Message.system, List.map_cons, List.map_nil, List.cons_append,
    List.nil_append, List.cons.injEq, Message.mk.injEq, true_and] at hmessages
  obtain ⟨hbridge, hmill, hinn, hrest⟩ := hmessages
  have hblock : block.map Piece.message ++ [⟨.user, "hello"⟩, ⟨.user, "back"⟩]
      = [⟨.system, "fog"⟩, ⟨.user, "Hello?"⟩, ⟨.assistant, "Hi!"⟩, ⟨.user, "signpost"⟩,
          ⟨.user, "Where are we?"⟩] ++ [⟨.user, "hello"⟩, ⟨.user, "back"⟩] := hrest
  simp only [List.map_cons, List.map_nil, hbridge, hmill, hinn, List.append_cancel_right hblock,
    and_self]

end Prompt

end Dramaturg
