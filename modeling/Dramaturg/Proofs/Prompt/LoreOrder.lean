import Dramaturg.Proofs.Prompt.Provenance

set_option autoImplicit false

/-! # The order of lore in a prompt

Entries are ranked by position, then depth with the deepest first, then order, then activation. The
lore before and after the characters stands in this order. Anchored entries are put into the history
one after the other, and each depth is cut to a window that the entries before it have already made
longer. Two entries that reach beyond the history are therefore both put at its front, and the one
that ranks later comes first. This is all that can go wrong: the lore of a prompt stands in the order
of its ranks if and only if at most one anchored entry is deeper than the history is long. -/

namespace Dramaturg

namespace Prompt

/-! ## Ranks -/

/-- Whether one entry ranks before another. -/
def Precedes (a b : Activated) : Prop :=
  a.1.position.number < b.1.position.number ∨
    a.1.position.number = b.1.position.number ∧
      (b.1.depth < a.1.depth ∨
        a.1.depth = b.1.depth ∧ (a.1.order < b.1.order ∨ a.1.order = b.1.order ∧ a.2 < b.2))

theorem Precedes.asymm {a b : Activated} (hab : Precedes a b) : ¬ Precedes b a := by
  unfold Precedes at *
  omega

theorem loreLE_iff (a b : Lore) :
    loreLE a b = true ↔
      a.position.number < b.position.number ∨
        a.position.number = b.position.number ∧
          (b.depth < a.depth ∨ a.depth = b.depth ∧ a.order ≤ b.order) := by
  simp [loreLE]

theorem loreLE_trans (a b c : Lore) (hab : loreLE a b = true) (hbc : loreLE b c = true) :
    loreLE a c = true := by
  rw [loreLE_iff] at *
  omega

theorem loreLE_total (a b : Lore) : (loreLE a b || loreLE b a) = true := by
  rw [Bool.or_eq_true, loreLE_iff, loreLE_iff]
  omega

theorem precedes_of_zipIdxLE {a b : Activated} (hle : List.zipIdxLE loreLE a b = true)
    (hne : a.2 ≠ b.2) : Precedes a b := by
  unfold List.zipIdxLE at hle
  by_cases hab : loreLE a.1 b.1 = true
  · by_cases hba : loreLE b.1 a.1 = true
    · rw [if_pos hab, if_pos hba, decide_eq_true_eq] at hle
      rw [loreLE_iff] at hab hba
      unfold Precedes
      omega
    · rw [loreLE_iff] at hab hba
      unfold Precedes
      omega
  · rw [if_neg hab] at hle
    cases hle

theorem ranked_perm (lore : List Lore) : (ranked lore).Perm lore.zipIdx :=
  List.mergeSort_perm _ _

theorem ranked_pairwise (lore : List Lore) : (ranked lore).Pairwise Precedes := by
  have hle : (ranked lore).Pairwise fun a b => List.zipIdxLE loreLE a b = true :=
    List.pairwise_mergeSort (List.zipIdxLE_trans loreLE_trans) (List.zipIdxLE_total loreLE_total) _
  have hplaces : ((ranked lore).map (·.2)).Nodup := by
    rw [((ranked_perm lore).map _).nodup_iff, List.zipIdx_map_snd]
    exact List.nodup_range'
  have hne : (ranked lore).Pairwise fun a b => a.2 ≠ b.2 := List.pairwise_map.1 hplaces
  exact (hle.and hne).imp fun h => precedes_of_zipIdxLE h.1 h.2

/-! ## Positions -/

theorem entriesAt_perm (es : List Activated) :
    (entriesAt .beforeCharacters es ++ entriesAt .afterCharacters es ++ entriesAt .anchored es).Perm
      es := by
  induction es with
  | nil => exact List.Perm.nil
  | cons e es ih =>
    unfold entriesAt at *
    cases hposition : e.1.position with
    | beforeCharacters => simpa [hposition] using ih
    | afterCharacters =>
      simp only [List.filter_cons, hposition, List.append_assoc]
      exact List.perm_middle.trans ((List.append_assoc _ _ _ ▸ ih).cons e)
    | anchored =>
      simp only [List.filter_cons, hposition]
      exact List.perm_middle.trans (ih.cons e)

theorem position_of_mem_entriesAt {position : LorePosition} {es : List Activated} {e : Activated}
    (h : e ∈ entriesAt position es) : e.1.position = position := by
  simpa using (List.mem_filter.1 h).2

theorem entriesAt_pairwise {es : List Activated} (h : es.Pairwise Precedes)
    (position : LorePosition) : (entriesAt position es).Pairwise Precedes :=
  h.sublist List.filter_sublist

/-- Entries of a smaller position rank before those of a larger one. -/
theorem precedes_of_positions {p q : LorePosition} {es : List Activated} (hpq : p.number < q.number)
    {a b : Activated} (ha : a ∈ entriesAt p es) (hb : b ∈ entriesAt q es) : Precedes a b := by
  left
  rw [position_of_mem_entriesAt ha, position_of_mem_entriesAt hb]
  exact hpq

theorem ranked_eq_append (lore : List Lore) :
    entriesAt .beforeCharacters (ranked lore) ++ entriesAt .afterCharacters (ranked lore)
      ++ entriesAt .anchored (ranked lore) = ranked lore := by
  have hpairwise := ranked_pairwise lore
  -- The same entries stand in the order of their ranks in only one way.
  refine List.Perm.eq_of_pairwise ?_ ?_ hpairwise (entriesAt_perm _)
  · intro a b _ _ hab hba
    exact absurd hba hab.asymm
  · rw [List.pairwise_append, List.pairwise_append]
    refine ⟨⟨entriesAt_pairwise hpairwise _, entriesAt_pairwise hpairwise _, ?_⟩,
      entriesAt_pairwise hpairwise _, ?_⟩
    · intro a ha b hb
      exact precedes_of_positions (by decide) ha hb
    · intro a ha b hb
      rcases List.mem_append.1 ha with ha | ha
      · exact precedes_of_positions (by decide) ha hb
      · exact precedes_of_positions (by decide) ha hb

theorem loreOf_pieces (input : PromptInput) :
    loreOf (pieces input) =
      entriesAt .beforeCharacters (ranked input.lore) ++ entriesAt .afterCharacters (ranked input.lore)
        ++ loreOf (weave (entriesAt .anchored (ranked input.lore)) (input.history.map .history)) := by
  have hfront : loreOf [.fixed (.system input.front), .fixed (.system input.format)] = [] := rfl
  have hback : loreOf [.fixed (.user input.utterance), .fixed (.user input.back)] = [] := rfl
  simp only [pieces, loreOf_append, loreOf_map_lore, loreOf_map_character, hfront, hback,
    List.nil_append, List.append_nil]

/-! ## Weaving -/

/-- What is in a window stays in it, in its order. -/
theorem sublist_putAbove (piece : Piece) (depth : Nat) (window : List Piece) :
    window.Sublist (putAbove piece depth window) := by
  conv_lhs => rw [← List.take_append_drop (window.length - depth) window]
  exact (List.Sublist.refl _).append (List.sublist_cons_self _ _)

theorem sublist_weave (es : List Activated) (window : List Piece) :
    window.Sublist (weave es window) := by
  induction es generalizing window with
  | nil => exact List.Sublist.refl _
  | cons e rest ih => exact (sublist_putAbove _ _ window).trans (ih _)

theorem length_putAbove (piece : Piece) (depth : Nat) (window : List Piece) :
    (putAbove piece depth window).length = window.length + 1 := by
  simp only [putAbove, List.length_append, List.length_cons, List.length_take, List.length_drop]
  omega

/-- The last `n` pieces are those that they were, if the new one was put above them. -/
theorem drop_putAbove_suffix (piece : Piece) {depth n : Nat} {window : List Piece}
    (hdepth : n ≤ depth) (hlength : n ≤ window.length) :
    (putAbove piece depth window).drop ((putAbove piece depth window).length - n)
      <:+ window.drop (window.length - depth) := by
  refine List.suffix_of_suffix_length_le (List.drop_suffix _ _) ?_ ?_
  · exact (List.suffix_cons piece _).trans (List.suffix_append _ _)
  · simp only [List.length_drop, length_putAbove]
    omega

/-- An entry put above no other comes behind all that are there. -/
theorem loreOf_putAbove (e : Activated) (window : List Piece)
    (h : loreOf (window.drop (window.length - e.1.depth)) = []) :
    loreOf (putAbove (.lore e) e.1.depth window) = loreOf window ++ [e] := by
  have htake : loreOf (window.take (window.length - e.1.depth)) = loreOf window := by
    conv_rhs => rw [← List.take_append_drop (window.length - e.1.depth) window]
    rw [loreOf_append, h, List.append_nil]
  rw [putAbove, loreOf_append, loreOf_cons_lore, htake, h]

/-- Entries keep their order when none is deeper than the one before it, all but the first are
    within the window, and no entry is below the place of the first. -/
theorem loreOf_weave {es : List Activated} {window : List Piece}
    (hdepths : es.Pairwise fun a b => b.1.depth ≤ a.1.depth)
    (hwithin : ∀ e ∈ es.tail, e.1.depth ≤ window.length)
    (hbelow : ∀ e ∈ es.head?, loreOf (window.drop (window.length - e.1.depth)) = []) :
    loreOf (weave es window) = loreOf window ++ es := by
  induction es generalizing window with
  | nil => simp [weave]
  | cons e rest ih =>
    obtain ⟨hfirst, hrest⟩ := List.pairwise_cons.1 hdepths
    have hempty : loreOf (window.drop (window.length - e.1.depth)) = [] := hbelow e rfl
    rw [weave, ih hrest]
    · rw [loreOf_putAbove e window hempty, List.append_assoc]
      rfl
    · intro e' he'
      rw [length_putAbove]
      exact Nat.le_succ_of_le (hwithin e' (List.mem_of_mem_tail he'))
    · -- below the next entry there is only what was below this one
      intro e' he'
      have hmem : e' ∈ rest := List.mem_of_mem_head? he'
      obtain ⟨skipped, hskipped⟩ :=
        drop_putAbove_suffix (.lore e) (hfirst e' hmem) (hwithin e' hmem)
      rw [← hskipped, loreOf_append, List.append_eq_nil_iff] at hempty
      exact hempty.2

/-- Two entries that both reach beyond a window are put at its front, the second before the
    first. -/
theorem sublist_loreOf_weave {a b : Activated} {rest : List Activated} {window : List Piece}
    (ha : window.length < a.1.depth) (hb : window.length < b.1.depth) :
    [b, a].Sublist (loreOf (weave (a :: b :: rest) window)) := by
  have hfirst : putAbove (.lore a) a.1.depth window = .lore a :: window := by
    have hplace : window.length - a.1.depth = 0 := by omega
    simp [putAbove, hplace]
  have hsecond : putAbove (.lore b) b.1.depth (.lore a :: window) = .lore b :: .lore a :: window := by
    have hplace : (Piece.lore a :: window).length - b.1.depth = 0 := by
      rw [List.length_cons]
      omega
    simp only [putAbove, hplace, List.take_zero, List.drop_zero, List.nil_append]
  have hpair : [Piece.lore b, .lore a].Sublist (.lore b :: .lore a :: window) :=
    ((List.nil_sublist window).cons_cons _).cons_cons _
  rw [weave, weave, hfirst, hsecond]
  exact (hpair.trans (sublist_weave rest _)).filterMap Piece.lore?

/-- If entries keep their order in a window, none but the first reaches beyond it. -/
theorem tail_within_of_loreOf_weave {es : List Activated} {window : List Piece}
    (hranks : es.Pairwise Precedes) (hdepths : es.Pairwise fun a b => b.1.depth ≤ a.1.depth)
    (horder : loreOf (weave es window) = es) :
    ∀ e ∈ es.tail, e.1.depth ≤ window.length := by
  match es with
  | [] => simp
  | [_] => simp
  | a :: b :: rest =>
    obtain ⟨hab, -⟩ := List.pairwise_cons.1 hranks
    obtain ⟨hdeepest, hnext⟩ := List.pairwise_cons.1 hdepths
    obtain ⟨hb, -⟩ := List.pairwise_cons.1 hnext
    -- The second entry is the deepest but one. Beyond the window it would come before the first.
    have hsecond : b.1.depth ≤ window.length := by
      by_contra hdeep
      have ha := hdeepest b List.mem_cons_self
      have hpair : [b, a].Sublist (a :: b :: rest) := by
        conv_rhs => rw [← horder]
        exact sublist_loreOf_weave (by omega) (by omega)
      have hba : Precedes b a := by simpa using hranks.sublist hpair
      exact hba.asymm (hab b List.mem_cons_self)
    intro e he
    rcases List.mem_cons.1 he with rfl | he
    · exact hsecond
    · exact (hb e he).trans hsecond

/-! ## When the order is kept -/

/-- Whether an anchored entry reaches beyond a history of a length. -/
def reachesBeyond (length : Nat) (e : Lore) : Bool :=
  e.position == .anchored && decide (length < e.depth)

/-- Among entries with the deepest first, those beyond a length come first. -/
theorem length_filter_le_one_iff {es : List Activated} (length : Nat)
    (hdepths : es.Pairwise fun a b => b.1.depth ≤ a.1.depth) :
    (es.filter fun e => decide (length < e.1.depth)).length ≤ 1
      ↔ ∀ e ∈ es.tail, e.1.depth ≤ length := by
  cases es with
  | nil => simp
  | cons e rest =>
    obtain ⟨hfirst, -⟩ := List.pairwise_cons.1 hdepths
    by_cases he : length < e.1.depth
    · rw [List.filter_cons_of_pos (by simpa using he), List.length_cons, List.tail_cons]
      have hnone : (rest.filter fun e => decide (length < e.1.depth)).length + 1 ≤ 1
          ↔ rest.filter (fun e => decide (length < e.1.depth)) = [] := by
        rw [← List.length_eq_zero_iff]
        omega
      rw [hnone, List.filter_eq_nil_iff]
      simp
    · have hall : ∀ e' ∈ rest, e'.1.depth ≤ length := fun e' he' => by
        have := hfirst e' he'
        omega
      rw [List.filter_cons_of_neg (by simpa using he), List.filter_eq_nil_iff.2 (by simpa using hall)]
      simpa using hall

theorem length_filter_reachesBeyond (lore : List Lore) (length : Nat) :
    (lore.filter (reachesBeyond length)).length =
      ((entriesAt .anchored (ranked lore)).filter fun e => decide (length < e.1.depth)).length := by
  have hlore : lore = lore.zipIdx.map (·.1) := (List.zipIdx_map_fst 0 lore).symm
  conv_lhs => rw [hlore]
  rw [List.filter_map, List.length_map, entriesAt, List.filter_filter,
    ((ranked_perm lore).filter _).length_eq]
  congr 2
  funext e
  exact Bool.and_comm _ _

theorem depths_of_pairwise {es : List Activated} (h : es.Pairwise Precedes)
    (position : LorePosition) :
    (entriesAt position es).Pairwise fun a b => b.1.depth ≤ a.1.depth := by
  refine (entriesAt_pairwise h position).imp_of_mem ?_
  intro a b ha hb hab
  have hposition : a.1.position = b.1.position :=
    (position_of_mem_entriesAt ha).trans (position_of_mem_entriesAt hb).symm
  unfold Precedes at hab
  rw [hposition] at hab
  omega

/-- **Lore stands in the order of its ranks if and only if at most one anchored entry is deeper than
    the history is long.** The messages of a prompt are those of its pieces, and the ranks are those
    of the sorted lore. -/
theorem loreOf_pieces_eq_ranked_iff (input : PromptInput) :
    assemble input = .ok ((pieces input).map Piece.message) ∧
      (ranked input.lore).map (·.1) = sortLore input.lore ∧
      (ranked input.lore).Perm input.lore.zipIdx ∧
      (ranked input.lore).Pairwise Precedes ∧
      (loreOf (pieces input) = ranked input.lore
        ↔ (input.lore.filter (reachesBeyond input.history.length)).length ≤ 1) := by
  have hpairwise := ranked_pairwise input.lore
  have hdepths := depths_of_pairwise hpairwise .anchored
  refine ⟨assemble_eq_pieces input, map_fst_ranked _, ranked_perm _, hpairwise, ?_⟩
  -- Only anchored entries can be out of order.
  have hblock : loreOf (pieces input) = ranked input.lore ↔
      loreOf (weave (entriesAt .anchored (ranked input.lore)) (input.history.map .history))
        = entriesAt .anchored (ranked input.lore) := by
    rw [loreOf_pieces]
    constructor
    · intro h
      exact List.append_cancel_left (h.trans (ranked_eq_append _).symm)
    · intro h
      rw [h, ranked_eq_append]
  rw [hblock, length_filter_reachesBeyond, length_filter_le_one_iff _ hdepths]
  constructor
  · intro horder
    have hwithin := tail_within_of_loreOf_weave (entriesAt_pairwise hpairwise _) hdepths horder
    rwa [List.length_map] at hwithin
  · intro hwithin
    rw [loreOf_weave hdepths]
    · rw [loreOf_map_history, List.nil_append]
    · simpa using hwithin
    · intro e _
      rw [← List.map_drop, loreOf_map_history]

/-- A first turn, without a history, with two entries of equal depth. -/
def firstTurn : PromptInput where
  front := "front"
  format := "format"
  characters := []
  history := []
  lore :=
    [{ content := "first", keys := [], order := 1 },
      { content := "second", keys := [], order := 2 }]
  utterance := "hello"
  back := "back"

/-- In a first turn two anchored entries of equal depth come in the wrong order. -/
theorem assemble_firstTurn_reversed :
    (sortLore firstTurn.lore).map Lore.message = [.system "first", .system "second"] ∧
      assemble firstTurn = .ok [.system "front", .system "format", .system "second",
        .system "first", .user "hello", .user "back"] := by
  have hsorted : sortLore firstTurn.lore = firstTurn.lore :=
    List.mergeSort_of_pairwise (by decide)
  constructor
  · rw [hsorted]
    rfl
  · unfold assemble
    rw [hsorted]
    rfl

end Prompt

end Dramaturg
