import Dramaturg.Proofs.Text.Parting
import Dramaturg.Turn.Paragraph
import Mathlib.Data.List.Flatten

set_option autoImplicit false

/-! # How a reply is split

A reply falls into stretches, each but the last of which ends with the splitter, and its paragraphs
are the stretches of the parts that hold more than blanks (`splitParagraphs_parts`). Put together
the stretches are the reply. The paragraphs are the reply too as long as no stretch with a character
in it has been left out, and a stretch that ends with the splitter has one. -/

namespace Dramaturg

open Text

/-! ## Stretches -/

/-- The parts of a text with the splitter behind each but the last. Paragraphs are those of them
    that hold more than blanks. -/
def stretches (splitter : List Char) : List (List Char) → List (List Char)
  | [] => []
  | [part] => [part]
  | part :: next :: rest => (part ++ splitter) :: stretches splitter (next :: rest)

theorem restoreSplitter_sublist (splitter : List Char) (parts : List (List Char)) :
    (restoreSplitter splitter parts).Sublist (stretches splitter parts) := by
  fun_induction restoreSplitter splitter parts with
  | case1 => exact List.Sublist.refl _
  | case2 => exact List.nil_sublist _
  | case3 => exact List.Sublist.refl _
  | case4 part next rest restored hblank ih => exact ih.cons _
  | case5 part next rest restored hblank ih => exact ih.cons_cons _

/-- Splitting loses nothing. -/
theorem flatten_stretches_splitOn (splitter text : List Char) :
    splitOn splitter text ≠ [] ∧ (stretches splitter (splitOn splitter text)).flatten = text := by
  fun_induction splitOn splitter text with
  | case1 text => exact ⟨List.cons_ne_nil _ _, List.flatten_singleton⟩
  | case2 text => exact ⟨List.cons_ne_nil _ _, List.flatten_singleton⟩
  | case3 text _ before rest hcut ih =>
    obtain ⟨hne, hflatten⟩ := ih
    refine ⟨List.cons_ne_nil _ _, ?_⟩
    cases hsplit : splitOn splitter rest with
    | nil => exact absurd hsplit hne
    | cons next parts =>
      rw [hsplit] at hflatten
      rw [stretches, List.flatten_cons, hflatten, eq_append_of_cut? hcut]

/-! ## A part in front of others -/

variable (splitter part last : List Char) (parts : List (List Char))

theorem stretches_cons_append :
    stretches splitter (part :: (parts ++ [last]))
      = (part ++ splitter) :: stretches splitter (parts ++ [last]) := by
  cases parts <;> rfl

theorem restoreSplitter_cons_append :
    restoreSplitter splitter (part :: (parts ++ [last]))
      = if allBlank part then restoreSplitter splitter (parts ++ [last])
        else (part ++ splitter) :: restoreSplitter splitter (parts ++ [last]) := by
  cases parts <;> rfl

/-- The splitter goes back behind the parts that it ends, and blank parts are left out. -/
theorem restoreSplitter_append_singleton :
    restoreSplitter splitter (parts ++ [last])
      = (parts.filter (!allBlank ·)).map (· ++ splitter) ++ [last].filter (!allBlank ·) := by
  induction parts with
  | nil => cases hlast : allBlank last <;> simp [restoreSplitter, hlast]
  | cons part parts ih =>
    rw [List.cons_append, restoreSplitter_cons_append, ih]
    cases hpart : allBlank part <;> simp [hpart]

/-- The splitter occurs at the end of what it ends, and nowhere else. -/
theorem eq_nil_of_mem_restoreSplitter {text piece before rest : List Char}
    (h : Parted splitter text parts last) (hpiece : piece ∈ restoreSplitter splitter (parts ++ [last]))
    (heq : piece = before ++ splitter ++ rest) : rest = [] := by
  rw [restoreSplitter_append_singleton] at hpiece
  rcases List.mem_append.1 hpiece with hpiece | hpiece
  · obtain ⟨part, hpart, rfl⟩ := List.mem_map.1 hpiece
    exact h.eq_nil_of_mem (List.mem_filter.1 hpart).1 heq
  · obtain rfl := List.mem_singleton.1 (List.mem_filter.1 hpiece).1
    exact absurd ⟨before, rest, heq.symm⟩ h.not_isInfix_last

/-- A blank part takes its splitter with it, so only an empty last part can go unnoticed. -/
theorem flatten_restoreSplitter_eq_iff (hsplitter : splitter ≠ []) :
    (restoreSplitter splitter (parts ++ [last])).flatten
        = (stretches splitter (parts ++ [last])).flatten ↔
      (∀ part ∈ parts, allBlank part = false) ∧ (allBlank last = true → last = []) := by
  induction parts with
  | nil => cases hlast : allBlank last <;> simp [restoreSplitter, stretches, hlast]
  | cons part parts ih =>
    rw [List.cons_append, restoreSplitter_cons_append, stretches_cons_append, List.forall_mem_cons,
      and_assoc, ← ih, List.flatten_cons]
    cases hpart : allBlank part with
    | false => simp
    | true =>
      have hlength : 0 < splitter.length := List.length_pos_iff.2 hsplitter
      have hle := (restoreSplitter_sublist splitter (parts ++ [last])).flatten.length_le
      simp only [if_true, Bool.true_eq_false, false_and, iff_false]
      intro heq
      have := congrArg List.length heq
      simp only [List.length_append] at this
      omega

/-! ## Paragraphs -/

theorem map_toList_splitParagraphs (splitter reply : String) :
    (splitParagraphs splitter reply).map String.toList
      = restoreSplitter splitter.toList (splitOn splitter.toList reply.toList) := by
  rw [splitParagraphs, List.map_map]
  exact List.map_id'' (fun _ => String.toList_ofList) _

theorem splitParagraphs_empty (reply : String) :
    splitParagraphs "" reply = if isBlankText reply then [] else [reply] := by
  have hsplit : splitOn "".toList reply.toList = [reply.toList] := by
    rw [splitOn, dif_pos (String.toList_eq_nil_iff.2 rfl)]
  rw [splitParagraphs, isBlankText, hsplit, restoreSplitter]
  cases allBlank reply.toList <;> simp

/-- **The paragraphs of a reply.** A reply falls into parts between the leftmost occurrences of a
    splitter that is not empty, in one way only. Its paragraphs are, in order, the parts that are not
    blank with the splitter behind each but the last. In a paragraph the splitter occurs at the end
    or not at all, and not in the last part. Put together the paragraphs are the reply exactly if
    nothing but an empty last part has been left out. With an empty splitter the reply is its only
    paragraph, unless it is blank. -/
theorem splitParagraphs_parts (splitter reply : String) :
    (splitter ≠ "" → ∃ parts last,
      (∀ parts' last', Parted splitter.toList reply.toList parts' last' ↔
        parts' = parts ∧ last' = last) ∧
      splitParagraphs splitter reply
        = ((parts.filter (!allBlank ·)).map (· ++ splitter.toList)
          ++ [last].filter (!allBlank ·)).map String.ofList ∧
      (∀ paragraph ∈ splitParagraphs splitter reply, ∀ before rest,
        paragraph.toList = before ++ splitter.toList ++ rest → rest = []) ∧
      ¬ splitter.toList <:+: last ∧
      (String.join (splitParagraphs splitter reply) = reply ↔
        (∀ part ∈ parts, allBlank part = false) ∧ (allBlank last = true → last = []))) ∧
    (splitter = "" →
      splitParagraphs splitter reply = if isBlankText reply then [] else [reply]) := by
  constructor
  · intro hsplitter
    have hne : splitter.toList ≠ [] := mt String.toList_eq_nil_iff.1 hsplitter
    obtain ⟨parts, last, hparted⟩ := exists_parted hne reply.toList
    have hsplit := hparted.splitOn_eq hne
    refine ⟨parts, last, fun parts' last' => ⟨hparted.unique hne, ?_⟩, ?_, ?_,
      hparted.not_isInfix_last, ?_⟩
    · rintro ⟨rfl, rfl⟩
      exact hparted
    · rw [splitParagraphs, hsplit, restoreSplitter_append_singleton]
    · intro paragraph hparagraph before rest heq
      have hpiece := List.mem_map_of_mem (f := String.toList) hparagraph
      rw [map_toList_splitParagraphs, hsplit] at hpiece
      exact eq_nil_of_mem_restoreSplitter _ last parts hparted hpiece heq
    · rw [← flatten_restoreSplitter_eq_iff _ last parts hne, ← hsplit,
        (flatten_stretches_splitOn _ _).2, ← String.toList_inj, String.toList_join,
        List.flatMap_def, map_toList_splitParagraphs]
  · rintro rfl
    exact splitParagraphs_empty reply

/-- A splitter that overlaps itself, a blank part, and an empty part at the end. -/
theorem splitParagraphs_overlapping :
    let reply := "Hi.>>>Oh.>> >>Bye.>>"
    let paragraphs := ["Hi.>>", ">Oh.>>", "Bye.>>"]
    (">>" ≠ "" ∧ splitParagraphs ">>" reply = paragraphs ∧
      ∃ parts last, Parted ">>".toList reply.toList parts last ∧
        (∀ paragraph ∈ paragraphs, ∀ before rest,
          paragraph.toList = before ++ ">>".toList ++ rest → rest = []) ∧
        ¬ ((∀ part ∈ parts, allBlank part = false) ∧ (allBlank last = true → last = []))) ∧
    isBlankText reply = false ∧ splitParagraphs "" reply = [reply] := by
  intro reply paragraphs
  have hparagraphs : splitParagraphs ">>" reply = paragraphs := by decide +kernel
  have hsolid : isBlankText reply = false := by decide
  obtain ⟨parts, last, hparted, -, hend, -, hjoin⟩ :=
    (splitParagraphs_parts ">>" reply).1 (by decide)
  rw [hparagraphs] at hend hjoin
  refine ⟨⟨by decide, hparagraphs, parts, last, (hparted parts last).2 ⟨rfl, rfl⟩, hend, ?_⟩,
    hsolid, ?_⟩
  · -- the blank part and its splitter are left out
    exact mt hjoin.2 (by decide +kernel)
  · rw [(splitParagraphs_parts "" reply).2 rfl, if_neg (by simp [hsolid])]

end Dramaturg
