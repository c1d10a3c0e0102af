import Dramaturg.Turn.Request

set_option autoImplicit false

/-! # Identifiers in texts

The text of an identifier is read as that identifier (`ofText?_text`): its hyphens stand where the
reader expects them, and it is neither as long as bare digits nor begins like one of the other
forms. -/

namespace Dramaturg.TurnId

/-! ## Digits -/

theorem digit_hexDigit? (d : Fin 16) : (Json.hexDigit? (digitChar d)).map digit = some d := by
  revert d
  decide

theorem digits?_map_digitChar (ds : List (Fin 16)) : digits? (ds.map digitChar) = some ds := by
  unfold digits?
  induction ds with
  | nil => rfl
  | cons d ds ih => simp only [List.map_cons, List.mapM_cons, digit_hexDigit?, ih]; rfl

/-! ## Groups -/

theorem length_writeGroups (n : Nat) (ns : List Nat) (cs : List Char)
    (h : cs.length = (n :: ns).foldr (· + ·) 0) :
    (writeGroups (n :: ns) cs).length = cs.length + ns.length := by
  induction ns generalizing n cs with
  | nil =>
    rw [writeGroups, List.take_of_length_le (by simpa using Nat.le_of_eq h)]
    rfl
  | cons m ns ih =>
    rw [List.foldr_cons] at h
    have hrest : (cs.drop n).length = (m :: ns).foldr (· + ·) 0 := by
      rw [List.length_drop]
      omega
    have hfirst : (cs.take n).length = n := List.length_take_of_le (by omega)
    rw [writeGroups, List.length_append, List.length_cons, ih m _ hrest, hfirst, List.length_drop,
      List.length_cons]
    omega

/-- Groups of digits with hyphens between them are read as these digits. -/
theorem readGroups?_writeGroups (n : Nat) (ns : List Nat) (ds : List (Fin 16))
    (h : ds.length = (n :: ns).foldr (· + ·) 0) :
    readGroups? (n :: ns) (writeGroups (n :: ns) (ds.map digitChar)) = some ds := by
  induction ns generalizing n ds with
  | nil =>
    have hn : ds.length = n := by simpa using h
    have hlength : (ds.map digitChar).length = n := by rw [List.length_map, hn]
    rw [writeGroups, List.take_of_length_le (Nat.le_of_eq hlength), readGroups?, if_pos hlength,
      digits?_map_digitChar]
  | cons m ns ih =>
    rw [List.foldr_cons] at h
    have hrest : (ds.drop n).length = (m :: ns).foldr (· + ·) 0 := by
      rw [List.length_drop]
      omega
    have hfirst : (ds.map digitChar |>.take n).length = n :=
      List.length_take_of_le (by rw [List.length_map]; omega)
    have hread := ih m (ds.drop n) hrest
    rw [List.map_drop] at hread
    rw [writeGroups, readGroups?, List.drop_left' hfirst, List.take_left' hfirst]
    simp only [← List.map_take, digits?_map_digitChar, hread, List.take_append_drop]

/-! ## Identifiers -/

theorem ofDigits?_digits (t : TurnId) : ofDigits? t.digits.toList = some t := by
  unfold ofDigits?
  rw [dif_pos t.digits.length_toList]
  rfl

/-- A text that begins with a digit is read as groups, unless it is as long as bare digits. -/
theorem ofText?_of_digit {text : List Char} {d : Fin 16} {rest : List Char}
    (hfirst : text = digitChar d :: rest) (hlong : text.length ≠ 32) :
    ofText? (String.ofList text) = (readGroups? groups text).bind ofDigits? := by
  have hplain : ∀ d, digitChar d ≠ '{' ∧ (digitChar d).toLower ≠ 'u' := by decide
  obtain ⟨hbrace, hname⟩ := hplain d
  have hinner : ((unbraced? text).orElse fun _ => unprefixed? text).getD text = text := by
    rw [hfirst]
    simp [unbraced?, unprefixed?, hbrace, hname]
  unfold ofText?
  rw [String.toList_ofList, if_neg hlong, hinner]

/-- **An identifier is read back from its text.** -/
theorem ofText?_text (t : TurnId) : ofText? t.text = some t := by
  let cs := t.digits.toList.map digitChar
  have hlength : t.digits.toList.length = groups.foldr (· + ·) 0 := t.digits.length_toList
  have hcs : cs.length = groups.foldr (· + ·) 0 := by rw [List.length_map]; exact hlength
  have hread : readGroups? groups (writeGroups groups cs) = some t.digits.toList :=
    readGroups?_writeGroups 8 [4, 4, 4, 12] _ hlength
  have hlong : (writeGroups groups cs).length ≠ 32 := by
    have hwritten : (writeGroups groups cs).length = cs.length + 4 :=
      length_writeGroups 8 [4, 4, 4, 12] cs hcs
    rw [hwritten, hcs]
    decide
  obtain ⟨d, ds, hdigits⟩ : ∃ d ds, t.digits.toList = d :: ds :=
    List.exists_cons_of_length_eq_add_one (n := 31) t.digits.length_toList
  have hfirst : writeGroups groups cs = digitChar d :: ((ds.map digitChar).take 7 ++
      '-' :: writeGroups [4, 4, 4, 12] (cs.drop 8)) := by
    simp only [cs, hdigits]
    rfl
  show ofText? (String.ofList (writeGroups groups cs)) = some t
  rw [ofText?_of_digit hfirst hlong, hread, Option.bind_some, ofDigits?_digits]

end Dramaturg.TurnId
