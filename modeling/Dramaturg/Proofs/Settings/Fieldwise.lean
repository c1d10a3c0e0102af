import Dramaturg.Proofs.Settings.Slot

set_option autoImplicit false

/-! # Settings documents act field by field

Loading a document fills the slots of that document (`Story.loadDocument_object`). A slot looks at
nothing but its own key, so a document does what its members do one by one, in whatever order
(`Story.loadDocument_fieldwise`). -/

namespace Dramaturg

/-! ## Fields fill slots -/

namespace SettingsField

/-- A field fills a slot: it has its key, and puts there what the slot reads, if anything. -/
structure Fills (f : SettingsField) (x : Slot Settings) : Prop where
  key : f.key = x.key
  put : ∀ j s, f.put j s = x.set ((x.read? j).getD (x.get s)) s
  keep : ∀ s, x.set (x.get s) s = s

theorem fills_of {α : Type} {read : Json → Option α} {key : String} {get : Settings → α}
    {set : α → Settings → Settings} (hkeep : ∀ s, set (get s) s = s) :
    (of read key set).Fills ⟨key, α, read, get, set⟩ where
  key := rfl
  put := fun j s => by
    unfold of
    cases hj : read j with
    | none => simp [hj, hkeep]
    | some v => simp [hj]
  keep := hkeep

/-- The field for the key of the model puts a text where there may be none. -/
theorem fills_apiKey :
    (text "API_key" fun v s => { s with model.apiKey := some v }).Fills
      ⟨"API_key", Option String, fun j => j.asString?.map some, (·.model.apiKey),
        fun v s => { s with model.apiKey := v }⟩ where
  key := rfl
  put := fun j s => by
    unfold text of
    cases hj : j.asString? <;> simp [hj]
  keep := fun _ => rfl

theorem controlFields_fill : List.Forall₂ Fills controlFields Settings.controlSlots := by
  unfold controlFields Settings.controlSlots
  repeat' first
    | exact .nil
    | refine .cons (fills_of fun _ => rfl) ?_

theorem globalFields_fill : List.Forall₂ Fills globalFields Settings.globalSlots := by
  unfold globalFields Settings.globalSlots
  repeat' first
    | exact .nil
    | refine .cons (fills_of fun _ => rfl) ?_
    | refine .cons fills_apiKey ?_

end SettingsField

theorem Settings.applyFields_eq_fillAll {fields : List SettingsField} {slots : List (Slot Settings)}
    (h : List.Forall₂ SettingsField.Fills fields slots) (members : List (String × Json))
    (s : Settings) : s.applyFields fields members = Slot.fillAll slots (.object members) s := by
  induction h generalizing s with
  | nil => rfl
  | @cons f x fields slots hfill _ ih =>
    refine (ih _).trans (congrArg (Slot.fillAll slots (.object members)) ?_)
    simp only [Slot.fill, Slot.told, Json.get?, hfill.key]
    cases members.lookup x.key with
    | none => exact (hfill.keep s).symm
    | some j => exact hfill.put j s

theorem Settings.applyControls_object (members : List (String × Json)) (s : Settings) :
    s.applyControls (.object members)
      = .ok (Slot.fillAll Settings.controlSlots (.object members) s) := by
  rw [applyControls, applyDocument, applyFields_eq_fillAll SettingsField.controlFields_fill]

theorem Settings.applyGlobal_object (members : List (String × Json)) (s : Settings) :
    s.applyGlobal (.object members)
      = .ok (Slot.fillAll Settings.globalSlots (.object members) s) := by
  rw [applyGlobal, applyDocument, applyFields_eq_fillAll SettingsField.globalFields_fill]

theorem Tables.load_eq_fillAll (doc : Json) (t : Tables) :
    t.load doc = Slot.fillAll Tables.slots doc t := rfl

/-- An object is never refused. -/
theorem SettingsDocument.applyTo_object (d : SettingsDocument) (members : List (String × Json))
    (s : Story) :
    d.applyTo (.object members) s.settings = .ok (d.fill (.object members) s).settings := by
  cases d with
  | controls => exact s.settings.applyControls_object members
  | global => exact s.settings.applyGlobal_object members

/-! ## Documents fill slots -/

namespace Story

/-- What has the slots of a filled story, and is like it outside them, is the filled story. -/
theorem eq_fill {d : SettingsDocument} {doc : Json} {s t : Story} (hunkeyed : t.unkeyed = s.unkeyed)
    (hown : ∀ x ∈ d.slots, x.get t = x.told doc (x.get s))
    (hother : ∀ x ∈ d.other.slots, x.get t = x.get s) : t = d.fill doc s := by
  refine eq_of_slots (hunkeyed.trans (unkeyed_fill d doc s).symm) fun e x hx => ?_
  obtain rfl | rfl : e = d ∨ e = d.other := by cases d <;> cases e <;> simp [SettingsDocument.other]
  · rw [hown x hx, e.get_fill doc s x hx]
  · rw [hother x hx, d.get_fill_other doc s x hx]

/-- Documents that tell the slots the same do the same. -/
theorem fill_congr {d : SettingsDocument} {doc doc' : Json} {s : Story}
    (h : ∀ x ∈ d.slots, x.told doc (x.get s) = x.told doc' (x.get s)) :
    d.fill doc s = d.fill doc' s :=
  eq_fill (unkeyed_fill d doc s) (fun x hx => (d.get_fill doc s x hx).trans (h x hx))
    (d.get_fill_other doc s)

/-- A document that tells the slots nothing changes nothing. -/
theorem fill_eq_self {d : SettingsDocument} {doc : Json} {s : Story}
    (h : ∀ x ∈ d.slots, doc.get? x.key = none) : d.fill doc s = s :=
  (eq_fill rfl (fun x hx => (Slot.told_of_get?_eq_none (h x hx) _).symm) fun _ _ => rfl).symm

/-- Two documents one after the other do what a third one does that tells each slot the same. -/
theorem fill_fill_eq {d : SettingsDocument} {doc doc' both : Json}
    (h : ∀ (x : Slot Story) (old : x.Value), x.told doc' (x.told doc old) = x.told both old)
    (s : Story) : d.fill doc' (d.fill doc s) = d.fill both s :=
  eq_fill (by rw [unkeyed_fill, unkeyed_fill])
    (fun x hx => by rw [d.get_fill _ _ x hx, d.get_fill _ _ x hx, h])
    (fun x hx => by rw [d.get_fill_other _ _ x hx, d.get_fill_other _ _ x hx])

theorem loadDocument_object (d : SettingsDocument) (members : List (String × Json)) (s : Story) :
    s.loadDocument d.name (.object members) = d.fill (.object members) s := by
  cases members with
  | nil => exact (fill_eq_self fun _ _ => rfl).symm
  | cons m rest =>
    cases d with
    | controls =>
      simp only [loadDocument, DocumentKind.classify, DocumentKind.isVoid, List.isEmpty_cons,
        SettingsDocument.name, Settings.applyControls_object, settingsAfter,
        Tables.load_eq_fillAll, SettingsDocument.fill]
      rfl
    | global =>
      simp only [loadDocument, DocumentKind.classify, DocumentKind.isVoid, List.isEmpty_cons,
        SettingsDocument.name, Settings.applyGlobal_object, settingsAfter, SettingsDocument.fill]
      rfl

/-- Only an object brings settings. -/
theorem loadDocument_of_not_object (d : SettingsDocument) {doc : Json}
    (h : ∀ members, doc ≠ .object members) (s : Story) : s.loadDocument d.name doc = s := by
  have hget : ∀ key, doc.get? key = none := fun key => by
    unfold Json.get?
    split
    · exact absurd rfl (h _)
    · rfl
  have hsettings : ∀ name fields,
      settingsAfter (s.settings.applyDocument name fields doc) s.settings = s.settings := by
    intro name fields
    unfold Settings.applyDocument
    split
    · exact absurd rfl (h _)
    · rfl
  have htables : s.tables.load doc = s.tables := by
    simp only [Tables.load, Tables.reread, hget, Option.bind_none, Option.getD_none]
  by_cases hvoid : DocumentKind.isVoid doc
  · simp only [loadDocument, DocumentKind.classify, hvoid, if_true]
  · cases d <;>
      simp [loadDocument, DocumentKind.classify, hvoid, SettingsDocument.name,
        Settings.applyControls, Settings.applyGlobal, hsettings, htables]

end Story

/-! ## What an object holds under a key -/

namespace Json

theorem get?_cons (key : String) (j : Json) (rest : List (String × Json)) (k : String) :
    (object ((key, j) :: rest)).get? k = if k = key then some j else (object rest).get? k := by
  by_cases hk : k = key
  · simp [get?, hk]
  · simp [get?, List.lookup_cons, beq_eq_false_iff_ne.mpr hk, hk]

theorem get?_eq_none {members : List (String × Json)} {key : String}
    (h : key ∉ members.map Prod.fst) : (object members).get? key = none := by
  induction members with
  | nil => rfl
  | cons m rest ih =>
    obtain ⟨hne, hrest⟩ := not_or.mp (mt List.mem_cons.mpr h)
    rw [get?_cons, if_neg hne, ih hrest]

/-- Where no key stands twice, the order of the members does not matter. -/
theorem get?_of_perm {members order : List (String × Json)} (h : members.Perm order)
    (hkeys : (members.map Prod.fst).Nodup) (key : String) :
    (object members).get? key = (object order).get? key := by
  induction h with
  | nil => rfl
  | cons m _ ih => rw [get?_cons, get?_cons, ih (List.nodup_cons.mp hkeys).2]
  | swap m n l =>
    obtain ⟨first, i⟩ := n
    obtain ⟨second, j⟩ := m
    have hne : first ≠ second := fun he => by simp [he] at hkeys
    simp only [get?_cons]
    by_cases hsecond : key = second
    · simp [hsecond, hne.symm]
    · simp [hsecond]
  | trans h₁ _ ih₁ ih₂ => exact (ih₁ hkeys).trans (ih₂ ((h₁.map Prod.fst).nodup_iff.mp hkeys))

theorem mem_keys_putMember {key k : String} {value : Json} {members : List (String × Json)} :
    k ∈ (putMember key value members).map Prod.fst ↔ k = key ∨ k ∈ members.map Prod.fst := by
  induction members with
  | nil => simp [putMember]
  | cons m rest ih =>
    by_cases hm : m.1 = key
    · simp [putMember, hm]
    · rw [putMember, if_neg hm, List.map_cons, List.mem_cons, ih, List.map_cons, List.mem_cons]
      exact or_left_comm

theorem nodup_putMember {key : String} {value : Json} {members : List (String × Json)}
    (h : (members.map Prod.fst).Nodup) : ((putMember key value members).map Prod.fst).Nodup := by
  induction members with
  | nil => simp [putMember]
  | cons m rest ih =>
    obtain ⟨hnew, hrest⟩ := List.nodup_cons.mp h
    by_cases hm : m.1 = key
    · rw [putMember, if_pos hm]
      exact h
    · rw [putMember, if_neg hm]
      refine List.nodup_cons.mpr ⟨fun hmem => ?_, ih hrest⟩
      rcases mem_keys_putMember.mp hmem with heq | hold
      · exact hm heq
      · exact hnew hold

theorem nodup_membersWithin? {depth : Nat} {ws : List (Option String × Written)}
    {done members : List (String × Json)} (h : membersWithin? depth ws done = some members)
    (hdone : (done.map Prod.fst).Nodup) : (members.map Prod.fst).Nodup := by
  induction ws generalizing done with
  | nil =>
    obtain rfl : done = members := by simpa [membersWithin?] using h
    exact hdone
  | cons w ws ih =>
    obtain ⟨_ | key, written⟩ := w
    · simp [membersWithin?] at h
    · rw [membersWithin?] at h
      split at h
      · cases h
      · exact ih h (nodup_putMember hdone)

/-- An object that is read from a text has no key twice. -/
theorem nodup_of_ofText? {text : String} {members : List (String × Json)}
    (h : ofText? text = some (.object members)) : (members.map Prod.fst).Nodup := by
  obtain ⟨written, -, hvalue⟩ := Option.bind_eq_some_iff.mp h
  cases written with
  | object ws =>
    have hread : (membersWithin? (maxDepth - 1) ws []).map object = some (object members) := hvalue
    obtain ⟨_, hmembers, heq⟩ := Option.map_eq_some_iff.mp hread
    obtain rfl := object.inj heq
    exact nodup_membersWithin? hmembers List.nodup_nil
  | null | bool | number | string | array => simp [Written.valueWithin?] at hvalue

end Json

/-- The members behind one tell a slot what they tell it after that one alone. -/
theorem Slot.told_cons {σ : Type} (x : Slot σ) {key : String} {j : Json}
    {rest : List (String × Json)} (hnew : key ∉ rest.map Prod.fst) (old : x.Value) :
    x.told (.object rest) (x.told (.object [(key, j)]) old)
      = x.told (.object ((key, j) :: rest)) old := by
  by_cases hkey : x.key = key
  · have hrest : (Json.object rest).get? x.key = none := Json.get?_eq_none (hkey ▸ hnew)
    have hone : (Json.object [(key, j)]).get? x.key
        = (Json.object ((key, j) :: rest)).get? x.key := by
      rw [Json.get?_cons, Json.get?_cons, if_pos hkey, if_pos hkey]
    rw [told_of_get?_eq_none hrest, told_congr hone]
  · have hone : (Json.object [(key, j)]).get? x.key = none := by
      rw [Json.get?_cons, if_neg hkey]
      rfl
    have hrest : (Json.object rest).get? x.key
        = (Json.object ((key, j) :: rest)).get? x.key := by
      rw [Json.get?_cons, if_neg hkey]
    rw [told_of_get?_eq_none hone, told_congr hrest]

/-- A member that has another key, or that the slot cannot read, tells it nothing. -/
theorem Slot.told_singleton_of_unread {σ : Type} {x : Slot σ} {key : String} {j : Json}
    (h : x.key = key → x.read? j = none) (old : x.Value) :
    x.told (.object [(key, j)]) old = old := by
  rw [told, Json.get?_cons]
  split
  · next hkey => rw [Option.bind_some, h hkey, Option.getD_none]
  · rfl

/-! ## One key at a time -/

namespace Story

/-- Loading the members of an object one after the other is loading the object. -/
theorem loadDocuments_singletons (d : SettingsDocument) {members : List (String × Json)}
    (hkeys : (members.map Prod.fst).Nodup) (s : Story) :
    s.loadDocuments (members.map fun m => (d.name, .object [m])) = d.fill (.object members) s := by
  induction members generalizing s with
  | nil => exact (fill_eq_self fun _ _ => rfl).symm
  | cons m rest ih =>
    obtain ⟨hnew, hrest⟩ := List.nodup_cons.mp hkeys
    calc s.loadDocuments ((m :: rest).map fun m => (d.name, .object [m]))
        = (s.loadDocument d.name (.object [m])).loadDocuments
            (rest.map fun m => (d.name, .object [m])) := rfl
      _ = d.fill (.object rest) (d.fill (.object [m]) s) := by rw [ih hrest, loadDocument_object]
      _ = d.fill (.object (m :: rest)) s := fill_fill_eq (fun x old => x.told_cons hnew old) s

/-- A member that no slot reads changes nothing and hinders no other member. -/
theorem fill_cons_of_unread (d : SettingsDocument) {key : String} {j : Json}
    {members : List (String × Json)} (hnew : key ∉ members.map Prod.fst)
    (hunread : ∀ x ∈ d.slots, x.key = key → x.read? j = none) (s : Story) :
    d.fill (.object ((key, j) :: members)) s = d.fill (.object members) s :=
  fill_congr fun x hx => by
    rw [← x.told_cons hnew, Slot.told_singleton_of_unread (hunread x hx)]

/-- **Settings documents act field by field.** An object in which no key stands twice, as in any that
    is read from a text (`Json.nodup_of_ofText?`), does what its members do as documents of their
    own, in any order. No object is refused: each slot of the document takes the value under its key
    if it can read it, and keeps its own otherwise; the slots of the other document, and what no
    document brings, stay. A member that no slot reads is as good as none, and loading the object
    again changes nothing. What is no object changes nothing at all. No two slots of a document
    share a key, and with what no document brings they make up the story. -/
theorem loadDocument_fieldwise (d : SettingsDocument) (s : Story) :
    (∀ members : List (String × Json),
      let after := s.loadDocument d.name (.object members)
      ((members.map Prod.fst).Nodup → ∀ order : List (String × Json), order.Perm members →
          s.loadDocuments (order.map fun m => (d.name, .object [m])) = after)
        ∧ d.applyTo (.object members) s.settings = .ok after.settings
        ∧ (∀ x ∈ d.slots, x.get after = x.told (.object members) (x.get s))
        ∧ (∀ x ∈ d.other.slots, x.get after = x.get s)
        ∧ after.unkeyed = s.unkeyed
        ∧ (∀ key j, key ∉ members.map Prod.fst →
            (∀ x ∈ d.slots, x.key = key → x.read? j = none) →
            s.loadDocument d.name (.object ((key, j) :: members)) = after)
        ∧ after.loadDocument d.name (.object members) = after)
      ∧ (∀ doc : Json, (∀ members, doc ≠ .object members) → s.loadDocument d.name doc = s)
      ∧ (d.slots.map Slot.key).Nodup
      ∧ (∀ t : Story, t.unkeyed = s.unkeyed →
          (∀ e : SettingsDocument, ∀ x ∈ e.slots, x.get t = x.get s) → t = s) := by
  refine ⟨fun members => ?_, fun doc h => loadDocument_of_not_object d h s, d.nodup_keys,
    fun t hunkeyed hslots => eq_of_slots hunkeyed hslots⟩
  simp only [loadDocument_object]
  refine ⟨fun hkeys order horder => ?_, d.applyTo_object members s, d.get_fill _ s,
    d.get_fill_other _ s, unkeyed_fill d _ s, fun key j hnew hunread => ?_,
    fill_fill_eq (fun x old => x.told_told _ old) s⟩
  · have hkeys' : (order.map Prod.fst).Nodup := (horder.map Prod.fst).nodup_iff.mpr hkeys
    rw [loadDocuments_singletons d hkeys']
    exact fill_congr fun x _ => Slot.told_congr (Json.get?_of_perm horder hkeys' x.key) _
  · exact fill_cons_of_unread d hnew hunread s

/-- A page length that is a text does not keep the delimiter behind it from being taken over. -/
theorem loadDocument_textForCount :
    let members : List (String × Json) :=
      [("page_max_chars", .string "40"), ("bg_front_match", .string "("), ("mood", .null)]
    let after := (new {}).loadDocument "controls" (.object members)
    (new {}).loadDocuments (members.reverse.map fun m => ("controls", .object [m])) = after
      ∧ (new {}).loadDocument "controls" (.object (("bg_table", .null) :: members)) = after
      ∧ (new {}).loadDocument "controls" (.string "(") = new {}
      ∧ after.settings.pageMaxChars = 78
      ∧ after.settings.directives.background.front = "(" := by
  intro members after
  obtain ⟨hobject, hother, -, -⟩ := loadDocument_fieldwise .controls (new {})
  obtain ⟨horder, -, -, -, -, hunread, -⟩ := hobject members
  refine ⟨horder (by decide) members.reverse (List.reverse_perm members),
    hunread "bg_table" .null (by decide) fun x hx _ => SettingsDocument.read?_null .controls x hx,
    hother (.string "(") (by simp), rfl, rfl⟩

end Story

end Dramaturg
