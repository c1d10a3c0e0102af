import Dramaturg.Proofs.Lore.Reading
import Dramaturg.Story.Basic

set_option autoImplicit false

/-! # The shape of a document

A document has the shape of a character card if its data are an object, and otherwise it is a world
book. Under a name that is not set aside, however, any data but null make a card of it. So kind and
shape agree exactly if the data are missing, null or an object (`takenByShape_iff`). A book with
other data is read as a card, and none of its entries are found. -/

namespace Dramaturg

namespace DocumentKind

/-- The data of a document are an object. -/
def IsCardShaped (doc : Json) : Prop :=
  ∃ members, doc.get? "data" = some (.object members)

/-- The data of a document are there, and neither null nor an object. -/
def HasStray (doc data : Json) : Prop :=
  doc.get? "data" = some data ∧ data ≠ .null ∧ ∀ members, data ≠ .object members

/-- A document is taken for a card exactly if it has the shape of one. Otherwise all entries that
    can be read from it enter the catalog. -/
structure TakenByShape (name : String) (doc : Json) : Prop where
  card_iff : classify name doc = .characterCard ↔ IsCardShaped doc
  entries (values : List Json) (entries : List Lore) : ¬ IsCardShaped doc →
    Catalog.HoldsEntries doc values → Lore.Accepts name values entries →
      ∀ s : Story, (s.loadDocument name doc).catalog.lore = s.catalog.lore ++ entries

variable {name : String} {doc data : Json} {values : List Json}

/-! ## Kinds -/

theorem isVoid_eq_false_of_get? {key : String} {j : Json} (h : doc.get? key = some j) :
    isVoid doc = false := by
  cases doc with
  | object members =>
    cases members with
    | nil => cases h
    | cons _ _ => rfl
  | _ => cases h

theorem isVoid_eq_false_of_holdsEntries (h : Catalog.HoldsEntries doc values) :
    isVoid doc = false := by
  rcases h with hlist | ⟨_, hmap, -⟩
  · exact isVoid_eq_false_of_get? hlist
  · exact isVoid_eq_false_of_get? hmap

/-- Data that are not null have one of two shapes. -/
theorem exists_data_iff :
    (∃ data, doc.get? "data" = some data ∧ data ≠ .null) ↔
      IsCardShaped doc ∨ ∃ data, HasStray doc data := by
  constructor
  · rintro ⟨data, hdata, hnull⟩
    by_cases hshape : ∃ members, data = .object members
    · obtain ⟨members, rfl⟩ := hshape
      exact .inl ⟨members, hdata⟩
    · exact .inr ⟨data, hdata, hnull, not_exists.1 hshape⟩
  · rintro (⟨members, hdata⟩ | ⟨data, hdata, hnull, -⟩)
    · exact ⟨_, hdata, by simp⟩
    · exact ⟨data, hdata, hnull⟩

theorem HasStray.not_isCardShaped (h : HasStray doc data) : ¬ IsCardShaped doc := by
  rintro ⟨members, hdata⟩
  exact h.2.2 members (Option.some.inj (h.1.symm.trans hdata))

section

variable (hglobal : name ≠ "global") (hcontrols : name ≠ "controls")

include hglobal hcontrols

theorem classify_of_not_isVoid (h : isVoid doc = false) :
    classify name doc = .characterCard ∨ classify name doc = .worldBook := by
  rw [classify, h, if_neg Bool.false_ne_true, if_neg hglobal, if_neg hcontrols]
  split
  · exact .inr rfl
  · exact .inr rfl
  · exact .inl rfl

/-- Any data but null make a card of a document. -/
theorem classify_eq_characterCard_iff :
    classify name doc = .characterCard ↔ IsCardShaped doc ∨ ∃ data, HasStray doc data := by
  rw [← exists_data_iff]
  constructor
  · intro hcard
    rw [classify, if_neg hglobal, if_neg hcontrols] at hcard
    split at hcard
    · cases hcard
    · split at hcard
      · cases hcard
      · cases hcard
      · next data hnull hdata => exact ⟨data, hdata, hnull⟩
  · rintro ⟨data, hdata, hnull⟩
    rw [classify, isVoid_eq_false_of_get? hdata, if_neg Bool.false_ne_true, if_neg hglobal,
      if_neg hcontrols, hdata]
    split
    · cases ‹some data = none›
    · exact absurd (Option.some.inj ‹_›) hnull
    · rfl

end

end DocumentKind

open DocumentKind

/-! ## Loading -/

namespace Story

variable {name : String} {doc data : Json} {values : List Json} {entries : List Lore}
  (hglobal : name ≠ "global") (hcontrols : name ≠ "controls")

include hglobal hcontrols

/-- A book adds its entries and nothing else. -/
theorem loadDocument_of_book (hcard : ¬ IsCardShaped doc) (hstray : ∀ data, ¬ HasStray doc data)
    (hvalues : Catalog.HoldsEntries doc values) (hentries : Lore.Accepts name values entries)
    (s : Story) :
    s.loadDocument name doc
      = { s with catalog := { s.catalog with lore := s.catalog.lore ++ entries } } := by
  have hbook : classify name doc = .worldBook := by
    refine (classify_of_not_isVoid hglobal hcontrols
      (isVoid_eq_false_of_holdsEntries hvalues)).resolve_left ?_
    rw [classify_eq_characterCard_iff hglobal hcontrols, not_or, not_exists]
    exact ⟨hcard, hstray⟩
  rw [loadDocument, hbook, hentries.eq_filterMap]
  simp only [Catalog.addWorldBook_of_holdsEntries name s.catalog hvalues]

/-- Where the data are stray a card is looked for in them, and nothing else in the document. -/
theorem loadDocument_of_stray (hstray : HasStray doc data) (s : Story) :
    s.loadDocument name doc
      = { s with catalog :=
          { s.catalog with cards := s.catalog.cards ++ (Card.ofJson? name data).toList } } := by
  have hkind : classify name doc = .characterCard :=
    (classify_eq_characterCard_iff hglobal hcontrols).2 (.inr ⟨data, hstray⟩)
  obtain ⟨hdata, -, hobject⟩ := hstray
  have hbook : Catalog.bookOf data = [] := by
    cases data with
    | object members => exact absurd rfl (hobject members)
    | _ => rfl
  rw [loadDocument, hkind]
  simp only [Catalog.addCharacterCard, hdata, hbook, Catalog.addLore, List.filterMap_nil,
    List.append_nil]

end Story

/-! ## Kind and shape -/

namespace DocumentKind

/-- **Kind and shape of a document agree exactly if its data are not stray.** Under a name that is
    not set aside, a document is told apart by its shape, and brings all its entries into the
    catalog if it is no card, exactly if its data are missing, null or an object. A book then adds
    its entries to the story and changes nothing else. If the data are anything else, the document
    adds no entry whatever it holds, and at most a card. -/
theorem takenByShape_iff {name : String} (hglobal : name ≠ "global")
    (hcontrols : name ≠ "controls") (doc : Json) :
    (TakenByShape name doc ↔ ∀ data, ¬ HasStray doc data) ∧
    (¬ IsCardShaped doc → (∀ data, ¬ HasStray doc data) → ∀ values entries,
      Catalog.HoldsEntries doc values → Lore.Accepts name values entries → ∀ s : Story,
        s.loadDocument name doc
          = { s with catalog := { s.catalog with lore := s.catalog.lore ++ entries } }) ∧
    ∀ data, HasStray doc data → ∀ s : Story,
      s.loadDocument name doc
        = { s with catalog :=
            { s.catalog with cards := s.catalog.cards ++ (Card.ofJson? name data).toList } } := by
  have hkind : classify name doc = .characterCard ↔ IsCardShaped doc ∨ ∃ data, HasStray doc data :=
    classify_eq_characterCard_iff hglobal hcontrols
  refine ⟨⟨fun h data hstray => ?_, fun hstray => ⟨?_, ?_⟩⟩, ?_, ?_⟩
  · exact hstray.not_isCardShaped (h.card_iff.1 (hkind.2 (.inr ⟨data, hstray⟩)))
  · rw [hkind, or_iff_left (not_exists.2 hstray)]
  · intro values entries hcard hvalues hentries s
    rw [Story.loadDocument_of_book hglobal hcontrols hcard hstray hvalues hentries]
  · intro hcard hstray values entries hvalues hentries s
    exact Story.loadDocument_of_book hglobal hcontrols hcard hstray hvalues hentries s
  · intro data hstray s
    exact Story.loadDocument_of_stray hglobal hcontrols hstray s

/-! ## A book with a version -/

def dragonEntry : Json :=
  .object [("keys", .array [.string "dragon"]), ("content", .string "The dragon sleeps.")]

/-- A world book with one entry, and with data. -/
def bookWith (data : Json) : Json :=
  .object [("data", data), ("entries", .object [("0", dragonEntry)])]

/-- Null does no harm to a book, and a text in its place makes the book do nothing. -/
theorem takenByShape_bookWith :
    let version := Json.string "1.0"
    ("world" ≠ "global" ∧ "world" ≠ "controls" ∧ TakenByShape "world" (bookWith .null)) ∧
      (∃ entry : Lore, entry.content = "The dragon sleeps." ∧ ∀ s : Story,
        s.loadDocument "world" (bookWith .null)
          = { s with catalog := { s.catalog with lore := s.catalog.lore ++ [entry] } }) ∧
      HasStray (bookWith version) version ∧
      ∀ s : Story, s.loadDocument "world" (bookWith version) = s := by
  intro version
  have hcard : ¬ IsCardShaped (bookWith .null) := by
    rintro ⟨members, ⟨⟩⟩
  have hstray (data : Json) : ¬ HasStray (bookWith .null) data := by
    rintro ⟨⟨⟩, hnull, -⟩
    exact hnull rfl
  have hvalues : Catalog.HoldsEntries (bookWith .null) [dragonEntry] := .inr ⟨_, rfl, rfl⟩
  have hversion : HasStray (bookWith version) version := ⟨rfl, by simp [version], by simp [version]⟩
  have hglobal : "world" ≠ "global" := by decide
  have hcontrols : "world" ≠ "controls" := by decide
  obtain ⟨hshape, hbook, -⟩ := takenByShape_iff hglobal hcontrols (bookWith .null)
  obtain ⟨-, -, hlost⟩ := takenByShape_iff hglobal hcontrols (bookWith version)
  refine ⟨⟨hglobal, hcontrols, hshape.2 hstray⟩,
    ⟨_, ?_, hbook hcard hstray _ _ hvalues (Lore.accepts_filterMap _ _)⟩, hversion, fun s => ?_⟩
  · rfl
  · rw [hlost version hversion s]
    exact congrArg (fun cards => { s with catalog := { s.catalog with cards := cards } })
      (List.append_nil s.catalog.cards)

/-- A text in place of an object turns a book into a card, and its entry is lost. -/
theorem not_takenByShape_bookWith :
    ¬ TakenByShape "world" (bookWith (.string "1.0")) ∧
      ((Story.new {}).loadDocument "world" (bookWith (.string "1.0"))).catalog = {} ∧
      ((Story.new {}).loadDocument "world" (bookWith .null)).catalog.lore.map (·.content)
        = ["The dragon sleeps."] := by
  refine ⟨fun h => ?_, rfl, rfl⟩
  obtain ⟨members, ⟨⟩⟩ := h.card_iff.1 (by decide)

end DocumentKind

end Dramaturg
