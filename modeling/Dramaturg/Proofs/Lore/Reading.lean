import Dramaturg.Lore.Catalog

set_option autoImplicit false

/-! # How lore is read

Lore comes as a list of values: the items of a list or the values of a map in a world book, or the
items of a list inside a character card. Each value is read on its own. `Lore.ReadFrom` says which
entry the members of a value give, member by member; `Lore.WellFormed` and `Lore.IsMissing` say when
they give none. A member that is null counts as one that is not there (`Json.present?`), so a
member either is there and of its kind, or its place is taken by another member or a default, or it
spoils the entry. Position and role are of any kind and never spoil one. -/

namespace Dramaturg

/-! ## Members of a record -/

namespace Json

/-- The value of a member that is there and not null. -/
def present? (members : List (String × Json)) (name : String) : Option Json :=
  (members.lookup name).filter (!·.isNull)

/-- The value of a member, read as a kind of data. -/
def presentAs? {α : Type} (members : List (String × Json)) (name : String)
    (read : Json → Option α) : Option α :=
  (present? members name).bind read

/-- A member that is there and not null is of a kind. -/
def Fits {α : Type} (members : List (String × Json)) (name : String)
    (read : Json → Option α) : Prop :=
  ∀ j, present? members name = some j → ∃ v, read j = some v

variable {α β : Type} {members : List (String × Json)} {name : String} {read : Json → Option α}

theorem optional?_eq : optional? members name read =
    match present? members name with
    | none => some none
    | some j => (read j).map some := by
  unfold optional? present?
  cases members.lookup name with
  | none => rfl
  | some j => cases j <;> rfl

/-- Reading goes on with what is there, if that is of its kind. -/
theorem optional?_bind_eq_some_iff {rest : Option α → Option β} {v : β} :
    (optional? members name read >>= rest) = some v ↔
      Fits members name read ∧ rest (presentAs? members name read) = some v := by
  rw [optional?_eq, Fits, presentAs?]
  cases present? members name with
  | none => simp
  | some j => cases hread : read j <;> simp [hread]

/-- Where any value is taken, a member is always of its kind. -/
theorem fits_some : Fits members name some := fun j _ => ⟨j, rfl⟩

theorem presentAs?_some : presentAs? members name some = present? members name :=
  Option.bind_fun_some _

/-- A member of its kind reads as nothing only if it is not there. -/
theorem Fits.presentAs?_eq_none_iff (h : Fits members name read) :
    presentAs? members name read = none ↔ present? members name = none := by
  rw [presentAs?]
  cases hpresent : present? members name with
  | none => simp
  | some j =>
    obtain ⟨v, hv⟩ := h j hpresent
    simp [hv]

/-! ## Kinds of data -/

theorem asInt64?_eq_some_iff {j : Json} {n : Int} :
    j.asInt64? = some n ↔
      j = .number (.integer n) ∧ -(Number.twoTo 63 : Int) ≤ n ∧ n < Number.twoTo 63 := by
  unfold asInt64? asInteger?
  split
  · next m =>
    rw [Option.ite_none_right_eq_some]
    constructor
    · rintro ⟨hm, ⟨⟩⟩
      exact ⟨rfl, hm⟩
    · rintro ⟨⟨⟩, hm⟩
      exact ⟨hm, rfl⟩
  · next hother =>
    constructor
    · rintro ⟨⟩
    · rintro ⟨rfl, -⟩
      exact absurd rfl (hother n)

theorem asString?_eq_some_iff {j : Json} {s : String} : j.asString? = some s ↔ j = .string s := by
  cases j <;> simp [asString?]

end Json

open Json (present? presentAs? Fits)

namespace Lore

/-! ## What an entry is read from -/

/-- No member of an entry is of the wrong kind. -/
structure WellFormed (members : List (String × Json)) : Prop where
  constant : Fits members "constant" Json.asBool?
  content : Fits members "content" Json.asString?
  depth : Fits members "depth" Json.asInt64?
  extensions : Fits members "extensions" Extensions.ofJson?
  enabled : Fits members "enabled" Json.asBool?
  disable : Fits members "disable" Json.asBool?
  keys : Fits members "keys" readKeys?
  key : Fits members "key" readKeys?
  order : Fits members "order" Json.asInt64?
  excludeRecursion : Fits members "excludeRecursion" Json.asBool?
  preventRecursion : Fits members "preventRecursion" Json.asBool?

/-- There are no keys under either name, or there is no content. -/
def IsMissing (members : List (String × Json)) : Prop :=
  (present? members "keys" = none ∧ present? members "key" = none) ∨
    present? members "content" = none

/-- The depth that the extensions of an entry give. -/
def extensionDepth? (members : List (String × Json)) : Option Int :=
  (present? members "extensions").bind fun extensions =>
    (extensions.record? ["depth", "id"] 0).bind fun inner =>
      presentAs? inner "depth" Json.asInt64?

/-- The positions by what names them. -/
def positionOf : Option Json → LorePosition
  | some (.number (.integer 0)) => .beforeCharacters
  | some (.number (.integer 1)) => .afterCharacters
  | some (.string "before_char") => .beforeCharacters
  | some (.string "after_char") => .afterCharacters
  | _ => .anchored

/-- The roles by what names them. -/
def roleOf : Option Json → Role
  | some (.number (.integer 1)) => .user
  | some (.number (.integer 2)) => .assistant
  | _ => .system

/-- An entry is what the members of a value say. -/
structure ReadFrom (source : String) (members : List (String × Json)) (e : Lore) : Prop where
  wellFormed : WellFormed members
  keys : (presentAs? members "keys" readKeys?).or (presentAs? members "key" readKeys?) = some e.keys
  content : presentAs? members "content" Json.asString? = some e.content
  id : e.id = (presentAs? members "id" Json.asInt64?).getD 0
  constant : e.constant = (presentAs? members "constant" Json.asBool?).getD false
  enabled : e.enabled = ((presentAs? members "enabled" Json.asBool?).or
    ((presentAs? members "disable" Json.asBool?).map not)).getD true
  depth : (e.depth : Int)
    = max 0 (((presentAs? members "depth" Json.asInt64?).or (extensionDepth? members)).getD 4)
  order : e.order = (presentAs? members "order" Json.asInt64?).getD 10
  position : e.position = positionOf (present? members "position")
  excludeRecursion :
    e.excludeRecursion = (presentAs? members "excludeRecursion" Json.asBool?).getD false
  preventRecursion :
    e.preventRecursion = (presentAs? members "preventRecursion" Json.asBool?).getD false
  role : e.role = roleOf (present? members "role")
  source : e.source = source

/-! ## Position and role -/

theorem getD_map_position (p : Option Json) :
    (p.map LorePosition.ofJson).getD .anchored = positionOf p := by
  cases p with
  | none => rfl
  | some j =>
    rw [Option.map_some, Option.getD_some, LorePosition.ofJson]
    split
    · next h =>
      obtain ⟨rfl, -⟩ := Json.asInt64?_eq_some_iff.1 h
      rfl
    · next h =>
      obtain ⟨rfl, -⟩ := Json.asInt64?_eq_some_iff.1 h
      rfl
    · next n h0 h1 h =>
      obtain ⟨rfl, -⟩ := Json.asInt64?_eq_some_iff.1 h
      rw [positionOf] <;> simp_all
    · next hnone =>
      split
      · next h =>
        obtain rfl := Json.asString?_eq_some_iff.1 h
        rfl
      · next h =>
        obtain rfl := Json.asString?_eq_some_iff.1 h
        rfl
      · next hbefore hafter =>
        rw [positionOf]
        · rintro ⟨⟩
          cases hnone
        · rintro ⟨⟩
          cases hnone
        · rintro ⟨⟩
          exact hbefore rfl
        · rintro ⟨⟩
          exact hafter rfl

theorem getD_map_role (r : Option Json) : (r.map Role.ofNumber).getD .system = roleOf r := by
  cases r with
  | none => rfl
  | some j =>
    rw [Option.map_some, Option.getD_some, Role.ofNumber]
    split
    · next h =>
      obtain ⟨rfl, -⟩ := Json.asInt64?_eq_some_iff.1 h
      rfl
    · next h =>
      obtain ⟨rfl, -⟩ := Json.asInt64?_eq_some_iff.1 h
      rfl
    · next hone htwo =>
      rw [roleOf]
      · rintro ⟨⟩
        exact hone rfl
      · rintro ⟨⟩
        exact htwo rfl

/-! ## Reading an entry -/

theorem depth_of_ofJson? {j : Json} {x : Extensions} (h : Extensions.ofJson? j = some x) :
    ((j.record? ["depth", "id"] 0).bind fun inner => presentAs? inner "depth" Json.asInt64?)
      = x.depth := by
  obtain ⟨inner, hinner, h⟩ := Option.bind_eq_some_iff.1 h
  rw [Json.optional?_bind_eq_some_iff, Json.optional?_bind_eq_some_iff] at h
  obtain ⟨-, -, ⟨⟩⟩ := h
  rw [hinner]
  rfl

theorem extensionDepth?_eq {members : List (String × Json)}
    (h : Fits members "extensions" Extensions.ofJson?) :
    (presentAs? members "extensions" Extensions.ofJson?).bind (·.depth)
      = extensionDepth? members := by
  rw [presentAs?, extensionDepth?]
  cases hpresent : present? members "extensions" with
  | none => rfl
  | some j =>
    obtain ⟨x, hx⟩ := h j hpresent
    simp only [Option.bind_some, hx, depth_of_ofJson? hx]

theorem enabled_eq (enabled disable : Option Bool) :
    enabled.getD (!disable.getD false) = (enabled.or (disable.map not)).getD true := by
  cases enabled <;> cases disable <;> rfl

theorem depth_eq_iff {depth : Nat} {told : Int} : told.toNat = depth ↔ (depth : Int) = max 0 told := by
  omega

/-- A value gives an entry exactly if its members say so. -/
theorem ofJson?_eq_some_iff {source : String} {j : Json} {e : Lore} :
    ofJson? source j = some e ↔
      ∃ members, j.record? memberNames 0 = some members ∧ ReadFrom source members e := by
  refine Option.bind_eq_some_iff.trans (exists_congr fun members => and_congr_right fun _ => ?_)
  -- from the first member on, as what is read later stands inside of it
  simp only [↓Json.optional?_bind_eq_some_iff, Json.fits_some, Json.presentAs?_some, true_and]
  constructor
  · rintro ⟨hconstant, hcontent, hdepth, hextensions, henabled, hdisable, hkeys, hkey, horder,
      hexclude, hprevent, hrest⟩
    obtain ⟨content, hcontent', hrest⟩ := Option.bind_eq_some_iff.1 hrest
    obtain ⟨keys, hkeys', ⟨⟩⟩ := Option.bind_eq_some_iff.1 hrest
    exact {
      wellFormed := ⟨hconstant, hcontent, hdepth, hextensions, henabled, hdisable, hkeys, hkey,
        horder, hexclude, hprevent⟩
      keys := hkeys'
      content := hcontent'
      id := rfl
      constant := rfl
      enabled := enabled_eq _ _
      depth := by
        rw [← extensionDepth?_eq hextensions]
        exact depth_eq_iff.1 rfl
      order := rfl
      position := getD_map_position _
      excludeRecursion := rfl
      preventRecursion := rfl
      role := getD_map_role _
      source := rfl }
  · intro h
    have kinds := h.wellFormed
    refine ⟨kinds.constant, kinds.content, kinds.depth, kinds.extensions,
      kinds.enabled, kinds.disable, kinds.keys, kinds.key, kinds.order, kinds.excludeRecursion,
      kinds.preventRecursion, ?_⟩
    have hdepth := depth_eq_iff.2 h.depth
    have hid := h.id
    rw [presentAs?] at hid
    rw [h.content, h.keys, enabled_eq, getD_map_position, getD_map_role,
      extensionDepth?_eq kinds.extensions, hdepth, ← hid, ← h.constant, ← h.enabled, ← h.order,
      ← h.position, ← h.excludeRecursion, ← h.preventRecursion, ← h.role, ← h.source]
    rfl

theorem exists_readFrom (source : String) {members : List (String × Json)}
    (h : WellFormed members) (hthere : ¬ IsMissing members) :
    ∃ e, ReadFrom source members e := by
  rw [IsMissing, not_or, ← h.keys.presentAs?_eq_none_iff, ← h.key.presentAs?_eq_none_iff,
    ← h.content.presentAs?_eq_none_iff, ← Option.or_eq_none_iff] at hthere
  obtain ⟨keys, hkeys⟩ := Option.ne_none_iff_exists'.1 hthere.1
  obtain ⟨content, hcontent⟩ := Option.ne_none_iff_exists'.1 hthere.2
  exact ⟨{
    id := _, content := content, keys := keys, constant := _, enabled := _
    depth := (((presentAs? members "depth" Json.asInt64?).or (extensionDepth? members)).getD
      4).toNat
    order := _, position := _, excludeRecursion := _, preventRecursion := _, role := _
    source := source },
    h, hkeys, hcontent, rfl, rfl, rfl, depth_eq_iff.1 rfl, rfl, rfl, rfl, rfl, rfl, rfl⟩

theorem ReadFrom.not_isMissing {source : String} {members : List (String × Json)} {e : Lore}
    (h : ReadFrom source members e) : ¬ IsMissing members := by
  rintro (⟨hkeys, hkey⟩ | hcontent)
  · have := h.keys
    simp [presentAs?, hkeys, hkey] at this
  · have := h.content
    simp [presentAs?, hcontent] at this

/-- A value that gives no entry: it is no record, a member of it is of the wrong kind, or it has no
    keys or no content. -/
def IsRefused (value : Json) : Prop :=
  ∀ members, value.record? memberNames 0 = some members → ¬ WellFormed members ∨ IsMissing members

theorem ofJson?_eq_none_iff {source : String} {value : Json} :
    ofJson? source value = none ↔ IsRefused value := by
  simp only [Option.eq_none_iff_forall_ne_some, ne_eq, ofJson?_eq_some_iff, not_exists, not_and]
  constructor
  · intro hnone members hrecord
    by_cases hkinds : WellFormed members
    · refine .inr (Classical.byContradiction fun hthere => ?_)
      obtain ⟨e, hread⟩ := exists_readFrom source hkinds hthere
      exact hnone e members hrecord hread
    · exact .inl hkinds
  · intro hrefused e members hrecord hread
    rcases hrefused members hrecord with hkinds | hmissing
    · exact hkinds hread.wellFormed
    · exact hread.not_isMissing hmissing

/-! ## Reading a list of values -/

/-- Of a list of values those that give an entry are taken, each on its own and in order. -/
inductive Accepts (source : String) : List Json → List Lore → Prop where
  | nil : Accepts source [] []
  | take {value : Json} {members : List (String × Json)} {entry : Lore} {values : List Json}
      {entries : List Lore} (hrecord : value.record? memberNames 0 = some members)
      (hread : ReadFrom source members entry) (hrest : Accepts source values entries) :
      Accepts source (value :: values) (entry :: entries)
  | refuse {value : Json} {values : List Json} {entries : List Lore} (hrefused : IsRefused value)
      (hrest : Accepts source values entries) : Accepts source (value :: values) entries

theorem accepts_filterMap (source : String) (values : List Json) :
    Accepts source values (values.filterMap (ofJson? source)) := by
  induction values with
  | nil => exact .nil
  | cons value values ih =>
    cases hvalue : ofJson? source value with
    | none =>
      rw [List.filterMap_cons_none hvalue]
      exact .refuse (ofJson?_eq_none_iff.1 hvalue) ih
    | some entry =>
      obtain ⟨members, hrecord, hread⟩ := ofJson?_eq_some_iff.1 hvalue
      rw [List.filterMap_cons_some hvalue]
      exact .take hrecord hread ih

theorem Accepts.eq_filterMap {source : String} {values : List Json} {entries : List Lore}
    (h : Accepts source values entries) : entries = values.filterMap (ofJson? source) := by
  induction h with
  | nil => rfl
  | take hrecord hread _ ih =>
    rw [List.filterMap_cons_some (ofJson?_eq_some_iff.2 ⟨_, hrecord, hread⟩), ih]
  | refuse hrefused _ ih =>
    rw [List.filterMap_cons_none (ofJson?_eq_none_iff.2 hrefused), ih]

theorem accepts_iff {source : String} {values : List Json} {entries : List Lore} :
    Accepts source values entries ↔ entries = values.filterMap (ofJson? source) :=
  ⟨Accepts.eq_filterMap, fun h => h ▸ accepts_filterMap source values⟩

/-- A refused value leaves its neighbours alone. -/
theorem accepts_append_cons_iff {source : String} {before after : List Json} {value : Json}
    {entries : List Lore} (hrefused : IsRefused value) :
    Accepts source (before ++ value :: after) entries ↔ Accepts source (before ++ after) entries := by
  rw [accepts_iff, accepts_iff, List.filterMap_append, List.filterMap_append,
    List.filterMap_cons_none (ofJson?_eq_none_iff.2 hrefused)]

end Lore

namespace Catalog

/-- A document holds values as its entries, in a list or in a map. -/
def HoldsEntries (doc : Json) (values : List Json) : Prop :=
  doc.get? "entries" = some (.array values) ∨
    ∃ members, doc.get? "entries" = some (.object members) ∧ members.map (·.2) = values

/-- A document holds values as the entries of the book inside its data. -/
def HoldsBook (doc : Json) (values : List Json) : Prop :=
  ∃ data book, doc.get? "data" = some data ∧ data.get? "character_book" = some book ∧
    book.get? "entries" = some (.array values)

variable {doc : Json} {values : List Json}

theorem addWorldBook_of_holdsEntries (source : String) (c : Catalog) (h : HoldsEntries doc values) :
    c.addWorldBook source doc
      = { c with lore := c.lore ++ values.filterMap (Lore.ofJson? source) } := by
  rcases h with hlist | ⟨members, hmap, rfl⟩
  · rw [addWorldBook, hlist]
    rfl
  · rw [addWorldBook, hmap]
    rfl

theorem lore_addCharacterCard_of_holdsBook (source : String) (c : Catalog)
    (h : HoldsBook doc values) :
    (c.addCharacterCard source doc).lore
      = c.lore ++ values.filterMap (Lore.ofJson? source) := by
  obtain ⟨data, book, hdata, hbook, hentries⟩ := h
  have hvalues : bookOf data = values := by
    simp [bookOf, hbook, hentries, Json.asArray?]
  rw [addCharacterCard, hdata]
  simp only [addLore, hvalues]

/-- The values that a world book holds in a list or in a map, or the book of a card holds in a list,
    add the same entries: those that the values themselves give, in order. Nothing else of the
    catalog is changed by a world book, and a value that is refused makes no difference. -/
theorem lore_loads_entrywise (source : String) (values : List Json) (c : Catalog) :
    ∃ entries, Lore.Accepts source values entries ∧
      (∀ doc, HoldsEntries doc values →
        c.addWorldBook source doc = { c with lore := c.lore ++ entries }) ∧
      (∀ doc, HoldsBook doc values →
        (c.addCharacterCard source doc).lore = c.lore ++ entries) ∧
      (∀ before value after, values = before ++ value :: after → Lore.IsRefused value →
        Lore.Accepts source (before ++ after) entries) := by
  have haccepts := Lore.accepts_filterMap source values
  refine ⟨_, haccepts, ?_, ?_, ?_⟩
  · intro doc hdoc
    exact addWorldBook_of_holdsEntries source c hdoc
  · intro doc hdoc
    exact lore_addCharacterCard_of_holdsBook source c hdoc
  · rintro before value after rfl hrefused
    exact (Lore.accepts_append_cons_iff hrefused).1 haccepts

/-- An entry under the older names, an entry under both names, and two values that are refused: keys
    of the wrong kind are not made up for by the older name, and a flag is no text. -/
def strongholds : List Json :=
  [.object [("key", .array [.string "castle"]), ("content", .string "The castle is old."),
      ("depth", .number (.integer (-2))), ("constant", .bool true), ("enabled", .bool false),
      ("disable", .bool false), ("order", .number (.integer (-3))), ("role", .ofNat 1)],
    .object [("keys", .ofNat 5), ("key", .string "keep"), ("content", .string "The keep is lost.")],
    .object [("keys", .string "moat"), ("key", .string "ditch"), ("id", .ofNat 12),
      ("content", .string "The moat is deep."), ("position", .string "before_char"),
      ("extensions", .object [("depth", .ofNat 2)]), ("disable", .bool true),
      ("excludeRecursion", .bool true), ("preventRecursion", .bool true), ("role", .ofNat 2)],
    .object [("key", .string "gate"), ("content", .string "The gate is open."),
      ("constant", .string "true")]]

/-- The list in a world book and the list in the book of a card add the same two entries. -/
theorem lore_loads_strongholds :
    let book := Json.object [("entries", .array strongholds)]
    let card := Json.object [("data", .object [("character_book", book)])]
    HoldsEntries book strongholds ∧ HoldsBook card strongholds ∧
      (({} : Catalog).addWorldBook "world" book).lore
        = [{ id := 0, content := "The castle is old.", keys := ["castle"], constant := true,
             enabled := false, depth := 0, order := -3, position := .anchored,
             excludeRecursion := false, preventRecursion := false, role := .user,
             source := "world" },
           { id := 12, content := "The moat is deep.", keys := ["moat"], constant := false,
             enabled := false, depth := 2, order := 10, position := .beforeCharacters,
             excludeRecursion := true, preventRecursion := true, role := .assistant,
             source := "world" }] ∧
      (({} : Catalog).addCharacterCard "world" card).lore
        = (({} : Catalog).addWorldBook "world" book).lore := by
  intro book card
  have hbook : HoldsEntries book strongholds := .inl rfl
  have hcard : HoldsBook card strongholds := ⟨_, book, rfl, rfl, rfl⟩
  obtain ⟨entries, -, hadd, hadd', -⟩ := lore_loads_entrywise "world" strongholds {}
  refine ⟨hbook, hcard, ?_, ?_⟩
  · decide
  · rw [hadd book hbook, hadd' card hcard]

end Catalog

end Dramaturg
