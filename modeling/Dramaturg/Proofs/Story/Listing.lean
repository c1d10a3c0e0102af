import Dramaturg.Story.Directory

set_option autoImplicit false

/-! # Listings in any order

A directory lists its files in an order of its own, and some of them are no documents. Neither
matters to a story: the documents that can be read stand in one order only, since the names of files
differ, and so they are the same list for all listings that hold the same of them. -/

namespace Dramaturg

/-! ## The order of loading -/

namespace StoryFile

/-- Whether a document is loaded before another: `global` before all others, `controls` before all
    others but that, and what is left by name. -/
def Precedes (a b : String) : Prop :=
  a ≠ b ∧ (a = "global" ∨ b ≠ "global" ∧ (a = "controls" ∨ b ≠ "controls" ∧ a < b))

instance (a b : String) : Decidable (Precedes a b) :=
  inferInstanceAs (Decidable (_ ∧ _))

theorem nameLE_iff (a b : String) :
    nameLE a b = true ↔ rank a < rank b ∨ rank a = rank b ∧ a ≤ b := by
  simp [nameLE]

theorem nameLE_trans (a b c : String) (hab : nameLE a b = true) (hbc : nameLE b c = true) :
    nameLE a c = true := by
  rw [nameLE_iff] at *
  rcases hab with hab | ⟨hab, hle⟩
  · rcases hbc with hbc | ⟨hbc, -⟩
    · exact .inl (Nat.lt_trans hab hbc)
    · exact .inl (hbc ▸ hab)
  · rcases hbc with hbc | ⟨hbc, hle'⟩
    · exact .inl (hab ▸ hbc)
    · exact .inr ⟨hab.trans hbc, String.le_trans hle hle'⟩

theorem nameLE_total (a b : String) : (nameLE a b || nameLE b a) = true := by
  rw [Bool.or_eq_true, nameLE_iff, nameLE_iff]
  rcases Nat.lt_trichotomy (rank a) (rank b) with hlt | heq | hgt
  · exact .inl (.inl hlt)
  · rcases String.le_total a b with hle | hle
    · exact .inl (.inr ⟨heq, hle⟩)
    · exact .inr (.inr ⟨heq.symm, hle⟩)
  · exact .inr (.inl hgt)

/-- Of two names one only comes first. -/
theorem Precedes.asymm {a b : String} (h : Precedes a b) : ¬ Precedes b a := by
  obtain ⟨hne, h⟩ := h
  rintro ⟨-, h'⟩
  rcases h with rfl | ⟨hb, rfl | ⟨hb', hlt⟩⟩
  · rcases h' with rfl | ⟨ha, -⟩
    · exact hne rfl
    · exact ha rfl
  · rcases h' with rfl | ⟨-, rfl | ⟨ha, -⟩⟩
    · exact hb rfl
    · exact hne rfl
    · exact ha rfl
  · rcases h' with rfl | ⟨-, rfl | ⟨-, hgt⟩⟩
    · exact hb rfl
    · exact hb' rfl
    · exact String.lt_irrefl a (String.lt_trans hlt hgt)

/-- The names that come first have ranks of their own. -/
theorem rank_cases (name : String) :
    name = "global" ∧ rank name = 0 ∨ name = "controls" ∧ rank name = 1 ∨
      name ≠ "global" ∧ name ≠ "controls" ∧ rank name = 2 := by
  unfold rank
  by_cases hglobal : name = "global"
  · exact .inl ⟨hglobal, if_pos hglobal⟩
  · by_cases hcontrols : name = "controls"
    · exact .inr (.inl ⟨hcontrols, by rw [if_neg hglobal, if_pos hcontrols]⟩)
    · exact .inr (.inr ⟨hglobal, hcontrols, by rw [if_neg hglobal, if_neg hcontrols]⟩)

theorem precedes_of_nameLE {a b : String} (hle : nameLE a b = true) (hne : a ≠ b) :
    Precedes a b := by
  refine ⟨hne, ?_⟩
  rw [nameLE_iff] at hle
  rcases rank_cases a with ⟨ha, -⟩ | ⟨ha, harank⟩ | ⟨ha, ha', harank⟩
  · exact .inl ha
  · rcases rank_cases b with ⟨hb, hbrank⟩ | ⟨hb, -⟩ | ⟨hb, -, -⟩
    · omega
    · exact absurd (ha.trans hb.symm) hne
    · exact .inr ⟨hb, .inl ha⟩
  · rcases rank_cases b with ⟨-, hbrank⟩ | ⟨-, hbrank⟩ | ⟨hb, hb', hbrank⟩
    · omega
    · omega
    · have hle : a ≤ b := (hle.resolve_left (by omega)).2
      exact .inr ⟨hb, .inr ⟨hb', String.not_le.1 fun hge => hne (String.le_antisymm hle hge)⟩⟩

/-! ## Documents -/

/-- Whether a file is named after a document. -/
def IsNamed (f : StoryFile) (name : String) : Prop :=
  f.name = name ++ documentEnding ∧ name ≠ ""

/-- Whether a file holds a document: it is named after it, and its text is read as it. -/
def Holds (f : StoryFile) (name : String) (doc : Json) : Prop :=
  f.IsNamed name ∧ ∃ text, f.content = some text ∧ Json.ofText? text = some doc

theorem documentName?_eq_some_iff {f : StoryFile} {name : String} :
    f.documentName? = some name ↔ f.IsNamed name := by
  unfold IsNamed
  have hname : f.name = name ++ documentEnding ↔
      f.name.toList.reverse = documentEnding.toList.reverse ++ name.toList.reverse := by
    rw [← List.reverse_append, List.reverse_inj, ← String.toList_append, String.toList_inj]
  rw [hname]
  unfold documentName?
  cases hstem : Text.after? documentEnding.toList.reverse f.name.toList.reverse with
  | none =>
    have hother : f.name.toList.reverse ≠
        documentEnding.toList.reverse ++ name.toList.reverse := by
      intro heq
      rw [Text.after?_eq_some_iff.2 heq] at hstem
      cases hstem
    simp [hother]
  | some stem =>
    rw [Text.after?_eq_some_iff] at hstem
    rw [hstem, List.append_cancel_left_eq]
    cases stem with
    | nil =>
      constructor
      · nofun
      · rintro ⟨hrest, hne⟩
        exact absurd (by simpa using hrest) hne
    | cons c cs =>
      constructor
      · intro heq
        obtain rfl := Option.some.inj heq
        simp
      · rintro ⟨hrest, -⟩
        show some (String.ofList (c :: cs).reverse) = some name
        rw [hrest, List.reverse_reverse, String.ofList_toList]

/-- The document in a file, by its name. -/
def document? (f : StoryFile) : Option (String × Json) :=
  (f.documentName?.map fun name => (name, f.content)).bind fun (name, content) =>
    (content.bind Json.ofText?).map fun doc => (name, doc)

theorem document?_eq_some_iff {f : StoryFile} {name : String} {doc : Json} :
    f.document? = some (name, doc) ↔ f.Holds name doc := by
  unfold document? Holds
  rw [← documentName?_eq_some_iff, ← Option.bind_eq_some_iff]
  cases f.documentName? with
  | none => simp
  | some stem =>
    rw [Option.map_some, Option.bind_some, Option.map_eq_some_iff, Option.some_inj]
    grind

end StoryFile

namespace Story

open StoryFile

variable {files : List StoryFile}

/-- The documents of a directory are those in its files. -/
theorem readable_perm (files : List StoryFile) :
    (readable files).Perm (files.filterMap document?) := by
  have hsorted := (List.mergeSort_perm
    (files.filterMap fun f => f.documentName?.map fun name => (name, f.content))
    fun a b => nameLE a.1 b.1).filterMap
      fun (name, content) => (content.bind Json.ofText?).map fun doc => (name, doc)
  rwa [List.filterMap_filterMap] at hsorted

theorem mem_readable {name : String} {doc : Json} :
    (name, doc) ∈ readable files ↔ ∃ f ∈ files, f.Holds name doc := by
  rw [(readable_perm files).mem_iff, List.mem_filterMap]
  simp only [document?_eq_some_iff]

/-- The documents of files whose names differ stand in the order of loading. -/
theorem pairwise_readable (hfiles : (files.map (·.name)).Nodup) :
    (readable files).Pairwise fun a b => Precedes a.1 b.1 := by
  let named := files.filterMap fun f => f.documentName?.map fun name => (name, f.content)
  have hnamed : named.Pairwise fun a b => a.1 ≠ b.1 := by
    rw [List.pairwise_filterMap]
    refine (List.pairwise_map.1 hfiles).imp fun {f g} hne a ha b hb heq => hne ?_
    obtain ⟨name, hf, rfl⟩ := Option.map_eq_some_iff.1 ha
    obtain ⟨name', hg, rfl⟩ := Option.map_eq_some_iff.1 hb
    obtain rfl : name = name' := heq
    rw [(documentName?_eq_some_iff.1 hf).1, (documentName?_eq_some_iff.1 hg).1]
  have hdiffer : (documentsOf files).Pairwise fun a b => a.1 ≠ b.1 :=
    ((List.mergeSort_perm named _).pairwise_iff fun hne => Ne.symm hne).2 hnamed
  have hsorted : (documentsOf files).Pairwise fun a b => nameLE a.1 b.1 = true :=
    List.pairwise_mergeSort (fun a b c => nameLE_trans a.1 b.1 c.1)
      (fun a b => nameLE_total a.1 b.1) named
  rw [readable, List.pairwise_filterMap]
  refine (List.pairwise_and_iff.2 ⟨hsorted, hdiffer⟩).imp fun {a b} hab d hd d' hd' => ?_
  obtain ⟨_, -, rfl⟩ := Option.map_eq_some_iff.1 hd
  obtain ⟨_, -, rfl⟩ := Option.map_eq_some_iff.1 hd'
  exact precedes_of_nameLE hab.1 hab.2

/-- Documents that stand in the order of loading are determined by which they are. -/
theorem eq_of_mem_iff {docs docs' : List (String × Json)}
    (h : docs.Pairwise fun a b => Precedes a.1 b.1)
    (h' : docs'.Pairwise fun a b => Precedes a.1 b.1) (hmem : ∀ d, d ∈ docs ↔ d ∈ docs') :
    docs = docs' := by
  have nodup {docs : List (String × Json)} (h : docs.Pairwise fun a b => Precedes a.1 b.1) :
      docs.Nodup :=
    h.imp fun {a b} hab heq => hab.1 (congrArg Prod.fst heq)
  refine List.Perm.eq_of_pairwise (fun a b _ _ hab hba => absurd hba (Precedes.asymm hab)) h h' ?_
  exact (List.perm_ext_iff_of_nodup (nodup h) (nodup h')).2 hmem

/-- The documents of a directory depend only on what its files hold. -/
theorem readable_congr {files files' : List StoryFile} (hfiles : (files.map (·.name)).Nodup)
    (hfiles' : (files'.map (·.name)).Nodup)
    (h : ∀ name doc, (∃ f ∈ files, f.Holds name doc) ↔ ∃ f ∈ files', f.Holds name doc) :
    readable files = readable files' := by
  apply eq_of_mem_iff (pairwise_readable hfiles) (pairwise_readable hfiles')
  rintro ⟨name, doc⟩
  rw [mem_readable, mem_readable, h]

theorem loadDirectory_ok (dir : String) (files : List StoryFile) (s : Story) :
    s.loadDirectory dir (.ok files)
      = .ok ((readable files).length,
          { s.loadDocuments (readable files) with source := some dir }) :=
  rfl

/-- **Directories in any order.** What a directory does to a story is told by the documents that its
    files hold: each is loaded into the story that those before it leave, `global` first, then
    `controls`, then the others by name, and they are counted. So another listing of the same `.json`
    files comes to the same, whatever their order and whatever other files stand with them, and so
    does the directory without files that cannot be read. -/
theorem loadDirectory_of_listing (s : Story) (dir : String) (files : List StoryFile)
    (hfiles : (files.map (·.name)).Nodup) :
    (∃ docs : List (String × Json),
      (∀ name doc, (name, doc) ∈ docs ↔ ∃ f ∈ files, f.Holds name doc) ∧
      (docs.Pairwise fun a b => Precedes a.1 b.1) ∧
      s.loadDirectory dir (.ok files)
        = .ok (docs.length,
            { docs.foldl (fun story doc => story.loadDocument doc.1 doc.2) s with
              source := some dir })) ∧
    (∀ files' : List StoryFile, (files'.map (·.name)).Nodup →
      (∀ f : StoryFile, (∃ name, f.IsNamed name) → (f ∈ files ↔ f ∈ files')) →
      s.loadDirectory dir (.ok files) = s.loadDirectory dir (.ok files')) ∧
    ∀ usable : StoryFile → Bool, (∀ f ∈ files, ∀ name doc, f.Holds name doc → usable f = true) →
      s.loadDirectory dir (.ok files) = s.loadDirectory dir (.ok (files.filter usable)) := by
  refine ⟨⟨readable files, fun _ _ => mem_readable, pairwise_readable hfiles, rfl⟩, ?_, ?_⟩
  · intro files' hfiles' hsame
    rw [loadDirectory_ok, loadDirectory_ok, readable_congr hfiles hfiles']
    intro name doc
    constructor
    · rintro ⟨f, hf, hholds⟩
      exact ⟨f, (hsame f ⟨name, hholds.1⟩).1 hf, hholds⟩
    · rintro ⟨f, hf, hholds⟩
      exact ⟨f, (hsame f ⟨name, hholds.1⟩).2 hf, hholds⟩
  · intro usable husable
    have hfewer : ((files.filter usable).map (·.name)).Nodup :=
      hfiles.sublist (List.filter_sublist.map _)
    rw [loadDirectory_ok, loadDirectory_ok, readable_congr hfiles hfewer]
    intro name doc
    constructor
    · rintro ⟨f, hf, hholds⟩
      exact ⟨f, List.mem_filter.2 ⟨hf, husable f hf name doc hholds⟩, hholds⟩
    · rintro ⟨f, hf, hholds⟩
      exact ⟨f, (List.mem_filter.1 hf).1, hholds⟩

/-- A directory with four documents, a file that holds no JSON and one that is no document. -/
def bookcase : List StoryFile :=
  [⟨"zoo.json",
      some "\x7b\"entries\": [\x7b\"key\": \"lion\", \"content\": \"Lions roar.\"\x7d]\x7d"⟩,
    ⟨"broken.json", some "\x7b"⟩,
    ⟨"atlas.json", some "\x7b\"entries\": [\x7b\"key\": \"sea\", \"content\": \"Salt.\"\x7d]\x7d"⟩,
    ⟨"notes.txt", some "Tea."⟩,
    ⟨"controls.json", some "\x7b\"paragraph_spliter\": \"--\"\x7d"⟩,
    ⟨"global.json", some "\x7b\"user_name\": \"Ann\"\x7d"⟩]

/-- The documents of the bookcase are loaded in their order, however it is listed: the entries of the
    catalog stand in the order of the names that they come from. They come to the same without the
    other files. -/
theorem loadDirectory_bookcase :
    let s := Story.new {}
    let usable (f : StoryFile) : Bool := f.name != "broken.json" && f.name != "notes.txt"
    (bookcase.map (·.name)).Nodup ∧ (bookcase.reverse.map (·.name)).Nodup ∧
      (∀ f : StoryFile, (∃ name, f.IsNamed name) → (f ∈ bookcase ↔ f ∈ bookcase.reverse)) ∧
      (∀ f ∈ bookcase, ∀ name doc, f.Holds name doc → usable f = true) ∧
      (∃ story, s.loadDirectory "story" (.ok bookcase) = .ok (4, story) ∧
        story.settings.userName = "Ann" ∧ story.settings.paragraphSplitter = "--" ∧
        story.catalog.lore.map (fun e => (e.source, e.content))
          = [("atlas", "Salt."), ("zoo", "Lions roar.")] ∧
        story.source = some "story") ∧
      s.loadDirectory "story" (.ok bookcase) = s.loadDirectory "story" (.ok bookcase.reverse) ∧
      s.loadDirectory "story" (.ok bookcase)
        = s.loadDirectory "story" (.ok (bookcase.filter usable)) := by
  intro s usable
  have hnames : (bookcase.map (·.name)).Nodup := by decide
  have hnames' : (bookcase.reverse.map (·.name)).Nodup := by decide
  have hsame (f : StoryFile) (_ : ∃ name, f.IsNamed name) :
      f ∈ bookcase ↔ f ∈ bookcase.reverse :=
    List.mem_reverse.symm
  have husable : ∀ f ∈ bookcase, ∀ name doc, f.Holds name doc → usable f = true := by
    intro f hf name doc hholds
    have hall : ∀ f ∈ bookcase, f.document?.isSome → usable f = true := by decide +kernel
    exact hall f hf (by rw [document?_eq_some_iff.2 hholds]; rfl)
  obtain ⟨⟨docs, hmem, hordered, hloaded⟩, hlisted, hfiltered⟩ :=
    loadDirectory_of_listing s "story" bookcase hnames
  -- The bookcase lists its documents the other way round.
  obtain ⟨books, hbooks, hprecedes, hcount, huser, hsplitter, hlore⟩ :
      ∃ books, books = (bookcase.filterMap document?).reverse ∧
        (books.Pairwise fun a b => Precedes a.1 b.1) ∧ books.length = 4 ∧
        let story := books.foldl (fun story doc => story.loadDocument doc.1 doc.2) (Story.new {})
        story.settings.userName = "Ann" ∧ story.settings.paragraphSplitter = "--" ∧
          story.catalog.lore.map (fun e => (e.source, e.content))
            = [("atlas", "Salt."), ("zoo", "Lions roar.")] :=
    ⟨_, rfl, by decide +kernel⟩
  have hdocs : docs = books := by
    refine eq_of_mem_iff hordered hprecedes ?_
    rintro ⟨name, doc⟩
    rw [hmem, ← mem_readable, (readable_perm bookcase).mem_iff, hbooks, List.mem_reverse]
  rw [hdocs, hcount] at hloaded
  exact ⟨hnames, hnames', hsame, husable, ⟨_, hloaded, huser, hsplitter, hlore, rfl⟩,
    hlisted _ hnames' hsame, hfiltered usable husable⟩

end Story

end Dramaturg
