import Dramaturg.Proofs.Story.Listing

set_option autoImplicit false

/-! # Reading a story again

Documents add to what a story holds, and what they leave out stays as it was. Reading the story again
therefore begins with forgetting all of them, and comes to the story that its directory makes of the
first settings, whatever the story held. Two facts carry this: no change touches the settings from
before the first document, and documents do not look at where the story came from. -/

namespace Dramaturg

namespace Story

/-! ## Changes -/

/-- What changes a story. -/
inductive Change where
  | document (name : String) (doc : Json)
  | directory (dir : String) (listing : Listing)
  | reload (disk : String → Listing)

/-- The story after a change. A directory that cannot be listed changes nothing. -/
def after (s : Story) : Change → Story
  | .document name doc => s.loadDocument name doc
  | .directory dir listing =>
    match s.loadDirectory dir listing with
    | .error _ => s
    | .ok (_, s) => s
  | .reload disk => (s.reload disk).2

/-- The story after changes, one after the other. -/
def afterAll (s : Story) (changes : List Change) : Story := changes.foldl after s

/-- The story with another source. -/
def withSource (source : Option String) (s : Story) : Story := { s with source := source }

/-! ## What documents leave alone -/

variable (s : Story) (source : Option String)

@[simp] theorem base_loadDocument (name : String) (doc : Json) :
    (s.loadDocument name doc).base = s.base := by
  unfold loadDocument
  cases DocumentKind.classify name doc <;> rfl

theorem loadDocument_withSource (name : String) (doc : Json) :
    (s.withSource source).loadDocument name doc = (s.loadDocument name doc).withSource source := by
  unfold loadDocument
  cases DocumentKind.classify name doc <;> rfl

theorem loadDocuments_cons (name : String) (doc : Json) (docs : List (String × Json)) :
    s.loadDocuments ((name, doc) :: docs) = (s.loadDocument name doc).loadDocuments docs :=
  rfl

@[simp] theorem base_loadDocuments (docs : List (String × Json)) :
    (s.loadDocuments docs).base = s.base := by
  induction docs generalizing s with
  | nil => rfl
  | cons d docs ih =>
    obtain ⟨name, doc⟩ := d
    rw [loadDocuments_cons, ih, base_loadDocument]

theorem loadDocuments_withSource (docs : List (String × Json)) :
    (s.withSource source).loadDocuments docs = (s.loadDocuments docs).withSource source := by
  induction docs generalizing s with
  | nil => rfl
  | cons d docs ih =>
    obtain ⟨name, doc⟩ := d
    rw [loadDocuments_cons, loadDocuments_cons, loadDocument_withSource, ih]

/-! ## Reading again -/

theorem reset_eq : s.reset = (new s.base).withSource s.source := rfl

/-- A directory leaves no trace of where the story came from before. -/
theorem loadDirectory_withSource (dir : String) (listing : Listing) :
    (s.withSource source).loadDirectory dir listing = s.loadDirectory dir listing := by
  cases listing with
  | error failure => rfl
  | ok files =>
    rw [loadDirectory_ok, loadDirectory_ok, loadDocuments_withSource]
    rfl

/-- Reading a story again gives the story of its directory, or without one the story without
    documents. If the directory cannot be listed, that story keeps it in mind. -/
theorem reload_eq (disk : String → Listing) :
    s.reload disk =
      match s.source with
      | none => (.ok 0, new s.base)
      | some dir =>
        match ofDirectory s.base dir (disk dir) with
        | .error failure => (.error failure, (new s.base).withSource (some dir))
        | .ok (loaded, fresh) => (.ok loaded, fresh) := by
  unfold reload ofDirectory
  rw [reset_eq]
  cases s.source with
  | none => rfl
  | some dir =>
    have hload := (new s.base).loadDirectory_withSource (some dir) dir (disk dir)
    cases hfresh : (new s.base).loadDirectory dir (disk dir) with
    | error failure => simp only [hload, hfresh]
    | ok fresh => simp only [hload, hfresh]

/-! ## Any changes -/

theorem base_ofDirectory {settings : Settings} {dir : String} {listing : Listing}
    {loaded : Nat} {fresh : Story} (h : ofDirectory settings dir listing = .ok (loaded, fresh)) :
    fresh.base = settings := by
  cases listing with
  | error failure => cases h
  | ok files =>
    obtain ⟨-, rfl⟩ := Prod.mk.inj (Except.ok.inj h)
    exact base_loadDocuments (new settings) (readable files)

@[simp] theorem base_reload (disk : String → Listing) : (s.reload disk).2.base = s.base := by
  rw [reload_eq]
  cases s.source with
  | none => rfl
  | some dir =>
    dsimp only
    cases hfresh : ofDirectory s.base dir (disk dir) with
    | error failure => rfl
    | ok fresh => exact base_ofDirectory hfresh

theorem base_after (change : Change) : (s.after change).base = s.base := by
  cases change with
  | document name doc => exact s.base_loadDocument name doc
  | directory dir listing =>
    cases listing with
    | error failure => rfl
    | ok files => exact s.base_loadDocuments (readable files)
  | reload disk => exact s.base_reload disk

theorem base_afterAll (changes : List Change) : (s.afterAll changes).base = s.base := by
  unfold afterAll
  induction changes generalizing s with
  | nil => rfl
  | cons change changes ih => rw [List.foldl_cons, ih, base_after]

/-- **Reading afresh.** Whatever documents and directories a story has taken over, and however often
    it was read again, reading it again gives the story that its directory makes of the settings
    from before the first document, with the number of its documents; a story without a directory
    becomes the story without documents. If the directory cannot be listed, nothing is left but the
    settings from before, and the directory to be read the next time. -/
theorem reload_afterAll (base : Settings) (changes : List Change) (disk : String → Listing) :
    let s := (new base).afterAll changes
    (s.source = none → s.reload disk = (.ok 0, new base)) ∧
    (∀ dir files, s.source = some dir → disk dir = .ok files →
      ∃ loaded fresh, ofDirectory base dir (disk dir) = .ok (loaded, fresh) ∧
        s.reload disk = (.ok loaded, fresh)) ∧
    ∀ dir failure, s.source = some dir → disk dir = .error failure →
      s.reload disk = (.error failure, (new base).withSource (some dir)) := by
  intro s
  have hbase : s.base = base := base_afterAll (new base) changes
  have hreload := s.reload_eq disk
  rw [hbase] at hreload
  refine ⟨fun hsource => ?_, fun dir files hsource hdisk => ?_,
    fun dir failure hsource hdisk => ?_⟩
  · rw [hreload, hsource]
  · refine ⟨_, _, by rw [hdisk]; rfl, ?_⟩
    rw [hreload, hsource]
    simp only [hdisk]
    rfl
  · rw [hreload, hsource]
    simp only [hdisk]
    rfl

/-- A directory with two documents, a file that holds no JSON and one that is no document. -/
def drawer : List StoryFile :=
  [⟨"zoo.json", some "\x7b\"entries\": []\x7d"⟩, ⟨"broken.json", some "\x7b"⟩,
    ⟨"controls.json", some "\x7b\"paragraph_spliter\": \"--\"\x7d"⟩, ⟨"notes.txt", some "Tea."⟩]

theorem length_readable_drawer : (readable drawer).length = 2 := by
  rw [(readable_perm drawer).length_eq]
  decide +kernel

/-- A story of controls alone is left without them, one that was read from the drawer comes to the
    drawer, and one that was read from a directory that is gone keeps its name. -/
theorem reload_afterAll_drawer :
    let controls := Json.object [("paragraph_spliter", .string "--")]
    let gone := Failure.io "No such file or directory (os error 2)"
    let disk (dir : String) : Listing := if dir = "story" then .ok drawer else .error gone
    let loose := (new {}).afterAll [.document "controls" controls]
    let shelved := (new {}).afterAll [.directory "story" (.ok []), .document "controls" controls]
    let lost := (new {}).afterAll [.directory "attic" (.ok []), .document "controls" controls]
    (loose.source = none ∧ loose.reload disk = (.ok 0, new {})) ∧
    (shelved.source = some "story" ∧ disk "story" = .ok drawer ∧
      ∃ fresh, ofDirectory {} "story" (.ok drawer) = .ok (2, fresh) ∧
        shelved.reload disk = (.ok 2, fresh)) ∧
    lost.source = some "attic" ∧ disk "attic" = .error gone ∧
      lost.reload disk = (.error gone, (new {}).withSource (some "attic")) := by
  intro controls gone disk loose shelved lost
  have hloose : loose.source = none := rfl
  have hshelved : shelved.source = some "story" := rfl
  have hlost : lost.source = some "attic" := rfl
  have hstory : disk "story" = .ok drawer := if_pos rfl
  have hattic : disk "attic" = .error gone := if_neg (by decide)
  obtain ⟨loaded, fresh, hfresh, hreload⟩ :=
    (reload_afterAll {} _ disk).2.1 "story" drawer hshelved hstory
  obtain rfl : loaded = 2 := by
    rw [hstory] at hfresh
    exact (congrArg Prod.fst (Except.ok.inj hfresh)).symm.trans length_readable_drawer
  exact ⟨⟨hloose, (reload_afterAll {} _ disk).1 hloose⟩,
    ⟨hshelved, hstory, fresh, hstory ▸ hfresh, hreload⟩,
    hlost, hattic, (reload_afterAll {} _ disk).2.2 "attic" gone hlost hattic⟩

end Story

end Dramaturg
