/-
**Texts saved and catalogs updated, one after another.**

A shelf whose base is empty at first is used for any books.  To a caller it is two maps that do not
know of each other: the text of a chapter is the one that was saved last for the directory of its
book and for its index, whatever was updated meanwhile, and the catalogs are what they were,
whatever was saved.  The disk may fail at any time: what succeeds has met no fault, and a chapter
that is looked for when the disk fails is neither there nor missing, but refused with the reason that
the disk gives.  One such reason is always the same, a name on the way that is too long.

Not so for a book whose host stands for the directory above, which may be found without having been
saved; and a chapter is refused, not missing, if the address of its book has no directory.

Main definitions:

* `Deed` — a text that is saved, or a catalog that is updated;
* `Deed.meet` — a deed whose accesses meet faults;
* `Shelf.Does` — deeds one after another, each of which succeeds;
* `Shelf.texts` — the texts that were saved for a chapter;
* `Shelf.Shows` — what a shelf shows after some deeds.

Main results:

* `Shelf.Tidy.on_load_congr`, `Shelf.Tidy.on_loadCatalog_congr` — what is loaded depends on the file
  alone;
* `Shelf.Holds.of_run` — what a deed leaves where the text of a chapter stands;
* `Shelf.Does.shows` — **what is loaded after any deeds**;
* `Shelf.strays` — a chapter that is refused, one that is refused after an update, and one that is
  found though it was not saved.
-/

import ChapterAssembly.Proofs.Catalog.Errands
import ChapterAssembly.Proofs.Spots

set_option relaxedAutoImplicit false
set_option autoImplicit false

namespace ChapterAssembly

open Storing (on Gives)

/-! ### Deeds -/

/-- **A text that is saved, or a catalog that is updated.** -/
inductive Deed where
  | save (book : Book) (chapter : Chapter) (content : Text)
  | update (update : Update)

namespace Deed

variable {s : Shelf} {d d' : Disk} {deed : Deed} {event : Event}

/-- The chapter that it is about. -/
def chapter : Deed → Chapter
  | save _ c _ => c
  | update u => u.chapter

/-- The name of the file that it writes. -/
def file : Deed → Text
  | save _ c _ => Shelf.contentName c.index
  | update _ => Shelf.catalogName

/-- What it does on a disk. -/
def run (s : Shelf) (d : Disk) : Deed → Except StorageError Event × Disk
  | save book c content => on (s.save book c content) d
  | update u => u.run s d

/-- What it does on a disk that fails. -/
def meet (s : Shelf) (faults : List (Option Disk.Fault)) (d : Disk) :
    Deed → Except StorageError Event × Disk
  | save book c content => Storing.meet (s.save book c content) faults d
  | update u => u.meet s faults d

/-- Without faults it does what it does. -/
theorem meet_nil (deed : Deed) : deed.meet s [] d = deed.run s d := by
  cases deed with
  | save book c content => exact (s.follows_save book c content).meet_nil d
  | update u => exact u.meet_nil s d

/-- **A deed that succeeds has met no fault.** -/
theorem run_of_meet {faults : List (Option Disk.Fault)}
    (h : deed.meet s faults d = (.ok event, d')) : deed.run s d = (.ok event, d') := by
  cases deed with
  | save book c content => exact (s.follows_save book c content).on_of_meet h
  | update u => exact Update.run_of_meet h

/-- The text that it saves for a chapter: one with the same directory and the same index. -/
def text? (s : Shelf) (c : Chapter) : Deed → Option Text
  | save _ c' content =>
    if s.directory c'.bookUrl = s.directory c.bookUrl ∧ c'.index = c.index then some content
    else none
  | update _ => none

/-- A deed that succeeds stores its file. -/
theorem store_of_run (h : deed.run s d = (.ok event, d')) :
    ∃ directory bytes, s.directory deed.chapter.bookUrl = .ok directory ∧
      d.store directory (Shelf.join directory deed.file) bytes = (.ok (), d') ∧
      ∀ book c content, deed = .save book c content → bytes = Utf8.encode content := by
  cases deed with
  | save book c content =>
      rw [run, Shelf.on_save] at h
      split at h
      · cases h
      · next directory hdir =>
          simp only at h
          split at h
          · next hstore =>
              cases h
              refine ⟨directory, _, hdir, hstore, ?_⟩
              rintro _ _ _ ⟨⟩
              rfl
          · cases h
  | update u =>
      rw [run, Update.run, Shelf.on_update] at h
      split at h
      · cases h
      · next directory hdir =>
          simp only at h
          split at h
          · cases h
          · split at h
            · next hstore =>
                cases h
                exact ⟨directory, _, hdir, hstore, by simp⟩
            · cases h

theorem ordinary_file (deed : Deed) : Disk.Ordinary deed.file := by
  cases deed with
  | save _ c _ => exact Shelf.ordinary_contentName c.index
  | update _ => exact Shelf.ordinary_catalogName

theorem dot_mem_file (deed : Deed) : '.' ∈ deed.file := by
  cases deed with
  | save _ c _ => exact Shelf.dot_mem_contentName c.index
  | update _ => exact Shelf.dot_mem_catalogName

end Deed

namespace Shelf

variable {s : Shelf} {b : Place} {d d' d'' : Disk} {deed : Deed} {deeds : List Deed}
  {event : Event} {address file : Text} {c : Chapter} {p p' : Spot}

/-- **Deeds one after another**, each of which succeeds, on a disk that may fail. -/
inductive Does (s : Shelf) (d : Disk) : List Deed → Disk → Prop where
  | nil : Does s d [] d
  | snoc {deeds : List Deed} {deed : Deed} {d' d'' : Disk} {event : Event}
      {faults : List (Option Disk.Fault)} :
      Does s d deeds d' → deed.meet s faults d' = (.ok event, d'') →
        Does s d (deeds ++ [deed]) d''

/-- The texts that were saved for a chapter, the last one at the end. -/
def texts (s : Shelf) (deeds : List Deed) (c : Chapter) : List Text :=
  deeds.filterMap (Deed.text? s c)

theorem texts_concat (s : Shelf) (deeds : List Deed) (deed : Deed) (c : Chapter) :
    s.texts (deeds ++ [deed]) c = s.texts deeds c ++ (deed.text? s c).toList := by
  unfold texts
  rw [List.filterMap_append]
  cases htext : deed.text? s c <;> simp [htext]

/-! ### The spots of files -/

/-- The spot is that of a file of the book at an address. -/
structure Spot.Stands (p : Spot) (s : Shelf) (address file : Text) : Prop where
  directory : s.directory address = .ok (p.directory s)
  file : p.file = file

namespace Spot.Stands

theorem contentPath (h : p.Stands s c.bookUrl (contentName c.index)) :
    s.contentPath c = .ok (p.path s) := by
  rw [Shelf.contentPath, h.directory, Spot.path, h.file]
  rfl

theorem catalogPath (h : p.Stands s address catalogName) :
    s.catalogPath address = .ok (p.path s) := by
  rw [Shelf.catalogPath, h.directory, Spot.path, h.file]
  rfl

end Spot.Stands

/-- Two spots are one if they have one directory and one file. -/
theorem Spot.below_eq_iff (s : Shelf) :
    p.below = p'.below ↔ p.directory s = p'.directory s ∧ p.file = p'.file := by
  constructor
  · intro h
    obtain ⟨hhost, hname, hfile⟩ := Spot.below_injective h
    exact ⟨by rw [Spot.directory, Spot.directory, hhost, hname], hfile⟩
  · rintro ⟨hdir, hfile⟩
    have hnames := congrArg Disk.names hdir
    rw [p.names_directory, p'.names_directory] at hnames
    obtain ⟨hhost, hname⟩ : p.host = p'.host ∧ p.name = p'.name := by
      simpa using List.append_cancel_left hnames
    rw [Spot.below, Spot.below, Spot.home, Spot.home, Spot.top, Spot.top, hhost, hname, hfile]

/-- A text and a catalog do not stand in one file. -/
theorem Spot.Stands.below_ne {a a' : Text} {index : UInt32} (hp : p.Stands s a (contentName index))
    (hp' : p'.Stands s a' catalogName) : p.below ≠ p'.below := by
  intro hb
  have hfile := (Spot.below_injective hb).2.2
  rw [hp.file, hp'.file] at hfile
  exact contentName_ne_catalogName _ hfile

theorem exists_stands_content {path : Text} (h : s.contentPath c = .ok path)
    (hc : ¬ Climbs c.bookUrl) :
    ∃ p : Spot, p.Stands s c.bookUrl (contentName c.index) ∧ path = p.path s := by
  obtain ⟨directory, hdir⟩ : ∃ directory, s.directory c.bookUrl = .ok directory := by
    unfold contentPath at h
    cases hdir : s.directory c.bookUrl with
    | error e => simp [hdir, Except.map] at h
    | ok directory => exact ⟨directory, rfl⟩
  obtain ⟨p, hfile, rfl⟩ :=
    exists_spot hdir hc (ordinary_contentName c.index) (dot_mem_contentName c.index)
  have hp : p.Stands s c.bookUrl (contentName c.index) := ⟨hdir, hfile⟩
  exact ⟨p, hp, Except.ok.inj (h.symm.trans hp.contentPath)⟩

/-- No name on the path is longer than a disk can have. -/
def Short (path : Text) : Prop := ∀ x ∈ Disk.names path, Utf8.size x ≤ Disk.longestName

theorem Short.fits (h : Short (p.path s)) : p.Fits := by
  intro x hx
  refine .inr (.inr (h x ?_))
  rw [p.names_path]
  exact List.mem_append_right _ hx

/-! ### What is loaded -/

/-- **Whether a text is stored** is whether its file is there. -/
theorem on_has (s : Shelf) (d : Disk) (c : Chapter) :
    on (s.has c) d =
      (match s.contentPath c with
        | .error e => .error e
        | .ok path => (d.isThere path).mapError fun e => .io e.message, d) := by
  rw [has, Storing.on_bind, Storing.on_lift]
  cases s.contentPath c with
  | error e => rfl
  | ok path => exact Storing.on_ofDisk d _

/-- What is said of a chapter without a text. -/
def absent (c : Chapter) : StorageError :=
  .notFound ("No content stored for chapter ".toList ++ Text.ofNat c.index.toNat ++
    " of ".toList ++ c.bookUrl)

/-- What is said of a path with a name that is too long. -/
def tooLong : StorageError := .io DiskError.nameTooLong.message

namespace Tidy

/-- **A text that stands in its file is loaded.** -/
theorem on_load_of_file (h : s.Tidy b d) (hp : p.Stands s c.bookUrl (contentName c.index))
    {t : Text} (hn : d.node? (b ++ p.below) = some (.file (Utf8.encode t))) :
    (on (s.load c) d).1 = .ok t ∧ (on (s.has c) d).1 = .ok true := by
  have hfit : p.Fits := h.fits_of_node? (by simp [hn])
  have hread : d.read (p.path s) = .ok (Utf8.encode t) := by
    rw [h.read_path hfit, hn]
  have hthere : d.isThere (p.path s) = .ok true := by
    rw [h.isThere_path hfit, hn]
    rfl
  have htext := Disk.readText_eq_ok_iff.2 ⟨_, hread, Utf8.decode?_encode t⟩
  rw [on_load, on_has, hp.contentPath]
  simp only [htext, hthere]
  exact ⟨trivial, rfl⟩

/-- **A text without a file is missing**, or is refused if its path has a name that is too long. -/
theorem on_load_of_none (h : s.Tidy b d) (hp : p.Stands s c.bookUrl (contentName c.index))
    (hn : d.node? (b ++ p.below) = none) :
    ((on (s.load c) d).1 = .error (absent c) ∧ (on (s.has c) d).1 = .ok false) ∨
      (¬ p.Fits ∧ (on (s.load c) d).1 = .error tooLong ∧ (on (s.has c) d).1 = .error tooLong) := by
  have hmissing : d.read (p.path s) = .error .missing → d.isThere (p.path s) = .ok false →
      (on (s.load c) d).1 = .error (absent c) ∧ (on (s.has c) d).1 = .ok false := by
    intro hread hthere
    have htext : d.readText (p.path s) = .error .missing := by
      rw [Disk.readText, hread]
      rfl
    rw [on_load, on_has, hp.contentPath]
    simp only [htext, hthere]
    exact ⟨rfl, rfl⟩
  by_cases hfit : p.Fits
  · refine .inl (hmissing ?_ ?_)
    · rw [h.read_path hfit, hn]
    · rw [h.isThere_path hfit, hn]
      rfl
  · rcases h.read_path_of_not_fits hfit with ⟨hread, hthere⟩ | ⟨hread, hthere⟩
    · exact .inl (hmissing hread hthere)
    · have htext : d.readText (p.path s) = .error .nameTooLong := by
        rw [Disk.readText, hread]
        rfl
      rw [on_load, on_has, hp.contentPath]
      simp only [htext, hthere]
      exact .inr ⟨hfit, rfl, rfl⟩

/-- What is read at a path depends on the file alone. -/
theorem read_congr (h : s.Tidy b d) (h' : s.Tidy b d') (hfit : p.Fits)
    (hn : d'.node? (b ++ p.below) = d.node? (b ++ p.below)) :
    d'.readText (p.path s) = d.readText (p.path s) ∧
      d'.isThere (p.path s) = d.isThere (p.path s) := by
  constructor
  · rw [Disk.readText, Disk.readText, h'.read_path hfit, h.read_path hfit, hn]
  · rw [h'.isThere_path hfit, h.isThere_path hfit, hn]

/-- **What is loaded of a chapter depends on its file alone.** -/
theorem on_load_congr (h : s.Tidy b d) (h' : s.Tidy b d') (hfit : p.Fits)
    (hp : p.Stands s c.bookUrl (contentName c.index))
    (hn : d'.node? (b ++ p.below) = d.node? (b ++ p.below)) :
    (on (s.load c) d').1 = (on (s.load c) d).1 ∧ (on (s.has c) d').1 = (on (s.has c) d).1 := by
  obtain ⟨htext, hthere⟩ := h.read_congr h' hfit hn
  rw [on_load, on_load, on_has, on_has, hp.contentPath]
  simp only [htext, hthere, and_self]

/-- **A catalog that is loaded depends on its file alone.** -/
theorem on_loadCatalog_congr (h : s.Tidy b d) (h' : s.Tidy b d') (hfit : p.Fits)
    (hp : p.Stands s address catalogName)
    (hn : d'.node? (b ++ p.below) = d.node? (b ++ p.below)) :
    (on (s.loadCatalog address) d').1 = (on (s.loadCatalog address) d).1 := by
  obtain ⟨htext, hthere⟩ := h.read_congr h' hfit hn
  rw [on_loadCatalog, on_loadCatalog, hp.catalogPath]
  simp only [Disk.readCatalog, htext, hthere]

end Tidy

/-! ### One deed -/

/-- **A deed that succeeds keeps the shelf tidy**, and changes the file of its spot only. -/
theorem Tidy.of_run (h : s.Tidy b d) (hrun : deed.run s d = (.ok event, d'))
    (hc : ¬ Climbs deed.chapter.bookUrl) : s.Tidy b d' ∧
      ∃ p : Spot, p.Stands s deed.chapter.bookUrl deed.file ∧ ∃ bytes,
        (∀ book c content, deed = .save book c content → bytes = Utf8.encode content) ∧
        ∀ p' : Spot, d'.node? (b ++ p'.below) =
          if p'.below = p.below then some (.file bytes) else d.node? (b ++ p'.below) := by
  obtain ⟨directory, bytes, hdir, hstore, hbytes⟩ := Deed.store_of_run hrun
  obtain ⟨p, hfile, rfl⟩ := exists_spot hdir hc deed.ordinary_file deed.dot_mem_file
  rw [← hfile] at hstore
  exact ⟨h.of_store hstore, p, ⟨hdir, hfile⟩, bytes, hbytes, h.node?_below_of_store hstore⟩

/-- **Where the texts of chapters stand after some deeds.** -/
structure Holds (s : Shelf) (b : Place) (deeds : List Deed) (d : Disk) : Prop where
  tidy : s.Tidy b d
  node : ∀ (c : Chapter) (p : Spot), p.Stands s c.bookUrl (contentName c.index) →
    d.node? (b ++ p.below) = (s.texts deeds c).getLast?.map fun t => .file (Utf8.encode t)
  /-- Nothing is saved without a directory. -/
  refused : ∀ (c : Chapter) (e : StorageError), s.directory c.bookUrl = .error e →
    s.texts deeds c = []

theorem Vacant.holds (h : s.Vacant b d) : s.Holds b [] d where
  tidy := h.tidy
  node c p _ := h.empty p.below (by simp [Spot.below])
  refused _ _ _ := rfl

/-- A deed writes where the text of a chapter stands just if it saves a text for the chapter. -/
theorem Deed.text?_eq {bytes : Bytes} (hp : p.Stands s c.bookUrl (contentName c.index))
    (hp' : p'.Stands s deed.chapter.bookUrl deed.file)
    (hbytes : ∀ book c content, deed = .save book c content → bytes = Utf8.encode content) :
    (deed.text? s c).map (fun t => DiskNode.file (Utf8.encode t)) =
      if p.below = p'.below then some (.file bytes) else none := by
  cases deed with
  | save book c' content =>
      have hbelow : p.below = p'.below ↔
          s.directory c'.bookUrl = s.directory c.bookUrl ∧ c'.index = c.index := by
        have hdir : s.directory c'.bookUrl = .ok (p'.directory s) := hp'.directory
        have hfile : p'.file = contentName c'.index := hp'.file
        rw [Spot.below_eq_iff s, hdir, hp.directory, hp.file, hfile, Except.ok.injEq,
          contentName_injective.eq_iff, eq_comm, eq_comm (a := c.index)]
      rw [Deed.text?, hbytes book c' content rfl]
      by_cases hb : p.below = p'.below
      · rw [if_pos hb, if_pos (hbelow.1 hb)]
        rfl
      · rw [if_neg hb, if_neg (mt hbelow.2 hb)]
        rfl
  | update u =>
      have hp' : p'.Stands s u.chapter.bookUrl catalogName := hp'
      rw [if_neg (hp.below_ne hp')]
      rfl

/-- **What a deed leaves where the text of a chapter stands**: what it saves for the chapter, or
what stood there before. -/
theorem Holds.of_run (h : s.Holds b deeds d) (hrun : deed.run s d = (.ok event, d'))
    (hc : ¬ Climbs deed.chapter.bookUrl) : s.Holds b (deeds ++ [deed]) d' := by
  obtain ⟨htidy, p', hp', bytes, hbytes, hnode⟩ := h.tidy.of_run hrun hc
  refine ⟨htidy, ?_, ?_⟩
  · intro c p hp
    have htext := Deed.text?_eq hp hp' hbytes
    rw [hnode, texts_concat, h.node c p hp]
    cases hsaved : deed.text? s c with
    | none =>
        rw [hsaved] at htext
        have hne : p.below ≠ p'.below := by
          intro hb
          rw [if_pos hb] at htext
          cases htext
        simp [hne]
    | some t =>
        rw [hsaved] at htext
        by_cases hb : p.below = p'.below
        · rw [if_pos hb] at htext
          simp [hb, ← htext]
        · rw [if_neg hb] at htext
          cases htext
  · intro c e he
    have hnone : deed.text? s c = none := by
      cases deed with
      | update u => rfl
      | save book c' content =>
          have hdir : s.directory c'.bookUrl = .ok (p'.directory s) := hp'.directory
          rw [Deed.text?, hdir, he, if_neg (by simp)]
    rw [texts_concat, h.refused c e he, hnone]
    rfl

theorem Does.holds (hv : s.Vacant b d) (h : s.Does d deeds d')
    (hc : ∀ deed ∈ deeds, ¬ Climbs deed.chapter.bookUrl) : s.Holds b deeds d' := by
  induction h with
  | nil => exact hv.holds
  | snoc _ hmeet ih =>
      exact (ih fun deed hmem => hc deed (List.mem_append_left _ hmem)).of_run
        (Deed.run_of_meet hmeet) (hc _ (by simp))

/-! ### Any deeds -/

/-- **What a shelf shows after some deeds**: two maps that do not know of each other.  Whoever looks
may meet faults, and is told their reasons then. -/
structure Shows (s : Shelf) (deeds : List Deed) (d : Disk) : Prop where
  /-- A chapter that was saved has the text that was saved last. -/
  saved : ∀ (c : Chapter) (t : Text), ¬ Climbs c.bookUrl → (s.texts deeds c).getLast? = some t →
    Gives (s.load c) d (.ok t) ∧ Gives (s.has c) d (.ok true)
  /-- A chapter that was not saved is missing, unless its path has a name that is too long. -/
  unsaved : ∀ (c : Chapter) (path : Text), ¬ Climbs c.bookUrl → s.contentPath c = .ok path →
    s.texts deeds c = [] →
    (Gives (s.load c) d (.error (absent c)) ∧ Gives (s.has c) d (.ok false)) ∨
      (¬ Short path ∧ Gives (s.load c) d (.error tooLong) ∧ Gives (s.has c) d (.error tooLong))
  /-- A chapter of a book without a directory is refused. -/
  refused : ∀ (c : Chapter) (e : StorageError), s.directory c.bookUrl = .error e →
    Gives (s.load c) d (.error e) ∧ Gives (s.has c) d (.error e)
  /-- Two chapters have one file only if they have one directory and one index. -/
  apart : ∀ (c c' : Chapter) (path path' : Text), ¬ Climbs c.bookUrl → ¬ Climbs c'.bookUrl →
    s.contentPath c = .ok path → s.contentPath c' = .ok path' → d.placeOf path = d.placeOf path' →
    s.directory c.bookUrl = s.directory c'.bookUrl ∧ c.index = c'.index
  /-- An update changes nothing that is loaded of a chapter. -/
  update_spares : ∀ (u : Update) (faults : List (Option Disk.Fault)) (event : Event) (d' : Disk),
    ¬ Climbs u.chapter.bookUrl → u.meet s faults d = (.ok event, d') →
    ∀ c : Chapter, ¬ Climbs c.bookUrl → (∀ path, s.contentPath c = .ok path → Short path) →
    (∀ r, Gives (s.load c) d' r ↔ Gives (s.load c) d r) ∧
      ∀ r, Gives (s.has c) d' r ↔ Gives (s.has c) d r
  /-- Saving a text changes no catalog that is loaded. -/
  save_spares : ∀ (book : Book) (c : Chapter) (content : Text)
    (faults : List (Option Disk.Fault)) (event : Event) (d' : Disk),
    ¬ Climbs c.bookUrl → Storing.meet (s.save book c content) faults d = (.ok event, d') →
    ∀ address, ¬ Climbs address → (∀ path, s.catalogPath address = .ok path → Short path) →
    ∀ r, Gives (s.loadCatalog address) d' r ↔ Gives (s.loadCatalog address) d r

theorem gives_load_iff {r : Except StorageError Text} :
    Gives (s.load c) d r ↔ (on (s.load c) d).1 = r := (s.follows_load c).gives_iff

theorem gives_has_iff {r : Except StorageError Bool} :
    Gives (s.has c) d r ↔ (on (s.has c) d).1 = r := (s.follows_has c).gives_iff

theorem gives_loadCatalog_iff {r : Except StorageError Catalog} :
    Gives (s.loadCatalog address) d r ↔ (on (s.loadCatalog address) d).1 = r :=
  (s.follows_loadCatalog address).gives_iff

/-- The file of a chapter in a directory has its spot, or the chapter is refused. -/
theorem error_or_stands (s : Shelf) (hc : ¬ Climbs address) (hf : Disk.Ordinary file)
    (hdot : '.' ∈ file) :
    (∃ e, s.directory address = .error e) ∨ ∃ p : Spot, p.Stands s address file := by
  cases hdir : s.directory address with
  | error e => exact .inl ⟨e, rfl⟩
  | ok directory =>
      obtain ⟨p, hfile, rfl⟩ := exists_spot hdir hc hf hdot
      exact .inr ⟨p, hdir, hfile⟩

theorem Holds.loaded (h : s.Holds b deeds d) : s.Shows deeds d where
  saved := by
    intro c t hc ht
    rw [gives_load_iff, gives_has_iff]
    rcases s.error_or_stands hc (ordinary_contentName c.index) (dot_mem_contentName c.index) with
      ⟨e, he⟩ | ⟨p, hp⟩
    · rw [h.refused c e he] at ht
      cases ht
    · refine h.tidy.on_load_of_file hp ?_
      rw [h.node c p hp, ht]
      rfl
  unsaved := by
    intro c path hc hpath hnil
    obtain ⟨p, hp, rfl⟩ := exists_stands_content hpath hc
    have hnone : d.node? (b ++ p.below) = none := by
      rw [h.node c p hp, hnil]
      rfl
    simp only [gives_load_iff, gives_has_iff]
    rcases h.tidy.on_load_of_none hp hnone with hmissing | ⟨hlong, hrefused⟩
    · exact .inl hmissing
    · exact .inr ⟨mt Short.fits hlong, hrefused⟩
  refused := by
    intro c e he
    have hpath : s.contentPath c = .error e := by
      rw [contentPath, he]
      rfl
    rw [gives_load_iff, gives_has_iff, on_load, on_has, hpath]
    exact ⟨rfl, rfl⟩
  apart := by
    intro c c' path path' hc hc' hpath hpath' hplace
    obtain ⟨p, hp, rfl⟩ := exists_stands_content hpath hc
    obtain ⟨p', hp', rfl⟩ := exists_stands_content hpath' hc'
    rw [h.tidy.placeOf_path, h.tidy.placeOf_path] at hplace
    obtain ⟨hdir, hfile⟩ := (Spot.below_eq_iff s).1 (List.append_cancel_left hplace)
    rw [hp.file, hp'.file] at hfile
    exact ⟨by rw [hp.directory, hp'.directory, hdir], contentName_injective hfile⟩
  update_spares := by
    intro u faults event d' hu hmeet c hc hshort
    have hrun : (Deed.update u).run s d = (.ok event, d') := Update.run_of_meet hmeet
    obtain ⟨htidy, p', hp', bytes, -, hnode⟩ := h.tidy.of_run hrun hu
    have hsame : (on (s.load c) d').1 = (on (s.load c) d).1 ∧
        (on (s.has c) d').1 = (on (s.has c) d).1 := by
      rcases s.error_or_stands hc (ordinary_contentName c.index) (dot_mem_contentName c.index) with
        ⟨e, he⟩ | ⟨p, hp⟩
      · rw [on_load, on_load, on_has, on_has, contentPath, he]
        exact ⟨rfl, rfl⟩
      · refine h.tidy.on_load_congr htidy (hshort _ hp.contentPath).fits hp ?_
        rw [hnode, if_neg (hp.below_ne hp')]
    simp only [gives_load_iff, gives_has_iff, hsame, implies_true, and_self]
  save_spares := by
    intro book c content faults event d' hc hmeet address ha hshort r
    have hrun : (Deed.save book c content).run s d = (.ok event, d') :=
      (s.follows_save book c content).on_of_meet hmeet
    obtain ⟨htidy, p', hp', bytes, -, hnode⟩ := h.tidy.of_run hrun hc
    rw [gives_loadCatalog_iff, gives_loadCatalog_iff]
    rcases s.error_or_stands ha ordinary_catalogName dot_mem_catalogName with ⟨e, he⟩ | ⟨p, hp⟩
    · rw [on_loadCatalog, on_loadCatalog, catalogPath, he]
      rfl
    · rw [h.tidy.on_loadCatalog_congr htidy (hshort _ hp.catalogPath).fits hp]
      rw [hnode, if_neg (hp'.below_ne hp).symm]

/-- **What is loaded after any deeds** on a shelf whose base is empty at first. -/
theorem Does.shows (hv : s.Vacant b d) (h : s.Does d deeds d')
    (hc : ∀ deed ∈ deeds, ¬ Climbs deed.chapter.bookUrl) : s.Shows deeds d' :=
  (h.holds hv hc).loaded

/-! ### A shelf in use -/

theorem climbs_iff : Climbs address ↔
    (Url.parse address).toOption.bind Url.hostText? = some "..".toList := by
  unfold Climbs
  cases Url.parse address with
  | error e => simp [Except.toOption]
  | ok u => simp [Except.toOption]

instance (address : Text) : Decidable (Climbs address) := decidable_of_iff _ climbs_iff.symm

theorem Does.snoc_of_isOk (h : s.Does d deeds d') (hok : (deed.run s d').1.isOk = true) :
    s.Does d (deeds ++ [deed]) (deed.run s d').2 := by
  cases hrun : deed.run s d' with
  | mk result d'' =>
      cases result with
      | error e =>
          rw [hrun] at hok
          cases hok
      | ok event => exact h.snoc (deed.meet_nil.trans hrun)

/-- A shelf with a base below the root. -/
def srv : Shelf := { base := "/srv/books" }

/-- A disk with its base, and nothing in it. -/
def diskOfSrv : Disk where
  entries := [(["srv".toList], .directory), (["srv".toList, "books".toList], .directory)]

theorem vacant_srv : srv.Vacant ["srv".toList, "books".toList] diskOfSrv where
  base := by decide
  there := by decide
  empty q hq := by
    obtain ⟨x, r, rfl⟩ := List.exists_cons_of_ne_nil hq
    rfl

/-- A chapter of a book on a host without a domain. -/
def chapterAt (index : UInt32) : Chapter := { bookUrl := "x://h/1", index }

/-- Two texts of a chapter, and in between an entry of another one. -/
def twice : List Deed :=
  [.save {} (chapterAt 123456) ['1'], .update ⟨leapDay, chapterAt 3⟩,
    .save {} (chapterAt 123456) ['2']]

theorem does_twice : ∃ d, srv.Does diskOfSrv twice d := by
  have h₁ := (Does.nil (s := srv) (d := diskOfSrv)).snoc_of_isOk
    (show ((Deed.save {} (chapterAt 123456) ['1']).run _ _).1.isOk = true by decide +kernel)
  have h₂ := h₁.snoc_of_isOk
    (show ((Deed.update ⟨leapDay, chapterAt 3⟩).run _ _).1.isOk = true by decide +kernel)
  exact ⟨_, h₂.snoc_of_isOk
    (show ((Deed.save {} (chapterAt 123456) ['2']).run _ _).1.isOk = true by decide +kernel)⟩

/-- The second of the two texts is loaded, and the other chapter is missing. -/
theorem shows_twice : srv.Vacant ["srv".toList, "books".toList] diskOfSrv ∧
    (∀ deed ∈ twice, ¬ Climbs deed.chapter.bookUrl) ∧
    ∃ d, srv.Does diskOfSrv twice d ∧ srv.Shows twice d ∧
      (on (srv.load (chapterAt 123456)) d).1 = .ok ['2'] ∧
      (on (srv.load (chapterAt 3)) d).1 = .error (absent (chapterAt 3)) := by
  have hclimbs : ¬ Climbs "x://h/1" := by decide +kernel
  have hdeeds : ∀ deed ∈ twice, ¬ Climbs deed.chapter.bookUrl := by
    intro deed hdeed
    simp only [twice, List.mem_cons, List.not_mem_nil, or_false] at hdeed
    rcases hdeed with rfl | rfl | rfl <;> exact hclimbs
  obtain ⟨d, hdoes⟩ := does_twice
  have hshows : srv.Shows twice d := Does.shows vacant_srv hdoes hdeeds
  have hlast : (srv.texts twice (chapterAt 123456)).getLast? = some ['2'] := by decide +kernel
  have hnone : srv.texts twice (chapterAt 3) = [] := by decide +kernel
  have hpath : srv.contentPath (chapterAt 3) = .ok "/srv/books/h/1/00003.txt" := by decide +kernel
  have hshort : Short "/srv/books/h/1/00003.txt" := by
    unfold Short
    decide +kernel
  refine ⟨vacant_srv, hdeeds, d, hdoes, hshows,
    gives_load_iff.1 (hshows.saved _ _ hclimbs hlast).1, ?_⟩
  rcases hshows.unsaved _ _ hclimbs hpath hnone with ⟨hload, -⟩ | ⟨hlong, -⟩
  · exact gives_load_iff.1 hload
  · exact absurd hshort hlong

/-- A book with a name that is too long for a disk. -/
def longAddress : Text := "x://h/".toList ++ List.replicate 256 'a'

/-- **A shelf is not always two maps.**  The chapter of a book whose address is no URL is refused
and not missing; one with a name that is too long is missing before the catalog of another book is
updated, and refused afterwards; and one whose host stands for the directory above is found though
nothing was saved but the text of another book. -/
theorem strays : srv.Vacant ["srv".toList, "books".toList] diskOfSrv ∧
    (on (srv.load { bookUrl := ['x'] }) diskOfSrv).1 = .error (.url .relativeWithoutBase) ∧
    (∃ d, srv.Does diskOfSrv [.update ⟨leapDay, chapterAt 3⟩] d ∧
      (on (srv.has { bookUrl := longAddress }) diskOfSrv).1 = .ok false ∧
      (on (srv.has { bookUrl := longAddress }) d).1 = .error tooLong) ∧
    ∃ d deeds, srv.Does diskOfSrv deeds d ∧
      srv.texts deeds { bookUrl := "x://../books", index := 1 } = [] ∧
      (on (srv.has { bookUrl := "x://../books", index := 1 }) d).1 = .ok true := by
  have hupdate := (Does.nil (s := srv) (d := diskOfSrv)).snoc_of_isOk
    (show ((Deed.update ⟨leapDay, chapterAt 3⟩).run _ _).1.isOk = true by decide +kernel)
  have hsave := (Does.nil (s := srv) (d := diskOfSrv)).snoc_of_isOk
    (show ((Deed.save {} { bookUrl := "x://00001.txt/1" } ['1']).run _ _).1.isOk = true by
      decide +kernel)
  refine ⟨vacant_srv, by decide +kernel, ⟨_, hupdate, by decide +kernel, by decide +kernel⟩,
    _, _, hsave, by decide +kernel, by decide +kernel⟩

end Shelf

end ChapterAssembly
