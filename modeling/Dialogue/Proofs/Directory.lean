import Dialogue.Command.Run
import Dialogue.Proofs.Encoding
import Dialogue.Proofs.Except
import Dialogue.Proofs.Library

/-!
# What is loaded from a directory

What is loaded from a directory depends on what is in it, and not on the order in which it is listed
(`Disk.Rearranged.loadDirectory`). The files come in the order of the bytes of their names; the
first of them that cannot be loaded is the one that is complained of, and otherwise a session has
the trees and colors of all of them, one after another (`Session.foldl_install`).
-/

namespace Dialogue

namespace Disk

/-- The disks hold the same, though they may list a directory in different orders. -/
structure Rearranged (disk disk' : Disk) : Prop where
  read : disk'.read = disk.read
  list (path : String) :
    (∃ reason, disk.list path = .error reason ∧ disk'.list path = .error reason) ∨
      ∃ found found', disk.list path = .ok found ∧ disk'.list path = .ok found' ∧
        found.Perm found'

/-- The disk that lists every directory the other way round. -/
def reversed (disk : Disk) : Disk :=
  { disk with list := fun path => (disk.list path).map List.reverse }

theorem rearranged_reversed (disk : Disk) : disk.Rearranged disk.reversed where
  read := rfl
  list path := by
    cases h : disk.list path with
    | error reason => exact .inl ⟨reason, rfl, by simp only [reversed, h]; rfl⟩
    | ok found =>
      exact .inr ⟨found, found.reverse, rfl, by simp only [reversed, h]; rfl,
        found.reverse_perm.symm⟩

/-- The names of the content files in a directory, in the order of their bytes. -/
structure ContentNames (found : List (String × Bool)) (names : List String) : Prop where
  mem (name : String) : name ∈ names ↔ (name, true) ∈ found ∧ isContentName name = true
  order : names.Pairwise fun a b => Text.bytes a < Text.bytes b

/-- The names among the entries of a directory that are those of content files. -/
def contentNames (found : List (String × Bool)) : NameSet :=
  Sorted.ofList ((found.filter fun e => e.2 && isContentName e.1).map Prod.fst)

theorem mem_contentNames {found : List (String × Bool)} {name : String} :
    name ∈ (contentNames found).toList ↔ (name, true) ∈ found ∧ isContentName name = true := by
  rw [contentNames, NameSet.mem_ofList]
  simp

theorem contentNames_spec (found : List (String × Bool)) :
    ContentNames found (contentNames found).toList where
  mem _ := mem_contentNames
  order := (contentNames found).sorted.imp Text.lt_iff_bytes_lt.1

theorem contentNames_of_perm {found found' : List (String × Bool)} (h : found.Perm found') :
    contentNames found' = contentNames found := by
  refine Sorted.ext_mem fun name => ?_
  rw [mem_contentNames, mem_contentNames, h.mem_iff]

/-- One content file of a directory, with its path. -/
def loadFile (disk : Disk) (directory name : String) : Except ContentError (String × Content) := do
  return (joinPath directory name, ← disk.loadContent (joinPath directory name))

variable {disk disk' : Disk} {directory name : String} {found : List (String × Bool)}

theorem loadFile_eq_ok {file : String × Content} :
    disk.loadFile directory name = .ok file ↔
      file.1 = joinPath directory name ∧
        disk.loadContent (joinPath directory name) = .ok file.2 := by
  obtain ⟨path, c⟩ := file
  rw [loadFile, bind_eq_ok_iff]
  constructor
  · rintro ⟨c', hc, h⟩
    cases h
    exact ⟨rfl, hc⟩
  · rintro ⟨rfl, hc⟩
    exact ⟨c, hc, rfl⟩

theorem loadFile_eq_error {e : ContentError} :
    disk.loadFile directory name = .error e ↔
      disk.loadContent (joinPath directory name) = .error e := by
  rw [loadFile]
  cases disk.loadContent (joinPath directory name) with
  | error e' => simp [bind, Except.bind]
  | ok c => exact ⟨nofun, nofun⟩

theorem loadDirectory_of_list (h : disk.list directory = .ok found) :
    disk.loadDirectory directory =
      (contentNames found).toList.mapM (disk.loadFile directory) := by
  rw [loadDirectory, h]
  rfl

theorem loadDirectory_of_unlisted {reason : Reason} (h : disk.list directory = .error reason) :
    disk.loadDirectory directory = .error (.unreadable directory reason) := by
  rw [loadDirectory, h]
  rfl

/-- The name is that of a content file in a directory. -/
def HasContent (disk : Disk) (directory name : String) : Prop :=
  ∃ found, disk.list directory = .ok found ∧ (name, true) ∈ found ∧ isContentName name = true

theorem exists_list_of_loadDirectory {files : List (String × Content)}
    (h : disk.loadDirectory directory = .ok files) :
    ∃ found, disk.list directory = .ok found ∧
      (contentNames found).toList.mapM (disk.loadFile directory) = .ok files := by
  cases hlist : disk.list directory with
  | error reason => cases (loadDirectory_of_unlisted hlist).symm.trans h
  | ok found => exact ⟨found, rfl, (loadDirectory_of_list hlist).symm.trans h⟩

/-- Whatever is loaded is the content of some file. -/
theorem hasContent_of_mem {files : List (String × Content)} {file : String × Content}
    (h : disk.loadDirectory directory = .ok files) (hmem : file ∈ files) :
    ∃ name, disk.HasContent directory name ∧
      disk.loadContent (joinPath directory name) = .ok file.2 := by
  obtain ⟨found, hlist, hfiles⟩ := exists_list_of_loadDirectory h
  obtain ⟨name, hname, hfile⟩ := mem_of_mapM_ok hfiles file hmem
  exact ⟨name, ⟨found, hlist, mem_contentNames.1 hname⟩, (loadFile_eq_ok.1 hfile).2⟩

/-- Every content file is loaded. -/
theorem HasContent.exists_mem {files : List (String × Content)}
    (has : disk.HasContent directory name) (h : disk.loadDirectory directory = .ok files) :
    ∃ file ∈ files, disk.loadContent (joinPath directory name) = .ok file.2 := by
  obtain ⟨found, hlist, hname⟩ := has
  obtain ⟨found', hlist', hfiles⟩ := exists_list_of_loadDirectory h
  cases hlist.symm.trans hlist'
  obtain ⟨file, hmem, hfile⟩ := exists_of_mapM_ok hfiles name (mem_contentNames.2 hname)
  exact ⟨file, hmem, (loadFile_eq_ok.1 hfile).2⟩

/-- Where not all content is loaded, the directory cannot be read or one of its files has a
fault. -/
theorem exists_of_loadDirectory_error {e : ContentError}
    (h : disk.loadDirectory directory = .error e) :
    (∃ reason, disk.list directory = .error reason) ∨
      ∃ name, disk.HasContent directory name ∧
        disk.loadContent (joinPath directory name) = .error e := by
  cases hlist : disk.list directory with
  | error reason => exact .inl ⟨reason, rfl⟩
  | ok found =>
    rw [loadDirectory_of_list hlist] at h
    rcases mapM_cases (disk.loadFile directory) (contentNames found).toList with
      ⟨files, -, hfiles⟩ | ⟨before, name, after, e', place, -, fault, hfail⟩
    · cases hfiles.symm.trans h
    · cases hfail.symm.trans h
      refine .inr ⟨name, ⟨found, hlist, mem_contentNames.1 ?_⟩, loadFile_eq_error.1 fault⟩
      rw [place]
      exact List.mem_append_right _ List.mem_cons_self

theorem Rearranged.loadFile (same : disk.Rearranged disk') :
    disk'.loadFile = disk.loadFile := by
  funext directory name
  simp only [Disk.loadFile, loadContent, readText, same.read]

theorem Rearranged.loadDirectory (same : disk.Rearranged disk') (directory : String) :
    disk'.loadDirectory directory = disk.loadDirectory directory := by
  rcases same.list directory with ⟨reason, h, h'⟩ | ⟨found, found', h, h', hperm⟩
  · rw [loadDirectory_of_unlisted h, loadDirectory_of_unlisted h']
  · rw [loadDirectory_of_list h, loadDirectory_of_list h', contentNames_of_perm hperm,
      same.loadFile]

/-- What comes of loading the content files with some names one after another. -/
inductive Loading (disk : Disk) (directory : String) (names : List String) :
    Except ContentError (List (String × Content)) → Prop
  /-- One cannot be loaded; those before it could. -/
  | fails {before after : List String} {name : String} {e : ContentError}
    (place : names = before ++ name :: after)
    (earlier : ∀ other ∈ before, ∃ c, disk.loadContent (joinPath directory other) = .ok c)
    (fault : disk.loadContent (joinPath directory name) = .error e) :
    Loading disk directory names (.error e)
  | loads {files : List (String × Content)}
    (each : List.Forall₂ (fun name file => file.1 = joinPath directory name ∧
      disk.loadContent (joinPath directory name) = .ok file.2) names files) :
    Loading disk directory names (.ok files)

theorem loading_contentNames (h : disk.list directory = .ok found) :
    disk.Loading directory (contentNames found).toList (disk.loadDirectory directory) := by
  rw [loadDirectory_of_list h]
  rcases mapM_cases (disk.loadFile directory) (contentNames found).toList with
    ⟨files, each, hfiles⟩ | ⟨before, name, after, e, place, earlier, fault, hfail⟩
  · rw [hfiles]
    exact .loads (each.imp fun _ _ hfile => loadFile_eq_ok.1 hfile)
  · rw [hfail]
    refine .fails place (fun other hother => ?_) (loadFile_eq_error.1 fault)
    obtain ⟨file, hfile⟩ := earlier other hother
    exact ⟨file.2, (loadFile_eq_ok.1 hfile).2⟩

end Disk

/-! ## Sessions -/

/-- The color that some files give last to the speaker with a name in small letters. In each file
the speakers stand in the order of their names. -/
def Content.latestColor (contents : List Content) (speaker : String) : Option Color :=
  ((contents.flatMap (·.speakers.toList)).reverse.find?
    fun e => Text.lowercase e.1 == speaker).map Prod.snd

namespace Session

theorem foldl_install (contents : List Content) (s : Session) :
    contents.foldl install s =
      { s with
        library := (contents.flatMap Content.trees).foldl Library.register s.library
        config := { s.config with
          speakers := (contents.flatMap (·.speakers.toList)).foldl
            (fun t e => t.set (Text.lowercase e.1) e.2) s.config.speakers } } := by
  induction contents generalizing s with
  | nil => rfl
  | cons c contents ih =>
    rw [List.foldl_cons, ih]
    simp [install, Config.foldl_withSpeaker]

/-- The session has what some content files hold, besides the colors that it was configured with. -/
structure Holds (s : Session) (config : Config) (contents : List Content) : Prop where
  library : s.library.Reflects (contents.flatMap Content.trees)
  color (speaker : String) : s.config.speakers.get? speaker =
    (Content.latestColor contents speaker).or (config.speakers.get? speaker)

theorem holds_foldl_install (config : Config) (contents : List Content) :
    (contents.foldl install { config }).Holds config contents := by
  rw [foldl_install]
  exact ⟨Library.Reflects.empty.foldl_register _,
    Table.get?_foldl_set (fun e : String × Color => Text.lowercase e.1) Prod.snd _ _⟩

end Session

namespace Command
variable {disk disk' : Disk} {directory : String} {config : Config}

theorem openSession_of_error {e : ContentError} (h : disk.loadDirectory directory = .error e) :
    openSession disk directory config = .error (.content e) := by
  rw [openSession, h]
  rfl

theorem openSession_of_nil (h : disk.loadDirectory directory = .ok []) :
    openSession disk directory config = .error (.noContent directory) := by
  rw [openSession, h]
  rfl

theorem openSession_of_ok {files : List (String × Content)} (config : Config)
    (h : disk.loadDirectory directory = .ok files) (hne : files ≠ []) :
    openSession disk directory config =
      .ok ((files.map Prod.snd).foldl Session.install { config }) := by
  have hfiles : files.isEmpty = false := by simpa using hne
  rw [openSession, h, List.foldl_map]
  simp only [Except.mapError, bind, Except.bind, hfiles]
  rfl

/-- Sessions are opened with all content of a directory, of which there is some. -/
theorem openSession_eq_ok {s : Session} : openSession disk directory config = .ok s ↔
    ∃ files, disk.loadDirectory directory = .ok files ∧ files ≠ [] ∧
      s = (files.map Prod.snd).foldl Session.install { config } := by
  constructor
  · intro h
    cases hfiles : disk.loadDirectory directory with
    | error e => cases (openSession_of_error hfiles).symm.trans h
    | ok files =>
      by_cases hne : files = []
      · subst hne
        cases (openSession_of_nil hfiles).symm.trans h
      · cases (openSession_of_ok config hfiles hne).symm.trans h
        exact ⟨files, rfl, hne, rfl⟩
  · rintro ⟨files, hfiles, hne, rfl⟩
    exact openSession_of_ok config hfiles hne

/-- **A directory is what is in it.** In whatever order its entries are listed, the same is loaded
from it. The content files come in the order of the bytes of their names. If one of them cannot be
loaded, the first such is complained of and there is no session; otherwise the session has the trees
and colors of one file after another, later ones in place of earlier ones. -/
theorem opens_alike (same : disk.Rearranged disk') (directory : String) (config : Config) :
    disk'.loadDirectory directory = disk.loadDirectory directory ∧
      openSession disk' directory config = openSession disk directory config ∧
      (∀ reason, disk.list directory = .error reason →
        disk.loadDirectory directory = .error (.unreadable directory reason)) ∧
      (∀ found, disk.list directory = .ok found → ∃ names, Disk.ContentNames found names ∧
        disk.Loading directory names (disk.loadDirectory directory)) ∧
      (∀ e, disk.loadDirectory directory = .error e →
        openSession disk directory config = .error (.content e)) ∧
      ∀ files, disk.loadDirectory directory = .ok files →
        (files = [] ∧ openSession disk directory config = .error (.noContent directory)) ∨
          ∃ s, openSession disk directory config = .ok s ∧
            s.Holds config (files.map Prod.snd) := by
  have hload := same.loadDirectory directory
  refine ⟨hload, ?_, fun _ => Disk.loadDirectory_of_unlisted, fun found hfound => ?_,
    fun _ => openSession_of_error, fun files hfiles => ?_⟩
  · rw [openSession, hload]
    rfl
  · exact ⟨_, Disk.contentNames_spec found, Disk.loading_contentNames hfound⟩
  · by_cases hne : files = []
    · subst hne
      exact .inl ⟨rfl, openSession_of_nil hfiles⟩
    · exact .inr ⟨_, openSession_of_ok config hfiles hne, Session.holds_foldl_install config _⟩

/-- Two inns, of which the second in order is the old one, and drafts that cannot be loaded. -/
def innFiles : Snapshot where
  home := "/game"
  entries := Sorted.ofList [
    ("drafts/b.json", .file (String.toUTF8 "\x7b\x7d")),
    ("drafts/c.json", .file ⟨#[255]⟩),
    ("drafts/d.json", .file (String.toUTF8 "\x7b")),
    ("inns/B.json", .file (String.toUTF8
      ("\x7b\"speakers\":\x7b\"HOST\":\"green\",\"Maid\":\"cyan\"\x7d," ++
        "\"trees\":[[\"inn\",\"New Inn\",\"yard\",[]],[\"road\",\"\",\"way\",[]]]\x7d"))),
    ("inns/a.json", .file (String.toUTF8
      ("\x7b\"speakers\":\x7b\"Host\":\"red\"\x7d," ++
        "\"trees\":[[\"inn\",\"Old Inn\",\"hall\",[]]]\x7d"))),
    ("inns/notes.txt", .file .empty)]

/-- The inns are loaded from a listing the other way round, and of the drafts the first bad one is
complained of. -/
theorem opens_alike_inns :
    (innFiles.disk.reversed.list "inns").toOption =
        some [("notes.txt", true), ("a.json", true), ("B.json", true)] ∧
      (∃ s, openSession innFiles.disk.reversed "inns" {} = .ok s ∧
        (s.library.lookup "inn").map Tree.name = some "Old Inn" ∧
        s.config.speakers.get? "host" = some .red) ∧
      ∃ e, openSession innFiles.disk.reversed "drafts" {} = .error (.content e) ∧
        e.message = "cannot read drafts/c.json: stream did not contain valid UTF-8" := by
  have same := innFiles.disk.rearranged_reversed
  obtain ⟨-, hinns, -, -, -, hopen⟩ := opens_alike same "inns" {}
  obtain ⟨-, hdrafts, -, -, hclosed, -⟩ := opens_alike same "drafts" {}
  refine ⟨by decide +kernel, ?_, ?_⟩
  · have hloaded : (innFiles.disk.loadDirectory "inns").toOption.map (fun files =>
        ((Library.latest ((files.map Prod.snd).flatMap Content.trees) "inn").map Tree.name,
          Content.latestColor (files.map Prod.snd) "host")) =
        some (some "Old Inn", some .red) := by decide +kernel
    obtain ⟨files, hfiles, hloaded⟩ := Option.map_eq_some_iff.1 hloaded
    obtain ⟨hname, hcolor⟩ := Prod.mk.inj hloaded
    obtain ⟨rfl, -⟩ | ⟨s, hs, holds⟩ := hopen files (eq_ok_of_toOption hfiles)
    · cases hname
    · refine ⟨s, hinns.trans hs, ?_, ?_⟩
      · rw [holds.library.lookup, hname]
      · rw [holds.color, hcolor, Option.some_or]
  · have hmessage : (match innFiles.disk.loadDirectory "drafts" with
        | .error e => e.message
        | .ok _ => "") = "cannot read drafts/c.json: stream did not contain valid UTF-8" := by
      decide +kernel
    rw [hdrafts]
    cases hfault : innFiles.disk.loadDirectory "drafts" with
    | error e =>
      rw [hfault] at hmessage
      exact ⟨e, hclosed e hfault, hmessage⟩
    | ok files => simp [hfault] at hmessage

end Command

end Dialogue
