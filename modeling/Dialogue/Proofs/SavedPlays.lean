import Dialogue.Proofs.DeadContent
import Dialogue.Proofs.Elsewhere
import Dialogue.Proofs.Presentation
import Dialogue.Proofs.Profile
import Dialogue.Proofs.Refusals

/-!
# Plays with saved profiles

Plays of the program, each of which starts from the profile that the one before has saved, come to
the same as one session in which the trees are played in turn (`Command.playAll_saves`). Each play
makes a session of its own, but a dialogue makes the same of a profile in all sessions with one
library and scope; the library stays the same as long as nothing is saved among the content
(`Snapshot.Slot.loadDirectory_withFile`), and a profile that is saved is loaded as it was
(`Profile.ofText_toText`).
-/

namespace Dialogue

/-! ## Files for profiles -/

namespace Snapshot

/-- The paths are of one file, whether or not it is there. -/
def SameFile (files : Snapshot) (path path' : String) : Prop :=
  ∃ names name, files.Names path names name ∧ files.Names path' names name

/-- A file can be written under a path, and it is kept in another directory than the one given. Any
file of a disk may be kept, since the working directory may be the root. -/
structure Apart (files : Snapshot) (directory path : String) : Prop where
  writable : ∃ files', files.write path "" = .ok files'
  elsewhere : ∃ place rest names, files.start? path = some (place, rest) ∧
    files.walk place (parts rest).dropLast = .ok (.home names) ∧
    ∀ e, files.locate directory ≠ .ok (.home names, e)

variable {files : Snapshot} {names names' : List String} {name name' path directory : String}
  {bytes : ByteArray}

theorem Names.inj (h : files.Names path names name) (h' : files.Names path names' name') :
    names = names' ∧ name = name' := by
  obtain ⟨place, rest, hstart, hwalk, hlast⟩ := h
  obtain ⟨place', rest', hstart', hwalk', hlast'⟩ := h'
  cases hstart.symm.trans hstart'
  cases hwalk.symm.trans hwalk'
  cases hlast.symm.trans hlast'
  exact ⟨rfl, rfl⟩

/-- A file that can be written has a slot. -/
theorem Apart.exists_slot (h : files.Apart directory path) :
    ∃ names name, files.Slot names name ∧ files.Names path names name ∧
      ∀ e, files.locate directory ≠ .ok (.home names, e) := by
  obtain ⟨⟨files', hwrite⟩, place, rest, names, hstart, hwalk, hother⟩ := h
  obtain ⟨place', rest', folder, name, hstart', hwalk', hlast, hempty, hdot, hdots, hfolder, hfree,
    -⟩ := exists_of_write hwrite
  cases hstart.symm.trans hstart'
  cases hwalk.symm.trans hwalk'
  have hparts := slashless_parts rest
  have hstarts : Slashless place.names := by
    rcases start?_cases hstart with rfl | rfl <;> exact List.forall_mem_nil _
  exact ⟨names, name,
    { directory := hfolder
      free := hfree
      isName := ⟨hparts name (List.mem_of_getLast? hlast), hempty, hdot, hdots⟩
      slashless := slashless_of_walk hwalk
        (fun part hpart => hparts part (List.dropLast_subset _ hpart)) hstarts },
    ⟨place, rest, hstart, hwalk, hlast⟩, hother⟩

namespace Slot

/-- What is written under a path that names the slot goes to it. -/
theorem write_eq (slot : files.Slot names name) (named : files.Names path names name)
    (text : String) :
    files.write path text = .ok (files.withFile (.home (names ++ [name])) text.toUTF8) := by
  obtain ⟨place, rest, hstart, hwalk, hlast⟩ := named
  obtain ⟨ps, hps⟩ := List.getLast?_eq_some_iff.1 hlast
  have hnamed : ((parts rest).reverse.dropWhile (· = "")).reverse = parts rest := by
    rw [hps, List.reverse_concat, List.dropWhile_cons_of_neg (by simpa using slot.isName.nonempty),
      List.reverse_cons, List.reverse_reverse]
  have hname : (parts rest).getLastD "" = name := by
    rw [List.getLastD_eq_getLast?, hlast, Option.getD_some]
  have hfine : ¬(name = "" ∨ name = "." ∨ name = ".." ∨
      (parts rest).length < (parts rest).length) := by
    simp [slot.isName.nonempty, slot.isName.dot, slot.isName.dots]
  have hchild : (Place.home names).child name = .home (names ++ [name]) := rfl
  unfold write
  rw [hstart]
  dsimp only
  rw [hnamed, hwalk, hname]
  simp only [bind, Except.bind, slot.directory, hfine, if_false, hchild]
  cases hentry : files.entry? (.home (names ++ [name])) with
  | none => rfl
  | some e =>
    cases e with
    | file _ => rfl
    | directory => exact (slot.free hentry).elim

theorem read_withFile (slot : files.Slot names name) (named : files.Names path names name) :
    (files.withFile (.home (names ++ [name])) bytes).read path = .ok bytes :=
  Snapshot.read_withFile slot.directory slot.free
    ⟨slot.isName.nonempty, slot.isName.dot, slot.isName.dots⟩ named

theorem names_withFile (slot : files.Slot names name) (named : files.Names path names' name') :
    (files.withFile (.home (names ++ [name])) bytes).Names path names' name' := by
  obtain ⟨place, rest, hstart, hwalk, hlast⟩ := named
  exact ⟨place, rest, hstart, walk_withFile (by simp) slot.free hwalk, hlast⟩

/-- Slots stay slots. -/
theorem slot_withFile (slot : files.Slot names name) (slot' : files.Slot names' name') :
    (files.withFile (.home (names ++ [name])) bytes).Slot names' name' where
  directory := directory_withFile (by simp) slot.free slot'.directory
  free := by
    by_cases heq : pathOf (names' ++ [name']) = pathOf (names ++ [name])
    · rw [pathOf_inj slot'.slashless_concat slot.slashless_concat (by simp) (by simp) heq,
        found_withFile (by simp)]
      simp
    · rw [slot.entry?_withFile heq]
      exact slot'.free
  isName := slot'.isName
  slashless := slot'.slashless

end Slot

end Snapshot

/-! ## Plays and sessions -/

/-- Plays trees one after another on one profile, each with inputs of its own. -/
def Session.startAll (s : Session) (fuel : Nat) (p : Profile) :
    List (String × List String) → Option (Session × Profile)
  | [] => some (s, p)
  | (tree, inputs) :: rest =>
    (s.start fuel tree p inputs).bind fun r => r.session.startAll fuel r.profile rest

namespace Command
open Terminal

/-- One play: of a tree, with what is typed, saved under one path. The next play finds the file
under another path, or under the same. -/
structure Turn where
  tree : String
  stdin : List UInt8
  save : String
  load : String
  colors : Bool
  pacing : Bool

/-- The outcomes of plays one after another, each from the profile that the one before has saved. -/
def playAll (files : Snapshot) (fuel : Nat) (directory : String) (scope : Scope)
    (profile : Option String) : List Turn → Option (List Outcome)
  | [] => some []
  | t :: ts =>
    (runPlay files t.stdin fuel t.colors t.tree directory profile (some t.save) scope
      t.pacing).bind fun o =>
        (playAll o.files fuel directory scope (some t.load) ts).map (o :: ·)

variable {files : Snapshot} {directory : String} {profile : Option String} {scope : Scope}
  {fuel : Nat} {s s' : Session} {p q : Profile} {place : Place} {t : Turn} {ts : List Turn}
  {loaded : List (String × Content)}

/-- What a turn asks of the files, when content is loaded from a place. -/
def Turn.Fits (files : Snapshot) (place : Place) (t : Turn) : Prop :=
  ∃ names name, files.Slot names name ∧ files.Names t.save names name ∧
    files.Names t.load names name ∧ place ≠ .home names

/-- All that a session was opened with is found among the files. -/
structure Stocked (files : Snapshot) (directory : String) (place : Place)
    (loaded : List (String × Content)) (s : Session) : Prop where
  rooted : files.Rooted
  located : files.locate directory = .ok (place, .directory)
  loads : files.disk.loadDirectory directory = .ok loaded
  content : loaded ≠ []
  library : s.library = ((loaded.map Prod.snd).foldl Session.install {}).library

theorem library_foldl_install (contents : List Content) (config : Config) :
    (contents.foldl Session.install { config }).library =
      (contents.foldl Session.install {}).library := by
  rw [Session.foldl_install, Session.foldl_install]

/-- One turn leaves the files as they were, but for the profile that the session has come to. -/
theorem Stocked.runPlay_eq (stocked : Stocked files directory place loaded s)
    (fits : t.Fits files place) (registered : (s.library.lookup t.tree).isSome = true)
    (starting : Starting files.disk profile p) {r : Performance}
    (started : s.start fuel t.tree p (inputLines t.stdin) = some r) :
    ∃ o names name, runPlay files t.stdin fuel t.colors t.tree directory profile (some t.save)
        s.config.scope t.pacing = some o ∧
      o.code = 0 ∧ files.Slot names name ∧ files.Names t.load names name ∧ place ≠ .home names ∧
      o.files = files.withFile (.home (names ++ [name])) r.profile.toText.toUTF8 := by
  obtain ⟨names, name, slot, hsave, hload, hother⟩ := fits
  have hopen := openSession_of_ok (playConfig s.config.scope t.pacing) stocked.loads
    stocked.content
  generalize hfresh : (loaded.map Prod.snd).foldl Session.install
    { config := playConfig s.config.scope t.pacing } = fresh at hopen
  have hlibrary : s.library = fresh.library := by
    rw [stocked.library, ← hfresh]
    exact (library_foldl_install ..).symm
  have hscope : s.config.scope = fresh.config.scope := by
    rw [← hfresh, Session.foldl_install]
    rfl
  have hprepare : prepare files.disk t.tree directory profile s.config.scope t.pacing =
      .ok ⟨fresh, t.tree, p⟩ :=
    prepare_eq_ok_iff.2 ⟨hopen, hlibrary ▸ registered, rfl, starting⟩
  have hprofile := Session.map_profile_start hlibrary hscope fuel t.tree p (inputLines t.stdin)
  rw [started, Option.map_some] at hprofile
  obtain ⟨r', hr', hsame⟩ := Option.map_eq_some_iff.1 hprofile.symm
  have saves := saves_savePerformance files t.colors r' (some t.save)
  obtain ⟨hfine, hfiles⟩ := saves.of_write (slot.write_eq hsave r'.profile.toText)
  refine ⟨_, names, name, ?_, ?_, slot, hload, hother, hsame ▸ hfiles⟩
  · rw [runPlay_of_prepared hprepare, hr', Option.map_some]
  · rw [Outcome.code, hfine]
    rfl

/-- The files that some plays leave. -/
def filesAfter (files : Snapshot) (os : List Outcome) : Snapshot :=
  os.foldl (fun _ o => o.files) files

/-- The path of the profile after some turns. -/
def profileAfter (profile : Option String) (ts : List Turn) : Option String :=
  ts.foldl (fun _ t => some t.load) profile

/-- All turns leave the profile that the session has come to. -/
theorem Stocked.exists_playAll (stocked : Stocked files directory place loaded s)
    (fits : ∀ t ∈ ts, t.Fits files place)
    (registered : ∀ t ∈ ts, (s.library.lookup t.tree).isSome = true)
    (starting : Starting files.disk profile p)
    (started : s.startAll fuel p (ts.map fun t => (t.tree, inputLines t.stdin)) = some (s', q)) :
    ∃ os, playAll files fuel directory s.config.scope profile ts = some os ∧
      os.map Outcome.code = ts.map (fun _ => 0) ∧
      Starting (filesAfter files os).disk (profileAfter profile ts) q := by
  induction ts generalizing files profile s p with
  | nil =>
    cases started
    exact ⟨[], rfl, rfl, starting⟩
  | cons t ts ih =>
    obtain ⟨r, hr, started⟩ := Option.bind_eq_some_iff.1 started
    obtain ⟨hfits, fits⟩ := List.forall_mem_cons.1 fits
    obtain ⟨hregistered, registered⟩ := List.forall_mem_cons.1 registered
    obtain ⟨o, names, name, ho, hcode, slot, hload, hother, hfiles⟩ :=
      stocked.runPlay_eq hfits hregistered starting hr
    have hlibrary := s.library_of_start t.tree hr
    have hscope : r.session.config.scope = s.config.scope := by rw [s.config_of_start t.tree hr]
    have stocked' : Stocked o.files directory place loaded r.session :=
      hfiles ▸ {
        rooted := stocked.rooted
        located := slot.locate_withFile stocked.located (slot.ne_of_locate stocked.located)
        loads := slot.loadDirectory_withFile stocked.rooted stocked.located hother stocked.loads
        content := stocked.content
        library := hlibrary.trans stocked.library }
    have fits' : ∀ t ∈ ts, t.Fits o.files place := by
      intro u hu
      obtain ⟨names', name', slot', hsave', hload', hother'⟩ := fits u hu
      rw [hfiles]
      exact ⟨names', name', slot.slot_withFile slot', slot.names_withFile hsave',
        slot.names_withFile hload', hother'⟩
    have hsaved : o.files.disk.loadProfile t.load = .ok r.profile := by
      rw [hfiles]
      exact Profile.loadProfile_of_read (slot.read_withFile hload)
    obtain ⟨os, hos, hcodes, hlast⟩ := ih stocked' fits' (hlibrary ▸ registered)
      (.loaded hsaved) started
    refine ⟨o :: os, ?_, by rw [List.map_cons, List.map_cons, hcode, hcodes], hlast⟩
    rw [hscope] at hos
    simp only [playAll, ho, Option.bind_some, hos, Option.map_some]

/-- **Plays through saved profiles are one session.** Trees are played one after another, each play
starting from the profile that the one before has saved, and all in files outside of the directory
of the content. If one session with this content plays them one after another on one profile, and
comes to an end with all of them, then none of the plays fails, and the profile in the last file is
the one that the session has come to. -/
theorem playAll_saves (rooted : files.Rooted) {config : Config}
    (opened : openSession files.disk directory config = .ok s)
    (starting : Starting files.disk profile p)
    (saved : ∀ t ∈ ts, files.Apart directory t.save ∧ files.SameFile t.save t.load)
    (registered : ∀ t ∈ ts, (s.library.lookup t.tree).isSome = true)
    (started : s.startAll fuel p (ts.map fun t => (t.tree, inputLines t.stdin)) = some (s', q)) :
    ∃ os, playAll files fuel directory config.scope profile ts = some os ∧
      os.map Outcome.code = ts.map (fun _ => 0) ∧
      ∀ o t, os.getLast? = some o → ts.getLast? = some t →
        o.files.disk.loadProfile t.load = .ok q := by
  obtain ⟨loaded, hloaded, hcontent, rfl⟩ := openSession_eq_ok.1 opened
  obtain ⟨found, hlist, -⟩ := Disk.exists_list_of_loadDirectory hloaded
  obtain ⟨place, hlocate, -⟩ := Snapshot.list_eq_ok.1 hlist
  have stocked : Stocked files directory place loaded
      ((loaded.map Prod.snd).foldl Session.install { config }) :=
    ⟨rooted, hlocate, hloaded, hcontent, library_foldl_install ..⟩
  have fits : ∀ t ∈ ts, t.Fits files place := by
    intro t ht
    obtain ⟨hapart, names', name', hsave', hload'⟩ := saved t ht
    obtain ⟨names, name, slot, hsave, hother⟩ := hapart.exists_slot
    obtain ⟨rfl, rfl⟩ := hsave.inj hsave'
    refine ⟨names, name, slot, hsave, hload', ?_⟩
    rintro rfl
    exact hother _ hlocate
  have hscope : ((loaded.map Prod.snd).foldl Session.install { config }).config.scope =
      config.scope := by rw [Session.foldl_install]
  obtain ⟨os, hos, hcodes, hlast⟩ := stocked.exists_playAll fits registered starting started
  refine ⟨os, hscope ▸ hos, hcodes, fun o t ho ht => ?_⟩
  obtain ⟨os, rfl⟩ := List.getLast?_eq_some_iff.1 ho
  obtain ⟨ts, rfl⟩ := List.getLast?_eq_some_iff.1 ht
  rw [filesAfter, profileAfter, List.foldl_concat, List.foldl_concat] at hlast
  cases hlast with
  | loaded h => exact h

/-- A field where work is paid. -/
def fieldFiles : Snapshot where
  home := "/game"
  entries := Sorted.ofList [("content/toil.json", .file (String.toUTF8
    ("\x7b\"trees\":[[\"toil\",\"\",\"field\",[[\"field\",null,[],null,[" ++
      "[\"Work\",\"barn\",\"neutral\",null,[\x7b\"kind\":\"add_gold\",\"amount\":5\x7d]]]]," ++
      "[\"barn\",null,[],null,[],null,true]]]]\x7d")))]

/-- Work on two days. -/
def fieldTurns : List Turn :=
  [⟨"toil", [49, 10], "day.json", "./content/../day.json", false, false⟩,
    ⟨"toil", [55, 10, 49], "next.json", "next.json", true, true⟩]

theorem playAll_saves_field :
    ∃ s s' q os o, openSession fieldFiles.disk "content" {} = .ok s ∧
      s.startAll 5 {} [("toil", ["1"]), ("toil", ["7", "1"])] = some (s', q) ∧
      q.player.gold.val = 10 ∧
      playAll fieldFiles 5 "content" .global none fieldTurns = some os ∧
      os.map Outcome.code = [0, 0] ∧ os.getLast? = some o ∧
      o.files.disk.loadProfile "next.json" = .ok q := by
  have rooted : fieldFiles.Rooted := ⟨"game", rfl⟩
  have hplayed : ((openSession fieldFiles.disk "content" {}).toOption.bind fun s =>
      (s.startAll 5 {} [("toil", ["1"]), ("toil", ["7", "1"])]).map fun r =>
        (r.2.player.gold.val, (s.library.lookup "toil").isSome)) = some (10, true) := by
    decide +kernel
  obtain ⟨s, hopen, hplayed⟩ := Option.bind_eq_some_iff.1 hplayed
  obtain ⟨⟨s', q⟩, hstart, hplayed⟩ := Option.map_eq_some_iff.1 hplayed
  obtain ⟨hgold, hlookup⟩ := Prod.mk.inj hplayed
  have hopen := eq_ok_of_toOption hopen
  have hplace : (fieldFiles.locate "content").toOption.map Prod.fst =
      some (.home ["content"]) := by decide +kernel
  have apart (path : String) (hwrite : (fieldFiles.write path "").toOption.isSome = true)
      (hstart : fieldFiles.start? path = some (.home [], path))
      (hparts : (Snapshot.parts path).dropLast = []) : fieldFiles.Apart "content" path := by
    obtain ⟨files', hwrite⟩ := Option.isSome_iff_exists.1 hwrite
    refine ⟨⟨files', eq_ok_of_toOption hwrite⟩, .home [], path, [], hstart, by rw [hparts]; rfl,
      fun e h => ?_⟩
    rw [h] at hplace
    exact absurd hplace (by simp [Except.toOption])
  have saved : ∀ t ∈ fieldTurns, fieldFiles.Apart "content" t.save ∧
      fieldFiles.SameFile t.save t.load := by
    refine List.forall_mem_cons.2 ⟨⟨apart _ (by decide +kernel) rfl rfl, [], "day.json",
      ⟨.home [], "day.json", rfl, rfl, rfl⟩, ⟨.home [], "./content/../day.json", rfl, ?_, rfl⟩⟩,
      List.forall_mem_singleton.2 ⟨apart _ (by decide +kernel) rfl rfl, [], "next.json",
        ⟨.home [], "next.json", rfl, rfl, rfl⟩, ⟨.home [], "next.json", rfl, rfl, rfl⟩⟩⟩
    exact eq_ok_of_toOption (by decide +kernel)
  have registered : ∀ t ∈ fieldTurns, (s.library.lookup t.tree).isSome = true := by
    simpa [fieldTurns] using hlookup
  have hinputs : fieldTurns.map (fun t => (t.tree, inputLines t.stdin)) =
      [("toil", ["1"]), ("toil", ["7", "1"])] := by decide +kernel
  rw [← hinputs] at hstart
  obtain ⟨os, hos, hcodes, hlast⟩ :=
    playAll_saves rooted hopen .anew saved registered hstart
  have hne : os ≠ [] := by
    rintro rfl
    simp [fieldTurns] at hcodes
  have hend : os.getLast? = some (os.getLast hne) := List.getLast?_eq_some_getLast hne
  have hload := hlast _ ⟨"toil", [55, 10, 49], "next.json", "next.json", true, true⟩ hend rfl
  rw [hinputs] at hstart
  exact ⟨s, s', q, os, os.getLast hne, hopen, hstart, hgold, hos, hcodes, hend, hload⟩

end Command

end Dialogue
