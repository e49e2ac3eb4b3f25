import Dialogue.Proofs.Directory
import Dialogue.Proofs.Terminal

/-!
# Plays that are refused

A tree is played when there is content, all of which can be loaded, when a tree with the id is among
it, and when the profile to start from can be loaded (`prepare_eq_ok_iff`, `exists_prepare`). What
stands in the way of this is a `Hindrance`; then the task fails before it writes anything, and it
leaves all files as they are. A tree without its root is no hindrance to the task, but its dialogue
cannot be entered: it is played as one that the player walks away from.
-/

namespace Dialogue.Command
open Terminal

/-- What a play starts from: a profile that is loaded, or else the one of a new player. -/
inductive Starting (disk : Disk) : Option String → Profile → Prop
  | anew : Starting disk none {}
  | loaded {path : String} {p : Profile} (h : disk.loadProfile path = .ok p) :
    Starting disk (some path) p

/-- The configuration of a play. -/
def playConfig (scope : Scope) (pacing : Bool) : Config :=
  { pacing := if pacing then {} else .disabled, scope }

/-- What keeps a tree from being played. -/
inductive Hindrance (disk : Disk) (tree directory : String) (profile : Option String) : Prop
  | unlisted {reason : Reason} (h : disk.list directory = .error reason)
  | bare (h : ∀ name, ¬disk.HasContent directory name)
  | faulty {name : String} {e : ContentError} (has : disk.HasContent directory name)
    (fault : disk.loadContent (joinPath directory name) = .error e)
  | unregistered (h : ∀ name c, disk.HasContent directory name →
    disk.loadContent (joinPath directory name) = .ok c → ∀ t ∈ c.trees, t.id ≠ tree)
  | unprofiled {path : String} {e : ProfileError} (given : profile = some path)
    (fault : disk.loadProfile path = .error e)

variable {disk : Disk} {tree directory : String} {profile : Option String} {scope : Scope}
  {pacing : Bool} {config : Config} {s : Session}

/-! ## What it takes to play -/

theorem prepare_eq_ok_iff {ready : Ready} :
    prepare disk tree directory profile scope pacing = .ok ready ↔
      openSession disk directory (playConfig scope pacing) = .ok ready.session ∧
        (ready.session.library.lookup tree).isSome = true ∧ ready.tree = tree ∧
        Starting disk profile ready.profile := by
  constructor
  · intro h
    obtain ⟨session, hopen, h⟩ := exists_of_bind_ok h
    dsimp only at h
    split at h
    · cases h
    · next hlookup =>
      have hlookup : (session.library.lookup tree).isSome = true := by
        simpa [Option.isSome_iff_ne_none] using hlookup
      cases profile with
      | none =>
        cases h
        exact ⟨hopen, hlookup, rfl, .anew⟩
      | some path =>
        obtain ⟨p, hp, h⟩ := exists_of_bind_ok h
        cases h
        exact ⟨hopen, hlookup, rfl, .loaded (eq_ok_of_mapError hp)⟩
  · obtain ⟨session, id, p⟩ := ready
    rintro ⟨hopen, hlookup, rfl, starting⟩
    have hlookup : (session.library.lookup id).isNone = false := by simpa using hlookup
    rw [playConfig] at hopen
    simp only [prepare, hopen, bind, Except.bind, hlookup]
    cases starting with
    | anew => rfl
    | loaded h => simp only [h]; rfl

/-- The trees that can be looked up are those of the content files. -/
theorem isSome_lookup_of_openSession (tree : String)
    (h : openSession disk directory config = .ok s) :
    (s.library.lookup tree).isSome = true ↔
      ∃ name c, disk.HasContent directory name ∧
        disk.loadContent (joinPath directory name) = .ok c ∧ ∃ t ∈ c.trees, t.id = tree := by
  obtain ⟨files, hfiles, -, rfl⟩ := openSession_eq_ok.1 h
  rw [Library.isSome_lookup, (Session.holds_foldl_install config _).library.ids]
  simp only [List.mem_map, List.mem_flatMap]
  constructor
  · rintro ⟨t, ⟨c, ⟨file, hfile, rfl⟩, ht⟩, hid⟩
    obtain ⟨name, has, hload⟩ := Disk.hasContent_of_mem hfiles hfile
    exact ⟨name, file.2, has, hload, t, ht, hid⟩
  · rintro ⟨name, c, has, hload, t, ht, hid⟩
    obtain ⟨file, hmem, hfile⟩ := has.exists_mem hfiles
    cases hfile.symm.trans hload
    exact ⟨t, ⟨file.2, ⟨file, hmem, rfl⟩, ht⟩, hid⟩

/-- Nothing that was prepared was hindered. -/
theorem Hindrance.not_prepared (hindered : Hindrance disk tree directory profile) (ready : Ready) :
    prepare disk tree directory profile scope pacing ≠ .ok ready := by
  intro prepared
  obtain ⟨hopen, hlookup, -, starting⟩ := prepare_eq_ok_iff.1 prepared
  obtain ⟨files, hfiles, hne, -⟩ := openSession_eq_ok.1 hopen
  cases hindered with
  | unlisted h => cases (Disk.loadDirectory_of_unlisted h).symm.trans hfiles
  | bare h =>
    obtain ⟨file, hfile⟩ := List.exists_mem_of_ne_nil files hne
    obtain ⟨name, has, -⟩ := Disk.hasContent_of_mem hfiles hfile
    exact h name has
  | faulty has fault =>
    obtain ⟨file, -, hload⟩ := has.exists_mem hfiles
    cases hload.symm.trans fault
  | unregistered h =>
    obtain ⟨name, c, has, hload, t, ht, hid⟩ := (isSome_lookup_of_openSession tree hopen).1 hlookup
    exact h name c has hload t ht hid
  | unprofiled given fault =>
    subst given
    cases starting with
    | loaded h => cases h.symm.trans fault

/-- What is not hindered is prepared. -/
theorem exists_prepare (free : ¬Hindrance disk tree directory profile) (scope : Scope)
    (pacing : Bool) :
    ∃ ready, prepare disk tree directory profile scope pacing = .ok ready := by
  cases hfiles : disk.loadDirectory directory with
  | error e =>
    rcases Disk.exists_of_loadDirectory_error hfiles with ⟨reason, h⟩ | ⟨name, has, fault⟩
    · exact (free (.unlisted h)).elim
    · exact (free (.faulty has fault)).elim
  | ok files =>
    have hne : files ≠ [] := by
      rintro rfl
      refine free (.bare fun name has => ?_)
      obtain ⟨file, hmem, -⟩ := has.exists_mem hfiles
      cases hmem
    have hopen := openSession_of_ok (playConfig scope pacing) hfiles hne
    have hlookup := (isSome_lookup_of_openSession tree hopen).2 <| by
      by_contra hnone
      exact free (.unregistered fun name c has hload t ht hid =>
        hnone ⟨name, c, has, hload, t, ht, hid⟩)
    cases profile with
    | none => exact ⟨⟨_, tree, {}⟩, prepare_eq_ok_iff.2 ⟨hopen, hlookup, rfl, .anew⟩⟩
    | some path =>
      cases hprofile : disk.loadProfile path with
      | error e => exact (free (.unprofiled rfl hprofile)).elim
      | ok p => exact ⟨⟨_, tree, p⟩, prepare_eq_ok_iff.2 ⟨hopen, hlookup, rfl, .loaded hprofile⟩⟩

/-! ## Tasks -/

theorem runPlay_of_error {files : Snapshot} {e : Failure}
    (h : prepare files.disk tree directory profile scope pacing = .error e) (stdin : List UInt8)
    (fuel : Nat) (colors : Bool) (save : Option String) :
    runPlay files stdin fuel colors tree directory profile save scope pacing =
      some ⟨"", some e, files⟩ := by
  unfold runPlay
  rw [h]

/-- **A play that is hindered fails cleanly, and no other does.** If the directory or a content file
in it cannot be loaded, if there is none, if no tree has the id, or if the profile cannot be loaded,
then the task writes nothing, fails for some reason and leaves all files as they are. Otherwise it
plays the tree from its root; but a tree without its root is played as one that the player walks
away from, and the profile is saved as it was. -/
theorem play_or_fail (files : Snapshot) (stdin : List UInt8) (fuel : Nat) (colors : Bool)
    (tree directory : String) (profile save : Option String) (scope : Scope) (pacing : Bool) :
    (Hindrance files.disk tree directory profile →
      ∃ o e, runPlay files stdin fuel colors tree directory profile save scope pacing = some o ∧
        o.code = 1 ∧ o.failure = some e ∧ o.stdout = "" ∧ o.files = files) ∧
      (¬Hindrance files.disk tree directory profile →
        ∃ s t p, openSession files.disk directory (playConfig scope pacing) = .ok s ∧
          s.library.lookup tree = some t ∧ Starting files.disk profile p ∧
          (∀ root, t.rootNode? = some root →
            runPlay files stdin fuel colors tree directory profile save scope pacing =
              ((s.stage tree).run fuel root p (inputLines stdin)).map fun r =>
                savePerformance files colors (s.performance tree r) save) ∧
          (t.rootNode? = none →
            runPlay files stdin fuel colors tree directory profile save scope pacing =
              some (savePerformance files colors
                (s.refuse p (inputLines stdin) .rootNotFound) save))) := by
  constructor
  · intro hindered
    cases hprepare : prepare files.disk tree directory profile scope pacing with
    | ok ready => exact (hindered.not_prepared ready hprepare).elim
    | error e => exact ⟨_, e, runPlay_of_error hprepare .., rfl, rfl, rfl, rfl⟩
  · intro free
    obtain ⟨ready, prepared⟩ := exists_prepare free scope pacing
    obtain ⟨hopen, hlookup, rfl, starting⟩ := prepare_eq_ok_iff.1 prepared
    obtain ⟨t, found⟩ := Option.isSome_iff_exists.1 hlookup
    have hrun := runPlay_of_prepared prepared stdin fuel colors save
    refine ⟨ready.session, t, ready.profile, hopen, found, starting, fun root entry => ?_,
      fun entry => ?_⟩
    · rw [hrun, Session.start_of_entered found entry, Option.map_map]
      rfl
    · rw [hrun, Session.start_of_rootless found entry]
      rfl

/-- Without its profile the fork cannot be played, and with none it is played until the input
ends. -/
theorem play_or_fail_fork :
    (∃ o e, runPlay forkFiles [49, 10] 9 false "road" "." (some "lost.json") (some "out.json")
        .global false = some o ∧
      o.code = 1 ∧ o.failure = some e ∧ o.stdout = "" ∧ o.files = forkFiles) ∧
      ∃ s t root p r, openSession forkFiles.disk "." (playConfig .global false) = .ok s ∧
        s.library.lookup "road" = some t ∧ t.rootNode? = some root ∧
        Starting forkFiles.disk none p ∧
        (s.stage "road").run 9 root p ["1"] = some r ∧
        runPlay forkFiles [49, 10] 9 false "road" "." none (some "out.json") .global false =
          some (savePerformance forkFiles false (s.performance "road" r) (some "out.json")) := by
  obtain ⟨hfail, -⟩ := play_or_fail forkFiles [49, 10] 9 false "road" "." (some "lost.json")
    (some "out.json") .global false
  obtain ⟨-, hplay⟩ := play_or_fail forkFiles [49, 10] 9 false "road" "." none (some "out.json")
    .global false
  have hlost : forkFiles.disk.loadProfile "lost.json" =
      .error (.inaccessible "lost.json" .notFound) := rfl
  have hrun : ((openSession forkFiles.disk "." (playConfig .global false)).toOption.bind fun s =>
      (s.library.lookup "road").bind fun t => t.rootNode?.bind fun root =>
        (s.stage "road").run 9 root {} ["1"]).isSome = true := by decide +kernel
  obtain ⟨r, hrun⟩ := Option.isSome_iff_exists.1 hrun
  simp only [Option.bind_eq_some_iff] at hrun
  obtain ⟨s, hopen, t, found, root, entry, hrun⟩ := hrun
  have hopen := eq_ok_of_toOption hopen
  have prepared : prepare forkFiles.disk "road" "." none .global false = .ok ⟨s, "road", {}⟩ :=
    prepare_eq_ok_iff.2 ⟨hopen, Option.isSome_of_eq_some found, rfl, .anew⟩
  obtain ⟨_, _, p, hopen', found', starting, hroot, -⟩ :=
    hplay fun hindered => hindered.not_prepared _ prepared
  cases hopen.symm.trans hopen'
  cases found.symm.trans found'
  cases starting
  have hinputs : inputLines [49, 10] = ["1"] := by decide +kernel
  refine ⟨hfail (.unprofiled rfl hlost), s, t, root, {}, r, hopen, found, entry, .anew, hrun, ?_⟩
  rw [hroot root entry, hinputs, hrun, Option.map_some]

/-- A tree whose root is missing. -/
def ghostFiles : Snapshot where
  home := "/game"
  entries := Sorted.ofList [("c.json", .file (String.toUTF8
    "\x7b\"trees\":[\x7b\"id\":\"t\",\"name\":\"T\",\"root\":\"ghost\",\"nodes\":[]\x7d]\x7d"))]

/-- It cannot be entered, and yet the task does not fail and leaves a new file. -/
theorem play_ghost :
    ∃ s t o, openSession ghostFiles.disk "." (playConfig .global false) = .ok s ∧
      s.library.lookup "t" = some t ∧ t.rootNode? = none ∧
      (ghostFiles.read "out.json").isOk = false ∧
      runPlay ghostFiles [] 1 false "t" "." none (some "out.json") .global false = some o ∧
      o.code = 0 ∧ (o.files.read "out.json").isOk = true := by
  have hopen : ((openSession ghostFiles.disk "." (playConfig .global false)).toOption.bind
      fun s => s.library.lookup "t").map (·.rootNode?.isNone) = some true := by decide +kernel
  obtain ⟨t, hopen, entry⟩ := Option.map_eq_some_iff.1 hopen
  obtain ⟨s, hs, found⟩ := Option.bind_eq_some_iff.1 hopen
  have hplay : (runPlay ghostFiles [] 1 false "t" "." none (some "out.json") .global false).map
      (fun o => (o.code, (o.files.read "out.json").isOk)) = some (0, true) := by decide +kernel
  obtain ⟨o, ho, hplay⟩ := Option.map_eq_some_iff.1 hplay
  obtain ⟨hcode, hsaved⟩ := Prod.mk.inj hplay
  exact ⟨s, t, o, eq_ok_of_toOption hs, found, Option.isNone_iff_eq_none.1 entry,
    by decide +kernel, ho, hcode, hsaved⟩

end Dialogue.Command
