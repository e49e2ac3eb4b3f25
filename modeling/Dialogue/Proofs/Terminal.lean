import Dialogue.Command.Run
import Dialogue.Proofs.Encoding
import Dialogue.Proofs.Except
import Dialogue.Proofs.Hearing
import Dialogue.Proofs.Profile
import Dialogue.Proofs.Selection

/-!
# Terminals and scripts

A dialogue at a terminal is the dialogue on a script of the lines that are typed there
(`Session.startAt_eq`). A terminal reads a line only when it is asked, takes the white space around
it away, and stops at the first line that is no text; a script has its lines beforehand, as they
stand between line feeds. For selections this is all the same: `Terminal.read_cases` compares what
is read of a line, `Terminal.ask_hear` a prompt, `Stage.visit_hear` a visit and `Stage.runAt_eq` a
whole traversal. A play writes the text of this dialogue (`Command.playText`) and saves the profile
that it comes to (`Command.Saves`).
-/

namespace Dialogue

/-! ## White space -/

namespace Text

theorem trimChars_concat {c : Char} (h : isBlank c = true) (cs : List Char) :
    trimChars (cs ++ [c]) = trimChars cs := by
  obtain ⟨⟨front, back, heq, hfront, hback⟩, first, last⟩ := strips_trimChars cs
  have hcs : cs ++ [c] = front ++ trimChars cs ++ (back ++ [c]) := by
    rw [← List.append_assoc, ← heq]
  have hblank : ∀ b ∈ back ++ [c], isBlank b = true :=
    List.forall_mem_append.2 ⟨hback, by simpa using h⟩
  exact Strips.trimChars_eq ⟨⟨front, _, hcs, hfront, hblank⟩, first, last⟩

theorem trimChars_trimChars (cs : List Char) : trimChars (trimChars cs) = trimChars cs := by
  obtain ⟨-, first, last⟩ := strips_trimChars cs
  exact (strips_self first last).trimChars_eq

theorem trim_push_lineFeed (s : String) : trim (s.push '\n') = trim s := by
  rw [trim, trim, String.toList_push, trimChars_concat (by decide)]

end Text

theorem Selection.parse_trim (count : Nat) (s : String) :
    parse count (Text.trim s) = parse count s := by
  have htrim : Text.trimChars (Text.trim s).toList = Text.trimChars s.toList := by
    rw [Text.trim, String.toList_ofList, Text.trimChars_trimChars]
  simp only [parse, htrim]

namespace Terminal

/-! ## Lines -/

/-- The bytes between line feeds. A line feed at the end begins no further line. -/
def byteLines (bytes : List UInt8) : List (List UInt8) :=
  let lines := Text.pieces 10 bytes
  if lines.getLast? == some [] then lines.dropLast else lines

/-- The lines that are typed up to the first that is no text. -/
def inputLines (bytes : List UInt8) : List String :=
  ((byteLines bytes).map fun l => String.fromUTF8? ⟨l.toArray⟩).takeWhile Option.isSome
    |>.filterMap id

theorem byteLines_cons_lineFeed (bytes : List UInt8) :
    byteLines (10 :: bytes) = [] :: byteLines bytes := by
  obtain ⟨first, others, hpieces, hcons⟩ := Text.pieces_cons 10 10 bytes
  rw [beq_self_eq_true, if_pos rfl] at hcons
  simp only [byteLines, hpieces, hcons, List.getLast?_cons_cons, List.dropLast_cons_cons]
  split <;> rfl

/-- A byte goes to the front of the first line, which it begins if there is none. -/
theorem byteLines_cons {b : UInt8} (hb : b ≠ 10) (bytes : List UInt8) :
    byteLines (b :: bytes) =
      (b :: (byteLines bytes).headD []) :: (byteLines bytes).tail := by
  obtain ⟨first, others, hpieces, hcons⟩ := Text.pieces_cons 10 b bytes
  rw [if_neg (by simpa using hb)] at hcons
  simp only [byteLines, hpieces, hcons]
  cases others with
  | nil => cases first <;> simp
  | cons other others =>
    simp only [List.getLast?_cons_cons, List.dropLast_cons_cons]
    split <;> rfl

/-- The first line is cut off, whether or not it ends with a line feed. -/
theorem firstLine_cases {bytes : List UInt8} (hne : bytes ≠ []) :
    ∃ line ending rest, firstLine bytes = (line ++ ending, rest) ∧ line ++ ending ≠ [] ∧
      (ending = [] ∨ ending = [10]) ∧ byteLines bytes = line :: byteLines rest := by
  induction bytes with
  | nil => exact (hne rfl).elim
  | cons b bytes ih =>
    by_cases hb : b = 10
    · subst hb
      exact ⟨[], [10], bytes, rfl, by simp, .inr rfl, byteLines_cons_lineFeed bytes⟩
    · rw [firstLine, if_neg hb, byteLines_cons hb]
      cases bytes with
      | nil => exact ⟨[b], [], [], rfl, by simp, .inl rfl, rfl⟩
      | cons c bytes =>
        obtain ⟨line, ending, rest, hfirst, -, hending, hlines⟩ := ih (by simp)
        rw [hfirst, hlines]
        exact ⟨b :: line, ending, rest, rfl, by simp, hending, rfl⟩

/-- What is read is the first line of the input as a script has it, but for white space. Where
nothing can be read, the script is at its end. -/
theorem read_cases (bytes : List UInt8) :
    ((read bytes).1 = none ∧ inputLines bytes = []) ∨
      ∃ line rest, read bytes = (some (Text.trim line), rest) ∧
        inputLines bytes = line :: inputLines rest := by
  by_cases hne : bytes = []
  · subst hne
    exact .inl ⟨rfl, rfl⟩
  · obtain ⟨line, ending, rest, hfirst, hline, hending, hlines⟩ := firstLine_cases hne
    have hread : read bytes =
        ((String.fromUTF8? ⟨(line ++ ending).toArray⟩).map Text.trim, rest) := by
      rw [read, hfirst]
      split
      · next heq => exact (hline (Prod.mk.inj heq).1).elim
      · next heq => obtain ⟨rfl, rfl⟩ := Prod.mk.inj heq; rfl
    have htrim : (String.fromUTF8? ⟨(line ++ ending).toArray⟩).map Text.trim =
        (String.fromUTF8? ⟨line.toArray⟩).map Text.trim := by
      rcases hending with rfl | rfl
      · rw [List.append_nil]
      · rw [Text.fromUTF8?_concat, Option.map_map]
        exact congrArg (Option.map · _) (funext Text.trim_push_lineFeed)
    rw [hread, htrim, inputLines, hlines, List.map_cons]
    cases String.fromUTF8? ⟨line.toArray⟩ with
    | none => exact .inl ⟨rfl, rfl⟩
    | some s => exact .inr ⟨s, rest, rfl, rfl⟩

/-! ## Prompts -/

section
variable {count : Nat} {bytes rest : List UInt8} {input : String}

theorem hear_of_none (h : read bytes = (none, rest)) : hear count bytes = ([], rest) := by
  rw [hear]
  split <;> simp_all

theorem hear_of_accepted (h : read bytes = (some input, rest))
    (accepted : (Selection.parse count input).isSome = true) :
    hear count bytes = ([input], rest) := by
  rw [hear]
  split <;> simp_all

theorem hear_of_rejected (h : read bytes = (some input, rest))
    (rejected : (Selection.parse count input).isSome = false) :
    hear count bytes = (input :: (hear count rest).1, (hear count rest).2) := by
  rw [hear]
  split <;> simp_all

end

/-- A prompt that hears the lines of a terminal gives the answer that it gives to the script, and
leaves as much of it, unless the input ends. -/
theorem ask_hear (count : Nat) (bytes : List UInt8) :
    ask count (hear count bytes).1 = { ask count (inputLines bytes) with unread := [] } ∧
      ((ask count (inputLines bytes)).selection ≠ none →
        (ask count (inputLines bytes)).unread = inputLines (hear count bytes).2) := by
  induction bytes using hear.induct count with
  | case1 bytes rest hread =>
    rcases read_cases bytes with ⟨-, hlines⟩ | ⟨line, rest', hread', -⟩
    · rw [hear_of_none hread, hlines]
      exact ⟨rfl, fun h => (h rfl).elim⟩
    · cases hread.symm.trans hread'
  | case2 bytes input rest hread accepted =>
    rcases read_cases bytes with ⟨hnone, -⟩ | ⟨line, rest', hread', hlines⟩
    · simp [hread] at hnone
    · cases hread.symm.trans hread'
      obtain ⟨selection, hselection⟩ := Option.isSome_iff_exists.1 accepted
      rw [hear_of_accepted hread accepted, hlines, ask_of_accepted hselection,
        ask_of_accepted ((Selection.parse_trim count line).symm.trans hselection)]
      exact ⟨rfl, fun _ => rfl⟩
  | case3 bytes input rest hread rejected _ _ _ ih =>
    rcases read_cases bytes with ⟨hnone, -⟩ | ⟨line, rest', hread', hlines⟩
    · simp [hread] at hnone
    · cases hread.symm.trans hread'
      obtain ⟨hask, hunread⟩ := ih
      have hparse : Selection.parse count (Text.trim line) = none := by simpa using rejected
      have hparse' : Selection.parse count line = none :=
        (Selection.parse_trim count line).symm.trans hparse
      rw [hear_of_rejected hread (by simpa using rejected), hlines, ask, ask, hparse, hparse',
        hask]
      exact ⟨rfl, hunread⟩

end Terminal

/-! ## Visits -/

theorem Node.needsInput_iff {n : Node} {p : Profile} : n.needsInput p = true ↔ n.Asks p := by
  have hauto : (automatic? (n.offers p)).isNone = true ↔
      ∀ c, n.legal p = [c] → c.autoSelect = false := by
    rw [Option.isNone_iff_eq_none, Option.eq_none_iff_forall_ne_some]
    refine forall_congr' fun c => ?_
    rw [Ne, automatic?_eq_some, n.map_offers, not_and, Bool.not_eq_true]
  simp only [needsInput, Bool.and_eq_true, Bool.not_eq_true', List.isEmpty_eq_false_iff, hauto]
  rw [Ne, n.offers_eq_nil]
  exact ⟨fun ⟨⟨live, offered⟩, manual⟩ => ⟨live, offered, manual⟩,
    fun asks => ⟨⟨asks.live, asks.some⟩, asks.manual⟩⟩

namespace Stage
variable {stage : Stage} {n : Node} {p : Profile}

/-- A prompt that has got the same answer, with other inputs left, is left in the same way. -/
theorem prompt_unread {shown : List Act} {offers : List (Nat × Choice)}
    {inputs inputs' unread : List String}
    (h : ask offers.length inputs' = { ask offers.length inputs with unread }) :
    prompt n p shown offers inputs' = { prompt n p shown offers inputs with unread } := by
  simp only [prompt, h]
  cases (ask offers.length inputs).selection with
  | none => rfl
  | some selection => cases selection <;> rfl

/-- A visit that hears the lines of a terminal is the visit that finds the script, and leaves as
much of it, unless the input ends. -/
theorem visit_hear (stage : Stage) (n : Node) (p : Profile) (bytes : List UInt8) :
    stage.visit n p (n.hear p bytes).1 =
        { stage.visit n p (Terminal.inputLines bytes) with unread := [] } ∧
      ((stage.visit n p (Terminal.inputLines bytes)).exit.isClosed = false →
        (stage.visit n p (Terminal.inputLines bytes)).unread =
          Terminal.inputLines (n.hear p bytes).2) := by
  by_cases asks : n.Asks p
  · rw [Node.hear, if_pos (Node.needsInput_iff.2 asks), visit_of_asks asks, visit_of_asks asks]
    obtain ⟨hask, hunread⟩ := Terminal.ask_hear (n.offers p).length bytes
    refine ⟨prompt_unread hask, fun hopen => ?_⟩
    rw [unread_prompt]
    refine hunread fun hnone => ?_
    simp [isClosed_prompt.2 hnone] at hopen
  · rw [Node.hear, if_neg (fun h => asks (Node.needsInput_iff.1 h))]
    rcases stage.visit_or_asks n p (Terminal.inputLines bytes) with ⟨-, hvisit⟩ | hasks
    · exact ⟨hvisit [], fun _ => congrArg Visit.unread (hvisit (Terminal.inputLines bytes))⟩
    · exact (asks hasks).elim

end Stage

/-! ## Runs -/

/-- The run without the inputs that its visits have left. -/
def Run.spent (r : Run) : Run :=
  { r with visits := r.visits.map fun v => { v with unread := [] }, unread := [] }

theorem Run.repeats_spent (r : Run) : r.Repeats r.spent where
  picks := by rw [picks, spent, List.filterMap_map]; rfl
  result := rfl
  profile := rfl
  dangling := rfl

theorem Run.acts_spent (r : Run) : r.spent.acts = r.acts := by
  rw [acts, spent, List.flatMap_map]
  rfl

theorem Run.closed_spent (r : Run) : r.spent.closed = r.closed := by
  simp only [closed, spent, List.getLast?_map, Option.any_map]

/-- A traversal at a terminal is that on the script of the lines typed there. -/
theorem Stage.runAt_eq (stage : Stage) (fuel : Nat) (n : Node) (p : Profile) (bytes : List UInt8) :
    stage.runAt fuel n p bytes =
      (stage.run fuel n p (Terminal.inputLines bytes)).map Run.spent := by
  induction fuel generalizing n p bytes with
  | zero => rfl
  | succ fuel ih =>
    obtain ⟨hvisit, hunread⟩ := stage.visit_hear n p bytes
    rw [runAt]
    simp only [hvisit]
    cases hfollow : stage.follow (stage.visit n p (Terminal.inputLines bytes)) with
    | none =>
      rw [run_last hfollow, Option.map_some]
      cases htarget : (stage.visit n p (Terminal.inputLines bytes)).exit.target? with
      | none =>
        dsimp only
        simp only [Run.last, htarget]
        rfl
      | some target =>
        have hlost : stage.resolve target = none := by simpa [follow, htarget] using hfollow
        simp only [hlost, Run.last, htarget]
        rfl
    | some next =>
      rw [run_cons hfollow]
      obtain ⟨target, htarget, hfound⟩ := Option.bind_eq_some_iff.1 hfollow
      simp only [htarget, hfound]
      rw [ih, hunread (isClosed_of_follow hfollow), Option.map_map, Option.map_map]
      rfl

/-! ## Dialogues -/

/-- A dialogue at a terminal is that on the script of the lines typed there, except that a terminal
does not tell which of them it has left. -/
theorem Session.startAt_eq (s : Session) (fuel : Nat) (tree : String) (p : Profile)
    (bytes : List UInt8) :
    s.startAt fuel tree p bytes =
      (s.start fuel tree p (Terminal.inputLines bytes)).map fun r => { r with unread := [] } := by
  rcases s.entered_or_barred tree with ⟨t, root, found, entry⟩ | barred
  · have hroot : (s.library.lookup tree).bind Tree.rootNode? = some root := by
      rw [found, Option.bind_some, entry]
    rw [startAt, hroot]
    dsimp only
    rw [start_of_entered found entry, Stage.runAt_eq, Option.map_map, Option.map_map]
    refine congrArg (Option.map · _) (funext fun r => ?_)
    simp only [Function.comp_apply, performance_of_repeats r.repeats_spent, r.acts_spent,
      r.closed_spent]
    rfl
  · have hroot : (s.library.lookup tree).bind Tree.rootNode? = none :=
      Option.bind_eq_none_iff.2 barred
    obtain ⟨w, hrefuse⟩ := exists_refuse barred
    rw [startAt, hroot]
    dsimp only
    rw [hrefuse, hrefuse]
    rfl

/-! ## Plays -/

namespace Command
open Terminal

/-- What a task that can be played writes and leaves is what its dialogue on a script comes to. -/
theorem runPlay_of_prepared {files : Snapshot} {tree directory : String} {profile : Option String}
    {scope : Scope} {pacing : Bool} {ready : Ready}
    (prepared : prepare files.disk tree directory profile scope pacing = .ok ready)
    (stdin : List UInt8) (fuel : Nat) (colors : Bool) (save : Option String) :
    runPlay files stdin fuel colors tree directory profile save scope pacing =
      (ready.session.start fuel ready.tree ready.profile (inputLines stdin)).map
        fun r => savePerformance files colors r save := by
  unfold runPlay
  rw [prepared]
  dsimp only
  rw [Ready.playAt, Session.startAt_eq, Option.map_map]
  rfl

/-- The text of a play: each line of the dialogue on a line of its own, the questions of the
prompts in between, and how the dialogue ended. -/
def playText (colors : Bool) (r : Performance) : String :=
  String.join (r.acts.map fun
    | .line text color => styled colors (colorCode color) text ++ "\n"
    | .prompt => "Your choice: "
    | .pause _ => "") ++
  match r.result with
  | .completed n => "  " ++ styled colors bold "Dialogue complete" ++ " at '" ++ n.id ++ "'.\n"
  | .aborted => "  " ++ styled colors dimmed "You walk away without a word." ++ "\n"

/-- What a play leaves that has written a text and come to a profile. Saving is the last thing that
it does, and the only one that can fail. -/
inductive Saves (files : Snapshot) (text : String) (p : Profile) : Option String → Outcome → Prop
  | unasked : Saves files text p none ⟨text, none, files⟩
  | saved {path : String} {files' : Snapshot} (h : files.write path p.toText = .ok files') :
    Saves files text p (some path)
      ⟨text ++ ("  Profile saved to " ++ path ++ "\n"), none, files'⟩
  | failed {path : String} {reason : Reason} (h : files.write path p.toText = .error reason) :
    Saves files text p (some path)
      ⟨text, some (.profile (.inaccessible path reason)), files⟩

theorem playText_eq (colors : Bool) (r : Performance) :
    String.join (r.acts.map (actText colors)) ++ closingLine colors r.result ++ "\n" =
      playText colors r := by
  have hacts : actText colors = fun
      | .line text color => styled colors (colorCode color) text ++ "\n"
      | .prompt => "Your choice: "
      | .pause _ => "" := by
    funext act
    cases act <;> rfl
  rw [playText, hacts, String.append_assoc]
  cases r.result with
  | completed n => simp only [closingLine, String.append_assoc]; rfl
  | aborted => rfl

theorem saves_savePerformance (files : Snapshot) (colors : Bool) (r : Performance)
    (save : Option String) :
    Saves files (playText colors r) r.profile save (savePerformance files colors r save) := by
  rw [← playText_eq]
  cases save with
  | none => exact .unasked
  | some path =>
    simp only [savePerformance, Snapshot.saveProfile]
    cases hwrite : files.write path r.profile.toText with
    | ok files' => exact .saved hwrite
    | error reason =>
      simp only [Except.mapError, saveReply, String.append_empty]
      exact .failed hwrite

namespace Saves
variable {files files' : Snapshot} {text path : String} {p : Profile} {o : Outcome}

/-- A play whose profile can be written does not fail. -/
theorem of_write (saves : Saves files text p (some path) o)
    (h : files.write path p.toText = .ok files') : o.failure = none ∧ o.files = files' := by
  cases saves with
  | saved h' => exact ⟨rfl, Except.ok.inj (h'.symm.trans h)⟩
  | failed h' => cases h'.symm.trans h

/-- A play that has saved its profile without a failure has left it in the file. -/
theorem read (saves : Saves files text p (some path) o) (fine : o.failure = none)
    (hin : files.Inside path) : o.files.read path = .ok p.toText.toUTF8 := by
  cases saves with
  | saved h => exact Snapshot.read_write h hin
  | failed => cases fine

end Saves

/-- **The terminal and the script agree.** Whatever bytes are typed, a tree that can be played does
at the terminal what its dialogue does on the script of the lines between the line feeds, up to the
first line that is no text: it comes to an end or not, shows the same lines, asks as often, waits as
long, and comes to the same. So the task writes the text of the dialogue on the script, and saves
the profile that this has come to. -/
theorem plays_as_scripted {files : Snapshot} {tree directory : String} {profile : Option String}
    {scope : Scope} {pacing : Bool} {ready : Ready}
    (prepared : prepare files.disk tree directory profile scope pacing = .ok ready)
    (stdin : List UInt8) (fuel : Nat) (colors : Bool) (save : Option String) :
    ready.playAt fuel stdin =
        (ready.session.start fuel ready.tree ready.profile (inputLines stdin)).map
          (fun r => { r with unread := [] }) ∧
      (ready.session.start fuel ready.tree ready.profile (inputLines stdin) = none →
        runPlay files stdin fuel colors tree directory profile save scope pacing = none) ∧
      ∀ r, ready.session.start fuel ready.tree ready.profile (inputLines stdin) = some r →
        ∃ o, runPlay files stdin fuel colors tree directory profile save scope pacing = some o ∧
          Saves files (playText colors r) r.profile save o ∧
          ∀ path, save = some path → o.failure = none → files.Inside path →
            o.files.read path = .ok r.profile.toText.toUTF8 ∧
              o.files.disk.loadProfile path = .ok r.profile := by
  have hrun := runPlay_of_prepared prepared stdin fuel colors save
  refine ⟨ready.session.startAt_eq fuel ready.tree ready.profile stdin, fun hnone => ?_,
    fun r hr => ?_⟩
  · rw [hrun, hnone, Option.map_none]
  · rw [hr, Option.map_some] at hrun
    have saves := saves_savePerformance files colors r save
    refine ⟨_, hrun, saves, fun path hsave fine hin => ?_⟩
    subst hsave
    have hread := saves.read fine hin
    exact ⟨hread, Profile.loadProfile_of_read hread⟩

/-- A fork in the road, where both ways lead back to it, and where there is work on the right. -/
def forkFiles : Snapshot where
  home := "/game"
  entries := Sorted.ofList [("road.json", .file (String.toUTF8
    ("\x7b\"trees\":[[\"road\",\"\",\"fork\",[[\"fork\",null,[],null," ++
      "[[\"Left\",\"fork\"],[\"Right\",\"fork\",\"neutral\",null," ++
      "[\x7b\"kind\":\"add_gold\",\"amount\":5\x7d]]]]]]]\x7d")))]

/-- What is written at the fork when the right way is chosen at the second attempt, and nothing
after it. -/
def forkText : String :=
  "\x1b[97m\x1b[0m\n\x1b[97m\x1b[0m\n" ++
  "\x1b[36mWhat do you say?\x1b[0m\n\x1b[97m\x1b[0m\n" ++
  "\x1b[97m[1] Left\x1b[0m\n\x1b[97m[2] Right\x1b[0m\n" ++
  "\x1b[90m[0] (Say nothing)\x1b[0m\n\x1b[97m\x1b[0m\n" ++
  "Your choice: \x1b[31mPlease enter a valid choice.\x1b[0m\n" ++
  "Your choice: \x1b[33m(Received 5 gold)\x1b[0m\n" ++
  "\x1b[97m\x1b[0m\n\x1b[97m\x1b[0m\n" ++
  "\x1b[36mWhat do you say?\x1b[0m\n\x1b[97m\x1b[0m\n" ++
  "\x1b[97m[1] Left\x1b[0m\n\x1b[97m[2] Right\x1b[0m\n" ++
  "\x1b[90m[0] (Say nothing)\x1b[0m\n\x1b[97m\x1b[0m\n" ++
  "Your choice:   \x1b[2mYou walk away without a word.\x1b[0m\n" ++
  "  Profile saved to out.json\n"

/-- The right way is chosen after a blank line, with a carriage return; a byte that is no text and
what comes after it are not read. What has been earned is in the file. -/
theorem plays_as_scripted_fork :
    let stdin := [13, 10, 32, 50, 13, 10, 255, 10, 49, 10]
    ∃ ready r o, prepare forkFiles.disk "road" "." none .global false = .ok ready ∧
      inputLines stdin = ["\r", " 2\r"] ∧
      ready.session.start 9 ready.tree ready.profile (inputLines stdin) = some r ∧
      Act.prompts r.acts = 3 ∧ r.profile.player.gold = 5 ∧
      ready.playAt 9 stdin = some { r with unread := [] } ∧
      runPlay forkFiles stdin 9 true "road" "." none (some "out.json") .global false = some o ∧
      o.stdout = playText true r ++ "  Profile saved to out.json\n" ∧
      o.stdout = forkText ∧
      o.failure = none ∧ o.files.read "out.json" = .ok r.profile.toText.toUTF8 ∧
      o.files.disk.loadProfile "out.json" = .ok r.profile ∧
      runPlay forkFiles stdin 1 true "road" "." none (some "out.json") .global false = none := by
  intro stdin
  have hplayed : ((prepare forkFiles.disk "road" "." none .global false).toOption.bind fun ready =>
      (ready.session.start 9 ready.tree ready.profile (inputLines stdin)).map fun r =>
        ((ready.session.start 1 ready.tree ready.profile (inputLines stdin)).isNone,
          Act.prompts r.acts, r.profile.player.gold,
          playText true r ++ "  Profile saved to out.json\n",
          (forkFiles.write "out.json" r.profile.toText).toOption.isSome)) =
      some (true, 3, 5, forkText, true) := by decide +kernel
  obtain ⟨ready, hready, hplayed⟩ := Option.bind_eq_some_iff.1 hplayed
  obtain ⟨r, hr, hplayed⟩ := Option.map_eq_some_iff.1 hplayed
  simp only [Prod.mk.injEq] at hplayed
  obtain ⟨hlong, hprompts, hgold, htext, hwrite⟩ := hplayed
  obtain ⟨files, hwrite⟩ := Option.isSome_iff_exists.1 hwrite
  have hready := eq_ok_of_toOption hready
  obtain ⟨hterminal, -, htask⟩ := plays_as_scripted hready stdin 9 true (some "out.json")
  obtain ⟨-, hlost, -⟩ := plays_as_scripted hready stdin 1 true (some "out.json")
  obtain ⟨o, ho, saves, hsaved⟩ := htask r hr
  obtain ⟨hfine, -⟩ := saves.of_write (eq_ok_of_toOption hwrite)
  obtain ⟨hread, hload⟩ := hsaved "out.json" rfl hfine ⟨.home [], "out.json", [], by decide, rfl⟩
  have hstdout : o.stdout = playText true r ++ "  Profile saved to out.json\n" := by
    cases saves with
    | saved => rfl
    | failed => cases hfine
  rw [hr] at hterminal
  exact ⟨ready, r, o, hready, by decide +kernel, hr, hprompts, hgold, hterminal, ho, hstdout,
    hstdout.trans htext, hfine, hread, hload, hlost (by simpa using hlong)⟩

end Command

end Dialogue
