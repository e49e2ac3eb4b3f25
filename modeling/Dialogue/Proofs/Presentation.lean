import Dialogue.Proofs.Aftermath
import Dialogue.Proofs.Machine
import Mathlib.Data.List.Forall2

/-!
# What the presentation decides

Two stages that find the same nodes play the same scenes, however they pace them and whatever colors
they have for speakers: a visit differs in what is shown only (`Stage.visit_mute`), and both show
the same scene (`Stage.exists_scene`), so that runs go hand in hand (`Stage.run_alike`). What a
scene looks like on a stage is said by `Scene.acts`, and what the pacing makes of it by
`Scene.pauses_acts`.

Sessions with the same library and scope have such stages; what they remember and who listens to
them is not looked at either (`Session.start_alike`).
-/

namespace Dialogue
open Machine

/-! ## Lines, pauses and prompts -/

namespace Act

@[simp] theorem lines_append (as bs : List Act) : lines (as ++ bs) = lines as ++ lines bs :=
  List.filterMap_append ..

@[simp] theorem pauses_append (as bs : List Act) : pauses (as ++ bs) = pauses as ++ pauses bs :=
  List.filterMap_append ..

@[simp] theorem prompts_append (as bs : List Act) :
    prompts (as ++ bs) = prompts as + prompts bs := List.countP_append ..

theorem prompts_eq_zero {acts : List Act} : prompts acts = 0 ↔ .prompt ∉ acts := by
  simp only [prompts, List.countP_eq_zero, decide_eq_true_eq]
  exact ⟨fun h hp => h _ hp rfl, fun h a ha heq => h (heq ▸ ha)⟩

theorem lines_flatMap {α : Type} (f : α → List Act) (l : List α) :
    lines (l.flatMap f) = l.flatMap fun a => lines (f a) := List.filterMap_flatMap ..

theorem pauses_flatMap {α : Type} (f : α → List Act) (l : List α) :
    pauses (l.flatMap f) = l.flatMap fun a => pauses (f a) := List.filterMap_flatMap ..

/-- Waiting left out, the lines are the same. -/
theorem lines_transcript (acts : List Act) : lines (transcript acts) = lines acts := by
  rw [lines, transcript, List.filterMap_filter]
  exact congrArg (List.filterMap · acts) (funext fun a => by cases a <;> rfl)

theorem prompts_transcript (acts : List Act) : prompts (transcript acts) = prompts acts := by
  rw [prompts, transcript, List.countP_filter]
  exact congrArg (List.countP · acts) (funext fun a => by cases a <;> rfl)

theorem pauses_transcript (acts : List Act) : pauses (transcript acts) = [] := by
  rw [pauses, transcript, List.filterMap_filter, List.filterMap_eq_nil_iff]
  intro a _
  cases a <;> rfl

end Act

/-- What is waited for among some times: nothing when pacing is off, or else all that take any
time. -/
theorem Pacing.filterMap_wait (pacing : Pacing) (times : List Duration) :
    times.filterMap pacing.wait =
      if pacing.enabled then times.filter (·.val ≠ 0) else [] := by
  cases h : pacing.enabled with
  | false => simp [wait, h]
  | true =>
    rw [if_pos rfl, ← List.filterMap_eq_filter]
    exact congrArg (List.filterMap · times) (funext fun d => by simp [wait, h, Option.guard])

namespace Stage
variable (stage : Stage)

theorem pauses_wait (d : Duration) :
    Act.pauses (stage.wait d) = (stage.pacing.wait d).toList := by
  unfold wait
  cases stage.pacing.wait d <;> rfl

/-- A display waits after each line of the node. -/
theorem pauses_display (p : Profile) (n : Node) :
    Act.pauses (stage.display p n) =
      (n.lines.map fun line => stage.pacing.lineDelay (interpolate p line).length).filterMap
        stage.pacing.wait := by
  have hlabel : Act.pauses (n.speaker.toList.map fun s =>
      Act.line ("[" ++ s ++ "]") (stage.speakerColor s)) = [] := by
    cases n.speaker <;> rfl
  have hblank : Act.pauses [.line "" .white] = [] := rfl
  have hline (line : String) :
      Act.pauses (stage.showLine p (n.color.getD .white) line) =
        (stage.pacing.wait (stage.pacing.lineDelay (interpolate p line).length)).toList :=
    stage.pauses_wait _
  rw [display, List.filterMap_map, List.filterMap_eq_flatMap_toList]
  simp only [Act.pauses_append, Act.pauses_flatMap, hlabel, hblank, hline, List.nil_append,
    List.append_nil]
  rfl

theorem pauses_parting (p : Profile) (n : Node) :
    Act.pauses (stage.parting p n) =
      (n.partingDelay? p stage.pacing).toList.filterMap stage.pacing.wait := by
  rw [parting, Act.pauses_flatMap, List.filterMap_eq_flatMap_toList]
  simp only [pauses_wait]

end Stage

theorem prompts_beat (stage : Stage) (p : Profile) (n : Node) :
    Act.prompts (beat stage p n) = 0 := Act.prompts_eq_zero.2 (by simp [beat])

/-! ## Scenes -/

/-- What of a visit does not depend on the stage: the node, the profile that it is displayed to, and
what is said when it is left. -/
structure Scene where
  node : Node
  profile : Profile
  said : List Act
  /-- There is no waiting in what is said. -/
  quiet : Act.transcript said = said

namespace Scene

/-- The scene on a stage. -/
def acts (stage : Stage) (x : Scene) : List Act :=
  stage.display x.profile x.node ++ x.said ++ stage.parting x.profile x.node

/-- The lines of the scene, with colors of speakers for their labels. -/
def lines (label : String → Color) (x : Scene) : List (String × Color) :=
  [("", .white)] ++ x.node.speaker.toList.map (fun s => ("[" ++ s ++ "]", label s)) ++
    x.node.lines.map (fun line => (interpolate x.profile line, x.node.color.getD .white)) ++
    [("", .white)] ++ Act.lines x.said

/-- The times that the scene may take: one for each line of the node as it is shown, and the one for
leaving the node. -/
def times (pacing : Pacing) (x : Scene) : List Duration :=
  x.node.lines.map (fun line => pacing.lineDelay (interpolate x.profile line).length) ++
    (x.node.partingDelay? x.profile pacing).toList

theorem transcript_acts (stage : Stage) (x : Scene) :
    Act.transcript (x.acts stage) = beat stage x.profile x.node ++ x.said := by
  simp [acts, Stage.transcript_display, Stage.transcript_parting, x.quiet]

theorem lines_acts (stage : Stage) (x : Scene) :
    Act.lines (x.acts stage) = x.lines stage.speakerColor := by
  have hshown {α : Type} (text : α → String) (color : α → Color) (l : List α) :
      Act.lines (l.map fun a => .line (text a) (color a)) = l.map fun a => (text a, color a) := by
    rw [Act.lines, List.filterMap_map, ← List.filterMap_eq_map]
    rfl
  have hblank : Act.lines [.line "" .white] = [("", .white)] := rfl
  rw [← Act.lines_transcript, transcript_acts]
  simp only [beat, Act.lines_append, hshown, hblank, lines]

theorem prompts_acts (stage : Stage) (x : Scene) :
    Act.prompts (x.acts stage) = Act.prompts x.said := by
  rw [← Act.prompts_transcript, transcript_acts, Act.prompts_append, prompts_beat, Nat.zero_add]

/-- The labels of speakers are all that is shown in their colors. -/
theorem map_fst_lines (label label' : String → Color) (x : Scene) :
    (x.lines label).map Prod.fst = (x.lines label').map Prod.fst := by
  simp [lines]

theorem pauses_acts (stage : Stage) (x : Scene) :
    Act.pauses (x.acts stage) = (x.times stage.pacing).filterMap stage.pacing.wait := by
  have hsaid : Act.pauses x.said = [] := x.quiet ▸ Act.pauses_transcript x.said
  rw [acts, Act.pauses_append, Act.pauses_append, hsaid, List.append_nil, stage.pauses_display,
    stage.pauses_parting, times, List.filterMap_append]

theorem lines_flatMap_acts (stage : Stage) (xs : List Scene) :
    Act.lines (xs.flatMap (acts stage)) = xs.flatMap (lines stage.speakerColor) := by
  rw [Act.lines_flatMap]
  exact congrArg (List.flatMap · xs) (funext (lines_acts stage))

theorem prompts_flatMap_acts (stage : Stage) (xs : List Scene) :
    Act.prompts (xs.flatMap (acts stage)) = Act.prompts (xs.flatMap said) := by
  induction xs with
  | nil => rfl
  | cons x xs ih => simp [prompts_acts, ih]

/-- The waiting of scenes that follow each other: none when pacing is off, or else all their times
that are not nothing. -/
theorem pauses_flatMap_acts (stage : Stage) (xs : List Scene) :
    Act.pauses (xs.flatMap (acts stage)) =
      if stage.pacing.enabled then
        (xs.flatMap (times stage.pacing)).filter (·.val ≠ 0)
      else [] := by
  rw [← Pacing.filterMap_wait, List.filterMap_flatMap, Act.pauses_flatMap]
  exact congrArg (List.flatMap · xs) (funext (pauses_acts stage))

end Scene

/-! ## Visits -/

/-- A visit without what is shown. -/
def Visit.mute (v : Visit) : Visit := { v with acts := [] }

/-- The visit shows the scene on the stage. -/
structure Visit.Shows (stage : Stage) (x : Scene) (v : Visit) : Prop where
  node : v.node = x.node
  before : v.before = x.profile
  acts : v.acts = x.acts stage

namespace Stage
variable (a b : Stage) (n : Node) (p : Profile) (inputs : List String)

/-- Visits on two stages differ in what is shown only. -/
theorem visit_mute : (a.visit n p inputs).mute = (b.visit n p inputs).mute := by
  have hprompt (shown shown' : List Act) (offers : List (Nat × Choice)) :
      (prompt n p shown offers inputs).mute = (prompt n p shown' offers inputs).mute := by
    dsimp only [prompt]
    cases (ask offers.length inputs).selection with
    | none => rfl
    | some selection => cases selection <;> rfl
  unfold visit
  cases n.isEnd with
  | true => rfl
  | false =>
    cases n.offers p with
    | nil => cases n.next <;> rfl
    | cons o offers =>
      dsimp only
      cases automatic? (o :: offers) with
      | none => exact hprompt ..
      | some c => rfl

/-- Visits on two stages show the same scene. -/
theorem exists_scene :
    ∃ x, (a.visit n p inputs).Shows a x ∧ (b.visit n p inputs).Shows b x := by
  obtain ⟨said, departure, q, rest, leaves⟩ := exists_leaves n p inputs
  have hshows (stage : Stage) :
      (stage.visit n p inputs).Shows stage ⟨n, p, said, leaves.transcript_said⟩ :=
    ⟨visit_node_before.1, visit_node_before.2, (leaves.exact_visit stage).2.2.2⟩
  exact ⟨_, hshows a, hshows b⟩

end Stage

/-! ## Runs -/

namespace Run
variable {a b : Stage} {xs : List Scene} {r r' : Run}

/-- A run without what is shown. -/
def mute (r : Run) : Run := { r with visits := r.visits.map Visit.mute }

theorem picks_mute (r : Run) : r.mute.picks = r.picks := by
  rw [picks, mute, List.filterMap_map]
  rfl

theorem closed_mute (r : Run) : r.mute.closed = r.closed := by
  simp only [closed, mute, List.getLast?_map, Option.any_map]
  rfl

/-- The visits of the run show the scenes on the stage. -/
def Shows (stage : Stage) (xs : List Scene) (r : Run) : Prop :=
  List.Forall₂ (fun x v => Visit.Shows stage x v) xs r.visits

theorem Shows.beats (h : r.Shows a xs) : r.beats = xs.map fun x => (x.node, x.profile) := by
  unfold Run.beats
  unfold Shows at h
  generalize r.visits = visits at h ⊢
  induction h with
  | nil => rfl
  | cons hx _ ih => simp [hx.node, hx.before, ih]

theorem Shows.acts (h : r.Shows a xs) : r.acts = xs.flatMap (Scene.acts a) := by
  unfold Run.acts
  unfold Shows at h
  generalize r.visits = visits at h ⊢
  induction h with
  | nil => rfl
  | cons hx _ ih => simp [hx.acts, ih]

/-- The runs differ in what is shown only, and show the same scenes, each on its stage. -/
structure Alike (a b : Stage) (r r' : Run) : Prop where
  mute : r.mute = r'.mute
  scenes : ∃ xs, r.Shows a xs ∧ r'.Shows b xs

theorem Alike.picks (h : Alike a b r r') : r.picks = r'.picks := by
  rw [← r.picks_mute, h.mute, r'.picks_mute]

theorem Alike.closed (h : Alike a b r r') : r.closed = r'.closed := by
  rw [← r.closed_mute, h.mute, r'.closed_mute]

theorem Alike.result (h : Alike a b r r') : r.result = r'.result :=
  (congrArg Run.result h.mute :)

end Run

/-- Related results stay related when each is taken further. -/
theorem rel_map {R : α → β → Prop} {S : γ → δ → Prop} {f : α → γ} {g : β → δ} {o : Option α}
    {o' : Option β} (h : Option.Rel R o o')
    (hfg : ∀ a b, o = some a → o' = some b → R a b → S (f a) (g b)) :
    Option.Rel S (o.map f) (o'.map g) := by
  cases h with
  | none => exact .none
  | some h => exact .some (hfg _ _ rfl rfl h)

/-- Stages that find the same nodes have the same runs, up to what is shown. -/
theorem Stage.run_alike {a b : Stage} (resolves : a.resolve = b.resolve) (fuel : Nat) (n : Node)
    (p : Profile) (inputs : List String) :
    Option.Rel (Run.Alike a b) (a.run fuel n p inputs) (b.run fuel n p inputs) := by
  induction fuel generalizing n p inputs with
  | zero => exact .none
  | succ fuel ih =>
    obtain ⟨x, hx, hx'⟩ := exists_scene a b n p inputs
    have hmute := visit_mute a b n p inputs
    have hexit : (a.visit n p inputs).exit = (b.visit n p inputs).exit :=
      (congrArg Visit.exit hmute :)
    have hresult : (a.visit n p inputs).result = (b.visit n p inputs).result :=
      (congrArg Visit.result hmute :)
    have hafter : (a.visit n p inputs).after = (b.visit n p inputs).after :=
      (congrArg Visit.after hmute :)
    have hunread : (a.visit n p inputs).unread = (b.visit n p inputs).unread :=
      (congrArg Visit.unread hmute :)
    -- both visits lead to the same node
    have hfollow : a.follow (a.visit n p inputs) = b.follow (b.visit n p inputs) := by
      rw [follow, follow, hexit, resolves]
    cases h : b.follow (b.visit n p inputs) with
    | none =>
      rw [run_last h, run_last (hfollow.trans h)]
      refine .some ⟨?_, [x], .cons hx .nil, .cons hx' .nil⟩
      simp [Run.mute, Run.last, hmute, hexit, hresult, hafter, hunread]
    | some next =>
      rw [run_cons h, run_cons (hfollow.trans h), hafter, hunread]
      refine rel_map (ih next _ _) fun r r' _ _ halike => ?_
      obtain ⟨xs, hr, hr'⟩ := halike.scenes
      refine ⟨?_, x :: xs, .cons hx hr, .cons hx' hr'⟩
      have hrest := halike.mute
      simp only [Run.mute, Run.mk.injEq] at hrest
      simp [Run.mute, Run.cons, hmute, hrest]

/-! ## Dialogues -/

/-- The performances come to the same, ask as often, and show the same texts. -/
structure Performance.Agrees (r r' : Performance) : Prop where
  result : r.result = r'.result
  profile : r.profile = r'.profile
  unread : r.unread = r'.unread
  events : r.events = r'.events
  warning : r.warning = r'.warning
  closed : r.closed = r'.closed
  prompts : Act.prompts r.acts = Act.prompts r'.acts
  texts : (Act.lines r.acts).map Prod.fst = (Act.lines r'.acts).map Prod.fst

/-- `s.Performs tree p inputs xs marks finished r`: the performance `r` of a tree shows the scenes
`xs`, and leaves marks and finished dialogues in the history. -/
structure Session.Performs (s : Session) (tree : String) (p : Profile) (inputs : List String)
    (xs : List Scene) (marks : List (String × Nat)) (finished : List Finished)
    (r : Performance) : Prop where
  /-- A tree that can be entered is played, and its scenes are those of the play. -/
  plays (t : Tree) (root : Node) :
    s.library.lookup tree = some t → t.rootNode? = some root →
      Plays (s.stage tree) root p inputs (xs.map fun x => (x.node, x.profile))
        (Act.transcript r.acts) r.outcome
  acts : r.acts = xs.flatMap (Scene.acts (s.stage tree))
  lines : Act.lines r.acts = xs.flatMap (Scene.lines (s.stage tree).speakerColor)
  pauses :
    Act.pauses r.acts =
      if s.config.pacing.enabled then
        (xs.flatMap (Scene.times s.config.pacing)).filter (·.val ≠ 0)
      else []
  session :
    r.session =
      { s with
        history := s.history.extend marks finished
        listeners := s.listeners.map (·.hear r.events)
        buffer := s.buffer ++ r.events }

namespace Session
variable {s s' : Session} {tree : String} {t : Tree} {root : Node} {p : Profile}
  {inputs : List String} {fuel : Nat} {xs : List Scene}

theorem performs_refuse (barred : ∀ t root, s.library.lookup tree = some t →
    t.rootNode? ≠ some root) (warning : Warning) :
    s.Performs tree p inputs [] [] [] (s.refuse p inputs warning) where
  plays t root found entry := (barred t root found entry).elim
  acts := rfl
  lines := rfl
  pauses := by simp [refuse, Act.pauses]
  session := by simp [refuse, History.extend, Listener.hear]

theorem performs_run {run : Run} (found : s.library.lookup tree = some t)
    (entry : t.rootNode? = some root) (hrun : (s.stage tree).run fuel root p inputs = some run)
    (shows : run.Shows (s.stage tree) xs) :
    s.Performs tree p inputs xs run.marks [run.finished tree] (s.performance tree run) where
  plays t' root' found' entry' := by
    cases found.symm.trans found'
    cases entry.symm.trans entry'
    rw [performance_outcome, ← shows.beats]
    exact (Stage.runs_of_run hrun).plays
  acts := shows.acts
  lines := (congrArg Act.lines shows.acts).trans (Scene.lines_flatMap_acts ..)
  pauses := (congrArg Act.pauses shows.acts).trans (Scene.pauses_flatMap_acts ..)
  session := s.afterRun_eq tree run

theorem agrees_of_alike {run run' : Run}
    (h : Run.Alike (s.stage tree) (s'.stage tree) run run') :
    (s.performance tree run).Agrees (s'.performance tree run') := by
  obtain ⟨xs, shows, shows'⟩ := h.scenes
  have hdangling : run.dangling = run'.dangling := (congrArg Run.dangling h.mute :)
  exact {
    result := h.result
    profile := (congrArg Run.profile h.mute :)
    unread := (congrArg Run.unread h.mute :)
    events := by simp only [performance, h.picks, h.result]
    warning := by simp only [performance, hdangling]
    closed := h.closed
    prompts := by simp only [performance, shows.acts, shows'.acts, Scene.prompts_flatMap_acts]
    texts := by
      simp only [performance, shows.acts, shows'.acts, Scene.lines_flatMap_acts, List.map_flatMap]
      exact congrArg (List.flatMap · xs) (funext (Scene.map_fst_lines _ _)) }

/-- Only the library and the scope tell what a dialogue makes of a profile. -/
theorem map_profile_start (library : s.library = s'.library)
    (scope : s.config.scope = s'.config.scope) (fuel : Nat) (tree : String) (p : Profile)
    (inputs : List String) :
    (s.start fuel tree p inputs).map Performance.profile =
      (s'.start fuel tree p inputs).map Performance.profile := by
  rcases s.entered_or_barred tree with ⟨t, root, found, entry⟩ | barred
  · have resolves : (s.stage tree).resolve = (s'.stage tree).resolve := by
      funext target
      simp only [Stage.resolve, stage, library, scope]
    have halike := Stage.run_alike resolves fuel root p inputs
    rw [start_of_entered found entry, start_of_entered (library ▸ found) entry, Option.map_map,
      Option.map_map]
    generalize (s.stage tree).run fuel root p inputs = o,
      (s'.stage tree).run fuel root p inputs = o' at halike
    cases halike with
    | none => rfl
    | some h => exact congrArg some (congrArg Run.profile h.mute :)
  · have barred' : s'.Barred tree := by rwa [Barred, ← library]
    obtain ⟨w, hrefuse⟩ := exists_refuse barred
    obtain ⟨w', hrefuse'⟩ := exists_refuse barred'
    rw [hrefuse, hrefuse']
    rfl

/-- The performances agree, show the same scenes, each as its session has them, and leave the same
in the histories of both. -/
def PerformAlike (s s' : Session) (tree : String) (p : Profile) (inputs : List String)
    (r r' : Performance) : Prop :=
  r.Agrees r' ∧ ∃ xs marks finished,
    s.Performs tree p inputs xs marks finished r ∧ s'.Performs tree p inputs xs marks finished r'

theorem performAlike_refuse (library : s.library = s'.library)
    (barred : ∀ t root, s.library.lookup tree = some t → t.rootNode? ≠ some root)
    (warning : Warning) :
    s.PerformAlike s' tree p inputs (s.refuse p inputs warning) (s'.refuse p inputs warning) :=
  ⟨⟨rfl, rfl, rfl, rfl, rfl, rfl, rfl, rfl⟩, [], [], [], performs_refuse barred warning,
    performs_refuse (library ▸ barred) warning⟩

/-- **Presentation and bookkeeping never steer a dialogue.** Whatever the pacing, the colors of
speakers, the history, the listeners and the events not taken out, sessions with the same library
and scope come to an end together, and come to the same; they show the same scenes, each with its
own pacing and colors of labels, and add the same to their histories. -/
theorem start_alike (library : s.library = s'.library) (scope : s.config.scope = s'.config.scope)
    (fuel : Nat) (tree : String) (p : Profile) (inputs : List String) :
    Option.Rel (s.PerformAlike s' tree p inputs)
      (s.start fuel tree p inputs) (s'.start fuel tree p inputs) := by
  cases found : s.library.lookup tree with
  | none =>
    have found' : s'.library.lookup tree = none := library ▸ found
    simp only [start, found, found']
    exact .some (performAlike_refuse library (fun t root h => by simp [found] at h) _)
  | some t =>
    have found' : s'.library.lookup tree = some t := library ▸ found
    cases entry : t.rootNode? with
    | none =>
      simp only [start, found, found', entry]
      exact .some (performAlike_refuse library
        (fun u root h => by cases found.symm.trans h; simp [entry]) _)
    | some root =>
      have resolves : (s.stage tree).resolve = (s'.stage tree).resolve := by
        funext target
        simp only [Stage.resolve, stage, library, scope]
      rw [start_of_entered found entry, start_of_entered found' entry]
      refine rel_map (Stage.run_alike resolves fuel root p inputs) fun run run' hrun hrun' h => ?_
      obtain ⟨xs, shows, shows'⟩ := h.scenes
      have performs := performs_run found entry hrun shows
      have performs' := performs_run found' entry hrun' shows'
      rw [Run.marks, Run.finished, h.picks, h.result] at performs
      exact ⟨agrees_of_alike h, xs, _, _, performs, performs'⟩

/-- The inn by the road, where nobody waits, the host speaks in red, and someone listens. -/
def hastyInn : Session :=
  { library := wayside.library
    config := { pacing := .disabled, speakers := Table.set {} "host" .red }
    history := { finished := [⟨"road", false, none⟩], marks := [("greeting", 1)] }
    listeners := [{ name := "log" }]
    buffer := [.completed "road" false] }

theorem start_alike_hastyInn :
    wayside.library = hastyInn.library ∧ wayside.config.scope = hastyInn.config.scope ∧
      ∃ r r', wayside.start 3 "road" {} ["2", "1"] = some r ∧
        hastyInn.start 3 "road" {} ["2", "1"] = some r' ∧
        wayside.PerformAlike hastyInn "road" {} ["2", "1"] r r' ∧
        Act.prompts r.acts = 2 ∧ Act.pauses r.acts = [.ofMillis 1500, .ofMillis 900] ∧
        Act.pauses r'.acts = [] := by
  have hshown : (wayside.start 3 "road" {} ["2", "1"]).map
      (fun r => (Act.prompts r.acts, Act.pauses r.acts)) =
      some (2, [.ofMillis 1500, .ofMillis 900]) := by decide +kernel
  obtain ⟨r, hr, hshown⟩ := Option.map_eq_some_iff.1 hshown
  obtain ⟨hprompts, hpauses⟩ := Prod.mk.inj hshown
  have hrel := @start_alike wayside hastyInn rfl rfl 3 "road" {} ["2", "1"]
  generalize hr' : hastyInn.start 3 "road" {} ["2", "1"] = o at hrel
  rw [hr] at hrel
  cases hrel with
  | @some _ r' h =>
    obtain ⟨-, xs, marks, finished, -, performs⟩ := id h
    exact ⟨rfl, rfl, r, r', hr, rfl, h, hprompts, hpauses, performs.pauses⟩

end Session

end Dialogue
