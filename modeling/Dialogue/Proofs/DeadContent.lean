import Dialogue.Proofs.Aftermath
import Dialogue.Proofs.Library
import Dialogue.Proofs.Machine
import Mathlib.Data.List.Forall2
import Mathlib.Logic.Relation

/-!
# Content that is never consulted

The ways on from a node where the dialogue ends, the effects of a node where it goes on, and effects
of a kind that is not known are dead content: the core of a library is what is left without them.
Libraries that differ in dead content only (`Node.Edit`) have the same core
(`Library.core_eq_of_edited`). A dialogue in the core of a library is the core of the dialogue in
the library itself, visit by visit (`Stage.visit_core`) and so as a whole (`Stage.run_core`,
`Session.start_core`). So libraries with the same core have the same dialogues.
-/

namespace Dialogue

/-! ## Cores -/

/-- The effects of a kind that is known. -/
def Effect.known (effects : List Effect) : List Effect := effects.filter (· ≠ .unknown)

/-- A choice without effects that are not known. -/
def Choice.core (c : Choice) : Choice := { c with effects := Effect.known c.effects }

/-- A node without what is skipped: the ways on if the dialogue ends there, the effects if not. -/
def Node.core (n : Node) : Node :=
  if n.isEnd then { n with choices := [], next := none, effects := Effect.known n.effects }
  else { n with choices := n.choices.map Choice.core, effects := [] }

def Tree.core (t : Tree) : Tree := { t with nodes := t.nodes.mapValues Node.core }

def Library.core (l : Library) : Library where
  trees := l.trees.map Tree.core
  index := l.index
  indexed id k := by
    rw [l.indexed id k, List.getElem?_map, Option.map_map]
    rfl

namespace Effect

@[simp] theorem known_unknown (effects : List Effect) :
    known (.unknown :: effects) = known effects := rfl

theorem known_insert (before after : List Effect) :
    known (before ++ .unknown :: after) = known (before ++ after) := by
  simp [known]

theorem known_cons {e : Effect} (h : e ≠ .unknown) (effects : List Effect) :
    known (e :: effects) = e :: known effects := List.filter_cons_of_pos (by simpa using h)

/-- Effects that are not known change nothing. -/
theorem applyAll_known (p : Profile) (effects : List Effect) :
    applyAll p (known effects) = applyAll p effects := by
  induction effects generalizing p with
  | nil => rfl
  | cons e effects ih =>
    by_cases h : e = .unknown
    · rw [h, known_unknown, ih]
      rfl
    · rw [known_cons h]
      exact ih (e.apply p)

theorem notices_known (p : Profile) (effects : List Effect) :
    notices p (known effects) = notices p effects := by
  induction effects generalizing p with
  | nil => rfl
  | cons e effects ih =>
    by_cases h : e = .unknown
    · rw [h, known_unknown, ih]
      rfl
    · rw [known_cons h, notices, notices, ih]

end Effect

theorem noticeActs_known (p : Profile) (effects : List Effect) :
    noticeActs p (Effect.known effects) = noticeActs p effects := by
  rw [noticeActs, noticeActs, Effect.notices_known]

namespace Choice

@[simp] theorem core_text (c : Choice) : c.core.text = c.text := rfl

theorem color_core (c : Choice) : c.core.color = c.color := by
  obtain ⟨text, next, tone, condition, effects, autoSelect⟩ := c
  unfold color core
  dsimp only
  congr 1
  induction effects with
  | nil => rfl
  | cons e effects ih =>
    by_cases h : e = .unknown
    · rw [h, Effect.known_unknown, ih]
      rfl
    · rw [Effect.known_cons h, List.findSome?_cons, List.findSome?_cons, ih]

theorem applyAll_core (p : Profile) (c : Choice) :
    Effect.applyAll p c.core.effects = Effect.applyAll p c.effects := Effect.applyAll_known ..

theorem noticeActs_core (p : Profile) (c : Choice) :
    noticeActs p c.core.effects = noticeActs p c.effects := noticeActs_known ..

end Choice

namespace Node
variable {n : Node} {p : Profile}

@[simp] theorem core_id (n : Node) : n.core.id = n.id := by unfold core; split <;> rfl

@[simp] theorem core_speaker (n : Node) : n.core.speaker = n.speaker := by
  unfold core; split <;> rfl

@[simp] theorem core_lines (n : Node) : n.core.lines = n.lines := by unfold core; split <;> rfl

@[simp] theorem core_color (n : Node) : n.core.color = n.color := by unfold core; split <;> rfl

@[simp] theorem core_isEnd (n : Node) : n.core.isEnd = n.isEnd := by unfold core; split <;> rfl

theorem core_of_isEnd (ended : n.isEnd = true) :
    n.core = { n with choices := [], next := none, effects := Effect.known n.effects } :=
  if_pos ended

theorem core_of_live (live : n.isEnd = false) :
    n.core = { n with choices := n.choices.map Choice.core, effects := [] } :=
  if_neg (by simp [live])

theorem offers_core (live : n.isEnd = false) (p : Profile) :
    n.core.offers p = (n.offers p).map fun o => (o.1, o.2.core) := by
  have hlisted : n.core.choices.mapIdx Prod.mk =
      (n.choices.mapIdx Prod.mk).map fun o => (o.1, o.2.core) := by
    rw [core_of_live live]
    apply List.ext_getElem <;> simp
  rw [offers, offers, hlisted, List.filter_map]
  rfl

theorem legal_core (live : n.isEnd = false) (p : Profile) :
    n.core.legal p = (n.legal p).map Choice.core := by
  rw [← map_offers, ← map_offers, offers_core live, List.map_map, List.map_map]
  rfl

theorem next_core (live : n.isEnd = false) : n.core.next = n.next := by rw [core_of_live live]

theorem Asks.core (asks : n.Asks p) : n.core.Asks p where
  live := by rw [core_isEnd, asks.live]
  some := by simpa [legal_core asks.live] using asks.some
  manual := by
    rw [legal_core asks.live]
    intro c hc
    obtain ⟨d, hd, rfl⟩ := List.map_eq_singleton_iff.1 hc
    exact asks.manual d hd

end Node

/-! ## Edits of dead content -/

/-- An edit of dead content at a node: of the ways on if the dialogue ends there, of the effects if
it goes on, or by an effect of no known kind, among those of the node or of one of its choices. -/
inductive Node.Edit : Node → Node → Prop
  | exits {n : Node} (ended : n.isEnd = true) (choices : List Choice) (next : Option String) :
    Edit n { n with choices, next }
  | effects {n : Node} (live : n.isEnd = false) (effects : List Effect) : Edit n { n with effects }
  | unknown (n : Node) (before after : List Effect) :
    Edit { n with effects := before ++ after } { n with effects := before ++ .unknown :: after }
  | unknownAt (n : Node) (front back : List Choice) (c : Choice) (before after : List Effect) :
    Edit { n with choices := front ++ { c with effects := before ++ after } :: back }
      { n with choices := front ++ { c with effects := before ++ .unknown :: after } :: back }

/-- The nodes of the trees differ in edits of dead content, made and undone. -/
structure Tree.Edited (t t' : Tree) : Prop where
  id : t.id = t'.id
  name : t.name = t'.name
  root : t.root = t'.root
  nodes : ∀ id, Option.Rel (Relation.EqvGen Node.Edit) (t.nodes.get? id) (t'.nodes.get? id)

theorem Node.Edit.core_eq {n n' : Node} (edit : Edit n n') : n.core = n'.core := by
  cases edit with
  | exits ended => rw [core_of_isEnd ended, core_of_isEnd (by exact ended)]
  | effects live => rw [core_of_live live, core_of_live (by exact live)]
  | unknown n before after => simp only [core, Effect.known_insert]
  | unknownAt n front back c before after =>
    simp only [core, List.map_append, List.map_cons, Choice.core, Effect.known_insert]

theorem Node.core_eq_of_edits {n n' : Node} (edits : Relation.EqvGen Edit n n') :
    n.core = n'.core := by
  induction edits with
  | rel _ _ edit => exact edit.core_eq
  | refl => rfl
  | symm _ _ _ ih => exact ih.symm
  | trans _ _ _ _ _ ih ih' => exact ih.trans ih'

theorem Tree.Edited.core_eq {t t' : Tree} (edited : t.Edited t') : t.core = t'.core := by
  have hnodes : t.nodes.mapValues Node.core = t'.nodes.mapValues Node.core := by
    refine Table.ext_get? fun id => ?_
    have hrel := edited.nodes id
    rw [Table.get?_mapValues, Table.get?_mapValues]
    generalize t.nodes.get? id = n, t'.nodes.get? id = n' at hrel ⊢
    cases hrel with
    | none => rfl
    | some edits => exact congrArg some (Node.core_eq_of_edits edits)
  rw [core, core, hnodes]
  simp only [edited.id, edited.name, edited.root]

/-- Edits of dead content leave the core of a library. -/
theorem Library.core_eq_of_edited {l l' : Library}
    (edited : List.Forall₂ Tree.Edited l.trees l'.trees) : l.core = l'.core := by
  have hcores : List.Forall₂ (· = ·) (l.trees.map Tree.core) (l'.trees.map Tree.core) := by
    rw [List.forall₂_map_left_iff, List.forall₂_map_right_iff]
    exact edited.imp fun _ _ h => h.core_eq
  rw [List.forall₂_eq_eq_eq] at hcores
  exact ext_trees hcores

/-! ## Visits -/

def Exit.core : Exit → Exit
  | .automatic c => .automatic c.core
  | .chosen position c => .chosen position c.core
  | exit => exit

def Visit.core (v : Visit) : Visit := { v with node := v.node.core, exit := v.exit.core }

def Result.core : Result → Result
  | .completed n => .completed n.core
  | .aborted => .aborted

theorem Exit.target?_core (exit : Exit) : exit.core.target? = exit.target? := by cases exit <;> rfl

theorem Exit.isClosed_core (exit : Exit) : exit.core.isClosed = exit.isClosed := by
  cases exit <;> rfl

theorem Result.isCompleted_core (result : Result) :
    result.core.isCompleted = result.isCompleted := by cases result <;> rfl

theorem Result.endNode?_core (result : Result) :
    result.core.endNode?.map Node.id = result.endNode?.map Node.id := by
  cases result with
  | completed n => exact congrArg some n.core_id
  | aborted => rfl

theorem Visit.result_core (v : Visit) : v.core.result = v.result.core := by
  obtain ⟨node, before, exit, acts, after, unread⟩ := v
  cases exit <;> rfl

/-- The menu shows nothing of the effects that are not known. -/
theorem menu_core (offers : List (Nat × Choice)) :
    menu (offers.map fun o => (o.1, o.2.core)) = menu offers := by
  have hnumbered : (offers.map fun o => (o.1, o.2.core)).mapIdx (fun k o =>
      Act.line ("[" ++ toString (k + 1) ++ "] " ++ o.2.text) o.2.color) =
      offers.mapIdx fun k o => .line ("[" ++ toString (k + 1) ++ "] " ++ o.2.text) o.2.color := by
    apply List.ext_getElem <;> simp [Choice.color_core]
  rw [menu, menu, hnumbered]

namespace Stage
variable (stage : Stage) (n : Node) (p : Profile) (inputs : List String)

/-- The stage with the core of its library. -/
def core : Stage := { stage with library := stage.library.core }

theorem display_core : stage.core.display p n.core = stage.display p n := by
  simp only [display, Node.core_speaker, Node.core_lines, Node.core_color]
  rfl

theorem prompt_core (shown : List Act) (offers : List (Nat × Choice)) :
    prompt n.core p shown (offers.map fun o => (o.1, o.2.core)) inputs =
      (prompt n p shown offers inputs).core := by
  -- both prompts ask among as many choices, and so get the same answer
  have hlength : offers.length = (offers.map fun o => (o.1, o.2.core)).length :=
    (List.length_map ..).symm
  cases hselection : (ask offers.length inputs).selection with
  | none =>
    rw [prompt_of_none hlength hselection, prompt_of_none rfl hselection, menu_core]
    rfl
  | some selection =>
    cases selection with
    | silence =>
      rw [prompt_of_silence hlength hselection, prompt_of_silence rfl hselection, menu_core]
      rfl
    | pick k =>
      have hpicked : (offers.map fun o => (o.1, o.2.core))[k.cast hlength] =
          (offers[k].1, offers[k].2.core) := List.getElem_map ..
      rw [prompt_of_pick hlength hselection, prompt_of_pick rfl hselection, menu_core, hpicked,
        Choice.applyAll_core, Choice.noticeActs_core]
      rfl

theorem visit_core : stage.core.visit n.core p inputs = (stage.visit n p inputs).core := by
  cases n.stance p with
  | terminal ended =>
    rw [visit_of_isEnd ended, visit_of_isEnd (n.core_isEnd.trans ended), display_core]
    have heffects : n.core.effects = Effect.known n.effects := by rw [n.core_of_isEnd ended]
    rw [heffects, noticeActs_known, Effect.applyAll_known]
    rfl
  | stuck live barred last =>
    rw [visit_of_stuck live barred last, visit_of_stuck (n.core_isEnd.trans live)
      (by rw [n.legal_core live, barred]; rfl) (by rw [n.next_core live, last]), display_core]
    rfl
  | successor target live barred next =>
    rw [visit_of_successor live barred next, visit_of_successor (n.core_isEnd.trans live)
      (by rw [n.legal_core live, barred]; rfl) (by rw [n.next_core live, next]), display_core]
    rfl
  | automatic c live only auto =>
    have only' : n.core.legal p = [c.core] := by rw [n.legal_core live, only, List.map_singleton]
    rw [visit_of_automatic live only auto,
      visit_of_automatic (n.core_isEnd.trans live) only' auto, display_core,
      Choice.applyAll_core, Choice.noticeActs_core]
    rfl
  | asks asks =>
    rw [visit_of_asks asks, visit_of_asks asks.core, display_core, n.offers_core asks.live,
      prompt_core]

end Stage

/-! ## Runs -/

namespace Tree
variable (t : Tree)

theorem node?_core (id : String) : t.core.node? id = (t.node? id).map Node.core :=
  Table.get?_mapValues ..

theorem rootNode?_core : t.core.rootNode? = t.rootNode?.map Node.core := t.node?_core _

end Tree

namespace Library
variable (l : Library) (id : String)

theorem lookup_core : l.core.lookup id = (l.lookup id).map Tree.core := by
  have htrees (k : Nat) : l.core.trees[k]? = (l.trees[k]?).map Tree.core := List.getElem?_map
  rw [lookup, lookup, Option.map_bind]
  exact congrArg ((l.index.get? id).bind ·) (funext htrees)

theorem resolve_core : l.core.resolve id = (l.resolve id).map Node.core := by
  have hnodes : (fun t : Tree => t.core.node? id) = fun t => (t.node? id).map Node.core :=
    funext fun t => t.node?_core id
  rw [resolve, resolve, core, List.findSome?_map, List.map_findSome?]
  exact congrArg (List.findSome? · l.trees) hnodes

theorem successor_core (scope : Scope) (tree : String) :
    l.core.successor scope tree id = (l.successor scope tree id).map Node.core := by
  cases scope with
  | global => exact resolve_core l id
  | tree =>
    dsimp only [successor, resolveIn]
    rw [lookup_core]
    cases l.lookup tree with
    | none => rfl
    | some t => exact t.node?_core id

end Library

def Run.core (r : Run) : Run :=
  { r with visits := r.visits.map Visit.core, result := r.result.core }

theorem Run.last_core (v : Visit) : last v.core = (last v).core := by
  have htarget : v.core.exit.target? = v.exit.target? := v.exit.target?_core
  rw [last, htarget, v.result_core]
  rfl

namespace Stage
variable (stage : Stage)

theorem follow_core (v : Visit) : stage.core.follow v.core = (stage.follow v).map Node.core := by
  have htarget : v.core.exit.target? = v.exit.target? := v.exit.target?_core
  rw [follow, follow, htarget, Option.map_bind]
  exact congrArg (v.exit.target?.bind ·) (funext fun _ => Library.successor_core ..)

theorem run_core (fuel : Nat) (n : Node) (p : Profile) (inputs : List String) :
    stage.core.run fuel n.core p inputs = (stage.run fuel n p inputs).map Run.core := by
  induction fuel generalizing n p inputs with
  | zero => rfl
  | succ fuel ih =>
    have hvisit := stage.visit_core n p inputs
    have hfollow := stage.follow_core (stage.visit n p inputs)
    rw [← hvisit] at hfollow
    cases h : stage.follow (stage.visit n p inputs) with
    | none =>
      rw [h] at hfollow
      rw [run_last h, run_last hfollow, hvisit, Run.last_core]
      rfl
    | some next =>
      rw [h] at hfollow
      rw [run_cons h, run_cons hfollow, hvisit]
      generalize stage.visit n p inputs = v
      have hrest := ih next v.after v.unread
      calc (stage.core.run fuel next.core v.after v.unread).map (Run.cons v.core)
          = ((stage.run fuel next v.after v.unread).map Run.core).map (Run.cons v.core) := by
            rw [hrest]
        _ = ((stage.run fuel next v.after v.unread).map (Run.cons v)).map Run.core := by
            rw [Option.map_map, Option.map_map]
            rfl

end Stage

/-! ## Dialogues -/

namespace Run
variable (r : Run)

theorem picks_core : r.core.picks = r.picks.map fun pick => (pick.1, pick.2.1, pick.2.2.core) := by
  rw [picks, picks, core, List.filterMap_map, List.map_filterMap]
  refine congrArg (List.filterMap · r.visits) (funext fun v => ?_)
  obtain ⟨node, before, exit, acts, after, unread⟩ := v
  cases exit with
  | chosen position c => simp [Visit.core, Exit.core]
  | ending | stuck | successor | automatic | silence | closed => rfl

theorem marks_core : r.core.marks = r.marks := by
  rw [marks, marks, picks_core, List.map_map]
  rfl

theorem acts_core : r.core.acts = r.acts := List.flatMap_map ..

theorem closed_core : r.core.closed = r.closed := by
  simp only [closed, core, List.getLast?_map, Option.any_map]
  exact congrArg (Option.any · _) (funext fun v => v.exit.isClosed_core)

theorem finished_core (tree : String) : r.core.finished tree = r.finished tree := by
  rw [finished, finished, core, Result.isCompleted_core, Result.endNode?_core]

theorem events_core (tree : String) : r.core.events tree = r.events tree := by
  rw [events, events, picks_core, List.map_map, core, Result.isCompleted_core]
  rfl

end Run

def Session.core (s : Session) : Session := { s with library := s.library.core }

def Performance.core (r : Performance) : Performance :=
  { r with session := r.session.core, result := r.result.core }

namespace Session
variable (s : Session) (tree : String)

theorem performance_core (r : Run) :
    s.core.performance tree r.core = (s.performance tree r).core := by
  have hafter : s.core.afterRun tree r.core = (s.afterRun tree r).core := by
    rw [afterRun_eq, afterRun_eq, r.marks_core, r.finished_core, r.events_core]
    rfl
  have hevents := r.events_core tree
  dsimp only [Run.events] at hevents
  simp only [performance, hafter, hevents, r.closed_core, r.acts_core]
  rfl

/-- A dialogue in the core of a library is the core of the dialogue in the library. -/
theorem start_core (fuel : Nat) (p : Profile) (inputs : List String) :
    s.core.start fuel tree p inputs = (s.start fuel tree p inputs).map Performance.core := by
  have hlookup : s.core.library.lookup tree = (s.library.lookup tree).map Tree.core :=
    s.library.lookup_core tree
  cases found : s.library.lookup tree with
  | none =>
    rw [found, Option.map_none] at hlookup
    simp only [start, found, hlookup]
    rfl
  | some t =>
    rw [found, Option.map_some] at hlookup
    have hroot := t.rootNode?_core
    cases entry : t.rootNode? with
    | none =>
      rw [entry, Option.map_none] at hroot
      simp only [start, found, hlookup, entry, hroot]
      rfl
    | some root =>
      rw [entry, Option.map_some] at hroot
      have hrun : (s.core.stage tree).run fuel root.core p inputs =
          ((s.stage tree).run fuel root p inputs).map Run.core := (s.stage tree).run_core ..
      rw [start_of_entered found entry, start_of_entered hlookup hroot, hrun, Option.map_map,
        Option.map_map]
      exact congrArg (Option.map · _) (funext fun r => s.performance_core tree r)

/-- A dialogue leaves the library as it is. -/
theorem library_of_start {fuel : Nat} {p : Profile} {inputs : List String} {r : Performance}
    (h : s.start fuel tree p inputs = some r) : r.session.library = s.library := by
  rcases s.entered_or_barred tree with ⟨t, root, found, entry⟩ | barred
  · rw [start_of_entered found entry] at h
    obtain ⟨run, -, rfl⟩ := Option.map_eq_some_iff.1 h
    rw [performance, afterRun_eq]
  · obtain ⟨w, hrefuse⟩ := exists_refuse barred
    cases (hrefuse fuel p inputs).symm.trans h
    rfl

theorem config_of_start {fuel : Nat} {p : Profile} {inputs : List String} {r : Performance}
    (h : s.start fuel tree p inputs = some r) : r.session.config = s.config := by
  rcases s.entered_or_barred tree with ⟨t, root, found, entry⟩ | barred
  · rw [start_of_entered found entry] at h
    obtain ⟨run, -, rfl⟩ := Option.map_eq_some_iff.1 h
    rw [performance, afterRun_eq]
  · obtain ⟨w, hrefuse⟩ := exists_refuse barred
    cases (hrefuse fuel p inputs).symm.trans h
    rfl

end Session

/-- The performances come to the same, show the same and tell of the same; the nodes where they end
have the same id, and the sessions afterwards differ in the library only, which is `l` in the second
one. -/
structure Performance.Coincides (l : Library) (r r' : Performance) : Prop where
  completed : r.result.isCompleted = r'.result.isCompleted
  endNode : r.result.endNode?.map Node.id = r'.result.endNode?.map Node.id
  profile : r.profile = r'.profile
  acts : r.acts = r'.acts
  unread : r.unread = r'.unread
  events : r.events = r'.events
  warning : r.warning = r'.warning
  closed : r.closed = r'.closed
  session : r'.session = { r.session with library := l }

theorem Performance.coincides_of_core {r r' : Performance} (h : r.core = r'.core) :
    r.Coincides r'.session.library r' := by
  have hresult : r.result.core = r'.result.core := (congrArg Performance.result h :)
  have hsession : r.session.core = r'.session.core := (congrArg Performance.session h :)
  exact {
    completed := by rw [← r.result.isCompleted_core, hresult, r'.result.isCompleted_core]
    endNode := by rw [← r.result.endNode?_core, hresult, r'.result.endNode?_core]
    profile := (congrArg Performance.profile h :)
    acts := (congrArg Performance.acts h :)
    unread := (congrArg Performance.unread h :)
    events := (congrArg Performance.events h :)
    warning := (congrArg Performance.warning h :)
    closed := (congrArg Performance.closed h :)
    session := (congrArg (fun s : Session => { s with library := r'.session.library })
      hsession.symm :) }

namespace Session
variable {s : Session} {l : Library}

/-- **Skipped content is dead content.** Libraries with the same core, which differ in nothing but
the ways on from nodes where a dialogue ends, the effects of nodes where it goes on, and effects of
a kind that is not known, have the same dialogues: these come to an end together and coincide. -/
theorem start_coincides (h : s.library.core = l.core) (fuel : Nat) (tree : String) (p : Profile)
    (inputs : List String) :
    Option.Rel (Performance.Coincides l) (s.start fuel tree p inputs)
      (({ s with library := l } : Session).start fuel tree p inputs) := by
  have hcore : s.core = ({ s with library := l } : Session).core := by rw [core, h]; rfl
  have hstart := s.start_core tree fuel p inputs
  have hstart' := ({ s with library := l } : Session).start_core tree fuel p inputs
  rw [hcore, hstart'] at hstart
  cases hr : s.start fuel tree p inputs with
  | none =>
    rw [hr] at hstart
    rw [Option.map_eq_none_iff.1 hstart]
    exact .none
  | some r =>
    rw [hr, Option.map_some] at hstart
    obtain ⟨r', hr', hsame⟩ := Option.map_eq_some_iff.1 hstart
    rw [hr']
    have coincides := Performance.coincides_of_core hsame.symm
    rw [library_of_start _ _ hr'] at coincides
    exact .some coincides

/-- The trees by the road with dead content: a blessing that nobody gets, a way on from the
farewell, and effects from elsewhere. -/
def cluttered : Library :=
  let greeting : Node :=
    { id := "greeting", speaker := some "Host", lines := ["Welcome, \x7bPlayerName\x7d!"]
      choices := [
        { text := "Sing", next := "farewell", condition := some (.test (.hasFlag "bard"))
          effects := [.unknown] },
        { text := "Work", next := "farewell", effects := [.unknown, .addGold 5, .unknown] }]
      effects := [.setFlag "blessed"] }
  let inn : Tree := .withNode (.withNode ⟨"inn", "The Inn", "greeting", {}⟩ greeting)
    { id := "farewell", isEnd := true, effects := [.giveItem "bread", .unknown]
      choices := [{ text := "Stay", next := "greeting" }], next := some "greeting" }
  let road : Tree := .withNode ⟨"road", "", "walk", {}⟩
    { id := "walk", next := some "greeting", effects := [.addGold 100] }
  Library.empty.register inn |>.register road

theorem start_coincides_cluttered :
    wayside.library.core = cluttered.core ∧
      ∃ r r', wayside.start 3 "road" {} ["2", "1"] = some r ∧
        ({ wayside with library := cluttered } : Session).start 3 "road" {} ["2", "1"] = some r' ∧
        r.Coincides cluttered r' ∧ r'.profile.player.gold = 5 := by
  have hgold : (wayside.start 3 "road" {} ["2", "1"]).map (·.profile.player.gold) = some 5 := by
    decide
  obtain ⟨r, hr, hgold⟩ := Option.map_eq_some_iff.1 hgold
  have hcore : wayside.library.core = cluttered.core := rfl
  have hrel := start_coincides hcore 3 "road" {} ["2", "1"]
  generalize hr' :
    ({ wayside with library := cluttered } : Session).start 3 "road" {} ["2", "1"] = o at hrel
  rw [hr] at hrel
  cases hrel with
  | @some _ r' coincides =>
    exact ⟨hcore, r, r', hr, rfl, coincides, by rw [← coincides.profile, hgold]⟩

end Session

end Dialogue
