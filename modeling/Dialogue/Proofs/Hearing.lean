import Dialogue.Proofs.Aftermath
import Dialogue.Proofs.Machine

/-!
# What is made of inputs

A prompt reads inputs up to the first that makes a selection. What a dialogue hears is the list of
all inputs it reads, each with whether it was accepted (`Session.hearing`). Inputs that were turned
down cost a prompt and a refusal each and nothing else (`ask_kept`, `Stage.visit_kept`,
`Stage.Runs.kept`); inputs left unread may be any; and a dialogue that ends for want of input ends
as it would by a zero (`Stage.Runs.silence`).
-/

namespace Dialogue
open Machine

/-- Inputs that were read, each with whether it was accepted as a selection. -/
abbrev Hearing := List (String × Bool)

namespace Hearing

def inputs (h : Hearing) : List String := h.map Prod.fst

def accepted (h : Hearing) : List String := (h.filter (·.2)).map Prod.fst

def rejected (h : Hearing) : List String := (h.filter (!·.2)).map Prod.fst

end Hearing

/-- The inputs that a prompt for one of `count` choices reads. -/
def heard (count : Nat) : List String → Hearing
  | [] => []
  | input :: inputs =>
    if (Selection.parse count input).isSome then [(input, true)]
    else (input, false) :: heard count inputs

/-- The node was left by a prompt. -/
def Exit.prompted : Exit → Bool
  | .chosen .. | .silence | .closed => true
  | .ending | .stuck | .successor _ | .automatic _ => false

/-- What is read on a visit that finds some inputs. -/
def Visit.hearing (v : Visit) (inputs : List String) : Hearing :=
  if v.exit.prompted then heard (v.node.offers v.before).length inputs else []

/-- What is read on visits that follow each other: each finds what the one before has left. -/
def Visit.hearings : List Visit → List String → Hearing
  | [], _ => []
  | v :: visits, inputs => v.hearing inputs ++ hearings visits v.unread

/-- What is heard on a run that finds some inputs. -/
def Run.hearing (r : Run) (inputs : List String) : Hearing := Visit.hearings r.visits inputs

/-- What a dialogue hears. -/
def Session.hearing (s : Session) (fuel : Nat) (tree : String) (p : Profile)
    (inputs : List String) : Hearing :=
  match (s.library.lookup tree).bind Tree.rootNode? with
  | none => []
  | some root =>
    match (s.stage tree).run fuel root p inputs with
    | none => []
    | some r => r.hearing inputs

/-- `Pruned k acts acts'`: the acts `acts'` are left of `acts` without `k` of its refusals, each of
which is a prompt and the line that turns an input down. -/
inductive Act.Pruned : Nat → List Act → List Act → Prop
  | nil : Pruned 0 [] []
  | keep {k acts acts'} (a : Act) (h : Pruned k acts acts') : Pruned k (a :: acts) (a :: acts')
  | refusal {k acts acts'} (h : Pruned k acts acts') :
    Pruned (k + 1) (.prompt :: .line "Please enter a valid choice." .red :: acts) acts'

namespace Act.Pruned

theorem refl (acts : List Act) : Pruned 0 acts acts := by
  induction acts with
  | nil => exact .nil
  | cons a acts ih => exact .keep a ih

theorem append {k l : Nat} {as as' bs bs' : List Act} (h : Pruned k as as')
    (h' : Pruned l bs bs') : Pruned (k + l) (as ++ bs) (as' ++ bs') := by
  induction h with
  | nil => rwa [Nat.zero_add]
  | keep a _ ih => exact .keep a ih
  | refusal _ ih => rw [Nat.add_right_comm]; exact .refusal ih

/-- Where nothing is left out, nothing changes. -/
theorem eq {as as' : List Act} (h : Pruned 0 as as') : as' = as := by
  generalize hk : 0 = k at h
  induction h with
  | nil => rfl
  | keep a _ ih => rw [ih hk]
  | refusal => cases hk

end Act.Pruned

/-! ## Some of the inputs

An input that was turned down may be kept or left out, as `keep` says; those that were accepted are
always kept. -/

namespace Hearing

def kept (keep : String → Bool) (h : Hearing) : List String :=
  (h.filter fun e => e.2 || keep e.1).map Prod.fst

/-- How many are left out. -/
def missed (keep : String → Bool) (h : Hearing) : Nat := h.countP fun e => !(e.2 || keep e.1)

variable {keep : String → Bool}

theorem inputs_append (h h' : Hearing) : inputs (h ++ h') = inputs h ++ inputs h' :=
  List.map_append

theorem kept_append (h h' : Hearing) :
    kept keep (h ++ h') = kept keep h ++ kept keep h' := by
  simp [kept]

theorem missed_append (h h' : Hearing) :
    missed keep (h ++ h') = missed keep h + missed keep h' := by
  simp [missed]

theorem kept_all (h : Hearing) : kept (fun _ => true) h = h.inputs := by
  rw [kept, List.filter_eq_self.2 (by simp), inputs]

theorem missed_all (h : Hearing) : missed (fun _ => true) h = 0 := by simp [missed]

theorem kept_none (h : Hearing) : kept (fun _ => false) h = h.accepted := by simp [kept, accepted]

theorem missed_none (h : Hearing) : missed (fun _ => false) h = h.rejected.length := by
  simp [missed, rejected, List.countP_eq_length_filter]

end Hearing

/-! ## Prompts -/

section Prompts
variable {count : Nat} {keep : String → Bool}

/-- What is heard is what is read. -/
theorem inputs_heard_append (inputs : List String) :
    inputs = (heard count inputs).inputs ++ (ask count inputs).unread := by
  induction inputs with
  | nil => rfl
  | cons input inputs ih =>
    rw [heard, ask]
    cases Selection.parse count input with
    | none => exact congrArg (input :: ·) ih
    | some selection => rfl

/-- Inputs that were turned down do not change the answer. Where the input has ended, there must be
no more of it. -/
theorem ask_kept (inputs : List String) {others : List String}
    (ended : (ask count inputs).selection = none → others = []) :
    (ask count ((heard count inputs).kept keep ++ others)).selection =
        (ask count inputs).selection ∧
      (ask count ((heard count inputs).kept keep ++ others)).unread = others ∧
      Act.Pruned ((heard count inputs).missed keep) (ask count inputs).acts
        (ask count ((heard count inputs).kept keep ++ others)).acts := by
  induction inputs with
  | nil =>
    obtain rfl := ended rfl
    exact ⟨rfl, rfl, .refl _⟩
  | cons input inputs ih =>
    rw [ask] at ended ⊢
    cases hparse : Selection.parse count input with
    | some selection =>
      have hheard : heard count (input :: inputs) = [(input, true)] := by simp [heard, hparse]
      have hkept : Hearing.kept keep [(input, true)] = [input] := by simp [Hearing.kept]
      have hmissed : Hearing.missed keep [(input, true)] = 0 := by simp [Hearing.missed]
      rw [hheard, hkept, hmissed, List.singleton_append, ask_of_accepted hparse]
      exact ⟨rfl, rfl, .refl _⟩
    | none =>
      simp only [hparse] at ended ⊢
      obtain ⟨hselection, hunread, hacts⟩ := ih ended
      have hheard : heard count (input :: inputs) = (input, false) :: heard count inputs := by
        simp [heard, hparse]
      rw [hheard]
      cases hkeep : keep input with
      | true =>
        have hkept : Hearing.kept keep ((input, false) :: heard count inputs) =
            input :: (heard count inputs).kept keep := by simp [Hearing.kept, hkeep]
        have hmissed : Hearing.missed keep ((input, false) :: heard count inputs) =
            (heard count inputs).missed keep := by simp [Hearing.missed, hkeep]
        rw [hkept, hmissed, List.cons_append, ask, hparse]
        exact ⟨hselection, hunread, .keep _ (.keep _ hacts)⟩
      | false =>
        have hkept : Hearing.kept keep ((input, false) :: heard count inputs) =
            (heard count inputs).kept keep := by simp [Hearing.kept, hkeep]
        have hmissed : Hearing.missed keep ((input, false) :: heard count inputs) =
            (heard count inputs).missed keep + 1 := by simp [Hearing.missed, hkeep]
        rw [hkept, hmissed]
        exact ⟨hselection, hunread, .refusal hacts⟩

/-- Where the input ends, a zero says nothing just as well. -/
theorem ask_zero (inputs : List String) (ended : (ask count inputs).selection = none) :
    ask count (inputs ++ ["0"]) = { ask count inputs with selection := some .silence } := by
  induction inputs with
  | nil =>
    have hzero : Selection.parse count "0" = some .silence :=
      parse_eq_silence.2 (by decide : Text.trimChars "0".toList = ['0'])
    exact ask_of_accepted hzero []
  | cons input inputs ih =>
    rw [ask] at ended ⊢
    rw [List.cons_append, ask]
    cases hparse : Selection.parse count input with
    | some selection => simp [hparse] at ended
    | none =>
      simp only [hparse] at ended ⊢
      rw [ih ended]

end Prompts

namespace Stage
variable {stage : Stage} {n : Node} {p : Profile} {inputs : List String}

/-- What a prompt makes of inputs depends on the answer that they give. -/
theorem prompt_of_selection {k : Nat} (shown : List Act) (offers : List (Nat × Choice))
    {inputs inputs' : List String}
    (selection : (ask offers.length inputs').selection = (ask offers.length inputs).selection)
    (pruned : Act.Pruned k (ask offers.length inputs).acts (ask offers.length inputs').acts) :
    ∃ acts, prompt n p shown offers inputs' =
        { prompt n p shown offers inputs with
          acts, unread := (ask offers.length inputs').unread } ∧
      Act.Pruned k (prompt n p shown offers inputs).acts acts := by
  have hasked {acts acts' : List Act} (h : Act.Pruned k acts acts') (notices : List Act) :
      Act.Pruned k (shown ++ menu offers ++ acts ++ notices)
        (shown ++ menu offers ++ acts' ++ notices) := by
    simpa using ((Act.Pruned.refl (shown ++ menu offers)).append h).append (.refl notices)
  cases hselection : (ask offers.length inputs).selection with
  | none =>
    rw [prompt_of_none rfl hselection, prompt_of_none rfl (selection.trans hselection)]
    exact ⟨_, rfl, by simpa using hasked pruned []⟩
  | some answer =>
    cases answer with
    | silence =>
      rw [prompt_of_silence rfl hselection, prompt_of_silence rfl (selection.trans hselection)]
      exact ⟨_, rfl, by simpa using hasked pruned []⟩
    | pick k =>
      rw [prompt_of_pick rfl hselection, prompt_of_pick rfl (selection.trans hselection)]
      exact ⟨_, rfl, hasked pruned _⟩

theorem prompted_prompt (shown : List Act) (offers : List (Nat × Choice)) :
    (prompt n p shown offers inputs).exit.prompted = true := by
  dsimp only [prompt]
  repeat' split
  all_goals rfl

theorem unread_prompt (shown : List Act) (offers : List (Nat × Choice)) :
    (prompt n p shown offers inputs).unread = (ask offers.length inputs).unread := by
  dsimp only [prompt]
  repeat' split
  all_goals rfl

theorem isClosed_prompt {shown : List Act} {offers : List (Nat × Choice)} :
    (prompt n p shown offers inputs).exit.isClosed = true ↔
      (ask offers.length inputs).selection = none := by
  dsimp only [prompt]
  cases (ask offers.length inputs).selection with
  | none => simp [Exit.isClosed]
  | some selection => cases selection <;> simp [Exit.isClosed]

theorem hearing_of_asks (asks : n.Asks p) :
    (stage.visit n p inputs).hearing inputs = heard (n.offers p).length inputs := by
  obtain ⟨hnode, hbefore⟩ := @visit_node_before stage n p inputs
  rw [Visit.hearing, hnode, hbefore, visit_of_asks asks, if_pos (prompted_prompt ..)]

/-- Nothing is read where nobody is asked, and inputs make no difference. -/
theorem visit_or_asks (stage : Stage) (n : Node) (p : Profile) (inputs : List String) :
    ((stage.visit n p inputs).exit.prompted = false ∧
      ∀ others, stage.visit n p others = { stage.visit n p inputs with unread := others }) ∨
    n.Asks p := by
  cases n.stance p with
  | terminal ended => simp [visit_of_isEnd ended, Exit.prompted]
  | stuck live barred last => simp [visit_of_stuck live barred last, Exit.prompted]
  | successor _ live barred next => simp [visit_of_successor live barred next, Exit.prompted]
  | automatic _ live only auto => simp [visit_of_automatic live only auto, Exit.prompted]
  | asks asks => exact .inr asks

theorem visit_kept (keep : String → Bool) (others : List String)
    (ended : (stage.visit n p inputs).exit.isClosed = true → others = []) :
    ∃ acts, stage.visit n p (((stage.visit n p inputs).hearing inputs).kept keep ++ others) =
        { stage.visit n p inputs with acts, unread := others } ∧
      Act.Pruned (((stage.visit n p inputs).hearing inputs).missed keep)
        (stage.visit n p inputs).acts acts := by
  rcases stage.visit_or_asks n p inputs with ⟨hprompted, hvisit⟩ | asks
  · have hhearing : (stage.visit n p inputs).hearing inputs = [] := by
      simp [Visit.hearing, hprompted]
    rw [hhearing]
    exact ⟨_, hvisit others, .refl _⟩
  · rw [hearing_of_asks asks]
    simp only [visit_of_asks asks] at ended ⊢
    obtain ⟨hselection, hunread, hacts⟩ := ask_kept inputs fun h => ended (isClosed_prompt.2 h)
    obtain ⟨acts, hprompt, hpruned⟩ := prompt_of_selection _ _ hselection hacts
    rw [hunread] at hprompt
    exact ⟨acts, hprompt, hpruned⟩

theorem inputs_visit (stage : Stage) (n : Node) (p : Profile) (inputs : List String) :
    inputs =
      ((stage.visit n p inputs).hearing inputs).inputs ++ (stage.visit n p inputs).unread := by
  rcases stage.visit_or_asks n p inputs with ⟨hprompted, hvisit⟩ | asks
  · have hunread : (stage.visit n p inputs).unread = inputs := congrArg Visit.unread (hvisit inputs)
    rw [hunread, Visit.hearing, if_neg (by simp [hprompted])]
    rfl
  · rw [hearing_of_asks asks, visit_of_asks asks, unread_prompt]
    exact inputs_heard_append inputs

/-- More inputs are left unread, unless the input had ended. -/
theorem visit_append (hopen : (stage.visit n p inputs).exit.isClosed = false)
    (others : List String) :
    stage.visit n p (inputs ++ others) =
      { stage.visit n p inputs with unread := (stage.visit n p inputs).unread ++ others } := by
  have hinputs := inputs_visit stage n p inputs
  have hkept := visit_kept (fun _ => true) ((stage.visit n p inputs).unread ++ others)
    (by rw [hopen]; exact nofun)
  rw [Hearing.kept_all, Hearing.missed_all, ← List.append_assoc, ← hinputs] at hkept
  obtain ⟨acts, hvisit, hpruned⟩ := hkept
  rw [hvisit, hpruned.eq]

theorem visit_zero (closed : (stage.visit n p inputs).exit.isClosed = true) :
    stage.visit n p (inputs ++ ["0"]) = { stage.visit n p inputs with exit := .silence } := by
  rcases stage.visit_or_asks n p inputs with ⟨hprompted, -⟩ | asks
  · cases hexit : (stage.visit n p inputs).exit <;>
      simp [hexit, Exit.prompted, Exit.isClosed] at hprompted closed
  · simp only [visit_of_asks asks] at closed ⊢
    have ended := isClosed_prompt.1 closed
    have hzero := ask_zero inputs ended
    rw [prompt_of_none rfl ended, prompt_of_silence rfl (by rw [hzero]), hzero]

end Stage

/-! ## Runs -/

namespace Run

/-- The run `r'` comes to the same as `r`. -/
structure Repeats (r r' : Run) : Prop where
  picks : r'.picks = r.picks
  result : r'.result = r.result
  profile : r'.profile = r.profile
  dangling : r'.dangling = r.dangling

theorem picks_cons (v : Visit) (r : Run) :
    (cons v r).picks = ({ r with visits := [v] } : Run).picks ++ r.picks := by
  rw [picks, cons, ← List.singleton_append, List.filterMap_append]
  rfl

theorem closed_cons {v : Visit} {r : Run} (h : r.visits ≠ []) : (cons v r).closed = r.closed := by
  obtain ⟨w, visits, hvisits⟩ := List.exists_cons_of_ne_nil h
  simp [closed, cons, hvisits, List.getLast?_cons_cons]

theorem Repeats.cons {v : Visit} {r r' : Run} (h : r.Repeats r') (acts : List Act)
    (unread : List String) : (cons v r).Repeats (.cons { v with acts, unread } r') where
  picks := by rw [picks_cons, picks_cons, h.picks]; rfl
  result := h.result
  profile := h.profile
  dangling := h.dangling

theorem closed_last (v : Visit) : (last v).closed = v.exit.isClosed := by simp [closed, last]

theorem acts_last (v : Visit) : (last v).acts = v.acts := by simp [acts, last]

theorem acts_cons (v : Visit) (r : Run) : (cons v r).acts = v.acts ++ r.acts := rfl

theorem hearing_last (v : Visit) (inputs : List String) :
    (last v).hearing inputs = v.hearing inputs := List.append_nil _

theorem hearing_cons (v : Visit) (r : Run) (inputs : List String) :
    (cons v r).hearing inputs = v.hearing inputs ++ r.hearing v.unread := rfl

/-- A visit with other acts, and other inputs left, comes to the same. -/
theorem repeats_last (v : Visit) (acts : List Act) (unread : List String) :
    (last v).Repeats (.last { v with acts, unread }) := ⟨rfl, rfl, rfl, rfl⟩

theorem repeats_silence {v : Visit} (closed : v.exit.isClosed = true) :
    (last v).Repeats (.last { v with exit := .silence }) := by
  obtain ⟨node, before, exit, acts, after, unread⟩ := v
  cases exit with
  | closed => exact ⟨rfl, rfl, rfl, rfl⟩
  | ending | stuck | successor | automatic | chosen | silence => cases closed

end Run

namespace Stage
variable {stage : Stage} {fuel : Nat} {n : Node} {p : Profile} {inputs : List String} {r : Run}

theorem Runs.visits_ne_nil (h : Runs stage fuel n p inputs r) : r.visits ≠ [] := by
  cases h <;> exact nofun

/-- A visit that leads on did not find the input ended. -/
theorem isClosed_of_follow {v : Visit} {next : Node} (h : stage.follow v = some next) :
    v.exit.isClosed = false := by
  cases hexit : v.exit <;> simp [follow, hexit, Exit.target?, Exit.isClosed] at h ⊢

/-- What is heard on a run is what is read of its inputs. -/
theorem Runs.inputs_eq (h : Runs stage fuel n p inputs r) :
    inputs = (r.hearing inputs).inputs ++ r.unread := by
  induction h with
  | last =>
    rw [Run.hearing_last]
    exact inputs_visit ..
  | @cons _ n p inputs next r leads rest ih =>
    calc inputs
        = ((stage.visit n p inputs).hearing inputs).inputs ++
            (stage.visit n p inputs).unread := inputs_visit ..
      _ = _ := by rw [ih, Run.hearing_cons, Hearing.inputs_append, List.append_assoc]; rfl

/-- A run on fewer of the inputs that were turned down, and on any inputs after those that were
read, comes to the same. -/
theorem Runs.kept (h : Runs stage fuel n p inputs r) (keep : String → Bool) (others : List String)
    (ended : r.closed = true → others = []) :
    ∃ r', Runs stage fuel n p ((r.hearing inputs).kept keep ++ others) r' ∧
      r.Repeats r' ∧ r'.closed = r.closed ∧ r'.unread = others ∧
      Act.Pruned ((r.hearing inputs).missed keep) r.acts r'.acts := by
  induction h with
  | @last fuel n p inputs halts =>
    rw [Run.closed_last] at ended
    obtain ⟨acts, hvisit, hpruned⟩ := visit_kept keep others ended
    rw [Run.hearing_last, Run.acts_last, Run.closed_last]
    have hruns : Runs stage (fuel + 1) n p
        (((stage.visit n p inputs).hearing inputs).kept keep ++ others) _ :=
      .last (by rw [hvisit]; exact halts)
    rw [hvisit] at hruns
    exact ⟨_, hruns, Run.repeats_last .., Run.closed_last _, rfl, by rwa [Run.acts_last]⟩
  | @cons fuel n p inputs next r leads rest ih =>
    have hclosed : (Run.cons (stage.visit n p inputs) r).closed = r.closed :=
      Run.closed_cons rest.visits_ne_nil
    rw [hclosed] at ended
    obtain ⟨r', hr', repeats, hclosed', hunread, hpruned'⟩ := ih ended
    -- what the rest of the run hears is left over by the first visit
    have hopen := isClosed_of_follow leads
    obtain ⟨acts, hvisit, hpruned⟩ := visit_kept keep
      ((r.hearing (stage.visit n p inputs).unread).kept keep ++ others) (by rw [hopen]; exact nofun)
    rw [← List.append_assoc, ← Hearing.kept_append, ← Run.hearing_cons] at hvisit
    have hruns : Runs stage (fuel + 1) n p
        (((Run.cons (stage.visit n p inputs) r).hearing inputs).kept keep ++ others)
        (.cons _ r') :=
      .cons (by rw [hvisit]; exact leads) (by rw [hvisit]; exact hr')
    rw [hvisit] at hruns
    refine ⟨_, hruns, repeats.cons .., ?_, hunread, ?_⟩
    · rw [hclosed, Run.closed_cons hr'.visits_ne_nil, hclosed']
    · rw [Run.hearing_cons, Hearing.missed_append, Run.acts_cons, Run.acts_cons]
      exact hpruned.append hpruned'

/-- A run that ends for want of input ends as it would by a zero. -/
theorem Runs.silence (h : Runs stage fuel n p inputs r) (closed : r.closed = true) :
    ∃ r', Runs stage fuel n p (inputs ++ ["0"]) r' ∧ r.Repeats r' ∧ r'.closed = false ∧
      r'.unread = r.unread ∧ r'.acts = r.acts := by
  induction h with
  | @last fuel n p inputs halts =>
    rw [Run.closed_last] at closed
    have hvisit := visit_zero closed
    have hruns : Runs stage (fuel + 1) n p (inputs ++ ["0"]) _ :=
      .last (by rw [hvisit]; rfl)
    rw [hvisit] at hruns
    exact ⟨_, hruns, Run.repeats_silence closed, Run.closed_last _, rfl, rfl⟩
  | @cons fuel n p inputs next r leads rest ih =>
    rw [Run.closed_cons rest.visits_ne_nil] at closed
    obtain ⟨r', hr', repeats, hclosed', hunread, hacts⟩ := ih closed
    have hvisit := visit_append (isClosed_of_follow leads) ["0"]
    have hruns : Runs stage (fuel + 1) n p (inputs ++ ["0"]) (.cons _ r') :=
      .cons (by rw [hvisit]; exact leads) (by rw [hvisit]; exact hr')
    rw [hvisit] at hruns
    refine ⟨_, hruns, repeats.cons .., ?_, hunread, ?_⟩
    · rw [Run.closed_cons hr'.visits_ne_nil, hclosed']
    · rw [Run.acts_cons, Run.acts_cons, hacts]

end Stage

/-! ## Dialogues -/

namespace Session
variable {s : Session} {tree : String} {p : Profile} {inputs : List String} {fuel : Nat}

theorem performance_of_repeats {r r' : Run} (h : r.Repeats r') :
    s.performance tree r' =
      { s.performance tree r with acts := r'.acts, unread := r'.unread, closed := r'.closed } := by
  have hafter : s.afterRun tree r' = s.afterRun tree r := by
    simp only [afterRun, h.picks, h.result]
  simp only [performance, hafter, h.picks, h.result, h.profile, h.dangling]

/-- **Only accepted inputs matter.** The inputs that a dialogue reads are those that it hears, and
it leaves the others unread. Without those that it turned down it comes to the same, and shows the
same but for a prompt and a refusal for each; the unread may be any, unless the dialogue ended for
want of input; and then it ends as it would by a zero. -/
theorem start_hearing {r : Performance} (h : s.start fuel tree p inputs = some r) :
    let heard := s.hearing fuel tree p inputs
    inputs = heard.inputs ++ r.unread ∧
    (∃ acts, s.start fuel tree p heard.accepted = some { r with acts, unread := [] } ∧
      Act.Pruned heard.rejected.length r.acts acts) ∧
    (r.closed = false → ∀ others,
      s.start fuel tree p (heard.inputs ++ others) = some { r with unread := others }) ∧
    (r.closed = true →
      s.start fuel tree p (inputs ++ ["0"]) = some { r with closed := false }) := by
  intro heard
  rcases s.entered_or_barred tree with ⟨t, root, found, entry⟩ | barred
  · rw [start_of_entered found entry] at h
    simp only [start_of_entered found entry]
    obtain ⟨run, hrun, rfl⟩ := Option.map_eq_some_iff.1 h
    have hheard : heard = run.hearing inputs := by
      simp [heard, hearing, found, entry, hrun]
    have runs := Stage.runs_of_run hrun
    rw [hheard]
    refine ⟨runs.inputs_eq, ?_, fun hopen others => ?_, fun closed => ?_⟩
    · obtain ⟨run', runs', repeats, hclosed, hunread, hpruned⟩ :=
        runs.kept (fun _ => false) [] fun _ => rfl
      rw [List.append_nil, Hearing.kept_none] at runs'
      rw [Hearing.missed_none] at hpruned
      refine ⟨run'.acts, ?_, hpruned⟩
      rw [runs'.run, Option.map_some, performance_of_repeats repeats, hunread, hclosed]
      rfl
    · have hopen : run.closed = false := hopen
      obtain ⟨run', runs', repeats, hclosed, hunread, hpruned⟩ :=
        runs.kept (fun _ => true) others (by simp [hopen])
      rw [Hearing.kept_all] at runs'
      rw [Hearing.missed_all] at hpruned
      rw [runs'.run, Option.map_some, performance_of_repeats repeats, hunread, hclosed,
        hpruned.eq]
      rfl
    · obtain ⟨run', runs', repeats, hclosed, hunread, hacts⟩ := runs.silence closed
      rw [runs'.run, Option.map_some, performance_of_repeats repeats, hunread, hclosed, hacts]
      rfl
  · obtain ⟨w, hrefuse⟩ := exists_refuse barred
    have hheard : heard = [] := by
      have hroot : (s.library.lookup tree).bind Tree.rootNode? = none :=
        Option.bind_eq_none_iff.2 barred
      simp [heard, hearing, hroot]
    rw [hrefuse] at h
    cases h
    simp only [hrefuse]
    rw [hheard]
    exact ⟨rfl, ⟨[], rfl, .nil⟩, fun _ _ => rfl, nofun⟩

/-- The inn has no second choice for a guest who cannot sing. -/
theorem start_hearing_wayside :
    (∃ r acts, wayside.start 3 "road" {} ["2", "1", "3"] = some r ∧ r.unread = ["3"] ∧
      wayside.start 3 "road" {} ["1"] = some { r with acts, unread := [] } ∧
      Act.Pruned 1 r.acts acts ∧
      wayside.start 3 "road" {} ["2", "1"] = some { r with unread := [] }) ∧
    ∃ r, wayside.start 3 "road" {} ["2"] = some r ∧ r.closed = true ∧
      wayside.start 3 "road" {} ["2", "0"] = some { r with closed := false } := by
  constructor
  · have hheard : wayside.hearing 3 "road" {} ["2", "1", "3"] = [("2", false), ("1", true)] := by
      decide +kernel
    have hopen : (wayside.start 3 "road" {} ["2", "1", "3"]).map (·.closed) = some false := by
      decide
    obtain ⟨r, hr, hopen⟩ := Option.map_eq_some_iff.1 hopen
    have hhearing := start_hearing hr
    rw [hheard] at hhearing
    obtain ⟨hread, ⟨acts, haccepted, hpruned⟩, hunread, -⟩ := hhearing
    have hrest : ["3"] = r.unread := by simpa [Hearing.inputs] using hread
    exact ⟨r, acts, hr, hrest.symm, haccepted, hpruned, hunread hopen []⟩
  · have hclosed : (wayside.start 3 "road" {} ["2"]).map (·.closed) = some true := by decide
    obtain ⟨r, hr, hclosed⟩ := Option.map_eq_some_iff.1 hclosed
    obtain ⟨-, -, -, hzero⟩ := start_hearing hr
    exact ⟨r, hr, hclosed, hzero hclosed⟩

end Session

end Dialogue
