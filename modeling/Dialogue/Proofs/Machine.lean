import Dialogue.Session

/-!
# The state machine of a traversal

What a traversal does, said as a machine with two kinds of moves: a node is displayed, and a node is
left. `Machine.Leaves` lists the seven ways to leave a node, in terms of the choices that hold and
of the inputs that are turned down before one is accepted; `Machine.Plays` chains them from node to
node. `Leaves.visit` shows that each visit follows the machine, and `Stage.Runs.plays` and
`Machine.Plays.exists_run` that a run is a play and a play a run. The time spent waiting is no part
of the machine.
-/

namespace Dialogue

namespace Act

/-- The acts with all waiting left out. -/
def transcript (acts : List Act) : List Act :=
  acts.filter fun
    | .pause _ => false
    | _ => true

@[simp] theorem transcript_nil : transcript [] = [] := rfl

@[simp] theorem transcript_append (as bs : List Act) :
    transcript (as ++ bs) = transcript as ++ transcript bs := List.filter_append ..

@[simp] theorem transcript_line (text : String) (color : Color) (acts : List Act) :
    transcript (.line text color :: acts) = .line text color :: transcript acts := rfl

@[simp] theorem transcript_prompt (acts : List Act) :
    transcript (.prompt :: acts) = .prompt :: transcript acts := rfl

@[simp] theorem transcript_pause (d : Duration) (acts : List Act) :
    transcript (.pause d :: acts) = transcript acts := rfl

theorem transcript_flatMap {α : Type} (f : α → List Act) (l : List α) :
    transcript (l.flatMap f) = l.flatMap fun a => transcript (f a) := by
  induction l with
  | nil => rfl
  | cons a l ih => simp [ih]

/-- Acts without waiting among them are a transcript. -/
theorem transcript_eq_self {acts : List Act} (h : ∀ d, .pause d ∉ acts) :
    transcript acts = acts := by
  refine List.filter_eq_self.2 fun a ha => ?_
  cases a with
  | pause d => exact (h d ha).elim
  | line | prompt => rfl

end Act

namespace Node

/-- The choices that hold of a profile, in the order of the node. -/
def legal (n : Node) (p : Profile) : List Choice :=
  n.choices.filter fun c => gateOpen p c.condition

/-- The player is asked: the dialogue goes on, some choice holds, and it is not a single one that is
taken without asking. -/
structure Asks (n : Node) (p : Profile) : Prop where
  live : n.isEnd = false
  some : n.legal p ≠ []
  manual : ∀ c, n.legal p = [c] → c.autoSelect = false

/-- What leaving the node depends on, inputs aside. -/
inductive Stance (n : Node) (p : Profile) : Prop
  | terminal (ended : n.isEnd = true)
  | stuck (live : n.isEnd = false) (barred : n.legal p = []) (last : n.next = none)
  | successor (target : String) (live : n.isEnd = false) (barred : n.legal p = [])
    (next : n.next = some target)
  | automatic (c : Choice) (live : n.isEnd = false) (only : n.legal p = [c])
    (auto : c.autoSelect = true)
  | asks (asks : n.Asks p)

theorem stance (n : Node) (p : Profile) : n.Stance p := by
  cases live : n.isEnd with
  | true => exact .terminal live
  | false =>
  by_cases barred : n.legal p = []
  · cases next : n.next with
    | none => exact .stuck live barred next
    | some target => exact .successor target live barred next
  by_cases auto : ∃ c, n.legal p = [c] ∧ c.autoSelect = true
  · obtain ⟨c, only, auto⟩ := auto
    exact .automatic c live only auto
  · exact .asks ⟨live, barred, fun c hc => Bool.eq_false_iff.2 fun h => auto ⟨c, hc, h⟩⟩

end Node

namespace Machine

/-- A node as the console displays it, with the profile's values in its lines. -/
def beat (stage : Stage) (p : Profile) (n : Node) : List Act :=
  [.line "" .white] ++
    n.speaker.toList.map (fun s => .line ("[" ++ s ++ "]") (stage.speakerColor s)) ++
    n.lines.map (fun line => .line (interpolate p line) (n.color.getD .white)) ++
    [.line "" .white]

/-- The choices as they are put to the player, numbered from one. -/
def question (choices : List Choice) : List Act :=
  [.line "What do you say?" .cyan, .line "" .white] ++
    choices.mapIdx (fun k c => .line ("[" ++ toString (k + 1) ++ "] " ++ c.text) c.color) ++
    [.line "[0] (Say nothing)" .darkGray, .line "" .white]

/-- Inputs that are asked for and turned down. -/
def refusals (rejected : List String) : List Act :=
  rejected.flatMap fun _ => [.prompt, .line "Please enter a valid choice." .red]

/-- The input says nothing: it is a bare zero, white space aside. -/
def Silences (input : String) : Prop := Text.trimChars input.toList = ['0']

/-- The input is the number of the choice at a position, where the first of `count` choices has the
number one. -/
def Picks (count : Nat) (input : String) (k : Nat) : Prop :=
  k < count ∧ Selection.readNumber? (Text.trimChars input.toList) = some (k + 1)

/-- The input is neither silence nor the number of a choice. -/
def Rejects (count : Nat) (input : String) : Prop :=
  ¬Silences input ∧ ∀ k, ¬Picks count input k

/-- Where the machine turns when it leaves a node. -/
inductive Departure where
  | stop (result : Result)
  | toward (target : String)

/-- `Leaves n p inputs said departure q rest`: displayed to the profile `p`, the node `n` is left
for `departure` with the profile `q`; `said` is what the console shows and asks meanwhile, and
`rest` is left of the inputs. -/
inductive Leaves (n : Node) (p : Profile) :
    List String → List Act → Departure → Profile → List String → Prop
  | terminal {inputs} (ended : n.isEnd = true) :
    Leaves n p inputs (noticeActs p n.effects) (.stop (.completed n))
      (Effect.applyAll p n.effects) inputs
  | stuck {inputs} (live : n.isEnd = false) (barred : n.legal p = []) (last : n.next = none) :
    Leaves n p inputs [] (.stop (.completed n)) p inputs
  | successor {inputs target} (live : n.isEnd = false) (barred : n.legal p = [])
    (next : n.next = some target) :
    Leaves n p inputs [] (.toward target) p inputs
  | automatic {inputs c} (live : n.isEnd = false) (only : n.legal p = [c])
    (auto : c.autoSelect = true) :
    Leaves n p inputs (noticeActs p c.effects) (.toward c.next)
      (Effect.applyAll p c.effects) inputs
  | chosen {rejected input rest k c} (asks : n.Asks p)
    (before : ∀ r ∈ rejected, Rejects (n.legal p).length r)
    (picks : Picks (n.legal p).length input k) (listed : (n.legal p)[k]? = some c) :
    Leaves n p (rejected ++ input :: rest)
      (question (n.legal p) ++ refusals rejected ++ [.prompt] ++ noticeActs p c.effects)
      (.toward c.next) (Effect.applyAll p c.effects) rest
  | silence {rejected input rest} (asks : n.Asks p)
    (before : ∀ r ∈ rejected, Rejects (n.legal p).length r)
    (silences : Silences input) :
    Leaves n p (rejected ++ input :: rest)
      (question (n.legal p) ++ refusals rejected ++ [.prompt]) (.stop .aborted) p rest
  | closed {inputs} (asks : n.Asks p) (before : ∀ r ∈ inputs, Rejects (n.legal p).length r) :
    Leaves n p inputs (question (n.legal p) ++ refusals inputs ++ [.prompt]) (.stop .aborted) p []

/-- What a traversal comes to. -/
structure Outcome where
  result : Result
  profile : Profile
  unread : List String
  /-- The last node was left for one that is not there. -/
  dangling : Bool

/-- `Plays stage n p inputs visits acts outcome`: from the node `n` on, the nodes of `visits` are
displayed in order, each to the profile beside it. -/
inductive Plays (stage : Stage) : Node → Profile → List String →
    List (Node × Profile) → List Act → Outcome → Prop
  | stop {n p inputs said result q rest} (leaves : Leaves n p inputs said (.stop result) q rest) :
    Plays stage n p inputs [(n, p)] (beat stage p n ++ said) ⟨result, q, rest, false⟩
  | dangling {n p inputs said target q rest}
    (leaves : Leaves n p inputs said (.toward target) q rest)
    (lost : stage.resolve target = none) :
    Plays stage n p inputs [(n, p)] (beat stage p n ++ said) ⟨.completed n, q, rest, true⟩
  | go {n p inputs said target q rest next visits acts outcome}
    (leaves : Leaves n p inputs said (.toward target) q rest)
    (found : stage.resolve target = some next)
    (plays : Plays stage next q rest visits acts outcome) :
    Plays stage n p inputs ((n, p) :: visits) (beat stage p n ++ said ++ acts) outcome

end Machine

open Machine

/-! ## Inputs -/

theorem parse_eq_silence {count : Nat} {input : String} :
    Selection.parse count input = some .silence ↔ Silences input := by
  unfold Selection.parse Silences
  dsimp only
  split
  · next h => simp [h]
  · next h => simp only [h, iff_false]; repeat' split <;> simp

theorem parse_eq_pick {count : Nat} {input : String} {k : Fin count} :
    Selection.parse count input = some (.pick k) ↔ Picks count input k := by
  unfold Selection.parse Picks
  dsimp only
  split
  · next h => simp [h, show Selection.readNumber? ['0'] = some 0 by decide]
  · next h =>
    cases Selection.readNumber? (Text.trimChars input.toList) with
    | none => simp
    | some m =>
      simp only [k.isLt, true_and, Option.some.injEq]
      split
      · next hm => rw [Option.some.injEq, Selection.pick.injEq, Fin.ext_iff]; dsimp only; omega
      · next hm => have := k.isLt; simp only [reduceCtorEq, false_iff]; omega

theorem parse_eq_none {count : Nat} {input : String} :
    Selection.parse count input = none ↔ Rejects count input := by
  constructor
  · intro h
    refine ⟨fun hs => ?_, fun k hk => ?_⟩
    · simp [parse_eq_silence.2 hs] at h
    · simp [parse_eq_pick (k := ⟨k, hk.1⟩) |>.2 hk] at h
  · rintro ⟨hs, hp⟩
    cases h : Selection.parse count input with
    | none => rfl
    | some selection =>
      cases selection with
      | silence => exact (hs (parse_eq_silence.1 h)).elim
      | pick k => exact (hp k (parse_eq_pick.1 h)).elim

/-- Either all inputs are turned down, or there is a first one that is not. -/
theorem Machine.rejects_or_first (count : Nat) (inputs : List String) :
    (∀ r ∈ inputs, Rejects count r) ∨
      ∃ rejected input rest, inputs = rejected ++ input :: rest ∧
        (∀ r ∈ rejected, Rejects count r) ∧ ¬Rejects count input := by
  induction inputs with
  | nil => exact .inl nofun
  | cons input inputs ih =>
    by_cases h : Rejects count input
    · rcases ih with ih | ⟨rejected, first, rest, rfl, hr, hf⟩
      · exact .inl (List.forall_mem_cons.2 ⟨h, ih⟩)
      · exact .inr ⟨input :: rejected, first, rest, rfl, List.forall_mem_cons.2 ⟨h, hr⟩, hf⟩
    · exact .inr ⟨[], input, inputs, rfl, nofun, h⟩

/-- An input that is not turned down is silence or picks one of the choices. -/
theorem Machine.silences_or_picks {count : Nat} {input : String} (h : ¬Rejects count input) :
    Silences input ∨ ∃ k, Picks count input k := by
  by_cases hs : Silences input
  · exact .inl hs
  · exact .inr (by simpa [Rejects, hs] using h)

/-- Inputs that are turned down only delay the answer. -/
theorem ask_append {count : Nat} {rejected : List String} (h : ∀ r ∈ rejected, Rejects count r)
    (inputs : List String) :
    ask count (rejected ++ inputs) =
      { ask count inputs with acts := refusals rejected ++ (ask count inputs).acts } := by
  induction rejected with
  | nil => rfl
  | cons r rejected ih =>
    obtain ⟨hr, hrest⟩ := List.forall_mem_cons.1 h
    rw [List.cons_append, ask, parse_eq_none.2 hr, ih hrest]
    rfl

theorem ask_of_accepted {count : Nat} {input : String} {selection : Selection count}
    (h : Selection.parse count input = some selection) (rest : List String) :
    ask count (input :: rest) = ⟨some selection, [.prompt], rest⟩ := by rw [ask, h]

/-! ## Displays -/

theorem Stage.transcript_wait (stage : Stage) (d : Duration) :
    Act.transcript (stage.wait d) = [] := by
  unfold Stage.wait
  cases stage.pacing.wait d <;> rfl

/-- Between the lines of a display there is nothing but waiting. -/
theorem Stage.transcript_display (stage : Stage) (p : Profile) (n : Node) :
    Act.transcript (stage.display p n) = beat stage p n := by
  have hlabel : Act.transcript (n.speaker.toList.map fun s =>
      Act.line ("[" ++ s ++ "]") (stage.speakerColor s)) =
      n.speaker.toList.map fun s => .line ("[" ++ s ++ "]") (stage.speakerColor s) :=
    Act.transcript_eq_self (by simp)
  have hlines : Act.transcript (n.lines.flatMap (stage.showLine p (n.color.getD .white))) =
      n.lines.map fun line => .line (interpolate p line) (n.color.getD .white) := by
    simp [Act.transcript_flatMap, Stage.showLine, Stage.transcript_wait, List.map_eq_flatMap]
  simp [Stage.display, beat, hlabel, hlines]

/-- The time that leaving a node takes by some pacing: before its successor is looked for, or after
the effects of a choice taken without asking. -/
def Node.partingDelay? (n : Node) (p : Profile) (pacing : Pacing) : Option Duration :=
  if n.isEnd then none
  else
    match n.legal p with
    | [] => n.next.map fun _ => pacing.transition
    | [c] => if c.autoSelect then some pacing.autoSelect else none
    | _ => none

/-- The waiting when a node is left. -/
def Stage.parting (stage : Stage) (p : Profile) (n : Node) : List Act :=
  (n.partingDelay? p stage.pacing).toList.flatMap stage.wait

theorem Stage.transcript_parting (stage : Stage) (p : Profile) (n : Node) :
    Act.transcript (stage.parting p n) = [] := by
  simp [Stage.parting, Act.transcript_flatMap, Stage.transcript_wait]

theorem Stage.parting_of_asks (stage : Stage) {p : Profile} {n : Node} (asks : n.Asks p) :
    stage.parting p n = [] := by
  have hdelay : n.partingDelay? p stage.pacing = none := by
    rw [Node.partingDelay?, if_neg (by simp [asks.live])]
    split
    · next h => exact (asks.some h).elim
    · next c h => simp [asks.manual c h]
    · rfl
  rw [Stage.parting, hdelay]
  rfl

theorem transcript_noticeActs (p : Profile) (effects : List Effect) :
    Act.transcript (noticeActs p effects) = noticeActs p effects :=
  Act.transcript_eq_self (by simp [noticeActs])

theorem transcript_refusals (rejected : List String) :
    Act.transcript (refusals rejected) = refusals rejected :=
  Act.transcript_eq_self (by simp [refusals])

theorem transcript_question (choices : List Choice) :
    Act.transcript (question choices) = question choices :=
  Act.transcript_eq_self (by simp [question, List.mem_mapIdx])

/-! ## Offers -/

/-- What is offered are the choices that hold. -/
theorem Node.map_offers (n : Node) (p : Profile) : (n.offers p).map Prod.snd = n.legal p := by
  have h : (n.choices.mapIdx Prod.mk).map Prod.snd = n.choices := by
    apply List.ext_getElem <;> simp
  calc (n.offers p).map Prod.snd
      = ((n.choices.mapIdx Prod.mk).map Prod.snd).filter fun c => gateOpen p c.condition := by
        rw [List.filter_map]; rfl
    _ = n.legal p := by rw [h, Node.legal]

/-- What is offered at a position is the choice that stands there, if its gate is open. -/
theorem Node.mem_offers {n : Node} {p : Profile} {i : Nat} {c : Choice} :
    (i, c) ∈ n.offers p ↔ n.choices[i]? = some c ∧ gateOpen p c.condition = true := by
  simp [Node.offers, List.mem_mapIdx, List.getElem?_eq_some_iff]

theorem Node.length_offers (n : Node) (p : Profile) : (n.offers p).length = (n.legal p).length := by
  rw [← n.map_offers, List.length_map]

theorem Node.offers_eq_nil {n : Node} {p : Profile} : n.offers p = [] ↔ n.legal p = [] := by
  rw [← n.map_offers, List.map_eq_nil_iff]

theorem automatic?_eq_some {offers : List (Nat × Choice)} {c : Choice} :
    automatic? offers = some c ↔ offers.map Prod.snd = [c] ∧ c.autoSelect = true := by
  match offers with
  | [] => simp [automatic?]
  | [(i, d)] =>
    simp only [automatic?, List.map_cons, List.map_nil, List.cons.injEq, and_true,
      Option.ite_none_right_eq_some, Option.some.injEq]
    exact ⟨fun ⟨h, e⟩ => ⟨e, e ▸ h⟩, fun ⟨e, h⟩ => ⟨e ▸ h, e⟩⟩
  | _ :: _ :: _ => simp [automatic?]

theorem menu_eq_question (offers : List (Nat × Choice)) :
    menu offers = question (offers.map Prod.snd) := by
  have hnumbered : offers.mapIdx (fun k o =>
      Act.line ("[" ++ toString (k + 1) ++ "] " ++ o.2.text) o.2.color) =
      (offers.map Prod.snd).mapIdx fun k c =>
        .line ("[" ++ toString (k + 1) ++ "] " ++ c.text) c.color := by
    apply List.ext_getElem <;> simp
  rw [menu, question, hnumbered]

/-! ## Visits -/

/-- Where a visit turns. -/
def Visit.departure (v : Visit) : Departure :=
  match v.exit.target? with
  | some target => .toward target
  | none => .stop v.result

namespace Stage
variable {stage : Stage} {n : Node} {p : Profile} {inputs : List String}

theorem visit_of_isEnd (ended : n.isEnd = true) :
    stage.visit n p inputs =
      ⟨n, p, .ending, stage.display p n ++ noticeActs p n.effects,
        Effect.applyAll p n.effects, inputs⟩ := by
  rw [visit, if_pos ended]

theorem visit_of_stuck (live : n.isEnd = false) (barred : n.legal p = []) (last : n.next = none) :
    stage.visit n p inputs = ⟨n, p, .stuck, stage.display p n, p, inputs⟩ := by
  simp [visit, live, Node.offers_eq_nil.2 barred, last]

theorem visit_of_successor (live : n.isEnd = false) (barred : n.legal p = [])
    (next : n.next = some target) :
    stage.visit n p inputs =
      ⟨n, p, .successor target, stage.display p n ++ stage.wait stage.pacing.transition, p,
        inputs⟩ := by
  simp [visit, live, Node.offers_eq_nil.2 barred, next]

theorem visit_of_automatic (live : n.isEnd = false) (only : n.legal p = [c])
    (auto : c.autoSelect = true) :
    stage.visit n p inputs =
      ⟨n, p, .automatic c,
        stage.display p n ++ noticeActs p c.effects ++ stage.wait stage.pacing.autoSelect,
        Effect.applyAll p c.effects, inputs⟩ := by
  have hne : n.offers p ≠ [] := fun h => by simp [Node.offers_eq_nil.1 h] at only
  have hauto : automatic? (n.offers p) = some c :=
    automatic?_eq_some.2 ⟨n.map_offers p ▸ only, auto⟩
  rw [visit, if_neg (by simp [live])]
  split
  · next h => exact (hne h).elim
  · rw [hauto]

theorem visit_of_asks (asks : n.Asks p) :
    stage.visit n p inputs = prompt n p (stage.display p n) (n.offers p) inputs := by
  have hne : n.offers p ≠ [] := fun h => asks.some (Node.offers_eq_nil.1 h)
  have hauto : automatic? (n.offers p) = none := by
    refine Option.eq_none_iff_forall_ne_some.2 fun c hc => ?_
    obtain ⟨hc, auto⟩ := automatic?_eq_some.1 hc
    simp [asks.manual c (n.map_offers p ▸ hc)] at auto
  rw [visit, if_neg (by simp [asks.live])]
  split
  · next h => exact (hne h).elim
  · rw [hauto]

/-! A prompt by its answer; the number of choices may be put in another way. -/

section Prompts
variable {shown : List Act} {offers : List (Nat × Choice)} {count : Nat}

theorem prompt_of_none (h : count = offers.length)
    (hselection : (ask count inputs).selection = none) :
    prompt n p shown offers inputs =
      ⟨n, p, .closed, shown ++ menu offers ++ (ask count inputs).acts, p,
        (ask count inputs).unread⟩ := by
  subst h
  simp only [prompt, hselection]

theorem prompt_of_silence (h : count = offers.length)
    (hselection : (ask count inputs).selection = some .silence) :
    prompt n p shown offers inputs =
      ⟨n, p, .silence, shown ++ menu offers ++ (ask count inputs).acts, p,
        (ask count inputs).unread⟩ := by
  subst h
  simp only [prompt, hselection]

theorem prompt_of_pick {k : Fin count} (h : count = offers.length)
    (hselection : (ask count inputs).selection = some (.pick k)) :
    prompt n p shown offers inputs =
      ⟨n, p, .chosen offers[k.cast h].1 offers[k.cast h].2,
        shown ++ menu offers ++ (ask count inputs).acts ++ noticeActs p offers[k.cast h].2.effects,
        Effect.applyAll p offers[k.cast h].2.effects, (ask count inputs).unread⟩ := by
  subst h
  simp only [prompt, hselection]
  rfl

end Prompts

end Stage

namespace Machine

/-- There is always a way to leave a node. -/
theorem exists_leaves (n : Node) (p : Profile) (inputs : List String) :
    ∃ said departure q rest, Leaves n p inputs said departure q rest := by
  cases n.stance p with
  | terminal ended => exact ⟨_, _, _, _, .terminal ended⟩
  | stuck live barred last => exact ⟨_, _, _, _, .stuck live barred last⟩
  | successor _ live barred next => exact ⟨_, _, _, _, .successor live barred next⟩
  | automatic _ live only auto => exact ⟨_, _, _, _, .automatic live only auto⟩
  | asks asks =>
    rcases rejects_or_first (n.legal p).length inputs with
      before | ⟨rejected, input, rest, rfl, before, h⟩
    · exact ⟨_, _, _, _, .closed asks before⟩
    rcases silences_or_picks h with silences | ⟨k, picks⟩
    · exact ⟨_, _, _, _, .silence asks before silences⟩
    · exact ⟨_, _, _, _, .chosen asks before picks (List.getElem?_eq_getElem picks.1)⟩

/-- A visit leaves its node as the machine says: it displays the node, then says what is said, and
waits where the node is left for its successor or for a choice taken without asking. -/
theorem Leaves.exact_visit (stage : Stage) (h : Leaves n p inputs said departure q rest) :
    (stage.visit n p inputs).departure = departure ∧ (stage.visit n p inputs).after = q ∧
      (stage.visit n p inputs).unread = rest ∧
      (stage.visit n p inputs).acts = stage.display p n ++ said ++ stage.parting p n := by
  cases h with
  | terminal ended =>
    rw [Stage.visit_of_isEnd ended]
    exact ⟨rfl, rfl, rfl, by simp [Stage.parting, Node.partingDelay?, ended]⟩
  | stuck live barred last =>
    rw [Stage.visit_of_stuck live barred last]
    exact ⟨rfl, rfl, rfl, by simp [Stage.parting, Node.partingDelay?, live, barred, last]⟩
  | successor live barred next =>
    rw [Stage.visit_of_successor live barred next]
    exact ⟨rfl, rfl, rfl, by simp [Stage.parting, Node.partingDelay?, live, barred, next]⟩
  | automatic live only auto =>
    rw [Stage.visit_of_automatic live only auto]
    exact ⟨rfl, rfl, rfl, by simp [Stage.parting, Node.partingDelay?, live, only, auto]⟩
  | chosen asks before picks listed =>
    rw [← n.length_offers] at before picks
    rw [← n.map_offers, List.getElem?_map] at listed
    have hk := picks.1
    have hparse := parse_eq_pick (k := ⟨_, hk⟩) |>.2 picks
    rw [Stage.visit_of_asks asks, Stage.prompt, ask_append before, ask_of_accepted hparse]
    simp only [List.getElem?_eq_getElem hk, Option.map_some, Option.some.injEq] at listed
    subst listed
    exact ⟨rfl, rfl, rfl, by simp [menu_eq_question, stage.parting_of_asks asks, n.map_offers]⟩
  | silence asks before silences =>
    rw [← n.length_offers] at before
    have hparse : Selection.parse (n.offers p).length _ = some .silence :=
      parse_eq_silence.2 silences
    rw [Stage.visit_of_asks asks, Stage.prompt, ask_append before, ask_of_accepted hparse]
    exact ⟨rfl, rfl, rfl, by simp [menu_eq_question, stage.parting_of_asks asks, n.map_offers]⟩
  | closed asks before =>
    rw [← n.length_offers] at before
    have hask := ask_append before []
    rw [List.append_nil] at hask
    rw [Stage.visit_of_asks asks, Stage.prompt, hask]
    exact ⟨rfl, rfl, rfl, by
      simp [menu_eq_question, stage.parting_of_asks asks, n.map_offers, ask]⟩

/-- There is no waiting in what is said. -/
theorem Leaves.transcript_said (h : Leaves n p inputs said departure q rest) :
    Act.transcript said = said := by
  cases h <;> simp [transcript_noticeActs, transcript_question, transcript_refusals]

theorem Leaves.visit (stage : Stage) (h : Leaves n p inputs said departure q rest) :
    (stage.visit n p inputs).departure = departure ∧ (stage.visit n p inputs).after = q ∧
      (stage.visit n p inputs).unread = rest ∧
      Act.transcript (stage.visit n p inputs).acts = beat stage p n ++ said := by
  obtain ⟨hd, hq, hr, hacts⟩ := h.exact_visit stage
  refine ⟨hd, hq, hr, ?_⟩
  simp [hacts, Stage.transcript_display, Stage.transcript_parting, h.transcript_said]

/-- A node is left in one way only. -/
theorem Leaves.unique (h : Leaves n p inputs said departure q rest)
    (h' : Leaves n p inputs said' departure' q' rest') :
    said = said' ∧ departure = departure' ∧ q = q' ∧ rest = rest' := by
  -- any stage will do: none of this depends on where the node is displayed
  have stage : Stage := ⟨.empty, .global, {}, {}, ""⟩
  obtain ⟨hd, hq, hr, hs⟩ := h.visit stage
  obtain ⟨hd', hq', hr', hs'⟩ := h'.visit stage
  exact ⟨List.append_cancel_left (hs.symm.trans hs'), hd.symm.trans hd', hq.symm.trans hq',
    hr.symm.trans hr'⟩

/-- Every visit is a move of the machine. -/
theorem exists_leaves_visit (stage : Stage) (n : Node) (p : Profile) (inputs : List String) :
    ∃ said, Leaves n p inputs said (stage.visit n p inputs).departure
        (stage.visit n p inputs).after (stage.visit n p inputs).unread ∧
      Act.transcript (stage.visit n p inputs).acts = beat stage p n ++ said := by
  obtain ⟨said, departure, q, rest, h⟩ := exists_leaves n p inputs
  obtain ⟨rfl, rfl, rfl, hs⟩ := h.visit stage
  exact ⟨said, h, hs⟩

end Machine

theorem Visit.departure_eq_stop {v : Visit} {result : Result} :
    v.departure = .stop result ↔ v.exit.target? = none ∧ v.result = result := by
  unfold Visit.departure
  cases v.exit.target? <;> simp

theorem Visit.departure_eq_toward {v : Visit} {target : String} :
    v.departure = .toward target ↔ v.exit.target? = some target := by
  unfold Visit.departure
  cases v.exit.target? <;> simp

namespace Stage
variable {stage : Stage} {n : Node} {p : Profile} {inputs : List String}

theorem visit_node_before :
    (stage.visit n p inputs).node = n ∧ (stage.visit n p inputs).before = p := by
  dsimp only [visit, prompt]
  repeat' split
  all_goals exact ⟨rfl, rfl⟩

end Stage

/-- The nodes of a run, each with the profile that it was displayed to. -/
def Run.beats (r : Run) : List (Node × Profile) := r.visits.map fun v => (v.node, v.before)

def Run.outcome (r : Run) : Outcome := ⟨r.result, r.profile, r.unread, r.dangling⟩

/-- The run that a visit ends which leads nowhere. -/
def Run.last (v : Visit) : Run := ⟨[v], v.result, v.after, v.unread, v.exit.target?.isSome⟩

/-- The run with one more visit before. -/
def Run.cons (v : Visit) (r : Run) : Run := { r with visits := v :: r.visits }

/-- The node that a visit leads to, if there is one. -/
def Stage.follow (stage : Stage) (v : Visit) : Option Node := v.exit.target?.bind stage.resolve

namespace Stage
variable {stage : Stage} {n next : Node} {p : Profile} {inputs : List String}

theorem follow_of_stop {v : Visit} {result : Result} (h : v.departure = .stop result) :
    stage.follow v = none := by
  rw [follow, (Visit.departure_eq_stop.1 h).1, Option.bind_none]

theorem follow_of_toward {v : Visit} {target : String} (h : v.departure = .toward target) :
    stage.follow v = stage.resolve target := by
  rw [follow, Visit.departure_eq_toward.1 h, Option.bind_some]

theorem run_last (h : stage.follow (stage.visit n p inputs) = none) (fuel : Nat) :
    stage.run (fuel + 1) n p inputs = some (.last (stage.visit n p inputs)) := by
  rw [run]
  unfold follow at h
  dsimp only [Run.last]
  cases htarget : (stage.visit n p inputs).exit.target? with
  | none => rfl
  | some target =>
    have hlost : stage.resolve target = none := by simpa [htarget] using h
    simp [hlost]

theorem run_cons (h : stage.follow (stage.visit n p inputs) = some next) (fuel : Nat) :
    stage.run (fuel + 1) n p inputs =
      (stage.run fuel next (stage.visit n p inputs).after (stage.visit n p inputs).unread).map
        (.cons (stage.visit n p inputs)) := by
  obtain ⟨target, htarget, hfound⟩ := Option.bind_eq_some_iff.1 h
  rw [run]
  simp only [htarget, hfound]
  rfl

/-- `Runs stage fuel n p inputs r`: the run `r` comes about visit by visit. -/
inductive Runs (stage : Stage) : Nat → Node → Profile → List String → Run → Prop
  | last {fuel n p inputs} (halts : stage.follow (stage.visit n p inputs) = none) :
    Runs stage (fuel + 1) n p inputs (.last (stage.visit n p inputs))
  | cons {fuel n p inputs next r} (leads : stage.follow (stage.visit n p inputs) = some next)
    (rest : Runs stage fuel next (stage.visit n p inputs).after (stage.visit n p inputs).unread r) :
    Runs stage (fuel + 1) n p inputs (.cons (stage.visit n p inputs) r)

theorem runs_of_run {fuel : Nat} {r : Run} (h : stage.run fuel n p inputs = some r) :
    Runs stage fuel n p inputs r := by
  induction fuel generalizing n p inputs r with
  | zero => cases h
  | succ fuel ih =>
    cases hfollow : stage.follow (stage.visit n p inputs) with
    | none =>
      cases (run_last hfollow fuel).symm.trans h
      exact .last hfollow
    | some next =>
      rw [run_cons hfollow] at h
      obtain ⟨r, hr, rfl⟩ := Option.map_eq_some_iff.1 h
      exact .cons hfollow (ih hr)

theorem Runs.run {fuel : Nat} {r : Run} (h : Runs stage fuel n p inputs r) :
    stage.run fuel n p inputs = some r := by
  induction h with
  | last halts => exact run_last halts _
  | cons leads _ ih => rw [run_cons leads, ih, Option.map_some]

/-- Two stages have the same runs if a visit is the same on both and leads to the same node. It need
do so only from nodes of some kind, as long as it leads to such nodes. -/
theorem run_congr {a b : Stage} {kind : Node → Prop} (visits : a.visit = b.visit)
    (follows : ∀ n p inputs, kind n →
      a.follow (b.visit n p inputs) = b.follow (b.visit n p inputs) ∧
        ∀ next, b.follow (b.visit n p inputs) = some next → kind next)
    (fuel : Nat) {n : Node} (h : kind n) (p : Profile) (inputs : List String) :
    a.run fuel n p inputs = b.run fuel n p inputs := by
  induction fuel generalizing n p inputs with
  | zero => rfl
  | succ fuel ih =>
    obtain ⟨same, leads⟩ := follows n p inputs h
    rw [← visits] at same leads
    cases hfollow : b.follow (a.visit n p inputs) with
    | none => rw [run_last (same.trans hfollow), run_last (visits ▸ hfollow), visits]
    | some next =>
      rw [run_cons (same.trans hfollow), run_cons (visits ▸ hfollow), visits,
        ih (leads next hfollow)]

end Stage

/-- Who goes on to another node has not walked away. -/
theorem Visit.result_of_toward {v : Visit} {target : String} (h : v.departure = .toward target) :
    v.result = .completed v.node := by
  rw [Visit.departure_eq_toward] at h
  unfold Visit.result
  cases hx : v.exit <;> simp [hx, Exit.target?, Exit.aborted] at h ⊢

/-- A run is a play of the machine. -/
theorem Stage.Runs.plays {stage : Stage} {fuel : Nat} {n : Node} {p : Profile}
    {inputs : List String} {r : Run} (h : Runs stage fuel n p inputs r) :
    Plays stage n p inputs r.beats (Act.transcript r.acts) r.outcome := by
  induction h with
  | @last fuel n p inputs halts =>
    obtain ⟨said, leaves, hs⟩ := exists_leaves_visit stage n p inputs
    obtain ⟨hnode, hbefore⟩ : (stage.visit n p inputs).node = n ∧ _ = p := visit_node_before
    generalize stage.visit n p inputs = v at halts leaves hs hnode hbefore
    subst hnode hbefore
    cases hd : v.departure with
    | stop result =>
      rw [hd] at leaves
      obtain ⟨htarget, rfl⟩ := Visit.departure_eq_stop.1 hd
      have hplays : Plays stage .. := .stop leaves
      simpa [Run.last, Run.beats, Run.acts, Run.outcome, hs, htarget] using hplays
    | toward target =>
      rw [hd] at leaves
      have htarget := Visit.departure_eq_toward.1 hd
      have hresult := Visit.result_of_toward hd
      have lost : stage.resolve target = none := (follow_of_toward hd).symm.trans halts
      simpa [Run.last, Run.beats, Run.acts, Run.outcome, hs, htarget, hresult] using
        Plays.dangling leaves lost
  | @cons fuel n p inputs next r leads rest ih =>
    obtain ⟨said, leaves, hs⟩ := exists_leaves_visit stage n p inputs
    obtain ⟨hnode, hbefore⟩ : (stage.visit n p inputs).node = n ∧ _ = p := visit_node_before
    generalize stage.visit n p inputs = v at leads leaves hs hnode hbefore ih ⊢
    subst hnode hbefore
    cases hd : v.departure with
    | stop result => cases (follow_of_stop hd).symm.trans leads
    | toward target =>
      rw [hd] at leaves
      have found : stage.resolve target = some next := (follow_of_toward hd).symm.trans leads
      simpa [Run.cons, Run.beats, Run.acts, Run.outcome, hs] using Plays.go leaves found ih

/-- A play of the machine is a run, which takes as much fuel as there are visits. -/
theorem Machine.Plays.exists_run {stage : Stage} {visits acts outcome}
    (h : Plays stage n p inputs visits acts outcome) :
    ∃ r, ∀ fuel, visits.length ≤ fuel → stage.run fuel n p inputs = some r := by
  have last {n p inputs} (halts : stage.follow (stage.visit n p inputs) = none) :
      ∃ r, ∀ fuel, 1 ≤ fuel → stage.run fuel n p inputs = some r := by
    refine ⟨.last (stage.visit n p inputs), fun fuel hfuel => ?_⟩
    obtain ⟨fuel, rfl⟩ := Nat.exists_eq_add_of_le' hfuel
    exact Stage.run_last halts fuel
  induction h with
  | stop leaves =>
    obtain ⟨hd, -⟩ := leaves.visit stage
    exact last (Stage.follow_of_stop hd)
  | dangling leaves lost =>
    obtain ⟨hd, -⟩ := leaves.visit stage
    exact last ((Stage.follow_of_toward hd).trans lost)
  | @go n p inputs _ _ _ _ _ _ _ _ leaves found _ ih =>
    obtain ⟨r, hr⟩ := ih
    obtain ⟨hd, rfl, rfl, -⟩ := leaves.visit stage
    have leads := (Stage.follow_of_toward hd).trans found
    refine ⟨.cons (stage.visit n p inputs) r, fun fuel hfuel => ?_⟩
    obtain ⟨fuel, rfl⟩ := Nat.exists_eq_add_of_le' (Nat.le_trans (Nat.le_add_left 1 _) hfuel)
    rw [Stage.run_cons leads, hr fuel (Nat.le_of_succ_le_succ hfuel), Option.map_some]

/-- The machine has one play at most. -/
theorem Machine.Plays.unique {stage : Stage} {visits acts outcome visits' acts' outcome'}
    (h : Plays stage n p inputs visits acts outcome)
    (h' : Plays stage n p inputs visits' acts' outcome') :
    visits = visits' ∧ acts = acts' ∧ outcome = outcome' := by
  induction h generalizing visits' acts' outcome' with
  | stop leaves =>
    cases h' with
    | stop leaves' => obtain ⟨rfl, hd, rfl, rfl⟩ := leaves.unique leaves'; cases hd; simp
    | dangling leaves' | go leaves' => cases (leaves.unique leaves').2.1
  | dangling leaves lost =>
    cases h' with
    | stop leaves' => cases (leaves.unique leaves').2.1
    | dangling leaves' lost' => obtain ⟨rfl, hd, rfl, rfl⟩ := leaves.unique leaves'; simp
    | go leaves' found' =>
      obtain ⟨-, hd, -⟩ := leaves.unique leaves'
      cases hd
      simp [lost] at found'
  | go leaves found plays ih =>
    cases h' with
    | stop leaves' => cases (leaves.unique leaves').2.1
    | dangling leaves' lost' =>
      obtain ⟨-, hd, -⟩ := leaves.unique leaves'
      cases hd
      simp [found] at lost'
    | go leaves' found' plays' =>
      obtain ⟨rfl, hd, rfl, rfl⟩ := leaves.unique leaves'
      cases hd
      cases found.symm.trans found'
      obtain ⟨rfl, rfl, rfl⟩ := ih plays'
      simp

/-! ## Dialogues of a session -/

/-- What a performance comes to. -/
def Performance.outcome (r : Performance) : Outcome :=
  ⟨r.result, r.profile, r.unread, r.warning = some .danglingReference⟩

namespace Session
variable {s : Session} {tree : String} {t : Tree} {root : Node} {p : Profile}
  {inputs : List String} {fuel : Nat}

theorem performance_outcome (r : Run) : (s.performance tree r).outcome = r.outcome := by
  cases hd : r.dangling <;> simp [performance, Performance.outcome, Run.outcome, hd]

/-- The tree cannot be entered: it is not there, or has no root. -/
def Barred (s : Session) (tree : String) : Prop :=
  ∀ t, s.library.lookup tree = some t → t.rootNode? = none

theorem entered_or_barred (s : Session) (tree : String) :
    (∃ t root, s.library.lookup tree = some t ∧ t.rootNode? = some root) ∨ s.Barred tree := by
  by_cases barred : s.Barred tree
  · exact .inr barred
  · obtain ⟨t, found, entry⟩ : ∃ t, s.library.lookup tree = some t ∧ ¬t.rootNode? = none := by
      simpa [Barred] using barred
    obtain ⟨root, entry⟩ := Option.ne_none_iff_exists'.1 entry
    exact .inl ⟨t, root, found, entry⟩

theorem exists_refuse (barred : s.Barred tree) :
    ∃ w, ∀ fuel p inputs, s.start fuel tree p inputs = some (s.refuse p inputs w) := by
  cases found : s.library.lookup tree with
  | none => exact ⟨.treeNotFound, fun fuel p inputs => by simp [start, found]⟩
  | some t => exact ⟨.rootNotFound, fun fuel p inputs => by simp [start, found, barred t found]⟩

/-- A dialogue that can be entered is a run from its root. -/
theorem start_of_entered (found : s.library.lookup tree = some t) (entry : t.rootNode? = some root)
    (fuel : Nat) (p : Profile) (inputs : List String) :
    s.start fuel tree p inputs =
      ((s.stage tree).run fuel root p inputs).map (s.performance tree) := by
  simp only [start, found, entry]

/-- A tree without its root leaves everything as it was. -/
theorem start_of_rootless (found : s.library.lookup tree = some t) (entry : t.rootNode? = none)
    (fuel : Nat) (p : Profile) (inputs : List String) :
    s.start fuel tree p inputs = some (s.refuse p inputs .rootNotFound) := by
  simp only [start, found, entry]

/-- A change of the session that keeps a tree and its runs, and what they leave up to the change
itself, keeps the dialogue up to this change. -/
theorem start_change (change : Session → Session)
    (lookup : (change s).library.lookup tree = s.library.lookup tree)
    (runs : ∀ t root, s.library.lookup tree = some t → t.rootNode? = some root →
      ((change s).stage tree).run fuel root p inputs = (s.stage tree).run fuel root p inputs)
    (after : ∀ r, (change s).afterRun tree r = change (s.afterRun tree r)) :
    (change s).start fuel tree p inputs =
      (s.start fuel tree p inputs).map fun r => { r with session := change r.session } := by
  cases found : s.library.lookup tree with
  | none =>
    have found' := lookup.trans found
    simp only [start, found, found', refuse, Option.map_some]
  | some t =>
    have found' := lookup.trans found
    cases entry : t.rootNode? with
    | none => simp only [start, found, found', entry, refuse, Option.map_some]
    | some root =>
      rw [start_of_entered found entry, start_of_entered found' entry, runs t root found entry,
        Option.map_map]
      refine congrArg (Option.map · _) (funext fun r => ?_)
      simp only [performance, Function.comp_apply, after]

/-- A dialogue that was entered and came to its end is a play of the machine from its root. -/
theorem plays_of_start (found : s.library.lookup tree = some t) (entry : t.rootNode? = some root)
    {r : Performance} (h : s.start fuel tree p inputs = some r) :
    ∃ visits, Plays (s.stage tree) root p inputs visits (Act.transcript r.acts) r.outcome := by
  rw [start_of_entered found entry] at h
  obtain ⟨run, hrun, rfl⟩ := Option.map_eq_some_iff.1 h
  exact ⟨run.beats, performance_outcome run ▸ (Stage.runs_of_run hrun).plays⟩

/-- A play from the root comes to be a dialogue, if there is fuel for its visits. -/
theorem start_of_plays (found : s.library.lookup tree = some t) (entry : t.rootNode? = some root)
    {visits acts outcome} (h : Plays (s.stage tree) root p inputs visits acts outcome) :
    ∃ r, (∀ fuel, visits.length ≤ fuel → s.start fuel tree p inputs = some r) ∧
      acts = Act.transcript r.acts ∧ outcome = r.outcome := by
  obtain ⟨run, hrun⟩ := h.exists_run
  have hstart (fuel : Nat) (hfuel : visits.length ≤ fuel) :
      s.start fuel tree p inputs = some (s.performance tree run) := by
    rw [start_of_entered found entry, hrun fuel hfuel, Option.map_some]
  obtain ⟨visits', h'⟩ := plays_of_start found entry (hstart visits.length (Nat.le_refl _))
  obtain ⟨-, hacts, houtcome⟩ := h.unique h'
  exact ⟨_, hstart, hacts, houtcome⟩

/-- **Traversals follow the state machine.** What a dialogue that comes to an end shows and comes to
is a play of the machine from the root; every play comes to be so; and there is one play only. -/
theorem start_follows_machine (found : s.library.lookup tree = some t)
    (entry : t.rootNode? = some root) (p : Profile) (inputs : List String) :
    (∀ fuel r, s.start fuel tree p inputs = some r →
      ∃ visits, Plays (s.stage tree) root p inputs visits (Act.transcript r.acts) r.outcome) ∧
    (∀ visits acts outcome, Plays (s.stage tree) root p inputs visits acts outcome →
      ∃ fuel r, s.start fuel tree p inputs = some r ∧ acts = Act.transcript r.acts ∧
        outcome = r.outcome) ∧
    ∀ visits acts outcome visits' acts' outcome',
      Plays (s.stage tree) root p inputs visits acts outcome →
      Plays (s.stage tree) root p inputs visits' acts' outcome' →
      visits = visits' ∧ acts = acts' ∧ outcome = outcome' := by
  refine ⟨fun fuel r h => plays_of_start found entry h, fun visits acts outcome h => ?_,
    fun _ _ _ _ _ _ h h' => h.unique h'⟩
  obtain ⟨r, hstart, hacts, houtcome⟩ := start_of_plays found entry h
  exact ⟨visits.length, r, hstart visits.length (Nat.le_refl _), hacts, houtcome⟩

/-- A road that leads to an inn, where a guest is greeted and paid: two trees. -/
def wayside : Session :=
  let greeting : Node :=
    { id := "greeting", speaker := some "Host", lines := ["Welcome, \x7bPlayerName\x7d!"]
      choices := [
        { text := "Sing", next := "farewell", condition := some (.test (.hasFlag "bard")) },
        { text := "Work", next := "farewell", effects := [.addGold 5] }] }
  let inn : Tree := .withNode (.withNode ⟨"inn", "The Inn", "greeting", {}⟩ greeting)
    { id := "farewell", isEnd := true, effects := [.giveItem "bread"] }
  let road : Tree := .withNode ⟨"road", "", "walk", {}⟩ { id := "walk", next := some "greeting" }
  ({} : Session).register inn |>.register road

theorem start_follows_machine_wayside :
    ∃ t root r visits, wayside.library.lookup "road" = some t ∧ t.rootNode? = some root ∧
      wayside.start 3 "road" {} ["2", "1"] = some r ∧ r.profile.player.gold = 5 ∧
      Plays (wayside.stage "road") root {} ["2", "1"] visits (Act.transcript r.acts) r.outcome := by
  obtain ⟨t, found⟩ : ∃ t, wayside.library.lookup "road" = some t := ⟨_, rfl⟩
  obtain ⟨root, entry⟩ : ∃ root, t.rootNode? = some root := by cases found; exact ⟨_, rfl⟩
  have hgold : (wayside.start 3 "road" {} ["2", "1"]).map (·.profile.player.gold) = some 5 := by
    decide
  obtain ⟨r, hr, hgold⟩ := Option.map_eq_some_iff.1 hgold
  obtain ⟨visits, hplays⟩ := (start_follows_machine found entry {} ["2", "1"]).1 3 r hr
  exact ⟨t, root, r, visits, found, entry, hr, hgold, hplays⟩

end Session

end Dialogue
