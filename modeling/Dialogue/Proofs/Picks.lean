import Dialogue.Proofs.Chronicle
import Dialogue.Proofs.Progress
import Dialogue.Proofs.Unbroken

/-!
# Positions of picked choices

Choices have two numberings: the player is shown numbers that count the choices that hold, from one;
events and histories keep positions that count all choices of the node. The number of a choice is
one more than the count of those before its position that hold (`Node.getElem?_offers`), so that a
pick tells of the choice that stands at its position, whatever gates are open (`Pick.Sound`). The
events of a dialogue tell of its picks, in order (`Stage.Runs.exists_picks`), and all such events of
a session come from its dialogues (`Session.Recorded.exists_start`).
-/

namespace Dialogue
open Machine

/-! ## Two numberings -/

/-- What passes is found behind as many others as have passed before it. -/
theorem getElem?_filter_iff {α : Type} {P : α → Bool} {l : List α} {k : Nat} {a : α} :
    (l.filter P)[k]? = some a ↔
      ∃ i : Nat, l[i]? = some a ∧ P a = true ∧ (l.take i).countP P = k := by
  constructor
  · intro h
    induction l generalizing k with
    | nil => simp at h
    | cons b l ih =>
      cases hb : P b with
      | false =>
        rw [List.filter_cons_of_neg (by simp [hb])] at h
        obtain ⟨i, hi, ha, hcount⟩ := ih h
        exact ⟨i + 1, hi, ha, by simpa [hb] using hcount⟩
      | true =>
        rw [List.filter_cons_of_pos hb] at h
        cases k with
        | zero =>
          cases h
          exact ⟨0, rfl, hb, rfl⟩
        | succ k =>
          obtain ⟨i, hi, ha, hcount⟩ := ih h
          exact ⟨i + 1, hi, ha, by simpa [hb] using hcount⟩
  · rintro ⟨i, hi, ha, rfl⟩
    obtain ⟨hlt, rfl⟩ := List.getElem?_eq_some_iff.1 hi
    have hsplit : l.filter P = (l.take i).filter P ++ l[i] :: (l.drop (i + 1)).filter P := by
      rw [← List.filter_cons_of_pos ha, ← List.filter_append, ← List.drop_eq_getElem_cons hlt,
        List.take_append_drop]
    rw [hsplit, List.countP_eq_length_filter, List.getElem?_append_right (Nat.le_refl _),
      Nat.sub_self]
    rfl

/-- How many of the choices before a position hold of a profile. -/
def Node.rank (n : Node) (p : Profile) (i : Nat) : Nat :=
  (n.choices.take i).countP fun c => gateOpen p c.condition

/-- The choices offered, by the other numbering. -/
theorem Node.getElem?_offers {n : Node} {p : Profile} {i k : Nat} {c : Choice} :
    (n.offers p)[k]? = some (i, c) ↔
      n.choices[i]? = some c ∧ gateOpen p c.condition = true ∧ n.rank p i = k := by
  have hcount (j : Nat) : ((n.choices.mapIdx Prod.mk).take j).countP
      (fun o => gateOpen p o.2.condition) = n.rank p j := by
    have hmap : ((n.choices.mapIdx Prod.mk).take j).map Prod.snd = n.choices.take j := by
      apply List.ext_getElem <;> simp
    rw [rank, ← hmap, List.countP_map]
    rfl
  rw [offers, getElem?_filter_iff]
  simp only [hcount, List.getElem?_mapIdx, Option.map_eq_some_iff, Prod.mk.injEq]
  constructor
  · rintro ⟨_, ⟨_, hc, rfl, rfl⟩, hopen, hrank⟩
    exact ⟨hc, hopen, hrank⟩
  · rintro ⟨hc, hopen, hrank⟩
    exact ⟨i, ⟨c, hc, rfl, rfl⟩, hopen, hrank⟩

/-! ## Picks -/

/-- A choice picked at a prompt. -/
structure Pick where
  node : Node
  /-- The profile that the node was displayed to. -/
  before : Profile
  input : String
  position : Nat
  choice : Choice

namespace Pick

def mark (k : Pick) : String × Nat × Choice := (k.node.id, k.position, k.choice)

def event (k : Pick) : Event := Session.pickEvent k.mark

/-- The visit of the pick, and the profile after its effects. -/
def move (k : Pick) : (Node × Profile) × Profile :=
  ((k.node, k.before), Effect.applyAll k.before k.choice.effects)

/-- The pick is what its node declares and its profile allows. -/
structure Sound (k : Pick) : Prop where
  asks : k.node.Asks k.before
  declared : k.node.choices[k.position]? = some k.choice
  holds : gateOpen k.before k.choice.condition = true
  /-- The input is the number of the choice among those that hold, and one of those shown. -/
  numbered : Picks (k.node.legal k.before).length k.input (k.node.rank k.before k.position)
  offered : (k.node.offers k.before)[k.node.rank k.before k.position]? = some (k.position, k.choice)
  listed : (k.node.legal k.before)[k.node.rank k.before k.position]? = some k.choice

theorem sound_of_offered {n : Node} {p : Profile} {input : String} {i k : Nat} {c : Choice}
    (asks : n.Asks p) (picks : Picks (n.legal p).length input k)
    (offered : (n.offers p)[k]? = some (i, c)) : Sound ⟨n, p, input, i, c⟩ := by
  obtain ⟨declared, holds, rfl⟩ := Node.getElem?_offers.1 offered
  refine ⟨asks, declared, holds, picks, offered, ?_⟩
  rw [← n.map_offers, List.getElem?_map, offered]
  rfl

end Pick

/-- A visit picks a choice by one of its inputs, or picks none. -/
theorem Stage.pick_or_none (stage : Stage) (n : Node) (p : Profile) (inputs : List String) :
    (∃ k : Pick, k.Sound ∧ k.node = n ∧ k.before = p ∧
      (stage.visit n p inputs).exit = .chosen k.position k.choice ∧
      (stage.visit n p inputs).after = Effect.applyAll p k.choice.effects ∧
      ∃ rejected, inputs = rejected ++ k.input :: (stage.visit n p inputs).unread) ∨
    (∀ i c, (stage.visit n p inputs).exit ≠ .chosen i c) ∧
      (stage.visit n p inputs).unread <:+ inputs := by
  obtain ⟨said, departure, q, rest, leaves⟩ := exists_leaves n p inputs
  cases leaves with
  | terminal ended =>
    rw [Stage.visit_of_isEnd ended]
    exact .inr ⟨nofun, List.suffix_rfl⟩
  | stuck live barred last =>
    rw [Stage.visit_of_stuck live barred last]
    exact .inr ⟨nofun, List.suffix_rfl⟩
  | successor live barred next =>
    rw [Stage.visit_of_successor live barred next]
    exact .inr ⟨nofun, List.suffix_rfl⟩
  | automatic live only auto =>
    rw [Stage.visit_of_automatic live only auto]
    exact .inr ⟨nofun, List.suffix_rfl⟩
  | @chosen rejected input rest k c asks before picks listed =>
    have hk : k < (n.offers p).length := n.length_offers p ▸ picks.1
    have hparse := parse_eq_pick (k := ⟨k, picks.1⟩) |>.2 picks
    have hask := ask_append before (input :: rest)
    rw [ask_of_accepted hparse] at hask
    rw [Stage.visit_of_asks asks,
      Stage.prompt_of_pick (n.length_offers p).symm (by rw [hask]), hask]
    refine .inl ⟨⟨n, p, input, (n.offers p)[k].1, (n.offers p)[k].2⟩, ?_, rfl, rfl, rfl, rfl,
      rejected, rfl⟩
    exact Pick.sound_of_offered asks picks (List.getElem?_eq_getElem hk)
  | @silence rejected input rest asks before silences =>
    have hask := ask_append before (input :: rest)
    rw [ask_of_accepted (parse_eq_silence.2 silences)] at hask
    rw [Stage.visit_of_asks asks,
      Stage.prompt_of_silence (n.length_offers p).symm (by rw [hask]), hask]
    exact .inr ⟨nofun, (List.suffix_cons ..).trans (List.suffix_append ..)⟩
  | closed asks before =>
    have hask := ask_append before []
    rw [List.append_nil] at hask
    rw [Stage.visit_of_asks asks,
      Stage.prompt_of_none (n.length_offers p).symm (by rw [hask]; rfl), hask]
    exact .inr ⟨nofun, List.nil_suffix⟩

/-! ## Runs -/

/-- Each visit with the profile that comes next. -/
def moves (visits : List (Node × Profile)) (last : Profile) : List ((Node × Profile) × Profile) :=
  visits.zip ((visits.map Prod.snd).tail ++ [last])

theorem moves_cons_cons (v w : Node × Profile) (visits : List (Node × Profile)) (last : Profile) :
    moves (v :: w :: visits) last = (v, w.2) :: moves (w :: visits) last := rfl

/-- The node stands in some tree of the library, and the id tells it there if the tree keeps its
nodes under their own ids. -/
def Stage.Names (stage : Stage) (id : String) (n : Node) : Prop :=
  ∃ t ∈ stage.library.trees, (stage.scope = .tree → t.id = stage.tree) ∧
    (∃ key, (key, n) ∈ t.nodes.toList) ∧ (t.Keyed → t.node? id = some n)

/-- What a visit adds to the picks of its run. -/
def Visit.picks (v : Visit) : List (String × Nat × Choice) :=
  match v.exit with
  | .chosen position c => [(v.node.id, position, c)]
  | _ => []

namespace Run

theorem picks_eq_flatMap (r : Run) : r.picks = r.visits.flatMap Visit.picks := by
  rw [picks, List.filterMap_eq_flatMap_toList]
  refine List.flatMap_congr fun v _ => ?_
  unfold Visit.picks
  cases v.exit <;> rfl

theorem picks_last (v : Visit) : (last v).picks = v.picks := by
  rw [picks_eq_flatMap]
  exact List.append_nil _

theorem picks_cons_visit (v : Visit) (r : Run) : (cons v r).picks = v.picks ++ r.picks := by
  rw [picks_eq_flatMap, picks_eq_flatMap]
  rfl

end Run

namespace Stage
variable {stage : Stage} {n next : Node} {p : Profile} {inputs : List String} {fuel : Nat} {r : Run}

theorem Within.names (within : stage.Within n) : stage.Names n.id n := by
  obtain ⟨t, ht, hscope, key, hn⟩ := within
  refine ⟨t, ht, hscope, ⟨key, hn⟩, fun keyed => ?_⟩
  have hkey : key = n.id := keyed _ hn
  exact hkey ▸ Table.get?_of_mem hn

theorem within_of_follow {v : Visit} (leads : stage.follow v = some next) : stage.Within next := by
  obtain ⟨target, -, found⟩ := Option.bind_eq_some_iff.1 leads
  exact within_of_resolve found

theorem Runs.exists_beats (h : Runs stage fuel n p inputs r) :
    ∃ later, r.beats = (n, p) :: later := by
  obtain ⟨hnode, hbefore⟩ : (stage.visit n p inputs).node = n ∧
      (stage.visit n p inputs).before = p := visit_node_before
  have hfirst (visits : List Visit) :
      (stage.visit n p inputs :: visits).map (fun v => (v.node, v.before)) =
        (n, p) :: visits.map fun v => (v.node, v.before) := by
    rw [List.map_cons, hnode, hbefore]
  cases h with
  | last | cons => exact ⟨_, hfirst _⟩

/-- The picks of a visit: one or none. -/
theorem exists_picks_visit (within : stage.Within n) (p : Profile) (inputs : List String) :
    ∃ picks : List Pick, (stage.visit n p inputs).picks = picks.map Pick.mark ∧
      (picks.map Pick.move).Sublist [((n, p), (stage.visit n p inputs).after)] ∧
      (∃ used, inputs = used ++ (stage.visit n p inputs).unread ∧
        (picks.map Pick.input).Sublist used) ∧
      ∀ k ∈ picks, k.Sound ∧ stage.Names k.node.id k.node := by
  have hnode : (stage.visit n p inputs).node = n := visit_node_before.1
  rcases stage.pick_or_none n p inputs with
    ⟨k, sound, rfl, rfl, hexit, hafter, rejected, hinputs⟩ | ⟨hexit, used, hused⟩
  · refine ⟨[k], ?_, ?_, ⟨rejected ++ [k.input], ?_, List.sublist_append_right ..⟩,
      List.forall_mem_singleton.2 ⟨sound, within.names⟩⟩
    · rw [Visit.picks, hexit, hnode]
      rfl
    · rw [hafter]
      exact List.Sublist.refl _
    · rw [List.append_assoc]
      exact hinputs
  · refine ⟨[], ?_, List.nil_sublist _, ⟨used, hused.symm, List.nil_sublist _⟩,
      List.forall_mem_nil _⟩
    unfold Visit.picks
    split
    · next i c h => exact (hexit i c h).elim
    · rfl

/-- The picks of a run are found, in order, among its visits and its inputs. -/
theorem Runs.exists_picks (h : Runs stage fuel n p inputs r) (within : stage.Within n) :
    ∃ picks : List Pick, r.picks = picks.map Pick.mark ∧
      (picks.map Pick.move).Sublist (moves r.beats r.profile) ∧
      (picks.map Pick.input).Sublist inputs ∧
      ∀ k ∈ picks, k.Sound ∧ stage.Names k.node.id k.node := by
  induction h with
  | @last fuel n p inputs halts =>
    obtain ⟨picks, hmarks, hmoves, ⟨used, hused, hinputs⟩, hsound⟩ :=
      exists_picks_visit within p inputs
    obtain ⟨hnode, hbefore⟩ : (stage.visit n p inputs).node = n ∧ _ = p := visit_node_before
    refine ⟨picks, ?_, ?_, ?_, hsound⟩
    · rw [Run.picks_last, hmarks]
    · rw [Run.beats, Run.last, List.map_singleton, hnode, hbefore]
      exact hmoves
    · rw [hused]
      exact hinputs.trans (List.sublist_append_left ..)
  | @cons fuel n p inputs next r leads rest ih =>
    obtain ⟨picks, hmarks, hmoves, ⟨used, hused, hinputs⟩, hsound⟩ :=
      exists_picks_visit within p inputs
    obtain ⟨later, hmarks', hmoves', hinputs', hsound'⟩ := ih (within_of_follow leads)
    obtain ⟨hnode, hbefore⟩ : (stage.visit n p inputs).node = n ∧ _ = p := visit_node_before
    obtain ⟨beats, hbeats⟩ := rest.exists_beats
    refine ⟨picks ++ later, ?_, ?_, ?_, List.forall_mem_append.2 ⟨hsound, hsound'⟩⟩
    · rw [Run.picks_cons_visit, hmarks, hmarks', List.map_append]
    · have hcons : (Run.cons (stage.visit n p inputs) r).beats = (n, p) :: r.beats := by
        rw [Run.beats, Run.cons, List.map_cons, hnode, hbefore, ← Run.beats]
      rw [hcons, hbeats, moves_cons_cons, ← hbeats, List.map_append]
      exact hmoves.append hmoves'
    · rw [hused, List.map_append]
      exact hinputs.append hinputs'

end Stage

/-! ## Sessions -/

namespace Session
open Chronicle
variable {s : Session} {fuel : Nat} {tree : String} {p : Profile} {inputs : List String}
  {r : Performance} {config : Config} {log : Chronicle}

/-- `Accounts s tree p inputs r visits picks`: these are the visits and the picks of a performance,
which its events tell of before they tell of the end. -/
structure Accounts (s : Session) (tree : String) (p : Profile) (inputs : List String)
    (r : Performance) (visits : List (Node × Profile)) (picks : List Pick) : Prop where
  displays : s.Displays tree p inputs visits r
  events : ∃ ending : Option Bool,
    r.events = picks.map Pick.event ++ ending.toList.map (.completed tree)
  /-- The profile that comes after a pick is that after its effects. -/
  moves : (picks.map Pick.move).Sublist (moves visits r.profile)
  inputs : (picks.map Pick.input).Sublist inputs
  sound : ∀ k ∈ picks, k.Sound
  names : ∀ k ∈ picks, (s.stage tree).Names k.node.id k.node

theorem exists_accounts (h : s.start fuel tree p inputs = some r) :
    ∃ visits picks, s.Accounts tree p inputs r visits picks := by
  rcases s.entered_or_barred tree with ⟨t, root, found, entry⟩ | barred
  · have within := s.within_root (Library.mem_of_lookup found).1 entry
    rw [(Library.mem_of_lookup found).2] at within
    rw [start_of_entered found entry] at h
    obtain ⟨run, hrun, rfl⟩ := Option.map_eq_some_iff.1 h
    have runs := Stage.runs_of_run hrun
    obtain ⟨picks, hpicks, hmoves, hinputs, hsound⟩ := runs.exists_picks within
    refine ⟨run.beats, picks, .of_plays found entry ?_, ⟨some run.result.isCompleted, ?_⟩, hmoves,
      hinputs, fun k hk => (hsound k hk).1, fun k hk => (hsound k hk).2⟩
    · exact performance_outcome run ▸ runs.plays
    · rw [performance, hpicks, List.map_map]
      rfl
  · obtain ⟨w, hrefuse⟩ := exists_refuse barred
    cases (hrefuse fuel p inputs).symm.trans h
    exact ⟨[], [], .of_barred barred, ⟨none, rfl⟩, List.nil_sublist _, List.nil_sublist _,
      List.forall_mem_nil _, List.forall_mem_nil _⟩

/-- What happens in a session happens in one of its dialogues. -/
theorem Recorded.exists_start {e : Event} (h : Recorded config log s) (he : e ∈ log.events) :
    ∃ earlier s' fuel tree p inputs r, Recorded config earlier s' ∧ earlier <+: log ∧
      s'.start fuel tree p inputs = some r ∧ e ∈ r.events := by
  induction h with
  | new => cases he
  | @step log more s s' before h ih =>
    rw [events_append] at he
    rcases List.mem_append.1 he with he | he
    · obtain ⟨earlier, s₀, fuel, tree, p, inputs, r, hrecorded, hprefix, hstart, he⟩ := ih he
      exact ⟨earlier, s₀, fuel, tree, p, inputs, r, hrecorded,
        hprefix.trans (List.prefix_append ..), hstart, he⟩
    · cases h with
      | register | install | subscribe | drain | reset => cases he
      | start h =>
        rw [events_telling] at he
        exact ⟨log, s, _, _, _, _, _, before, List.prefix_append .., h, he⟩

/-- **Positions of choices are stable names.** The events of a dialogue tell of its picks, in order:
each tells the position of a declared choice that held when it was shown and was picked by its
number, and whose effects alone were applied. All such events of a session come from its dialogues.
Of picks at one node, equal positions tell one choice, and choices that the node declares once are
told by one position. -/
theorem picks_keep_positions :
    (∀ (s : Session) fuel tree p inputs r, s.start fuel tree p inputs = some r →
      ∃ visits picks, s.Accounts tree p inputs r visits picks) ∧
    (∀ config log s, Recorded config log s → ∀ id i text, .choiceMade id i text ∈ log.events →
      ∃ earlier s' fuel tree p inputs r visits picks, Recorded config earlier s' ∧
        earlier <+: log ∧ s'.start fuel tree p inputs = some r ∧
        s'.Accounts tree p inputs r visits picks ∧
        ∃ k ∈ picks, k.node.id = id ∧ k.position = i ∧ k.choice.text = text) ∧
    ∀ k k' : Pick, k.Sound → k'.Sound → k.node = k'.node →
      (k.position = k'.position → k.choice = k'.choice) ∧
      (k.node.choices.Nodup → k.choice = k'.choice → k.position = k'.position) := by
  refine ⟨fun s fuel tree p inputs r => exists_accounts, ?_, ?_⟩
  · intro config log s h id i text he
    obtain ⟨earlier, s', fuel, tree, p, inputs, r, hrecorded, hprefix, hstart, he⟩ :=
      h.exists_start he
    obtain ⟨visits, picks, accounts⟩ := exists_accounts hstart
    refine ⟨earlier, s', fuel, tree, p, inputs, r, visits, picks, hrecorded, hprefix, hstart,
      accounts, ?_⟩
    obtain ⟨ending, hevents⟩ := accounts.events
    rw [hevents] at he
    rcases List.mem_append.1 he with he | he
    · obtain ⟨k, hk, heq⟩ := List.mem_map.1 he
      cases heq
      exact ⟨k, hk, rfl, rfl, rfl⟩
    · obtain ⟨full, -, heq⟩ := List.mem_map.1 he
      cases heq
  · intro k k' sound sound' same
    have declared' := sound'.declared
    rw [← same] at declared'
    refine ⟨fun hposition => ?_, fun nodup hchoice => ?_⟩
    · rw [← hposition, sound.declared] at declared'
      exact Option.some.inj declared'
    · have hlt := (List.getElem?_eq_some_iff.1 sound.declared).1
      exact (List.getElem?_inj hlt nodup).1 (by rw [sound.declared, declared', hchoice])

/-- The same answer at the inn, with the song not offered and offered: its number changes, but not
its position. -/
theorem picks_keep_positions_wayside :
    ∃ k k' : Pick, k.Sound ∧ k'.Sound ∧
      (wayside.stage "road").Names "greeting" k.node ∧
      (wayside.stage "road").Names "greeting" k'.node ∧
      k.input = "1" ∧ k'.input = "2" ∧ k.position = 1 ∧ k'.position = 1 ∧
      (k.node = k'.node → k.choice = k'.choice) := by
  obtain ⟨accounted, -, named⟩ := picks_keep_positions
  have hpick (p : Profile) (input : String)
      (hevents : (wayside.start 3 "road" p [input]).map (·.events) =
        some [.choiceMade "greeting" 1 "Work", .completed "road" true]) :
      ∃ k : Pick, k.Sound ∧ (wayside.stage "road").Names "greeting" k.node ∧ k.input = input ∧
        k.position = 1 := by
    obtain ⟨r, hr, hevents⟩ := Option.map_eq_some_iff.1 hevents
    obtain ⟨visits, picks, accounts⟩ := accounted _ _ _ _ _ _ hr
    obtain ⟨ending, htold⟩ := accounts.events
    have hmem : Event.choiceMade "greeting" 1 "Work" ∈
        picks.map Pick.event ++ ending.toList.map (.completed "road") := by simp [← htold, hevents]
    obtain ⟨k, hk, heq⟩ : ∃ k ∈ picks, k.event = .choiceMade "greeting" 1 "Work" := by
      simpa using hmem
    have hinput := accounts.inputs.subset (List.mem_map_of_mem hk)
    obtain ⟨hid, hposition, -⟩ : k.node.id = "greeting" ∧ k.position = 1 ∧ _ := by
      simpa [Pick.event, Pick.mark, pickEvent] using heq
    have names := accounts.names k hk
    rw [hid] at names
    exact ⟨k, accounts.sound k hk, names, List.mem_singleton.1 hinput, hposition⟩
  obtain ⟨k, sound, names, hinput, hposition⟩ := hpick {} "1" (by decide)
  obtain ⟨k', sound', names', hinput', hposition'⟩ :=
    hpick (Effect.applyAll {} [.setFlag "bard"]) "2" (by decide)
  exact ⟨k, k', sound, sound', names, names', hinput, hinput', hposition, hposition', fun same =>
    (named k k' sound sound' same).1 (hposition.trans hposition'.symm)⟩

end Session

end Dialogue
