import Dialogue.Proofs.Machine
import Dialogue.Proofs.Sorted
import Mathlib.Data.List.Perm.Subperm

/-!
# Progress

What a player has come to is never taken back. `Profile.Onward p q` says, domain by domain, what of
the profile `p` is still there in `q`: names and measures stay, counts do not sink, records are
continued, collections lose nothing, and who is dead stays dead. Every effect leads onward
(`Effect.onward`), so that plays and tours of many plays do (`Machine.Plays.onward`, `Tour.onward`).
Conditions made of certain tests by `all` and `any` go on holding (`Condition.Lasting.holds`), and a
choice behind such a gate goes on being offered.
-/

namespace Dialogue
open Machine

/-! ## What stays and what grows -/

namespace Ranged
variable {lo hi : Int} {a b c : Ranged lo hi}

protected theorem le_refl (a : Ranged lo hi) : a ≤ a := Int.le_refl a.val

protected theorem le_trans (h : a ≤ b) (h' : b ≤ c) : a ≤ c :=
  (Int.le_trans h h' : a.val ≤ c.val)

theorem le_max_left (a b : Ranged lo hi) : a ≤ max a b := by
  show a.val ≤ (max a b).val
  rw [max_val]
  omega

theorem clamp_le_clamp [Bounds lo hi] {m n : Int} (h : m ≤ n) :
    (clamp m : Ranged lo hi) ≤ clamp n := by
  show (clamp m : Ranged lo hi).val ≤ (clamp n : Ranged lo hi).val
  rw [clamp_val, clamp_val]
  omega

theorem le_plus [Bounds lo hi] (a : Ranged lo hi) {n : Int} (h : 0 ≤ n) : a ≤ a.plus n := by
  have hle : (clamp a.val : Ranged lo hi) ≤ a.plus n := clamp_le_clamp (by omega)
  rwa [clamp_self] at hle

end Ranged

namespace Sorted
variable {α : Type} {key : α → String}

theorem keys_subset_insert (s : Sorted α key) (a : α) : s.keys ⊆ (s.insert a).keys :=
  fun _ hk => mem_keys_insert.2 (.inr hk)

theorem contains_of_keys_subset {s t : Sorted α key} {k : String} (h : s.keys ⊆ t.keys)
    (hk : s.contains k = true) : t.contains k = true :=
  contains_iff_mem_keys.2 (h (contains_iff_mem_keys.1 hk))

theorem size_le_of_keys_subset {s t : Sorted α key} (h : s.keys ⊆ t.keys) : s.size ≤ t.size := by
  simpa [keys, size] using (s.nodup_keys.subperm h).length_le

end Sorted

structure Player.Onward (p q : Player) : Prop where
  name : q.name = p.name
  realName : q.realName = p.realName
  level : q.level = p.level
  className : q.className = p.className
  race : q.race = p.race
  maxHp : q.maxHp = p.maxHp
  deeds : ∀ side, p.deeds side ≤ q.deeds side
  inventory : p.inventory <+: q.inventory

structure Story.Onward (s t : Story) : Prop where
  cycle : t.cycle = s.cycle
  chapter : s.chapter ≤ t.chapter
  events : s.events <+: t.events
  choices : s.choices.keys ⊆ t.choices.keys
  artifacts : s.artifacts.keys ⊆ t.artifacts.keys

structure Companion.Onward (c d : Companion) : Prop where
  history : c.history <+: d.history
  dead : c.alive = false → d.alive = false
  inactive : c.active = false → d.active = false

structure Companions.Onward (c d : Companions) : Prop where
  recruited : d.roster.keys = c.roster.keys
  each : ∀ name x, c.get? name = some x → ∃ y, d.get? name = some y ∧ x.Onward y

structure Betrayals.Onward (b b' : Betrayals) : Prop where
  betrayed : b'.betrayed = b.betrayed
  points : b.points.keys ⊆ b'.points.keys
  log : b.log <+: b'.log

structure Awakening.Onward (a b : Awakening) : Prop where
  insights : a.insights <+: b.insights
  fragments : a.fragments.keys ⊆ b.fragments.keys
  moments : a.moments.keys ⊆ b.moments.keys

structure Memory.Onward (m m' : Memory) : Prop where
  total : m'.total = m.total
  recovered : m.recovered.keys ⊆ m'.recovered.keys

/-- The profile `q` goes on from `p`. -/
structure Profile.Onward (p q : Profile) : Prop where
  player : p.player.Onward q.player
  story : p.story.Onward q.story
  companions : p.companions.Onward q.companions
  grief : q.grief = p.grief
  betrayals : p.betrayals.Onward q.betrayals
  awakening : p.awakening.Onward q.awakening
  memory : p.memory.Onward q.memory
  stranger : q.stranger = p.stranger

namespace Player

theorem Onward.refl (p : Player) : p.Onward p :=
  ⟨rfl, rfl, rfl, rfl, rfl, rfl, fun _ => Ranged.le_refl _, List.prefix_rfl⟩

theorem Onward.trans {p q r : Player} (h : p.Onward q) (h' : q.Onward r) : p.Onward r where
  name := h'.name.trans h.name
  realName := h'.realName.trans h.realName
  level := h'.level.trans h.level
  className := h'.className.trans h.className
  race := h'.race.trans h.race
  maxHp := h'.maxHp.trans h.maxHp
  deeds side := Ranged.le_trans (h.deeds side) (h'.deeds side)
  inventory := h.inventory.trans h'.inventory

theorem onward_adjustAlignment (p : Player) (amount : Amount) (side : Alignment) :
    p.Onward (p.adjustAlignment amount side) := by
  have still := Onward.refl p
  have deeds (s : Alignment) : p.deeds s ≤ (p.adjustAlignment amount side).deeds s := by
    cases side <;> cases s <;> exact Ranged.le_refl _
  cases side with
  | chivalry | darkness => exact { still with deeds }

theorem onward_recordDeed (p : Player) (side : Alignment) : p.Onward (p.recordDeed side) := by
  have still := Onward.refl p
  have one : (0 : Int) ≤ 1 := by decide
  cases side with
  | chivalry =>
    exact { still with
      deeds := fun
        | .chivalry => p.chivalryDeeds.le_plus one
        | .darkness => still.deeds .darkness }
  | darkness =>
    exact { still with
      deeds := fun
        | .chivalry => still.deeds .chivalry
        | .darkness => p.darknessDeeds.le_plus one }

end Player

namespace Story

theorem Onward.refl (s : Story) : s.Onward s :=
  ⟨rfl, Ranged.le_refl _, List.prefix_rfl, List.Subset.refl _, List.Subset.refl _⟩

theorem Onward.trans {s t u : Story} (h : s.Onward t) (h' : t.Onward u) : s.Onward u where
  cycle := h'.cycle.trans h.cycle
  chapter := Ranged.le_trans h.chapter h'.chapter
  events := h.events.trans h'.events
  choices := List.Subset.trans h.choices h'.choices
  artifacts := List.Subset.trans h.artifacts h'.artifacts

end Story

namespace Companion

theorem Onward.refl (c : Companion) : c.Onward c := ⟨List.prefix_rfl, id, id⟩

theorem Onward.trans {c d e : Companion} (h : c.Onward d) (h' : d.Onward e) : c.Onward e where
  history := h.history.trans h'.history
  dead hc := h'.dead (h.dead hc)
  inactive hc := h'.inactive (h.inactive hc)

end Companion

namespace Companions

theorem Onward.refl (c : Companions) : c.Onward c := ⟨rfl, fun _ x hx => ⟨x, hx, .refl x⟩⟩

theorem Onward.trans {c d e : Companions} (h : c.Onward d) (h' : d.Onward e) : c.Onward e where
  recruited := h'.recruited.trans h.recruited
  each name x hx := by
    obtain ⟨y, hy, hxy⟩ := h.each name x hx
    obtain ⟨z, hz, hyz⟩ := h'.each name y hy
    exact ⟨z, hz, hxy.trans hyz⟩

theorem isRecruited_iff {c : Companions} {name : String} :
    c.isRecruited name = true ↔ ∃ x, c.get? name = some x := by
  rw [isRecruited, Sorted.contains_iff_mem_keys, Table.mem_keys_iff, Option.isSome_iff_exists]
  rfl

theorem get?_modify (c : Companions) (name : String) (f : Companion → Companion)
    (name' : String) :
    (c.modify name f).get? name' =
      (c.get? name').map fun x => if name' == name then f x else x := Table.get?_modify ..

/-- A change that leads a companion onward leads all of them onward. -/
theorem onward_modify (c : Companions) (name : String) {f : Companion → Companion}
    (h : ∀ x : Companion, x.Onward (f x)) : c.Onward (c.modify name f) where
  recruited := Table.keys_modify c.roster name f
  each name' x hx := by
    refine ⟨_, (c.get?_modify name f name').trans (congrArg _ hx), ?_⟩
    split
    · exact h x
    · exact .refl x

theorem Onward.isRecruited {c d : Companions} (h : c.Onward d) (name : String) :
    d.isRecruited name = c.isRecruited name := by
  rw [Bool.eq_iff_iff, Companions.isRecruited, Companions.isRecruited,
    Sorted.contains_iff_mem_keys, Sorted.contains_iff_mem_keys, h.recruited]

/-- Who is on the roster and dead stays dead. -/
theorem Onward.isAlive {c d : Companions} (h : c.Onward d) {name : String}
    (recruited : c.isRecruited name = true) (dead : c.isAlive name = false) :
    d.isAlive name = false := by
  obtain ⟨x, hx⟩ := isRecruited_iff.1 recruited
  obtain ⟨y, hy, hxy⟩ := h.each name x hx
  simp only [Companions.isAlive, hx, hy, Option.any_some] at dead ⊢
  exact hxy.dead dead

end Companions

namespace Betrayals

theorem Onward.refl (b : Betrayals) : b.Onward b := ⟨rfl, List.Subset.refl _, List.prefix_rfl⟩

theorem Onward.trans {a b c : Betrayals} (h : a.Onward b) (h' : b.Onward c) : a.Onward c where
  betrayed := h'.betrayed.trans h.betrayed
  points := List.Subset.trans h.points h'.points
  log := h.log.trans h'.log

end Betrayals

namespace Awakening

theorem Onward.refl (a : Awakening) : a.Onward a :=
  ⟨List.prefix_rfl, List.Subset.refl _, List.Subset.refl _⟩

theorem Onward.trans {a b c : Awakening} (h : a.Onward b) (h' : b.Onward c) : a.Onward c where
  insights := h.insights.trans h'.insights
  fragments := List.Subset.trans h.fragments h'.fragments
  moments := List.Subset.trans h.moments h'.moments

end Awakening

namespace Memory

theorem Onward.refl (m : Memory) : m.Onward m := ⟨rfl, List.Subset.refl _⟩

theorem Onward.trans {m m' m'' : Memory} (h : m.Onward m') (h' : m'.Onward m'') : m.Onward m'' where
  total := h'.total.trans h.total
  recovered := List.Subset.trans h.recovered h'.recovered

theorem Onward.recoveryPercent {m m' : Memory} (h : m.Onward m') :
    m.recoveryPercent ≤ m'.recoveryPercent := by
  have hsize : m.recovered.size ≤ m'.recovered.size := Sorted.size_le_of_keys_subset h.recovered
  have htotal := m.total.lo_le
  rw [Memory.recoveryPercent, Memory.recoveryPercent, h.total]
  split
  · exact Ranged.le_refl _
  · next hne =>
    have hundredfold : (Ranged.clamp (m.recovered.size * 100) : Size) ≤
        Ranged.clamp (m'.recovered.size * 100) := Ranged.clamp_le_clamp (by omega)
    have hquotient := Int.ediv_le_ediv (c := m.total.val) (by omega) hundredfold
    exact Ranged.clamp_le_clamp (by omega)

theorem Onward.truthRevealed {m m' : Memory} (h : m.Onward m') (truth : m.truthRevealed = true) :
    m'.truthRevealed = true := by
  have hsize : m.recovered.size ≤ m'.recovered.size := Sorted.size_le_of_keys_subset h.recovered
  simp only [Memory.truthRevealed, decide_eq_true_eq, h.total] at truth ⊢
  omega

end Memory

namespace Profile

theorem Onward.refl (p : Profile) : p.Onward p where
  player := .refl _
  story := .refl _
  companions := .refl _
  grief := rfl
  betrayals := .refl _
  awakening := .refl _
  memory := .refl _
  stranger := rfl

theorem Onward.trans {p q r : Profile} (h : p.Onward q) (h' : q.Onward r) : p.Onward r where
  player := h.player.trans h'.player
  story := h.story.trans h'.story
  companions := h.companions.trans h'.companions
  grief := h'.grief.trans h.grief
  betrayals := h.betrayals.trans h'.betrayals
  awakening := h.awakening.trans h'.awakening
  memory := h.memory.trans h'.memory
  stranger := h'.stranger.trans h.stranger

end Profile

/-! ## Effects -/

theorem Effect.onward (p : Profile) (e : Effect) : p.Onward (e.apply p) := by
  have still := Profile.Onward.refl p
  cases e with
  | setFlag | clearFlag | triggerBetrayal | triggerDream =>
    exact { still with story := { still.story with } }
  | addChivalry amount =>
    exact { still with
      player := (p.player.onward_adjustAlignment amount .chivalry).trans
        (Player.onward_recordDeed _ .chivalry) }
  | addDarkness amount =>
    exact { still with
      player := (p.player.onward_adjustAlignment amount .darkness).trans
        (Player.onward_recordDeed _ .darkness) }
  | addGold | addExperience | heal | damage => exact { still with player := { still.player with } }
  | giveItem item =>
    exact { still with
      player := { still.player with inventory := List.prefix_append .. } }
  | recordChoice choice outcome =>
    exact { still with
      story := { still.story with choices := Sorted.keys_subset_insert .. } }
  | advanceChapter chapter =>
    exact { still with story := { still.story with chapter := Ranged.le_max_left .. } }
  | unlockArtifact artifact =>
    exact { still with
      story := { still.story with artifacts := Sorted.keys_subset_insert .. } }
  | triggerEvent event detail =>
    exact { still with story := { still.story with events := List.prefix_append .. } }
  | modifyLoyalty companion amount =>
    exact { still with
      companions := p.companions.onward_modify companion fun x =>
        { Companion.Onward.refl x with history := List.prefix_append .. } }
  | modifyTrust companion amount =>
    exact { still with
      companions := p.companions.onward_modify companion fun x => { Companion.Onward.refl x with } }
  | advanceRomance companion =>
    exact { still with
      companions := p.companions.onward_modify companion fun x => { Companion.Onward.refl x with } }
  | companionDeath companion =>
    exact { still with
      companions := p.companions.onward_modify companion fun _ =>
        ⟨List.prefix_rfl, fun _ => rfl, fun _ => rfl⟩ }
  | addBetrayal npc amount | reduceBetrayal npc amount =>
    exact { still with
      betrayals := ⟨rfl, Sorted.keys_subset_insert .., List.prefix_append ..⟩ }
  | gainInsight amount =>
    exact { still with
      awakening := { still.awakening with insights := List.prefix_append .. } }
  | collectFragment fragment =>
    exact { still with
      awakening := { still.awakening with fragments := Sorted.keys_subset_insert .. } }
  | awakeningMoment moment =>
    exact { still with
      awakening := { still.awakening with moments := Sorted.keys_subset_insert .. } }
  | revealMemory memory =>
    exact { still with
      memory := { still.memory with recovered := Sorted.keys_subset_insert .. } }
  | unknown => exact still

theorem Effect.onward_applyAll (p : Profile) (effects : List Effect) :
    p.Onward (applyAll p effects) := by
  induction effects generalizing p with
  | nil => exact .refl p
  | cons e effects ih => exact (e.onward p).trans (ih (e.apply p))

/-! ## Gates that stay open -/

/-- Tests that are passed for good. -/
def Test.lasting : Test → Bool
  | .hasArtifact _ | .chapterAtLeast _ | .madeChoice _ | .hasCompanion _ | .companionDead _
  | .hasFragment _ | .insightsAtLeast _ | .experienced _ | .hasMemory _ | .memoryAbove _
  | .truthRevealed => true
  | _ => false

/-- Conditions made of such tests by `all` and `any`. -/
inductive Condition.Lasting : Condition → Prop
  | test {t : Test} (h : t.lasting = true) : Lasting (.test t)
  | all {conditions : List Condition} (h : ∀ c ∈ conditions, Lasting c) : Lasting (.all conditions)
  | any {conditions : List Condition} (h : ∀ c ∈ conditions, Lasting c) : Lasting (.any conditions)

theorem Test.passes_of_onward {p q : Profile} {t : Test} (onward : p.Onward q)
    (lasting : t.lasting = true) (h : t.passes p = true) : t.passes q = true := by
  cases t with
  | hasArtifact => exact Sorted.contains_of_keys_subset onward.story.artifacts h
  | madeChoice => exact Sorted.contains_of_keys_subset onward.story.choices h
  | hasFragment => exact Sorted.contains_of_keys_subset onward.awakening.fragments h
  | experienced => exact Sorted.contains_of_keys_subset onward.awakening.moments h
  | hasMemory => exact Sorted.contains_of_keys_subset onward.memory.recovered h
  | chapterAtLeast chapter =>
    simp only [passes, decide_eq_true_eq] at h ⊢
    exact Ranged.le_trans h onward.story.chapter
  | hasCompanion name => exact (onward.companions.isRecruited name).trans h
  | companionDead name =>
    simp only [passes, Bool.and_eq_true, Bool.not_eq_true'] at h ⊢
    exact ⟨(onward.companions.isRecruited name).trans h.1, onward.companions.isAlive h.1 h.2⟩
  | insightsAtLeast value =>
    simp only [passes, decide_eq_true_eq] at h ⊢
    have hlength := onward.awakening.insights.length_le
    omega
  | memoryAbove value =>
    simp only [passes, decide_eq_true_eq] at h ⊢
    exact Int.lt_of_lt_of_le h onward.memory.recoveryPercent
  | truthRevealed => exact onward.memory.truthRevealed h
  | _ => cases lasting

theorem Condition.Lasting.holds {p q : Profile} {c : Condition} (lasting : c.Lasting)
    (onward : p.Onward q) (h : c.holds p = true) : c.holds q = true := by
  induction lasting with
  | test lasting => exact Test.passes_of_onward onward lasting h
  | all _ ih =>
    simp only [Condition.holds, allHold_eq, List.all_eq_true] at h ⊢
    exact fun c hc => ih c hc (h c hc)
  | any _ ih =>
    simp only [Condition.holds, anyHolds_eq, List.any_eq_true] at h ⊢
    obtain ⟨c, hc, h⟩ := h
    exact ⟨c, hc, ih c hc h⟩

theorem gateOpen_of_onward {p q : Profile} {gate : Option Condition} (onward : p.Onward q)
    (lasting : ∀ c ∈ gate, c.Lasting) (h : gateOpen p gate = true) : gateOpen q gate = true := by
  cases gate with
  | none => rfl
  | some c => exact (lasting c rfl).holds onward h

/-- A choice behind a gate that stays open, or behind none, goes on being offered. -/
theorem Node.mem_offers_of_onward {n : Node} {p q : Profile} {i : Nat} {c : Choice}
    (onward : p.Onward q) (lasting : ∀ gate ∈ c.condition, gate.Lasting)
    (h : (i, c) ∈ n.offers p) : (i, c) ∈ n.offers q := by
  obtain ⟨hi, hopen⟩ := Node.mem_offers.1 h
  exact Node.mem_offers.2 ⟨hi, gateOpen_of_onward onward lasting hopen⟩

/-! ## Plays and tours -/

theorem Machine.Leaves.onward (h : Leaves n p inputs said departure q rest) : p.Onward q := by
  cases h with
  | terminal | automatic | chosen => exact Effect.onward_applyAll p _
  | stuck | successor | silence | closed => exact .refl p

/-- Each profile leads onward to all that come after it. -/
abbrev Rising (profiles : List Profile) : Prop := profiles.Pairwise Profile.Onward

theorem Rising.cons {p q : Profile} {profiles : List Profile} (onward : p.Onward q)
    (h : Rising (q :: profiles)) : Rising (p :: q :: profiles) := by
  refine List.pairwise_cons.2 ⟨fun r hr => ?_, h⟩
  rcases List.mem_cons.1 hr with rfl | hr
  · exact onward
  · exact onward.trans ((List.pairwise_cons.1 h).1 r hr)

/-- What rises to a profile and what rises from it rises as a whole. -/
theorem Rising.append {p q : Profile} {before after : List Profile}
    (h : Rising (p :: (before ++ [q]))) (h' : Rising (q :: after)) :
    Rising (p :: (before ++ after)) := by
  rw [← List.cons_append] at h ⊢
  obtain ⟨hbefore, -, hq⟩ := List.pairwise_append.1 h
  obtain ⟨hafter, hrest⟩ := List.pairwise_cons.1 h'
  refine List.pairwise_append.2 ⟨hbefore, hrest, fun r hr r' hr' => ?_⟩
  exact (hq r hr q (List.mem_singleton_self q)).trans (hafter r' hr')

/-- The profiles of a play, from its start over its visits to its end. -/
theorem Machine.Plays.onward {stage : Stage} {visits acts outcome}
    (h : Plays stage n p inputs visits acts outcome) :
    Rising (p :: (visits.map Prod.snd ++ [outcome.profile])) := by
  have hlast {p q : Profile} (onward : p.Onward q) : Rising [p, p, q] :=
    .cons (.refl p) (.cons onward (List.pairwise_singleton ..))
  induction h with
  | stop leaves | dangling leaves => exact hlast leaves.onward
  | go leaves _ _ ih =>
    refine .cons (.refl _) (List.pairwise_cons.2 ⟨fun r hr => ?_, (List.pairwise_cons.1 ih).2⟩)
    exact leaves.onward.trans ((List.pairwise_cons.1 ih).1 r hr)

/-- The performance displays these nodes, each to the profile beside it; none, if the tree cannot be
entered. -/
structure Session.Displays (s : Session) (tree : String) (p : Profile) (inputs : List String)
    (visits : List (Node × Profile)) (r : Performance) : Prop where
  plays (t : Tree) (root : Node) :
    s.library.lookup tree = some t → t.rootNode? = some root →
      Plays (s.stage tree) root p inputs visits (Act.transcript r.acts) r.outcome
  barred : s.Barred tree → visits = []

/-- `Tour p visits q`: one dialogue after the other is played, of any session each, from the profile
`p` to the profile `q`, and their nodes are displayed in this order. -/
inductive Tour : Profile → List (Node × Profile) → Profile → Prop
  | done (p : Profile) : Tour p [] p
  | play {s : Session} {fuel : Nat} {tree : String} {p : Profile} {inputs : List String}
    {r : Performance} {visits later : List (Node × Profile)} {q : Profile}
    (h : s.start fuel tree p inputs = some r) (displays : s.Displays tree p inputs visits r)
    (rest : Tour r.profile later q) : Tour p (visits ++ later) q

namespace Session
variable {s : Session} {fuel : Nat} {tree : String} {p : Profile} {inputs : List String}
  {r : Performance}

theorem Displays.of_plays {t : Tree} {root : Node} {visits : List (Node × Profile)}
    (found : s.library.lookup tree = some t) (entry : t.rootNode? = some root)
    (plays : Plays (s.stage tree) root p inputs visits (Act.transcript r.acts) r.outcome) :
    s.Displays tree p inputs visits r := by
  refine ⟨fun t' root' found' entry' => ?_, fun barred => ?_⟩
  · cases found.symm.trans found'
    cases entry.symm.trans entry'
    exact plays
  · cases entry.symm.trans (barred t found)

theorem Displays.of_barred (barred : s.Barred tree) : s.Displays tree p inputs [] r := by
  refine ⟨fun t root found entry => ?_, fun _ => rfl⟩
  cases entry.symm.trans (barred t found)

theorem exists_displays (h : s.start fuel tree p inputs = some r) :
    ∃ visits, s.Displays tree p inputs visits r := by
  rcases s.entered_or_barred tree with ⟨t, root, found, entry⟩ | barred
  · obtain ⟨visits, plays⟩ := plays_of_start found entry h
    exact ⟨visits, .of_plays found entry plays⟩
  · exact ⟨[], .of_barred barred⟩

theorem Displays.onward {visits : List (Node × Profile)}
    (displays : s.Displays tree p inputs visits r) (h : s.start fuel tree p inputs = some r) :
    Rising (p :: (visits.map Prod.snd ++ [r.profile])) := by
  rcases s.entered_or_barred tree with ⟨t, root, found, entry⟩ | barred
  · exact (displays.plays t root found entry).onward
  · obtain ⟨w, hrefuse⟩ := exists_refuse barred
    cases (hrefuse fuel p inputs).symm.trans h
    rw [displays.barred barred]
    exact .cons (.refl p) (List.pairwise_singleton ..)

end Session

theorem Tour.onward {visits : List (Node × Profile)} (h : Tour p visits q) :
    Rising (p :: (visits.map Prod.snd ++ [q])) := by
  induction h with
  | done p => exact .cons (.refl p) (List.pairwise_singleton ..)
  | play h displays _ ih =>
    rw [List.map_append, List.append_assoc]
    exact (displays.onward h).append ih

/-- **Progress never goes back.** Effects lead onward, and so do dialogues, however they come out
and however many are played: each profile of a tour leads onward to all later ones. Conditions made
of lasting tests by `all` and `any` go on holding, so that a choice behind such a gate is offered on
every later visit to its node. -/
theorem Tour.never_back :
    (∀ (p : Profile) effects, p.Onward (Effect.applyAll p effects)) ∧
    (∀ (s : Session) fuel tree p inputs r, s.start fuel tree p inputs = some r →
      ∃ visits, s.Displays tree p inputs visits r) ∧
    (∀ p visits q, Tour p visits q → Rising (p :: (visits.map Prod.snd ++ [q]))) ∧
    (∀ (p q : Profile) c, p.Onward q → Condition.Lasting c → c.holds p = true →
      c.holds q = true) ∧
    ∀ p visits q, Tour p visits q → visits.Pairwise fun earlier later =>
      earlier.1 = later.1 → ∀ i c, (∀ gate ∈ c.condition, gate.Lasting) →
        (i, c) ∈ earlier.1.offers earlier.2 → (i, c) ∈ later.1.offers later.2 := by
  refine ⟨Effect.onward_applyAll, fun s fuel tree p inputs r => Session.exists_displays,
    fun p visits q h => h.onward, fun p q c onward lasting => lasting.holds onward,
    fun p visits q h => ?_⟩
  have rising : Rising (visits.map Prod.snd) :=
    (List.pairwise_append.1 (List.pairwise_cons.1 h.onward).2).1
  refine (List.pairwise_map.1 rising).imp fun onward same i c lasting hoffer => ?_
  exact Node.mem_offers_of_onward onward lasting (same ▸ hoffer)

theorem Tour.never_back_wayside :
    let gate : Condition := .any [.test (.memoryAbove 50),
      .all [.test (.hasArtifact "orb"), .test (.chapterAtLeast 2)]]
    let p := Effect.applyAll {} [.unlockArtifact "orb", .advanceChapter 3]
    (∃ r visits, Session.wayside.start 3 "road" p ["2", "1"] = some r ∧ Tour p visits r.profile ∧
      Rising (p :: (visits.map Prod.snd ++ [r.profile]))) ∧
    gate.Lasting ∧ gate.holds p = true ∧
      gate.holds (Effect.applyAll p [.advanceChapter 1, .damage 7]) = true := by
  intro gate p
  obtain ⟨effects, displayed, tours, gates, -⟩ := never_back
  obtain ⟨r, hr⟩ : ∃ r, Session.wayside.start 3 "road" p ["2", "1"] = some r :=
    Option.isSome_iff_exists.1 (by decide)
  obtain ⟨visits, displays⟩ := displayed _ _ _ _ _ _ hr
  have tour : Tour p (visits ++ []) r.profile := .play hr displays (.done _)
  have lasting : gate.Lasting := by
    refine .any ?_
    simp only [List.forall_mem_cons, List.not_mem_nil, false_imp_iff, implies_true, and_true]
    refine ⟨.test rfl, .all ?_⟩
    simp only [List.forall_mem_cons, List.not_mem_nil, false_imp_iff, implies_true, and_true]
    exact ⟨.test rfl, .test rfl⟩
  have hholds : gate.holds p = true := by decide
  exact ⟨⟨r, _, hr, tour, tours _ _ _ tour⟩, lasting, hholds,
    gates _ _ _ (effects p _) lasting hholds⟩

end Dialogue
