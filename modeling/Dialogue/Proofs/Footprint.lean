import Dialogue.Proofs.Progress
import Dialogue.Proofs.Sorted

/-!
# The footprints of effects

A profile is made up of cells: single flags, the ties to single companions, lists that are kept as a
whole (`Profile.ext_cells`). An effect writes the cells of its footprint and no others
(`Effect.read_of_not_mem`), and what it writes to a cell depends on what was there and on nothing
that any effect writes (`Effect.read_congr`). So effects with disjoint footprints may change places
(`Effect.commute`).
-/

namespace Dialogue

/-! ## Cells -/

/-- The sides of the tie to a companion that effects write one at a time. -/
inductive Bond where
  /-- Loyalty, with its history. -/
  | loyalty
  | trust
  | romance
  /-- Whether the companion is alive, and travels with the player. -/
  | life
  deriving DecidableEq

namespace Bond

abbrev Value : Bond → Type
  | .loyalty => Amount × List String
  | .trust | .romance => Amount
  | .life => Bool × Bool

def read (x : Companion) : (b : Bond) → b.Value
  | .loyalty => (x.loyalty, x.history)
  | .trust => x.trust
  | .romance => x.romance
  | .life => (x.alive, x.active)

end Bond

/-- What no effect writes. -/
structure Rest where
  name : String
  realName : String
  level : Amount
  className : String
  race : String
  maxHp : Amount
  cycle : Count
  grief : Grief
  betrayed : NameSet
  memories : Size
  stranger : Stranger

/-- A part of a profile. -/
inductive Cell where
  | flag (name : String)
  /-- Chivalry, with its deeds. -/
  | chivalry
  /-- Darkness, with its deeds. -/
  | darkness
  | gold
  | experience
  | hp
  | inventory
  | choice (name : String)
  | chapter
  | artifact (name : String)
  | events
  | bond (companion : String) (b : Bond)
  | points (npc : String)
  /-- The log of all betrayals. -/
  | log
  /-- Insight points, with the insights. -/
  | insight
  | fragment (name : String)
  | moment (name : String)
  | memory (name : String)
  | rest
  deriving DecidableEq

namespace Cell

abbrev Value : Cell → Type
  | .flag _ | .artifact _ | .fragment _ | .moment _ | .memory _ => Bool
  | .chivalry | .darkness => Amount × Count
  | .gold | .experience | .hp => Amount
  | .inventory | .log => List String
  | .choice _ => Option String
  | .chapter => Count
  | .events => List StoryEvent
  | .bond _ b => Option b.Value
  | .points _ => Option Amount
  | .insight => Amount × List Amount
  | .rest => Rest

/-- What a profile has in a cell. -/
def read (p : Profile) : (c : Cell) → c.Value
  | .flag name => p.story.hasFlag name
  | .chivalry => (p.player.chivalry, p.player.chivalryDeeds)
  | .darkness => (p.player.darkness, p.player.darknessDeeds)
  | .gold => p.player.gold
  | .experience => p.player.experience
  | .hp => p.player.hp
  | .inventory => p.player.inventory
  | .choice name => p.story.outcome? name
  | .chapter => p.story.chapter
  | .artifact name => p.story.hasArtifact name
  | .events => p.story.events
  | .bond companion b => (p.companions.get? companion).map b.read
  | .points npc => p.betrayals.points.get? npc
  | .log => p.betrayals.log
  | .insight => (p.awakening.points, p.awakening.insights)
  | .fragment name => p.awakening.fragments.contains name
  | .moment name => p.awakening.moments.contains name
  | .memory name => p.memory.recovered.contains name
  | .rest => {
      name := p.player.name
      realName := p.player.realName
      level := p.player.level
      className := p.player.className
      race := p.player.race
      maxHp := p.player.maxHp
      cycle := p.story.cycle
      grief := p.grief
      betrayed := p.betrayals.betrayed
      memories := p.memory.total
      stranger := p.stranger }

end Cell

/-! ## Profiles are made up of their cells -/

attribute [ext] Player Story Companion Companions Betrayals Awakening Memory Profile

theorem Companion.ext_bonds {x y : Companion} (h : ∀ b : Bond, b.read x = b.read y) : x = y := by
  have hloyalty := Prod.mk.inj (h .loyalty)
  have hlife := Prod.mk.inj (h .life)
  exact Companion.ext hlife.1 hlife.2 hloyalty.1 (h .trust) (h .romance) hloyalty.2

/-- Companions are told by their names and by all sides of the ties to them. -/
theorem Companions.ext_bonds {c d : Companions}
    (h : ∀ name (b : Bond), (c.get? name).map b.read = (d.get? name).map b.read) : c = d := by
  refine Companions.ext (Table.ext_get? fun name => ?_)
  have hname := h name
  change c.get? name = d.get? name
  cases hc : c.get? name with
  | none =>
    cases hd : d.get? name with
    | none => rfl
    | some y => simpa [hc, hd] using hname .trust
  | some x =>
    cases hd : d.get? name with
    | none => simpa [hc, hd] using hname .trust
    | some y =>
      refine congrArg some (Companion.ext_bonds fun b => ?_)
      simpa [hc, hd] using hname b

namespace Profile
variable {p q : Profile}

/-- Profiles with the same in every cell are equal. -/
theorem ext_cells (h : ∀ c : Cell, c.read p = c.read q) : p = q := by
  have hrest := h .rest
  have hchivalry := Prod.mk.inj (h .chivalry)
  have hdarkness := Prod.mk.inj (h .darkness)
  have hinsight := Prod.mk.inj (h .insight)
  have hplayer : p.player = q.player :=
    Player.ext (congrArg Rest.name hrest) (congrArg Rest.realName hrest)
      (congrArg Rest.level hrest) (congrArg Rest.className hrest) (congrArg Rest.race hrest)
      (h .gold) (h .experience) (h .hp) (congrArg Rest.maxHp hrest) hchivalry.1 hdarkness.1
      hchivalry.2 hdarkness.2 (h .inventory)
  have hstory : p.story = q.story :=
    Story.ext (NameSet.ext_contains fun name => h (.flag name))
      (Table.ext_get? fun name => h (.choice name)) (h .chapter) (congrArg Rest.cycle hrest)
      (NameSet.ext_contains fun name => h (.artifact name)) (h .events)
  have hcompanions : p.companions = q.companions :=
    Companions.ext_bonds fun name b => h (.bond name b)
  have hbetrayals : p.betrayals = q.betrayals :=
    Betrayals.ext (Table.ext_get? fun npc => h (.points npc)) (congrArg Rest.betrayed hrest)
      (h .log)
  have hawakening : p.awakening = q.awakening :=
    Awakening.ext hinsight.1 hinsight.2 (NameSet.ext_contains fun name => h (.fragment name))
      (NameSet.ext_contains fun name => h (.moment name))
  have hmemory : p.memory = q.memory :=
    Memory.ext (NameSet.ext_contains fun name => h (.memory name))
      (congrArg Rest.memories hrest)
  exact Profile.ext hplayer hstory hcompanions (congrArg Rest.grief hrest) hbetrayals hawakening
    hmemory (congrArg Rest.stranger hrest)

end Profile

/-! ## Footprints -/

/-- The cell of a tie that an effect writes, if the companion has been recruited. -/
def Companions.written (c : Companions) (companion : String) (b : Bond) : List Cell :=
  if c.isRecruited companion then [.bond companion b] else []

namespace Effect

/-- The cells that an effect on a profile writes. -/
def footprint (p : Profile) : Effect → List Cell
  | .setFlag flag | .clearFlag flag => [.flag flag]
  | .addChivalry _ => [.chivalry]
  | .addDarkness _ => [.darkness]
  | .addGold _ => [.gold]
  | .addExperience _ => [.experience]
  | .heal _ | .damage _ => [.hp]
  | .giveItem _ => [.inventory]
  | .recordChoice choice _ => [.choice choice]
  | .advanceChapter _ => [.chapter]
  | .unlockArtifact artifact => [.artifact artifact]
  | .triggerEvent _ _ => [.events]
  | .modifyLoyalty companion _ => p.companions.written companion .loyalty
  | .modifyTrust companion _ => p.companions.written companion .trust
  | .advanceRomance companion => p.companions.written companion .romance
  | .companionDeath companion => p.companions.written companion .life
  | .addBetrayal npc _ | .reduceBetrayal npc _ => [.points npc, .log]
  | .triggerBetrayal npc => [.flag (betrayalFlag npc)]
  | .gainInsight _ => [.insight]
  | .collectFragment fragment => [.fragment fragment]
  | .awakeningMoment moment => [.moment moment]
  | .revealMemory memory => [.memory memory]
  | .triggerDream dream => [.flag (dreamFlag dream)]
  | .unknown => []

end Effect

/-! ## Ties to companions -/

namespace Companions
variable {c d : Companions} {companion name : String} {f : Companion → Companion} {b b' : Bond}

theorem mem_written {cell : Cell} (h : cell ∈ c.written companion b) :
    cell = .bond companion b := by
  unfold written at h
  split at h
  · exact List.mem_singleton.1 h
  · cases h

/-- A change of one side of the tie to a companion leaves the other sides and all other companions
as they are. -/
theorem read_modify_of_not_mem (still : ∀ b' ≠ b, ∀ x, b'.read (f x) = b'.read x)
    (h : Cell.bond name b' ∉ c.written companion b) :
    ((c.modify companion f).get? name).map b'.read = (c.get? name).map b'.read := by
  rw [get?_modify, Option.map_map]
  refine Option.map_congr fun x hx => ?_
  dsimp only [Function.comp_apply]
  split
  · next heq =>
    obtain rfl : name = companion := beq_iff_eq.1 heq
    refine still b' (fun hb => h ?_) x
    rw [written, if_pos (isRecruited_iff.2 ⟨x, hx⟩), hb]
    exact List.mem_singleton_self _
  · rfl

/-- What a change makes of one side of a tie depends on that side only. -/
theorem read_modify_congr (alike : ∀ x y, b.read x = b.read y → b.read (f x) = b.read (f y))
    (same : (c.get? name).map b.read = (d.get? name).map b.read) :
    ((c.modify companion f).get? name).map b.read =
      ((d.modify companion f).get? name).map b.read := by
  rw [get?_modify, get?_modify]
  cases hc : c.get? name with
  | none =>
    cases hd : d.get? name with
    | none => rfl
    | some y => simp [hc, hd] at same
  | some x =>
    cases hd : d.get? name with
    | none => simp [hc, hd] at same
    | some y =>
      have hxy : b.read x = b.read y := by simpa [hc, hd] using same
      simp only [Option.map_some, Option.some_inj]
      split
      · exact alike x y hxy
      · exact hxy

end Companions

/-! ## What is written -/

namespace Effect
variable {p q : Profile} {e e' : Effect} {c : Cell}

/-- Outside the footprint nothing is changed. -/
theorem read_of_not_mem (h : c ∉ e.footprint p) : c.read (e.apply p) = c.read p := by
  cases e with
  | unknown => rfl
  | addChivalry | addDarkness | addGold | addExperience | heal | damage | giveItem
  | advanceChapter | triggerEvent | gainInsight =>
    -- there is only one cell of the kind that is written
    cases c <;> first | exact (h (List.mem_singleton_self _)).elim | rfl
  | setFlag | triggerBetrayal | triggerDream =>
    cases c with
    | flag =>
      refine Sorted.contains_insert_of_ne ?_ _
      rintro rfl
      exact h (List.mem_singleton_self _)
    | _ => rfl
  | clearFlag =>
    cases c with
    | flag =>
      refine Sorted.contains_erase_of_ne ?_ _
      rintro rfl
      exact h (List.mem_singleton_self _)
    | _ => rfl
  | recordChoice =>
    cases c with
    | choice =>
      refine Table.get?_set_of_ne ?_ _ _
      rintro rfl
      exact h (List.mem_singleton_self _)
    | _ => rfl
  | unlockArtifact =>
    cases c with
    | artifact =>
      refine Sorted.contains_insert_of_ne ?_ _
      rintro rfl
      exact h (List.mem_singleton_self _)
    | _ => rfl
  | modifyLoyalty | modifyTrust | advanceRomance | companionDeath =>
    cases c with
    | bond =>
      refine Companions.read_modify_of_not_mem (fun b hb x => ?_) h
      cases b <;> first | exact (hb rfl).elim | rfl
    | _ => rfl
  | addBetrayal | reduceBetrayal =>
    cases c with
    | points =>
      refine Table.get?_set_of_ne ?_ _ _
      rintro rfl
      exact h List.mem_cons_self
    | log => exact (h (List.mem_cons_of_mem _ (List.mem_singleton_self _))).elim
    | _ => rfl
  | collectFragment =>
    cases c with
    | fragment =>
      refine Sorted.contains_insert_of_ne ?_ _
      rintro rfl
      exact h (List.mem_singleton_self _)
    | _ => rfl
  | awakeningMoment =>
    cases c with
    | moment =>
      refine Sorted.contains_insert_of_ne ?_ _
      rintro rfl
      exact h (List.mem_singleton_self _)
    | _ => rfl
  | revealMemory =>
    cases c with
    | memory =>
      refine Sorted.contains_insert_of_ne ?_ _
      rintro rfl
      exact h (List.mem_singleton_self _)
    | _ => rfl

/-- What an effect makes of a cell depends on what is in the cell, and on what no effect writes. -/
theorem read_congr (h : c ∈ e.footprint p) (same : c.read p = c.read q)
    (rest : Cell.rest.read p = Cell.rest.read q) : c.read (e.apply p) = c.read (e.apply q) := by
  cases e with
  | unknown => cases h
  | setFlag | triggerBetrayal | triggerDream | unlockArtifact | collectFragment | awakeningMoment
  | revealMemory =>
    obtain rfl := List.mem_singleton.1 h
    exact (Sorted.contains_insert_self ..).trans (Sorted.contains_insert_self ..).symm
  | clearFlag =>
    obtain rfl := List.mem_singleton.1 h
    exact (Sorted.contains_erase_self ..).trans (Sorted.contains_erase_self ..).symm
  | addChivalry amount | addDarkness amount =>
    obtain rfl := List.mem_singleton.1 h
    exact congrArg (fun v : Amount × Count => (v.1.plus amount.val, v.2.plus 1)) same
  | addGold amount | addExperience amount =>
    obtain rfl := List.mem_singleton.1 h
    exact congrArg (Ranged.plus · amount.val) same
  | heal | damage =>
    obtain rfl := List.mem_singleton.1 h
    -- hit points stay below the maximum, which no effect writes
    have hmax : p.player.maxHp = q.player.maxHp := congrArg Rest.maxHp rest
    have hhp : p.player.hp = q.player.hp := same
    simp only [Cell.read, apply, Player.adjustHp, hmax, hhp]
  | giveItem item =>
    obtain rfl := List.mem_singleton.1 h
    exact congrArg (· ++ [item]) same
  | recordChoice choice outcome =>
    obtain rfl := List.mem_singleton.1 h
    exact (Table.get?_set_self ..).trans (Table.get?_set_self ..).symm
  | advanceChapter chapter =>
    obtain rfl := List.mem_singleton.1 h
    exact congrArg (max · chapter) same
  | triggerEvent event detail =>
    obtain rfl := List.mem_singleton.1 h
    exact congrArg (· ++ [StoryEvent.mk event (detail.getD "")]) same
  | modifyLoyalty companion amount =>
    obtain rfl := Companions.mem_written h
    refine Companions.read_modify_congr (fun x y hxy => ?_) same
    obtain ⟨hloyalty, hhistory⟩ := Prod.mk.inj hxy
    simp only [Bond.read, Companion.adjustLoyalty, hloyalty, hhistory]
  | modifyTrust companion amount =>
    obtain rfl := Companions.mem_written h
    refine Companions.read_modify_congr (fun x y hxy => ?_) same
    have htrust : x.trust = y.trust := hxy
    simp only [Bond.read, Companion.adjustTrust, htrust]
  | advanceRomance companion =>
    obtain rfl := Companions.mem_written h
    refine Companions.read_modify_congr (fun x y hxy => ?_) same
    have hromance : x.romance = y.romance := hxy
    simp only [Bond.read, Companion.deepenRomance, hromance]
  | companionDeath companion =>
    obtain rfl := Companions.mem_written h
    exact Companions.read_modify_congr (fun _ _ _ => rfl) same
  | addBetrayal npc amount | reduceBetrayal npc amount =>
    rcases List.mem_cons.1 h with rfl | hlog
    · have hpoints : p.betrayals.pointsOf npc = q.betrayals.pointsOf npc :=
        congrArg (Option.getD · 0) same
      simp only [Cell.read, apply, Betrayals.add, Betrayals.reduce, Table.get?_set_self, hpoints]
    · obtain rfl := List.mem_singleton.1 hlog
      exact congrArg (· ++ [_]) same
  | gainInsight amount =>
    obtain rfl := List.mem_singleton.1 h
    exact congrArg (fun v : Amount × List Amount => (v.1.plus amount.val, v.2 ++ [amount])) same

/-! ## Effects in another order -/

theorem rest_not_mem_footprint (p : Profile) (e : Effect) : Cell.rest ∉ e.footprint p := by
  cases e with
  | modifyLoyalty | modifyTrust | advanceRomance | companionDeath =>
    intro h
    cases Companions.mem_written h
  | _ => simp [footprint]

/-- Nobody is recruited by an effect, nor leaves the roster. -/
theorem isRecruited_apply (p : Profile) (e : Effect) (companion : String) :
    (e.apply p).companions.isRecruited companion = p.companions.isRecruited companion :=
  (e.onward p).companions.isRecruited companion

theorem footprint_apply (p : Profile) (e e' : Effect) :
    e.footprint (e'.apply p) = e.footprint p := by
  cases e with
  | modifyLoyalty | modifyTrust | advanceRomance | companionDeath =>
    simp only [footprint, Companions.written, isRecruited_apply]
  | _ => rfl

theorem notice_apply (p : Profile) (e e' : Effect) : e.notice (e'.apply p) = e.notice p := by
  cases e with
  | modifyLoyalty | modifyTrust | advanceRomance => simp only [notice, isRecruited_apply]
  | _ => rfl

/-- An effect writes the same to its footprint whether another effect comes before or after it. -/
theorem read_commute (disjoint : (e.footprint p).Disjoint (e'.footprint p))
    (h : c ∈ e.footprint p) :
    c.read (e'.apply (e.apply p)) = c.read (e.apply (e'.apply p)) := by
  have hnot : c ∉ e'.footprint p := disjoint h
  have hsame : c.read p = c.read (e'.apply p) := (read_of_not_mem hnot).symm
  have hrest : Cell.rest.read p = Cell.rest.read (e'.apply p) :=
    (read_of_not_mem (rest_not_mem_footprint p e')).symm
  calc c.read (e'.apply (e.apply p))
      = c.read (e.apply p) := read_of_not_mem (footprint_apply p e' e ▸ hnot)
    _ = c.read (e.apply (e'.apply p)) := read_congr h hsame hrest

theorem commute (disjoint : (e.footprint p).Disjoint (e'.footprint p)) :
    e'.apply (e.apply p) = e.apply (e'.apply p) := by
  refine Profile.ext_cells fun c => ?_
  by_cases h : c ∈ e.footprint p
  · exact read_commute disjoint h
  by_cases h' : c ∈ e'.footprint p
  · exact (read_commute (List.disjoint_symm disjoint) h').symm
  · rw [read_of_not_mem (footprint_apply p e' e ▸ h'), read_of_not_mem h,
      read_of_not_mem (footprint_apply p e e' ▸ h), read_of_not_mem h']

/-- **Effects keep to their footprints.** The cells make up the profile; an effect changes none
outside its footprint; and two effects with disjoint footprints come to the same profile in either
order, and are told of by the same notices. -/
theorem keeps_to_footprint :
    (∀ p q : Profile, (∀ c : Cell, c.read p = c.read q) → p = q) ∧
    (∀ (p : Profile) (e : Effect), ∀ c ∉ e.footprint p, c.read (e.apply p) = c.read p) ∧
    ∀ (p : Profile) (e e' : Effect), (e.footprint p).Disjoint (e'.footprint p) →
      e'.apply (e.apply p) = e.apply (e'.apply p) ∧ e.notice (e'.apply p) = e.notice p ∧
        e'.notice (e.apply p) = e'.notice p :=
  ⟨fun _ _ => Profile.ext_cells, fun _ _ _ => read_of_not_mem, fun p e e' disjoint =>
    ⟨commute disjoint, notice_apply p e e', notice_apply p e' e⟩⟩

-- all betrayals share one log, which tells in what order they came
example : applyAll {} [.addBetrayal "Rook" 1, .addBetrayal "Jay" 1] ≠
    applyAll {} [.addBetrayal "Jay" 1, .addBetrayal "Rook" 1] := by decide

theorem keeps_to_footprint_companion :
    let p : Profile := { companions := Companions.recruit {} "Ada" }
    let e : Effect := .modifyLoyalty "Ada" 60
    let e' : Effect := .companionDeath "Ada"
    let q : Profile := (Effect.clearFlag "met").apply ((Effect.setFlag "met").apply p)
    ((∀ c : Cell, c.read q = c.read p) ∧ q = p) ∧
      e.footprint p = [.bond "Ada" .loyalty] ∧ e'.footprint p = [.bond "Ada" .life] ∧
      Cell.gold ∉ e.footprint p ∧ Cell.gold.read (e.apply p) = 0 ∧
      (e.footprint p).Disjoint (e'.footprint p) ∧ e.apply p ≠ p ∧
      e'.apply (e.apply p) = e.apply (e'.apply p) ∧ e.notice (e'.apply p) = e.notice p := by
  intro p e e' q
  obtain ⟨determined, unchanged, commutes⟩ := keeps_to_footprint
  have hcells : ∀ c : Cell, c.read q = c.read p := by
    intro c
    by_cases hc : c = .flag "met"
    · subst hc
      decide
    · have hnot : c ∉ [Cell.flag "met"] := fun h => hc (List.mem_singleton.1 h)
      exact (unchanged _ (.clearFlag "met") c hnot).trans (unchanged p (.setFlag "met") c hnot)
  have hfoot : e.footprint p = [.bond "Ada" .loyalty] := by decide
  have hfoot' : e'.footprint p = [.bond "Ada" .life] := by decide
  have hgold : Cell.gold ∉ e.footprint p := by decide
  have disjoint : (e.footprint p).Disjoint (e'.footprint p) := by
    rw [hfoot, hfoot']
    simp
  obtain ⟨hcommute, hnotice, -⟩ := commutes p e e' disjoint
  exact ⟨⟨hcells, determined q p hcells⟩, hfoot, hfoot', hgold, unchanged p e .gold hgold, disjoint,
    by decide, hcommute, hnotice⟩

end Effect

end Dialogue
