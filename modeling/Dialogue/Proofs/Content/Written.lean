import Dialogue.Proofs.Content.Listing
import Dialogue.Proofs.Profile

/-!
# Written content is read back

Every test, effect, condition, choice and node is told by what is written of it, however deep it is
(`conveys`), and so are trees and content whose nodes stand under their own ids. Kinds stand in the
vocabulary at the position of their constructor. Conditions are taken by induction on the depth that
is left for them, as the reader goes.
-/

namespace Dialogue
open Json

namespace Test

theorem depth_write (t : Test) : t.write.depth = 1 := by
  cases t <;> rfl

theorem spells (t : Test) : Spells kinds t.ctorIdx t.write t := by
  cases t with
  | hasFlag | lacksFlag | hasClass | hasRace | hasArtifact | madeChoice | hasCompanion
  | companionAlive | companionDead | griefStage | betrayedBy | forgave | betrayalPending
  | hasFragment | experienced | hasMemory =>
    exact ⟨_, _, rfl, rfl, .one (.text _) (by decide)⟩
  | alignmentAbove | alignmentBelow | levelAbove | levelBelow | goldAbove | awakeningAbove
  | memoryAbove | opennessAbove | opennessBelow =>
    exact ⟨_, _, rfl, rfl, .one (.amount _) (by decide)⟩
  | chapterAtLeast | cycleAbove | encountersAbove =>
    exact ⟨_, _, rfl, rfl, .one (.count _) (by decide)⟩
  | insightsAtLeast => exact ⟨_, _, rfl, rfl, .one (.size _) (by decide)⟩
  | loyaltyAbove | trustAbove | romanceAbove =>
    exact ⟨_, _, rfl, rfl, .two (.text _) (.amount _) (by decide) (by decide) (by decide)⟩
  | anyCompanionActive | grieving | griefCompleted | truthRevealed | knowsStranger =>
    exact ⟨_, _, rfl, rfl, .plain⟩
end Test

namespace Effect

theorem nodup_kinds : (kinds.map (·.name)).Nodup := by decide

theorem spells {e : Effect} (he : e ≠ .unknown) : Spells kinds e.ctorIdx e.write e := by
  cases e with
  | setFlag | clearFlag | giveItem | unlockArtifact | advanceRomance | companionDeath
  | triggerBetrayal | collectFragment | awakeningMoment | revealMemory | triggerDream =>
    exact ⟨_, _, rfl, rfl, .one (.text _) (by decide)⟩
  | addChivalry | addDarkness | addGold | addExperience | heal | damage | gainInsight =>
    exact ⟨_, _, rfl, rfl, .one (.amount _) (by decide)⟩
  | advanceChapter => exact ⟨_, _, rfl, rfl, .one (.count _) (by decide)⟩
  | recordChoice =>
    exact ⟨_, _, rfl, rfl, .two (.text _) (.text _) (by decide) (by decide) (by decide)⟩
  | modifyLoyalty | modifyTrust | addBetrayal | reduceBetrayal =>
    exact ⟨_, _, rfl, rfl, .two (.text _) (.amount _) (by decide) (by decide) (by decide)⟩
  | triggerEvent event detail =>
    have hdetail : Conveys (readOption readText) (ofOption .text detail) detail :=
      .option fun s _ => ⟨.text s, text_ne_null s⟩
    have hset : Conveys (operand "detail" (readOption readText)
        fun a (s : String × Option String) => (s.1, a)).read _ _ := .operand hdetail
    refine ⟨_, _, rfl, rfl, .of_tells (t := (event, detail)) ?_ (by decide) (by simp [kindField])⟩
    exact .written (.operand (.text event)) (.written hset .nil)
  | unknown => exact absurd rfl he

theorem conveys (e : Effect) : Conveys Effect.read e.write e := by
  cases he : decide (e = .unknown) with
  | true =>
    rw [of_decide_eq_true he]
    exact .tagged_unknown (by decide)
  | false => exact (spells (of_decide_eq_false he)).conveys nodup_kinds

end Effect

namespace Condition

/-- The kinds of conditions are those of tests and three more. -/
theorem kinds_names (inner : Doc → Reading Condition) :
    (kinds inner).map (·.name) = Test.kinds.map (·.name) ++ ["all", "any", "not"] := by
  rw [kinds, List.map_append, List.map_map]
  rfl

theorem nodup_kinds (inner : Doc → Reading Condition) :
    ((kinds inner).map (·.name)).Nodup := by
  rw [kinds_names]
  decide

theorem writeList_eq (cs : List Condition) : writeList cs = cs.map write := by
  induction cs with
  | nil => rfl
  | cons c cs ih => rw [writeList, ih, List.map_cons]

theorem conveys_readList {read : Doc → Reading Condition} {cs : List Condition}
    (h : ∀ c ∈ cs, Conveys read c.write c) :
    Conveys (readList read) (.seq (writeList cs)) cs := by
  rw [writeList_eq]
  exact .list h

theorem depth_write_pos (c : Condition) : 0 < c.write.depth := by
  cases c with
  | test t => rw [write, t.depth_write]; exact Nat.one_pos
  | all | any | not | unknown => exact Nat.succ_pos _

/-- Conditions inside others are told wherever those are: each takes one container at least. -/
theorem conveys_within {depth : Nat} {c : Condition} (nested : Bool) (h : c.write.depth ≤ depth) :
    Conveys (readWithin depth nested) c.write c := by
  induction depth generalizing c nested with
  | zero => exact absurd c.depth_write_pos (by omega)
  | succ depth ih =>
    have hlist : ∀ cs : List Condition, (Json.seq (writeList cs)).depth ≤ depth →
        Conveys (readList (readWithin depth true)) (.seq (writeList cs)) cs := by
      intro cs hcs
      refine conveys_readList fun c hc => ih true ?_
      rw [writeList_eq] at hcs
      exact itemsDepth_le.1 (Nat.le_of_succ_le hcs) _ (List.mem_map_of_mem hc)
    cases c with
    | test t =>
      obtain ⟨k, operands, hk, hwrite, htakes⟩ := t.spells
      have hmem : k.map Condition.test ∈ kinds (readWithin depth true) :=
        List.mem_append_left _ (List.mem_map_of_mem (List.mem_of_getElem? hk))
      rw [write, hwrite]
      exact .tagged (find?_of_nodup_keys (nodup_kinds _) hmem) (htakes.map Condition.test)
    | all cs =>
      have hcs := depth_writeTagged_le.1 h _ List.mem_cons_self
      refine Spells.conveys (i := 37) ⟨_, _, rfl, rfl, ?_⟩ (nodup_kinds _)
      exact .one (hlist cs hcs) (by decide)
    | any cs =>
      have hcs := depth_writeTagged_le.1 h _ List.mem_cons_self
      refine Spells.conveys (i := 38) ⟨_, _, rfl, rfl, ?_⟩ (nodup_kinds _)
      exact .one (hlist cs hcs) (by decide)
    | not c =>
      have hc := depth_writeTagged_le.1 h _ List.mem_cons_self
      refine Spells.conveys (i := 39) ⟨_, _, rfl, rfl, ?_⟩ (nodup_kinds _)
      exact .one (ih true hc) (by decide)
    | unknown =>
      refine .tagged_unknown ?_
      rw [kinds_names]
      decide

theorem conveys (c : Condition) : Conveys Condition.read c.write c where
  sound := (conveys_within false (Nat.le_refl _)).sound
  reads {level} hfit := by
    have hdepth : level + c.write.depth ≤ maxDepth := hfit
    exact (conveys_within false (by omega : c.write.depth ≤ maxDepth + 1)).reads hfit

end Condition

theorem Color.meaning_name (c : Color) : Color.names.meaning c.name = .ok c := by
  cases c <;> rfl

theorem Color.conveys (c : Color) : Conveys Color.names.read (.text c.name) c :=
  .vocabulary c.meaning_name

theorem Tone.meaning_name (t : Tone) : Tone.names.meaning t.name = .ok t := by
  cases t <;> rfl

theorem Condition.write_ne_null (c : Condition) : c.write ≠ .null := by
  intro h
  have := c.depth_write_pos
  rw [h] at this
  cases this

theorem Choice.conveys (c : Choice) : Conveys Choice.format.read (Choice.format.write c) c := by
  refine Format.Restores.conveys ?_ (by decide)
  exact .cons (.needed (.of (.text _)) rfl) <| .cons (.needed (.of (.text _)) rfl) <|
    .cons (.of (.vocabulary c.tone.meaning_name)) <|
    .cons (.option (fun x _ => ⟨x.conveys, x.write_ne_null⟩) rfl) <|
    .cons (.list (fun e _ => e.conveys) rfl) <| .cons (.of (.bool _)) .nil

theorem Node.conveys (n : Node) : Conveys Node.format.read (Node.format.write n) n := by
  refine Format.Restores.conveys ?_ (by decide)
  exact .cons (.needed (.of (.text _)) rfl) <|
    .cons (.option (fun s _ => ⟨.text s, text_ne_null s⟩) rfl) <| .cons (.of (.texts _)) <|
    .cons (.option (fun c _ => ⟨c.conveys, text_ne_null _⟩) rfl) <|
    .cons (.list (fun c _ => c.conveys) rfl) <|
    .cons (.option (fun s _ => ⟨.text s, text_ne_null s⟩) rfl) <| .cons (.of (.bool _)) <|
    .cons (.list (fun e _ => e.conveys) rfl) .nil

theorem Tree.conveys {t : Tree} (h : t.Keyed) :
    Conveys Tree.format.read (Tree.format.write t) t := by
  have hrestores : Format.Restores t Tree.format.fields Tree.format.start
      (Tree.withListing t.listing ⟨t.id, t.name, t.root, {}⟩) :=
    .cons (.needed (.of (.text _)) rfl) <| .cons (.of (.text _)) <|
    .cons (.needed (.of (.text _)) rfl) <| .cons (.of (.list fun n _ => n.conveys)) .nil
  rw [h.withListing_listing] at hrestores
  exact hrestores.conveys (by decide)

theorem Content.conveys {c : Content} (h : ∀ t ∈ c.trees, t.Keyed) :
    Conveys Content.format.read (Content.format.write c) c := by
  refine Format.Restores.conveys ?_ (by decide)
  exact .cons (.of (.entries fun e _ => Color.conveys e.2)) <|
    .cons (.of (.list fun t ht => Tree.conveys (h t ht))) .nil

end Dialogue
