import Dialogue.Proofs.Content.Written
import Dialogue.Proofs.Json.Frames

/-!
# Content in a richer vocabulary

Content may speak of conditions, effects and colors that are not known here. Where one of them takes
the place of a condition, effect or color of a document, `Content.Rewords` says what becomes of the
content: the value at that place is unknown, or white, and nothing else changes, whatever other
members the unfamiliar object has. Reading follows (`Content.read_reworded`).
-/

namespace Dialogue
open Json

namespace Condition

/-- The names of all kinds of conditions, in the order of their positions. -/
def kindNames : List String := Test.kinds.map (·.name) ++ ["all", "any", "not"]

/-- Changes the condition at a position among several. -/
def modifyAt (i : Nat) (f : Condition → Condition) : Condition → Condition
  | .all cs => .all (cs.modify i f)
  | .any cs => .any (cs.modify i f)
  | c => c

/-- Changes the condition that is negated. -/
def modifyInner (f : Condition → Condition) : Condition → Condition
  | .not c => .not (f c)
  | c => c

/-- A condition in the document, or one inside it, gives way to an unfamiliar one. -/
inductive Rewords : (nested : Bool) → Rewording Condition
  | here {nested members close d'} : Unfamiliar kindNames d' →
    Rewords nested (.map members close) d' fun _ => .unknown
  | all {nested C before e e' after close f} :
    OperandFrame kindNames "all" "conditions" nested C → Rewords true e e' f →
    Rewords nested (C (.seq (before ++ e :: after) close)) (C (.seq (before ++ e' :: after) close))
      (modifyAt before.length f)
  | any {nested C before e e' after close f} :
    OperandFrame kindNames "any" "conditions" nested C → Rewords true e e' f →
    Rewords nested (C (.seq (before ++ e :: after) close)) (C (.seq (before ++ e' :: after) close))
      (modifyAt before.length f)
  | not {nested C e e' f} :
    OperandFrame kindNames "not" "condition" nested C → Rewords true e e' f →
    Rewords nested (C e) (C e') (modifyInner f)

section
variable {nested : Bool} {d d' : Doc} {f : Condition → Condition}

theorem Rewords.readingFlaw (h : Rewords nested d d' f) (hd : d.readingFlaw = none) :
    d'.readingFlaw = none := by
  induction h with
  | here hd' => exact hd'.readingFlaw
  | all hC _ ih | any hC _ ih => exact hC.readingFlaw hd fun he => readingFlaw_seq_frame he ih
  | not hC _ ih => exact hC.readingFlaw hd ih

theorem Rewords.present (h : Rewords nested d d' f) : d.Present ∧ d'.Present := by
  have hseq (items : List Doc) (close : Option Flaw) : (Doc.seq items close).Present :=
    ⟨nofun, nofun⟩
  have hmap (members : List (Key × Doc)) (close : Option Flaw) : (Doc.map members close).Present :=
    ⟨nofun, nofun⟩
  have hoperand {kind field : String} {C : Doc → Doc} {e : Doc}
      (hC : OperandFrame kindNames kind field nested C) : (C e).Present := by
    cases hC with
    | member => exact hmap ..
    | item => exact hseq ..
  cases h with
  | here hd' =>
    cases hd'
    exact ⟨hmap .., hmap ..⟩
  | all hC | any hC | not hC => exact ⟨hoperand hC, hoperand hC⟩

/-- One of several conditions that are taken together changes with its document. -/
theorem readWithin_several {depth : Nat} {kind : String} {make : List Condition → Condition}
    {C : Doc → Doc} {before after : List Doc} {e e' : Doc} {close : Option Flaw} {c : Condition}
    (hkind : ∀ inner, Kind.one "Condition" kind "conditions" (readList inner) make ∈ kinds inner)
    (hmake : ∀ cs, modifyAt before.length f (make cs) = make (cs.modify before.length f))
    (hC : OperandFrame kindNames kind "conditions" nested C)
    (hflaw : e.readingFlaw = none → e'.readingFlaw = none)
    (hinner : ∀ {depth c}, Condition.readWithin depth true e = .ok c →
      Condition.readWithin depth true e' = .ok (f c))
    (hread : readWithin depth nested (C (.seq (before ++ e :: after) close)) = .ok c) :
    readWithin depth nested (C (.seq (before ++ e' :: after) close)) =
      .ok (modifyAt before.length f c) := by
  obtain _ | depth := depth
  · cases hread
  · rw [kindNames, ← kinds_names (Condition.readWithin depth true)] at hC
    obtain ⟨hseq, cs, hcs, rfl, hframe⟩ :=
      readTagged_frame (nodup_kinds _) (hkind _) (by decide) hC hread
    obtain ⟨c, hc, hlist⟩ := readList_frame hcs
    rw [hmake]
    exact hframe _ _ (readingFlaw_seq_frame hseq hflaw) (hlist e' f (hinner hc))

theorem readWithin_not {depth : Nat} {C : Doc → Doc} {e e' : Doc} {c : Condition}
    (hC : OperandFrame kindNames "not" "condition" nested C)
    (hflaw : e.readingFlaw = none → e'.readingFlaw = none)
    (hinner : ∀ {depth c}, Condition.readWithin depth true e = .ok c →
      Condition.readWithin depth true e' = .ok (f c))
    (hread : readWithin depth nested (C e) = .ok c) :
    readWithin depth nested (C e') = .ok (modifyInner f c) := by
  obtain _ | depth := depth
  · cases hread
  · rw [kindNames, ← kinds_names (Condition.readWithin depth true)] at hC
    obtain ⟨he, c, hc, rfl, hframe⟩ := readTagged_frame (nodup_kinds _)
      (List.mem_append_right _ (.tail _ (.tail _ (.head _)))) (by decide) hC hread
    exact hframe _ _ (hflaw he) (hinner hc)

theorem readWithin_unfamiliar {depth : Nat} {c : Condition} (hd' : Unfamiliar kindNames d')
    (hread : readWithin depth nested d = .ok c) :
    readWithin depth nested d' = .ok .unknown := by
  obtain _ | depth := depth
  · cases hread
  · rw [kindNames, ← kinds_names (Condition.readWithin depth true)] at hd'
    exact hd'.readTagged_eq

theorem Rewords.readWithin (h : Rewords nested d d' f) {depth : Nat} {c : Condition}
    (hread : Condition.readWithin depth nested d = .ok c) :
    Condition.readWithin depth nested d' = .ok (f c) := by
  induction h generalizing depth c with
  | here hd' => exact readWithin_unfamiliar hd' hread
  | all hC hrewords ih =>
    exact readWithin_several (fun _ => List.mem_append_right _ (.head _)) (fun _ => rfl) hC
      hrewords.readingFlaw ih hread
  | any hC hrewords ih =>
    exact readWithin_several (fun _ => List.mem_append_right _ (.tail _ (.head _))) (fun _ => rfl)
      hC hrewords.readingFlaw ih hread
  | not hC hrewords ih => exact readWithin_not hC hrewords.readingFlaw ih hread

end

theorem rewords_follows : (Rewords false).Follows Condition.read := fun h => h.readWithin

end Condition

/-- An effect in the document gives way to an unfamiliar one. -/
inductive Effect.Rewords : Rewording Effect
  | here {members close d'} : Unfamiliar (Effect.kinds.map (·.name)) d' →
    Effect.Rewords (.map members close) d' fun _ => .unknown

theorem Effect.rewords_follows : Rewording.Follows Effect.read Effect.Rewords := by
  rintro d d' f e ⟨hd'⟩ -
  exact hd'.readTagged_eq

/-- The name of a color gives way to a name of none. -/
inductive Color.Rewords : Rewording Color
  | here {s s'} : s' ∉ Color.names.names.map Prod.fst →
    Color.Rewords (.text s) (.text s') fun _ => .white

theorem Color.Rewords.present {d d' : Doc} {f : Color → Color} (h : Color.Rewords d d' f) :
    d.Present ∧ d'.Present := by
  cases h
  exact ⟨⟨nofun, nofun⟩, ⟨nofun, nofun⟩⟩

theorem Color.rewords_follows : Rewording.Follows Color.names.read Color.Rewords := by
  rintro d d' f c @⟨s, s', hs'⟩ -
  have hnone : Color.names.names.lookup s' = none := by
    refine List.lookup_eq_none_iff.2 fun m hm => ?_
    simpa using fun heq : s' = m.1 => hs' (heq ▸ List.mem_map_of_mem hm)
  simp only [Vocabulary.read, Vocabulary.meaning, hnone]
  rfl

/-! ## Choices, nodes and trees -/

/-- Something in the document of a choice gives way to something unfamiliar. -/
inductive Choice.Rewords : Rewording Choice
  | condition {C e e' f} : Frame Choice.format.names "condition" C →
    Condition.Rewords false e e' f →
    Choice.Rewords (C e) (C e') fun c => { c with condition := c.condition.map f }
  | effects {C e e' f} : Frame Choice.format.names "effects" C →
    Rewording.Item Effect.Rewords e e' f →
    Choice.Rewords (C e) (C e') fun c => { c with effects := f c.effects }

theorem Choice.rewords_follows : Rewording.Follows Choice.format.read Choice.Rewords := by
  intro d d' f c hr hread
  cases hr with
  | condition hC he =>
    obtain ⟨o, ho, hframe⟩ := Format.read_field_frame (·.condition)
      (fun a c => { c with condition := a }) (by decide)
      ⟨_, .tail _ (.tail _ (.tail _ (.head _))), rfl, rfl⟩ (fun _ _ => rfl) (fun _ _ _ => rfl)
      (by simp [Choice.format, Field.Commutes.of]) hC hread
    exact hframe _ _ (Condition.rewords_follows.option he he.present.1 he.present.2 ho)
  | effects hC he =>
    obtain ⟨l, hl, hframe⟩ := Format.read_field_frame (·.effects)
      (fun a c => { c with effects := a }) (by decide)
      ⟨_, .tail _ (.tail _ (.tail _ (.tail _ (.head _)))), rfl, rfl⟩ (fun _ _ => rfl)
      (fun _ _ _ => rfl) (by simp [Choice.format, Field.Commutes.of]) hC hread
    exact hframe _ _ (Effect.rewords_follows.item he hl)

/-- Something in the document of a node gives way to something unfamiliar. -/
inductive Node.Rewords : Rewording Node
  | color {C e e' f} : Frame Node.format.names "text_color" C → Color.Rewords e e' f →
    Node.Rewords (C e) (C e') fun n => { n with color := n.color.map f }
  | choices {C e e' f} : Frame Node.format.names "choices" C →
    Rewording.Item Choice.Rewords e e' f →
    Node.Rewords (C e) (C e') fun n => { n with choices := f n.choices }
  | effects {C e e' f} : Frame Node.format.names "effects" C →
    Rewording.Item Effect.Rewords e e' f →
    Node.Rewords (C e) (C e') fun n => { n with effects := f n.effects }

theorem Node.rewords_follows : Rewording.Follows Node.format.read Node.Rewords := by
  intro d d' f n hr hread
  cases hr with
  | color hC he =>
    obtain ⟨o, ho, hframe⟩ := Format.read_field_frame (·.color)
      (fun a n => { n with color := a }) (by decide)
      ⟨_, .tail _ (.tail _ (.tail _ (.head _))), rfl, rfl⟩ (fun _ _ => rfl) (fun _ _ _ => rfl)
      (by simp [Node.format, Field.Commutes.of]) hC hread
    exact hframe _ _ (Color.rewords_follows.option he he.present.1 he.present.2 ho)
  | choices hC he =>
    obtain ⟨l, hl, hframe⟩ := Format.read_field_frame (·.choices)
      (fun a n => { n with choices := a }) (by decide)
      ⟨_, .tail _ (.tail _ (.tail _ (.tail _ (.head _)))), rfl, rfl⟩ (fun _ _ => rfl)
      (fun _ _ _ => rfl) (by simp [Node.format, Field.Commutes.of]) hC hread
    exact hframe _ _ (Choice.rewords_follows.item he hl)
  | effects hC he =>
    obtain ⟨l, hl, hframe⟩ := Format.read_field_frame (·.effects)
      (fun a n => { n with effects := a }) (by decide)
      ⟨_, .tail _ (.tail _ (.tail _ (.tail _ (.tail _ (.tail _ (.tail _ (.head _))))))), rfl, rfl⟩
      (fun _ _ => rfl) (fun _ _ _ => rfl) (by simp [Node.format, Field.Commutes.of]) hC hread
    exact hframe _ _ (Effect.rewords_follows.item he hl)

/-- Something in a node of the document gives way to something unfamiliar. The nodes of the document
make up the tree; of nodes with one id, the last counts. -/
inductive Tree.Rewords : Rewording Tree
  | nodes {C docs close e' f nodes} : Frame Tree.format.names "nodes" C →
    docs.mapM Node.format.read = .ok nodes →
    Rewording.Item Node.Rewords (.seq docs close) e' f →
    Tree.Rewords (C (.seq docs close)) (C e') (Tree.withListing (f nodes))

theorem Tree.rewords_follows : Rewording.Follows Tree.format.read Tree.Rewords := by
  intro d d' f t hr hread
  cases hr with
  | @nodes C docs close e' f nodes hC hnodes he =>
    obtain ⟨l, hl, hframe⟩ := Format.read_frame (by decide)
      ⟨_, .tail _ (.tail _ (.tail _ (.head _))), rfl, rfl⟩ hC hread
    obtain ⟨nodes', hnodes', hclose⟩ := exists_of_bind_ok hl
    obtain rfl : nodes = nodes' := Except.ok.inj (hnodes.symm.trans hnodes')
    obtain ⟨_, -, hclose⟩ := exists_of_bind_ok hclose
    cases hclose
    have hcomm : ∀ g ∈ Tree.format.fields, g.name ≠ "nodes" →
        g.Commutes (Tree.withListing (f nodes)) := by
      simp only [Tree.format, List.forall_mem_cons, Field.commutes_needed]
      exact ⟨fun _ => .of fun _ _ => rfl, fun _ => .of fun _ _ => rfl, fun _ => .of fun _ _ => rfl,
        fun h => absurd rfl h, List.forall_mem_nil _⟩
    exact hframe _ _ _ (Node.rewords_follows.item he hl) (fun _ => rfl) hcomm

/-- Something in the document of content gives way to something unfamiliar. -/
inductive Content.Rewords : Rewording Content
  | speakers {C before key after close e e' f entries} : Frame Content.format.names "speakers" C →
    (before ++ (key, e) :: after).mapM (readMember Color.names.read) = .ok entries →
    Color.Rewords e e' f →
    Content.Rewords (C (.map (before ++ (key, e) :: after) close))
      (C (.map (before ++ (key, e') :: after) close)) fun c =>
        { c with speakers := Sorted.ofList (entries.modify before.length fun m => (m.1, f m.2)) }
  | trees {C e e' f} : Frame Content.format.names "trees" C →
    Rewording.Item Tree.Rewords e e' f →
    Content.Rewords (C e) (C e') fun c => { c with trees := f c.trees }

theorem Content.rewords_follows : Rewording.Follows Content.format.read Content.Rewords := by
  intro d d' f c hr hread
  cases hr with
  | @speakers C before key after close e e' f entries hC hentries he =>
    obtain ⟨t, ht, hframe⟩ := Format.read_frame (by decide) ⟨_, .head _, rfl, rfl⟩ hC hread
    obtain ⟨a, ha, htable⟩ := readTable_frame hentries ht
    have ht' := htable e' f (Color.rewords_follows he ha)
    refine hframe _ _ (fun c => { c with speakers := _ }) ht' (fun _ => rfl) ?_
    simp [Content.format, Field.Commutes.of]
  | trees hC he =>
    obtain ⟨l, hl, hframe⟩ := Format.read_field_frame (·.trees)
      (fun a c => { c with trees := a }) (by decide) ⟨_, .tail _ (.head _), rfl, rfl⟩
      (fun _ _ => rfl) (fun _ _ _ => rfl) (by simp [Content.format, Field.Commutes.of]) hC hread
    exact hframe _ _ (Tree.rewords_follows.item he hl)

namespace Content

/-- **Content survives vocabulary it does not know.** Where unfamiliar conditions and effects, with
any members, and unfamiliar colors take the place of others in a document that is read, the document
is still read, as the content in which just these are unknown, or white. -/
theorem read_reworded {d d' : Doc} {f : Content → Content}
    (h : Rewording.Repeated Rewords d d' f) :
    (∀ c, format.read d = .ok c → format.read d' = .ok (f c)) ∧
    ∀ s s' rest c, (scan s).1 = d → ofText s = .ok c → scan s' = (d', some rest) →
      (skipSpaces rest).isEmpty → ofText s' = .ok (f c) := by
  refine ⟨fun c => rewords_follows.repeated h, fun s s' rest c hs hread hscan hrest => ?_⟩
  obtain ⟨d₀, rest₀, hscan₀, -, hread⟩ := readAll_eq_ok_iff.1 hread
  obtain rfl : d₀ = d := by rw [← hs, hscan₀]
  exact readAll_eq_ok_iff.2 ⟨d', rest, hscan, hrest, rewords_follows.repeated h hread⟩

/-- Content with one color for a speaker and one condition inside the gate of a choice. -/
def crossing (color : Color) (condition : Condition) : Content where
  speakers := Sorted.ofList [("Ferryman", color)]
  trees := [{
    id := "crossing"
    name := ""
    root := "bank"
    nodes := Sorted.ofList [("bank", {
      id := "bank"
      choices := [{ text := "Pay", next := "bank", condition := some (.not condition) }] })] }]

/-- A document of that content. -/
def crossingDoc (color : String) (condition : Doc) : Doc := .map [
  (.text "speakers", .map [(.text "Ferryman", .text color)] none),
  (.text "trees", .seq [.map [
    (.text "id", .text "crossing"), (.text "root", .text "bank"),
    (.text "nodes", .seq [.map [
      (.text "id", .text "bank"), (.text "choices", .seq [.map [
        (.text "text", .text "Pay"), (.text "next", .text "bank"),
        (.text "condition", .map [
          (.text kindField, .text "not"), (.text "condition", condition)] none)] none] none)]
      none] none)] none] none)] none

/-- The ferryman takes on a color of the sea, and the gate asks for the tide. -/
theorem read_reworded_crossing :
    let paid := .map [(.text kindField, .text "has_story_flag"), (.text "flag", .text "paid")] none
    let tide := .map [(.text "hours", .seq [.number (.int 3)] none),
      (.text kindField, .text "tide_below")] none
    format.read (crossingDoc "cyan" paid) = .ok (crossing .cyan (.test (.hasFlag "paid"))) ∧
      format.read (crossingDoc "sea_green" tide) = .ok (crossing .white .unknown) := by
  intro paid tide
  have hcolor : Rewords (crossingDoc "cyan" paid) (crossingDoc "sea_green" paid) fun c => { c with
      speakers := Sorted.ofList ([("Ferryman", .cyan)].modify 0 fun m => (m.1, .white)) } :=
    @Rewords.speakers _ [] _ _ _ _ _ _ _ (@Frame.member _ _ [] _ none) rfl (.here (by decide))
  have htide : Unfamiliar Condition.kindNames tide := by
    refine @Unfamiliar.intro _ "tide_below" [(.text "hours", .seq [.number (.int 3)] none)] []
      (by decide) ?_
    simpa using ⟨by decide, rfl⟩
  have hgate := Condition.Rewords.not (@OperandFrame.member _ _ "condition" false _
    [(.text kindField, .text "not")] [] none .name List.mem_cons_self)
    (@Condition.Rewords.here true
      [(.text kindField, .text "has_story_flag"), (.text "flag", .text "paid")] none _ htide)
  have hchoice := Choice.Rewords.condition (@Frame.member _ _
    [(.text "text", .text "Pay"), (.text "next", .text "bank")] [] none) hgate
  have hnode := Node.Rewords.choices (@Frame.member _ _ [(.text "id", .text "bank")] [] none)
    (@Rewording.Item.intro _ _ [] [] _ _ none _ hchoice)
  have htree := Tree.Rewords.nodes (@Frame.member _ _
    [(.text "id", .text "crossing"), (.text "root", .text "bank")] [] none) rfl
    (@Rewording.Item.intro _ _ [] [] _ _ none _ hnode)
  have hcontent := Rewords.trees (@Frame.member _ _
    [(.text "speakers", .map [(.text "Ferryman", .text "sea_green")] none)] [] none)
    (@Rewording.Item.intro _ _ [] [] _ _ none _ htree)
  have hread : format.read (crossingDoc "cyan" paid) =
      .ok (crossing .cyan (.test (.hasFlag "paid"))) := rfl
  exact ⟨hread, (read_reworded (.more (.more .none hcolor) hcontent)).1 _ hread⟩

end Content

end Dialogue
