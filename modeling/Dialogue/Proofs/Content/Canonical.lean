import Dialogue.Proofs.Content.Written
import Dialogue.Proofs.Json.Inversion

/-!
# The canonical form of content

What is read from a text nests no deeper when it is written again than the text did, or than a few
containers that are always written: conditions keep their depth or lose some of it, and nothing else
in content nests without bound. Trees that are read have their nodes under the nodes' own ids. Both
together make the written form canonical (`Content.canonical`).
-/

namespace Dialogue
open Json

namespace Condition

/-- What is read, written again, nests no deeper than before: unknown parts are dropped, and what is
known keeps its place. -/
theorem depth_le_of_readWithin {depth : Nat} {nested : Bool} {d : Doc} {c : Condition}
    (h : readWithin depth nested d = .ok c) : c.write.depth ≤ d.depth := by
  induction depth generalizing nested d c with
  | zero => cases h
  | succ depth ih =>
    have hlist : ∀ {e : Doc} {cs : List Condition}, readList (readWithin depth true) e = .ok cs →
        (Json.seq (writeList cs)).depth ≤ e.depth := by
      intro e cs hread
      obtain ⟨items, close, rfl, hitems⟩ := exists_of_readList hread
      rw [writeList_eq]
      refine depth_list_le fun c hc => ?_
      obtain ⟨item, hmem, hitem⟩ := hitems c hc
      exact Nat.le_trans (ih hitem) (Doc.itemsDepth_le.1 (Nat.le_refl _) item hmem)
    have hone : ∀ {e : Doc} {name field : String} {v : Json}, e.depth < d.depth →
        v.depth ≤ e.depth → (writeTagged name [(field, v)]).depth ≤ d.depth := by
      intro e name field v he hv
      obtain ⟨n, hn⟩ : ∃ n, d.depth = n + 1 := ⟨d.depth - 1, by omega⟩
      rw [hn]
      refine depth_writeTagged_le.2 (List.forall_mem_cons.2 ⟨?_, List.forall_mem_nil _⟩)
      show v.depth ≤ n
      omega
    obtain ⟨hpos, rfl | ⟨k, hk, operands, hdocs, hread⟩⟩ := exists_of_readTagged h
    · exact hpos
    · rcases List.mem_append.1 hk with hk | hk
      · obtain ⟨k, -, rfl⟩ := List.mem_map.1 hk
        obtain ⟨t, rfl⟩ := Kind.exists_of_map hread
        rw [write, t.depth_write]
        exact hpos
      · simp only [List.mem_cons, List.not_mem_nil, or_false] at hk
        rcases hk with rfl | rfl | rfl
        · obtain ⟨e, he, cs, hcs, rfl⟩ := Kind.exists_of_one hread
          exact hone (hdocs e he) (hlist hcs)
        · obtain ⟨e, he, cs, hcs, rfl⟩ := Kind.exists_of_one hread
          exact hone (hdocs e he) (hlist hcs)
        · obtain ⟨e, he, c, hc, rfl⟩ := Kind.exists_of_one hread
          exact hone (hdocs e he) (ih hc)

theorem bounded : Bounded 0 Condition.read write := fun h =>
  Nat.le_trans (depth_le_of_readWithin h) (Nat.le_max_left ..)

end Condition

theorem Effect.depth_write (e : Effect) : e.write.depth = 1 := by
  cases e with
  | triggerEvent event detail => cases detail <;> rfl
  | _ => rfl

theorem Effect.bounded : Bounded 1 Effect.read Effect.write := fun {d e} _ => by
  rw [e.depth_write]
  exact Nat.le_max_right ..

theorem Effect.depth_list_le (l : List Effect) : (Json.seq (l.map Effect.write)).depth ≤ 2 :=
  Json.depth_list_le fun e _ => Nat.le_of_eq e.depth_write

namespace Choice

theorem depth_write_le {c : Choice} {n : Nat} (hn : 2 ≤ n)
    (h : ∀ x ∈ c.condition, x.write.depth ≤ n) : (Choice.format.write c).depth ≤ n + 1 := by
  refine Format.depth_write_le ?_
  simp only [Choice.format, List.forall_mem_cons]
  refine ⟨?text, ?next, ?tone, ?condition, ?effects, ?autoSelect, List.forall_mem_nil _⟩
  case condition =>
    intro v hv
    cases Field.mem_write_of_unless hv
    exact depth_ofOption_le h
  case effects =>
    intro v hv
    cases Field.mem_write_of_unless hv
    exact Nat.le_trans (Effect.depth_list_le _) hn
  all_goals
    rintro v ⟨⟩
    exact Nat.zero_le n

/-- Of the parts of a choice that is read, the condition alone may nest deeply. -/
theorem bounded : Bounded 3 Choice.format.read Choice.format.write := by
  intro d c h
  have step : Format.Step (fun _ (c : Choice) => ∀ x ∈ c.condition, x.write.depth < d.depth)
      (fun e => e.depth < d.depth) Choice.format.fields := by
    simp only [Format.Step, Choice.format, List.forall_mem_cons]
    refine ⟨?text, ?next, ?tone, ?condition, ?effects, ?autoSelect, List.forall_mem_nil _⟩
    all_goals
      intro e he change hchange seen c hc
      obtain ⟨a, ha, rfl⟩ := exists_of_map_ok hchange
    case condition =>
      rintro x rfl
      exact Nat.lt_of_le_of_lt (Condition.depth_le_of_readWithin (exists_of_readOption ha)) he
    all_goals exact hc
  obtain ⟨seen, hc, -⟩ := Format.read_induct step (by rintro x ⟨⟩) h
  have hdepth := depth_write_le (n := max (d.depth - 1) 2) (by omega) fun x hx => by
    have := hc x hx
    omega
  omega

end Choice

namespace Node

theorem depth_write_le {m : Node} {n : Nat} (hn : 2 ≤ n)
    (h : (Json.seq (m.choices.map Choice.format.write)).depth ≤ n) :
    (Node.format.write m).depth ≤ n + 1 := by
  refine Format.depth_write_le ?_
  simp only [Node.format, List.forall_mem_cons]
  refine ⟨?id, ?speaker, ?text, ?color, ?choices, ?next, ?isEnd, ?effects,
    List.forall_mem_nil _⟩
  case text =>
    rintro v ⟨⟩
    exact Nat.le_trans (depth_texts_le _) (by omega)
  case choices =>
    intro v hv
    cases Field.mem_write_of_unless hv
    exact h
  case effects =>
    intro v hv
    cases Field.mem_write_of_unless hv
    exact Nat.le_trans (Effect.depth_list_le _) hn
  case id | isEnd =>
    rintro v ⟨⟩
    exact Nat.zero_le n
  case speaker | color | next =>
    intro v hv
    cases Field.mem_write_of_unless hv
    exact depth_ofOption_le fun _ _ => Nat.zero_le n

theorem bounded : Bounded 5 Node.format.read Node.format.write := by
  intro d m h
  have step : Format.Step
      (fun _ (m : Node) =>
        (Json.seq (m.choices.map Choice.format.write)).depth ≤ max (d.depth - 1) 4)
      (fun e => e.depth < d.depth) Node.format.fields := by
    simp only [Format.Step, Node.format, List.forall_mem_cons]
    refine ⟨?id, ?speaker, ?text, ?color, ?choices, ?next, ?isEnd, ?effects,
      List.forall_mem_nil _⟩
    all_goals
      intro e he change hchange seen m hm
      obtain ⟨a, ha, rfl⟩ := exists_of_map_ok hchange
    case choices =>
      have hchoices : (Json.seq (a.map Choice.format.write)).depth ≤ max e.depth 4 :=
        Choice.bounded.list ha
      exact Nat.le_trans hchoices (by omega)
    all_goals exact hm
  have hstart : (Json.seq []).depth ≤ max (d.depth - 1) 4 :=
    Nat.le_trans (by decide) (Nat.le_max_right ..)
  obtain ⟨seen, hm, -⟩ := Format.read_induct step hstart h
  have hdepth := depth_write_le (by omega) hm
  omega

end Node

namespace Tree

theorem depth_write_le {t : Tree} {n : Nat}
    (h : ∀ m ∈ t.nodes.values, (Node.format.write m).depth ≤ n) :
    (Tree.format.write t).depth ≤ n + 2 := by
  refine Format.depth_write_le ?_
  simp only [Tree.format, List.forall_mem_cons]
  refine ⟨?id, ?name, ?root, ?nodes, List.forall_mem_nil _⟩
  case nodes =>
    rintro v ⟨⟩
    exact depth_list_le fun m hm => h m (mem_listing.1 hm)
  all_goals
    rintro v ⟨⟩
    exact Nat.zero_le _

theorem nodes_mem_members (t : Tree) :
    ("nodes", .seq (t.listing.map Node.format.write)) ∈ Tree.format.members t := by
  have hmembers : Tree.format.members t = [("id", .text t.id), ("name", .text t.name),
      ("root", .text t.root), ("nodes", .seq (t.listing.map Node.format.write))] := rfl
  simp [hmembers]

/-- What holds of a tree that is read. -/
structure Accepted (d : Doc) (t : Tree) : Prop where
  keyed : t.Keyed
  nodes : ∀ m ∈ t.nodes.values, (Node.format.write m).depth ≤ max (d.depth - 2) 5

theorem accepted {d : Doc} {t : Tree} (h : Tree.format.read d = .ok t) : Accepted d t := by
  have step : Format.Step (fun _ => Accepted d) (fun e => e.depth < d.depth)
      Tree.format.fields := by
    simp only [Format.Step, Tree.format, List.forall_mem_cons]
    refine ⟨?id, ?name, ?root, ?nodes, List.forall_mem_nil _⟩
    all_goals
      intro e he change hchange seen t ht
      obtain ⟨a, ha, rfl⟩ := exists_of_map_ok hchange
    case nodes =>
      obtain ⟨items, close, rfl, hitems⟩ := exists_of_readList ha
      refine ⟨fun e he => (mem_withListing he).1, fun m hm => ?_⟩
      obtain ⟨e, hmem, rfl⟩ := List.mem_map.1 hm
      obtain ⟨item, hitem, hread⟩ := hitems _ (mem_withListing hmem).2
      have := Node.bounded hread
      have := Doc.itemsDepth_le.1 (Nat.le_refl _) item hitem
      rw [Doc.depth] at he
      omega
    all_goals exact ⟨ht.keyed, ht.nodes⟩
  obtain ⟨seen, ht, -⟩ := Format.read_induct step ⟨List.forall_mem_nil _, List.forall_mem_nil _⟩ h
  exact ht

theorem bounded : Bounded 7 Tree.format.read Tree.format.write := by
  intro d t h
  have := depth_write_le (accepted h).nodes
  omega

end Tree

namespace Content

theorem depth_write_le {c : Content} {n : Nat} (hn : 1 ≤ n)
    (h : (Json.seq (c.trees.map Tree.format.write)).depth ≤ n) :
    (Content.format.write c).depth ≤ n + 1 := by
  refine Format.depth_write_le ?_
  simp only [Content.format, List.forall_mem_cons]
  refine ⟨?speakers, ?trees, List.forall_mem_nil _⟩
  case speakers =>
    rintro v ⟨⟩
    exact Nat.le_trans (Table.depth_json_le fun _ _ => Nat.le_refl 0) hn
  case trees =>
    rintro v ⟨⟩
    exact h

theorem accepted {d : Doc} {c : Content} (h : Content.format.read d = .ok c) :
    (∀ t ∈ c.trees, t.Keyed) ∧
      (Json.seq (c.trees.map Tree.format.write)).depth ≤ max (d.depth - 1) 8 := by
  have step : Format.Step
      (fun _ (c : Content) => (∀ t ∈ c.trees, t.Keyed) ∧
        (Json.seq (c.trees.map Tree.format.write)).depth ≤ max (d.depth - 1) 8)
      (fun e => e.depth < d.depth) Content.format.fields := by
    simp only [Format.Step, Content.format, List.forall_mem_cons]
    refine ⟨?speakers, ?trees, List.forall_mem_nil _⟩
    all_goals
      intro e he change hchange seen c hc
      obtain ⟨a, ha, rfl⟩ := exists_of_map_ok hchange
    case speakers => exact hc
    case trees =>
      have htrees : (Json.seq (a.map Tree.format.write)).depth ≤ max e.depth 8 :=
        Tree.bounded.list ha
      refine ⟨fun t ht => ?_, Nat.le_trans htrees (by omega)⟩
      obtain ⟨items, close, rfl, hitems⟩ := exists_of_readList ha
      obtain ⟨item, -, hread⟩ := hitems t ht
      exact (Tree.accepted hread).keyed
  have hstart : (Json.seq []).depth ≤ max (d.depth - 1) 8 :=
    Nat.le_trans (by decide) (Nat.le_max_right ..)
  obtain ⟨seen, hc, -⟩ := Format.read_induct step ⟨List.forall_mem_nil _, hstart⟩ h
  exact hc

theorem bounded : Bounded 9 Content.format.read Content.format.write := by
  intro d c h
  have := depth_write_le (by omega) (accepted h).2
  omega

/-- Content and its parts have a canonical form: what is written is read back, and all that is read
from a text can be written and is settled by it. Trees list their nodes in the strict order of their
ids, whichever order they are taken out in, so that trees in which the same is found are written
alike, in whichever order their nodes were added. -/
theorem canonical :
    Canonical Content.format.read Content.format.write (fun c => ∀ t ∈ c.trees, t.Keyed) ∧
    Canonical Tree.format.read Tree.format.write Tree.Keyed ∧
    Canonical Node.format.read Node.format.write (fun _ => True) ∧
    Canonical Choice.format.read Choice.format.write (fun _ => True) ∧
    Canonical Condition.read Condition.write (fun _ => True) ∧
    Canonical Effect.read Effect.write (fun _ => True) ∧
    (∀ t : Tree, t.Keyed →
      ("nodes", .seq (t.listing.map Node.format.write)) ∈ Tree.format.members t ∧
      t.listing.Pairwise (·.id < ·.id) ∧
      ∀ l : List Node, l.Perm t.nodes.values →
        l.mergeSort (fun a b => !decide (b.id < a.id)) = t.listing) ∧
    (∀ t u : Tree, t.id = u.id → t.name = u.name → t.root = u.root →
      (∀ k, t.node? k = u.node? k) → Tree.format.write t = Tree.format.write u) ∧
    (∀ (t : Tree) (l l' : List Node), l.Perm l' → (l.map (·.id)).Nodup →
      Tree.format.write (l.foldl Tree.withNode t) =
        Tree.format.write (l'.foldl Tree.withNode t)) := by
  refine ⟨?content, ?tree, ?node, ?choice, ?condition, ?effect, ?listing, ?equal, ?added⟩
  case content =>
    exact .of_bounded (fun c hc => conveys hc) (fun d c h => (accepted h).1) bounded (by decide)
  case tree =>
    exact .of_bounded (fun t ht => Tree.conveys ht) (fun d t h => (Tree.accepted h).keyed)
      Tree.bounded (by decide)
  case node =>
    exact .of_bounded (fun n _ => n.conveys) (fun _ _ _ => trivial) Node.bounded (by decide)
  case choice =>
    exact .of_bounded (fun c _ => c.conveys) (fun _ _ _ => trivial) Choice.bounded (by decide)
  case condition =>
    exact .of_bounded (fun c _ => c.conveys) (fun _ _ _ => trivial) Condition.bounded (by decide)
  case effect =>
    exact .of_bounded (fun e _ => e.conveys) (fun _ _ _ => trivial) Effect.bounded (by decide)
  case listing =>
    intro t ht
    refine ⟨Tree.nodes_mem_members t, ?_, fun l hl => ht.mergeSort_eq hl⟩
    rw [ht.listing_eq]
    exact ht.pairwise_ids
  case equal =>
    intro t u hid hname hroot hnodes
    rw [Tree.ext_node? hid hname hroot hnodes]
  case added =>
    intro t l l' hl hids
    rw [t.foldl_withNode_perm hl hids]

/-- Two nodes, added against the order of their ids, and a choice with a gate. -/
def ferry : Content where
  speakers := Sorted.ofList [("Ferryman", .cyan)]
  trees := [(Tree.mk "ferry" "The ferry" "shore" {}).withNode
    { id := "water", lines := ["The oars dip."], isEnd := true } |>.withNode
    { id := "shore", speaker := some "Ferryman", choices := [
        { text := "Cross.", next := "water",
          condition := some (.not (.all [.test (.hasFlag "banished"), .unknown])),
          effects := [.addGold 3, .unknown] }] }]

theorem canonical_ferry : (∀ t ∈ ferry.trees, t.Keyed) ∧
    (Content.format.write ferry).depth ≤ maxDepth ∧
    readAll Content.format.read (Content.format.write ferry).toText = .ok ferry := by
  have hkeyed : ∀ t ∈ ferry.trees, t.Keyed := by
    intro t ht
    rw [List.mem_singleton.1 ht]
    unfold Tree.Keyed
    decide
  have hnodes : ∀ t ∈ ferry.trees, (Tree.format.write t).depth ≤ 9 + 2 := by
    intro t ht
    refine Tree.depth_write_le ?_
    rw [List.mem_singleton.1 ht]
    decide
  have hdepth : (Content.format.write ferry).depth ≤ maxDepth :=
    Nat.le_trans (depth_write_le (by decide) (depth_list_le hnodes)) (by decide)
  exact ⟨hkeyed, hdepth, canonical.1.restores _ hkeyed hdepth⟩

end Content

end Dialogue
