import Dialogue.Proofs.Machine
import Dialogue.Proofs.Aftermath

/-!
# One story for the events, the listeners and the history

A session keeps what happens in four places: the events not taken out, what each listener has heard,
the dialogues that are over, and the choices that were picked. Its chronicle is the list of all that
happened from the beginning, moment by moment (`Session.Recorded`), and each of the four places is
read off it (`Session.Tells`). Every step of a session keeps this up (`Session.Tells.step`), so that
it holds of every session (`Session.tells_chronicle`).
-/

namespace Dialogue

/-- Something that happens to a session. -/
inductive Moment where
  | told (e : Event)
  /-- The events not taken out yet were taken out. -/
  | drained (batch : List Event)
  | joined (listener : String)
  /-- The history was forgotten. -/
  | reset

namespace Moment

@[simp] def event? : Moment → Option Event
  | .told e => some e
  | _ => none

@[simp] def batch : Moment → List Event
  | .drained batch => batch
  | _ => []

@[simp] def isReset : Moment → Bool
  | .reset => true
  | _ => false

end Moment

/-- What happened to a session, in order. -/
abbrev Chronicle := List Moment

namespace Chronicle

def events (c : Chronicle) : List Event := c.filterMap Moment.event?

/-- All events that were taken out, one batch after the other. -/
def drained (c : Chronicle) : List Event := c.flatMap Moment.batch

/-- All who joined, each with the events told since. -/
def audience : Chronicle → List Listener
  | [] => []
  | .joined name :: c => ⟨name, events c⟩ :: audience c
  | _ :: c => audience c

/-- What happened after the last reset. -/
def sinceReset (c : Chronicle) : Chronicle := (c.reverse.takeWhile (!·.isReset)).reverse

def telling (es : List Event) : Chronicle := es.map .told

variable {c d : Chronicle}

@[simp] theorem events_nil : events [] = [] := rfl

@[simp] theorem events_cons (m : Moment) (c : Chronicle) :
    events (m :: c) = m.event?.toList ++ events c := by
  cases m <;> rfl

@[simp] theorem drained_singleton (m : Moment) : drained [m] = m.batch := by simp [drained]

@[simp] theorem events_append (c d : Chronicle) : events (c ++ d) = events c ++ events d :=
  List.filterMap_append ..

@[simp] theorem drained_append (c d : Chronicle) : drained (c ++ d) = drained c ++ drained d :=
  List.flatMap_append

@[simp] theorem events_telling (es : List Event) : events (telling es) = es := by
  rw [events, telling, List.filterMap_map]
  exact List.filterMap_some

@[simp] theorem drained_telling (es : List Event) : drained (telling es) = [] := by
  simp [drained, telling]

@[simp] theorem audience_telling (es : List Event) : audience (telling es) = [] := by
  induction es with
  | nil => rfl
  | cons e es ih => exact ih

/-- Who is there hears what is told later. -/
theorem audience_append (c d : Chronicle) :
    audience (c ++ d) = (audience c).map (·.hear (events d)) ++ audience d := by
  induction c with
  | nil => rfl
  | cons m c ih => cases m <;> simp [audience, ih, Listener.hear]

/-- What happens without a reset is all remembered. -/
theorem sinceReset_append (h : ∀ m ∈ d, m.isReset = false) :
    sinceReset (c ++ d) = sinceReset c ++ d := by
  have htake : (d.reverse ++ c.reverse).takeWhile (!·.isReset) =
      d.reverse ++ c.reverse.takeWhile (!·.isReset) :=
    List.takeWhile_append_of_pos fun m hm => by
      rw [h m (List.mem_reverse.1 hm), Bool.not_false]
  rw [sinceReset, List.reverse_append, htake, List.reverse_append, List.reverse_reverse]
  rfl

theorem sinceReset_telling (c : Chronicle) (es : List Event) :
    sinceReset (c ++ telling es) = sinceReset c ++ telling es :=
  sinceReset_append fun m hm => by
    obtain ⟨e, -, rfl⟩ := List.mem_map.1 hm
    rfl

theorem sinceReset_reset (c : Chronicle) : sinceReset (c ++ [.reset]) = [] := by
  simp [sinceReset]

/-- No event is added by something else that happens. -/
theorem events_sinceReset_append {m : Moment} (hreset : m.isReset = false) (h : m.event? = none) :
    (sinceReset (c ++ [m])).events = c.sinceReset.events := by
  have hm : ∀ m' ∈ [m], m'.isReset = false := by simpa using hreset
  rw [sinceReset_append hm, events_append, events_cons, h]
  exact List.append_nil _

end Chronicle

/-- The way that an event says a dialogue came out. -/
@[simp] def Event.ending? : Event → Option (String × Bool)
  | .completed tree full => some (tree, full)
  | .choiceMade .. => none

namespace Session
open Chronicle
variable {s s' : Session} {log more : Chronicle} {config : Config} {tree : String} {p : Profile}
  {inputs : List String} {fuel : Nat}

/-- `Step s log s'`: the session `s` becomes `s'` by one of its operations, and `log` is what
happens then. A dialogue is played to its end. -/
inductive Step (s : Session) : Chronicle → Session → Prop
  | register (t : Tree) : Step s [] (s.register t)
  | install (c : Content) : Step s [] (s.install c)
  | subscribe (name : String) : Step s [.joined name] (s.subscribe name)
  | start {fuel tree p inputs r} (h : s.start fuel tree p inputs = some r) :
    Step s (telling r.events) r.session
  | drain : Step s [.drained s.drain.1] s.drain.2
  | reset : Step s [.reset] s.reset

/-- `Recorded config log s`: a new session has become `s`, and `log` is all that has happened. -/
inductive Recorded (config : Config) : Chronicle → Session → Prop
  | new : Recorded config [] { config }
  | step {log more : Chronicle} {s s' : Session} (before : Recorded config log s)
    (h : Step s more s') :
    Recorded config (log ++ more) s'

/-- The session keeps what its chronicle tells. -/
structure Tells (log : Chronicle) (s : Session) : Prop where
  /-- What was taken out and what was not are all events, in order. -/
  buffer : log.drained ++ s.buffer = log.events
  /-- Each listener has heard the events told since it joined. -/
  listeners : s.listeners = log.audience
  /-- Since the last reset, one dialogue is over for each event that says so. -/
  finished : s.history.finished.map (fun f => (f.tree, f.completed)) =
    log.sinceReset.events.filterMap Event.ending?
  endNode : ∀ f ∈ s.history.finished, f.endNode.isSome = f.completed
  /-- Since the last reset, the choices picked are those that events tell of. -/
  selected : ∀ node position, s.history.hasSelected node position = true ↔
    ∃ text, .choiceMade node position text ∈ log.sinceReset.events

end Session

/-! ## Histories -/

namespace History

theorem finished_extend (h : History) (marks : List (String × Nat)) (finished : List Finished) :
    (h.extend marks finished).finished = h.finished ++ finished := by
  have hmarks : (marks.foldl (fun h m => h.mark m.1 m.2) h).finished = h.finished := by
    induction marks generalizing h with
    | nil => rfl
    | cons m marks ih => exact ih _
  rw [extend, ← hmarks]
  generalize marks.foldl (fun h m => h.mark m.1 m.2) h = h
  induction finished generalizing h with
  | nil => simp
  | cons f finished ih => rw [List.foldl_cons, ih]; simp [record]

theorem hasSelected_mark {h : History} {node node' : String} {position position' : Nat} :
    (h.mark node position).hasSelected node' position' = true ↔
      h.hasSelected node' position' = true ∨ (node', position') = (node, position) := by
  by_cases heq : (node', position') = (node, position) <;> simp [hasSelected, mark, heq]

theorem hasSelected_extend {h : History} {marks : List (String × Nat)} {finished : List Finished}
    {node : String} {position : Nat} :
    (h.extend marks finished).hasSelected node position = true ↔
      h.hasSelected node position = true ∨ (node, position) ∈ marks := by
  have hrecord (h : History) : (finished.foldl record h).hasSelected node position =
      h.hasSelected node position := by
    induction finished generalizing h with
    | nil => rfl
    | cons f finished ih => exact ih _
  rw [extend, hrecord]
  induction marks generalizing h with
  | nil => simp
  | cons m marks ih =>
    rw [List.foldl_cons, List.mem_cons, ← or_assoc, ← hasSelected_mark]
    exact ih

end History

/-! ## Steps -/

namespace Session
open Chronicle
variable {s s' : Session} {log more : Chronicle} {config : Config} {tree : String} {p : Profile}
  {inputs : List String} {fuel : Nat}

/-- Events of picked choices do not say how a dialogue came out. -/
theorem endings_picks (picks : List (String × Nat × Choice)) :
    (picks.map pickEvent).filterMap Event.ending? = [] := by
  simp [List.filterMap_eq_nil_iff, pickEvent]

/-- The last event of a dialogue, and no other, says how it came out. -/
theorem exists_events_of_start {t : Tree} {root : Node} (found : s.library.lookup tree = some t)
    (entry : t.rootNode? = some root) {r : Performance} (h : s.start fuel tree p inputs = some r) :
    ∃ told, r.events = told ++ [.completed tree r.result.isCompleted] ∧
      told.filterMap Event.ending? = [] := by
  rw [start_of_entered found entry] at h
  obtain ⟨run, -, rfl⟩ := Option.map_eq_some_iff.1 h
  exact ⟨run.picks.map pickEvent, rfl, endings_picks _⟩

/-- What a dialogue leaves in its session is what its events say. -/
theorem exists_extend_of_start {r : Performance} (h : s.start fuel tree p inputs = some r) :
    ∃ marks finished,
      r.session =
        { s with
          history := s.history.extend marks finished
          listeners := s.listeners.map (·.hear r.events)
          buffer := s.buffer ++ r.events } ∧
      finished.map (fun f => (f.tree, f.completed)) = r.events.filterMap Event.ending? ∧
      (∀ f ∈ finished, f.endNode.isSome = f.completed) ∧
      ∀ node position, (node, position) ∈ marks ↔
        ∃ text, .choiceMade node position text ∈ r.events := by
  rcases s.entered_or_barred tree with ⟨t, root, found, entry⟩ | barred
  · rw [start_of_entered found entry] at h
    obtain ⟨run, -, rfl⟩ := Option.map_eq_some_iff.1 h
    refine ⟨run.marks, [run.finished tree], s.afterRun_eq tree run, ?_, ?_, fun node position => ?_⟩
    · rw [performance, List.filterMap_append, endings_picks]
      rfl
    · simp [Run.finished, Result.isCompleted]
    · simp only [Run.marks, performance, pickEvent, List.mem_map, List.mem_append,
        List.mem_singleton, Event.choiceMade.injEq, Prod.mk.injEq, reduceCtorEq, or_false]
      constructor
      · rintro ⟨pick, hpick, hn, hp⟩
        exact ⟨_, pick, hpick, hn, hp, rfl⟩
      · rintro ⟨text, pick, hpick, hn, hp, -⟩
        exact ⟨pick, hpick, hn, hp⟩
  · obtain ⟨w, hrefuse⟩ := exists_refuse barred
    cases (hrefuse fuel p inputs).symm.trans h
    exact ⟨[], [], by simp [refuse, History.extend, Listener.hear], rfl, List.forall_mem_nil _,
      by simp [refuse]⟩

theorem Tells.new : Tells [] { config } where
  buffer := rfl
  listeners := rfl
  finished := rfl
  endNode := List.forall_mem_nil _
  selected := by simp [History.hasSelected, sinceReset, events]

/-- Each operation keeps the session in step with its chronicle. -/
theorem Tells.step (tells : Tells log s) (h : Step s more s') : Tells (log ++ more) s' := by
  cases h with
  | register t | install c =>
    rw [List.append_nil]
    exact { tells with }
  | subscribe name =>
    have hsince : (sinceReset (log ++ [.joined name])).events = log.sinceReset.events :=
      events_sinceReset_append rfl rfl
    exact {
      buffer := by simpa [subscribe] using tells.buffer
      listeners := by simp [subscribe, audience_append, audience, tells.listeners, Listener.hear]
      finished := by rw [hsince]; exact tells.finished
      endNode := tells.endNode
      selected := by rw [hsince]; exact tells.selected }
  | start h =>
    obtain ⟨marks, finished, hsession, hfinished, hend, hmarks⟩ := exists_extend_of_start h
    rw [hsession]
    exact {
      buffer := by simp [← tells.buffer]
      listeners := by simp [audience_append, tells.listeners]
      finished := by
        simp [sinceReset_telling, History.finished_extend, tells.finished, hfinished]
      endNode := by
        simp only [History.finished_extend, List.forall_mem_append]
        exact ⟨tells.endNode, hend⟩
      selected := fun node position => by
        simp only [sinceReset_telling, History.hasSelected_extend, tells.selected, hmarks,
          events_append, events_telling, List.mem_append, exists_or] }
  | drain =>
    have hsince : (sinceReset (log ++ [.drained s.drain.1])).events = log.sinceReset.events :=
      events_sinceReset_append rfl rfl
    exact {
      buffer := by simpa [drain] using tells.buffer
      listeners := by simp [drain, audience_append, audience, tells.listeners, Listener.hear]
      finished := by rw [hsince]; exact tells.finished
      endNode := tells.endNode
      selected := by rw [hsince]; exact tells.selected }
  | reset =>
    exact {
      buffer := by simpa [reset] using tells.buffer
      listeners := by simp [reset, audience_append, audience, tells.listeners, Listener.hear]
      finished := by simp [reset, sinceReset_reset, events]
      endNode := by simp [reset]
      selected := by simp [reset, sinceReset_reset, events, History.hasSelected] }

/-! ## Sessions -/

/-- **Events, listeners and history tell one story.** Whatever is done with a session from its
beginning on, it keeps what its chronicle tells. Of a dialogue that is entered the last event, and
no other, says how it came out; one that cannot be entered tells of nothing, leaves the profile and
the inputs as they are, and shows nothing. -/
theorem tells_chronicle (h : Recorded config log s) :
    Tells log s ∧
      (∀ tree t root fuel p inputs r, s.library.lookup tree = some t →
        t.rootNode? = some root → s.start fuel tree p inputs = some r →
          ∃ told, r.events = told ++ [.completed tree r.result.isCompleted] ∧
            told.filterMap Event.ending? = []) ∧
      ∀ tree p inputs, s.Barred tree →
        ∃ w, ∀ fuel, s.start fuel tree p inputs =
          some ⟨s, p, .aborted, [], inputs, [], some w, false⟩ := by
  refine ⟨?_, fun _ _ _ _ _ _ _ found entry => exists_events_of_start found entry,
    fun tree p inputs barred => ?_⟩
  · induction h with
    | new => exact .new
    | step _ h ih => exact ih.step h
  · obtain ⟨w, hrefuse⟩ := exists_refuse barred
    exact ⟨w, fun fuel => hrefuse fuel p inputs⟩

/-- Work at the inn, then, with a listener and a history forgotten, a visit without a word. -/
theorem tells_chronicle_wayside :
    ∃ log s, Recorded {} log s ∧ Tells log s ∧
      log.events = [.choiceMade "greeting" 1 "Work", .completed "road" true,
        .completed "road" false] ∧
      log.drained = log.events ∧ s.listeners = [⟨"log", [.completed "road" false]⟩] ∧
      s.history.hasSelected "greeting" 1 = false ∧
      ∃ w, s.start 3 "nowhere" {} ["1"] = some ⟨s, {}, .aborted, [], ["1"], [], some w, false⟩ := by
  have htold : ((wayside.start 3 "road" {} ["1"]).bind fun r =>
      ((r.session.subscribe "log").reset.start 3 "road" {} ["0"]).map fun r' =>
        (r.events, r'.events, (r'.session.library.lookup "nowhere").isNone)) =
      some ([.choiceMade "greeting" 1 "Work", .completed "road" true], [.completed "road" false],
        true) := by decide
  obtain ⟨r, hr, htold⟩ := Option.bind_eq_some_iff.1 htold
  obtain ⟨r', hr', htold⟩ := Option.map_eq_some_iff.1 htold
  obtain ⟨hevents, hevents', hnowhere⟩ : r.events = _ ∧ r'.events = _ ∧ _ := by simpa using htold
  have recorded : Recorded {} (_ ++ [.drained _]) _ :=
    .step (.step (.step (.step (.step (.step (.step .new (.register _)) (.register _)) (.start hr))
      (.subscribe "log")) .reset) (.start hr')) .drain
  obtain ⟨tells, -, hrefused⟩ := tells_chronicle recorded
  refine ⟨_, _, recorded, tells, ?_, ?_, ?_, ?_, ?_⟩
  · simp [hevents, hevents']
  · simpa [drain] using tells.buffer
  · simpa [audience_append, audience, Listener.hear, hevents'] using tells.listeners
  · rw [Bool.eq_false_iff, ne_eq, tells.selected]
    simp [sinceReset, telling, hevents']
  · obtain ⟨w, hw⟩ := hrefused "nowhere" {} ["1"] (by simp [Barred, drain, hnowhere])
    exact ⟨w, hw 3⟩

end Session

end Dialogue
