import Dialogue.Session

/-!
# What a dialogue leaves in its session

A dialogue adds to the history of its session the marks of its picked choices and one entry for
itself, and hands its events to the listeners and to the buffer (`Session.afterRun_eq`). Nothing
else of the session changes, and nothing of what is added depends on what was there before.
-/

namespace Dialogue

/-- The history with marks and then finished dialogues added. -/
def History.extend (h : History) (marks : List (String × Nat)) (finished : List Finished) :
    History :=
  finished.foldl record (marks.foldl (fun h m => h.mark m.1 m.2) h)

/-- The listener after more events. -/
def Listener.hear (l : Listener) (events : List Event) : Listener :=
  { l with heard := l.heard ++ events }

namespace Run

/-- The marks that the picked choices of a run leave. -/
def marks (r : Run) : List (String × Nat) := r.picks.map fun pick => (pick.1, pick.2.1)

/-- The entry of a run of a tree. -/
def finished (r : Run) (tree : String) : Finished :=
  ⟨tree, r.result.isCompleted, r.result.endNode?.map Node.id⟩

/-- The events of a run of a tree. -/
def events (r : Run) (tree : String) : List Event :=
  r.picks.map Session.pickEvent ++ [.completed tree r.result.isCompleted]

end Run

namespace Session

theorem foldl_picks (s : Session) (picks : List (String × Nat × Choice)) :
    picks.foldl (fun s pick =>
        ({ s with history := s.history.mark pick.1 pick.2.1 }).emit (pickEvent pick)) s =
      { s with
        history := s.history.extend (picks.map fun pick => (pick.1, pick.2.1)) []
        listeners := s.listeners.map (·.hear (picks.map pickEvent))
        buffer := s.buffer ++ picks.map pickEvent } := by
  induction picks generalizing s with
  | nil => simp [History.extend, Listener.hear]
  | cons pick picks ih =>
    rw [List.foldl_cons, ih]
    simp [emit, History.extend, Listener.hear]

theorem afterRun_eq (s : Session) (tree : String) (r : Run) :
    s.afterRun tree r =
      { s with
        history := s.history.extend r.marks [r.finished tree]
        listeners := s.listeners.map (·.hear (r.events tree))
        buffer := s.buffer ++ r.events tree } := by
  simp only [afterRun, foldl_picks]
  simp [emit, History.extend, Listener.hear, Run.marks, Run.finished, Run.events]

end Session

end Dialogue
