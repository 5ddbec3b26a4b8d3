import RemoteTerminal.Widget.Script
import RemoteTerminal.Proofs.Widget.Completion

/-!
# A settle on a script is a course

`Stage.settle` handles events and lets the requests go on in turn. `settle_reachable`: these are
steps that a widget can take, and a settle that comes about leaves nothing in flight and nothing
queued.
-/

namespace RemoteTerminal.Widget

variable {url : Text} {options : Options} {containerHeight : Nat} {runtime : Bool} {c : Course}

theorem answer_reachable (h : Reachable url options containerHeight runtime c) (script : Script)
    {tasks : List Task} (running : tasks.Sublist c.widget.running) :
    Reachable url options containerHeight runtime
        { c with widget := (Stage.answer ⟨c.widget, script⟩ tasks).widget } ∧
      (Stage.answer ⟨c.widget, script⟩ tasks).widget.inFlight = c.widget.inFlight := by
  induction tasks generalizing c script with
  | nil => exact ⟨h, rfl⟩
  | cons task tasks ih =>
    have ended := h.next (.finish c task script.next.1 (running.subset (.head _)))
    have distinct := (running.map Task.number).nodup (distinct_running (numbers_perm h))
    have others : ∀ other ∈ tasks, other.number ≠ task.number :=
      fun other ho same => (List.nodup_cons.mp distinct).1 (List.mem_map.mpr ⟨other, ho, same⟩)
    have left : tasks.Sublist (c.widget.finish task script.next.1).running := by
      have kept := running.filter fun other => other.number ≠ task.number
      rw [List.filter_cons_of_neg (by simp),
        List.filter_eq_self.mpr (by simpa using others)] at kept
      exact kept
    exact ih ended script.next.2 left

theorem tick_reachable (h : Reachable url options containerHeight runtime c) (script : Script) :
    Reachable url options containerHeight runtime
        { c with widget := (Stage.tick ⟨c.widget, script⟩).widget } ∧
      (Stage.tick ⟨c.widget, script⟩).widget.inFlight = c.widget.inFlight :=
  answer_reachable h _ (List.take_sublist _ _)

/-- An event that a stage gives is one that a widget can serve. -/
theorem take_reachable (h : Reachable url options containerHeight runtime c) (serves : c.Serves)
    (script : Script) :
    match Stage.take? ⟨c.widget, script⟩ with
    | (some event, stage) =>
      ∃ d, Reachable url options containerHeight runtime d ∧
        d.activity = c.activity ∧ d.widget = stage.widget.handle event
    | (none, stage) =>
      Reachable url options containerHeight runtime { c with widget := stage.widget } := by
  cases first : c.widget.take? with
  | some next =>
    obtain ⟨event, widget⟩ := next
    simp only [Stage.take?, first]
    exact ⟨_, h.next (.serve c event widget serves first), rfl, rfl⟩
  | none =>
    obtain ⟨ticked, same⟩ := tick_reachable h script
    cases second : (Stage.tick ⟨c.widget, script⟩).widget.take? with
    | some next =>
      obtain ⟨event, widget⟩ := next
      simp only [Stage.take?, first, second]
      have serves_still : Course.Serves
          { c with widget := (Stage.tick ⟨c.widget, script⟩).widget } := by
        unfold Course.Serves
        rw [same]
        exact serves
      exact ⟨_, ticked.next (.serve _ event widget serves_still second), rfl, rfl⟩
    | none =>
      simp only [Stage.take?, first, second]
      exact ticked

theorem settleWithin_reachable (fuel : Nat)
    (h : Reachable url options containerHeight runtime c) (settling : c.activity = .settling)
    (script : Script) :
    let settled := Stage.settleWithin fuel ⟨c.widget, script⟩
    ∃ d, Reachable url options containerHeight runtime d ∧ d.widget = settled.1.widget ∧
      (settled.2 = true → d.activity = .idle ∧ d.widget.inFlight = 0 ∧ d.widget.queue = []) := by
  induction fuel generalizing c script with
  | zero => exact ⟨c, h, rfl, nofun⟩
  | succ fuel ih =>
    by_cases none_left : c.widget.inFlight = 0
    · have cleared := drain_reachable (h.next (.clear c settling none_left)) (.inr rfl)
      have still_none : c.widget.drain.inFlight = 0 :=
        Nat.le_zero.mp (none_left ▸ inFlight_drain_le c.widget)
      exact ⟨_, cleared, by simp [Stage.settleWithin, none_left],
        fun _ => ⟨rfl, still_none, queue_drain _⟩⟩
    · have serves : c.Serves := .inr (.inr ⟨settling, Nat.pos_of_ne_zero none_left⟩)
      have taken := take_reachable h serves script
      simp only [Stage.settleWithin, none_left, if_false]
      cases hs : Stage.take? ⟨c.widget, script⟩ with
      | mk event? stage =>
        rw [hs] at taken
        cases event? with
        | none => exact ⟨_, taken, rfl, nofun⟩
        | some event =>
          obtain ⟨d, reached, activity, widget⟩ := taken
          have settled := ih reached (activity.trans settling) stage.script
          rw [widget] at settled
          exact settled

/-- **A settle on a script is a course.** It takes steps that a widget can take, and when it comes
about it is over, nothing is in flight and nothing is queued. -/
theorem settle_reachable (h : Reachable url options containerHeight runtime c)
    (idle : c.activity = .idle) (script : Script) :
    let settled := Stage.settle ⟨c.widget, script⟩
    ∃ d, Reachable url options containerHeight runtime d ∧ d.widget = settled.1.widget ∧
      (settled.2 = true → d.activity = .idle ∧ d.widget.inFlight = 0 ∧ d.widget.queue = []) :=
  settleWithin_reachable _ (h.next (.settle c idle)) rfl script

end RemoteTerminal.Widget
