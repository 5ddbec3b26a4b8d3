import RemoteTerminal.Proofs.Widget.Course
import Mathlib.Data.List.Perm.Basic
import Mathlib.Data.List.Nodup

/-!
# Every request completes once

The numbers given out so far are those of the requests that run, of the completions in the queue,
of the completions that the owner holds and of the completions that were handled, each once
(`numbers_perm`). While no completion was fabricated, the widget counts the first three
(`inFlight_eq`).
-/

namespace RemoteTerminal.Widget

/-- The numbers of the requests that events complete. -/
def completions (events : List Event) : List Nat := events.filterMap Event.number?

@[simp] theorem completions_append (xs ys : List Event) :
    completions (xs ++ ys) = completions xs ++ completions ys := List.filterMap_append ..

@[simp] theorem completions_nil : completions [] = [] := rfl

@[simp] theorem completions_cons (event : Event) (events : List Event) :
    completions (event :: events) = event.number?.toList ++ completions events := by
  cases event <;> rfl

/-- The event that was handled, if it came from the queue. -/
def Happening.handled? : Happening → Option Event
  | .handled event => some event
  | .submitted .. | .fabricated _ | .appended _ => none

/-- The events from the queue that a history handled, in order. -/
def handledEvents (history : List Happening) : List Event := history.filterMap Happening.handled?

@[simp] theorem handledEvents_concat (history : List Happening) (happening : Happening) :
    handledEvents (history ++ [happening]) =
      handledEvents history ++ happening.handled?.toList := by
  cases happening <;> simp [handledEvents, Happening.handled?]

namespace Course

/-- The numbers of requests, by where the requests are: running, completed in the queue, completed
in the hands of the owner, and completed for good. -/
def numbers (c : Course) : List Nat :=
  c.widget.running.map Task.number ++ completions c.widget.queue ++ completions c.held ++
    completions (handledEvents c.history)

theorem count_numbers (c : Course) (n : Nat) :
    c.numbers.count n = (c.widget.running.map Task.number).count n +
      (completions c.widget.queue).count n + (completions c.held).count n +
      (completions (handledEvents c.history)).count n := by
  simp only [numbers, List.count_append]

/-- No completion was made up. -/
def Genuine (c : Course) : Prop :=
  ∀ number outcome, Happening.fabricated (.completed number outcome) ∉ c.history

end Course

/-! ## A request that ends -/

theorem running_finish {w : Widget} {task : Task} (reply : Reply)
    (distinct : (w.running.map Task.number).Nodup) (h : task ∈ w.running) :
    (w.running.map Task.number).Perm
      (task.number :: (w.finish task reply).running.map Task.number) := by
  obtain ⟨before, after, split⟩ := List.append_of_mem h
  rw [split, List.map_append, List.map_cons] at distinct
  have others := List.nodup_middle.mp distinct
  rw [List.nodup_cons, List.mem_append, List.mem_map, List.mem_map] at others
  have kept : (w.finish task reply).running = before ++ after := by
    have ne_before : ∀ other ∈ before, other.number ≠ task.number :=
      fun other hb he => others.1 (.inl ⟨other, hb, he⟩)
    have ne_after : ∀ other ∈ after, other.number ≠ task.number :=
      fun other ha he => others.1 (.inr ⟨other, ha, he⟩)
    show w.running.filter _ = _
    rw [split, List.filter_append, List.filter_cons_of_neg (by simp),
      List.filter_eq_self.mpr (by simpa using ne_before),
      List.filter_eq_self.mpr (by simpa using ne_after)]
  rw [kept, split, List.map_append, List.map_cons, List.map_append]
  exact List.perm_middle

/-! ## The invariant -/

variable {url : Text} {options : Options} {containerHeight : Nat} {runtime : Bool} {c d : Course}

theorem distinct_running (h : c.numbers.Perm (List.range c.widget.nextNumber)) :
    (c.widget.running.map Task.number).Nodup := by
  have all := h.nodup_iff.mpr List.nodup_range
  simp only [Course.numbers, List.append_assoc] at all
  exact all.of_append_left

theorem step_numbers_perm (h : Step c d)
    (ih : c.numbers.Perm (List.range c.widget.nextNumber)) :
    d.numbers.Perm (List.range d.widget.nextNumber) := by
  cases h with
  | type | reprompt | drain | settle | clear | leave | abandon => exact ih
  | submit runtime _ accepted =>
    rw [submit_eq_begun accepted]
    simp only [nextNumber_begun, List.range_succ]
    refine List.Perm.trans (List.perm_iff_count.mpr fun n => ?_) (ih.append_right _)
    rw [List.count_append, Course.count_numbers, Course.count_numbers]
    cases runtime <;> simp [Happening.handled?, Event.number?] <;> omega
  | refuse runtime _ refused =>
    rw [submit_eq_self refused]
    exact ih
  | click selecting =>
    obtain same | same := click_eq c.widget selecting <;> rw [same] <;> exact ih
  | append output =>
    simpa [Course.numbers, Widget.append, Happening.handled?] using ih
  | take event widget _ next =>
    obtain ⟨rest, hq, rfl⟩ := take?_eq_some.mp next
    refine List.Perm.trans (List.perm_iff_count.mpr fun n => ?_) ih
    rw [Course.count_numbers, Course.count_numbers, hq]
    simp
    omega
  | handle before after event _ held =>
    rw [nextNumber_handle]
    refine List.Perm.trans (List.perm_iff_count.mpr fun n => ?_) ih
    rw [Course.count_numbers, Course.count_numbers, held]
    simp [Happening.handled?]
    omega
  | fabricate event =>
    simpa [Course.numbers, Happening.handled?] using ih
  | serve event widget _ next =>
    obtain ⟨rest, hq, rfl⟩ := take?_eq_some.mp next
    rw [nextNumber_handle]
    refine List.Perm.trans (List.perm_iff_count.mpr fun n => ?_) ih
    rw [Course.count_numbers, Course.count_numbers, hq]
    simp [Happening.handled?]
    omega
  | finish task reply running =>
    have ended := (running_finish reply (distinct_running ih) running).count_eq
    refine List.Perm.trans (List.perm_iff_count.mpr fun n => ?_) ih
    rw [Course.count_numbers, Course.count_numbers, ended n]
    simp [finish, Event.number?, List.count_cons]
    omega
  | post text =>
    simpa [Course.numbers, post, Event.number?] using ih

theorem start_numbers_perm : (Course.start url options containerHeight runtime).numbers.Perm
    (List.range (Course.start url options containerHeight runtime).widget.nextNumber) := by
  have fresh := start_fresh url options containerHeight runtime
  simp only [Course.numbers, Course.start, fresh.running_eq, fresh.queue_eq, fresh.nextNumber_eq]
  cases (options.resolve containerHeight).submitOnLoad <;> cases runtime <;> exact .refl _

theorem numbers_perm (h : Reachable url options containerHeight runtime c) :
    c.numbers.Perm (List.range c.widget.nextNumber) := by
  induction h with
  | start => exact start_numbers_perm
  | next _ step ih => exact step_numbers_perm step ih

theorem step_history (h : Step c d) : c.history <+: d.history := by
  cases h with
  | submit | append | handle | fabricate | serve => exact List.prefix_append _ _
  | type | refuse | reprompt | click | take | drain | settle | clear | leave | abandon | finish
  | post => exact List.prefix_rfl

theorem genuine_of_step (h : Step c d) (genuine : d.Genuine) : c.Genuine :=
  fun number outcome made => genuine number outcome ((step_history h).subset made)

theorem inFlight_handle_add (w : Widget) (event : Event)
    (counted : event.number?.toList.length ≤ w.inFlight) :
    (w.handle event).inFlight + event.number?.toList.length = w.inFlight := by
  rw [inFlight_handle]
  cases event <;> simp [Event.number?] at counted ⊢
  omega

/-- How many requests are dispatched and not handled. -/
def Course.pending (c : Course) : Nat :=
  c.widget.running.length + (completions c.widget.queue).length + (completions c.held).length

theorem step_inFlight (h : Step c d) (distinct : (c.widget.running.map Task.number).Nodup)
    (genuine : d.Genuine) (ih : c.widget.inFlight = c.pending) :
    d.widget.inFlight = d.pending := by
  unfold Course.pending at ih ⊢
  cases h with
  | type | reprompt | append | drain | settle | clear | leave | abandon => exact ih
  | submit runtime _ accepted =>
    rw [submit_eq_begun accepted]
    cases runtime <;> simp [Event.number?] <;> omega
  | refuse runtime _ refused =>
    rw [submit_eq_self refused]
    exact ih
  | click selecting =>
    obtain same | same := click_eq c.widget selecting <;> rw [same] <;> exact ih
  | take event widget _ next =>
    obtain ⟨rest, hq, rfl⟩ := take?_eq_some.mp next
    simp [hq] at ih ⊢
    omega
  | handle before after event _ held =>
    have exact_sub := inFlight_handle_add c.widget event (by simp [held] at ih; omega)
    simp [held] at ih ⊢
    omega
  | fabricate event =>
    cases event with
    | completed number outcome => exact absurd (by simp) (genuine number outcome)
    | append text => exact ih
  | serve event widget _ next =>
    obtain ⟨rest, hq, rfl⟩ := take?_eq_some.mp next
    have exact_sub := inFlight_handle_add { c.widget with queue := rest } event
      (by simp [hq] at ih ⊢; omega)
    simp [hq] at ih exact_sub ⊢
    omega
  | finish task reply running =>
    have ended := (running_finish reply distinct running).length_eq
    simp [finish, Event.number?] at ended ⊢
    omega
  | post text => simpa [post, Event.number?] using ih

/-- The widget counts the requests that are dispatched and not handled. -/
theorem inFlight_eq (h : Reachable url options containerHeight runtime c) (genuine : c.Genuine) :
    c.widget.inFlight = c.pending := by
  induction h with
  | start =>
    have fresh := start_fresh url options containerHeight runtime
    simp only [Course.pending, Course.start, fresh.running_eq, fresh.queue_eq, fresh.inFlight_eq]
    cases (options.resolve containerHeight).submitOnLoad <;> cases runtime <;> rfl
  | next reach step ih =>
    exact step_inFlight step (distinct_running (numbers_perm reach)) genuine
      (ih (genuine_of_step step genuine))

/-- A settle that has come to its last drain has nothing in flight. -/
theorem inFlight_clearing (h : Reachable url options containerHeight runtime c)
    (clearing : c.activity = .clearing) : c.widget.inFlight = 0 := by
  induction h with
  | start => cases clearing
  | @next c d _ step ih =>
    cases step with
    | clear _ settled => exact settled
    | serve event widget _ next =>
      obtain ⟨rest, _, rfl⟩ := take?_eq_some.mp next
      rw [inFlight_handle, ih clearing, Nat.zero_sub]
    | finish | post => exact ih clearing
    | drain | settle | leave | abandon => cases clearing
    | type _ idle | submit _ idle | refuse _ idle | reprompt idle | click _ idle | append _ idle
    | take _ _ idle | handle _ _ _ idle | fabricate _ idle => cases idle.symm.trans clearing

/-- **Every request completes once.** The numbers given out are, each once, those of the requests
that run, of the completions that wait in the queue, of those taken and not handled, and of those
handled. Unless a completion was made up, the widget counts the first three, so that no handled
completion finds the count at zero. A settle returns with nothing in flight and an empty queue. -/
theorem requests_complete_once (h : Reachable url options containerHeight runtime c) :
    (c.widget.running.map Task.number ++ completions c.widget.queue ++ completions c.held ++
      completions (handledEvents c.history)).Perm (List.range c.widget.nextNumber) ∧
    (c.Genuine → c.widget.inFlight = c.widget.running.length +
      (completions c.widget.queue).length + (completions c.held).length) ∧
    (∀ d number outcome, Step c d → c.Genuine →
      d.history = c.history ++ [.handled (.completed number outcome)] →
      c.widget.inFlight = d.widget.inFlight + 1) ∧
    (∀ d, Step c d → c.activity = .clearing → d.activity = .idle →
      d.widget.inFlight = 0 ∧ d.widget.queue = []) := by
  refine ⟨numbers_perm h, inFlight_eq h, ?_, ?_⟩
  · intro d number outcome step genuine handled
    have count := inFlight_eq h genuine
    unfold Course.pending at count
    cases step with
    | handle before after event _ held =>
      obtain rfl : event = .completed number outcome := by simpa using handled
      refine (inFlight_handle_add c.widget _ ?_).symm
      simp [held, Event.number?] at count ⊢
      omega
    | serve event widget _ next =>
      obtain rfl : event = .completed number outcome := by simpa using handled
      obtain ⟨rest, hq, rfl⟩ := take?_eq_some.mp next
      refine (inFlight_handle_add { c.widget with queue := rest } _ ?_).symm
      simp [hq, Event.number?] at count ⊢
      omega
    | submit | append | fabricate => simp at handled
    | type | refuse | reprompt | click | take | drain | settle | clear | leave | abandon | finish
    | post => simp at handled
  · intro d step clearing idle
    cases step with
    | leave _ empty =>
      have none_left := inFlight_clearing h clearing
      exact ⟨none_left, empty⟩
    | drain | settle | clear => cases idle
    | abandon settling => cases settling.symm.trans clearing
    | serve | finish | post => cases idle.symm.trans clearing
    | type _ free | submit _ free | refuse _ free | reprompt free | click _ free | append _ free
    | take _ _ free | handle _ _ _ free | fabricate _ free => cases free.symm.trans clearing

/-- A request forced by the start and a typed one overlap: the first is answered and its completion
taken while the second still runs. -/
theorem overlapping_requests_complete_once :
    ∃ c : Course, Reachable [] { submitOnLoad := some true } 0 true c ∧ c.Genuine ∧
      c.widget.inFlight = 2 ∧ c.held = [.completed 0 (.success ['u', 'p'])] ∧
      ([1] ++ completions c.widget.queue ++ completions c.held ++
        completions (handledEvents c.history)).Perm (List.range c.widget.nextNumber) ∧
      c.widget.inFlight = 1 + (completions c.widget.queue).length +
        (completions c.held).length := by
  have first : Reachable [] { submitOnLoad := some true } 0 true _ := .start
  have typed := first.next (.type _ ['l', 's'] rfl)
  have second := typed.next (.submit _ true rfl (by decide))
  have ended := second.next (.finish _ ⟨0, _⟩ (.answered (.ok ['u', 'p'])) (.head _))
  have taken := ended.next (.take _ _ _ rfl rfl)
  obtain ⟨numbers, count, -, -⟩ := requests_complete_once taken
  refine ⟨_, taken, ?genuine, rfl, rfl, numbers, count ?genuine⟩
  intro number outcome made
  change _ ∈ [Happening.submitted 0 [], .submitted 1 ['l', 's']] at made
  simp at made

end RemoteTerminal.Widget
