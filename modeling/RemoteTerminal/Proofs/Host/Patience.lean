import RemoteTerminal.Proofs.Host.Order
import Mathlib.Data.List.Basic

/-!
# Lines wait their turn

A posted text that is handled while a request is on its way shows the input line again, and then the
next line is submitted beside that request (`line_beside_request`). A host that handles posted texts
only while nothing is in flight (`PatientStep`) takes its lines in turns (`Talk`): nothing is in
flight and the input line can be seen, or one request is and the line is hidden until its completion
is handled. So a line is taken only when nothing is in flight, and the transcript is a conversation
in which each command is answered before anything else is shown (`lines_wait`).
-/

namespace RemoteTerminal

/-- What a command adds to a transcript, with the output of its reply. -/
def Settings.exchange (settings : Settings) (command : Text) (reply : Reply) : List Entry :=
  settings.echo command ++ [Entry.ofOutput settings reply.outcome.toText]

/-- The text that others posted. -/
def Event.posted? : Event → Option Text
  | .completed .. => none
  | .append text => some text

namespace Host

/-! ## What waits in the queue -/

/-- The completions among events. -/
def answers (events : List Event) : List Event := events.filter (·.number?.isSome)

/-- The texts of others among events. -/
def posts (events : List Event) : List Text := events.filterMap Event.posted?

theorem answers_append (xs ys : List Event) : answers (xs ++ ys) = answers xs ++ answers ys :=
  List.filter_append ..

theorem posts_append (xs ys : List Event) : posts (xs ++ ys) = posts xs ++ posts ys :=
  List.filterMap_append ..

theorem posts_cons (event : Event) (events : List Event) :
    posts (event :: events) = event.posted?.toList ++ posts events := by
  cases event <;> rfl

theorem answers_of_posts {events : List Event} (none_posted : posts events = []) :
    answers events = events := by
  rw [answers, List.filter_eq_self]
  intro event mem
  have unposted := List.filterMap_eq_nil_iff.mp none_posted event mem
  cases event with
  | completed => rfl
  | append => cases unposted

/-! ## Turns -/

/-- Commands and texts of others, with the entries that they add to a transcript: each command is
answered before the next one comes, the `n`-th by the `n`-th reply, and the texts stand between. -/
inductive Conversation (settings : Settings) (replies : Nat → Reply) :
    List Text → List Text → List Entry → Prop where
  | silence : Conversation settings replies [] [] []
  | answered {commands texts : List Text} {shown : List Entry} (command : Text)
      (before : Conversation settings replies commands texts shown) :
      Conversation settings replies (commands ++ [command]) texts
        (shown ++ settings.exchange command (replies commands.length))
  | posted {commands texts : List Text} {shown : List Entry} (text : Text)
      (before : Conversation settings replies commands texts shown) :
      Conversation settings replies commands (texts ++ [text])
        (shown ++ [Entry.ofOutput settings text])

/-- A command was taken whose completion is still to be handled. `texts` are the posted texts that
are shown. -/
structure Pending (settings : Settings) (replies : Nat → Reply) (commands texts : List Text)
    (dispatched : List Task) (w : Widget) (older : List Task) (task : Task) : Prop where
  dispatched_eq : dispatched = older ++ [task]
  hidden : w.input.visible = false
  inFlight_eq : w.inFlight = 1
  said : ∃ earlier command shown, commands = earlier ++ [command] ∧
    Conversation settings replies earlier texts shown ∧
    w.transcript = settings.welcome ++ shown ++ settings.echo command

/-- Whose turn it is: that of the lines, of the transport, or of the queue. -/
inductive Talk (settings : Settings) (replies : Nat → Reply) (commands texts : List Text)
    (dispatched sent : List Task) (w : Widget) : Prop where
  | ready (visible : w.input.visible = true) (inFlight_eq : w.inFlight = 0)
      (running_eq : w.running = []) (answers_eq : answers w.queue = [])
      (sent_eq : sent = dispatched)
      (said : ∃ shown, Conversation settings replies commands texts shown ∧
        w.transcript = settings.welcome ++ shown)
  | asked (older : List Task) (task : Task)
      (pending : Pending settings replies commands texts dispatched w older task)
      (running_eq : w.running = [task]) (answers_eq : answers w.queue = [])
      (sent_eq : sent = older ∨ sent = dispatched)
  | answered (older : List Task) (task : Task)
      (pending : Pending settings replies commands texts dispatched w older task)
      (running_eq : w.running = [])
      (answers_eq : answers w.queue = [.completed task.number (replies older.length).outcome])
      (sent_eq : sent = dispatched)

section
variable {replies : Nat → Reply} {url : Text} {settings : Settings}
variable {commands texts : List Text} {dispatched sent : List Task} {w : Widget}

/-- A command awaits its answer whatever is queued and wherever its request runs. -/
theorem Pending.of_same {older : List Task} {task : Task} {other : Widget}
    (pending : Pending settings replies commands texts dispatched w older task)
    (session : other.session = w.session) (inFlight : other.inFlight = w.inFlight) :
    Pending settings replies commands texts dispatched other older task := by
  obtain ⟨dispatched_eq, hidden, inFlight_eq, said⟩ := pending
  refine ⟨dispatched_eq, ?_, inFlight.trans inFlight_eq, ?_⟩
  · rw [Widget.input, session]
    exact hidden
  · rw [Widget.transcript, session]
    exact said

namespace Talk

/-- What others post waits in the queue. -/
theorem of_queue (talk : Talk settings replies commands texts dispatched sent w)
    {queue : List Event} (same : answers queue = answers w.queue) :
    Talk settings replies commands texts dispatched sent { w with queue } := by
  cases talk with
  | ready visible inFlight running answers sent said =>
    exact .ready visible inFlight running (same.trans answers) sent said
  | asked older task pending running answers sent =>
    exact .asked older task (pending.of_same rfl rfl) running (same.trans answers) sent
  | answered older task pending running answers sent =>
    exact .answered older task (pending.of_same rfl rfl) running (same.trans answers) sent

/-- A request that runs was asked, and it is the only one. -/
theorem of_running {task : Task} (talk : Talk settings replies commands texts dispatched sent w)
    (running : task ∈ w.running) :
    ∃ older, Pending settings replies commands texts dispatched w older task ∧
      w.running = [task] ∧ answers w.queue = [] ∧ (sent = older ∨ sent = dispatched) := by
  cases talk with
  | ready _ _ none_running => simp [none_running] at running
  | answered _ _ _ none_running => simp [none_running] at running
  | asked older other pending only answers sent =>
    obtain rfl : task = other := by simpa [only] using running
    exact ⟨older, pending, only, answers, sent⟩

/-- A line is submitted only where nothing is in flight. -/
theorem settled (talk : Talk settings replies commands texts dispatched sent w)
    (visible : w.input.visible = true) : w.inFlight = 0 := by
  cases talk with
  | ready _ inFlight => exact inFlight
  | asked _ _ pending | answered _ _ pending => simp [pending.hidden] at visible

end Talk

/-- Requests are numbered by their places. -/
theorem number_of_place {n k : Nat} {task : Task}
    (numbers : dispatched.map Task.number = List.range n) (at_k : dispatched[k]? = some task) :
    task.number = k := by
  have bound := (List.getElem?_eq_some_iff.mp at_k).1
  have count := congrArg List.length numbers
  have same := congrArg (·[k]?) numbers
  rw [List.length_map, List.length_range] at count
  simpa [List.getElem?_map, at_k, List.getElem?_range (count ▸ bound)] using same

/-- A command that is taken in its turn is asked. -/
theorem submit_talk (responsive : w.Responsive url settings) {taken : List Text} {line : Text}
    (visible : w.input.visible = true)
    (talk : Talk settings replies (settings.commands taken) texts dispatched sent w) :
    Talk settings replies (settings.commands (taken ++ [line])) texts
      (dispatched ++ startedBy w line) sent (submitLine w line) := by
  have enabled := responsive.enabled
  have same := responsive.settings_eq
  cases talk with
  | asked _ _ pending | answered _ _ pending => simp [pending.hidden] at visible
  | ready _ inFlight running answers sent said =>
    obtain ⟨shown, conversation, transcript⟩ := said
    rw [Settings.commands_concat, startedBy_eq responsive]
    have command : (w.type line).session.command = line.trim := command_type enabled
    cases ha : settings.admits line.trim with
    | true =>
      rw [submitLine_admitted enabled (by rw [same, ha])]
      have request := (responsive.type line).configured.request_eq
      rw [command] at request
      refine .asked dispatched ⟨w.nextNumber, .ofCommand url settings line.trim⟩
        ⟨rfl, ?_, ?_, settings.commands taken, line.trim, shown, rfl, conversation, ?_⟩ ?_ ?_
        (.inl sent)
      · simp [InputLine.hide, InputLine.clear]
      · simp [Widget.type, inFlight]
      · rw [Widget.transcript_begun, Widget.transcript_type, command, transcript]
        exact congrArg (_ ++ Settings.echo · _) same
      · rw [Widget.running_begun, request]
        exact congrArg (· ++ _) running
      · rw [Widget.queue_begun, if_pos rfl, List.append_nil]
        exact answers
    | false =>
      rw [submitLine_refused enabled (by rw [same, ha])]
      simp only [Bool.false_eq_true, if_false, List.append_nil]
      refine .ready ?_ inFlight running answers sent ⟨shown, conversation, transcript⟩
      show (w.type line).input.visible = true
      rw [Widget.input_type, InputLine.visible_setValue, visible]

/-- The reply of the transport is the reply of the one that asked. -/
theorem finish_talk {n k : Nat} (numbers : dispatched.map Task.number = List.range n) {task : Task}
    (running : task ∈ w.running) (reached : sent[k]? = some task)
    (talk : Talk settings replies commands texts dispatched sent w) :
    Talk settings replies commands texts dispatched sent (w.finish task (replies k)) := by
  obtain ⟨older, pending, only, unanswered, some_sent⟩ := talk.of_running running
  have place : task.number = older.length := by
    apply number_of_place numbers
    rw [pending.dispatched_eq, List.getElem?_concat_length]
  have at_k : dispatched[k]? = some task := by
    obtain before | all := some_sent
    · obtain ⟨within, _⟩ := List.getElem?_eq_some_iff.mp (before ▸ reached)
      rw [pending.dispatched_eq, List.getElem?_append_left within, ← before, reached]
    · rw [← all, reached]
  obtain rfl : k = older.length := (number_of_place numbers at_k).symm.trans place
  have all : sent = dispatched := by
    refine some_sent.resolve_left fun before => ?_
    rw [before, List.getElem?_eq_none (Nat.le_refl _)] at reached
    cases reached
  refine .answered older task (pending.of_same rfl rfl) ?_ ?_ all
  · simp [Widget.finish, only]
  · rw [Widget.finish, answers_append, unanswered]
    rfl

/-- A completion that is handled gives the turn back to the lines; a posted text that is handled
while nothing is in flight stands after what was said. -/
theorem handle_talk {event : Event} {rest : List Event} (configured : w.settings = settings)
    (numbered : commands.length = dispatched.length) (next : w.queue = event :: rest)
    (patient : event.posted?.isSome → w.inFlight = 0)
    (talk : Talk settings replies commands texts dispatched sent w) :
    Talk settings replies commands (texts ++ event.posted?.toList) dispatched sent
      ({ w with queue := rest }.handle event) := by
  have shows : ({ w with queue := rest }.handle event).transcript =
      w.transcript ++ [Entry.ofOutput settings event.text] := by
    rw [Widget.transcript_handle, ← configured]
    rfl
  cases event with
  | append text =>
    have settled := patient rfl
    cases talk with
    | asked _ _ pending | answered _ _ pending => simp [pending.inFlight_eq] at settled
    | ready _ inFlight running unanswered sent said =>
      obtain ⟨shown, conversation, transcript⟩ := said
      rw [next] at unanswered
      refine .ready (Widget.visible_handle _ _) inFlight running unanswered sent
        ⟨_, conversation.posted text, ?_⟩
      rw [shows, transcript, List.append_assoc]
      rfl
  | completed number outcome =>
    have first : answers w.queue = .completed number outcome :: answers rest := by
      rw [next]
      rfl
    cases talk with
    | ready _ _ _ unanswered | asked _ _ _ _ unanswered => simp [first] at unanswered
    | answered older task pending running answer sent =>
      obtain ⟨dispatched_eq, hidden, inFlight, earlier, command, shown, taken, conversation,
        transcript⟩ := pending
      obtain ⟨⟨rfl, rfl⟩, others⟩ : (number = task.number ∧
          outcome = (replies older.length).outcome) ∧ answers rest = [] := by
        simpa [first] using answer
      have place : older.length = earlier.length := by
        simpa [taken, dispatched_eq] using numbered.symm
      refine .ready (Widget.visible_handle _ _) ?_ running others sent
        ⟨shown ++ settings.exchange command (replies earlier.length), ?_, ?_⟩
      · simp [Widget.handle, inFlight]
      · rw [taken]
        show Conversation settings replies _ (texts ++ []) _
        rw [List.append_nil]
        exact conversation.answered command
      · rw [shows, transcript, place]
        simp [Settings.exchange, Event.text]

end

/-! ## A patient host -/

/-- A step that handles no posted text while a request is in flight. -/
structure PatientStep (replies : Nat → Reply) (s t : Loop) : Prop where
  step : Step replies s t
  patient : ∀ text, s.host.widget.queue = .append text :: t.host.widget.queue →
    s.host.widget.inFlight = 0

/-- `t` can follow `s`, some patient steps later. -/
abbrev PatientSteps (replies : Nat → Reply) : Loop → Loop → Prop :=
  Relation.ReflTransGen (PatientStep replies)

/-- A loop in which the lines wait their turn. -/
structure Patience (url : Text) (settings : Settings) (replies : Nat → Reply) (s : Loop) :
    Prop where
  configured : s.host.widget.session.Configured url settings
  numbers_eq : s.dispatched.map Task.number = List.range s.host.widget.nextNumber
  counted : (settings.commands s.taken).length = s.dispatched.length
  talk : ∃ texts, s.posted = texts ++ posts s.host.widget.queue ∧
    Talk settings replies (settings.commands s.taken) texts s.dispatched s.sent s.host.widget

variable {replies : Nat → Reply} {url : Text} {settings : Settings}
variable {lines : List (Except FileFault Text)} {s t : Loop}

theorem start_patience (url : Text) (options : Options) (containerHeight : Nat)
    (replies : Nat → Reply) (lines : List (Except FileFault Text)) :
    Patience url (options.resolve containerHeight) replies
      (.start (.start url options containerHeight true) lines) := by
  have fresh := Widget.start_fresh url options containerHeight true
  generalize options.resolve containerHeight = settings at fresh ⊢
  generalize Widget.start url options containerHeight true = w at fresh ⊢
  obtain ⟨configured, transcript, visible, -, inFlight, number, running, queue⟩ := fresh
  cases hs : settings.submitOnLoad with
  | false =>
    simp only [hs] at transcript visible inFlight number running queue
    refine ⟨configured, ?_, ?_, [], ?_, .ready visible inFlight running ?_ running.symm
      ⟨[], ?_, transcript⟩⟩
    · simp [Loop.start, running, number]
    · simp [Loop.start, running, Settings.commands, Settings.commandsOf, hs]
    · simp [Loop.start, queue, posts]
    · simp [Loop.start, queue, answers]
    · simpa [Loop.start, Settings.commands, Settings.commandsOf, hs] using .silence
  | true =>
    simp only [hs] at transcript visible inFlight number running queue
    refine ⟨configured, ?_, ?_, [], ?_, .asked [] ⟨0, .ofCommand url settings []⟩
      ⟨running, visible, inFlight, [], [], [], ?_, .silence, ?_⟩ running ?_ (.inl rfl)⟩
    · simp [Loop.start, running, number]
    · simp [Loop.start, running, Settings.commands, Settings.commandsOf, hs]
    · simp [Loop.start, queue, posts]
    · simp [Loop.start, Settings.commands, Settings.commandsOf, hs]
    · simp [Loop.start, transcript]
    · simp [Loop.start, queue, answers]

theorem step_patience (h : PatientStep replies s t) (ih : Patience url settings replies s) :
    Patience url settings replies t := by
  obtain ⟨configured, numbers, counted, texts, posted, talk⟩ := ih
  obtain ⟨step, patient⟩ := h
  cases step with
  | line | fault | close | interrupt | ignore | rest | leave =>
    exact ⟨configured, numbers, counted, texts, posted, talk⟩
  | post text =>
    refine ⟨configured, numbers, counted, texts, ?_, talk.of_queue ?_⟩
    · rw [posted, Widget.post, posts_append, List.append_assoc]
      rfl
    · rw [answers_append]
      exact List.append_nil _
  | reach task running fresh =>
    refine ⟨configured, numbers, counted, texts, posted, ?_⟩
    obtain ⟨older, pending, only, unanswered, before | all⟩ := talk.of_running running
    · refine .asked older task pending only unanswered (.inr ?_)
      rw [before, pending.dispatched_eq]
    · simp [all, pending.dispatched_eq] at fresh
  | finish task k running reached =>
    refine ⟨configured, numbers, counted, texts, ?_, finish_talk numbers running reached talk⟩
    rw [posted, Widget.finish, posts_append]
    exact congrArg (texts ++ ·) (List.append_nil _).symm
  | event event widget _ next | drain event widget _ next =>
    obtain ⟨rest, first, rfl⟩ := Widget.take?_eq_some.mp next
    have kept : ({ s.host.widget with queue := rest }.handle event).queue = rest :=
      Widget.queue_handle _ _
    refine ⟨?_, ?_, counted, texts ++ event.posted?.toList, ?_,
      handle_talk configured.settings_eq counted first ?_ talk⟩
    · rw [Widget.session_handle]
      exact configured.with_panel _
    · rw [Widget.nextNumber_handle]
      exact numbers
    · rw [posted, first, posts_cons, kept, List.append_assoc]
    · intro is_post
      cases event with
      | completed => cases is_post
      | append text =>
        apply patient text
        rw [first, kept]
  | submit line rest _ visible enabled =>
    have responsive : s.host.widget.Responsive url settings :=
      ⟨configured, enabled, fun hidden => by simp [visible] at hidden⟩
    refine ⟨(responsive.submitLine line).configured, numbers_startedBy responsive line numbers, ?_,
      texts, ?_, submit_talk responsive visible talk⟩
    · rw [Settings.commands_concat, startedBy_eq responsive, List.length_append,
        List.length_append, counted]
      cases settings.admits line.trim <;> rfl
    · rw [posted, queue_submitLine]

theorem reachable_patience {options : Options} {containerHeight : Nat}
    (h : PatientSteps replies (.start (.start url options containerHeight true) lines) s) :
    Patience url (options.resolve containerHeight) replies s := by
  induction h with
  | refl => exact start_patience url options containerHeight replies lines
  | tail _ step ih => exact step_patience step ih

/-- What a conversation stands at: a command that awaits its answer is the last one, and its echo is
the last entry. -/
theorem Talk.standing {commands texts : List Text} {dispatched sent : List Task} {w : Widget}
    (talk : Talk settings replies commands texts dispatched sent w) :
    ∃ answered awaited shown, commands = answered ++ awaited ∧ awaited.length = w.inFlight ∧
      w.inFlight ≤ 1 ∧ Conversation settings replies answered texts shown ∧
      w.transcript = settings.welcome ++ shown ++ awaited.flatMap settings.echo := by
  cases talk with
  | ready _ inFlight _ _ _ said =>
    obtain ⟨shown, conversation, transcript⟩ := said
    refine ⟨commands, [], shown, (List.append_nil _).symm, inFlight.symm, ?_, conversation, ?_⟩
    · omega
    · rw [transcript]
      exact (List.append_nil _).symm
  | asked _ _ pending | answered _ _ pending =>
    obtain ⟨-, -, inFlight, earlier, command, shown, taken, conversation, transcript⟩ := pending
    refine ⟨earlier, [command], shown, taken, inFlight.symm, ?_, conversation, ?_⟩
    · omega
    · rw [transcript, List.flatMap_singleton]

/-- **Lines wait their turn.** In a loop that handles posted texts only while nothing is in flight,
at most one request is in flight at any point, and no step takes a line while one is. The transcript
is a conversation: each command taken is followed by the output of its own reply before another
command is echoed, and the posted texts that are shown stand between. -/
theorem lines_wait {options : Options} {containerHeight : Nat}
    (h : PatientSteps replies (.start (.start url options containerHeight true) lines) s) :
    let settings := options.resolve containerHeight
    s.host.widget.inFlight ≤ 1 ∧
    (∀ t, Step replies s t → t.taken ≠ s.taken → s.host.widget.inFlight = 0) ∧
    ∃ answered awaited texts shown,
      settings.commands s.taken = answered ++ awaited ∧
      awaited.length = s.host.widget.inFlight ∧
      s.posted = texts ++ posts s.host.widget.queue ∧
      Conversation settings replies answered texts shown ∧
      s.host.widget.transcript = settings.welcome ++ shown ++ awaited.flatMap settings.echo := by
  intro settings
  obtain ⟨-, -, -, texts, posted, talk⟩ := reachable_patience h
  obtain ⟨answered, awaited, shown, commands, one, bound, conversation, transcript⟩ := talk.standing
  refine ⟨bound, ?_, answered, awaited, texts, shown, commands, one, posted, conversation,
    transcript⟩
  intro t step takes
  cases step with
  | submit line rest _ visible => exact talk.settled visible
  | _ => exact absurd rfl takes

/-- The second line is taken after the first was answered and a posted text was handled. -/
theorem second_line_waits :
    let settings := Options.resolve {} 0
    ∃ s : Loop, PatientSteps (fun _ => .answered (.ok ['a'])) (.start (.start [] {} 0 true)
        [.ok ['l', 's'], .ok ['p', 'w', 'd']]) s ∧
      s.taken = [['l', 's'], ['p', 'w', 'd']] ∧ s.posted = [['x']] ∧
      s.host.widget.transcript =
        [.ofCommand settings ['l', 's'], .ofOutput settings ['a'], .ofOutput settings ['x'],
          .ofCommand settings ['p', 'w', 'd']] ∧
      s.host.widget.inFlight = 1 ∧ s.host.widget.inFlight ≤ 1 := by
  intro settings
  have start : PatientSteps (fun _ => .answered (.ok ['a'])) (.start (.start [] {} 0 true)
      [.ok ['l', 's'], .ok ['p', 'w', 'd']]) _ := .refl
  have met := start.tail ⟨.line _ _ _ rfl rfl rfl, nofun⟩
  have taken := met.tail ⟨.submit _ _ _ rfl rfl rfl rfl, nofun⟩
  have waiting := taken.tail ⟨.rest _ rfl (.inr rfl), nofun⟩
  have reached := waiting.tail ⟨.reach _ _ (.head _) nofun, nofun⟩
  have finished := reached.tail ⟨.finish _ _ 0 (.head _) rfl, nofun⟩
  have answered := finished.tail ⟨.event _ _ _ rfl rfl, nofun⟩
  have waiting_again := answered.tail ⟨.rest _ rfl (.inr rfl), nofun⟩
  have posted := waiting_again.tail ⟨.post _ ['x'], nofun⟩
  have shown := posted.tail ⟨.event _ _ _ rfl rfl, fun _ _ => rfl⟩
  have resting := shown.tail ⟨.rest _ rfl (.inr rfl), nofun⟩
  have met_second := resting.tail ⟨.line _ _ _ rfl rfl rfl, nofun⟩
  have taken_second := met_second.tail ⟨.submit _ _ _ rfl rfl rfl rfl, nofun⟩
  exact ⟨_, taken_second, rfl, rfl, rfl, rfl, (lines_wait taken_second).1⟩

/-- A posted text that is handled while the request of the first line is in flight: the second line
does not wait, and its echo comes before the answer to the first. -/
theorem line_beside_request :
    let settings := Options.resolve {} 0
    ∃ s t : Loop, Steps (fun _ => .answered (.ok ['a'])) (.start (.start [] {} 0 true)
        [.ok ['l', 's'], .ok ['p', 'w', 'd']]) s ∧
      Step (fun _ => .answered (.ok ['a'])) s t ∧
      s.taken = [['l', 's']] ∧ s.host.widget.inFlight = 1 ∧
      t.taken = [['l', 's'], ['p', 'w', 'd']] ∧ t.host.widget.inFlight = 2 ∧
      t.host.widget.transcript =
        [.ofCommand settings ['l', 's'], .ofOutput settings ['x'],
          .ofCommand settings ['p', 'w', 'd']] := by
  intro settings
  have start : Steps (fun _ => .answered (.ok ['a'])) (.start (.start [] {} 0 true)
      [.ok ['l', 's'], .ok ['p', 'w', 'd']]) _ := .refl
  have met := start.tail (.line _ _ _ rfl rfl rfl)
  have taken := met.tail (.submit _ _ _ rfl rfl rfl rfl)
  have waiting := taken.tail (.rest _ rfl (.inr rfl))
  have posted := waiting.tail (.post _ ['x'])
  have shown := posted.tail (.event _ _ _ rfl rfl)
  have waiting_again := shown.tail (.rest _ rfl (.inr rfl))
  have met_second := waiting_again.tail (.line _ _ _ rfl rfl rfl)
  exact ⟨_, _, met_second, .submit _ _ _ rfl rfl rfl rfl, rfl, rfl, rfl, rfl, rfl⟩

end Host
end RemoteTerminal
