import RemoteTerminal.Proofs.Host.Patience
import Mathlib.Data.List.Basic

/-!
# One command at a time

While nobody posts, a host is patient (`patient_of_quiet`) and takes its lines in turns (`Turn`). So
a loop that the end of the lines has ended sent the requests of the lines one after the other, and
shows each command with the output of its own reply (`ended_eq`).
-/

namespace RemoteTerminal

/-- What commands add to a transcript, one after the other; the first is answered by the reply
`first`. -/
def Settings.exchanges (settings : Settings) (replies : Nat → Reply) (commands : List Text)
    (first : Nat) : List Entry :=
  (commands.zipIdx first).flatMap fun (command, n) => settings.exchange command (replies n)

namespace Settings

variable (settings : Settings) (replies : Nat → Reply)

theorem exchanges_append (commands others : List Text) (first : Nat) :
    settings.exchanges replies (commands ++ others) first =
      settings.exchanges replies commands first ++
        settings.exchanges replies others (first + commands.length) := by
  simp [exchanges, List.zipIdx_append]

theorem exchanges_singleton (command : Text) (n : Nat) :
    settings.exchanges replies [command] n = settings.exchange command (replies n) := by
  simp [exchanges]

/-- The forced command is shown only where an empty one counts. -/
theorem exchanges_forced :
    settings.exchanges replies (if settings.submitOnLoad then [[]] else []) 0 =
      if settings.submitOnLoad then
        (if settings.allowEmptyInput then [Entry.ofCommand settings []] else []) ++
          [Entry.ofOutput settings (replies 0).outcome.toText]
      else [] := by
  cases settings.submitOnLoad with
  | false => rfl
  | true => simp [exchanges, exchange, echo, admits]

/-- A line that was admitted shows its command. -/
theorem exchange_of_admits {command : Text} (h : settings.admits command = true) (reply : Reply) :
    settings.exchange command reply =
      [Entry.ofCommand settings command, Entry.ofOutput settings reply.outcome.toText] := by
  rw [exchange, echo, if_pos h]
  rfl

theorem exchanges_commandsOf (lines : List Text) (first : Nat) :
    settings.exchanges replies (settings.commandsOf lines) first =
      ((settings.commandsOf lines).zipIdx first).flatMap fun (command, n) =>
        [Entry.ofCommand settings command,
          Entry.ofOutput settings (replies n).outcome.toText] := by
  refine List.flatMap_congr fun (command, n) mem => settings.exchange_of_admits ?_ _
  obtain ⟨line, admitted, rfl⟩ := List.mem_map.mp (List.fst_mem_of_mem_zipIdx mem)
  exact (List.mem_filter.mp admitted).2

end Settings

namespace Host

/-- A command that was taken and whose completion is still to be handled. -/
structure Awaiting (settings : Settings) (replies : Nat → Reply) (commands : List Text)
    (dispatched : List Task) (w : Widget) (older : List Task) (task : Task) : Prop where
  dispatched_eq : dispatched = older ++ [task]
  hidden : w.input.visible = false
  inFlight_eq : w.inFlight = 1
  shown : ∃ earlier command, commands = earlier ++ [command] ∧
    w.transcript =
      settings.welcome ++ settings.exchanges replies earlier 0 ++ settings.echo command

/-- Whose turn it is: that of the lines, of the transport, or of the queue. -/
inductive Turn (settings : Settings) (replies : Nat → Reply) (commands : List Text)
    (dispatched sent : List Task) (w : Widget) : Prop where
  | ready (visible : w.input.visible = true) (inFlight_eq : w.inFlight = 0)
      (running_eq : w.running = []) (queue_eq : w.queue = []) (sent_eq : sent = dispatched)
      (shown : w.transcript = settings.welcome ++ settings.exchanges replies commands 0)
  | asked (older : List Task) (task : Task)
      (awaiting : Awaiting settings replies commands dispatched w older task)
      (running_eq : w.running = [task]) (queue_eq : w.queue = [])
      (sent_eq : sent = older ∨ sent = dispatched)
  | answered (older : List Task) (task : Task)
      (awaiting : Awaiting settings replies commands dispatched w older task)
      (running_eq : w.running = [])
      (queue_eq : w.queue = [.completed task.number (replies older.length).outcome])
      (sent_eq : sent = dispatched)

/-- A loop in which the turns are kept. -/
abbrev InTurn (settings : Settings) (replies : Nat → Reply) (s : Loop) : Prop :=
  Turn settings replies (settings.commands s.taken) s.dispatched s.sent s.host.widget

variable {replies : Nat → Reply} {url : Text} {settings : Settings}
variable {lines : List (Except FileFault Text)} {s t : Loop}

/-- Without texts of others a conversation is exchanges alone. -/
theorem Conversation.eq_exchanges {commands texts : List Text} {shown : List Entry}
    (h : Conversation settings replies commands texts shown) (alone : texts = []) :
    shown = settings.exchanges replies commands 0 := by
  induction h with
  | silence => rfl
  | answered command _ ih =>
    rw [ih alone, Settings.exchanges_append, Settings.exchanges_singleton, Nat.zero_add]
  | posted => simp at alone

theorem Pending.awaiting {commands : List Text} {dispatched older : List Task} {w : Widget}
    {task : Task} (pending : Pending settings replies commands [] dispatched w older task) :
    Awaiting settings replies commands dispatched w older task := by
  obtain ⟨dispatched_eq, hidden, inFlight, earlier, command, shown, taken, conversation,
    transcript⟩ := pending
  refine ⟨dispatched_eq, hidden, inFlight, earlier, command, taken, ?_⟩
  rw [transcript, conversation.eq_exchanges rfl]

/-- While nobody posts, only turns are left of a talk. -/
theorem Talk.turn {commands : List Text} {dispatched sent : List Task} {w : Widget}
    (talk : Talk settings replies commands [] dispatched sent w) (quiet : posts w.queue = []) :
    Turn settings replies commands dispatched sent w := by
  have only_answers := answers_of_posts quiet
  cases talk with
  | ready visible inFlight running unanswered sent said =>
    obtain ⟨shown, conversation, transcript⟩ := said
    refine .ready visible inFlight running (only_answers.symm.trans unanswered) sent ?_
    rw [transcript, conversation.eq_exchanges rfl]
  | asked older task pending running unanswered sent =>
    exact .asked older task pending.awaiting running (only_answers.symm.trans unanswered) sent
  | answered older task pending running answer sent =>
    exact .answered older task pending.awaiting running (only_answers.symm.trans answer) sent

theorem posted_of_step (h : Step replies s t) (quiet : t.posted = []) : s.posted = [] := by
  cases h with
  | post => simp at quiet
  | _ => exact quiet

theorem Patience.quiet (h : Patience url settings replies s) (quiet : s.posted = []) :
    posts s.host.widget.queue = [] ∧ InTurn settings replies s := by
  obtain ⟨-, -, -, texts, posted, talk⟩ := h
  obtain ⟨rfl, none_waits⟩ := List.append_eq_nil_iff.mp (posted.symm.trans quiet)
  exact ⟨none_waits, talk.turn none_waits⟩

/-- Where nobody posts, every host is patient. -/
theorem patient_of_quiet {options : Options} {containerHeight : Nat}
    (h : Steps replies (.start (.start url options containerHeight true) lines) s)
    (quiet : s.posted = []) :
    PatientSteps replies (.start (.start url options containerHeight true) lines) s := by
  induction h with
  | refl => exact .refl
  | tail _ step ih =>
    have still_quiet := posted_of_step step quiet
    have patient := ih still_quiet
    refine patient.tail ⟨step, fun text first => ?_⟩
    have none_waits := ((reachable_patience patient).quiet still_quiet).1
    simp [first, posts_cons, Event.posted?] at none_waits

theorem reachable_turn {options : Options} {containerHeight : Nat}
    (h : Steps replies (.start (.start url options containerHeight true) lines) s)
    (quiet : s.posted = []) : InTurn (options.resolve containerHeight) replies s :=
  ((reachable_patience (patient_of_quiet h quiet)).quiet quiet).2

/-- What a loop that the end of the lines has ended sent and shows. -/
theorem ended_eq {options : Options} {containerHeight : Nat} {typed : List Text}
    (enabled : (options.resolve containerHeight).inputDisabled = false)
    (h : Steps replies (.start (.start url options containerHeight true) (typed.map .ok)) s)
    (quiet : s.posted = []) (ended : s.phase = .ended .closed) :
    let settings := options.resolve containerHeight
    s.sent.map Task.number = List.range s.sent.length ∧
    s.sent.map Task.request = (settings.commands typed).map (.ofCommand url settings) ∧
    s.host.widget.transcript =
      settings.welcome ++ settings.exchanges replies (settings.commands typed) 0 := by
  intro settings
  have ordered : Ordered url settings (typed.map .ok) s := reachable_ordered enabled h
  have turn := reachable_turn h quiet
  obtain ⟨closed, empty, settled⟩ := ordered.left (.inr ended)
  have all := ordered.lines_eq
  rw [empty, ordered.at_end closed, List.append_nil, List.append_nil] at all
  obtain rfl : typed = s.taken := List.map_injective_iff.mpr (fun _ _ => Except.ok.inj) all
  cases turn with
  | asked _ _ awaiting => simp [awaiting.inFlight_eq] at settled
  | answered _ _ awaiting => simp [awaiting.inFlight_eq] at settled
  | ready _ _ _ _ sent shown =>
    rw [sent]
    exact ⟨ordered.numbers_range, ordered.requests_eq, shown⟩

end Host
end RemoteTerminal
