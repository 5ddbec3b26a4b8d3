import RemoteTerminal.Proofs.Host.Schedule

/-!
# Whose requests a host sends

* `reachable_requested`: in every loop, whatever its options and whatever is posted, the requests
  dispatched are those of the commands taken (`Requested`).
* `run_scripted`: a run with a transport that always replies is one in which the replies are given
  in order, and so (`run_looped`) it goes one of the ways that the loop can go.
-/

namespace RemoteTerminal.Host

/-! ## The loop -/

/-- A loop whose requests are those of its commands. -/
structure Requested (url : Text) (settings : Settings) (s : Loop) : Prop where
  configured : s.host.widget.session.Configured url settings
  requests_eq : s.dispatched.map Task.request =
    (settings.commands s.taken).map (Request.ofCommand url settings)
  running_mem : ∀ task ∈ s.host.widget.running, task ∈ s.dispatched
  sent_mem : ∀ task ∈ s.sent, task ∈ s.dispatched

section
variable {replies : Nat → Reply} {url : Text} {settings : Settings}
variable {lines : List (Except FileFault Text)} {s t : Loop}

theorem start_requested (url : Text) (options : Options) (containerHeight : Nat)
    (lines : List (Except FileFault Text)) :
    Requested url (options.resolve containerHeight)
      (.start (.start url options containerHeight true) lines) := by
  have fresh := Widget.start_fresh url options containerHeight true
  refine ⟨fresh.configured, ?_, fun _ running => running, nofun⟩
  simp only [Loop.start, fresh.running_eq, Settings.commands]
  cases (options.resolve containerHeight).submitOnLoad <;> rfl

theorem step_requested (h : Step replies s t) (ih : Requested url settings s) :
    Requested url settings t := by
  obtain ⟨configured, requests, running, sent⟩ := ih
  cases h with
  | line | fault | close | interrupt | ignore | rest | leave | post =>
    exact ⟨configured, requests, running, sent⟩
  | event event widget _ next | drain event widget _ next =>
    obtain ⟨rest, _, rfl⟩ := Widget.take?_eq_some.mp next
    refine ⟨?_, requests, ?_, sent⟩
    · rw [Widget.session_handle]
      exact configured.with_panel _
    · rw [Widget.running_handle]
      exact running
  | submit line rest _ visible enabled =>
    have responsive : s.host.widget.Responsive url settings :=
      ⟨configured, enabled, fun hidden => by simp [visible] at hidden⟩
    refine ⟨(responsive.submitLine line).configured, ?_, ?_, ?_⟩
    · rw [List.map_append, requests, Settings.commands_concat, List.map_append,
        startedBy_eq responsive]
      cases settings.admits line.trim <;> rfl
    · rw [running_submitLine]
      exact fun task mem => List.mem_append.mpr ((List.mem_append.mp mem).imp_left (running task))
    · exact fun task mem => List.mem_append_left _ (sent task mem)
  | reach task reached =>
    refine ⟨configured, requests, running, fun other mem => ?_⟩
    obtain before | same := List.mem_append.mp mem
    · exact sent other before
    · exact List.mem_singleton.mp same ▸ running task reached
  | finish task =>
    exact ⟨configured, requests, fun other mem => running other (List.mem_of_mem_filter mem), sent⟩

theorem reachable_requested {options : Options} {containerHeight : Nat}
    (h : Steps replies (.start (.start url options containerHeight true) lines) s) :
    Requested url (options.resolve containerHeight) s := by
  induction h with
  | refl => exact start_requested url options containerHeight lines
  | tail _ step ih => exact step_requested step ih

end

/-! ## The run -/

section
variable {σ : Type} {transport : Transport σ}

/-- A run part-way, with a transport that counts its requests in the place of its own. -/
def Progress.counting (p : Progress σ) (count : Nat) : Progress Nat where
  host := p.host
  transport := count
  sent := p.sent
  interrupted := p.interrupted
  fault := p.fault

/-- Whether replies give these ones from some place on. -/
def Gives (replies : Nat → Reply) (first : Nat) (given : List Reply) : Prop :=
  ∀ k reply, given[k]? = some reply → replies (first + k) = reply

theorem Gives.append {replies : Nat → Reply} {first : Nat} {given later : List Reply}
    (gives : Gives replies first (given ++ later)) :
    Gives replies first given ∧ Gives replies (first + given.length) later := by
  constructor
  · intro k reply place
    exact gives k reply (List.getElem?_append_left (List.getElem?_eq_some_iff.mp place).1 ▸ place)
  · intro k reply place
    rw [Nat.add_assoc]
    exact gives _ reply (by rw [List.getElem?_append_right (by omega)]; simpa using place)

namespace Progress

variable (steady : ∀ state request, (transport state request).1 ≠ none)
include steady

theorem answer_scripted (fuel : Nat) (p : Progress σ) (first : Nat) :
    ∃ given : List Reply, ∀ replies, Gives replies first given →
      answer (inOrder replies) fuel (p.counting first) =
        (answer transport fuel p).counting (first + given.length) := by
  induction fuel generalizing p first with
  | zero => exact ⟨[], fun _ _ => rfl⟩
  | succ fuel ih =>
    unfold answer
    rw [counting]
    dsimp only
    cases p.host.widget.running with
    | nil => exact ⟨[], fun _ _ => rfl⟩
    | cons task others =>
      dsimp only
      have replied := steady p.transport task.request
      generalize transport p.transport task.request = answered at replied
      obtain ⟨reply?, state⟩ := answered
      cases reply? with
      | none => exact absurd rfl replied
      | some reply =>
        let widget := p.host.widget.finish task reply
        let host := meetEvents (widget.queue.length) { p.host with widget }
        obtain ⟨given, scripted⟩ :=
          ih { p with host, transport := state, sent := p.sent ++ [task.request] } (first + 1)
        refine ⟨reply :: given, fun replies gives => ?_⟩
        obtain ⟨now, later⟩ : Gives replies first [reply] ∧ Gives replies (first + 1) given :=
          Gives.append gives
        have same : replies first = reply := now 0 reply rfl
        simp only [inOrder, same]
        rw [List.length_cons, Nat.add_comm given.length, ← Nat.add_assoc]
        exact scripted replies later

theorem settle_scripted (p : Progress σ) (first : Nat) :
    ∃ given : List Reply, ∀ replies, Gives replies first given →
      (p.counting first).settle (inOrder replies) =
        (p.settle transport).counting (first + given.length) :=
  answer_scripted steady _ p first

theorem meetLines_scripted (lines : List (Except FileFault Text)) (p : Progress σ) (first : Nat) :
    ∃ given : List Reply, ∀ replies, Gives replies first given →
      meetLines (inOrder replies) lines (p.counting first) =
        (meetLines transport lines p).counting (first + given.length) := by
  induction lines generalizing p first with
  | nil =>
    refine ⟨[], fun replies _ => ?_⟩
    unfold meetLines
    show (if p.interrupted then _ else _) = _
    split <;> rfl
  | cons line lines ih =>
    unfold meetLines
    rw [counting]
    dsimp only
    split
    · exact ⟨[], fun _ _ => rfl⟩
    · cases line with
      | error fault => exact ⟨[], fun _ _ => rfl⟩
      | ok text =>
        let met : Progress σ := { p with host := p.host.meetLine text }
        obtain ⟨given, settles⟩ := settle_scripted steady met first
        obtain ⟨later, goes_on⟩ := ih (met.settle transport) (first + given.length)
        refine ⟨given ++ later, fun replies gives => ?_⟩
        obtain ⟨now, then_on⟩ := gives.append
        show meetLines (inOrder replies) lines ((met.counting first).settle (inOrder replies)) = _
        rw [settles replies now, goes_on replies then_on, List.length_append, Nat.add_assoc]

end Progress

/-- A run with a transport that always replies is one in which its replies are given in order. -/
theorem run_scripted (steady : ∀ state request, (transport state request).1 ≠ none) (state : σ)
    (widget : Widget) (lines : List (Except FileFault Text)) :
    ∃ (replies : Nat → Reply) (count : Nat), run (inOrder replies) 0 widget lines =
      (run transport state widget lines).counting count := by
  let begun : Progress σ := { host := { widget }, transport := state }
  obtain ⟨given, settles⟩ := Progress.settle_scripted steady begun 0
  obtain ⟨later, goes_on⟩ :=
    Progress.meetLines_scripted steady lines (begun.settle transport) (0 + given.length)
  let replies (k : Nat) : Reply := ((given ++ later)[k]?).getD .panicked
  have gives : Gives replies 0 (given ++ later) := by
    intro k reply place
    rw [Nat.zero_add]
    show ((given ++ later)[k]?).getD .panicked = reply
    rw [place]
    rfl
  obtain ⟨now, then_on⟩ := gives.append
  refine ⟨replies, 0 + given.length + later.length, ?_⟩
  show Progress.meetLines (inOrder replies) lines
    ((begun.counting 0).settle (inOrder replies)) = _
  rw [settles replies now, goes_on replies then_on]
  rfl

/-- So a run goes one of the ways that the loop can go. -/
theorem run_looped (steady : ∀ state request, (transport state request).1 ≠ none) (state : σ)
    (url : Text) (options : Options) (containerHeight : Nat)
    (lines : List (Except FileFault Text)) :
    let start := Widget.start url options containerHeight true
    let result := run transport state start lines
    ∃ replies s, Steps replies (.start start lines) s ∧ s.posted = [] ∧ s.host = result.host ∧
      s.sent.map Task.request = result.sent := by
  intro start result
  obtain ⟨replies, count, same⟩ := run_scripted steady state start lines
  obtain ⟨s, steps, quiet, host, sent, -, -⟩ := @run_followed options containerHeight replies url lines
  rw [same] at host sent
  exact ⟨replies, s, steps, quiet, host, sent⟩

end

end RemoteTerminal.Host
