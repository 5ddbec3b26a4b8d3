import RemoteTerminal.Http.Exchange

/-!
# What an exchange comes to

* `exchange_of_final`, `exchange_of_onward`: an answer that leads on to no other call ends an
  exchange, and any other lets it go on with the next call.
* `Leads.exchange_eq`: a call comes to what the last call comes to that it leads on to.
* `send_of_leads`: so does a request.
* `exchange_recording`: an exchange is the same over a network that keeps a record of the calls, and
  the call that began it is the first on that record.
-/

namespace RemoteTerminal.Http.Network

variable {σ : Type} {network : Network σ} {seconds hops : Nat} {state final : σ}
variable {call next last : Call}

/-- The call that the answer to a call leads on to. -/
def onward? (network : Network σ) (seconds : Nat) (state : σ) (call : Call) : Option Call :=
  Http.onward? network.redirect call (network.answer seconds state call).1

/-- The state of a network once it has answered a call. -/
def after (network : Network σ) (seconds : Nat) (state : σ) (call : Call) : σ :=
  (network.answer seconds state call).2

theorem exchange_of_final (h : network.onward? seconds state call = none) :
    network.exchange seconds hops state call =
      (read call (network.answer seconds state call).1, network.after seconds state call) := by
  unfold onward? at h
  cases hops with
  | zero | succ =>
    simp only [exchange, Http.exchange, bind, StateT.bind, StateT.run, h, after,
      Option.isSome_none, Bool.false_eq_true, if_false]
    rfl

theorem exchange_of_onward (h : network.onward? seconds state call = some next) :
    network.exchange seconds (hops + 1) state call =
      network.exchange seconds hops (network.after seconds state call) next := by
  unfold onward? at h
  simp only [exchange, Http.exchange, bind, StateT.bind, StateT.run, h, after]

/-- No hop is left for an answer that leads on. -/
theorem exchange_of_exhausted (h : network.onward? seconds state call = some next) :
    network.exchange seconds 0 state call =
      (.error (.exchange .broken), network.after seconds state call) := by
  unfold onward? at h
  simp only [exchange, Http.exchange, bind, StateT.bind, StateT.run, h, after,
    Option.isSome_some, if_true]
  rfl

/-- A call leads on to another, in some hops, by the answers of a network. -/
inductive Leads (network : Network σ) (seconds : Nat) : σ → Call → Nat → σ → Call → Prop where
  | here (state : σ) (call : Call) : Leads network seconds state call 0 state call
  | onward {hops : Nat} {state final : σ} {call next last : Call}
      (first : network.onward? seconds state call = some next)
      (later : Leads network seconds (network.after seconds state call) next hops final last) :
      Leads network seconds state call (hops + 1) final last

theorem Leads.exchange_eq (h : Leads network seconds state call hops final last) (left : Nat) :
    network.exchange seconds (hops + left) state call =
      network.exchange seconds left final last := by
  induction h with
  | here => rw [Nat.zero_add]
  | @onward hops state final call next last first later ih =>
    rw [Nat.add_right_comm, exchange_of_onward first]
    exact ih

/-- What comes back for the last call that a request leads to is what the request comes to. -/
theorem send_of_leads {stamp : Text} {request : Request}
    (prepared : Call.prepare network.readUrl stamp request = .ok call)
    (led : network.Leads seconds state call hops final last) (few : hops ≤ greatestHops)
    (ended : network.onward? seconds final last = none) :
    send network seconds stamp state request =
      (read last (network.answer seconds final last).1, network.after seconds final last) := by
  obtain ⟨left, enough⟩ := Nat.exists_eq_add_of_le few
  rw [send, prepared]
  dsimp only
  rw [enough, led.exchange_eq, exchange_of_final ended]

/-- The same network, with a record of the calls that reach it. -/
def recording (network : Network σ) : Network (σ × List Call) where
  readUrl := network.readUrl
  redirect := network.redirect
  answer seconds state call :=
    ((network.answer seconds state.1 call).1,
      (network.after seconds state.1 call, state.2 ++ [call]))

theorem onward?_recording (seconds : Nat) (state : σ) (calls : List Call) (call : Call) :
    network.recording.onward? seconds (state, calls) call = network.onward? seconds state call :=
  rfl

theorem after_recording (seconds : Nat) (state : σ) (calls : List Call) (call : Call) :
    network.recording.after seconds (state, calls) call =
      (network.after seconds state call, calls ++ [call]) := rfl

/-- Where its answer leads on to no other call, the call is all that is recorded. -/
theorem recording_of_final (h : network.onward? seconds state call = none) (calls : List Call) :
    network.recording.exchange seconds hops (state, calls) call =
      (read call (network.answer seconds state call).1,
        (network.after seconds state call, calls ++ [call])) :=
  exchange_of_final ((onward?_recording ..).trans h)

/-- A record makes no difference, and the call that begins an exchange is the first on it. -/
theorem exchange_recording (network : Network σ) (hops : Nat) (state : σ) (calls : List Call)
    (call : Call) :
    ∃ later, network.recording.exchange seconds hops (state, calls) call =
      ((network.exchange seconds hops state call).1, (network.exchange seconds hops state call).2,
        calls ++ call :: later) := by
  induction hops generalizing state calls call with
  | zero =>
    refine ⟨[], ?_⟩
    cases led : network.onward? seconds state call with
    | none => rw [exchange_of_final led, recording_of_final led]
    | some next =>
      rw [exchange_of_exhausted led, exchange_of_exhausted ((onward?_recording ..).trans led),
        after_recording]
  | succ hops ih =>
    cases led : network.onward? seconds state call with
    | none =>
      refine ⟨[], ?_⟩
      rw [exchange_of_final led, recording_of_final led]
    | some next =>
      obtain ⟨later, run⟩ := ih (network.after seconds state call) (calls ++ [call]) next
      refine ⟨next :: later, ?_⟩
      rw [exchange_of_onward led, exchange_of_onward ((onward?_recording ..).trans led),
        after_recording, run, List.append_assoc, List.singleton_append]

end RemoteTerminal.Http.Network
