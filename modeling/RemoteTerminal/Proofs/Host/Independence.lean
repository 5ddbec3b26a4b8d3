import RemoteTerminal.Proofs.Host.Schedule

/-!
# Every order of things shows and sends the same

`orders_agree`: which requests a host sends and what it shows depends on the lines and the replies
alone, not on when lines, their end and completions meet. In particular every order agrees with
`run`.
-/

namespace RemoteTerminal.Host

variable {replies : Nat → Reply} {url : Text} {s : Loop}

theorem unreadable_map_ok (typed : List Text) : Progress.unreadable? (typed.map .ok) = none := by
  induction typed with
  | nil => rfl
  | cons line typed ih => exact ih

/-- **The order of things does not matter.** While nobody posts, every loop that the end of the
lines has ended has sent, in their order, the request forced by the start and those of the admitted
lines; it shows the welcome, then the first exchange, then the command of each line right before the
output of its own reply; and so does any other such loop, and the run. -/
theorem orders_agree {options : Options} {containerHeight : Nat} {typed : List Text}
    (enabled : (options.resolve containerHeight).inputDisabled = false)
    (h : Steps replies (.start (.start url options containerHeight true) (typed.map .ok)) s)
    (quiet : s.posted = []) (ended : s.phase = .ended .closed) :
    let settings := options.resolve containerHeight
    let commands := (typed.filter fun line => !line.trim.isEmpty || settings.allowEmptyInput).map
      Text.trim
    let output n := Entry.ofOutput settings (replies n).outcome.toText
    (s.sent.map Task.number = List.range s.sent.length ∧
    s.sent.map Task.request =
      (if settings.submitOnLoad then [.ofCommand url settings []] else []) ++
        commands.map (.ofCommand url settings) ∧
    s.host.widget.transcript =
      settings.helloMessage.toList.map Entry.ofWelcome ++
      (if settings.submitOnLoad then
        (if settings.allowEmptyInput then [.ofCommand settings []] else []) ++ [output 0]
        else []) ++
      (commands.zipIdx (if settings.submitOnLoad then 1 else 0)).flatMap fun (command, n) =>
        [.ofCommand settings command, output n]) ∧
    (∀ t, Steps replies (.start (.start url options containerHeight true) (typed.map .ok)) t →
      t.posted = [] → t.phase = .ended .closed →
      t.sent.map Task.request = s.sent.map Task.request ∧
      t.host.widget.transcript = s.host.widget.transcript) ∧
    let result := run (inOrder replies) 0 (.start url options containerHeight true) (typed.map .ok)
    result.sent = s.sent.map Task.request ∧
      result.host.widget.transcript = s.host.widget.transcript := by
  intro settings commands output
  obtain ⟨numbers, requests, shown⟩ := ended_eq enabled h quiet ended
  refine ⟨⟨numbers, ?_, ?_⟩, fun t ht quiet' ended' => ?_, ?_⟩
  · rw [requests, Settings.commands, List.map_append]
    cases settings.submitOnLoad <;> rfl
  · rw [shown, List.append_assoc, Settings.commands, Settings.exchanges_append,
      Settings.exchanges_commandsOf]
    refine congrArg (_ ++ ·) (congrArg₂ (· ++ ·) (Settings.exchanges_forced _ _) ?_)
    cases settings.submitOnLoad <;> rfl
  · obtain ⟨-, requests', shown'⟩ := ended_eq enabled ht quiet' ended'
    exact ⟨requests'.trans requests.symm, shown'.trans shown.symm⟩
  · obtain ⟨t, ht, quiet', host, sent, fault, ended'⟩ :=
      run_followed replies url (typed.map .ok)
    rw [fault, unreadable_map_ok] at ended'
    obtain ⟨-, requests', shown'⟩ := ended_eq enabled ht quiet' ended'
    exact ⟨sent.symm.trans (requests'.trans requests.symm), host ▸ shown'.trans shown.symm⟩

/-- Two orders of the same lines: they pile up behind the forced request, or each comes once the
last was answered. -/
theorem piled_and_paced_agree :
    let settings := Options.resolve { submitOnLoad := some true } 0
    ∃ s t : Loop, s.phase = .ended .closed ∧ t.phase = .ended .closed ∧
      s.sent.map Task.request = [.ofCommand [] settings [], .ofCommand [] settings ['l', 's']] ∧
      s.host.widget.transcript =
        [.ofOutput settings [], .ofCommand settings ['l', 's'], .ofOutput settings ['x']] ∧
      t.sent.map Task.request = s.sent.map Task.request ∧
      t.host.widget.transcript = s.host.widget.transcript := by
  have start : Steps (fun n => .answered (.ok (.replicate n 'x')))
      (.start (.start [] { submitOnLoad := some true } 0 true)
        ([['l', 's', ' '], [' ']].map .ok)) _ := .refl
  have piled := start.tail (.line _ _ _ rfl rfl rfl)
  have piled := piled.tail (.rest _ rfl (.inl rfl))
  have piled := piled.tail (.line _ _ _ rfl rfl rfl)
  have piled := piled.tail (.rest _ rfl (.inl rfl))
  have piled := piled.tail (.close _ rfl rfl rfl)
  have piled := piled.tail (.rest _ rfl (.inl rfl))
  have piled := piled.tail (.reach _ _ (.head _) nofun)
  have piled := piled.tail (.finish _ _ 0 (.head _) rfl)
  have piled := piled.tail (.event _ _ _ rfl rfl)
  have piled := piled.tail (.submit _ _ _ rfl rfl rfl rfl)
  have piled := piled.tail (.rest _ rfl (.inl rfl))
  have piled := piled.tail (.reach _ _ (.head _) (by decide))
  have piled := piled.tail (.finish _ _ 1 (.head _) rfl)
  have piled := piled.tail (.event _ _ _ rfl rfl)
  have piled := piled.tail (.submit _ _ _ rfl rfl rfl rfl)
  have piled := piled.tail (.rest _ rfl (.inr rfl))
  have piled := piled.tail (.leave _ rfl rfl)
  have paced := start.tail (.reach _ _ (.head _) nofun)
  have paced := paced.tail (.finish _ _ 0 (.head _) rfl)
  have paced := paced.tail (.event _ _ _ rfl rfl)
  have paced := paced.tail (.rest _ rfl (.inr rfl))
  have paced := paced.tail (.line _ _ _ rfl rfl rfl)
  have paced := paced.tail (.submit _ _ _ rfl rfl rfl rfl)
  have paced := paced.tail (.rest _ rfl (.inr rfl))
  have paced := paced.tail (.reach _ _ (.head _) (by decide))
  have paced := paced.tail (.finish _ _ 1 (.head _) rfl)
  have paced := paced.tail (.event _ _ _ rfl rfl)
  have paced := paced.tail (.rest _ rfl (.inr rfl))
  have paced := paced.tail (.line _ _ _ rfl rfl rfl)
  have paced := paced.tail (.submit _ _ _ rfl rfl rfl rfl)
  have paced := paced.tail (.rest _ rfl (.inr rfl))
  have paced := paced.tail (.close _ rfl rfl rfl)
  have paced := paced.tail (.rest _ rfl (.inr rfl))
  have paced := paced.tail (.leave _ rfl rfl)
  obtain ⟨⟨-, requests, shown⟩, others⟩ := orders_agree (by rfl) piled rfl rfl
  obtain ⟨same_requests, same_shown⟩ := others.1 _ paced rfl rfl
  exact ⟨_, _, rfl, rfl, requests, shown, same_requests, same_shown⟩

end RemoteTerminal.Host
