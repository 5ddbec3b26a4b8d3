import RemoteTerminal.Proofs.Http.Exchange
import RemoteTerminal.Proofs.Http.Written
import RemoteTerminal.Proofs.Widget.Operations

/-!
# What becomes of an answer

* `receive_eq`: of an answer to its end the status is judged first, and the body only after a
  success.
* `outcome_eq_success_iff` and those after it: which answers come to which outcome.
* `onward?_of_answered`: such an answer ends an exchange.
* `answers_classified`: so a success shows the text of its body as it is, every other answer one of
  three messages, and no failed answer shows anything of its body.
-/

namespace RemoteTerminal.Http

/-- The statuses of success. -/
def Succeeds (status : Nat) : Prop := 200 ≤ status ∧ status < 300

variable {call : Call} {content content' : Bytes} {status : Nat} {body body' : Bytes}

theorem isSuccess_iff : isSuccess status = true ↔ Succeeds status := by
  simp [isSuccess, Succeeds]

/-- The status is judged first. -/
theorem receive_eq (answered : Answered call content status body) :
    receive call.method content =
      if isSuccess status then textOfBody body else .error (.status status) := by
  obtain ⟨head, rest, framing, headed, rfl, framed, ended, -⟩ := answered.whole
  rw [receive, headed]
  simp only [framed, ended]
  cases isSuccess head.status <;> rfl

/-- What a call's answer comes to. -/
def outcomeOf (call : Call) (content : Bytes) : Outcome := .ofResult (read call (.bytes content))

theorem outcomeOf_of_success (answered : Answered call content status body)
    (success : Succeeds status) : outcomeOf call content =
      match Bytes.decode body with
      | .ok text => .success text
      | .error _ => .failure .parse := by
  rw [outcomeOf, read, receive_eq answered, if_pos (isSuccess_iff.mpr success), textOfBody]
  cases Bytes.decode body <;> rfl

theorem outcomeOf_of_failure (answered : Answered call content status body)
    (failed : ¬ Succeeds status) :
    outcomeOf call content = .failure (if status = 304 then .notModified else .generic) := by
  rw [outcomeOf, read, receive_eq answered, if_neg fun success => failed (isSuccess_iff.mp success)]
  rfl

theorem not_succeeds_304 : ¬ Succeeds 304 := by
  simp [Succeeds]

theorem outcome_eq_success_iff (answered : Answered call content status body) (text : Text) :
    outcomeOf call content = .success text ↔ Succeeds status ∧ body = Bytes.encode text := by
  by_cases success : Succeeds status
  · rw [outcomeOf_of_success answered success, ← Bytes.decode_eq_ok_iff, and_iff_right success]
    cases Bytes.decode body <;> simp
  · rw [outcomeOf_of_failure answered success]
    simp [success]

theorem outcome_eq_parse_iff (answered : Answered call content status body) :
    outcomeOf call content = .failure .parse ↔
      Succeeds status ∧ ∀ text, body ≠ Bytes.encode text := by
  by_cases success : Succeeds status
  · rw [outcomeOf_of_success answered success, and_iff_right success]
    simp only [ne_eq, ← Bytes.decode_eq_ok_iff]
    cases Bytes.decode body <;> simp
  · rw [outcomeOf_of_failure answered success]
    split <;> simp [success]

theorem outcome_eq_notModified_iff (answered : Answered call content status body) :
    outcomeOf call content = .failure .notModified ↔ status = 304 := by
  by_cases success : Succeeds status
  · rw [outcomeOf_of_success answered success]
    have other : status ≠ 304 := by
      rintro rfl
      exact not_succeeds_304 success
    cases Bytes.decode body <;> simp [other]
  · rw [outcomeOf_of_failure answered success]
    split <;> simp [*]

theorem outcome_eq_generic_iff (answered : Answered call content status body) :
    outcomeOf call content = .failure .generic ↔ ¬ Succeeds status ∧ status ≠ 304 := by
  by_cases success : Succeeds status
  · rw [outcomeOf_of_success answered success]
    cases Bytes.decode body <;> simp [success]
  · rw [outcomeOf_of_failure answered success]
    split <;> simp [*]

/-- Where no success shows it, the body of an answer makes no difference. -/
theorem outcome_eq_of_failures (answered : Answered call content status body)
    (answered' : Answered call content' status body')
    (failed : ∀ text, outcomeOf call content ≠ .success text)
    (failed' : ∀ text, outcomeOf call content' ≠ .success text) :
    outcomeOf call content' = outcomeOf call content := by
  by_cases success : Succeeds status
  · have unread {content : Bytes} {body : Bytes} (answered : Answered call content status body)
        (failed : ∀ text, outcomeOf call content ≠ .success text) :
        outcomeOf call content = .failure .parse := by
      refine (outcome_eq_parse_iff answered).mpr ⟨success, fun text same => ?_⟩
      exact failed text ((outcome_eq_success_iff answered text).mpr ⟨success, same⟩)
    rw [unread answered failed, unread answered' failed']
  · rw [outcomeOf_of_failure answered success, outcomeOf_of_failure answered' success]

/-- What an outcome has to be, by the status and the body of an answer, and what it shows: the one
text that has the body as its bytes, or one of three messages. -/
structure Classified (status : Nat) (body : Bytes) (outcome : Outcome) : Prop where
  success_iff : ∀ text, outcome = .success text ↔ Succeeds status ∧ body = Bytes.encode text
  parse_iff : outcome = .failure .parse ↔ Succeeds status ∧ ∀ text, body ≠ Bytes.encode text
  notModified_iff : outcome = .failure .notModified ↔ status = 304
  generic_iff : outcome = .failure .generic ↔ ¬ Succeeds status ∧ status ≠ 304
  shows_text : ∀ text, Succeeds status → body = Bytes.encode text →
    outcome.toText = text ∧ ∀ other, body = Bytes.encode other → other = text
  shows_parse : Succeeds status → (∀ text, body ≠ Bytes.encode text) →
    outcome.toText = "ERROR: Client error. Try again.".toList
  shows_notModified : status = 304 →
    outcome.toText = "ERROR: Server did not response properly. Try again.".toList
  shows_generic : ¬ Succeeds status → status ≠ 304 →
    outcome.toText = "ERROR: A server error has occured. Check your command.".toList

theorem classified (answered : Answered call content status body) :
    Classified status body (outcomeOf call content) where
  success_iff := outcome_eq_success_iff answered
  parse_iff := outcome_eq_parse_iff answered
  notModified_iff := outcome_eq_notModified_iff answered
  generic_iff := outcome_eq_generic_iff answered
  shows_text text success same := by
    rw [(outcome_eq_success_iff answered text).mpr ⟨success, same⟩]
    exact ⟨rfl, fun other same' => Bytes.encode_injective (same'.symm.trans same)⟩
  shows_parse success textless := by
    rw [(outcome_eq_parse_iff answered).mpr ⟨success, textless⟩]
    rfl
  shows_notModified same := by
    rw [(outcome_eq_notModified_iff answered).mpr same]
    rfl
  shows_generic failed other := by
    rw [(outcome_eq_generic_iff answered).mpr ⟨failed, other⟩]
    rfl

/-- An answer that points to no other place leads on to no other call. -/
theorem onward?_of_answered (answered : Answered call content status body)
    (redirect : Call → Head → Option Call) : onward? redirect call (.bytes content) = none := by
  obtain ⟨head, rest, framing, headed, rfl, framed, -, placeless⟩ := answered.whole
  have stays : head.pointsOn = false := by
    rw [Head.pointsOn, Bool.and_eq_false_imp]
    intro redirects
    rw [placeless (List.contains_iff_mem.mp redirects)]
    rfl
  rw [onward?, headed]
  show (framing? call.method head).bind _ = none
  rw [framed]
  simp [stays]

/-- **Every answer is classified, and bodies are kept as they are.** Where a request goes out as a
call, leads on to others in ten hops at most, and a final answer to the last of them comes back to
its end, the request completes with the outcome that the status and the body call for, and handling
that adds one entry with the outcome's text. The body of an answer that is no success makes no
difference to its outcome. -/
theorem answers_classified {σ : Type} (network : Network σ) (seconds : Nat) (stamp : Text)
    (state : σ) (task : Task) {first : Call} {hops : Nat} {final : σ}
    (prepared : Call.prepare network.readUrl stamp task.request = .ok first)
    (led : network.Leads seconds state first hops final call) (few : hops ≤ 10)
    (returned : (network.answer seconds final call).1 = .bytes content)
    (answered : Answered call content status body) :
    let reply := Reply.answered (send network seconds stamp state task.request).1
    let event := Event.completed task.number reply.outcome
    (∀ w : Widget, (w.finish task reply).queue = w.queue ++ [event]) ∧
    (∀ w : Widget, (w.handle event).transcript =
      w.transcript ++ [Entry.ofOutput w.settings reply.outcome.toText]) ∧
    Classified status body reply.outcome ∧
    ∀ {content' body'}, Answered call content' status body' →
      (∀ text, reply.outcome ≠ .success text) → (∀ text, outcomeOf call content' ≠ .success text) →
      outcomeOf call content' = reply.outcome := by
  intro reply event
  have ended : network.onward? seconds final call = none := by
    rw [Network.onward?, returned]
    exact onward?_of_answered answered network.redirect
  have outcome : reply.outcome = outcomeOf call content := by
    show Outcome.ofResult (send network seconds stamp state task.request).1 = _
    rw [Network.send_of_leads prepared led few ended, returned]
    rfl
  refine ⟨fun w => rfl, fun w => Widget.transcript_handle w event, ?_⟩
  rw [outcome]
  refine ⟨classified answered, ?_⟩
  intro content' body' answered' failed failed'
  exact outcome_eq_of_failures answered answered' failed failed'

/-- A text that begins with a mark of its encoding and ends with a line break is shown as it is.
Half a character is not shown, and neither is what a failing server says. -/
theorem marked_text_shown :
    let text := ['\uFEFF', ' ', 'é', '\r', '\n']
    let url : Url := ⟨false, .name ['h'], 80, "/cmd".toList, none, none⟩
    let task : Task := ⟨3, "http://h/cmd".toList, "POST".toList, Fields.ofList []⟩
    let call := Call.posting "POST".toList url task.request.fields
    let server (r : Response) : Network Unit :=
      { readUrl := Url.parse, redirect := Call.redirect, answer _ _ _ := (.bytes r.write, ()) }
    let shown (r : Response) (w : Widget) : List Entry :=
      let reply := Reply.answered (send (server r) 30 [] () task.request).1
      (w.handle (.completed task.number reply.outcome)).transcript
    let whole : Response := { status := 203, body := Bytes.encode text }
    let half : Response := { status := 203, body := [0xC3] }
    let failing : Response := { status := 500, body := Bytes.encode text }
    Call.prepare Url.parse [] task.request = .ok call ∧
    Answered call whole.write 203 (Bytes.encode text) ∧ Answered call half.write 203 [0xC3] ∧
    Answered call failing.write 500 (Bytes.encode text) ∧
    ∀ w : Widget,
      shown whole w = w.transcript ++ [Entry.ofOutput w.settings text] ∧
      shown half w = w.transcript ++
        [Entry.ofOutput w.settings "ERROR: Client error. Try again.".toList] ∧
      shown failing w = w.transcript ++ [Entry.ofOutput w.settings
        "ERROR: A server error has occured. Check your command.".toList] := by
  intro text url task call server shown whole half failing
  have prepared : Call.prepare Url.parse [] task.request = .ok call := by decide +kernel
  have at_whole : Answered call whole.write 203 (Bytes.encode text) :=
    (Response.regular_bare (by decide) (by decide) (by decide)).answered_write call
  have at_half : Answered call half.write 203 [0xC3] :=
    (Response.regular_bare (by decide) (by decide) (by decide)).answered_write call
  have at_failing : Answered call failing.write 500 (Bytes.encode text) :=
    (Response.regular_bare (by decide) (by decide) (by decide)).answered_write call
  have textless (t : Text) : [0xC3] ≠ Bytes.encode t := by
    intro same
    have read := Bytes.decode_eq_ok_iff.mpr same
    cases read
  refine ⟨prepared, at_whole, at_half, at_failing, fun w => ⟨?_, ?_, ?_⟩⟩
  · obtain ⟨-, added, outcome, -⟩ :=
      answers_classified (server whole) 30 [] () task prepared (.here ..) (by decide) rfl
        at_whole
    rw [← (outcome.shows_text text (by simp [Succeeds]) rfl).1]
    exact added w
  · obtain ⟨-, added, outcome, -⟩ :=
      answers_classified (server half) 30 [] () task prepared (.here ..) (by decide) rfl
        at_half
    rw [← outcome.shows_parse (by simp [Succeeds]) textless]
    exact added w
  · obtain ⟨-, added, outcome, -⟩ :=
      answers_classified (server failing) 30 [] () task prepared (.here ..) (by decide) rfl
        at_failing
    rw [← outcome.shows_generic (by simp [Succeeds]) (by simp)]
    exact added w

end RemoteTerminal.Http
