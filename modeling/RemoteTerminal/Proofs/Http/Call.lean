import RemoteTerminal.Proofs.Http.Exchange
import RemoteTerminal.Proofs.Http.Form
import RemoteTerminal.Proofs.Session

/-!
# What the endpoint receives

* `Url.question_not_mem_path`: a url that `Url.parse` reads is asked for with its query after the
  first `?`.
* `formed_carries`: the call that is made of a request carries its fields, and nothing else.
* `sent_of_short`, `unsent_of_long`, `unsent_of_invalid`: which calls go out.
* `fields_reach_endpoint`: all of it together.
* `long_query_unsent`: a command may be too long for the query of a url.
-/

namespace RemoteTerminal.Http

/-! ## The path of a url -/

namespace Url

/-- What holds of the segments before, of empty ones and of those in percent notation, holds of all
segments of a resolved path. -/
theorem resolve_all {P : Text → Prop} (empty : P [])
    (written : ∀ raw, P (Text.Percent.encode keptInPath raw)) {kept : List Text}
    (held : ∀ segment ∈ kept, P segment) (segments : List Text) :
    ∀ segment ∈ resolve kept segments, P segment := by
  induction segments generalizing kept with
  | nil =>
    intro segment mem
    exact held segment (List.mem_reverse.mp mem)
  | cons first rest ih =>
    have closed {kept' : List Text} (held' : ∀ segment ∈ kept', P segment) :
        ∀ segment ∈ resolve (if rest.isEmpty then [] :: kept' else kept') rest, P segment := by
      by_cases last : rest.isEmpty = true
      · rw [if_pos last]
        exact ih (List.forall_mem_cons.mpr ⟨empty, held'⟩)
      · rw [if_neg last]
        exact ih held'
    rw [resolve]
    by_cases parent : isParent first = true
    · rw [if_pos parent]
      apply closed
      split
      next => exact held
      next => exact fun segment mem => held segment (List.mem_of_mem_tail mem)
    · rw [if_neg parent]
      by_cases dot : isDot first = true
      · rw [if_pos dot]
        exact closed held
      · rw [if_neg dot]
        exact ih (List.forall_mem_cons.mpr ⟨written first, held⟩)

theorem question_not_mem_normalPath (raw : Text) : '?' ∉ normalPath raw := by
  have free : '?' ∉ List.intercalate ['/'] (resolve [] (List.splitOn '/'
      ((raw.map fun c => if isSlash c then '/' else c).drop 1))) := by
    apply Text.not_mem_intercalate (by decide)
    refine resolve_all List.not_mem_nil ?_ (by simp) _
    intro raw
    exact Text.Percent.not_mem_encode (by decide) (by decide) (by decide) raw
  intro mem
  obtain slash | mem := List.mem_cons.mp mem
  · exact absurd slash (by decide)
  · exact free mem

/-- The path of a url holds no `?`. -/
theorem question_not_mem_path {t : Text} {url : Url} (parsed : parse t = some url) :
    '?' ∉ url.path := by
  have normal : ∃ raw, url.path = normalPath raw := by
    unfold parse at parsed
    obtain ⟨_, -, named⟩ := Option.bind_eq_some_iff.mp parsed
    obtain ⟨_, -, plain⟩ := Option.bind_eq_some_iff.mp named
    obtain ⟨_, -, located⟩ := Option.bind_eq_some_iff.mp plain
    obtain ⟨_, -, whole⟩ := Option.bind_eq_some_iff.mp located
    cases whole
    exact ⟨_, rfl⟩
  obtain ⟨raw, same⟩ := normal
  rw [same]
  exact question_not_mem_normalPath raw

end Url

/-! ## What a call carries -/

/-- A call carries a request to its url. Where the method is one that asks, the fields are in the
query, after the pairs that the url had there and before a stamp of digits, and there is no form in
the body; otherwise the url is as it was, and the fields are the body. -/
structure Carries (request : Request) (url : Url) (call : Call) : Prop where
  method_eq : call.method = request.method
  secure_eq : call.url.secure = url.secure
  site_eq : call.url.site = url.site
  port_eq : call.url.port = url.port
  queried : request.method = "GET".toList ∨ request.method = "HEAD".toList →
    ∃ query added stamp, Text.cut? '?' call.target = some (url.path, query) ∧
      Form.decode query = Form.decode (url.query.getD []) ++ added ∧
      Form.texts added = .ok (request.fields.pairs ++ [(['_'], stamp)]) ∧
      stamp ≠ [] ∧ (∀ c ∈ stamp, c.isDigit = true) ∧
      call.body = [] ∧ ∀ header ∈ call.headers, header.1 ≠ Call.formHeader.1
  posted : ¬ (request.method = "GET".toList ∨ request.method = "HEAD".toList) →
    call.url = url ∧ call.target = url.target ∧ Call.formHeader ∈ call.headers ∧
      Form.texts (Form.decode call.body) = .ok request.fields.pairs

theorem Call.isQuerying_iff {method : Text} :
    isQuerying method = true ↔ method = "GET".toList ∨ method = "HEAD".toList := by
  simp only [isQuerying, Bool.or_eq_true, decide_eq_true_eq]

theorem querying_carries {request : Request} {url : Url} (millis : Nat)
    (asks : request.method = "GET".toList ∨ request.method = "HEAD".toList)
    (path_free : '?' ∉ url.path) :
    Carries request url (.querying (Text.decimal millis) request.method url request.fields) where
  method_eq := rfl
  secure_eq := rfl
  site_eq := rfl
  port_eq := rfl
  queried _ := by
    let pairs := request.fields.pairs ++ [(Call.stampName, Text.decimal millis)]
    have connects : request.method ≠ "CONNECT".toList := by
      obtain same | same := asks <;> rw [same] <;> decide
    refine ⟨Form.extend (url.query.getD []) pairs, pairs.map Form.bytesOf, Text.decimal millis,
      ?_, Form.decode_extend _ _, Form.texts_bytesOf pairs, Nat.toDigits_ne_nil, ?_, rfl, ?_⟩
    · show Text.cut? '?' (Call.targetOf _ _) = _
      rw [Call.targetOf, if_neg connects]
      exact Text.cut?_append_cons path_free _
    · intro c mem
      exact Nat.isDigit_of_mem_toDigits (by omega) (by omega) mem
    · show ∀ header ∈ Call.usualHeaders, header.1 ≠ Call.formHeader.1
      decide
  posted other := absurd asks other

theorem posting_carries {request : Request} {url : Url}
    (posts : ¬ (request.method = "GET".toList ∨ request.method = "HEAD".toList))
    (connects : request.method ≠ "CONNECT".toList) :
    Carries request url (.posting request.method url request.fields) where
  method_eq := rfl
  secure_eq := rfl
  site_eq := rfl
  port_eq := rfl
  queried asks := absurd asks posts
  posted _ := by
    refine ⟨rfl, if_neg connects, by simp [Call.posting], ?_⟩
    show Form.texts (Form.decode (Form.encode request.fields.pairs)) = _
    rw [Form.decode_encode, Form.texts_bytesOf]

theorem formed_carries {request : Request} {url : Url} (millis : Nat)
    (connects : request.method ≠ "CONNECT".toList) (path_free : '?' ∉ url.path) :
    Carries request url (.formed (Text.decimal millis) request url) := by
  unfold Call.formed
  by_cases asks : request.method = "GET".toList ∨ request.method = "HEAD".toList
  · rw [if_pos (Call.isQuerying_iff.mpr asks)]
    exact querying_carries millis asks path_free
  · rw [if_neg fun queries => asks (Call.isQuerying_iff.mp queries)]
    exact posting_carries asks connects

/-! ## What is sent -/

/-- The calls that reach a network for a request. -/
def Network.calls {σ : Type} (network : Network σ) (seconds : Nat) (stamp : Text) (state : σ)
    (request : Request) : List Call :=
  (send network.recording seconds stamp (state, []) request).2.2

/-- A request goes out as a call: it is the first that reaches the network. Where its answer leads
on to no other, it is the only one, and its answer is what comes back. -/
structure Sent {σ : Type} (network : Network σ) (seconds : Nat) (stamp : Text) (state : σ)
    (request : Request) (call : Call) : Prop where
  first : ∃ later, network.calls seconds stamp state request = call :: later
  only : onward? network.redirect call (network.answer seconds state call).1 = none →
    network.calls seconds stamp state request = [call] ∧
      send network seconds stamp state request =
        (read call (network.answer seconds state call).1, (network.answer seconds state call).2)

/-- A request reaches no network, and has failed for no particular reason. -/
structure Unsent {σ : Type} (network : Network σ) (seconds : Nat) (stamp : Text) (state : σ)
    (request : Request) : Prop where
  uncalled : network.calls seconds stamp state request = []
  unchanged : (send network seconds stamp state request).2 = state
  generic : Outcome.ofResult (send network seconds stamp state request).1 = .failure .generic

variable {σ : Type} {network : Network σ} {seconds : Nat} {stamp : Text} {state : σ}
variable {request : Request} {url : Url}

theorem sent_of_prepared {call : Call}
    (prepared : Call.prepare network.readUrl stamp request = .ok call) :
    Sent network seconds stamp state request call := by
  have recorded : network.calls seconds stamp state request =
      (network.recording.exchange seconds greatestHops (state, []) call).2.2 := by
    have same : Call.prepare network.recording.readUrl stamp request = .ok call := prepared
    rw [Network.calls, send, same]
  constructor
  · obtain ⟨later, run⟩ := network.exchange_recording greatestHops state [] call
    exact ⟨later, by rw [recorded, run, List.nil_append]⟩
  · intro final
    have plain : send network seconds stamp state request =
        network.exchange seconds greatestHops state call := by
      rw [send, prepared]
    rw [recorded, Network.recording_of_final final, plain, Network.exchange_of_final final]
    exact ⟨rfl, rfl⟩

theorem unsent_of_unprepared {error : TransportError}
    (unprepared : Call.prepare network.readUrl stamp request = .error error)
    (generic : error.kind = .generic) : Unsent network seconds stamp state request where
  uncalled := by
    have same : Call.prepare network.recording.readUrl stamp request = .error error := unprepared
    rw [Network.calls, send, same]
  unchanged := by rw [send, unprepared]
  generic := by
    rw [send, unprepared, Outcome.ofResult, generic]

theorem unsent_of_invalid (invalid : Call.isMethod request.method = false) :
    Unsent network seconds stamp state request := by
  have unprepared : Call.prepare network.readUrl stamp request =
      .error (.invalidMethod request.method) := by
    simp [Call.prepare, invalid]
  exact unsent_of_unprepared unprepared rfl

theorem prepare_eq (valid : Call.isMethod request.method = true)
    (readable : network.readUrl request.url = some url) :
    Call.prepare network.readUrl stamp request =
      if Call.greatestUrl < (Call.formed stamp request url).url.text.length then
        .error (.exchange .broken)
      else .ok (.formed stamp request url) := by
  rw [Call.prepare, valid, readable]
  rfl

theorem sent_of_short (valid : Call.isMethod request.method = true)
    (readable : network.readUrl request.url = some url)
    (short : (Call.formed stamp request url).url.text.length ≤ Call.greatestUrl) :
    Sent network seconds stamp state request (.formed stamp request url) := by
  apply sent_of_prepared
  rw [prepare_eq valid readable, if_neg (by omega)]

theorem unsent_of_long (valid : Call.isMethod request.method = true)
    (readable : network.readUrl request.url = some url)
    (long : Call.greatestUrl < (Call.formed stamp request url).url.text.length) :
    Unsent network seconds stamp state request := by
  have unprepared : Call.prepare network.readUrl stamp request = .error (.exchange .broken) := by
    rw [prepare_eq valid readable, if_pos long]
  exact unsent_of_unprepared unprepared rfl

/-- What the endpoint receives is what was submitted, whatever the network is. A method that is no
token is not sent. Of a request with any other method but `CONNECT` to what the network reads as a
url, with a path that holds no `?`, one call is formed, which carries the fields in the order of
their names. It is sent if its whole url has at most 65534 characters, and otherwise nothing is. -/
theorem fields_reach_endpoint {σ : Type} (network : Network σ) (seconds millis : Nat) (state : σ)
    (request : Request) :
    (Call.isMethod request.method = false →
      Unsent network seconds (Text.decimal millis) state request) ∧
    ∀ url, Call.isMethod request.method = true → request.method ≠ "CONNECT".toList →
      network.readUrl request.url = some url → '?' ∉ url.path →
        let call := Call.formed (Text.decimal millis) request url
        Carries request url call ∧
          (call.url.text.length ≤ 65534 →
            Sent network seconds (Text.decimal millis) state request call) ∧
          (65534 < call.url.text.length →
            Unsent network seconds (Text.decimal millis) state request) := by
  refine ⟨unsent_of_invalid, ?_⟩
  intro url valid connects readable path_free call
  refine ⟨formed_carries millis connects path_free, ?_, ?_⟩
  · intro short
    exact sent_of_short valid readable short
  · intro long
    exact unsent_of_long valid readable long

/-- A query in the sight of a server, and a method that is none. -/
theorem query_reaches_endpoint :
    let url : Url := ⟨false, .name ['h'], 80, "/cmd".toList, some "x=1".toList, none⟩
    let fields := Fields.ofList [("input".toList, "a&b é".toList)]
    let request : Request := ⟨"http://h/cmd?x=1".toList, "GET".toList, fields⟩
    let call := Call.formed (Text.decimal 7) request url
    let server : Server := { site := .name ['h'], port := 80, answers := [] }
    let stamp := Text.decimal 7
    call.target = "/cmd?x=1&input=a%26b+%C3%A9&_=7".toList ∧ Carries request url call ∧
      Server.network.calls 30 stamp server request = [call] ∧
      (send Server.network 30 stamp server request).2.calls = [call] ∧
      Unsent Server.network 30 stamp server ⟨"http://h/".toList, "GE T".toList, fields⟩ := by
  intro url fields request call server stamp
  have parsed : Url.parse request.url = some url := by decide +kernel
  obtain ⟨carries, sent, -⟩ := (fields_reach_endpoint Server.network 30 7 server request).2 url
    (by decide) (by decide) parsed (Url.question_not_mem_path parsed)
  obtain ⟨calls, received⟩ := (sent (by decide +kernel)).only (by decide +kernel)
  refine ⟨by decide +kernel, carries, calls, ?_, ?_⟩
  · rw [received]
    decide +kernel
  · exact (fields_reach_endpoint Server.network 30 7 server ⟨_, "GE T".toList, fields⟩).1
      (by decide)

/-! ## A query that is too long -/

theorem Sent.not_unsent {call : Call} (sent : Sent network seconds stamp state request call) :
    ¬ Unsent network seconds stamp state request := by
  intro unsent
  obtain ⟨later, calls⟩ := sent.first
  rw [unsent.uncalled] at calls
  cases calls

/-- A url is no shorter than what is asked for with it. -/
theorem length_target_le (url : Url) : url.target.length ≤ url.text.length := by
  have inside : url.target.Sublist url.text :=
    (List.sublist_append_right _ _).trans (List.sublist_append_left _ _)
  exact inside.length_le

/-- A value of characters that stand for themselves is in the query as it is. -/
theorem length_value_le (name : Text) {value : Text} (kept : ∀ c ∈ value, Form.isKept c = true)
    (later : Text × Text) :
    value.length ≤ (Form.extend [] [(name, value), later]).length := by
  simp only [Form.extend, Form.encode, List.isEmpty_nil, if_true, List.map_cons, List.map_nil,
    List.intercalate_cons_cons, Form.encodePair, Form.encodePart_of_kept kept, List.length_append,
    List.length_cons]
  omega

/-- A request with a value that is too long for a url. -/
theorem unsent_of_long_value {name value : Text} (kept : ∀ c ∈ value, Form.isKept c = true)
    (reads : network.readUrl = Url.parse) (long : Call.greatestUrl < value.length) :
    Unsent network seconds stamp state
      ⟨"http://h/".toList, "GET".toList, Fields.empty.insert name value⟩ := by
  have parsed : network.readUrl "http://h/".toList =
      some ⟨false, .name ['h'], 80, ['/'], none, none⟩ := by
    rw [reads]
    decide +kernel
  refine unsent_of_long rfl parsed (Nat.lt_of_lt_of_le long ?_)
  refine Nat.le_trans ?_ (length_target_le _)
  have query := length_value_le name kept (Call.stampName, stamp)
  have asked (q : Text) : q.Sublist (['/'] ++ '?' :: q) :=
    (List.sublist_cons_self _ _).trans (List.sublist_append_right _ _)
  exact Nat.le_trans query (asked _).length_le

/-- Where a user types a command of the letter `a` only, and too long for a url, the request that is
built from it is not sent. -/
theorem typed_unsent {typed : Text} (plain : ∀ c ∈ typed, c = 'a')
    (long : Call.greatestUrl < typed.length) :
    let options : Options := { formMethod := some "GET".toList }
    let session := Session.start "http://h/".toList (options.resolve 0)
      { input := { value := typed } }
    ∃ request begun, session.submit .user = (some request, begun) ∧
      Call.isMethod request.method = true ∧ request.method ≠ "CONNECT".toList ∧
      (Url.parse request.url).isSome ∧
      ∀ {σ : Type} (network : Network σ) (seconds : Nat) (stamp : Text) (state : σ),
        network.readUrl = Url.parse → Unsent network seconds stamp state request ∧
          ¬ ∃ call, Sent network seconds stamp state request call := by
  intro options session
  have command : session.command = typed := by
    apply Text.trim_eq_self
    intro c mem
    rw [plain c mem]
    decide
  have accepted : session.accepts .user = true := by
    have some_typed : typed.isEmpty = false := by
      cases typed with
      | nil => exact absurd long (by decide)
      | cons c rest => rfl
    simp only [Session.accepts, Settings.admits, command, some_typed, Bool.not_false, Bool.true_or]
  have built : session.request =
      ⟨"http://h/".toList, "GET".toList, Fields.empty.insert "input".toList typed⟩ := by
    rw [Session.request, command]
    rfl
  refine ⟨session.request, session.begun, ?_, ?_⟩
  · rw [Session.submit_eq, if_pos accepted]
  · rw [built]
    dsimp only
    refine ⟨rfl, by decide, by decide +kernel, ?_⟩
    intro σ network seconds stamp state reads
    have unsent : Unsent network seconds stamp state
        ⟨"http://h/".toList, "GET".toList, Fields.empty.insert "input".toList typed⟩ := by
      refine unsent_of_long_value ?_ reads long
      intro c mem
      rw [plain c mem]
      decide
    refine ⟨unsent, ?_⟩
    rintro ⟨call, sent⟩
    exact sent.not_unsent unsent

/-- A command of 65535 characters that is typed by a user and submitted with `GET` is not sent,
although its method is a token and its url can be read. -/
theorem long_query_unsent :
    let options : Options := { formMethod := some "GET".toList }
    let session := Session.start "http://h/".toList (options.resolve 0)
      { input := { value := List.replicate 65535 'a' } }
    ∃ request begun, session.submit .user = (some request, begun) ∧
      Call.isMethod request.method = true ∧ request.method ≠ "CONNECT".toList ∧
      (Url.parse request.url).isSome ∧
      ∀ {σ : Type} (network : Network σ) (seconds : Nat) (stamp : Text) (state : σ),
        network.readUrl = Url.parse → Unsent network seconds stamp state request ∧
          ¬ ∃ call, Sent network seconds stamp state request call := by
  apply typed_unsent
  · intro c mem
    exact List.eq_of_mem_replicate mem
  · rw [List.length_replicate]
    decide

end RemoteTerminal.Http
