import ApiDiscovery.Proofs.Request.Address
import ApiDiscovery.Request.Session

/-!
# The life of a session

A session sends its request once (`Session.run_sends_once`). Until it is executed no call reaches the
transport; the first execution sends what `prepare` shows at that moment, and if there is nothing to
show it fails with the same fault and sends nothing; every later execution fails. What is sent is
sent to the prepared address if that is absolute. An address that is not leaves its host behind, so
it is another one that the transport gets (`Session.exists_other_address`).
-/

namespace ApiDiscovery.Request

open ApiDiscovery.Text

/-! ## Calls -/

/-- The call executes the request. -/
def Call.sends : Call → Bool
  | .execute => true
  | _ => false

theorem Call.eq_execute_of_sends {c : Call} (h : c.sends = true) : c = .execute := by
  cases c with
  | execute => rfl
  | _ => cases h

/-- The call only looks at the request. -/
def Call.looks : Call → Bool
  | .validate => true
  | .address => true
  | .prepare => true
  | _ => false

/-- The body after calls: the last one that was set, if any was. -/
def lastBody (body : Option (List UInt8)) : List Call → Option (List UInt8)
  | [] => body
  | .body bytes :: rest => lastBody bytes rest
  | _ :: rest => lastBody body rest

/-- The text of the body that a value gives. -/
def bodyText : Json → String
  | .str text => text
  | value => value.toText

/-- The body that a value gives is its text in UTF-8. -/
theorem decode_bodyOf {value : Json} {bytes : List UInt8} (h : Draft.bodyOf value = some bytes) :
    Utf8.decode bytes = .ok (bodyText value).toList := by
  cases value with
  | null => cases h
  | _ =>
    cases h
    exact Utf8.decode_encode _

/-! ## What goes out -/

/-- The address with the credentials that an authenticator puts into it. -/
def Authenticator.credited (a : Authenticator) (url : Uri.Url) : Except Uri.Url.Fault Uri.Url :=
  match a with
  | apiKey key parameter => withParameter url parameter key
  | _ => .ok url

/-- The request that goes out is the prepared one: its address is the prepared one, as a client
without a base address sends it, with the credentials of the authenticator. -/
structure Outbound.IsFor (o : Outbound) (a : Authenticator) (p : Prepared) : Prop where
  verb : o.verb = p.verb
  contentType : o.contentType = p.contentType
  content : o.content = p.content
  url : ∃ url, clientUrl p.url = .ok url ∧ a.credited url = .ok o.url
  absolute : p.url.isAbsolute = true → a.credited p.url = .ok o.url

theorem clientUrl_of_isAbsolute {url : Uri.Url} (h : url.isAbsolute = true) :
    clientUrl url = .ok url := if_pos h

theorem Authenticator.apply_eq_ok {a : Authenticator} {p : Prepared} {o : Outbound}
    (h : a.apply p = .ok o) : o.IsFor a p := by
  simp only [Authenticator.apply, ofAddress, Outcome.bind_eq_ok, Outcome.mapError_eq_ok] at h
  obtain ⟨url, hurl, -, -, h⟩ := h
  have hfor : o.verb = p.verb ∧ o.contentType = p.contentType ∧ o.content = p.content ∧
      a.credited url = .ok o.url := by
    cases a with
    | anonymous =>
      cases h
      exact ⟨rfl, rfl, rfl, rfl⟩
    | bare => cases h
    | apiKey key parameter =>
      simp only [Outcome.bind_eq_ok, Outcome.mapError_eq_ok, Outcome.pure_eq_ok] at h
      obtain ⟨keyed, hkeyed, rfl⟩ := h
      exact ⟨rfl, rfl, rfl, hkeyed⟩
    | bearer token =>
      cases h
      exact ⟨rfl, rfl, rfl, rfl⟩
  obtain ⟨hverb, htype, hcontent, hcredited⟩ := hfor
  refine ⟨hverb, htype, hcontent, ⟨url, hurl, hcredited⟩, fun habsolute => ?_⟩
  rw [clientUrl_of_isAbsolute habsolute] at hurl
  cases hurl
  exact hcredited

theorem Client.onWire_isFor {o : Outbound} {a : Authenticator} {p : Prepared} (h : o.IsFor a p) :
    (onWire o).IsFor a p := by
  unfold onWire
  split
  · exact ⟨h.verb, h.contentType, h.content, h.url, h.absolute⟩
  · exact h

/-- An open client sends a request exactly once, whatever the transport answers. -/
theorem Client.sent_send {c : Client} (hopen : c.isOpen = true) (o : Outbound) :
    (c.send o).2.sent = c.sent ++ [onWire o] := by
  have hclosed : ¬ (!c.isOpen) = true := by simp [hopen]
  unfold Client.send
  rw [if_neg hclosed]
  dsimp only
  cases (nextReply c.replies).1 with
  | response status headers content => rfl
  | failure kind message => rfl

namespace Session

variable {s : Session}

/-! ## One call -/

/-- A call that only looks leaves the session as it is. -/
theorem session_of_looks {c : Call} (h : c.looks = true) : (s.call c).session = s := by
  cases c with
  | validate => rfl
  | address => rfl
  | prepare => rfl
  | _ => cases h

/-- What a call keeps unless it executes the request: the client, that nothing was executed, and the
verb. The body is that of the call if it sets one. -/
structure Keeps (s t : Session) (c : Call) : Prop where
  client : t.client = s.client
  executed : t.executed = s.executed
  verb : t.draft.verb = s.draft.verb
  body : t.draft.body = lastBody s.draft.body [c]

/-- A change of the draft that sets neither verb nor body keeps both, whether it takes place or not. -/
theorem keeps_change {α : Type} {value : Except Fault α} {set : Draft → α → Draft}
    (hverb : ∀ d v, (set d v).verb = d.verb) (hbody : ∀ d v, (set d v).body = d.body)
    {c : Call} (hc : ∀ body, lastBody body [c] = body) : Keeps s (s.change value set).session c := by
  cases value with
  | error fault => exact ⟨rfl, rfl, rfl, (hc _).symm⟩
  | ok v => exact ⟨rfl, rfl, hverb s.draft v, (hbody s.draft v).trans (hc _).symm⟩

/-- One call keeps what it does not set. -/
theorem keeps_call {c : Call} (h : c.sends = false) : Keeps s (s.call c).session c := by
  cases c with
  | name callName => exact ⟨rfl, rfl, rfl, rfl⟩
  | returning value =>
    apply keeps_change
    case hverb => exact fun _ _ => rfl
    case hbody => exact fun _ _ => rfl
    case hc => exact fun _ => rfl
  | parameters value =>
    apply keeps_change
    case hverb => exact fun _ _ => rfl
    case hbody => exact fun _ _ => rfl
    case hc => exact fun _ => rfl
  | body bytes => exact ⟨rfl, rfl, rfl, rfl⟩
  | authenticate authenticator => exact ⟨rfl, rfl, rfl, rfl⟩
  | validate => exact ⟨rfl, rfl, rfl, rfl⟩
  | address => exact ⟨rfl, rfl, rfl, rfl⟩
  | prepare => exact ⟨rfl, rfl, rfl, rfl⟩
  | execute => cases h

/-- A session that was executed fails, and nothing happens to it. -/
theorem execute_again (h : s.executed = true) :
    s.call .execute = ⟨.error (.alreadySent s.draft.callName), s, []⟩ := by
  have hexecute : s.execute = ⟨.error (.alreadySent s.draft.callName), s, []⟩ := if_pos h
  rw [call, hexecute]
  rfl

/-- An outcome is that of sending what `prepare` shows: one request for it if the authenticator has
credentials, and nothing if it has none or if `prepare` fails. -/
def SendsWhatIsShown (s : Session) (o : Outcome Answer) : Prop :=
  match (s.call .prepare).answer with
  | .ok (.prepared p) =>
    match s.authenticator.apply p with
    | .ok _ => ∃ request : Outbound, request.IsFor s.authenticator p ∧
        o.session.client.sent = s.client.sent ++ [request]
    | .error fault => o.answer = .error fault ∧ o.session.client = s.client
  | .ok _ => False
  | .error fault => o.answer = .error fault ∧ o.session.client = s.client

theorem session_send (s : Session) (p : Prepared) :
    (s.send p).session.executed = s.executed := by
  unfold send
  split
  · rfl
  · split
    · rfl
    · rfl

theorem send_of_error {p : Prepared} {fault : Fault} (h : s.authenticator.apply p = .error fault) :
    s.send p = ⟨.error fault, s, []⟩ := by
  rw [send, h]

theorem client_send {p : Prepared} {o : Outbound} (h : s.authenticator.apply p = .ok o) :
    (s.send p).session.client = (s.client.send o).2 := by
  rw [send, h]
  dsimp only
  split
  · next heq => rw [heq]
  · next heq => rw [heq]

/-- The first execution of an open session sends what `prepare` shows, and from then on the session
counts as executed. -/
theorem execute_first (hopen : s.client.isOpen = true) (hfresh : s.executed = false) :
    (s.call .execute).session.executed = true ∧ SendsWhatIsShown s (s.call .execute) := by
  have hnot : ¬ s.executed = true := by simp [hfresh]
  cases hprepare : s.draft.prepare with
  | error fault =>
    have hexecute : s.execute =
        ⟨.error fault, { s with executed := true }, validationLog fault⟩ := by
      rw [execute, if_neg hnot, hprepare]
    -- The session counts as executed before anything is prepared.
    refine ⟨by rw [call, hexecute], ?_⟩
    simp only [SendsWhatIsShown, call, hprepare, hexecute, Except.map]
    exact ⟨trivial, trivial⟩
  | ok p =>
    have hexecute : s.execute = ({ s with executed := true } : Session).send p := by
      rw [execute, if_neg hnot, hprepare]
    refine ⟨by rw [call, hexecute, session_send], ?_⟩
    cases happly : s.authenticator.apply p with
    | error fault =>
      have hsend := send_of_error (s := { s with executed := true }) happly
      simp only [SendsWhatIsShown, call, hprepare, hexecute, hsend, Except.map, happly]
      exact ⟨trivial, trivial⟩
    | ok o =>
      have hclient := client_send (s := { s with executed := true }) happly
      simp only [SendsWhatIsShown, call, hprepare, hexecute, Except.map, happly]
      refine ⟨Client.onWire o, Client.onWire_isFor (Authenticator.apply_eq_ok happly), ?_⟩
      rw [hclient]
      exact Client.sent_send hopen o

/-! ## Many calls -/

/-- The session after calls. -/
def after (s : Session) (calls : List Call) : Session :=
  calls.foldl (fun s c => (s.call c).session) s

theorem after_cons (s : Session) (c : Call) (calls : List Call) :
    s.after (c :: calls) = (s.call c).session.after calls := rfl

/-- The outcome of a call in a run is that of the call in the session before it. -/
theorem run_getElem? (s : Session) (before : List Call) (c : Call) (behind : List Call) :
    (s.run (before ++ c :: behind))[before.length]? = some ((s.after before).call c) := by
  induction before generalizing s with
  | nil => rfl
  | cons first before ih => exact ih (s.call first).session

/-- Calls that do not execute keep the client and the verb, and the last body set is the body. -/
theorem after_of_quiet {calls : List Call} (h : ∀ c ∈ calls, c.sends = false) :
    (s.after calls).client = s.client ∧ (s.after calls).executed = s.executed ∧
      (s.after calls).draft.verb = s.draft.verb ∧
      (s.after calls).draft.body = lastBody s.draft.body calls := by
  induction calls generalizing s with
  | nil => exact ⟨rfl, rfl, rfl, rfl⟩
  | cons c calls ih =>
    have hkeeps := keeps_call (s := s) (h c List.mem_cons_self)
    obtain ⟨hclient, hexecuted, hverb, hbody⟩ :=
      ih (s := (s.call c).session) fun d hd => h d (List.mem_cons_of_mem c hd)
    rw [after_cons, hclient, hexecuted, hverb, hbody, hkeeps.body]
    -- What is left is that the last body of one call and the rest is that of all.
    refine ⟨hkeeps.client, hkeeps.executed, hkeeps.verb, ?_⟩
    cases c <;> rfl

/-- After an execution no call reaches the client any more. -/
theorem after_of_executed (calls : List Call) (h : s.executed = true) :
    (s.after calls).client = s.client ∧ (s.after calls).executed = true := by
  induction calls generalizing s with
  | nil => exact ⟨rfl, h⟩
  | cons c calls ih =>
    cases hsends : c.sends with
    | false =>
      have hkeeps := keeps_call (s := s) hsends
      obtain ⟨hclient, hexecuted⟩ := ih (hkeeps.executed.trans h)
      exact ⟨hclient.trans hkeeps.client, hexecuted⟩
    | true =>
      obtain rfl := Call.eq_execute_of_sends hsends
      rw [after_cons, execute_again h]
      exact ih h

/-- Once a call executed, the session counts as executed. -/
theorem executed_after {calls : List Call} (hopen : s.client.isOpen = true)
    (h : ∃ c ∈ calls, c.sends = true) : (s.after calls).executed = true := by
  cases hfresh : s.executed with
  | true => exact (after_of_executed calls hfresh).2
  | false =>
    induction calls generalizing s with
    | nil =>
      obtain ⟨c, hc, -⟩ := h
      exact absurd hc List.not_mem_nil
    | cons c calls ih =>
      cases hsends : c.sends with
      | true =>
        obtain rfl := Call.eq_execute_of_sends hsends
        exact (after_of_executed calls (execute_first hopen hfresh).1).2
      | false =>
        have hkeeps := keeps_call (s := s) hsends
        obtain ⟨d, hd, hdsends⟩ := h
        rcases List.mem_cons.1 hd with rfl | hd
        · rw [hsends] at hdsends
          cases hdsends
        · exact ih (hkeeps.client ▸ hopen) ⟨d, hd, hdsends⟩ (hkeeps.executed.trans hfresh)

theorem sent_of_sendsWhatIsShown {o : Outcome Answer} (h : SendsWhatIsShown s o) :
    ∃ requests : List Outbound, o.session.client.sent = s.client.sent ++ requests ∧
      requests.length ≤ 1 := by
  unfold SendsWhatIsShown at h
  split at h
  · split at h
    · obtain ⟨request, -, hsent⟩ := h
      exact ⟨[request], hsent, Nat.le_refl 1⟩
    · exact ⟨[], by rw [h.2, List.append_nil], Nat.zero_le 1⟩
  · exact absurd h id
  · exact ⟨[], by rw [h.2, List.append_nil], Nat.zero_le 1⟩

/-- All calls together send at most one request. -/
theorem sent_after (calls : List Call) (hopen : s.client.isOpen = true)
    (hfresh : s.executed = false) :
    ∃ requests, (s.after calls).client.sent = s.client.sent ++ requests ∧
      requests.length ≤ 1 := by
  induction calls generalizing s with
  | nil => exact ⟨[], (List.append_nil _).symm, Nat.zero_le 1⟩
  | cons c calls ih =>
    cases hsends : c.sends with
    | false =>
      have hkeeps := keeps_call (s := s) hsends
      rw [after_cons, ← hkeeps.client]
      exact ih (hkeeps.client ▸ hopen) (hkeeps.executed.trans hfresh)
    | true =>
      -- This is the first execution, and nothing is sent behind it.
      obtain rfl := Call.eq_execute_of_sends hsends
      obtain ⟨hexecuted, hshown⟩ := execute_first hopen hfresh
      rw [after_cons, (after_of_executed calls hexecuted).1]
      exact sent_of_sendsWhatIsShown hshown

/-! ## Contents -/

theorem takesBody_iff (verb : Verb) : verb.takesBody = true ↔ verb = .post ∨ verb = .put := by
  cases verb <;> decide

/-- The content of a prepared request is the body, if the verb takes one and it is not empty. -/
theorem content_of_prepare {d : Draft} {p : Prepared} (h : d.prepare = .ok p)
    (bytes : List UInt8) :
    p.content = some bytes ↔ (d.verb = .post ∨ d.verb = .put) ∧ d.body = some bytes ∧
      bytes ≠ [] := by
  simp only [Draft.prepare, Outcome.bind_eq_ok, Outcome.pure_eq_ok] at h
  obtain ⟨-, -, url, -, rfl⟩ := h
  rw [← takesBody_iff, Draft.content]
  cases htakes : d.verb.takesBody with
  | false => simp
  | true => simp [Option.filter_eq_some_iff]

/-! ## A whole run -/

/-- What a call in a run does: `before` are the calls before it, `reached` is the session they lead
to, and `o` is the outcome of the call. -/
structure SendsOnce (s : Session) (before : List Call) (reached : Session) (c : Call)
    (o : Outcome Answer) : Prop where
  looks : c.looks = true → o.session = reached
  quiet : c.sends = false → o.session.client = reached.client
  again : c.sends = true → (∃ b ∈ before, b.sends = true) →
    o.answer = .error (.alreadySent reached.draft.callName) ∧ o.session = reached
  first : c.sends = true → (∀ b ∈ before, b.sends = false) →
    reached.client = s.client ∧ SendsWhatIsShown reached o
  content : ∀ p bytes, (∀ b ∈ before, b.sends = false) →
    (reached.call .prepare).answer = .ok (.prepared p) →
      (p.content = some bytes ↔ (s.draft.verb = .post ∨ s.draft.verb = .put) ∧
        lastBody s.draft.body before = some bytes ∧ bytes ≠ []) ∧
      ∀ value, lastBody s.draft.body before = Draft.bodyOf value → p.content = some bytes →
        Utf8.decode bytes = .ok (bodyText value).toList

theorem sendsOnce_call (hopen : s.client.isOpen = true) (hfresh : s.executed = false)
    (before : List Call) (c : Call) :
    SendsOnce s before (s.after before) c ((s.after before).call c) := by
  constructor
  case looks => exact session_of_looks
  case quiet => exact fun hquiet => (keeps_call hquiet).client
  case again =>
    intro hsends hbefore
    obtain rfl := Call.eq_execute_of_sends hsends
    rw [execute_again (executed_after hopen hbefore)]
    exact ⟨rfl, rfl⟩
  case first =>
    intro hsends hbefore
    obtain ⟨hclient, hexecuted, -, -⟩ := after_of_quiet (s := s) hbefore
    obtain rfl := Call.eq_execute_of_sends hsends
    exact ⟨hclient, (execute_first (hclient ▸ hopen) (hexecuted.trans hfresh)).2⟩
  case content =>
    intro p bytes hbefore hshown
    obtain ⟨-, -, hverb, hbody⟩ := after_of_quiet (s := s) hbefore
    obtain ⟨p', hprepare, heq⟩ := Outcome.map_eq_ok.1 hshown
    cases heq
    have hcontent := content_of_prepare hprepare bytes
    rw [hverb, hbody] at hcontent
    refine ⟨hcontent, fun value hvalue hbytes => decode_bodyOf ?_⟩
    rw [← hvalue]
    exact (hcontent.1 hbytes).2.1

/-- A session sends its request once, and it is the one that `prepare` shows. A run of calls leads
to at most one request, and for every call in it, in the session reached before it: a call that only
looks leaves the session as it is; the first execution sends what `prepare` shows, whose content is
the last body set; every later execution fails and leaves the session as it is; no other call
reaches the client. -/
theorem run_sends_once {s : Session} (hopen : s.client.isOpen = true) (hfresh : s.executed = false)
    (before : List Call) (c : Call) (behind : List Call) :
    (∃ requests, (s.after (before ++ c :: behind)).client.sent = s.client.sent ++ requests ∧
        requests.length ≤ 1) ∧
      ∃ o, (s.run (before ++ c :: behind))[before.length]? = some o ∧
        SendsOnce s before (s.after before) c o := by
  refine ⟨sent_after _ hopen hfresh, _, run_getElem? s before c behind, ?_⟩
  exact sendsOnce_call hopen hfresh before c

/-- A session for `GET items` at this base address that was not executed yet. -/
def sampleSession (base : Uri.Url) : Session :=
  { draft := { Draft.sampleDraft "items" [] [] with base := base }
    client := ⟨[], [], true⟩ }

theorem run_sends_once_sampleSession :
    (sampleSession Draft.sampleBase).client.isOpen = true ∧
      (sampleSession Draft.sampleBase).executed = false ∧
      ∃ o, ((sampleSession Draft.sampleBase).run [.prepare, .execute, .execute])[1]? = some o ∧
        SendsOnce (sampleSession Draft.sampleBase) [.prepare]
          ((sampleSession Draft.sampleBase).after [.prepare]) .execute o :=
  ⟨rfl, rfl, (run_sends_once rfl rfl [.prepare] .execute [.execute]).2⟩

/-- A base address without a scheme. -/
def sampleBareBase : Uri.Url :=
  { scheme := []
    userinfo := []
    host := []
    port := none
    path := "api.example.com/v1/".toList
    query := none
    fragment := none }

/-- A request for an address that is not absolute goes out to another address. -/
theorem exists_other_address :
    ∃ p, ((sampleSession sampleBareBase).call .prepare).answer = .ok (.prepared p) ∧
      p.url.text = "api.example.com/v1/items?alt=json" ∧
      (((sampleSession sampleBareBase).call .execute).session.client.sent.map fun o => o.url.text) =
        ["/api.example.com/v1/items?alt=json"] := by
  have hshown : (sampleSession sampleBareBase).draft.prepare.toOption.map (fun p => p.url.text) =
      some "api.example.com/v1/items?alt=json" := by decide +kernel
  obtain ⟨p, hp, htext⟩ := ApiDiscovery.Outcome.exists_ok_of_map hshown
  refine ⟨p, ?_, htext, by decide +kernel⟩
  show (sampleSession sampleBareBase).draft.prepare.map Answer.prepared = .ok (.prepared p)
  rw [hp]
  rfl

end Session
end ApiDiscovery.Request
