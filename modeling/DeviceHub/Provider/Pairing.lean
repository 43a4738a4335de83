import DeviceHub.Provider.ADBRequests

/-!
# The answers and their commands

Requests have no number that an answer could name: what comes is taken for the answer to the request
that is first in the queue.  A request that is given up leaves its answer to the next.

## Main definitions

* `ADBRequests.Paired` : every promise is settled with the answer to its own command.
* `ADBRequests.Undisturbed` : the condition on a step.
* `ADBRequests.Synced` : what holds in the runs whose steps all meet the condition: the bytes that
  have yet to be read on a connection are those of the answer to the request in flight on it, or
  there are none.

## Main results

* `ADBRequests.paired_of_run` : the answers are paired in the runs whose steps all meet the
  condition.
* `ADBRequests.not_paired_of_timeout` : a request is resolved with the answer to one that timed out.
-/

namespace DeviceHub

/-- A line ends at the end of the data only. -/
def ADBAnswer.OneLine : ADBAnswer → Prop
  | .okay data => 10 ∉ data.dropLast
  | .fail _ => True

instance (answer : ADBAnswer) : Decidable answer.OneLine :=
  match answer with
  | .okay data => inferInstanceAs (Decidable (10 ∉ data.dropLast))
  | .fail _ => isTrue trivial

namespace ADBRequests

variable {s s' : ADBRequests} {i : Nat} {c c' : ADBSocket} {request : ADBRequest}

/-- The server has answered the command so, on one of the connections. -/
def Answered (s : ADBRequests) (w : ADBWritten) (answer : ADBAnswer) : Prop :=
  ∃ (i : Nat) (c : ADBSocket) (n : Nat), s.sockets[i]? = some c ∧ c.written[n]? = some w ∧
    c.answers[n]? = some answer

/-- What the promise of a call is settled with is the answer to its own command, or that its own
command, or the one for its transport, has failed. -/
def Own (s : ADBRequests) (call : ADBCall) : ADBOutcome → Prop
  | .resolve data => ∃ kind, kind ≠ .transport ∧ s.Answered ⟨call, kind⟩ (.okay data)
  | .fail message => ∃ kind, s.Answered ⟨call, kind⟩ (.fail message)
  | .error => True

/-- Every call was settled with its own answer. -/
def Paired (s : ADBRequests) : Prop := ∀ e ∈ s.settled, s.Own e.1 e.2

/-- The condition.  No bytes come on a connection on which a request was given up; the output of a
command for a device is one line at most; and when a connection is closed while the output of a
command is being read, then it is the connection of this command, and all of its output has come. -/
def Undisturbed (s : ADBRequests) : Event → Prop
  | .data i _ => ∀ c ∈ s.sockets[i]?, c.abandoned = false
  | .answer i answer => ∀ c ∈ s.sockets[i]?, ∀ w ∈ c.written[c.answers.length]?,
      w.kind = .device → answer.OneLine
  | .close i => ∀ request ∈ s.requestQueue.head?, request.rawStreamBuffer.isSome = true →
      request.timer = some i ∧ ∀ c ∈ s.sockets[i]?, c.pending = []
  | _ => True

instance (s : ADBRequests) (event : Event) : Decidable (s.Undisturbed event) :=
  match event with
  | .data i _ => inferInstanceAs (Decidable (∀ c ∈ s.sockets[i]?, _))
  | .answer i _ => inferInstanceAs (Decidable (∀ c ∈ s.sockets[i]?,
      ∀ w ∈ c.written[c.answers.length]?, w.kind = .device → _))
  | .close _ => inferInstanceAs (Decidable (∀ request ∈ s.requestQueue.head?,
      request.rawStreamBuffer.isSome = true → _ ∧ ∀ c ∈ s.sockets[_]?, _))
  | .send _ _ | .check _ | .enqueue _ | .connected _ | .connectError _ | .redial | .reconnected
  | .timeout | .writeError | .ended _ | .error _ => isTrue trivial

/-! ### The invariant -/

/-- All that was written is answered, and all that was answered is read. -/
structure Clean (c : ADBSocket) : Prop where
  answers : c.answers.length = c.written.length
  pending : c.pending = []
  responseBuffer : c.responseBuffer = []

/-- The request is in flight on the connection: its command is the last that was written, and it is
not answered; or its answer is being read; or the stream of a command for a device is. -/
inductive Busy (c : ADBSocket) (request : ADBRequest) : Prop where
  | unanswered (before : List ADBWritten)
      (hwritten : c.written = before ++ [⟨request.call, request.kind⟩])
      (hanswers : c.answers.length = before.length) (hpending : c.pending = [])
      (hbuffer : c.responseBuffer = []) (hraw : request.rawStreamBuffer = none)
  | reading (before : List ADBWritten) (answers : List ADBAnswer) (answer : ADBAnswer)
      (hwritten : c.written = before ++ [⟨request.call, request.kind⟩])
      (hanswers : c.answers = answers ++ [answer]) (hlength : answers.length = before.length)
      (hfits : answer.Fits request.kind) (hline : request.kind = .device → answer.OneLine)
      (hraw : request.rawStreamBuffer = none)
      (hbytes : c.responseBuffer ++ c.pending = answer.encode request.kind)
  | streaming (before : List ADBWritten) (answers : List ADBAnswer) (data : Bytes)
      (hwritten : c.written = before ++ [⟨request.call, request.kind⟩])
      (hanswers : c.answers = answers ++ [.okay (data ++ c.pending)])
      (hlength : answers.length = before.length) (hkind : request.kind = .device)
      (hline : 10 ∉ (data ++ c.pending).dropLast) (hdata : 10 ∉ data)
      (hraw : request.rawStreamBuffer = some data) (hbuffer : c.responseBuffer = [])

/-- Where no request was given up, a connection is busy with the request in flight on it, or it is
clean, unless it is destroyed. -/
structure Synced (s : ADBRequests) : Prop where
  others : ∀ request ∈ s.requestQueue.tail, request.timer = none ∧ request.rawStreamBuffer = none
  started : ∀ request, s.requestQueue.head? = some request →
    request.rawStreamBuffer.isSome = true →
    ∃ i c, request.timer = some i ∧ s.sockets[i]? = some c ∧ c.abandoned = false
  valid : ∀ i, s.inFlight = some i → i < s.sockets.length
  busy : ∀ request i c, s.requestQueue.head? = some request → request.timer = some i →
    s.sockets[i]? = some c → c.abandoned = false → Busy c request
  clean : ∀ i c, s.sockets[i]? = some c → s.inFlight ≠ some i → c.abandoned = false →
    c.destroyed = false → Clean c
  paired : s.Paired

theorem synced_new : new.Synced where
  others _ h := by cases h
  started _ h := by cases h
  valid _ h := by cases h
  busy _ _ _ h := by cases h
  clean i c hc := by cases hc
  paired e he := by cases he

/-! ### The answers that were given -/

/-- Nothing that was written or answered is lost. -/
def Grows (s s' : ADBRequests) : Prop :=
  ∀ (i : Nat) (c : ADBSocket), s.sockets[i]? = some c → ∃ c' : ADBSocket, s'.sockets[i]? = some c' ∧
    c.written <+: c'.written ∧ c.answers <+: c'.answers

theorem Grows.of_eq (h : s'.sockets = s.sockets) : Grows s s' :=
  fun _ c hc => ⟨c, h ▸ hc, List.prefix_rfl, List.prefix_rfl⟩

theorem Grows.trans {s'' : ADBRequests} (h : Grows s s') (h' : Grows s' s'') : Grows s s'' := by
  intro i c hc
  obtain ⟨c', hc', hwritten, hanswers⟩ := h i c hc
  obtain ⟨c'', hc'', hwritten', hanswers'⟩ := h' i c' hc'
  exact ⟨c'', hc'', hwritten.trans hwritten', hanswers.trans hanswers'⟩

theorem Grows.of_modify {f : ADBSocket → ADBSocket} (h : s'.sockets = s.sockets.modify i f)
    (hf : ∀ c, c.written <+: (f c).written ∧ c.answers <+: (f c).answers) : Grows s s' := by
  intro j c hc
  rw [h]
  refine ⟨_, getElem?_modify_of_eq_some hc f, ?_⟩
  split
  · exact hf c
  · exact ⟨List.prefix_rfl, List.prefix_rfl⟩

theorem grows_modifySocket {f : ADBSocket → ADBSocket}
    (hf : ∀ c, c.written <+: (f c).written ∧ c.answers <+: (f c).answers) :
    Grows s (s.modifySocket i f) := .of_modify rfl hf

theorem grows_setBuffer (i : Nat) (rest : Bytes) : Grows s (s.setBuffer i rest) :=
  grows_modifySocket fun _ => ⟨List.prefix_rfl, List.prefix_rfl⟩

theorem Answered.grow {w : ADBWritten} {answer : ADBAnswer} (h : s.Answered w answer)
    (hgrows : Grows s s') : s'.Answered w answer := by
  obtain ⟨i, c, n, hc, hw, ha⟩ := h
  obtain ⟨c', hc', hwritten, hanswers⟩ := hgrows i c hc
  exact ⟨i, c', n, hc', getElem?_of_prefix hwritten hw, getElem?_of_prefix hanswers ha⟩

theorem Own.grow {call : ADBCall} {outcome : ADBOutcome} (h : s.Own call outcome)
    (hgrows : Grows s s') : s'.Own call outcome := by
  cases outcome with
  | resolve data =>
    obtain ⟨kind, hkind, hanswered⟩ := h
    exact ⟨kind, hkind, hanswered.grow hgrows⟩
  | fail message =>
    obtain ⟨kind, hanswered⟩ := h
    exact ⟨kind, hanswered.grow hgrows⟩
  | error => trivial

theorem Paired.grow (h : s.Paired) (hgrows : Grows s s') {new : List (ADBCall × ADBOutcome)}
    (hsettled : s'.settled = s.settled ++ new) (hnew : ∀ e ∈ new, s.Own e.1 e.2) : s'.Paired := by
  intro e he
  rw [hsettled] at he
  rcases List.mem_append.1 he with he | he
  · exact (h e he).grow hgrows
  · exact (hnew e he).grow hgrows

theorem Paired.keep (h : s.Paired) (hgrows : Grows s s') (hsettled : s'.settled = s.settled) :
    s'.Paired :=
  h.grow hgrows (hsettled.trans (List.append_nil _).symm) fun _ he => (by cases he)

/-- The answer is the last one on the connection, and to the last command, which is that of the
request. -/
def LastAnswered (c : ADBSocket) (request : ADBRequest) (answer : ADBAnswer) : Prop :=
  ∃ (before : List ADBWritten) (answers : List ADBAnswer),
    c.written = before ++ [⟨request.call, request.kind⟩] ∧ c.answers = answers ++ [answer] ∧
      answers.length = before.length

theorem LastAnswered.answered {answer : ADBAnswer} (h : LastAnswered c request answer)
    (hc : s.sockets[i]? = some c) :
    s.Answered ⟨request.call, request.kind⟩ answer := by
  obtain ⟨before, answers, hwritten, hanswers, hlength⟩ := h
  exact ⟨i, c, before.length, hc, by rw [hwritten, List.getElem?_concat_length],
    by rw [hanswers, ← hlength, List.getElem?_concat_length]⟩

theorem LastAnswered.clean {answer : ADBAnswer} (h : LastAnswered c request answer)
    (hpending : c.pending = []) (hbuffer : c.responseBuffer = []) : Clean c := by
  obtain ⟨before, answers, hwritten, hanswers, hlength⟩ := h
  refine ⟨?_, hpending, hbuffer⟩
  rw [hwritten, hanswers, List.length_append, List.length_append, hlength]
  rfl

/-! ### No request in flight -/

/-- Where no request is in flight, every connection is clean. -/
theorem Synced.of_idle (hqueue : ∀ request ∈ s.requestQueue,
      request.timer = none ∧ request.rawStreamBuffer = none)
    (hclean : ∀ (i : Nat) (c : ADBSocket), s.sockets[i]? = some c → c.abandoned = false →
      c.destroyed = false → Clean c)
    (hpaired : s.Paired) : s.Synced := by
  have hhead : ∀ request, s.requestQueue.head? = some request →
      request.timer = none ∧ request.rawStreamBuffer = none :=
    fun request h => hqueue request (List.mem_of_mem_head? h)
  refine ⟨fun request h => hqueue request (List.mem_of_mem_tail h), fun request h hraw => ?_,
    fun i h => ?_, fun request i c h htimer => ?_, fun i c hc _ => hclean i c hc, hpaired⟩
  · rw [(hhead request h).2] at hraw
    cases hraw
  · obtain ⟨request, hrequest, htimer⟩ := Option.bind_eq_some_iff.1 h
    rw [(hhead request hrequest).1] at htimer
    cases htimer
  · rw [(hhead request h).1] at htimer
    cases htimer

theorem Synced.congr (h : s.Synced) (hqueue : s'.requestQueue = s.requestQueue)
    (hsockets : s'.sockets = s.sockets) {new : List (ADBCall × ADBOutcome)}
    (hsettled : s'.settled = s.settled ++ new) (hnew : ∀ e ∈ new, e.2 = .error) : s'.Synced := by
  have hflight : s'.inFlight = s.inFlight := by
    unfold inFlight
    rw [hqueue]
  refine ⟨fun request hr => h.others request (hqueue ▸ hr), fun request hr hraw => ?_, fun i hi => ?_,
    fun request i c hr htimer hc => h.busy request i c (hqueue ▸ hr) htimer (hsockets ▸ hc),
    fun i c hc hi => h.clean i c (hsockets ▸ hc) (hflight ▸ hi),
    h.paired.grow (.of_eq hsockets) hsettled fun e he => ?_⟩
  · rw [hsockets]
    exact h.started request (hqueue ▸ hr) hraw
  · rw [hsockets]
    exact h.valid i (hflight ▸ hi)
  · rw [hnew e he]
    trivial

theorem Synced.of_eq (h : s.Synced) (hqueue : s'.requestQueue = s.requestQueue)
    (hsockets : s'.sockets = s.sockets) (hsettled : s'.settled = s.settled) : s'.Synced :=
  h.congr hqueue hsockets (hsettled.trans (List.append_nil _).symm) fun _ he => by cases he

theorem inFlight_of_cons {others : List ADBRequest} (h : s.requestQueue = request :: others) :
    s.inFlight = request.timer := by
  unfold inFlight
  rw [h]
  rfl

/-- **The next request** is written on a connection that is clean. -/
theorem Synced.processNextRequest (h : s.Synced) : s.processNextRequest.Synced := by
  rcases processNextRequest_cases s with heq | ⟨request, others, i, hqueue, htimer, halive, heq⟩
  · rw [heq]
    exact h
  · rw [heq]
    obtain ⟨-, c, hc, hdestroyed⟩ := alive_eq_some halive
    have hidle : s.inFlight = none := (inFlight_of_cons hqueue).trans htimer
    -- no stream has begun, since the request is not in flight
    have hraw : request.rawStreamBuffer = none := by
      by_contra hraw
      obtain ⟨j, -, hj, -⟩ := h.started request (head?_eq hqueue)
        (Option.isSome_iff_ne_none.2 hraw)
      rw [htimer] at hj
      cases hj
    have hothers : ∀ r ∈ others, r.timer = none ∧ r.rawStreamBuffer = none := fun r hr =>
      h.others r (by rw [hqueue]; exact hr)
    have hflight : (s.write request others i).inFlight = some i := rfl
    refine ⟨hothers, fun r hr hstarted => ?_, fun j hj => ?_, fun r j c' hr hj hc' hkept => ?_,
      fun j c' hc' hj hkept hopen => ?_, h.paired.keep (.of_modify rfl fun c => ?_) rfl⟩
    · obtain rfl := Option.some.inj hr
      rw [show ({ request with timer := some i } : ADBRequest).rawStreamBuffer = none from hraw]
        at hstarted
      cases hstarted
    · obtain rfl : i = j := Option.some.inj hj
      show i < (s.sockets.modify i _).length
      rw [List.length_modify]
      exact (List.getElem?_eq_some_iff.1 hc).1
    · obtain rfl := Option.some.inj hr
      obtain rfl : i = j := Option.some.inj hj
      obtain ⟨c₀, hc₀, ⟨-, rfl⟩ | ⟨hne, -⟩⟩ := getElem?_modify_eq_some hc'
      · obtain rfl : c = c₀ := Option.some.inj (hc.symm.trans hc₀)
        have hclean := h.clean i c hc (by rw [hidle]; nofun) hkept hdestroyed
        exact .unanswered c.written rfl hclean.answers hclean.pending hclean.responseBuffer hraw
      · exact absurd rfl hne
    · obtain ⟨c₀, hc₀, ⟨rfl, -⟩ | ⟨-, rfl⟩⟩ := getElem?_modify_eq_some hc'
      · exact absurd hflight hj
      · exact h.clean j c' hc₀ (by rw [hidle]; nofun) hkept hopen
    · exact ⟨List.prefix_append _ _, List.prefix_rfl⟩

/-- A new request waits at the end of the queue. -/
theorem Synced.push (h : s.Synced) (call : ADBCall) (kind : RequestKind) :
    (s.push call kind).Synced := by
  rcases hqueue : s.requestQueue with _ | ⟨request, others⟩
  · have hidle : s.inFlight = none := by
      unfold inFlight
      rw [hqueue]
      rfl
    refine .of_idle (fun r hr => ?_) (fun i c hc hkept hopen =>
      h.clean i c hc (by rw [hidle]; nofun) hkept hopen) (h.paired.keep (.of_eq rfl) rfl)
    replace hr : r ∈ s.requestQueue ++ [⟨call, kind, none, none⟩] := hr
    rw [hqueue, List.nil_append] at hr
    rw [List.mem_singleton.1 hr]
    exact ⟨rfl, rfl⟩
  · have hhead := head?_push hqueue call kind
    have hflight : (s.push call kind).inFlight = s.inFlight := by
      unfold inFlight
      rw [hhead]
    refine ⟨fun r hr => ?_, fun r hr => h.started r (hhead ▸ hr), fun i hi => h.valid i (hflight ▸ hi),
      fun r i c hr => h.busy r i c (hhead ▸ hr), fun i c hc hi => h.clean i c hc (hflight ▸ hi),
      h.paired.keep (.of_eq rfl) rfl⟩
    rw [requestQueue_push hqueue] at hr
    rcases List.mem_append.1 hr with hr | hr
    · exact h.others r (by rw [hqueue]; exact hr)
    · rw [List.mem_singleton.1 hr]
      exact ⟨rfl, rfl⟩

/-! ### The answer that is read -/

/-- The first request is in flight on the connection `i`, on which nothing was given up. -/
structure Reading (s : ADBRequests) (request : ADBRequest) (others : List ADBRequest) (i : Nat)
    (c : ADBSocket) : Prop where
  queue : s.requestQueue = request :: others
  timer : request.timer = some i
  socket : s.sockets[i]? = some c
  kept : c.abandoned = false
  others : ∀ r ∈ others, r.timer = none ∧ r.rawStreamBuffer = none
  clean : ∀ (j : Nat) (c' : ADBSocket), j ≠ i → s.sockets[j]? = some c' → c'.abandoned = false →
    c'.destroyed = false → Clean c'
  paired : s.Paired

variable {others : List ADBRequest}

theorem Synced.reading (h : s.Synced) (hqueue : s.requestQueue = request :: others)
    (htimer : request.timer = some i) (hc : s.sockets[i]? = some c) (hkept : c.abandoned = false) :
    s.Reading request others i c where
  queue := hqueue
  timer := htimer
  socket := hc
  kept := hkept
  others r hr := h.others r (by rw [hqueue]; exact hr)
  clean j c' hne hc' hkept' hopen := by
    refine h.clean j c' hc' ?_ hkept' hopen
    rw [inFlight_of_cons hqueue, htimer]
    exact fun heq => hne (Option.some.inj heq).symm
  paired := h.paired

/-- The request goes on to be read, as far as it is then. -/
theorem Reading.synced (h : s.Reading request others i c) (hbusy : Busy c request) : s.Synced := by
  have hflight : s.inFlight = some i := (inFlight_of_cons h.queue).trans h.timer
  have hhead : ∀ r, s.requestQueue.head? = some r → r = request := by
    intro r hr
    rw [h.queue] at hr
    exact (Option.some.inj hr).symm
  refine ⟨fun r hr => h.others r ?_, fun r hr _ => ?_, fun j hj => ?_, fun r j c' hr hj hc' _ => ?_,
    fun j c' hc' hj hkept hopen => ?_, h.paired⟩
  · rw [h.queue] at hr
    exact hr
  · exact ⟨i, c, (hhead r hr) ▸ h.timer, h.socket, h.kept⟩
  · obtain rfl : i = j := Option.some.inj (hflight.symm.trans hj)
    exact (List.getElem?_eq_some_iff.1 h.socket).1
  · obtain rfl := hhead r hr
    obtain rfl : i = j := Option.some.inj (h.timer.symm.trans hj)
    obtain rfl : c = c' := Option.some.inj (h.socket.symm.trans hc')
    exact hbusy
  · exact h.clean j c' (fun heq => hj (heq ▸ hflight)) hc' hkept hopen

/-- **The answer has been read**: the promise is settled with it, or the next request of the call is
queued. -/
theorem Reading.finish (h : s.Reading request others i c) (hqueue : s'.requestQueue = others)
    (hsockets : ∀ j, j ≠ i → s'.sockets[j]? = s.sockets[j]?)
    (hclean : ∀ c', s'.sockets[i]? = some c' → c'.abandoned = false → c'.destroyed = false → Clean c')
    (hgrows : Grows s s') {new : List (ADBCall × ADBOutcome)}
    (hsettled : s'.settled = s.settled ++ new) (hnew : ∀ e ∈ new, s.Own e.1 e.2) : s'.Synced := by
  refine .of_idle (fun r hr => h.others r (hqueue ▸ hr)) (fun j c' hc' hkept hopen => ?_)
    (h.paired.grow hgrows hsettled hnew)
  by_cases hji : j = i
  · subst hji
    exact hclean c' hc' hkept hopen
  · exact h.clean j c' hji (hsockets j hji ▸ hc') hkept hopen

/-- Some of the bytes have come, and some of these are left in the buffer. -/
theorem Reading.receive (h : s.Reading request others i c) (n : Nat) (rest : Bytes) :
    ((s.modifySocket i fun c => { c with pending := c.pending.drop n }).setBuffer i rest).Reading
      request others i { c with pending := c.pending.drop n, responseBuffer := rest } := by
  have hsocket : ∀ j, ((s.modifySocket i fun c => { c with pending := c.pending.drop n }).setBuffer i
      rest).sockets[j]? = if j = i then
        s.sockets[j]?.map fun c => { c with pending := c.pending.drop n, responseBuffer := rest }
      else s.sockets[j]? := by
    intro j
    show ((s.sockets.modify i _).modify i _)[j]? = _
    rw [List.getElem?_modify, List.getElem?_modify]
    by_cases hji : j = i
    · subst hji
      cases s.sockets[j]? <;> simp
    · cases s.sockets[j]? <;> simp [hji, Ne.symm hji]
  have hdropped : Grows s (s.modifySocket i fun c => { c with pending := c.pending.drop n }) :=
    grows_modifySocket fun _ => ⟨List.prefix_rfl, List.prefix_rfl⟩
  have hgrows : Grows s ((s.modifySocket i fun c =>
      { c with pending := c.pending.drop n }).setBuffer i rest) :=
    hdropped.trans (grows_setBuffer i rest)
  refine ⟨h.queue, h.timer, ?_, h.kept, h.others, fun j c' hji hc' => ?_,
    h.paired.keep hgrows rfl⟩
  · rw [hsocket, if_pos rfl, h.socket]
    rfl
  · rw [hsocket, if_neg hji] at hc'
    exact h.clean j c' hji hc'

theorem Reading.settle (h : s.Reading request others i c)
    (hclean : Clean c) {outcome : ADBOutcome} (hown : s.Own request.call outcome) :
    (s.shift.settle request.call outcome).Synced := by
  have hqueue : s.requestQueue.tail = others := tail_eq h.queue
  have hsettled : (s.shift.settle request.call outcome).settled =
      s.settled ++ [(request.call, outcome)] := rfl
  refine h.finish hqueue (fun _ _ => rfl) (fun c' hc' _ _ => ?_) (.of_eq rfl) hsettled
    fun e he => ?_
  · obtain rfl : c = c' := Option.some.inj (h.socket.symm.trans hc')
    exact hclean
  · rw [List.mem_singleton.1 he]
    exact hown

theorem Synced.closeConnectionAfterTransport (h : s.Synced) (hidle : s.inFlight = none) :
    s.closeConnectionAfterTransport.Synced := by
  rcases closeConnectionAfterTransport_cases s with ⟨heq, -⟩ | ⟨k, -, heq⟩
  · rw [heq]
    exact h
  · rw [heq]
    have hqueue : ∀ request ∈ s.requestQueue,
        request.timer = none ∧ request.rawStreamBuffer = none := by
      intro request hr
      rcases hq : s.requestQueue with _ | ⟨first, others⟩
      · rw [hq] at hr
        cases hr
      · rw [hq] at hr
        rcases List.mem_cons.1 hr with rfl | hr
        · have htimer : request.timer = none := (inFlight_of_cons hq).symm.trans hidle
          refine ⟨htimer, ?_⟩
          by_contra hraw
          obtain ⟨j, -, hj, -⟩ := h.started request (by rw [hq]; rfl)
            (Option.isSome_iff_ne_none.2 hraw)
          rw [htimer] at hj
          cases hj
        · exact h.others request (by rw [hq]; exact hr)
    refine .of_idle hqueue (fun j c hc hkept hopen => ?_)
      (h.paired.keep (.of_modify rfl fun _ => ⟨List.prefix_rfl, List.prefix_rfl⟩) rfl)
    obtain ⟨c₀, hc₀, ⟨-, rfl⟩ | ⟨-, rfl⟩⟩ := getElem?_modify_eq_some hc
    · cases hopen
    · exact h.clean j c hc₀ (by rw [hidle]; nofun) hkept hopen

theorem Reading.inFlight_shift (h : s.Reading request others i c) : s.shift.inFlight = none := by
  have hqueue : s.shift.requestQueue = others := by
    show s.requestQueue.tail = others
    rw [h.queue]
    rfl
  unfold inFlight
  rw [hqueue]
  rcases others with _ | ⟨r, rest⟩
  · rfl
  · exact (h.others r List.mem_cons_self).1

theorem eq_nil_of_oneLine {data pending : Bytes} (hline : 10 ∉ (data ++ pending).dropLast)
    (hdata : 10 ∈ data) : pending = [] := by
  by_contra hne
  rw [List.dropLast_append_of_ne_nil hne] at hline
  exact hline (List.mem_append_left _ hdata)

/-- **The stream of a command for a device**, of which more has come. -/
theorem Reading.accumulate (h : s.Reading request others i c) {data : Bytes}
    (hlast : LastAnswered c request (.okay (data ++ c.pending))) (hkind : request.kind = .device)
    (hline : 10 ∉ (data ++ c.pending).dropLast) (hbuffer : c.responseBuffer = []) :
    (s.accumulate request others data).Synced := by
  unfold ADBRequests.accumulate
  split
  · rename_i hdata
    have hpending : c.pending = [] := eq_nil_of_oneLine hline hdata
    have hanswered := hlast.answered h.socket
    rw [hpending, List.append_nil] at hanswered
    have hown : s.Own request.call (.resolve data) :=
      ⟨request.kind, by rw [hkind]; nofun, hanswered⟩
    have hresolved : s.shift.resolve request data = s.shift.settle request.call (.resolve data) := by
      unfold resolve
      rw [hkind]
    rw [hresolved]
    exact ((h.settle (hlast.clean hpending hbuffer) hown).closeConnectionAfterTransport
      h.inFlight_shift).processNextRequest
  · rename_i hdata
    have hstreaming : Reading { s with requestQueue :=
        { request with rawStreamBuffer := some data } :: others }
        { request with rawStreamBuffer := some data } others i c :=
      ⟨rfl, h.timer, h.socket, h.kept, h.others, h.clean, h.paired.keep (.of_eq rfl) rfl⟩
    obtain ⟨before, answers, hwritten, hanswers, hlength⟩ := hlast
    exact hstreaming.synced
      (.streaming before answers data hwritten hanswers hlength hkind hline hdata rfl hbuffer)

/-! ### The bytes that come -/

theorem resolve_setBuffer (j : Nat) (rest data : Bytes) :
    (s.setBuffer j rest).resolve request data = (s.resolve request data).setBuffer j rest := by
  unfold ADBRequests.resolve
  split
  · exact processNextRequest_setBuffer (s := s.push request.call .device) j rest
  · rfl

theorem accumulate_setBuffer (j : Nat) (rest data : Bytes) :
    (s.setBuffer j rest).accumulate request others data =
      (s.accumulate request others data).setBuffer j rest := by
  unfold ADBRequests.accumulate
  split
  · rw [show (s.setBuffer j rest).shift = s.shift.setBuffer j rest from rfl, resolve_setBuffer,
      closeConnectionAfterTransport_setBuffer, processNextRequest_setBuffer]
  · rfl

theorem Reading.answer (h : s.Reading request others i c) {answer : ADBAnswer}
    (hlast : LastAnswered c request answer) (hpending : c.pending = [])
    (hbuffer : c.responseBuffer = []) {outcome : ADBOutcome}
    (houtcome : (∃ message, answer = .fail message ∧ outcome = .fail message) ∨
      ∃ data, answer = .okay data ∧ outcome = .resolve data ∧ request.kind ≠ .transport) :
    (s.shift.settle request.call outcome).processNextRequest.Synced := by
  have hanswered := hlast.answered h.socket
  refine (h.settle (hlast.clean hpending hbuffer) ?_).processNextRequest
  rcases houtcome with ⟨message, rfl, rfl⟩ | ⟨data, rfl, rfl, hkind⟩
  · exact ⟨request.kind, hanswered⟩
  · exact ⟨request.kind, hkind, hanswered⟩

/-- The transport is there, and the command for the device is queued. -/
theorem Reading.transport (h : s.Reading request others i c) {answer : ADBAnswer}
    (hlast : LastAnswered c request answer) (hpending : c.pending = [])
    (hbuffer : c.responseBuffer = []) (hkind : request.kind = .transport) (data : Bytes) :
    (s.shift.resolve request data).processNextRequest.Synced := by
  have hclean : Clean c := hlast.clean hpending hbuffer
  have hqueue : s.shift.requestQueue = others := by
    show s.requestQueue.tail = others
    rw [h.queue]
    rfl
  have hshift : s.shift.Synced := by
    refine h.finish hqueue (fun _ _ => rfl) (fun c' hc' _ _ => ?_) (.of_eq rfl)
      (List.append_nil _).symm fun _ he => (by cases he)
    obtain rfl : c = c' := Option.some.inj (h.socket.symm.trans hc')
    exact hclean
  unfold resolve
  rw [hkind]
  exact ((hshift.push request.call .device).processNextRequest).processNextRequest

theorem processADBResponses_of_some {data buffer : Bytes}
    (hqueue : s.requestQueue = request :: others) (hraw : request.rawStreamBuffer = some data) :
    s.processADBResponses buffer = (s.accumulate request others (data ++ buffer), []) := by
  unfold processADBResponses
  rw [hqueue]
  dsimp only
  rw [hraw]

theorem processADBResponses_of_none {buffer : Bytes} (hqueue : s.requestQueue = request :: others)
    (hraw : request.rawStreamBuffer = none) :
    s.processADBResponses buffer = s.processAnswer request others buffer := by
  unfold processADBResponses
  rw [hqueue]
  dsimp only
  rw [hraw]

/-- The bytes of the answer that have come, and those that have yet to, are all of it; no stream has
begun. -/
structure Arriving (c : ADBSocket) (request : ADBRequest) (answer : ADBAnswer) : Prop where
  last : LastAnswered c request answer
  fits : answer.Fits request.kind
  line : request.kind = .device → answer.OneLine
  raw : request.rawStreamBuffer = none
  bytes : c.responseBuffer ++ c.pending = answer.encode request.kind

theorem Arriving.split {answer : ADBAnswer} (h : Arriving c request answer) (n : Nat) :
    c.responseBuffer ++ c.pending.take n ++ c.pending.drop n = answer.encode request.kind := by
  rw [List.append_assoc, List.take_append_drop, h.bytes]

theorem Arriving.isPrefix {answer : ADBAnswer} (h : Arriving c request answer) (n : Nat) :
    c.responseBuffer ++ c.pending.take n <+: answer.encode request.kind :=
  ⟨_, h.split n⟩

theorem Arriving.drop_eq_nil {answer : ADBAnswer} (h : Arriving c request answer) {n : Nat}
    (hwhole : c.responseBuffer ++ c.pending.take n = answer.encode request.kind) :
    c.pending.drop n = [] := by
  have hsplit := h.split n
  rw [hwhole] at hsplit
  exact List.append_right_eq_self.1 hsplit

/-- The next `n` bytes are read, and what is left of them is kept. -/
def readAnswer (s : ADBRequests) (request : ADBRequest) (others : List ADBRequest) (i n : Nat)
    (c : ADBSocket) : ADBRequests :=
  let received := (s.modifySocket i fun c => { c with pending := c.pending.drop n })
    |>.processAnswer request others (c.responseBuffer ++ c.pending.take n)
  received.1.setBuffer i received.2

theorem Reading.readAnswer_more (h : s.Reading request others i c) {answer : ADBAnswer}
    (harriving : Arriving c request answer) {n : Nat}
    (hread : readResponse request.kind (c.responseBuffer ++ c.pending.take n) = .more) :
    (s.readAnswer request others i n c).Synced := by
  unfold readAnswer processAnswer
  rw [hread]
  obtain ⟨before, answers, hwritten, hanswers, hlength⟩ := harriving.last
  exact (h.receive n _).synced (.reading before answers answer hwritten hanswers hlength
    harriving.fits harriving.line harriving.raw (harriving.split n))

theorem Reading.readAnswer_fail (h : s.Reading request others i c) {message : Bytes}
    (harriving : Arriving c request (.fail message)) (n : Nat) :
    (s.readAnswer request others i n c).Synced := by
  have hread : readResponse request.kind _ = _ :=
    readResponse_fail harriving.fits (harriving.isPrefix n)
  by_cases hwhole : c.responseBuffer ++ c.pending.take n = ADBAnswer.framed FAIL message
  · rw [if_pos hwhole] at hread
    unfold readAnswer processAnswer
    rw [hread]
    dsimp only
    rw [← processNextRequest_setBuffer]
    exact (h.receive n []).answer harriving.last (harriving.drop_eq_nil hwhole) rfl
      (.inl ⟨message, rfl, rfl⟩)
  · rw [if_neg hwhole] at hread
    exact h.readAnswer_more harriving hread

theorem Reading.readAnswer_host (h : s.Reading request others i c) {data : Bytes}
    (harriving : Arriving c request (.okay data)) (hkind : request.kind = .host) (n : Nat) :
    (s.readAnswer request others i n c).Synced := by
  obtain ⟨call, kind, timer, rawStreamBuffer⟩ := request
  obtain rfl : kind = .host := hkind
  have hread : readResponse .host _ = _ :=
    readResponse_host harriving.fits (harriving.isPrefix n)
  by_cases hwhole : c.responseBuffer ++ c.pending.take n = ADBAnswer.framed OKAY data
  · rw [if_pos hwhole] at hread
    unfold readAnswer processAnswer
    rw [hread]
    dsimp only
    rw [← processNextRequest_setBuffer]
    exact (h.receive n []).answer harriving.last (harriving.drop_eq_nil hwhole) rfl
      (.inr ⟨data, rfl, rfl, nofun⟩)
  · rw [if_neg hwhole] at hread
    exact h.readAnswer_more harriving hread

theorem Reading.readAnswer_transport (h : s.Reading request others i c) {data : Bytes}
    (harriving : Arriving c request (.okay data)) (hkind : request.kind = .transport) (n : Nat) :
    (s.readAnswer request others i n c).Synced := by
  obtain ⟨call, kind, timer, rawStreamBuffer⟩ := request
  obtain rfl : kind = .transport := hkind
  have hread : readResponse .transport _ = _ := readResponse_transport (harriving.isPrefix n)
  by_cases hwhole : c.responseBuffer ++ c.pending.take n = OKAY
  · rw [if_pos hwhole] at hread
    unfold readAnswer processAnswer
    rw [hread]
    dsimp only
    rw [← processNextRequest_setBuffer, ← resolve_setBuffer]
    exact (h.receive n []).transport harriving.last (harriving.drop_eq_nil hwhole) rfl rfl []
  · rw [if_neg hwhole] at hread
    exact h.readAnswer_more harriving hread

/-- The rest of the output follows the status. -/
theorem Reading.readAnswer_device (h : s.Reading request others i c) {data : Bytes}
    (harriving : Arriving c request (.okay data)) (hkind : request.kind = .device) (n : Nat) :
    (s.readAnswer request others i n c).Synced := by
  obtain ⟨call, kind, timer, rawStreamBuffer⟩ := request
  obtain rfl : kind = .device := hkind
  have hread : readResponse .device _ = _ := readResponse_stream (harriving.isPrefix n)
  by_cases hshort : (c.responseBuffer ++ c.pending.take n).length < 4
  · rw [if_pos hshort] at hread
    exact h.readAnswer_more harriving hread
  · rw [if_neg hshort] at hread
    have hdata : (c.responseBuffer ++ c.pending.take n).drop 4 ++ c.pending.drop n = data := by
      have hdropped := congrArg (List.drop 4) (harriving.split n)
      rw [List.drop_append_of_le_length (by omega)] at hdropped
      exact hdropped.trans (List.drop_left' rfl)
    unfold readAnswer processAnswer
    rw [hread]
    dsimp only
    rw [← accumulate_setBuffer]
    refine (h.receive n []).accumulate ?_ rfl ?_ rfl
    · rw [hdata]
      exact harriving.last
    · rw [hdata]
      exact harriving.line rfl

/-- **The bytes that come** when no stream has begun. -/
theorem Reading.readAnswer (h : s.Reading request others i c) {answer : ADBAnswer}
    (harriving : Arriving c request answer) (n : Nat) :
    (s.readAnswer request others i n c).Synced := by
  cases answer with
  | fail message => exact h.readAnswer_fail harriving n
  | okay data =>
    cases hkind : request.kind with
    | host => exact h.readAnswer_host harriving hkind n
    | transport => exact h.readAnswer_transport harriving hkind n
    | device => exact h.readAnswer_device harriving hkind n

theorem exists_of_inFlight (h : s.inFlight = some i) :
    ∃ request others, s.requestQueue = request :: others ∧ request.timer = some i := by
  obtain ⟨request, hhead, htimer⟩ := Option.bind_eq_some_iff.1 h
  rcases hqueue : s.requestQueue with _ | ⟨first, others⟩
  · rw [hqueue] at hhead
    cases hhead
  · rw [hqueue] at hhead
    obtain rfl := Option.some.inj hhead
    exact ⟨first, others, rfl, htimer⟩

/-- **Bytes that come** on a connection on which nothing was given up. -/
theorem Synced.onData (h : s.Synced) (hc : s.sockets[i]? = some c) (hkept : c.abandoned = false)
    (hopen : c.destroyed = false) {n : Nat} (hpos : 0 < n) (hn : n ≤ c.pending.length) :
    (s.onData i n c).Synced := by
  have hpending : c.pending ≠ [] := by
    intro hnil
    rw [hnil, List.length_nil] at hn
    omega
  -- a connection on which no request is in flight has no bytes to come
  have hflight : s.inFlight = some i := by
    by_contra hidle
    exact hpending (h.clean i c hc hidle hkept hopen).pending
  obtain ⟨request, others, hqueue, htimer⟩ := exists_of_inFlight hflight
  have hreading := h.reading hqueue htimer hc hkept
  have hreceived : (s.modifySocket i fun c => { c with pending := c.pending.drop n }).requestQueue =
      request :: others := hqueue
  unfold ADBRequests.onData
  cases h.busy request i c (head?_eq hqueue) htimer hc hkept with
  | unanswered before hwritten hanswers hnone => exact absurd hnone hpending
  | reading before answers answer hwritten hanswers hlength hfits hline hraw hbytes =>
    rw [processADBResponses_of_none hreceived hraw]
    exact hreading.readAnswer
      ⟨⟨before, answers, hwritten, hanswers, hlength⟩, hfits, hline, hraw, hbytes⟩ n
  | streaming before answers data hwritten hanswers hlength hkind hline hdata hraw hbuffer =>
    have hjoin : data ++ (c.responseBuffer ++ c.pending.take n) ++ c.pending.drop n =
        data ++ c.pending := by
      rw [hbuffer, List.nil_append, List.append_assoc, List.take_append_drop]
    rw [processADBResponses_of_some hreceived hraw]
    dsimp only
    rw [← setBuffer, ← accumulate_setBuffer]
    refine (hreading.receive n []).accumulate ⟨before, answers, hwritten, ?_, hlength⟩ hkind ?_ rfl
    · rw [hjoin]
      exact hanswers
    · rw [hjoin]
      exact hline

/-! ### Requests that are given up -/

theorem Synced.clean_abandon (h : s.Synced) (j : Nat) (c : ADBSocket)
    (hc : s.abandon.sockets[j]? = some c) (hkept : c.abandoned = false)
    (hopen : c.destroyed = false) : Clean c := by
  rcases hflight : s.inFlight with _ | k
  · rw [abandon_of_none hflight] at hc
    exact h.clean j c hc (by rw [hflight]; nofun) hkept hopen
  · rw [abandon_of_some hflight] at hc
    obtain ⟨c₀, hc₀, ⟨-, rfl⟩ | ⟨hne, rfl⟩⟩ := getElem?_modify_eq_some hc
    · cases hkept
    · refine h.clean j c hc₀ ?_ hkept hopen
      rw [hflight]
      exact fun heq => hne (Option.some.inj heq)

theorem grows_abandon : Grows s s.abandon := by
  rcases hflight : s.inFlight with _ | k
  · rw [abandon_of_none hflight]
    exact .of_eq rfl
  · rw [abandon_of_some hflight]
    exact grows_modifySocket fun _ => ⟨List.prefix_rfl, List.prefix_rfl⟩

theorem settled_abandon : s.abandon.settled = s.settled := by
  rcases hflight : s.inFlight with _ | k
  · rw [abandon_of_none hflight]
  · rw [abandon_of_some hflight]
    rfl

theorem requestQueue_abandon : s.abandon.requestQueue = s.requestQueue := by
  rcases hflight : s.inFlight with _ | k
  · rw [abandon_of_none hflight]
  · rw [abandon_of_some hflight]
    rfl

/-- **A timeout** leaves the connection to itself. -/
theorem Synced.giveUp (h : s.Synced) : s.giveUp.Synced := by
  unfold ADBRequests.giveUp
  split
  · exact h
  · rename_i request others hqueue
    have hsettled : (s.abandon.shift.settle request.call .error).settled =
        s.settled ++ [(request.call, .error)] := by
      show s.abandon.settled ++ _ = _
      rw [settled_abandon]
    -- the answer can still come, but on a connection on which a request was given up
    have hidle : (s.abandon.shift.settle request.call .error).Synced := by
      refine .of_idle (fun r hr => h.others r ?_) (fun j c hc => h.clean_abandon j c hc)
        (h.paired.grow grows_abandon hsettled fun e he => ?_)
      · rwa [show (s.abandon.shift.settle request.call .error).requestQueue =
          s.abandon.requestQueue.tail from rfl, requestQueue_abandon] at hr
      · rw [List.mem_singleton.1 he]
        trivial
    exact hidle.processNextRequest

theorem Synced.rejectAll (h : s.Synced) : s.rejectAll.Synced := by
  refine .of_idle (fun r hr => (by cases hr)) (fun j c hc => h.clean_abandon j c hc)
    (h.paired.grow grows_abandon rfl fun e he => ?_)
  obtain ⟨request, -, rfl⟩ := List.mem_map.1 he
  trivial

/-! ### The ends of connections -/

/-- A connection that is destroyed, or closed, is otherwise as it was. -/
theorem Synced.touch (h : s.Synced) {destroyed closed : ADBSocket → Bool}
    (hdestroyed : ∀ c, destroyed c = false → c.destroyed = false)
    (hqueue : s'.requestQueue = s.requestQueue)
    (hsockets : s'.sockets = s.sockets.modify i fun c =>
      { c with destroyed := destroyed c, closed := closed c })
    (hsettled : s'.settled = s.settled) : s'.Synced := by
  have hflight : s'.inFlight = s.inFlight := by
    unfold inFlight
    rw [hqueue]
  have hfind : ∀ {j : Nat} {c' : ADBSocket}, s'.sockets[j]? = some c' →
      ∃ (c : ADBSocket) (d e : Bool), s.sockets[j]? = some c ∧
        c' = { c with destroyed := d, closed := e } ∧ (d = false → c.destroyed = false) := by
    intro j c' hc'
    rw [hsockets] at hc'
    obtain ⟨c, hc, ⟨-, rfl⟩ | ⟨-, rfl⟩⟩ := getElem?_modify_eq_some hc'
    · exact ⟨c, _, _, hc, rfl, hdestroyed c⟩
    · exact ⟨c', c'.destroyed, c'.closed, hc, rfl, id⟩
  refine ⟨fun r hr => h.others r (hqueue ▸ hr), fun r hr hraw => ?_, fun j hj => ?_,
    fun r j c' hr htimer hc' hkept => ?_, fun j c' hc' hj hkept hopen => ?_,
    h.paired.keep (.of_modify hsockets fun _ => ⟨List.prefix_rfl, List.prefix_rfl⟩) hsettled⟩
  · obtain ⟨j, c, hj, hc, hkept⟩ := h.started r (hqueue ▸ hr) hraw
    rw [hsockets]
    refine ⟨j, _, hj, getElem?_modify_of_eq_some hc _, ?_⟩
    split <;> exact hkept
  · rw [hsockets, List.length_modify]
    exact h.valid j (hflight ▸ hj)
  · obtain ⟨c, d, e, hc, rfl, -⟩ := hfind hc'
    cases h.busy r j c (hqueue ▸ hr) htimer hc hkept with
    | unanswered before hwritten hanswers hpending hbuffer hraw =>
      exact .unanswered before hwritten hanswers hpending hbuffer hraw
    | reading before answers answer hwritten hanswers hlength hfits hline hraw hbytes =>
      exact .reading before answers answer hwritten hanswers hlength hfits hline hraw hbytes
    | streaming before answers data hwritten hanswers hlength hkind hline hdata hraw hbuffer =>
      exact .streaming before answers data hwritten hanswers hlength hkind hline hdata hraw hbuffer
  · obtain ⟨c, d, e, hc, rfl, hd⟩ := hfind hc'
    have hclean := h.clean j c hc (hflight ▸ hj) hkept (hd hopen)
    exact ⟨hclean.answers, hclean.pending, hclean.responseBuffer⟩

theorem Synced.attemptReconnect (h : s.Synced) : s.attemptReconnect.Synced :=
  h.congr rfl rfl (List.append_nil _).symm fun _ he => (by cases he)

/-- **A connection is closed.**  The request in flight waits for another connection, unless its
output has begun to come: then this has all come, and is the answer. -/
theorem Synced.onClose (h : s.Synced) (hundisturbed : s.Undisturbed (.close i)) :
    (s.onClose i).Synced := by
  have hclosed : Synced { s with
      connection := none, sockets := s.sockets.modify i fun c => { c with closed := true } } :=
    h.touch (i := i) (fun _ => id) rfl rfl rfl
  unfold ADBRequests.onClose
  dsimp only
  split
  · exact hclosed.attemptReconnect
  · rename_i request others hqueue
    split
    · rename_i data hraw
      have hhead : s.requestQueue.head? = some request := by
        rw [show s.requestQueue = request :: others from hqueue]
        rfl
      have hstarted : request.rawStreamBuffer.isSome = true := by
        rw [hraw]
        rfl
      -- by the condition all of the output has come
      obtain ⟨htimer, hall⟩ := hundisturbed request hhead hstarted
      obtain ⟨j, c, hj, hc, hkept⟩ := hclosed.started request hhead hstarted
      obtain rfl : i = j := Option.some.inj (htimer.symm.trans hj)
      have hpending : c.pending = [] := by
        obtain ⟨c₀, hc₀, ⟨-, rfl⟩ | ⟨hne, -⟩⟩ := getElem?_modify_eq_some hc
        · exact hall c₀ hc₀
        · exact absurd rfl hne
      have hreading := hclosed.reading hqueue htimer hc hkept
      cases hclosed.busy request i c hhead htimer hc hkept with
      | unanswered before hwritten hanswers hnone hbuffer hnot =>
        rw [hraw] at hnot
        cases hnot
      | reading before answers answer hwritten hanswers hlength hfits hline hnot hbytes =>
        rw [hraw] at hnot
        cases hnot
      | streaming before answers data' hwritten hanswers hlength hkind hline hdata hraw' hbuffer =>
        obtain rfl : data = data' := Option.some.inj (hraw.symm.trans hraw')
        rw [hpending, List.append_nil] at hanswers
        unfold resolve
        rw [hkind]
        exact hreading.answer ⟨before, answers, hwritten, hanswers, hlength⟩ hpending hbuffer
          (.inr ⟨data, rfl, rfl, by rw [hkind]; nofun⟩)
    · rename_i hraw
      -- no output has come: the request loses its timer, and waits for another connection
      refine Synced.attemptReconnect (.of_idle (fun r hr => ?_) (fun j c hc =>
        hclosed.clean_abandon j c hc) (h.paired.keep ?_ ?_))
      · rcases List.mem_cons.1 hr with rfl | hr
        · exact ⟨rfl, hraw⟩
        · exact h.others r (by rw [show s.requestQueue = request :: others from hqueue]; exact hr)
      · have hgrows : Grows s { s with
            connection := none, sockets := s.sockets.modify i fun c => { c with closed := true } } :=
          .of_modify rfl fun _ => ⟨List.prefix_rfl, List.prefix_rfl⟩
        exact hgrows.trans (grows_abandon.trans (.of_eq rfl))
      · exact settled_abandon (s := { s with
          connection := none, sockets := s.sockets.modify i fun c => { c with closed := true } })

/-! ### The steps -/

theorem Synced.checkConnection (h : s.Synced) (j : Nat) (caller : ADBCaller) :
    (s.checkConnection j caller).Synced := by
  unfold ADBRequests.checkConnection
  split_ifs
  · exact h.of_eq rfl rfl rfl
  · have hsettled : (settle { s with callers := s.callers.eraseIdx j } caller.call .error).settled =
        s.settled ++ [(caller.call, .error)] := rfl
    refine h.congr rfl rfl hsettled fun e he => ?_
    rw [List.mem_singleton.1 he]
  · exact h

/-- An attempt that fails ends in an error for its caller, or for all when it was the last. -/
theorem Synced.onConnectError (h : s.Synced) (k : Nat) (dial : ADBDial) :
    (s.onConnectError k dial).Synced := by
  unfold ADBRequests.onConnectError
  dsimp only
  split
  · rename_i call
    have hsettled : (settle { s with
        connection := none, isConnecting := false, dials := s.dials.eraseIdx k } call
        .error).settled = s.settled ++ [(call, .error)] := rfl
    refine h.congr rfl rfl hsettled fun e he => ?_
    rw [List.mem_singleton.1 he]
  · split
    · split
      · exact h.of_eq rfl rfl rfl
      · have hfailed : Synced { s with
            connection := none, isConnecting := false, dials := s.dials.eraseIdx k
            reconnecting := none } := h.of_eq rfl rfl rfl
        exact hfailed.rejectAll
    · exact h.of_eq rfl rfl rfl

/-- A new connection is clean. -/
theorem Synced.onConnected (h : s.Synced) (k : Nat) (dial : ADBDial) :
    (s.onConnected k dial).Synced := by
  have hmade : Synced { s with
      connection := some s.sockets.length
      sockets := s.sockets ++ [⟨[], [], [], [], false, false, false⟩]
      isConnecting := false
      dials := s.dials.eraseIdx k } := by
    -- the connections that there were keep their numbers
    have hgrows : Grows s { s with
        connection := some s.sockets.length
        sockets := s.sockets ++ [⟨[], [], [], [], false, false, false⟩]
        isConnecting := false
        dials := s.dials.eraseIdx k } := by
      intro j c hc
      have hlt := (List.getElem?_eq_some_iff.1 hc).1
      exact ⟨c, (List.getElem?_append_left hlt).trans hc, List.prefix_rfl, List.prefix_rfl⟩
    refine ⟨h.others, fun r hr hraw => ?_, fun j hj => ?_, fun r j c hr hj hc => ?_,
      fun j c hc hj hkept hopen => ?_, h.paired.keep hgrows rfl⟩
    · obtain ⟨j, c, hj, hc, hkept⟩ := h.started r hr hraw
      have hlt := (List.getElem?_eq_some_iff.1 hc).1
      exact ⟨j, c, hj, (List.getElem?_append_left hlt).trans hc, hkept⟩
    · have hlt := h.valid j hj
      rw [List.length_append]
      exact Nat.lt_add_right _ hlt
    · have hflight : s.inFlight = some j := by
        unfold inFlight
        rw [hr]
        exact hj
      have hlt := h.valid j hflight
      exact h.busy r j c hr hj ((List.getElem?_append_left hlt).symm.trans hc)
    · rcases getElem?_concat_eq_some.1 hc with hold | ⟨-, rfl⟩
      · exact h.clean j c hold hj hkept hopen
      · exact ⟨rfl, rfl, rfl⟩
  unfold ADBRequests.onConnected
  cases dial with
  | caller call => exact hmade.congr rfl rfl (List.append_nil _).symm fun _ he => (by cases he)
  | reconnect => exact hmade.congr rfl rfl (List.append_nil _).symm fun _ he => (by cases he)

/-- The answer of the server is that to the request in flight, where nothing was given up. -/
theorem Synced.answer (h : s.Synced) (hc : s.sockets[i]? = some c) {w : ADBWritten}
    (hw : c.written[c.answers.length]? = some w) {answer : ADBAnswer} (hfits : answer.Fits w.kind)
    (hline : w.kind = .device → answer.OneLine) :
    (s.modifySocket i fun c => { c with
      answers := c.answers ++ [answer]
      pending := c.pending ++ answer.encode w.kind }).Synced := by
  refine ⟨h.others, fun r hr hraw => ?_, fun j hj => ?_, fun r j c' hr hj hc' hkept => ?_,
    fun j c' hc' hj hkept hopen => ?_,
    h.paired.keep (grows_modifySocket fun _ => ⟨List.prefix_rfl, List.prefix_append _ _⟩) rfl⟩
  · obtain ⟨j, c', hj, hc', hkept⟩ := h.started r hr hraw
    refine ⟨j, _, hj, getElem?_modify_of_eq_some hc' _, ?_⟩
    split <;> exact hkept
  · show j < (s.sockets.modify i _).length
    rw [List.length_modify]
    exact h.valid j hj
  · obtain ⟨c₀, hc₀, ⟨rfl, rfl⟩ | ⟨-, rfl⟩⟩ := getElem?_modify_eq_some hc'
    · obtain rfl : c = c₀ := Option.some.inj (hc.symm.trans hc₀)
      have hfull : c.answers.length < c.written.length := (List.getElem?_eq_some_iff.1 hw).1
      cases h.busy r i c hr hj hc hkept with
      | unanswered before hwritten hanswers hpending hbuffer hraw =>
        -- the command that is answered is the last one, and that is of the request
        have hlast : w = ⟨r.call, r.kind⟩ := by
          rw [hwritten, hanswers, List.getElem?_concat_length] at hw
          exact (Option.some.inj hw).symm
        subst hlast
        refine .reading before c.answers answer hwritten rfl hanswers hfits hline hraw ?_
        show c.responseBuffer ++ (c.pending ++ _) = _
        rw [hbuffer, hpending]
        rfl
      | reading before answers answer' hwritten hanswers hlength =>
        rw [hwritten, hanswers, List.length_append, List.length_append, hlength] at hfull
        exact absurd hfull (Nat.lt_irrefl _)
      | streaming before answers data hwritten hanswers hlength =>
        rw [hwritten, hanswers, List.length_append, List.length_append, hlength] at hfull
        exact absurd hfull (Nat.lt_irrefl _)
    · exact h.busy r j c' hr hj hc₀ hkept
  · obtain ⟨c₀, hc₀, ⟨rfl, rfl⟩ | ⟨-, rfl⟩⟩ := getElem?_modify_eq_some hc'
    · obtain rfl : c = c₀ := Option.some.inj (hc.symm.trans hc₀)
      have hfull : c.answers.length < c.written.length := (List.getElem?_eq_some_iff.1 hw).1
      -- on a clean connection no command is unanswered
      rw [(h.clean i c hc hj hkept hopen).answers] at hfull
      exact absurd hfull (Nat.lt_irrefl _)
    · exact h.clean j c' hc₀ hj hkept hopen

/-- Every step that meets the condition keeps the invariant. -/
theorem Synced.step (h : s.Synced) {event : Event} (hnext : s.next event = some s')
    (hundisturbed : s.Undisturbed event) : s'.Synced := by
  cases event with
  | send command host =>
    obtain rfl := Option.some.inj hnext
    unfold sendADBCommand
    dsimp only
    split_ifs <;> exact h.of_eq rfl rfl rfl
  | check j =>
    obtain ⟨caller, -, rfl⟩ := Option.map_eq_some_iff.1 hnext
    exact h.checkConnection j caller
  | enqueue j =>
    obtain ⟨caller, -, rfl⟩ := Option.map_eq_some_iff.1 hnext
    have hgone : Synced { s with callers := s.callers.eraseIdx j } := h.of_eq rfl rfl rfl
    exact (hgone.push caller.call _).processNextRequest
  | connected k =>
    obtain ⟨dial, -, rfl⟩ := Option.map_eq_some_iff.1 hnext
    exact h.onConnected k dial
  | connectError k =>
    obtain ⟨dial, -, rfl⟩ := Option.map_eq_some_iff.1 hnext
    exact h.onConnectError k dial
  | redial =>
    unfold next at hnext
    dsimp only at hnext
    split at hnext
    · obtain rfl := Option.some.inj hnext
      exact h.of_eq rfl rfl rfl
    · cases hnext
  | reconnected =>
    obtain ⟨-, hs'⟩ := Option.ite_none_right_eq_some.1 hnext
    obtain rfl := Option.some.inj hs'
    have hdone : Synced { s with reconnecting := none } := h.of_eq rfl rfl rfl
    exact hdone.processNextRequest
  | answer i answer =>
    obtain ⟨c, hc, hs'⟩ := Option.bind_eq_some_iff.1 hnext
    obtain ⟨w, hw, hs'⟩ := Option.bind_eq_some_iff.1 hs'
    obtain ⟨hfits, hs'⟩ := Option.ite_none_right_eq_some.1 hs'
    obtain rfl := Option.some.inj hs'
    exact h.answer hc hw hfits (hundisturbed c hc w hw)
  | data i n =>
    obtain ⟨c, hc, rfl⟩ := Option.map_eq_some_iff.1 hnext
    obtain ⟨hget, hready⟩ := Option.filter_eq_some_iff.1 hc
    simp only [Bool.and_eq_true, Bool.not_eq_true', decide_eq_true_eq] at hready
    obtain ⟨⟨hopen, hpos⟩, hn⟩ := hready
    exact h.onData hget (hundisturbed c hget) hopen hpos hn
  | timeout | writeError =>
    obtain ⟨-, hs'⟩ := Option.ite_none_right_eq_some.1 hnext
    obtain rfl := Option.some.inj hs'
    exact h.giveUp
  | ended i =>
    obtain ⟨c, -, rfl⟩ := Option.map_eq_some_iff.1 hnext
    exact h.touch (i := i) (fun _ hc => by cases hc) rfl rfl rfl
  | error i =>
    obtain ⟨c, -, rfl⟩ := Option.map_eq_some_iff.1 hnext
    exact h.touch (i := i) (fun _ hc => by cases hc) rfl rfl rfl
  | close i =>
    obtain ⟨c, -, rfl⟩ := Option.map_eq_some_iff.1 hnext
    exact h.onClose hundisturbed

/-! ### The pairing -/

theorem synced_of_run {events : List Event}
    (hrun : (system.restrict Undisturbed).Run new events s) : s.Synced :=
  hrun.invariant (I := Synced) synced_new fun _ _ _ h hstep => h.step hstep.1 hstep.2

/-- **The answers are paired with their commands**, in every run whose steps all meet the condition:
each promise that is settled with what the server has said is settled with the answer to its own
command. -/
theorem paired_of_run {events : List Event}
    (hrun : (system.restrict Undisturbed).Run new events s) : s.Paired :=
  (synced_of_run hrun).paired

/-- A command for a device, whose answers come in pieces. -/
theorem paired_of_run_device :
    ∃ s : ADBRequests,
      s.settled = [(⟨0, "shell:getprop ro.build.version.sdk", some "d"⟩, .resolve [51, 48, 10])] ∧
      s.Paired := by
  obtain ⟨s, hrun, hs⟩ := Lts.exists_run_of_play (f := next) (G := Undisturbed) new
    [.send "shell:getprop ro.build.version.sdk" (some "d"), .connected 0, .enqueue 0,
      .answer 0 (.okay []), .data 0 3, .data 0 1, .answer 0 (.okay [51, 48, 10]), .data 0 2,
      .data 0 3, .data 0 2, .close 0]
    (fun s => decide (s.settled =
      [(⟨0, "shell:getprop ro.build.version.sdk", some "d"⟩, .resolve [51, 48, 10])]))
    (by decide +kernel)
  exact ⟨s, of_decide_eq_true hs, paired_of_run hrun⟩

/-- **A request is resolved with the answer to another** that timed out before: the second command
has not been answered at all. -/
theorem not_paired_of_timeout :
    ∃ events s, system.Run new events s ∧
      s.settled = [(⟨0, "host:devices", none⟩, .error), (⟨1, "host:version", none⟩, .resolve [10])] ∧
      s.sockets = [⟨[⟨⟨0, "host:devices", none⟩, .host⟩, ⟨⟨1, "host:version", none⟩, .host⟩],
        [.okay [10]], [], [], false, false, true⟩] ∧ ¬s.Paired := by
  obtain ⟨s, hrun, hs⟩ := Lts.exists_run_of_play (f := next) (G := fun _ _ => True) new
    [.send "host:devices" none, .connected 0, .enqueue 0, .send "host:version" none, .enqueue 0,
      .timeout, .answer 0 (.okay [10]), .data 0 9]
    (fun s => decide (s.settled =
        [(⟨0, "host:devices", none⟩, .error), (⟨1, "host:version", none⟩, .resolve [10])] ∧
      s.sockets = [⟨[⟨⟨0, "host:devices", none⟩, .host⟩, ⟨⟨1, "host:version", none⟩, .host⟩],
        [.okay [10]], [], [], false, false, true⟩])) (by decide +kernel)
  obtain ⟨hsettled, hsockets⟩ := of_decide_eq_true hs
  refine ⟨_, s, hrun.of_restrict, hsettled, hsockets, fun hpaired => ?_⟩
  have hown := hpaired (⟨1, "host:version", none⟩, .resolve [10]) (by rw [hsettled]; decide)
  obtain ⟨kind, -, i, c, n, hc, hw, ha⟩ := hown
  rw [hsockets] at hc
  obtain ⟨rfl, rfl⟩ : i = 0 ∧ _ = c := by
    rcases i with _ | i
    · exact ⟨rfl, Option.some.inj hc⟩
    · cases hc
  -- only the first command has been answered, and that is the other one
  rcases n with _ | n
  · cases hw
  · cases ha

end ADBRequests

end DeviceHub
