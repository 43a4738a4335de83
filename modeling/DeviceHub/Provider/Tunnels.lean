import DeviceHub.Provider.Pairing

/-!
# The commands for devices and their connections

After the command for a transport a connection is a tunnel to the device: the command for the device
has to follow, and nothing after it.  The two are separate requests, and what is first in the queue
is written on the connection there is.

## Main definitions

* `ADBSocket.Tunneled` : on this connection a command for a device follows the one for its
  transport, and is the last.
* `ADBRequests.Uncrossed` : the condition on a step.
* `ADBRequests.Routed` : the invariant: only the first request is for a device, and it is in flight.

## Main results

* `ADBRequests.tunneled_of_run` : the commands go to their devices in the runs whose steps all meet
  the condition.
* `ADBRequests.not_tunneled_of_overlap` : the command of another call comes between.
-/

namespace DeviceHub

namespace ADBSocket

variable {c c' : ADBSocket}

/-- A command for a device is written right after the one for its transport, which has been answered
`OKAY`, and nothing is written after it. -/
def Tunneled (c : ADBSocket) : Prop :=
  ∀ n call, c.written[n]? = some ⟨call, .device⟩ → n + 1 = c.written.length ∧
    ∃ m, n = m + 1 ∧ c.written[m]? = some ⟨call, .transport⟩ ∧ c.answers[m]? = some (.okay [])

theorem Tunneled.ne_device (h : c.Tunneled) (hlast : ∀ call, c.written.getLast? ≠ some ⟨call, .device⟩)
    (n : Nat) (call : ADBCall) : c.written[n]? ≠ some ⟨call, .device⟩ := by
  intro hn
  obtain ⟨hlength, -⟩ := h n call hn
  refine hlast call ?_
  rw [List.getLast?_eq_getElem?, ← hlength]
  exact hn

theorem Tunneled.extend (h : c.Tunneled) (hwritten : c'.written = c.written)
    (hanswers : c.answers <+: c'.answers) : c'.Tunneled := by
  intro n call hn
  rw [hwritten] at hn ⊢
  obtain ⟨hlength, m, hm, htransport, hokay⟩ := h n call hn
  exact ⟨hlength, m, hm, htransport, getElem?_of_prefix hanswers hokay⟩

theorem Tunneled.write (h : c.Tunneled) (hlast : ∀ call, c.written.getLast? ≠ some ⟨call, .device⟩)
    {w : ADBWritten} (hw : w.kind ≠ .device) (hwritten : c'.written = c.written ++ [w]) :
    c'.Tunneled := by
  intro n call hn
  rw [hwritten] at hn
  rcases getElem?_concat_eq_some.1 hn with hold | ⟨-, rfl⟩
  · exact absurd hold (h.ne_device hlast n call)
  · exact absurd rfl hw

/-- **The command for the device**, right after the one for its transport. -/
theorem Tunneled.writeDevice (h : c.Tunneled) {call : ADBCall}
    (hlast : c.written.getLast? = some ⟨call, .transport⟩)
    (hlength : c.answers.length = c.written.length) (hokay : c.answers.getLast? = some (.okay []))
    (hwritten : c'.written = c.written ++ [⟨call, .device⟩]) (hanswers : c'.answers = c.answers) :
    c'.Tunneled := by
  intro n call' hn
  rw [hwritten] at hn ⊢
  rw [hanswers]
  rcases getElem?_concat_eq_some.1 hn with hold | ⟨rfl, heq⟩
  · refine absurd hold (h.ne_device (fun call' => ?_) n call')
    rw [hlast]
    nofun
  · obtain rfl : call = call' := congrArg ADBWritten.call heq
    have hpos : 0 < c.written.length := by
      rw [List.length_pos_iff]
      rintro hnil
      rw [hnil] at hlast
      cases hlast
    refine ⟨by rw [List.length_append]; rfl, c.written.length - 1, by omega, ?_, ?_⟩
    · rw [List.getElem?_append_left (by omega), ← List.getLast?_eq_getElem?, hlast]
    · rw [← hlength, ← List.getLast?_eq_getElem?, hokay]

end ADBSocket

namespace ADBRequests

variable {s s' : ADBRequests} {i : Nat} {c c' : ADBSocket} {request : ADBRequest}

/-- What is read for the first request does not cross the way to a device.  When a transport is
there, no other request waits, its connection is the current one, and the server has answered; and
when a command for a device has failed, its connection is not the current one. -/
def Clear (s : ADBRequests) (i : Nat) (c : ADBSocket) (request : ADBRequest) (buffer : Bytes) : Prop :=
  match request.kind, readResponse request.kind buffer with
  | .transport, .okay _ => s.requestQueue.tail = [] ∧ request.timer = some i ∧ s.alive = some i ∧
      c.answers.length = c.written.length ∧ c.answers.getLast? = some (.okay [])
  | .device, .fail _ _ => s.alive ≠ request.timer
  | _, _ => True

/-- The condition.  Also, a command for a device is not given up while its connection is the current
one; and no connection is closed while it waits for its output. -/
def Uncrossed (s : ADBRequests) : Event → Prop
  | .data i n => ∀ c ∈ s.sockets[i]?, ∀ request ∈ s.requestQueue.head?,
      request.rawStreamBuffer = none → s.Clear i c request (c.responseBuffer ++ c.pending.take n)
  | .timeout | .writeError => ∀ request ∈ s.requestQueue.head?,
      request.kind = .device → s.alive ≠ request.timer
  | .close _ => ∀ request ∈ s.requestQueue.head?,
      request.kind = .device → request.rawStreamBuffer.isSome = true
  | _ => True

instance (s : ADBRequests) (i : Nat) (c : ADBSocket) (request : ADBRequest) (buffer : Bytes) :
    Decidable (s.Clear i c request buffer) := by
  unfold Clear
  split <;> infer_instance

instance (s : ADBRequests) (event : Event) : Decidable (s.Uncrossed event) := by
  unfold Uncrossed
  split <;> infer_instance

/-! ### The invariant -/

/-- A request that has not been written, for the server. -/
structure Waiting (request : ADBRequest) : Prop where
  timer : request.timer = none
  kind : request.kind ≠ .device
  rawStreamBuffer : request.rawStreamBuffer = none

/-- A connection on which a command for a device was written is current only while this is in
flight. -/
structure Routed (s : ADBRequests) : Prop where
  tunneled : ∀ (i : Nat) (c : ADBSocket), s.sockets[i]? = some c → c.Tunneled
  others : ∀ request ∈ s.requestQueue.tail, Waiting request
  device : ∀ request, s.requestQueue.head? = some request → request.kind = .device →
    request.timer.isSome = true
  stream : ∀ request, s.requestQueue.head? = some request →
    request.rawStreamBuffer.isSome = true → request.kind = .device
  last : ∀ request i, s.requestQueue.head? = some request → request.timer = some i →
    ∃ c : ADBSocket, s.sockets[i]? = some c ∧ c.written.getLast? = some ⟨request.call, request.kind⟩
  current : ∀ (i : Nat) (c : ADBSocket) (call : ADBCall), s.alive = some i → s.sockets[i]? = some c →
    c.written.getLast? = some ⟨call, .device⟩ →
    ∃ request, s.requestQueue.head? = some request ∧ request.kind = .device ∧ request.timer = some i

theorem routed_new : new.Routed where
  tunneled _ _ h := by cases h
  others _ h := by cases h
  device _ h := by cases h
  stream _ h := by cases h
  last _ _ h := by cases h
  current _ _ _ h := by cases h

theorem Routed.of_waiting (hqueue : ∀ request ∈ s.requestQueue, Waiting request)
    (htunneled : ∀ (i : Nat) (c : ADBSocket), s.sockets[i]? = some c → c.Tunneled)
    (hcurrent : ∀ (i : Nat) (c : ADBSocket) (call : ADBCall), s.alive = some i →
      s.sockets[i]? = some c → c.written.getLast? ≠ some ⟨call, .device⟩) : s.Routed where
  tunneled := htunneled
  others request h := hqueue request (List.mem_of_mem_tail h)
  device request h hkind := absurd hkind (hqueue request (List.mem_of_mem_head? h)).kind
  stream request h hraw := by
    rw [(hqueue request (List.mem_of_mem_head? h)).rawStreamBuffer] at hraw
    cases hraw
  last request i h htimer := by
    rw [(hqueue request (List.mem_of_mem_head? h)).timer] at htimer
    cases htimer
  current i c call halive hc hlast := absurd hlast (hcurrent i c call halive hc)

/-! ### Steps that write nothing -/

/-- Nothing is written, and no answer is lost. -/
structure Silent (s s' : ADBRequests) : Prop where
  length : s'.sockets.length = s.sockets.length
  socket : ∀ (j : Nat) (c' : ADBSocket), s'.sockets[j]? = some c' →
    ∃ c : ADBSocket, s.sockets[j]? = some c ∧ c'.written = c.written ∧ c.answers <+: c'.answers

theorem Silent.of_eq (h : s'.sockets = s.sockets) : Silent s s' where
  length := congrArg List.length h
  socket _ c' hc' := ⟨c', h ▸ hc', rfl, List.prefix_rfl⟩

theorem Silent.of_modify {f : ADBSocket → ADBSocket} (h : s'.sockets = s.sockets.modify i f)
    (hf : ∀ c, (f c).written = c.written ∧ c.answers <+: (f c).answers) : Silent s s' where
  length := by rw [h, List.length_modify]
  socket j c' hc' := by
    rw [h] at hc'
    obtain ⟨c, hc, ⟨-, rfl⟩ | ⟨-, rfl⟩⟩ := getElem?_modify_eq_some hc'
    · exact ⟨c, hc, hf c⟩
    · exact ⟨c', hc, rfl, List.prefix_rfl⟩

theorem Silent.trans {s'' : ADBRequests} (h : Silent s s') (h' : Silent s' s'') : Silent s s'' where
  length := h'.length.trans h.length
  socket j c'' hc'' := by
    obtain ⟨c', hc', hwritten', hanswers'⟩ := h'.socket j c'' hc''
    obtain ⟨c, hc, hwritten, hanswers⟩ := h.socket j c' hc'
    exact ⟨c, hc, hwritten'.trans hwritten, hanswers.trans hanswers'⟩

theorem Silent.tunneled (hsilent : Silent s s') (h : s.Routed) (j : Nat) (c' : ADBSocket)
    (hc' : s'.sockets[j]? = some c') : c'.Tunneled := by
  obtain ⟨c, hc, hwritten, hanswers⟩ := hsilent.socket j c' hc'
  exact (h.tunneled j c hc).extend hwritten hanswers

theorem alive_ne_of_none {i : Nat} (h : s.connection = none) : s.alive ≠ some i := by
  intro hi
  have hsome := (alive_eq_some hi).1
  rw [h] at hsome
  cases hsome

/-- The queue is as it was, and no other connection is current. -/
theorem Routed.congr (h : s.Routed) (hsilent : Silent s s')
    (hqueue : s'.requestQueue = s.requestQueue)
    (halive : ∀ i, s'.alive = some i → s.alive = some i) : s'.Routed where
  tunneled := hsilent.tunneled h
  others request hr := h.others request (hqueue ▸ hr)
  device request hr := h.device request (hqueue ▸ hr)
  stream request hr := h.stream request (hqueue ▸ hr)
  last request i hr htimer := by
    obtain ⟨c, hc, hlast⟩ := h.last request i (hqueue ▸ hr) htimer
    -- the connection is still there, with what was written on it
    have hlt : i < s'.sockets.length := hsilent.length ▸ (List.getElem?_eq_some_iff.1 hc).1
    have hc' := List.getElem?_eq_getElem hlt
    obtain ⟨c₀, hc₀, hwritten, -⟩ := hsilent.socket i _ hc'
    obtain rfl : c = c₀ := Option.some.inj (hc.symm.trans hc₀)
    exact ⟨_, hc', hwritten ▸ hlast⟩
  current i c' call hi hc' hlast := by
    obtain ⟨c, hc, hwritten, -⟩ := hsilent.socket i c' hc'
    rw [hqueue]
    exact h.current i c call (halive i hi) hc (hwritten ▸ hlast)

theorem Routed.shift (h : s.Routed) (hsilent : Silent s s')
    (hqueue : s'.requestQueue = s.requestQueue.tail)
    (halive : ∀ i, s'.alive = some i → s.alive = some i ∧ ∀ request,
      s.requestQueue.head? = some request → request.kind = .device → request.timer ≠ some i) :
    s'.Routed := by
  refine .of_waiting (fun request hr => h.others request (hqueue ▸ hr)) (hsilent.tunneled h)
    fun i c' call hi hc' hlast => ?_
  obtain ⟨hold, hne⟩ := halive i hi
  obtain ⟨c, hc, hwritten, -⟩ := hsilent.socket i c' hc'
  obtain ⟨request, hhead, hkind, htimer⟩ := h.current i c call hold hc (hwritten ▸ hlast)
  exact hne request hhead hkind htimer

theorem Routed.of_none (h : s.Routed) (hsilent : Silent s s') (halive : s'.alive = none)
    (hqueue : ∀ request ∈ s'.requestQueue, Waiting request) : s'.Routed := by
  refine .of_waiting hqueue (hsilent.tunneled h) fun i c call hi => ?_
  rw [halive] at hi
  cases hi

/-! ### The queue -/

/-- A request that is not for a device. -/
theorem Routed.push (h : s.Routed) (call : ADBCall) {kind : RequestKind} (hkind : kind ≠ .device) :
    (s.push call kind).Routed := by
  have hwaiting : Waiting ⟨call, kind, none, none⟩ := ⟨rfl, hkind, rfl⟩
  rcases hqueue : s.requestQueue with _ | ⟨request, others⟩
  · refine .of_waiting (fun r hr => ?_) h.tunneled fun i c call' hi hc hlast => ?_
    · replace hr : r ∈ s.requestQueue ++ [⟨call, kind, none, none⟩] := hr
      rw [hqueue, List.nil_append] at hr
      rw [List.mem_singleton.1 hr]
      exact hwaiting
    · obtain ⟨r, hr, -⟩ := h.current i c call' hi hc hlast
      rw [hqueue] at hr
      cases hr
  · have hhead := head?_push hqueue call kind
    refine ⟨h.tunneled, fun r hr => ?_, fun r hr => h.device r (hhead ▸ hr),
      fun r hr => h.stream r (hhead ▸ hr), fun r i hr => h.last r i (hhead ▸ hr),
      fun i c call' hi hc hlast => hhead ▸ h.current i c call' hi hc hlast⟩
    rw [requestQueue_push hqueue] at hr
    rcases List.mem_append.1 hr with hr | hr
    · exact h.others r (by rw [hqueue]; exact hr)
    · rw [List.mem_singleton.1 hr]
      exact hwaiting

theorem alive_write (others : List ADBRequest) : (s.write request others i).alive = s.alive :=
  alive_of_modify (f := fun c => { c with written := c.written ++ [⟨request.call, request.kind⟩] })
    (fun _ => rfl) rfl rfl

/-- A request is written on the connection there is. -/
theorem Routed.write (h : s.Routed) {others : List ADBRequest} (halive : s.alive = some i)
    (hc : s.sockets[i]? = some c) (hothers : ∀ r ∈ others, Waiting r)
    (hraw : request.rawStreamBuffer = none)
    (htunneled : ADBSocket.Tunneled
      { c with written := c.written ++ [⟨request.call, request.kind⟩] }) :
    (s.write request others i).Routed := by
  have hhead : (s.write request others i).requestQueue.head? =
      some { request with timer := some i } := rfl
  have hsocket : (s.write request others i).sockets[i]? =
      some { c with written := c.written ++ [⟨request.call, request.kind⟩] } :=
    getElem?_modify_self hc _
  refine ⟨fun j c' hc' => ?_, hothers, fun r hr _ => ?_, fun r hr hstream => ?_, fun r j hr hj => ?_,
    fun j c' call hj hc' hlast => ?_⟩
  · obtain ⟨c₀, hc₀, ⟨rfl, rfl⟩ | ⟨-, rfl⟩⟩ := getElem?_modify_eq_some hc'
    · obtain rfl : c = c₀ := Option.some.inj (hc.symm.trans hc₀)
      exact htunneled
    · exact h.tunneled j c' hc₀
  · obtain rfl := Option.some.inj (hhead.symm.trans hr)
    rfl
  · obtain rfl := Option.some.inj (hhead.symm.trans hr)
    rw [show ({ request with timer := some i } : ADBRequest).rawStreamBuffer = none from hraw]
      at hstream
    cases hstream
  · obtain rfl := Option.some.inj (hhead.symm.trans hr)
    obtain rfl : i = j := Option.some.inj hj
    exact ⟨_, hsocket, List.getLast?_concat⟩
  · rw [alive_write, halive] at hj
    obtain rfl : i = j := Option.some.inj hj
    obtain rfl := Option.some.inj (hsocket.symm.trans hc')
    rw [List.getLast?_concat] at hlast
    have hkind : request.kind = .device := congrArg ADBWritten.kind (Option.some.inj hlast)
    exact ⟨_, hhead, hkind, rfl⟩

/-- **The next request** is written on a connection on which no command for a device was. -/
theorem Routed.processNextRequest (h : s.Routed) : s.processNextRequest.Routed := by
  rcases processNextRequest_cases s with heq | ⟨request, others, i, hqueue, htimer, halive, heq⟩
  · rw [heq]
    exact h
  · rw [heq]
    obtain ⟨-, c, hc, -⟩ := alive_eq_some halive
    have hhead := head?_eq hqueue
    -- a command for a device is in flight as long as it is first
    have hkind : request.kind ≠ .device := by
      intro hkind
      have htimed := h.device request hhead hkind
      rw [htimer] at htimed
      cases htimed
    have hraw : request.rawStreamBuffer = none := by
      by_contra hraw
      exact hkind (h.stream request hhead (Option.isSome_iff_ne_none.2 hraw))
    -- the request for a device would be first, and in flight
    have hlast : ∀ call, c.written.getLast? ≠ some ⟨call, .device⟩ := by
      intro call hlast
      obtain ⟨r, hr, hdevice, -⟩ := h.current i c call halive hc hlast
      obtain rfl := Option.some.inj (hhead.symm.trans hr)
      exact hkind hdevice
    exact h.write halive hc (fun r hr => h.others r (by rw [hqueue]; exact hr)) hraw
      ((h.tunneled i c hc).write hlast hkind rfl)

theorem Routed.enqueue (h : s.Routed) (call : ADBCall) : (s.enqueue call).Routed := by
  unfold ADBRequests.enqueue
  refine (h.push call ?_).processNextRequest
  split <;> nofun

/-! ### The answers -/

theorem closeConnectionAfterTransport_alive : s.closeConnectionAfterTransport.alive = none := by
  rcases closeConnectionAfterTransport_cases s with ⟨heq, hnone⟩ | ⟨i, -, heq⟩
  · rw [heq]
    exact hnone
  · rw [heq]
    rfl

theorem silent_closeConnectionAfterTransport : Silent s s.closeConnectionAfterTransport := by
  rcases closeConnectionAfterTransport_cases s with ⟨heq, -⟩ | ⟨i, -, heq⟩
  · rw [heq]
    exact .of_eq rfl
  · rw [heq]
    exact .of_modify rfl fun _ => ⟨rfl, List.prefix_rfl⟩

theorem requestQueue_closeConnectionAfterTransport :
    s.closeConnectionAfterTransport.requestQueue = s.requestQueue := by
  rcases closeConnectionAfterTransport_cases s with ⟨heq, -⟩ | ⟨i, -, heq⟩ <;> rw [heq]

/-- **The output of a command for a device** closes the connection when a line of it has come. -/
theorem Routed.accumulate (h : s.Routed) {others : List ADBRequest}
    (hqueue : s.requestQueue = request :: others) (hkind : request.kind = .device) (data : Bytes) :
    (s.accumulate request others data).Routed := by
  have hhead := head?_eq hqueue
  have hothers : ∀ r ∈ others, Waiting r := fun r hr => h.others r (by rw [hqueue]; exact hr)
  unfold ADBRequests.accumulate
  split
  · -- a whole line: the promise is settled, and the connection is closed
    have hresolved : s.shift.resolve request data = s.shift.settle request.call (.resolve data) := by
      unfold resolve
      rw [hkind]
    rw [hresolved]
    have hsettled : Silent s (s.shift.settle request.call (.resolve data)) := .of_eq rfl
    refine Routed.processNextRequest (h.of_none
      (hsettled.trans silent_closeConnectionAfterTransport) closeConnectionAfterTransport_alive ?_)
    · rw [requestQueue_closeConnectionAfterTransport]
      exact fun r hr => h.others r hr
  · -- the output goes on, and the command stays in flight
    refine ⟨h.tunneled, hothers, fun r hr _ => ?_, fun r hr _ => ?_, fun r i hr htimer => ?_,
      fun i c call hi hc hlast => ?_⟩
    · obtain rfl := Option.some.inj hr
      exact h.device request hhead hkind
    · obtain rfl := Option.some.inj hr
      exact hkind
    · obtain rfl := Option.some.inj hr
      exact h.last request i hhead htimer
    · obtain ⟨r, hr, hdevice, htimer⟩ := h.current i c call hi hc hlast
      obtain rfl := Option.some.inj (hhead.symm.trans hr)
      exact ⟨_, rfl, hdevice, htimer⟩

/-- **The transport is there**: the command for the device is written on its connection. -/
theorem Routed.transport (h : s.Routed) (hqueue : s.requestQueue = [request])
    (hkind : request.kind = .transport) (htimer : request.timer = some i)
    (halive : s.alive = some i) (hc : s.sockets[i]? = some c)
    (hlength : c.answers.length = c.written.length) (hokay : c.answers.getLast? = some (.okay []))
    (data : Bytes) : (s.shift.resolve request data).Routed := by
  have hempty : s.shift.requestQueue = [] := tail_eq hqueue
  have hshift : s.shift.Routed := by
    refine h.shift (.of_eq rfl) rfl fun j hj => ⟨hj, fun r hr hdevice => ?_⟩
    rw [hqueue] at hr
    obtain rfl := Option.some.inj hr
    rw [hkind] at hdevice
    cases hdevice
  -- the command for the device is the only request, and is written at once
  have hnext : s.shift.resolve request data =
      (s.shift.push request.call .device).write ⟨request.call, .device, none, none⟩ [] i := by
    have hpushed : (s.shift.push request.call .device).requestQueue =
        [⟨request.call, .device, none, none⟩] := by
      show s.shift.requestQueue ++ _ = _
      rw [hempty]
      rfl
    unfold resolve
    rw [hkind]
    dsimp only
    unfold ADBRequests.processNextRequest
    rw [hpushed, show (s.shift.push request.call .device).alive = some i from halive]
    rfl
  obtain ⟨c', hc', hlast⟩ := h.last request i (head?_eq hqueue) htimer
  obtain rfl : c = c' := Option.some.inj (hc.symm.trans hc')
  rw [hkind] at hlast
  rw [hnext]
  -- the request that is pushed does not matter: it is written in its place
  exact hshift.write halive hc (fun r hr => by cases hr) rfl
    ((h.tunneled i c hc).writeDevice hlast hlength hokay rfl rfl)

/-! ### What is read -/

theorem readResponse_cases (kind : RequestKind) (buffer : Bytes) :
    readResponse kind buffer = .more ∨ (∃ message rest, readResponse kind buffer = .fail message rest) ∨
      (kind = .host ∧ ∃ data rest, readResponse kind buffer = .data data rest) ∨
      (kind = .transport ∧ ∃ rest, readResponse kind buffer = .okay rest) ∨
      (kind = .device ∧ ∃ data, readResponse kind buffer = .stream data) := by
  unfold readResponse
  split_ifs
  · exact .inl rfl
  · rcases readFrame buffer with _ | ⟨message, rest⟩
    · exact .inl rfl
    · exact .inr (.inl ⟨message, rest, rfl⟩)
  · cases kind with
    | host =>
      rcases readFrame buffer with _ | ⟨data, rest⟩
      · exact .inl rfl
      · exact .inr (.inr (.inl ⟨rfl, data, rest, rfl⟩))
    | transport => exact .inr (.inr (.inr (.inl ⟨rfl, _, rfl⟩)))
    | device => exact .inr (.inr (.inr (.inr ⟨rfl, _, rfl⟩)))
  · exact .inl rfl

theorem Routed.settle (h : s.Routed) (hhead : s.requestQueue.head? = some request)
    (hfree : request.kind = .device → s.alive ≠ request.timer) (outcome : ADBOutcome) :
    ((s.shift.settle request.call outcome).processNextRequest).Routed := by
  refine Routed.processNextRequest (h.shift (.of_eq rfl) rfl fun i hi => ⟨hi, ?_⟩)
  intro r hr hkind htimer
  obtain rfl := Option.some.inj (hhead.symm.trans hr)
  exact hfree hkind ((show s.alive = some i from hi).trans htimer.symm)

theorem Routed.processAnswer (h : s.Routed) {others : List ADBRequest}
    (hqueue : s.requestQueue = request :: others) (hc : s.sockets[i]? = some c) {buffer : Bytes}
    (hclear : s.Clear i c request buffer) : (s.processAnswer request others buffer).1.Routed := by
  have hhead := head?_eq hqueue
  unfold ADBRequests.processAnswer
  unfold Clear at hclear
  rcases readResponse_cases request.kind buffer with hread | ⟨message, rest, hread⟩ |
    ⟨hkind, data, rest, hread⟩ | ⟨hkind, rest, hread⟩ | ⟨hkind, data, hread⟩
  · rw [hread]
    exact h
  · rw [hread] at hclear ⊢
    refine h.settle hhead (fun hkind => ?_) _
    rw [hkind] at hclear
    exact hclear
  · rw [hread]
    unfold resolve
    dsimp only
    rw [hkind]
    exact h.settle hhead (by rw [hkind]; nofun) _
  · rw [hread, hkind] at hclear
    obtain ⟨htail, htimer, halive, hlength, hokay⟩ := hclear
    rw [hread]
    have hsingle : s.requestQueue = [request] := by
      rw [hqueue, ← tail_eq hqueue, htail]
    exact (h.transport hsingle hkind htimer halive hc hlength hokay []).processNextRequest
  · rw [hread]
    exact h.accumulate hqueue hkind data

/-- **Bytes that come** and do not cross the way. -/
theorem Routed.onData (h : s.Routed) (hc : s.sockets[i]? = some c) {n : Nat}
    (huncrossed : s.Uncrossed (.data i n)) : (s.onData i n c).Routed := by
  have halive : (s.modifySocket i fun c => { c with pending := c.pending.drop n }).alive = s.alive :=
    alive_modifySocket fun _ => rfl
  have hdropped : (s.modifySocket i fun c => { c with pending := c.pending.drop n }).Routed :=
    h.congr (.of_modify rfl fun _ => ⟨rfl, List.prefix_rfl⟩) rfl fun j hj => halive ▸ hj
  have hread : ((s.modifySocket i fun c => { c with pending := c.pending.drop n }).processADBResponses
      (c.responseBuffer ++ c.pending.take n)).1.Routed := by
    rcases hqueue : s.requestQueue with _ | ⟨request, others⟩
    · unfold processADBResponses
      rw [show (s.modifySocket i fun c => { c with pending := c.pending.drop n }).requestQueue = []
        from hqueue]
      exact hdropped
    · have hreceived : (s.modifySocket i fun c =>
          { c with pending := c.pending.drop n }).requestQueue = request :: others := hqueue
      rcases hraw : request.rawStreamBuffer with _ | data
      · rw [processADBResponses_of_none hreceived hraw]
        have hclear := huncrossed c hc request (head?_eq hqueue) hraw
        refine hdropped.processAnswer hreceived (i := i)
          (c := { c with pending := c.pending.drop n }) (getElem?_modify_self hc _) ?_
        unfold Clear at hclear ⊢
        rw [halive]
        exact hclear
      · rw [processADBResponses_of_some hreceived hraw]
        exact hdropped.accumulate hreceived
          (h.stream request (head?_eq hqueue) (by rw [hraw]; rfl)) _
  refine hread.congr (.of_modify rfl fun _ => ⟨rfl, List.prefix_rfl⟩) rfl fun j hj => ?_
  exact (alive_setBuffer i _).symm.trans hj

/-! ### Requests that are given up, and the ends of connections -/

theorem silent_abandon : Silent s s.abandon := by
  rcases hflight : s.inFlight with _ | k
  · rw [abandon_of_none hflight]
    exact .of_eq rfl
  · rw [abandon_of_some hflight]
    exact .of_modify rfl fun _ => ⟨rfl, List.prefix_rfl⟩

theorem alive_abandon : s.abandon.alive = s.alive := by
  rcases hflight : s.inFlight with _ | k
  · rw [abandon_of_none hflight]
  · rw [abandon_of_some hflight]
    exact alive_modifySocket fun _ => rfl

theorem Routed.abandon (h : s.Routed) : s.abandon.Routed :=
  h.congr silent_abandon requestQueue_abandon fun i hi => by rwa [alive_abandon] at hi

theorem Routed.giveUp (h : s.Routed) (hfree : ∀ request ∈ s.requestQueue.head?,
    request.kind = .device → s.alive ≠ request.timer) : s.giveUp.Routed := by
  unfold ADBRequests.giveUp
  split
  · exact h
  · rename_i request others hqueue
    have hhead := head?_eq hqueue
    refine h.abandon.settle (by rw [requestQueue_abandon]; exact hhead) (fun hkind => ?_) _
    rw [alive_abandon]
    exact hfree request hhead hkind

theorem alive_of_destroy {j : Nat} (h : (s.destroy i).alive = some j) : s.alive = some j := by
  obtain ⟨hconnection, c', hc', hopen⟩ := alive_eq_some h
  obtain ⟨c, hc, ⟨-, rfl⟩ | ⟨-, rfl⟩⟩ := getElem?_modify_eq_some hc'
  · cases hopen
  · unfold alive
    rw [show s.connection = some j from hconnection]
    simp [hc, hopen]

theorem Routed.rejectAll (h : s.Routed) (hnone : s.alive = none) : s.rejectAll.Routed :=
  h.of_none (silent_abandon.trans (.of_eq rfl)) (alive_abandon.trans hnone)
    fun r hr => by cases hr

/-- **A connection is closed.**  The request in flight will be written on another, and is not for a
device; a command for a device has its output. -/
theorem Routed.onClose (h : s.Routed) (huncrossed : s.Uncrossed (.close i)) :
    (s.onClose i).Routed := by
  have hclosed : Silent s { s with
      connection := none, sockets := s.sockets.modify i fun c => { c with closed := true } } :=
    .of_modify rfl fun _ => ⟨rfl, List.prefix_rfl⟩
  unfold ADBRequests.onClose
  dsimp only
  split
  · rename_i hqueue
    exact h.of_none (hclosed.trans (.of_eq rfl)) rfl fun r hr => by
      replace hr : r ∈ s.requestQueue := hr
      rw [show s.requestQueue = [] from hqueue] at hr
      cases hr
  · rename_i request others hqueue
    replace hqueue : s.requestQueue = request :: others := hqueue
    have hhead := head?_eq hqueue
    have hothers : ∀ r ∈ others, Waiting r := fun r hr => h.others r (by rw [hqueue]; exact hr)
    split
    · rename_i data hraw
      -- the output of a command for a device ends with its connection
      have hkind : request.kind = .device := h.stream request hhead (by rw [hraw]; rfl)
      unfold resolve
      rw [hkind]
      refine Routed.processNextRequest (h.of_none (hclosed.trans (.of_eq rfl)) rfl ?_)
      exact h.others
    · rename_i hraw
      -- a command for a device has begun to be answered, by the condition
      have hkind : request.kind ≠ .device := by
        intro hkind
        have hstarted := huncrossed request hhead hkind
        rw [hraw] at hstarted
        cases hstarted
      refine h.of_none (hclosed.trans (silent_abandon.trans (.of_eq rfl)))
        (alive_abandon (s := { s with
          connection := none, sockets := s.sockets.modify i fun c => { c with closed := true } }))
        fun r hr => ?_
      rcases List.mem_cons.1 hr with rfl | hr
      · exact ⟨rfl, hkind, hraw⟩
      · exact hothers r hr

/-- An attempt that fails leaves no connection. -/
theorem Routed.onConnectError (h : s.Routed) (k : Nat) (dial : ADBDial) :
    (s.onConnectError k dial).Routed := by
  have hfailed : ∀ {s' : ADBRequests}, s'.sockets = s.sockets → s'.requestQueue = s.requestQueue →
      s'.connection = none → s'.Routed := fun hsockets hqueue hconnection =>
    h.congr (.of_eq hsockets) hqueue fun _ hi => absurd hi (alive_ne_of_none hconnection)
  unfold ADBRequests.onConnectError
  dsimp only
  split
  · exact hfailed rfl rfl rfl
  · split
    · split
      · exact hfailed rfl rfl rfl
      · have hover : Routed { s with
            connection := none, isConnecting := false, dials := s.dials.eraseIdx k
            reconnecting := none } := hfailed rfl rfl rfl
        exact hover.rejectAll rfl
    · exact hfailed rfl rfl rfl

/-- A new connection, on which nothing was written. -/
theorem Routed.onConnected (h : s.Routed) (k : Nat) (dial : ADBDial) :
    (s.onConnected k dial).Routed := by
  have hmade : Routed { s with
      connection := some s.sockets.length
      sockets := s.sockets ++ [⟨[], [], [], [], false, false, false⟩]
      isConnecting := false
      dials := s.dials.eraseIdx k } := by
    refine ⟨fun j c hc => ?_, h.others, h.device, h.stream, fun r j hr htimer => ?_,
      fun j c call hj hc hlast => ?_⟩
    · rcases getElem?_concat_eq_some.1 hc with hold | ⟨-, rfl⟩
      · exact h.tunneled j c hold
      · intro n call hn
        cases hn
    · obtain ⟨c, hc, hlast⟩ := h.last r j hr htimer
      exact ⟨c, (List.getElem?_append_left (List.getElem?_eq_some_iff.1 hc).1).trans hc, hlast⟩
    · obtain rfl : s.sockets.length = j := Option.some.inj (alive_eq_some hj).1
      rw [List.getElem?_concat_length] at hc
      obtain rfl := Option.some.inj hc
      cases hlast
  unfold ADBRequests.onConnected
  cases dial with
  | caller call => exact hmade.congr (.of_eq rfl) rfl fun _ => id
  | reconnect => exact hmade.congr (.of_eq rfl) rfl fun _ => id

/-! ### The steps -/

/-- Every step that meets the condition keeps the invariant. -/
theorem Routed.step (h : s.Routed) {event : Event} (hnext : s.next event = some s')
    (huncrossed : s.Uncrossed event) : s'.Routed := by
  have hsame : ∀ {s' : ADBRequests}, s'.sockets = s.sockets → s'.requestQueue = s.requestQueue →
      (∀ i, s'.alive = some i → s.alive = some i) → s'.Routed :=
    fun hsockets hqueue halive => h.congr (.of_eq hsockets) hqueue halive
  cases event with
  | send command host =>
    obtain rfl := Option.some.inj hnext
    unfold sendADBCommand
    dsimp only
    split_ifs <;> exact hsame rfl rfl fun _ => id
  | check j =>
    obtain ⟨caller, -, rfl⟩ := Option.map_eq_some_iff.1 hnext
    unfold checkConnection
    split_ifs <;> exact hsame rfl rfl fun _ => id
  | enqueue j =>
    obtain ⟨caller, -, rfl⟩ := Option.map_eq_some_iff.1 hnext
    have hgone : Routed { s with callers := s.callers.eraseIdx j } := hsame rfl rfl fun _ => id
    exact hgone.enqueue caller.call
  | connected k =>
    obtain ⟨dial, -, rfl⟩ := Option.map_eq_some_iff.1 hnext
    exact h.onConnected k dial
  | connectError k =>
    obtain ⟨dial, -, rfl⟩ := Option.map_eq_some_iff.1 hnext
    exact h.onConnectError k dial
  | redial =>
    unfold next at hnext
    dsimp only at hnext
    split at hnext
    · obtain rfl := Option.some.inj hnext
      exact hsame rfl rfl fun _ => id
    · cases hnext
  | reconnected =>
    obtain ⟨-, hs'⟩ := Option.ite_none_right_eq_some.1 hnext
    obtain rfl := Option.some.inj hs'
    have hdone : Routed { s with reconnecting := none } := hsame rfl rfl fun _ => id
    exact hdone.processNextRequest
  | answer i answer =>
    obtain ⟨c, hc, hs'⟩ := Option.bind_eq_some_iff.1 hnext
    obtain ⟨w, hw, hs'⟩ := Option.bind_eq_some_iff.1 hs'
    obtain ⟨-, hs'⟩ := Option.ite_none_right_eq_some.1 hs'
    obtain rfl := Option.some.inj hs'
    refine h.congr (.of_modify rfl fun _ => ⟨rfl, List.prefix_append _ _⟩) rfl fun j hj => ?_
    exact (alive_modifySocket (f := fun c => { c with
      answers := c.answers ++ [answer]
      pending := c.pending ++ answer.encode w.kind }) fun _ => rfl).symm.trans hj
  | data i n =>
    obtain ⟨c, hc, rfl⟩ := Option.map_eq_some_iff.1 hnext
    exact h.onData (Option.filter_eq_some_iff.1 hc).1 huncrossed
  | timeout | writeError =>
    obtain ⟨-, hs'⟩ := Option.ite_none_right_eq_some.1 hnext
    obtain rfl := Option.some.inj hs'
    exact h.giveUp huncrossed
  | ended i =>
    obtain ⟨c, -, rfl⟩ := Option.map_eq_some_iff.1 hnext
    exact h.congr (.of_modify rfl fun _ => ⟨rfl, List.prefix_rfl⟩) rfl fun _ => alive_of_destroy
  | error i =>
    obtain ⟨c, -, rfl⟩ := Option.map_eq_some_iff.1 hnext
    exact h.congr (.of_modify rfl fun _ => ⟨rfl, List.prefix_rfl⟩) rfl fun _ hi =>
      absurd hi (alive_ne_of_none rfl)
  | close i =>
    obtain ⟨c, -, rfl⟩ := Option.map_eq_some_iff.1 hnext
    exact h.onClose huncrossed

/-- **The commands go to their devices**, in every run whose steps all meet the condition: on every
connection a command for a device follows the one for its transport, which was answered, and nothing
is written after it. -/
theorem tunneled_of_run {events : List Event}
    (hrun : (system.restrict Uncrossed).Run new events s) (i : Nat) (c : ADBSocket)
    (hc : s.sockets[i]? = some c) : c.Tunneled :=
  (hrun.invariant (I := Routed) routed_new fun _ _ _ h hstep =>
    h.step hstep.1 hstep.2).tunneled i c hc

/-- A call for the server waits for the end of one for a device, and is written on a new
connection. -/
theorem tunneled_of_run_device :
    ∃ s : ADBRequests, ∃ c : ADBSocket, s.sockets[0]? = some c ∧
      c.written = [⟨⟨0, "shell:getprop ro.build.version.sdk", some "d"⟩, .transport⟩,
        ⟨⟨0, "shell:getprop ro.build.version.sdk", some "d"⟩, .device⟩] ∧
      s.sockets[1]?.map ADBSocket.written = some [⟨⟨1, "host:devices", none⟩, .host⟩] ∧
      c.Tunneled := by
  obtain ⟨s, hrun, hs⟩ := Lts.exists_run_of_play (f := next) (G := Uncrossed) new
    [.send "shell:getprop ro.build.version.sdk" (some "d"), .connected 0, .enqueue 0,
      .answer 0 (.okay []), .data 0 4, .send "host:devices" none, .enqueue 0,
      .answer 0 (.okay [51, 48, 10]), .data 0 7, .close 0, .redial, .connected 0, .reconnected]
    (fun s => decide (s.sockets[0]?.map ADBSocket.written =
        some [⟨⟨0, "shell:getprop ro.build.version.sdk", some "d"⟩, .transport⟩,
          ⟨⟨0, "shell:getprop ro.build.version.sdk", some "d"⟩, .device⟩] ∧
      s.sockets[1]?.map ADBSocket.written = some [⟨⟨1, "host:devices", none⟩, .host⟩]))
    (by decide +kernel)
  obtain ⟨hfirst, hsecond⟩ := of_decide_eq_true hs
  obtain ⟨c, hc, hwritten⟩ := Option.map_eq_some_iff.1 hfirst
  exact ⟨s, c, hc, hwritten, hsecond, tunneled_of_run hrun 0 c hc⟩

/-- **The command of another call comes between** the one for the transport and that for the device:
it waits when the transport is there, and is written on the tunnel. -/
theorem not_tunneled_of_overlap :
    ∃ events s c, system.Run new events s ∧ s.sockets[0]? = some c ∧
      c.written = [⟨⟨0, "shell:getprop ro.build.version.sdk", some "d"⟩, .transport⟩,
        ⟨⟨1, "host:devices", none⟩, .host⟩,
        ⟨⟨0, "shell:getprop ro.build.version.sdk", some "d"⟩, .device⟩] ∧ ¬c.Tunneled := by
  obtain ⟨s, hrun, hs⟩ := Lts.exists_run_of_play (f := next) (G := fun _ _ => True) new
    [.send "shell:getprop ro.build.version.sdk" (some "d"), .connected 0, .enqueue 0,
      .send "host:devices" none, .enqueue 0, .answer 0 (.okay []), .data 0 4, .timeout]
    (fun s => decide (s.sockets[0]?.map ADBSocket.written =
      some [⟨⟨0, "shell:getprop ro.build.version.sdk", some "d"⟩, .transport⟩,
        ⟨⟨1, "host:devices", none⟩, .host⟩,
        ⟨⟨0, "shell:getprop ro.build.version.sdk", some "d"⟩, .device⟩])) (by decide +kernel)
  obtain ⟨c, hc, hwritten⟩ := Option.map_eq_some_iff.1 (of_decide_eq_true hs)
  refine ⟨_, s, c, hrun.of_restrict, hc, hwritten, fun htunneled => ?_⟩
  obtain ⟨-, m, hm, htransport, -⟩ := htunneled 2 ⟨0, "shell:getprop ro.build.version.sdk", some "d"⟩
    (by rw [hwritten]; rfl)
  obtain rfl : m = 1 := by omega
  rw [hwritten] at htransport
  cases htransport

end ADBRequests

end DeviceHub
