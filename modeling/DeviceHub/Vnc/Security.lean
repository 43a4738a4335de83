import DeviceHub.Async.Lts
import DeviceHub.Vnc.Connection

/-!
# Security of VNC connections

A connection whose reads and authentications interleave in any way: bytes arrive and make the socket
readable, every `readable` event schedules a read, which waits for the authentications that were
under way, and an authentication is resolved or rejected at any time.

## Main definitions

* `VncSocket`, `VncSocket.events` : a connection with its socket and its scheduled reads.
* `vnc.Serves` : the actions that serve a client.
* `vnc.Admitted` : the client has selected an offered security type, and passed it.
* `vnc.Sent` : the client has sent what an action is about.

## Main results

* `VncConnection.actsOn_handle` : the parser acts on what the client has sent.
* `VncConnection.Secure.handle` : the parser keeps the invariant `Secure`.
* `VncSocket.admitted_of_serves` : no service before authentication.
-/

namespace DeviceHub

namespace vnc

/-- The actions that serve a client. -/
def Serves : VncAction → Prop
  | .write (.serverInit _ _ _ _) => True
  | .emit (.pointer _ _ _) | .emit (.formatchange _) | .emit .userActivity
  | .emit (.fbupdaterequest _ _ _ _ _) => True
  | _ => False

/-- A call of `security.auth` with 16 bytes of the client. -/
def Called (log : List VncAction) (op : Nat) : Prop :=
  ∃ response : Bytes, response.length = 16 ∧ .auth op response ∈ log

/-- The client has selected an offered security type, and the type is `NONE` or a call of
`security.auth` is resolved. -/
def Admitted (options : VncOptions) (log : List VncAction) : Prop :=
  ∃ type, (∃ method ∈ options.security, method.type = type) ∧ .selected type ∈ log ∧
    (type = SECURITY_NONE ∨ ∃ op, Called log op ∧ .resolved op ∈ log)

/-- The client has selected `SECURITY_VNC`, and the server offers it. -/
def Challenged (options : VncOptions) (log : List VncAction) : Prop :=
  (∃ method ∈ options.security, method.type = SECURITY_VNC) ∧ .selected SECURITY_VNC ∈ log

/-- Every action that serves a client is preceded by the admission. -/
def Guarded (options : VncOptions) (log : List VncAction) : Prop :=
  ∀ before action after, log = before ++ action :: after → Serves action → Admitted options before

section Logs

variable {options : VncOptions} {log log' : List VncAction}

theorem Called.mono {op : Nat} (h : Called log op) (hsub : log ⊆ log') : Called log' op := by
  obtain ⟨response, hlength, hmem⟩ := h
  exact ⟨response, hlength, hsub hmem⟩

theorem Admitted.mono (h : Admitted options log) (hsub : log ⊆ log') : Admitted options log' := by
  obtain ⟨type, hoffered, hselected, hpassed⟩ := h
  exact ⟨type, hoffered, hsub hselected, hpassed.imp_right fun ⟨op, hcalled, hresolved⟩ =>
    ⟨op, hcalled.mono hsub, hsub hresolved⟩⟩

theorem Challenged.mono (h : Challenged options log) (hsub : log ⊆ log') :
    Challenged options log' := ⟨h.1, hsub h.2⟩

/-- A log goes on with actions that may serve the client only after the admission. -/
theorem Guarded.append (h : Guarded options log) {out : List VncAction}
    (hout : ∀ action ∈ out, Serves action → Admitted options log) :
    Guarded options (log ++ out) := by
  intro before action after heq hserves
  rcases List.append_eq_append_iff.1 heq with ⟨mid, rfl, hrest⟩ | ⟨mid, rfl, hrest⟩
  · have hmem : action ∈ out := by
      rw [hrest]
      exact List.mem_append_right _ List.mem_cons_self
    exact (hout action hmem hserves).mono (List.subset_append_left _ _)
  · cases mid with
    | nil =>
      rw [List.append_nil] at h hout
      rw [List.nil_append] at hrest
      exact hout action (hrest ▸ List.mem_cons_self) hserves
    | cons first mid =>
      obtain ⟨rfl, rfl⟩ := List.cons.inj hrest
      exact h before action mid rfl hserves

end Logs

end vnc

/-! ### What the client has sent -/

namespace vnc

/-- What the client is said to have sent is part of its bytes. -/
def Sent (bytes : Bytes) : VncAction → Prop
  | .auth _ response => response <:+: bytes
  | .selected type => .ofNat type ∈ bytes
  | _ => True

theorem Sent.mono {bytes bytes' : Bytes} {action : VncAction} (h : Sent bytes action)
    (hsub : bytes <:+: bytes') : Sent bytes' action := by
  cases action with
  | auth op response => exact List.IsInfix.trans h hsub
  | selected type => exact hsub.subset h
  | _ => trivial

end vnc

open vnc

namespace VncConnection

/-- A connection goes on to another one by actions for which the client has sent these bytes. -/
structure ActsOn (bytes : Bytes) (c c' : VncConnection) : Prop where
  options : c'.options = c.options
  log : ∃ out, c'.log = c.log ++ out ∧ ∀ action ∈ out, Sent bytes action

namespace ActsOn

variable {bytes : Bytes} {c c' c'' : VncConnection}

theorem of_log_eq (hoptions : c'.options = c.options) (hlog : c'.log = c.log) :
    ActsOn bytes c c' := ⟨hoptions, [], by simp [hlog], by simp⟩

theorem refl (bytes : Bytes) (c : VncConnection) : ActsOn bytes c c := of_log_eq rfl rfl

theorem trans (h : ActsOn bytes c c') (h' : ActsOn bytes c' c'') : ActsOn bytes c c'' := by
  obtain ⟨out, hlog, hout⟩ := h.log
  obtain ⟨out', hlog', hout'⟩ := h'.log
  refine ⟨h'.options.trans h.options, out ++ out', ?_, fun action hmem => ?_⟩
  · rw [hlog', hlog, List.append_assoc]
  · exact (List.mem_append.1 hmem).elim (hout action) (hout' action)

theorem mono {bytes' : Bytes} (h : ActsOn bytes c c') (hsub : bytes <:+: bytes') :
    ActsOn bytes' c c' := by
  obtain ⟨out, hlog, hout⟩ := h.log
  exact ⟨h.options, out, hlog, fun action hmem => (hout action hmem).mono hsub⟩

theorem act {a : VncAction} (h : ActsOn bytes c c') (ha : Sent bytes a) :
    ActsOn bytes c (c'.act a) :=
  h.trans ⟨rfl, [a], rfl, by simpa using ha⟩

theorem write (h : ActsOn bytes c c') (message : ServerMessage) :
    ActsOn bytes c (c'.write message) := h.act (a := .write message) trivial

theorem emit (h : ActsOn bytes c c') (event : VncEvent) : ActsOn bytes c (c'.emit event) :=
  h.act (a := .emit event) trivial

theorem endSocket (h : ActsOn bytes c c') : ActsOn bytes c c'.endSocket :=
  h.act (a := .endSocket) trivial

theorem changeState (h : ActsOn bytes c c') (state : VncState) :
    ActsOn bytes c (c'.changeState state) := ⟨h.options, h.log⟩

end ActsOn

theorem actsOn_handleSecurity {c : VncConnection} {chunk : Bytes} (hlength : chunk.length = 1) :
    ActsOn chunk c (c.handleSecurity chunk).1 := by
  have hsame : ActsOn chunk c { c with clientSecurity := parseSecurity chunk } := .of_log_eq rfl rfl
  unfold handleSecurity
  dsimp only
  split
  · exact (hsame.write _).endSocket
  rename_i type htype
  split
  · exact (hsame.write _).endSocket
  have hselected : Sent chunk (.selected type) := by
    obtain ⟨byte, rfl⟩ := List.length_eq_one_iff.1 hlength
    unfold parseSecurity at htype
    split at htype
    · obtain rfl := Option.some.inj htype
      simp [Sent, byteAt]
    · cases htype
  split_ifs
  · exact (((hsame.act hselected).changeState _).write .securityOk).emit .authenticated
  · exact ((hsame.act hselected).write (.vncAuthChallenge _)).changeState _

theorem actsOn_handleMessage {c : VncConnection} {chunk : Bytes} :
    ActsOn chunk c (c.handleMessage chunk).1 := by
  have hsame := ActsOn.refl chunk c
  unfold handleMessage
  dsimp only
  split_ifs
  · exact .of_log_eq rfl rfl
  · exact .of_log_eq rfl rfl
  · exact .of_log_eq rfl rfl
  · exact (hsame.emit .userActivity).changeState _
  · exact (hsame.emit .userActivity).changeState _
  · exact (hsame.emit .userActivity).changeState _
  · exact (hsame.emit _).endSocket

/-- **The parser acts on what the client has sent.** -/
theorem actsOn_handle {c : VncConnection} {chunk : Bytes} (hlength : chunk.length = c.needed) :
    ActsOn chunk c (c.handle chunk).1 := by
  have hsame := ActsOn.refl chunk c
  unfold handle
  cases hstate : c.state with
  | needClientVersion =>
    have hversion : ActsOn chunk c { c with clientVersion := parseVersion chunk } :=
      .of_log_eq rfl rfl
    dsimp only [handleVersion]
    split
    · exact hversion.endSocket
    · exact (hversion.write (.supportedSecurity _)).changeState _
  | needClientSecurity => exact actsOn_handleSecurity (by rw [hlength, needed, hstate])
  | needClientVncAuth =>
    have hcall := hsame.act (a := .auth c.blockingOps.length chunk) (List.infix_refl chunk)
    exact ⟨hcall.options, hcall.log⟩
  | needClientMessage => exact actsOn_handleMessage
  | needClientInit =>
    have hshare : ActsOn chunk c { c with clientShare := byteAt chunk 0 } := .of_log_eq rfl rfl
    exact (hshare.write (.serverInit _ _ _ _)).changeState _
  | needClientMessageSetPixelFormat =>
    have hformat : ∀ format, ActsOn chunk c { c with clientPixelFormat := format } :=
      fun format => .of_log_eq rfl rfl
    exact ((hformat _).emit (.formatchange _)).changeState _
  | needClientMessageFbUpdateRequest =>
    exact (hsame.emit (.fbupdaterequest _ _ _ _ _)).changeState _
  | needClientMessagePointerEvent => exact (hsame.emit (.pointer _ _ _)).changeState _
  | _ => exact .of_log_eq rfl rfl

theorem blockingOps_handleMessage (c : VncConnection) (chunk : Bytes) :
    (c.handleMessage chunk).1.blockingOps = c.blockingOps := by
  unfold handleMessage
  dsimp only
  split_ifs <;> rfl

theorem blockingOps_handleSecurity (c : VncConnection) (chunk : Bytes) :
    (c.handleSecurity chunk).1.blockingOps = c.blockingOps := by
  unfold handleSecurity
  dsimp only
  split
  · rfl
  split
  · rfl
  split_ifs <;> rfl

theorem blockingOps_handle (c : VncConnection) (chunk : Bytes) :
    (c.handle chunk).1.blockingOps =
      if c.state = .needClientVncAuth then c.blockingOps ++ [none] else c.blockingOps := by
  unfold handle
  cases c.state with
  | needClientVersion =>
    dsimp only [handleVersion]
    split <;> rfl
  | needClientSecurity => exact blockingOps_handleSecurity c chunk
  | needClientMessage => exact blockingOps_handleMessage c chunk
  | _ => rfl

/-- A connection consumes a part of its buffer, and acts on that. -/
def Reads (x y : VncConnection × Bytes) : Prop :=
  ∃ consumed, x.2 = consumed ++ y.2 ∧ ActsOn consumed x.1 y.1

theorem reads_turn {x : VncConnection × Bytes} {y : (VncConnection × Bytes) × Bool}
    (h : turn x = some y) : Reads x y.1 := by
  obtain ⟨chunk, hchunk, rfl⟩ := Option.map_eq_some_iff.1 h
  unfold consume at hchunk
  split_ifs at hchunk with hnil hle
  obtain rfl := Option.some.inj hchunk
  exact ⟨_, (List.take_append_drop _ _).symm, actsOn_handle (List.length_take_of_le hle)⟩

theorem reads_loop {fuel : Nat} {x : VncConnection × Bytes} : Reads x (loop fuel x) := by
  induction fuel generalizing x with
  | zero => exact ⟨[], rfl, .refl [] _⟩
  | succ fuel ih =>
    rw [loop]
    split
    · exact ⟨[], rfl, .refl [] _⟩
    · rename_i y hturn
      exact reads_turn hturn
    · rename_i y hturn
      obtain ⟨first, hfirst, hact⟩ := reads_turn hturn
      obtain ⟨rest, hrest, hacts⟩ := ih (x := y)
      refine ⟨first ++ rest, ?_, ?_⟩
      · rw [hfirst, List.append_assoc, ← hrest]
      · exact (hact.mono (List.prefix_append _ _).isInfix).trans
          (hacts.mono (List.suffix_append _ _).isInfix)

theorem reads_unguardedRead (available : Bytes) (x : VncConnection × Bytes) :
    Reads (x.1, x.2 ++ available) (unguardedRead available x) := by
  unfold unguardedRead
  split
  · rename_i hnil
    exact ⟨[], by rw [hnil, List.append_nil, List.nil_append], .refl [] _⟩
  · exact reads_loop

theorem actsOn_settle (c : VncConnection) (op : Nat) (ok : Bool) :
    ActsOn [] c (c.settle op ok) := by
  cases ok with
  | true =>
    have hset : ActsOn [] c { c with blockingOps := c.blockingOps.set op (some true) } :=
      .of_log_eq rfl rfl
    have hresolved := hset.act (a := .resolved op) trivial
    exact ((hresolved.changeState _).write .securityOk).emit .authenticated
  | false =>
    have hset : ActsOn [] c { c with blockingOps := c.blockingOps.set op (some false) } :=
      .of_log_eq rfl rfl
    exact (hset.write (.securityFail "Authentication failure")).endSocket

/-! ### The invariant -/

/-- The states after the selection of a security type and its check. -/
def Admitting (state : VncState) : Prop :=
  state ≠ .needClientVersion ∧ state ≠ .needClientSecurity ∧ state ≠ .needClientVncAuth

instance (state : VncState) : Decidable (Admitting state) :=
  inferInstanceAs (Decidable (_ ∧ _ ∧ _))

/-- **The invariant**: the states that serve a client are reached with an admission only. -/
structure Secure (c : VncConnection) : Prop where
  guarded : Guarded c.options c.log
  admitted : Admitting c.state → Admitted c.options c.log
  challenged : c.state = .needClientVncAuth → Challenged c.options c.log
  /-- Every promise comes from a call with the response to a challenge. -/
  called : ∀ op < c.blockingOps.length, Challenged c.options c.log ∧ Called c.log op

/-- Some actions that need no admission leave the rest as it is. -/
theorem Secure.act {c c' : VncConnection} (h : Secure c) (out : List VncAction)
    (hoptions : c'.options = c.options) (hlog : c'.log = c.log ++ out)
    (hops : c'.blockingOps.length = c.blockingOps.length)
    (hout : ∀ action ∈ out, Serves action → Admitted c.options c.log)
    (hadmitted : Admitting c'.state → Admitted c.options (c.log ++ out))
    (hchallenged : c'.state = .needClientVncAuth → Challenged c.options (c.log ++ out)) :
    Secure c' := by
  have hsub : c.log ⊆ c.log ++ out := List.subset_append_left _ _
  refine ⟨?_, ?_, ?_, fun op hop => ?_⟩
  · rw [hoptions, hlog]
    exact h.guarded.append hout
  · rw [hoptions, hlog]
    exact hadmitted
  · rw [hoptions, hlog]
    exact hchallenged
  · rw [hoptions, hlog]
    obtain ⟨hchallenged, hcalled⟩ := h.called op (hops ▸ hop)
    exact ⟨hchallenged.mono hsub, hcalled.mono hsub⟩

theorem secure_new (options : VncOptions) : Secure (new options) where
  guarded before action after heq hserves := by
    cases before with
    | nil =>
      obtain ⟨rfl, -⟩ := List.cons.inj heq
      exact hserves.elim
    | cons first before => simp [new] at heq
  admitted h := absurd rfl h.1
  challenged h := by cases h
  called op hop := absurd hop (Nat.not_lt_zero op)

/-! ### The parser -/

theorem offered_of_securityByType {options : VncOptions} {type : Nat} {method : SecurityMethod}
    (h : options.securityByType type = some method) : ∃ m ∈ options.security, m.type = type :=
  ⟨method, List.mem_reverse.1 (List.mem_of_find?_eq_some h), by simpa using List.find?_some h⟩

theorem eq_vnc_of_parseSecurity {chunk : Bytes} {type : Nat} (h : parseSecurity chunk = some type)
    (hne : type ≠ SECURITY_NONE) : type = SECURITY_VNC := by
  unfold parseSecurity at h
  split at h
  · rename_i hknown
    obtain rfl := Option.some.inj h
    exact hknown.resolve_left hne
  · cases h

/-- The states after the admission stay among themselves. -/
theorem admitting_handle {c : VncConnection} (h : Admitting c.state) (chunk : Bytes) :
    Admitting (c.handle chunk).1.state := by
  have hmessage : Admitting .needClientMessage := by decide
  unfold handle
  split
  · rename_i hstate
    exact absurd hstate h.1
  · rename_i hstate
    exact absurd hstate h.2.1
  · rename_i hstate
    exact absurd hstate h.2.2
  · exact hmessage
  · unfold handleMessage
    dsimp only
    split_ifs
    · exact (by decide : Admitting .needClientMessageSetPixelFormat)
    · exact (by decide : Admitting .needClientMessageSetEncodings)
    · exact (by decide : Admitting .needClientMessageFbUpdateRequest)
    · exact (by decide : Admitting .needClientMessageKeyEvent)
    · exact (by decide : Admitting .needClientMessagePointerEvent)
    · exact (by decide : Admitting .needClientMessageClientCutText)
    · exact h
  · exact hmessage
  · exact (by decide : Admitting .needClientMessageSetEncodingsValue)
  · exact hmessage
  · exact hmessage
  · exact hmessage
  · exact hmessage
  · exact (by decide : Admitting .needClientMessageClientCutTextValue)
  · exact hmessage

namespace Secure

variable {c : VncConnection} {chunk : Bytes}

theorem goesOn (h : Secure c) (hstate : Admitting c.state) (hlength : chunk.length = c.needed) :
    Secure (c.handle chunk).1 := by
  have hacts := actsOn_handle hlength
  obtain ⟨out, hlog, -⟩ := hacts.log
  have hadmit := h.admitted hstate
  have hnext := admitting_handle hstate chunk
  have hops : (c.handle chunk).1.blockingOps = c.blockingOps := by
    rw [blockingOps_handle, if_neg hstate.2.2]
  exact h.act out hacts.options hlog (congrArg List.length hops) (fun _ _ _ => hadmit)
    (fun _ => hadmit.mono (List.subset_append_left _ _)) fun hauth => absurd hauth hnext.2.2

theorem handleVersion (h : Secure c) (hstate : c.state = .needClientVersion) :
    Secure (c.handleVersion chunk).1 := by
  unfold VncConnection.handleVersion
  dsimp only
  split
  · exact h.act [.endSocket] rfl rfl rfl (by simp [Serves])
      (fun hadmitting => absurd hstate hadmitting.1) fun hauth => by
        cases hstate.symm.trans hauth
  · exact h.act [.write (.supportedSecurity (c.options.security.map (·.type)))] rfl rfl rfl
      (by simp [Serves]) (fun hadmitting => absurd rfl hadmitting.2.1) fun hauth => by cases hauth

theorem handleSecurity (h : Secure c) (hstate : c.state = .needClientSecurity) :
    Secure (c.handleSecurity chunk).1 := by
  have hrefused : ∀ reason c', c'.options = c.options → c'.state = c.state →
      c'.blockingOps = c.blockingOps →
      c'.log = c.log ++ [.write (.securityFail reason), .endSocket] → Secure c' := by
    intro reason c' hoptions hsame hops hlog
    refine h.act _ hoptions hlog (congrArg List.length hops) (by simp [Serves])
      (fun hadmitting => absurd (hsame.trans hstate) hadmitting.2.1) fun hauth => ?_
    cases (hsame.trans hstate).symm.trans hauth
  unfold VncConnection.handleSecurity
  dsimp only
  split
  · exact hrefused _ _ rfl rfl rfl (List.append_assoc _ _ _)
  rename_i type htype
  split
  · exact hrefused _ _ rfl rfl rfl (List.append_assoc _ _ _)
  rename_i method hmethod
  have hoffered := offered_of_securityByType hmethod
  split_ifs with hnone
  · refine h.act [.selected type, .write .securityOk, .emit .authenticated] rfl ?_ rfl
      (by simp [Serves]) (fun _ => ⟨type, hoffered, by simp, .inl hnone⟩) fun hauth => by cases hauth
    show c.log ++ [_] ++ [_] ++ [_] = _
    simp
  · obtain rfl := eq_vnc_of_parseSecurity htype hnone
    refine h.act [.selected SECURITY_VNC, .write (.vncAuthChallenge method.challenge)] rfl
      (List.append_assoc _ _ _) rfl (by simp [Serves]) (fun hadmitting => absurd rfl hadmitting.2.2)
      fun _ => ⟨hoffered, by simp⟩

theorem auth (h : Secure c) (hstate : c.state = .needClientVncAuth) (hlength : chunk.length = 16) :
    Secure (c.auth chunk) := by
  have hsub : c.log ⊆ (c.auth chunk).log := List.subset_append_left _ _
  have hchallenged : Challenged c.options (c.auth chunk).log := (h.challenged hstate).mono hsub
  refine ⟨h.guarded.append (by simp [Serves]), fun hadmitting => absurd hstate hadmitting.2.2,
    fun _ => hchallenged, fun op hop => ⟨hchallenged, ?_⟩⟩
  have hops : (c.auth chunk).blockingOps.length = c.blockingOps.length + 1 :=
    List.length_append
  rcases Nat.lt_succ_iff_lt_or_eq.1 (hops ▸ hop) with hold | rfl
  · exact (h.called op hold).2.mono hsub
  · exact ⟨chunk, hlength, List.mem_append_right _ (List.mem_singleton_self _)⟩

/-- **The parser keeps the invariant.** -/
theorem handle (h : Secure c) (hlength : chunk.length = c.needed) : Secure (c.handle chunk).1 := by
  by_cases hadmitting : Admitting c.state
  · exact h.goesOn hadmitting hlength
  unfold VncConnection.handle
  cases hstate : c.state with
  | needClientVersion => exact h.handleVersion hstate
  | needClientSecurity => exact h.handleSecurity hstate
  | needClientVncAuth =>
    refine h.auth hstate ?_
    rw [hlength, needed, hstate]
  | _ => exact absurd (by rw [hstate]; decide) hadmitting

theorem turn {x : VncConnection × Bytes} {y : (VncConnection × Bytes) × Bool} (h : Secure x.1)
    (hturn : VncConnection.turn x = some y) : Secure y.1.1 := by
  obtain ⟨chunk, hchunk, rfl⟩ := Option.map_eq_some_iff.1 hturn
  unfold consume at hchunk
  split_ifs at hchunk with hnil hle
  obtain rfl := Option.some.inj hchunk
  exact h.handle (List.length_take_of_le hle)

theorem loop {fuel : Nat} {x : VncConnection × Bytes} (h : Secure x.1) :
    Secure (VncConnection.loop fuel x).1 := by
  induction fuel generalizing x with
  | zero => exact h
  | succ fuel ih =>
    rw [VncConnection.loop]
    split
    · exact h
    · rename_i y hturn
      exact h.turn hturn
    · rename_i y hturn
      exact ih (h.turn hturn)

theorem unguardedRead {x : VncConnection × Bytes} (h : Secure x.1) (available : Bytes) :
    Secure (VncConnection.unguardedRead available x).1 := by
  unfold VncConnection.unguardedRead
  split
  · exact h
  · exact loop (x := (x.1, x.2 ++ available)) h

/-- The end of an authentication that was called. -/
theorem settle (h : Secure c) {op : Nat} (hop : op < c.blockingOps.length) (ok : Bool) :
    Secure (c.settle op ok) := by
  obtain ⟨hchallenged, hcalled⟩ := h.called op hop
  cases ok with
  | true =>
    refine h.act [.resolved op, .write .securityOk, .emit .authenticated] rfl ?_
      List.length_set (by simp [Serves]) (fun _ => ?_) fun hauth => by cases hauth
    · show c.log ++ [_] ++ [_] ++ [_] = _
      simp
    · exact ⟨SECURITY_VNC, hchallenged.1, List.mem_append_left _ hchallenged.2,
        .inr ⟨op, hcalled.mono (List.subset_append_left _ _), by simp⟩⟩
  | false =>
    have hsub := List.subset_append_left c.log
      [.write (.securityFail "Authentication failure"), .endSocket]
    exact h.act [.write (.securityFail "Authentication failure"), .endSocket] rfl
      (List.append_assoc _ _ _) List.length_set (by simp [Serves])
      (fun hadmitting => (h.admitted hadmitting).mono hsub) fun hauth => (h.challenged hauth).mono hsub

end Secure

end VncConnection

/-! ### Sockets -/

/-- A connection with its socket. -/
structure VncSocket where
  connection : VncConnection
  /-- `_buffer` of the connection. -/
  buffer : Bytes
  /-- What has arrived and has not been read of the socket. -/
  unread : Bytes
  /-- The reads that are scheduled, each with the number of promises in `_blockingOps` at its
  `_read()`; they all have to be settled first. -/
  reads : List Nat
  /-- All that the client has sent. -/
  received : Bytes
  deriving DecidableEq

/-- What can happen to the socket. -/
inductive VncSocketEvent
  | data (bytes : Bytes)
  | readable
  /-- The read at the index. -/
  | read (i : Nat)
  | settle (op : Nat) (ok : Bool)
  | error
  | end
  | close
  deriving DecidableEq

namespace VncSocket

/-- The constructor ends with `this._read()`. -/
def new (options : VncOptions) : VncSocket where
  connection := .new options
  buffer := []
  unread := []
  reads := [0]
  received := []

/-- `_read()`. -/
def schedule (s : VncSocket) : VncSocket :=
  { s with reads := s.reads ++ [s.connection.blockingOps.length] }

/-- What is left of the socket after the read. -/
def unguardedRead (s : VncSocket) : VncSocket :=
  let x := VncConnection.unguardedRead s.unread (s.connection, s.buffer)
  { s with connection := x.1, buffer := x.2, unread := [] }

/-- What an event does. -/
def next (s : VncSocket) : VncSocketEvent → Option VncSocket
  | .data bytes => some { s with unread := s.unread ++ bytes, received := s.received ++ bytes }
  | .readable => some s.schedule
  | .read i =>
    match s.reads[i]? with
    | none => none
    | some ops =>
      if none ∈ s.connection.blockingOps.take ops then none
      else some { s with reads := s.reads.eraseIdx i }.unguardedRead
  | .settle op ok =>
    if s.connection.blockingOps[op]? = some none then
      let s := { s with connection := s.connection.settle op ok }
      some (if ok then s.schedule else s)
    else none
  | .error => some { s with connection := (s.connection.emit .socketError).endSocket }
  | .end => some { s with connection := s.connection.emit .socketEnd }
  | .close => some { s with connection := s.connection.emit .socketClose }

/-- The runs of a connection. -/
def events : Lts VncSocket VncSocketEvent := .ofNext next

/-- **The invariant**: the connection is secure, and what it has acted on is what it has consumed of
the bytes of the client. -/
structure Sound (options : VncOptions) (s : VncSocket) : Prop where
  options : s.connection.options = options
  secure : VncConnection.Secure s.connection
  consumed : ∃ consumed, s.received = consumed ++ s.buffer ++ s.unread ∧
    ∀ action ∈ s.connection.log, Sent consumed action

theorem sound_new (options : VncOptions) : Sound options (new options) where
  options := rfl
  secure := VncConnection.secure_new options
  consumed := ⟨[], rfl, by simp [new, VncConnection.new, Sent]⟩

namespace Sound

variable {options : VncOptions} {s : VncSocket}

theorem of_actsOn (h : Sound options s) {c : VncConnection} (hsecure : VncConnection.Secure c)
    (hact : VncConnection.ActsOn [] s.connection c) :
    Sound options { s with connection := c } := by
  obtain ⟨consumed, hreceived, hlog⟩ := h.consumed
  obtain ⟨out, hout, hsent⟩ := hact.log
  refine ⟨hact.options.trans h.options, hsecure, consumed, hreceived, fun action hmem => ?_⟩
  rcases List.mem_append.1 (hout ▸ hmem) with hold | hnew
  · exact hlog action hold
  · exact (hsent action hnew).mono List.nil_infix

theorem act (h : Sound options s) {a : VncAction} (hserves : ¬ Serves a) (hsent : Sent [] a) :
    Sound options { s with connection := s.connection.act a } := by
  have hsub := List.subset_append_left s.connection.log [a]
  refine h.of_actsOn ?_ ((VncConnection.ActsOn.refl [] s.connection).act hsent)
  exact h.secure.act [a] rfl rfl rfl
    (fun action hmem hserve => absurd (List.mem_singleton.1 hmem ▸ hserve) hserves)
    (fun hadmitting => (h.secure.admitted hadmitting).mono hsub)
    fun hauth => (h.secure.challenged hauth).mono hsub

theorem unguardedRead (h : Sound options s) : Sound options s.unguardedRead := by
  obtain ⟨consumed, hreceived, hlog⟩ := h.consumed
  obtain ⟨chunk, hchunk, hacts⟩ :=
    VncConnection.reads_unguardedRead s.unread (s.connection, s.buffer)
  obtain ⟨out, hout, hsent⟩ := hacts.log
  refine ⟨hacts.options.trans h.options, ?_, consumed ++ chunk, ?_, fun action hmem => ?_⟩
  · exact VncConnection.Secure.unguardedRead (x := (s.connection, s.buffer)) h.secure s.unread
  · calc s.received = consumed ++ (s.buffer ++ s.unread) := by rw [hreceived, List.append_assoc]
      _ = consumed ++ (chunk ++ s.unguardedRead.buffer) := congrArg (consumed ++ ·) hchunk
      _ = consumed ++ chunk ++ s.unguardedRead.buffer ++ [] := by simp
  · rcases List.mem_append.1 (hout ▸ hmem) with hold | hnew
    · exact (hlog action hold).mono (List.prefix_append _ _).isInfix
    · exact (hsent action hnew).mono (List.suffix_append _ _).isInfix

theorem settle (h : Sound options s) {op : Nat} (ok : Bool)
    (hop : s.connection.blockingOps[op]? = some none) :
    Sound options { s with connection := s.connection.settle op ok } :=
  h.of_actsOn (h.secure.settle (List.getElem?_eq_some_iff.1 hop).1 ok)
    (VncConnection.actsOn_settle s.connection op ok)

/-- **Every event keeps the invariant.** -/
theorem next {s' : VncSocket} {event : VncSocketEvent} (h : Sound options s)
    (hnext : s.next event = some s') : Sound options s' := by
  cases event with
  | data bytes =>
    obtain rfl := Option.some.inj hnext
    obtain ⟨consumed, hreceived, hlog⟩ := h.consumed
    exact ⟨h.options, h.secure, consumed, by simp [hreceived], hlog⟩
  | readable =>
    obtain rfl := Option.some.inj hnext
    exact ⟨h.options, h.secure, h.consumed⟩
  | read i =>
    rw [VncSocket.next] at hnext
    split at hnext
    · cases hnext
    split at hnext
    · cases hnext
    · obtain rfl := Option.some.inj hnext
      exact unguardedRead (s := { s with reads := s.reads.eraseIdx i })
        ⟨h.options, h.secure, h.consumed⟩
  | settle op ok =>
    rw [VncSocket.next] at hnext
    split at hnext
    · rename_i hpending
      obtain rfl := Option.some.inj hnext
      have hsettled := h.settle ok hpending
      split
      · exact ⟨hsettled.options, hsettled.secure, hsettled.consumed⟩
      · exact hsettled
    · cases hnext
  | error =>
    obtain rfl := Option.some.inj hnext
    exact (h.act (a := .emit .socketError) id trivial).act (a := .endSocket) id trivial
  | «end» =>
    obtain rfl := Option.some.inj hnext
    exact h.act (a := .emit .socketEnd) id trivial
  | close =>
    obtain rfl := Option.some.inj hnext
    exact h.act (a := .emit .socketClose) id trivial

end Sound

/-- **No service before authentication**: in every run, with any options, every action that serves
the client comes after the client has selected an offered security type that is `NONE`, or that a
call of `security.auth` with 16 bytes of the client has confirmed. -/
theorem admitted_of_serves {options : VncOptions} {ls : List VncSocketEvent} {s : VncSocket}
    (run : events.Run (new options) ls s) :
    Guarded options s.connection.log ∧ ∀ action ∈ s.connection.log, Sent s.received action := by
  have hsound : Sound options s := run.invariant (sound_new options) fun _ _ _ h hst => h.next hst
  obtain ⟨consumed, hreceived, hlog⟩ := hsound.consumed
  refine ⟨hsound.options ▸ hsound.secure.guarded, fun action hmem => (hlog action hmem).mono ?_⟩
  rw [hreceived, List.append_assoc]
  exact (List.prefix_append _ _).isInfix

/-- A client that needs no authentication is served. -/
theorem admitted_of_serves_none :
    ∃ s : VncSocket, .write (.serverInit 720 1280 s.connection.options.pixelFormat []) ∈
        s.connection.log ∧
      Guarded ⟨[⟨SECURITY_NONE, []⟩], 720, 1280, [], false⟩ s.connection.log ∧
      ∀ action ∈ s.connection.log, Sent s.received action := by
  obtain ⟨s, hrun, hs⟩ := Lts.exists_run_of_play (f := next) (G := fun _ _ => True)
    (new ⟨[⟨SECURITY_NONE, []⟩], 720, 1280, [], false⟩)
    [.data (ascii "RFB 003.008\n" ++ [1]), .readable, .read 0, .data [0], .readable, .read 1]
    (fun s => decide (.write (.serverInit 720 1280 s.connection.options.pixelFormat []) ∈
      s.connection.log)) (by decide +kernel)
  exact ⟨s, of_decide_eq_true hs, admitted_of_serves hrun.of_restrict⟩

end VncSocket

end DeviceHub
