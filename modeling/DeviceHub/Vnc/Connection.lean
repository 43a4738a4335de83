import DeviceHub.Bytes.Encoding

/-!
# `plugins/vnc/util/connection.js`

The server side of the RFB protocol: a client sends its version, selects a security type, perhaps
answers a challenge, and then sends messages.  A connection buffers what it has read of the socket
until the part that its state asks for is there.

## Main definitions

* `VncOptions`, `VncState`, `VncConnection` : the options, the states and the fields of a connection.
* `ServerMessage`, `VncEvent`, `VncAction` : what a connection writes, emits and does.
* `VncConnection.needed`, `VncConnection.handle` : how much each state consumes, and what it does
  with it.
* `VncConnection.loop`, `VncConnection.unguardedRead` : the loops of a read.
* `VncConnection.authResolved`, `VncConnection.authRejected` : the end of an authentication.
-/

namespace DeviceHub

namespace vnc

/-- Version 3.3 of the protocol. -/
def V3_003 : Nat := 3003
/-- Version 3.7. -/
def V3_007 : Nat := 3007
/-- Version 3.8. -/
def V3_008 : Nat := 3008
/-- No authentication. -/
def SECURITY_NONE : Nat := 1
/-- Authentication by a challenge. -/
def SECURITY_VNC : Nat := 2
/-- The client is let in. -/
def SECURITYRESULT_OK : Nat := 0
/-- The client is refused. -/
def SECURITYRESULT_FAIL : Nat := 1
/-- The client wants another pixel format. -/
def CLIENT_MESSAGE_SETPIXELFORMAT : Nat := 0
/-- The client tells its encodings. -/
def CLIENT_MESSAGE_SETENCODINGS : Nat := 2
/-- The client asks for a frame. -/
def CLIENT_MESSAGE_FBUPDATEREQUEST : Nat := 3
/-- A key was pressed or released. -/
def CLIENT_MESSAGE_KEYEVENT : Nat := 4
/-- The pointer has moved or a button has changed. -/
def CLIENT_MESSAGE_POINTEREVENT : Nat := 5
/-- The client has cut text. -/
def CLIENT_MESSAGE_CLIENTCUTTEXT : Nat := 6

/-! ### Buffers -/

/-- `chunk[i]` -/
def byteAt (chunk : Bytes) (i : Nat) : Nat := (chunk.getD i 0).toNat

/-- `chunk.readUInt16BE(i)` -/
def readUInt16BE (chunk : Bytes) (i : Nat) : Nat := byteAt chunk i * 256 + byteAt chunk (i + 1)

/-- `chunk.readUInt32BE(i)` -/
def readUInt32BE (chunk : Bytes) (i : Nat) : Nat :=
  readUInt16BE chunk i * 65536 + readUInt16BE chunk (i + 2)

/-- `chunk.readInt32BE(i)` -/
def readInt32BE (chunk : Bytes) (i : Nat) : Int :=
  let n := readUInt32BE chunk i
  if n < 2 ^ 31 then n else n - 2 ^ 32

/-- Two bytes, the high one first. -/
def uInt16BE (n : Nat) : Bytes := [.ofNat (n / 256), .ofNat n]

/-- Four bytes, the high ones first. -/
def uInt32BE (n : Nat) : Bytes := uInt16BE (n / 65536) ++ uInt16BE n

/-- `Buffer.from(text)`, for text in ASCII. -/
def ascii (text : String) : Bytes := text.toList.map fun c => .ofNat c.toNat

end vnc

open vnc

/-- How a pixel is written. -/
structure PixelFormat where
  bitsPerPixel : Nat
  depth : Nat
  bigEndianFlag : Nat
  trueColorFlag : Nat
  redMax : Nat
  greenMax : Nat
  blueMax : Nat
  redShift : Nat
  greenShift : Nat
  blueShift : Nat
  deriving DecidableEq

/-- A method of `options.security`; its `auth` belongs to the plugin. -/
structure SecurityMethod where
  type : Nat
  challenge : Bytes
  deriving DecidableEq

/-- The options of a connection. -/
structure VncOptions where
  security : List SecurityMethod
  width : Nat
  height : Nat
  name : Bytes
  /-- `os.endianness() === 'BE'`. -/
  bigEndian : Bool
  deriving DecidableEq

/-- `_serverSupportedSecurityByType[type]`: the last method of a type counts. -/
def VncOptions.securityByType (options : VncOptions) (type : Nat) : Option SecurityMethod :=
  options.security.reverse.find? fun method => method.type = type

/-- The pixel format of the server. -/
def VncOptions.pixelFormat (options : VncOptions) : PixelFormat where
  bitsPerPixel := 32
  depth := 24
  bigEndianFlag := if options.bigEndian then 1 else 0
  trueColorFlag := 1
  redMax := 255
  greenMax := 255
  blueMax := 255
  redShift := 16
  greenShift := 8
  blueShift := 0

/-- What is written to the socket. -/
inductive ServerMessage
  | serverVersion
  | supportedSecurity (types : List Nat)
  | securityOk
  | securityFail (reason : String)
  | vncAuthChallenge (challenge : Bytes)
  | serverInit (width height : Nat) (format : PixelFormat) (name : Bytes)
  deriving DecidableEq

/-- The bytes of a message. -/
def ServerMessage.encode : ServerMessage → Bytes
  | serverVersion => ascii "RFB 003.008\n"
  | supportedSecurity types => .ofNat types.length :: types.map (fun type => .ofNat type)
  | securityOk => uInt32BE SECURITYRESULT_OK
  | securityFail reason =>
    uInt32BE SECURITYRESULT_FAIL ++ uInt32BE reason.length ++ ascii reason
  | vncAuthChallenge challenge => challenge
  | serverInit width height format name =>
    uInt16BE width ++ uInt16BE height ++
      [.ofNat format.bitsPerPixel, .ofNat format.depth, .ofNat format.bigEndianFlag,
        .ofNat format.trueColorFlag] ++
      uInt16BE format.redMax ++ uInt16BE format.greenMax ++ uInt16BE format.blueMax ++
      [.ofNat format.redShift, .ofNat format.greenShift, .ofNat format.blueShift, 0, 0, 0] ++
      uInt32BE name.length ++ name

/-- What is emitted.  The position of a pointer is two quotients of floating point numbers, which are
given by dividend and divisor. -/
inductive VncEvent
  | authenticated
  | userActivity
  | formatchange (format : PixelFormat)
  | fbupdaterequest (incremental xPosition yPosition width height : Nat)
  | pointer (buttonMask : Nat) (xPosition yPosition : Nat × Nat)
  /-- `Unsupported message type %d`. -/
  | unsupportedMessage (type : Nat)
  | socketError
  | socketEnd
  | socketClose
  deriving DecidableEq

/-- What a connection does, and what it learns. -/
inductive VncAction
  | write (message : ServerMessage)
  | emit (event : VncEvent)
  /-- `this.conn.end()`. -/
  | endSocket
  /-- The call of `security.auth` whose promise is `_blockingOps[op]`. -/
  | auth (op : Nat) (response : Bytes)
  /-- The client has selected a security type that the server offers. -/
  | selected (type : Nat)
  /-- The promise of a call of `security.auth` is resolved. -/
  | resolved (op : Nat)
  deriving DecidableEq

/-- What the connection waits for. -/
inductive VncState
  | needClientVersion
  | needClientSecurity
  | needClientInit
  | needClientVncAuth
  | needClientMessage
  | needClientMessageSetPixelFormat
  | needClientMessageSetEncodings
  | needClientMessageSetEncodingsValue
  | needClientMessageFbUpdateRequest
  | needClientMessageKeyEvent
  | needClientMessagePointerEvent
  | needClientMessageClientCutText
  | needClientMessageClientCutTextValue
  deriving DecidableEq

/-- The fields of a connection, except for `_buffer`. -/
structure VncConnection where
  options : VncOptions
  state : VncState
  clientVersion : Option Nat
  clientSecurity : Option Nat
  clientShare : Nat
  clientPixelFormat : PixelFormat
  clientEncodingCount : Nat
  clientEncodings : List Int
  clientCutTextLength : Nat
  /-- The promises; `none` is one that is pending. -/
  blockingOps : List (Option Bool)
  /-- What the connection has done. -/
  log : List VncAction
  deriving DecidableEq

namespace VncConnection

/-- What the constructor makes of the options; the first `_read()` is not part of it. -/
def new (options : VncOptions) : VncConnection where
  options := options
  state := .needClientVersion
  clientVersion := none
  clientSecurity := none
  clientShare := 0
  clientPixelFormat := options.pixelFormat
  clientEncodingCount := 0
  clientEncodings := []
  clientCutTextLength := 0
  blockingOps := []
  log := [.write .serverVersion]

/-- The connection does something that can be seen from outside. -/
def act (c : VncConnection) (action : VncAction) : VncConnection :=
  { c with log := c.log ++ [action] }

/-- A message is written. -/
def write (c : VncConnection) (message : ServerMessage) : VncConnection := c.act (.write message)

/-- An event is emitted. -/
def emit (c : VncConnection) (event : VncEvent) : VncConnection := c.act (.emit event)

/-- `this.end()`. -/
def endSocket (c : VncConnection) : VncConnection := c.act .endSocket

/-- `_changeState` -/
def changeState (c : VncConnection) (state : VncState) : VncConnection := { c with state := state }

/-- `_writeSupportedSecurity` -/
def writeSupportedSecurity (c : VncConnection) : VncConnection :=
  c.write (.supportedSecurity (c.options.security.map (·.type)))

/-- `_writeServerInit` -/
def writeServerInit (c : VncConnection) : VncConnection :=
  c.write (.serverInit c.options.width c.options.height c.options.pixelFormat c.options.name)

/-- `_parseVersion` -/
def parseVersion (chunk : Bytes) : Option Nat :=
  if chunk = ascii "RFB 003.008\n" then some V3_008
  else if chunk = ascii "RFB 003.007\n" then some V3_007
  else if chunk = ascii "RFB 003.003\n" then some V3_003
  else none

/-- `_parseSecurity` -/
def parseSecurity (chunk : Bytes) : Option Nat :=
  if byteAt chunk 0 = SECURITY_NONE ∨ byteAt chunk 0 = SECURITY_VNC then some (byteAt chunk 0)
  else none

/-! ### Reading -/

/-- How much the state consumes. -/
def needed (c : VncConnection) : Nat :=
  match c.state with
  | .needClientVersion => 12
  | .needClientSecurity => 1
  | .needClientVncAuth => 16
  | .needClientInit => 1
  | .needClientMessage => 1
  | .needClientMessageSetPixelFormat => 19
  | .needClientMessageSetEncodings => 3
  | .needClientMessageSetEncodingsValue => 4 * c.clientEncodingCount
  | .needClientMessageFbUpdateRequest => 9
  | .needClientMessageKeyEvent => 7
  | .needClientMessagePointerEvent => 5
  | .needClientMessageClientCutText => 7
  | .needClientMessageClientCutTextValue => c.clientCutTextLength

/-- `_auth(SECURITY_VNC, {response: chunk})` pushes the promise of `security.auth`. -/
def auth (c : VncConnection) (response : Bytes) : VncConnection :=
  { c.act (.auth c.blockingOps.length response) with blockingOps := c.blockingOps ++ [none] }

/-- The version of the client was read; the second value tells whether the read ends. -/
def handleVersion (c : VncConnection) (chunk : Bytes) : VncConnection × Bool :=
  let c := { c with clientVersion := parseVersion chunk }
  match c.clientVersion with
  | none => (c.endSocket, true)
  | some _ => (c.writeSupportedSecurity.changeState .needClientSecurity, false)

/-- The security type was read; the second value tells whether the read ends. -/
def handleSecurity (c : VncConnection) (chunk : Bytes) : VncConnection × Bool :=
  let c := { c with clientSecurity := parseSecurity chunk }
  match c.clientSecurity with
  | none => ((c.write (.securityFail "Unimplemented security type")).endSocket, true)
  | some type =>
    match c.options.securityByType type with
    | none => ((c.write (.securityFail "Unsupported security type")).endSocket, true)
    | some method =>
      let c := c.act (.selected type)
      if type = SECURITY_NONE then
        (((c.changeState .needClientInit).write .securityOk).emit .authenticated, true)
      else
        ((c.write (.vncAuthChallenge method.challenge)).changeState .needClientVncAuth, false)

/-- The type of a message was read; the second value tells whether the read ends. -/
def handleMessage (c : VncConnection) (chunk : Bytes) : VncConnection × Bool :=
  let type := byteAt chunk 0
  if type = CLIENT_MESSAGE_SETPIXELFORMAT then
    (c.changeState .needClientMessageSetPixelFormat, false)
  else if type = CLIENT_MESSAGE_SETENCODINGS then
    (c.changeState .needClientMessageSetEncodings, false)
  else if type = CLIENT_MESSAGE_FBUPDATEREQUEST then
    (c.changeState .needClientMessageFbUpdateRequest, false)
  else if type = CLIENT_MESSAGE_KEYEVENT then
    ((c.emit .userActivity).changeState .needClientMessageKeyEvent, false)
  else if type = CLIENT_MESSAGE_POINTEREVENT then
    ((c.emit .userActivity).changeState .needClientMessagePointerEvent, false)
  else if type = CLIENT_MESSAGE_CLIENTCUTTEXT then
    ((c.emit .userActivity).changeState .needClientMessageClientCutText, false)
  else ((c.emit (.unsupportedMessage type)).endSocket, true)

/-- What the state does with what it has consumed, and whether the read returns then. -/
def handle (c : VncConnection) (chunk : Bytes) : VncConnection × Bool :=
  match c.state with
  | .needClientVersion => c.handleVersion chunk
  | .needClientSecurity => c.handleSecurity chunk
  | .needClientVncAuth => (c.auth chunk, true)
  | .needClientInit =>
    (({ c with clientShare := byteAt chunk 0 }.writeServerInit).changeState .needClientMessage, false)
  | .needClientMessage => c.handleMessage chunk
  | .needClientMessageSetPixelFormat =>
    let format : PixelFormat := {
      bitsPerPixel := byteAt chunk 3
      depth := byteAt chunk 4
      bigEndianFlag := byteAt chunk 5
      trueColorFlag := byteAt chunk 6
      redMax := readUInt16BE chunk 7
      greenMax := readUInt16BE chunk 9
      blueMax := readUInt16BE chunk 11
      redShift := byteAt chunk 13
      greenShift := byteAt chunk 14
      blueShift := byteAt chunk 15 }
    (({ c with clientPixelFormat := format }.emit (.formatchange format)).changeState
      .needClientMessage, false)
  | .needClientMessageSetEncodings =>
    ({ c with clientEncodingCount := readUInt16BE chunk 1 }.changeState
      .needClientMessageSetEncodingsValue, false)
  | .needClientMessageSetEncodingsValue =>
    ({ c with
        clientEncodings :=
          (List.range c.clientEncodingCount).map fun i => readInt32BE chunk (4 * i) }.changeState
      .needClientMessage, false)
  | .needClientMessageFbUpdateRequest =>
    ((c.emit (.fbupdaterequest (byteAt chunk 0) (readUInt16BE chunk 1) (readUInt16BE chunk 3)
      (readUInt16BE chunk 5) (readUInt16BE chunk 7))).changeState .needClientMessage, false)
  | .needClientMessageKeyEvent => (c.changeState .needClientMessage, false)
  | .needClientMessagePointerEvent =>
    ((c.emit (.pointer (byteAt chunk 0) (readUInt16BE chunk 1, c.options.width)
      (readUInt16BE chunk 3, c.options.height))).changeState .needClientMessage, false)
  | .needClientMessageClientCutText =>
    ({ c with clientCutTextLength := readUInt32BE chunk 3 }.changeState
      .needClientMessageClientCutTextValue, false)
  | .needClientMessageClientCutTextValue => (c.changeState .needClientMessage, false)

/-- `_consume(n)` on `_buffer`, of which `[]` is `null`: even 0 bytes are not consumed from `null`. -/
def consume (n : Nat) (buffer : Bytes) : Option (Bytes × Bytes) :=
  if buffer = [] then none
  else if n ≤ buffer.length then some (buffer.take n, buffer.drop n)
  else none

/-- One turn of the inner loop on a connection and its buffer, and whether the read returns;
`none` when the chunk is not there. -/
def turn (x : VncConnection × Bytes) : Option ((VncConnection × Bytes) × Bool) :=
  (consume x.1.needed x.2).map fun chunk =>
    let handled := x.1.handle chunk.1
    ((handled.1, chunk.2), handled.2)

/-- The inner loop.  Every second turn at the latest consumes a byte. -/
def loop : Nat → VncConnection × Bytes → VncConnection × Bytes
  | 0, x => x
  | fuel + 1, x =>
    match turn x with
    | none => x
    | some (y, true) => y
    | some (y, false) => loop fuel y

/-- `_unguardedRead` when `available` can be read from the socket; all of it is read at once, and the
outer loop ends when nothing more can be read. -/
def unguardedRead (available : Bytes) (x : VncConnection × Bytes) : VncConnection × Bytes :=
  if available = [] then x
  else loop (2 * (x.2 ++ available).length + 2) (x.1, x.2 ++ available)

/-! ### Authentication -/

/-- The promise of an authentication is resolved. -/
def authResolved (c : VncConnection) (op : Nat) : VncConnection :=
  let c := { c with blockingOps := c.blockingOps.set op (some true) }.act (.resolved op)
  ((c.changeState .needClientInit).write .securityOk).emit .authenticated

/-- The promise of an authentication is rejected. -/
def authRejected (c : VncConnection) (op : Nat) : VncConnection :=
  let c := { c with blockingOps := c.blockingOps.set op (some false) }
  (c.write (.securityFail "Authentication failure")).endSocket

/-- An authentication is settled. -/
def settle (c : VncConnection) (op : Nat) (ok : Bool) : VncConnection :=
  if ok then c.authResolved op else c.authRejected op

end VncConnection

end DeviceHub
