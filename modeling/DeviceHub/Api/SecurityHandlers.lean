import DeviceHub.Db.AccessTokens
import DeviceHub.Db.Sample

/-!
# `units/api/helpers/securityHandlers.js`

Who makes a request to the API.  The headers choose one of four branches.  The branch of the header
`authorization` checks the token, loads the user or creates it, and checks the privilege.  The
branch of the header `internal` does not wait for the user it loads, and the branch of the headers
`channel` and `device` checks nothing but that the device has an owner.

## Main definitions

* `Jws`, `jwtutil.decode`, `jwtutil.encode` : the library for signed tokens, and `util/jwtutil.js`.
* `securityHandlers.accessTokenAuth` : the handler.
* `securityHandlers.Authenticated` : what a success must mean.
* `securityHandlers.Guarded` : the requests that only succeed if it means that.

## Main results

* `securityHandlers.authenticated_of_bearer` : the branch of the header `authorization` is sound.
* `securityHandlers.sound_iff` : the handler is sound exactly for the guarded requests.
* `securityHandlers.not_sound_of_device` : a request without a token succeeds.
-/

namespace DeviceHub

open Prog AccountModel

/-- The header of a token; `exp` is the time at which it expires. -/
structure JwtHeader where
  alg : String
  exp : Option Int
  deriving DecidableEq, Repr

/-- `exp && exp <= Date.now()` -/
def JwtHeader.expired (now : Int) (header : JwtHeader) : Bool :=
  header.exp.any fun exp => exp ≠ 0 && exp ≤ now

/-- The payload of a token, with the properties that are read. -/
structure JwtPayload where
  email : Option String
  name : String
  privilege : Option Privilege
  deriving DecidableEq, Repr

/-- The package `jws`. -/
structure Jws where
  /-- `jws.verify(token, 'HS256', secret)`; it throws when the token is malformed. -/
  verify : String → String → Except Unit Bool
  /-- `jws.decode(token, {json: true})` -/
  decode : String → Option (JwtHeader × Option JwtPayload)
  /-- `jws.sign({header, payload, secret})` -/
  sign : JwtHeader → JwtPayload → String → String

/-- What `accessTokenAuth` throws. -/
inductive AuthError where
  /-- `throw {status, message}` -/
  | http (status : Nat) (message : String)
  /-- `throw new Error('Secret is not set')` -/
  | secretNotSet
  /-- An assertion of `jwtutil.encode`. -/
  | assertion
  /-- An exception of the package `jws`. -/
  | jws
  | js (e : JsError)
  deriving DecidableEq, Repr

namespace jwtutil

/-- `jwtutil.encode`: a token that is valid for a month. -/
def encode (jws : Jws) (now : Int) (payload : JwtPayload) (secret : String) :
    Except AuthError String :=
  if secret = "" then .error .assertion
  else .ok (jws.sign ⟨"HS256", some (now + apiutil.ONE_MONTH)⟩ payload secret)

/-- `jwtutil.decode`: the payload, unless there is none or the token has expired. -/
def decode (jws : Jws) (now : Int) (payload secret : String) :
    Except AuthError (Option JwtPayload) :=
  if payload = "" then .ok none
  else if secret = "" then .error .secretNotSet
  else match jws.verify payload secret with
  | .error _ => .error .jws
  | .ok false => .ok none
  | .ok true =>
    match jws.decode payload with
    | none => .error (.js .typeError)
    | some (header, data) =>
      if header.expired now then .ok none else .ok data

/-- The token is one that was signed with the secret, and has not expired; `data` is its payload. -/
structure Valid (jws : Jws) (now : Int) (token secret : String) (data : JwtPayload) : Prop where
  token_ne : token ≠ ""
  secret_ne : secret ≠ ""
  verified : jws.verify token secret = .ok true
  decoded : ∃ header, jws.decode token = some (header, some data) ∧ header.expired now = false

/-- `decode` gives the payloads of the valid tokens. -/
theorem decode_eq_some_iff {jws : Jws} {now : Int} {token secret : String} {data : JwtPayload} :
    decode jws now token secret = .ok (some data) ↔ Valid jws now token secret data := by
  unfold decode
  constructor
  · intro h
    split at h
    · cases h
    rename_i htoken
    split at h
    · cases h
    rename_i hsecret
    split at h
    · cases h
    · cases h
    rename_i hverified
    split at h
    · cases h
    rename_i header payload hdecoded
    split at h
    · cases h
    rename_i hexp
    obtain rfl := Except.ok.inj h
    exact ⟨htoken, hsecret, hverified, header, hdecoded, by simpa using hexp⟩
  · rintro ⟨htoken, hsecret, hverified, header, hdecoded, hexp⟩
    simp [htoken, hsecret, hverified, hdecoded, hexp]

end jwtutil

namespace securityHandlers

/-- The tags of `req.operationDoc`. -/
structure OperationDoc where
  tags : Option (List String)

/-- A request: the operation, and the headers that are read. -/
structure Request where
  operationDoc : Option OperationDoc
  authorization : Option String
  internal : Option String
  channel : Option String
  device : Option String

/-- What the handler works with: the package, the secret of the server, the clock when it decodes a
token and when it decodes a stored one, and the fields of the root group for new users. -/
structure Server where
  jws : Jws
  secret : String
  now : Int
  later : Int
  env : UserModel.EnvQuotas

/-- A value that is used as a user: a document, or the promise of one. -/
inductive UserValue where
  | document (user : User)
  | promise (email : Option String)
  deriving DecidableEq

/-- `user.privilege`; a promise has no such property. -/
def UserValue.privilege : UserValue → Option Privilege
  | .document user => some user.privilege
  | .promise _ => none

/-- The properties `user` and `internalJwt` of the request after a success. -/
structure AuthResult where
  user : Option UserValue
  internalJwt : Option String
  deriving DecidableEq

/-- What a security handler does in the database, and how it may fail. -/
abbrev AuthM (α : Type) : Type := AccountM AuthError α

/-- A header as a condition sees it: the empty string is falsy. -/
def present (header : Option String) : Option String := header.filter (· ≠ "")

/-- `header.split(' ')` -/
def splitBlank (header : String) : List String := (header.toList.splitOn ' ').map String.ofList

/-- `operationTag.indexOf('admin') > -1`; without an operation the tag is a string, in which the
word does not occur. -/
def taggedAdmin (req : Request) : Except AuthError Bool :=
  match req.operationDoc with
  | none => .ok false
  | some doc =>
    match doc.tags with
    | none => .error (.js .typeError)
    | some tags => .ok (decide ("admin" ∈ tags))

/-- The user is unknown, or no admin where the operation is one for admins. -/
def isNotAllowed (req : Request) : Option UserValue → Except AuthError Bool
  | none => .ok true
  | some user => if user.privilege = some .user then taggedAdmin req else .ok false

/-- The error of a user who is no admin. -/
def forbidden : AuthError := .http 403 "Forbidden: privileged operation (admin)"

/-- The end of the branches that check the privilege. -/
def enter (req : Request) (user : Option UserValue) (internalJwt : Option String) :
    AuthM AuthResult :=
  match isNotAllowed req user with
  | .error e => throw e
  | .ok true => throw forbidden
  | .ok false => return { user := user, internalJwt := internalJwt }

/-- The payload of a token, or of the stored token with that id. -/
def tokenData (server : Server) (tokenId : String) : AuthM (Option JwtPayload) :=
  match jwtutil.decode server.jws server.now tokenId server.secret with
  | .ok data => return data
  | .error _ => do
    match ← loadAccessTokenById tokenId with
    | none => throw (.http 401 "Unknown token")
    | some token =>
      match jwtutil.decode server.jws server.later token.jwt server.secret with
      | .error e => throw e
      | .ok data => return data

/-- Whether the callback of `catch` throws the exception again: it has a message, in which the word
`duplicate` does not occur. -/
def rethrown : AuthError → Bool
  | .js .duplicateKey => false
  | .js .quotaIsReached => false
  | .js .datesOverlap => false
  | .js .booked => false
  | .js .busy => false
  | _ => true

/-- The upsert that the request appends to the queue. -/
def upsert (server : Server) (data : JwtPayload) (email : String) : AuthM Unit :=
  (saveUserAfterLogin .js server.env email data.name data.privilege).tryCatch fun e =>
    if rethrown e then throw e else return ()

/-- `data?.email`, unless it is falsy. -/
def emailOf (data : Option JwtPayload) : Option (JwtPayload × String) :=
  data.bind fun data => (present data.email).map fun email => (data, email)

/-- The handler of a token in the `Authorization` header. -/
def bearerAuth (server : Server) (upsertQueue : AuthM Unit) (req : Request)
    (authorization : String) : AuthM AuthResult :=
  let authHeader := splitBlank authorization
  if authHeader[0]? ≠ some "Bearer" then
    throw (.http 401 "Authorization header should be in \"Bearer $AUTH_TOKEN\" format")
  else match present authHeader[1]? with
  | none => throw (.http 401 "No Credentials")
  | some tokenId => do
    let data ← tokenData server tokenId
    match emailOf data with
    | none => throw (.http 401 "Bad token")
    | some (data, email) =>
      upsertQueue
      match ← lift .js (UserModel.loadUser email) with
      | some user => enter req (some (.document user)) (some tokenId)
      | none =>
        upsert server data email
        let user ← lift .js (UserModel.loadUser email)
        enter req (user.map .document) (some tokenId)

/-- The lookup of the user is not awaited: `user` is a promise. -/
def internalAuth (server : Server) (req : Request) (internal : String) : AuthM AuthResult :=
  let authHeader := splitBlank internal
  if authHeader[0]? ≠ some "Internal" then
    throw (.http 401 "Authorization header should be in \"Internal $AUTH_TOKEN\" format")
  else match present authHeader[1]? with
  | none => throw (.http 401 "Bad Credentials")
  | some tokenId =>
    match jwtutil.decode server.jws server.now tokenId server.secret with
    | .error e => throw e
    | .ok none => throw (.http 401 "Bad JWT")
    | .ok (some data) =>
      (enter req (some (.promise data.email)) none).tryCatch fun _ =>
        throw (.http 401 "Could not load user")

/-- Only the request gets a token, of the owner of the device. -/
def deviceAuth (server : Server) (serial : String) : AuthM AuthResult := do
  match ← lift .js (Db.findDevice serial) with
  | none => throw (.js .typeError)
  | some device =>
    match device.owner with
    | none => throw (.js .typeError)
    | some owner =>
      match jwtutil.encode server.jws server.now ⟨some owner.email, owner.name, none⟩
          server.secret with
      | .error e => throw e
      | .ok internalJwt => return { user := none, internalJwt := some internalJwt }

/-- `upsertQueue` is what the upserts of earlier requests still have to do. -/
def accessTokenAuth (server : Server) (upsertQueue : AuthM Unit) (req : Request) :
    AuthM AuthResult :=
  match present req.authorization with
  | some authorization => bearerAuth server upsertQueue req authorization
  | none =>
    match present req.internal with
    | some internal => internalAuth server req internal
    | none =>
      match present req.channel, present req.device with
      | some _, some serial => deviceAuth server serial
      | _, _ => throw (.http 401 "Requires Authentication")

/-! ### Soundness -/

/-- The token is the second word of the header `authorization` or `internal`. -/
def Request.Carries (req : Request) (token : String) : Prop :=
  ∃ header, (header ∈ req.authorization ∨ header ∈ req.internal) ∧
    token ∈ (splitBlank header)[1]?

/-- The operation has the tag `admin`. -/
def Request.IsAdmin (req : Request) : Prop :=
  ∃ doc ∈ req.operationDoc, ∃ tags ∈ doc.tags, "admin" ∈ tags

/-- What a success must mean, for a call that has taken the database from `s` to `s'`: the request
carries a valid token, or the id of one that is stored, of a user that exists and has the privilege,
and is the user of the request. -/
def Authenticated (server : Server) (req : Request) (s s' : AccountDb) (result : AuthResult) :
    Prop :=
  ∃ token data email user, req.Carries token ∧
    (jwtutil.Valid server.jws server.now token server.secret data ∨
      ∃ stored ∈ s.accessTokens.findOne token,
        jwtutil.Valid server.jws server.later stored.jwt server.secret data) ∧
    data.email = some email ∧ s'.db.users.findOne email = some user ∧
    (user.privilege = .user → ¬ req.IsAdmin) ∧ result.user = some (.document user)

/-- The handler only succeeds if that means what it must, whatever upserts are queued. -/
def Sound (server : Server) (s : AccountDb) (req : Request) : Prop :=
  ∀ upsertQueue result s', (accessTokenAuth server upsertQueue req).Runs AccountOp.exec s
    (.ok result) s' → Authenticated server req s s' result

/-- The request has the header `authorization`; or it has the header `internal`, and that does not
have a token which decodes; or it names no device that has an owner. -/
def Guarded (server : Server) (s : AccountDb) (req : Request) : Prop :=
  (present req.authorization).isSome ∨
    match present req.internal with
    | some internal => ¬ ((splitBlank internal)[0]? = some "Internal" ∧
        ∃ token ∈ (splitBlank internal)[1]?, ∃ data,
          jwtutil.Valid server.jws server.now token server.secret data)
    | none => server.secret = "" ∨ present req.channel = none ∨
        ∀ serial ∈ present req.device, ∀ device ∈ s.db.devices.findOne serial, device.owner = none

variable {server : Server} {upsertQueue : AuthM Unit} {req : Request} {s s' : AccountDb}

theorem mem_present {header : Option String} {h : String} :
    h ∈ present header ↔ h ∈ header ∧ h ≠ "" := by
  simp [present, Option.filter_eq_some_iff]

theorem taggedAdmin_eq_false (h : taggedAdmin req = .ok false) : ¬ req.IsAdmin := by
  rintro ⟨doc, hdoc, tags, htags, hadmin⟩
  rw [taggedAdmin, Option.mem_def.1 hdoc] at h
  simp [Option.mem_def.1 htags, hadmin] at h

theorem runs_enter {user : Option UserValue} {internalJwt : Option String} {result : AuthResult}
    (hrun : (enter req user internalJwt).Runs AccountOp.exec s (.ok result) s') :
    s' = s ∧ result = ⟨user, internalJwt⟩ ∧
      ∃ value ∈ user, value.privilege = some .user → ¬ req.IsAdmin := by
  unfold enter at hrun
  split at hrun
  · cases hrun.1
  · cases hrun.1
  rename_i hallowed
  obtain ⟨hresult, rfl⟩ := hrun
  refine ⟨rfl, Except.ok.inj hresult, ?_⟩
  cases user with
  | none => cases hallowed
  | some value =>
    refine ⟨value, rfl, fun hprivilege => taggedAdmin_eq_false ?_⟩
    rwa [isNotAllowed, if_pos hprivilege] at hallowed

/-- The payload that is found is that of a valid token. -/
theorem runs_tokenData {tokenId : String} {data : JwtPayload}
    (hrun : (tokenData server tokenId).Runs AccountOp.exec s (.ok (some data)) s') :
    s' = s ∧ (jwtutil.Valid server.jws server.now tokenId server.secret data ∨
      ∃ stored ∈ s.accessTokens.findOne tokenId,
        jwtutil.Valid server.jws server.later stored.jwt server.secret data) := by
  unfold tokenData at hrun
  split at hrun
  · rename_i hdecoded
    obtain ⟨hdata, rfl⟩ := hrun
    rw [← Except.ok.inj hdata] at hdecoded
    exact ⟨rfl, .inl (jwtutil.decode_eq_some_iff.1 hdecoded)⟩
  rw [bind_eq, runs_loadAccessTokenById] at hrun
  split at hrun
  · cases hrun.1
  rename_i stored hstored
  split at hrun
  · cases hrun.1
  rename_i hdecoded
  obtain ⟨hdata, rfl⟩ := hrun
  rw [← Except.ok.inj hdata] at hdecoded
  exact ⟨rfl, .inr ⟨stored, hstored, jwtutil.decode_eq_some_iff.1 hdecoded⟩⟩

theorem emailOf_eq_some {data : Option JwtPayload} {payload : JwtPayload} {email : String}
    (h : emailOf data = some (payload, email)) :
    data = some payload ∧ payload.email = some email := by
  cases data with
  | none => cases h
  | some data =>
    obtain ⟨email', hemail, hpair⟩ := Option.map_eq_some_iff.1 h
    obtain ⟨rfl, rfl⟩ := Prod.mk.inj hpair
    exact ⟨rfl, (mem_present.1 hemail).1⟩

theorem authenticated_of_enter {tokenId email : String} {data : JwtPayload} {t : AccountDb}
    {result : AuthResult} (hcarries : req.Carries tokenId)
    (hvalid : jwtutil.Valid server.jws server.now tokenId server.secret data ∨
      ∃ stored ∈ s.accessTokens.findOne tokenId,
        jwtutil.Valid server.jws server.later stored.jwt server.secret data)
    (hemail : data.email = some email)
    (hrun : (enter req ((t.db.users.findOne email).map .document) (some tokenId)).Runs
      AccountOp.exec t (.ok result) s') : Authenticated server req s s' result := by
  obtain ⟨rfl, rfl, value, hvalue, hprivilege⟩ := runs_enter hrun
  obtain ⟨user, huser, rfl⟩ := Option.map_eq_some_iff.1 hvalue
  refine ⟨tokenId, data, email, user, hcarries, hvalid, hemail, huser, ?_, ?_⟩
  · exact fun h => hprivilege (congrArg some h)
  · exact hvalue

/-- **The branch of the header `authorization` is sound.** -/
theorem authenticated_of_bearer {authorization : String} {result : AuthResult}
    (hauthorization : authorization ∈ req.authorization)
    (hrun : (bearerAuth server upsertQueue req authorization).Runs AccountOp.exec s (.ok result)
      s') : Authenticated server req s s' result := by
  unfold bearerAuth at hrun
  dsimp only at hrun
  split at hrun
  · cases hrun.1
  split at hrun
  · cases hrun.1
  rename_i tokenId htoken
  have hcarries : req.Carries tokenId :=
    ⟨authorization, .inl hauthorization, (mem_present.1 htoken).1⟩
  rcases runs_bind.1 hrun with ⟨payload, t, htokenData, hrest⟩ | ⟨e, -, he⟩
  · split at hrest
    · cases hrest.1
    rename_i data email hpayload
    obtain ⟨rfl, hemail⟩ := emailOf_eq_some hpayload
    obtain ⟨rfl, hvalid⟩ := runs_tokenData htokenData
    rcases runs_bind.1 hrest with ⟨-, t₁, -, hrest⟩ | ⟨e, -, he⟩
    · rw [bind_eq, runs_loadUser] at hrest
      split at hrest
      · rename_i user huser
        refine authenticated_of_enter (t := t₁) hcarries hvalid hemail ?_
        rw [huser]
        exact hrest
      · -- the user is created, and loaded again
        rcases runs_bind.1 hrest with ⟨-, t₂, -, hrest⟩ | ⟨e, -, he⟩
        · rw [bind_eq, runs_loadUser] at hrest
          exact authenticated_of_enter hcarries hvalid hemail hrest
        · cases he
    · cases he
  · cases he

/-- The branch of the header `internal` succeeds whenever it has a token which decodes, and the user
of the request is a promise then. -/
theorem runs_internalAuth {internal : String} {result : AuthResult} :
    (internalAuth server req internal).Runs AccountOp.exec s (.ok result) s' ↔
      (splitBlank internal)[0]? = some "Internal" ∧
        (∃ token ∈ (splitBlank internal)[1]?, ∃ data,
          jwtutil.Valid server.jws server.now token server.secret data ∧
            result = ⟨some (.promise data.email), none⟩) ∧ s' = s := by
  unfold internalAuth
  dsimp only
  by_cases hformat : (splitBlank internal)[0]? = some "Internal"
  · rw [if_neg (not_not.2 hformat)]
    cases htoken : present (splitBlank internal)[1]? with
    | none =>
      refine iff_of_false (fun h => by cases h.1) ?_
      rintro ⟨-, ⟨token, hmem, data, hvalid, -⟩, -⟩
      have hpresent := mem_present.2 ⟨hmem, hvalid.token_ne⟩
      rw [htoken] at hpresent
      cases hpresent
    | some tokenId =>
      have hmem := (mem_present.1 htoken).1
      constructor
      · intro h
        dsimp only at h
        split at h
        · cases h.1
        · cases h.1
        rename_i data hdecoded
        obtain ⟨hresult, rfl⟩ := h
        exact ⟨hformat, ⟨tokenId, hmem, data, jwtutil.decode_eq_some_iff.1 hdecoded,
          Except.ok.inj hresult⟩, rfl⟩
      · rintro ⟨-, ⟨token, hmem', data, hvalid, rfl⟩, rfl⟩
        obtain rfl := Option.mem_unique hmem hmem'
        dsimp only
        rw [jwtutil.decode_eq_some_iff.2 hvalid]
        exact ⟨rfl, rfl⟩
  · rw [if_pos hformat]
    exact iff_of_false (fun h => by cases h.1) fun h => hformat h.1

/-- The branch of the headers `channel` and `device` succeeds whenever the device has an owner. -/
theorem runs_deviceAuth {serial : String} {result : AuthResult} :
    (deviceAuth server serial).Runs AccountOp.exec s (.ok result) s' ↔
      server.secret ≠ "" ∧ (∃ device ∈ s.db.devices.findOne serial, ∃ owner ∈ device.owner,
        result = ⟨none, some (server.jws.sign ⟨"HS256", some (server.now + apiutil.ONE_MONTH)⟩
          ⟨some owner.email, owner.name, none⟩ server.secret)⟩) ∧ s' = s := by
  show (match s.db.devices.findOne serial with
    | none => throw (.js .typeError)
    | some device =>
      match device.owner with
      | none => throw (.js .typeError)
      | some owner =>
        match jwtutil.encode server.jws server.now ⟨some owner.email, owner.name, none⟩
            server.secret with
        | .error e => throw e
        | .ok internalJwt => return { user := none, internalJwt := some internalJwt } :
      AuthM AuthResult).Runs AccountOp.exec s (.ok result) s' ↔ _
  unfold jwtutil.encode
  cases s.db.devices.findOne serial with
  | none => simp
  | some device =>
    cases hdevice : device.owner with
    | none => simp [hdevice]
    | some owner => by_cases hsecret : server.secret = "" <;> simp [hdevice, hsecret]

/-- **The handler is sound exactly for the guarded requests.** -/
theorem sound_iff : Sound server s req ↔ Guarded server s req := by
  unfold Sound Guarded accessTokenAuth
  cases hauthorization : present req.authorization with
  | some authorization =>
    refine iff_of_true (fun upsertQueue result s' hrun => ?_) (.inl rfl)
    exact authenticated_of_bearer (mem_present.1 hauthorization).1 hrun
  | none =>
    rw [Option.isSome_none, Bool.false_eq_true, false_or]
    cases hinternal : present req.internal with
    | some internal =>
      dsimp only
      simp only [runs_internalAuth]
      constructor
      · rintro hsound ⟨hformat, token, hmem, data, hvalid⟩
        obtain ⟨-, -, -, user, -, -, -, -, -, huser⟩ := hsound (.ret ()) _ s
          ⟨hformat, ⟨token, hmem, data, hvalid, rfl⟩, rfl⟩
        cases huser
      · rintro hguarded - result s' ⟨hformat, ⟨token, hmem, data, hvalid, -⟩, -⟩
        exact absurd ⟨hformat, token, hmem, data, hvalid⟩ hguarded
    | none =>
      dsimp only
      cases hchannel : present req.channel with
      | none =>
        refine iff_of_true (fun upsertQueue result s' hrun => ?_) (.inr (.inl rfl))
        cases hrun.1
      | some channel =>
        cases hdevice : present req.device with
        | none =>
          refine iff_of_true (fun upsertQueue result s' hrun => ?_) (.inr (.inr nofun))
          cases hrun.1
        | some serial =>
          dsimp only
          simp only [runs_deviceAuth]
          constructor
          · intro hsound
            by_contra hguarded
            push Not at hguarded
            obtain ⟨hsecret, -, serial', hserial, device, hmem, howner⟩ := hguarded
            obtain rfl := Option.some.inj hserial
            obtain ⟨owner, howner⟩ := Option.ne_none_iff_exists'.1 howner
            obtain ⟨-, -, -, user, -, -, -, -, -, huser⟩ := hsound (.ret ()) _ s
              ⟨hsecret, ⟨device, hmem, owner, howner, rfl⟩, rfl⟩
            cases huser
          · rintro (hsecret | hchannel | hdevices) - result s'
              ⟨hne, ⟨device, hmem, owner, howner, -⟩, -⟩
            · exact absurd hsecret hne
            · cases hchannel
            · have hnone := hdevices serial rfl device hmem
              rw [hnone] at howner
              cases howner

/-- A server whose tokens name the algorithm and end with the secret. -/
def sampleServer : Server where
  jws :=
    { verify := fun token secret => .ok (token.endsWith secret)
      decode := fun _ => none
      sign := fun header _ secret => header.alg ++ "." ++ secret }
  secret := "secret"
  now := 0
  later := 0
  env := ⟨5, 3600000, 10⟩

/-- **A request without a token succeeds**, if it names a device that has an owner. -/
theorem not_sound_of_device : ¬ Sound sampleServer
    { teams := .empty
      db := { users := .empty, groups := .empty,
              devices := ⟨[{ Sample.device "d" with owner := some ⟨"u", "u"⟩ }], by simp⟩ }
      accessTokens := .empty } ⟨none, none, none, some "channel", some "d"⟩ := by
  intro hsound
  obtain ⟨-, -, -, -, ⟨header, hheader | hheader, -⟩, -⟩ :=
    hsound (.ret ()) _ _ (runs_eval _ _ _)
  · cases hheader
  · cases hheader

end securityHandlers

end DeviceHub
