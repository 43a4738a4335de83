import Mathlib.Data.List.Infix

/-!
# `units/device/plugins/install.ts`

The installation of a package.  `install` replies itself, and throws after a failure; its caller
replies to everything that is thrown, and the launch comes after the reply.

## Main definitions

* `Sends` : a computation that sends messages on the channel of the request, and may throw.
* `InstallOutcomes` : how the calls of other parts come out.
* `Install.pushApp`, `Install.install`, `Install.handle` : the functions.
* `Install.OneVerdict` : what the sender of the request expects.
* `Install.Replies` : the condition.

## Main results

* `Install.handle_eq` : what is sent, by the last answer of the package manager.
* `Install.oneVerdict_iff` : there is one verdict exactly under the condition.
-/

namespace DeviceHub

/-- What is sent on the channel of the request.  All but the result of the installation are
replies. -/
inductive InstallSent where
  | progress (data : String) (progress : Nat)
  | okay (data : String)
  | fail (data : String)
  | result (result : String)
  deriving DecidableEq

namespace InstallSent

/-- The reply that says that the app was installed. -/
def isOkay : InstallSent → Bool
  | okay _ => true
  | _ => false

/-- The replies that settle the request. -/
def isVerdict : InstallSent → Bool
  | okay _ | fail _ => true
  | progress _ _ | result _ => false

/-- The message belongs to the transaction. -/
def isReply : InstallSent → Bool
  | progress _ _ | okay _ | fail _ => true
  | result _ => false

end InstallSent

/-- An error, with what the handler looks at. -/
structure InstallError where
  name : String
  message : String
  deriving DecidableEq

/-! ### Sending and throwing -/

/-- What is sent, and then the value or the error. -/
@[ext] structure Sends (α : Type) where
  sent : List InstallSent
  value : Except InstallError α

namespace Sends

variable {α β : Type}

instance : Monad Sends where
  pure a := ⟨[], .ok a⟩
  bind x f :=
    match x.value with
    | .ok a => ⟨x.sent ++ (f a).sent, (f a).value⟩
    | .error e => ⟨x.sent, .error e⟩

instance : MonadExceptOf InstallError Sends where
  throw e := ⟨[], .error e⟩
  tryCatch x handler :=
    match x.value with
    | .ok a => ⟨x.sent, .ok a⟩
    | .error e => ⟨x.sent ++ (handler e).sent, (handler e).value⟩

/-- A message is sent. -/
def send (message : InstallSent) : Sends Unit := ⟨[message], .ok ()⟩

/-- A call of another part. -/
def call (outcome : Except InstallError α) : Sends α := ⟨[], outcome⟩

@[simp] theorem pure_eq (a : α) : (pure a : Sends α) = ⟨[], .ok a⟩ := rfl

@[simp] theorem throw_eq (e : InstallError) : (throw e : Sends α) = ⟨[], .error e⟩ := rfl

@[simp] theorem send_eq (message : InstallSent) : send message = ⟨[message], .ok ()⟩ := rfl

@[simp] theorem call_eq (outcome : Except InstallError α) : call outcome = ⟨[], outcome⟩ := rfl

@[simp] theorem bind_ok (sent : List InstallSent) (a : α) (f : α → Sends β) :
    (⟨sent, .ok a⟩ >>= f) = ⟨sent ++ (f a).sent, (f a).value⟩ := rfl

@[simp] theorem bind_error (sent : List InstallSent) (e : InstallError) (f : α → Sends β) :
    ((⟨sent, .error e⟩ : Sends α) >>= f) = ⟨sent, .error e⟩ := rfl

@[simp] theorem tryCatch_ok (sent : List InstallSent) (a : α) (handler : InstallError → Sends α) :
    tryCatch (⟨sent, .ok a⟩ : Sends α) handler = ⟨sent, .ok a⟩ := rfl

@[simp] theorem tryCatch_error (sent : List InstallSent) (e : InstallError)
    (handler : InstallError → Sends α) :
    tryCatch (⟨sent, .error e⟩ : Sends α) handler
      = ⟨sent ++ (handler e).sent, (handler e).value⟩ := rfl

end Sends

/-! ### The handler -/

/-- The manifest: the package, and how many activities can be launched; the second is missing where
reading it throws. -/
structure Manifest where
  package : String
  launcherActivities : Option Nat
  deriving DecidableEq

/-- The manifest is missing where the text of the message cannot be parsed. -/
structure InstallMessage where
  launch : Bool
  isApi : Bool
  manifest : Option Manifest
  installFlags : List String

/-- How the calls come out.  `push` is the transfer, with what its event `error` reports; `shell` is
the output of a command at the first and at the second attempt; the temporary file is removed once
after a successful verification, and once after a failure. -/
structure InstallOutcomes where
  download : Except InstallError Unit
  stat : Except InstallError Unit
  push : Except InstallError (Option String)
  apkSize : Except InstallError Nat
  cleanup : Except InstallError Unit
  cleanupFailed : Except InstallError Unit
  shell : String → Nat → Except InstallError String
  uninstall : Except InstallError Unit
  startActivity : Except InstallError Bool

/-- `s.includes(part)` -/
def includes (s part : String) : Bool := part.toList <:+: s.toList

namespace Install

open Sends

/-- A progress message, which a request of the API gets none of. -/
def sendProgress (isApi : Bool) (data : String) (progress : Nat) : Sends Unit :=
  if !isApi then send (.progress data progress) else pure ()

/-- `const target` -/
def target : String := "/data/local/tmp/install_app.apk"

/-- The end of `pushApp`. -/
def verify (isApi : Bool) (o : InstallOutcomes) : Sends (Option String) := do
  try
    let size ← call o.apkSize
    if size = 0 then
      throw ⟨"Error", "File was pushed but has zero size"⟩
    sendProgress isApi "pushing_app" 50
    call o.cleanup
    pure (some target)
  catch _ =>
    call o.cleanupFailed
    pure none

/-- A failure is logged, and there is no path then. -/
def pushApp (isApi : Bool) (o : InstallOutcomes) : Sends (Option String) := do
  try
    call o.download
    call o.stat
    let transferError ← call o.push
    if let some error := transferError then
      throw ⟨"Error", "Push transfer error: " ++ error⟩
    verify isApi o
  catch _ =>
    pure none

/-- The end of `install`. -/
def launch (message : InstallMessage) (manifest : Manifest) (o : InstallOutcomes) : Sends Unit :=
  if message.launch then
    match manifest.launcherActivities with
    | none => throw ⟨"TypeError", "Cannot read properties of undefined"⟩
    | some 0 => pure ()
    | some (_ + 1) => do
      sendProgress message.isApi "launching_app" 90
      let result ← call o.startActivity
      if result then
        sendProgress message.isApi "launching_app" 100
  else pure ()

/-- The output of the command says that it has succeeded. -/
def succeeds (result : String) : Bool := includes result "Success"

/-- The output of the command names a failure after which the old app is uninstalled. -/
def isCertificateOrDowngrade (result : String) : Bool :=
  includes result "INSTALL_PARSE_FAILED_INCONSISTENT_CERTIFICATES"
    || includes result "INSTALL_FAILED_VERSION_DOWNGRADE"

/-- What is thrown is logged and thrown again. -/
def install (message : InstallMessage) (manifest : Manifest) (o : InstallOutcomes)
    (installCmd : String) (attempt : Nat) : Sends Unit := do
  let result ← call (o.shell installCmd attempt)
  if succeeds result then
    send (.okay "Installed successfully")
    send (.result "Installed successfully")
    launch message manifest o
  else if isCertificateOrDowngrade result then
    if _h : attempt ≠ 0 then
      throw ⟨"Error", result⟩
    else
      call o.uninstall
      install message manifest o installCmd 1
  else
    send (.fail result)
    send (.result ("Tried to install package " ++ manifest.package ++ ", got " ++ result))
    throw ⟨"Error", result⟩
termination_by 1 - attempt
decreasing_by omega

/-- The path of an application that was not pushed is written out as `undefined`. -/
def installCmd (installFlags : List String) (apkPath : Option String) : String :=
  "pm install "
    ++ (if installFlags.length > 0 then " ".intercalate installFlags ++ " " else "")
    ++ apkPath.getD "undefined"

/-- The reply to what `install` throws. -/
def failWith (err : InstallError) : InstallSent :=
  if err.name = "TimeoutError" || includes err.message "timeout" then .fail "INSTALL_ERROR_TIMEOUT"
  else .fail "INSTALL_ERROR_UNKNOWN"

/-- The handler of an installation, after the manifest was read. -/
def installOn (message : InstallMessage) (manifest : Manifest) (o : InstallOutcomes) :
    Sends Unit := do
  sendProgress message.isApi "pushing_app" 0
  let apkPath ← pushApp message.isApi o
  try
    let installCmd := installCmd message.installFlags apkPath
    sendProgress message.isApi "installing_app" 50
    install message manifest o installCmd 0
  catch err =>
    send (failWith err)

/-- The handler of `InstallMessage`.  Where the manifest cannot be parsed, the promise of the handler
is rejected before anything is sent. -/
def handle (message : InstallMessage) (o : InstallOutcomes) : List InstallSent :=
  match message.manifest with
  | none => []
  | some manifest => (installOn message manifest o).sent

/-! ### What the sender of the request expects -/

/-- One verdict, which says whether the package was installed, and no reply after it. -/
def OneVerdict (installed : Prop) (sent : List InstallSent) : Prop :=
  ∃ before verdict after, sent = before ++ verdict :: after ∧ verdict.isVerdict
    ∧ (∀ message ∈ before, ¬ message.isVerdict) ∧ (∀ message ∈ after, ¬ message.isReply)
    ∧ (verdict.isOkay ↔ installed)

@[simp] theorem not_oneVerdict_nil (installed : Prop) : ¬ OneVerdict installed [] := by
  rintro ⟨before, verdict, after, hsent, -⟩
  simp at hsent

theorem oneVerdict_cons_verdict {message : InstallSent} (h : message.isVerdict) (installed : Prop)
    (sent : List InstallSent) :
    OneVerdict installed (message :: sent)
      ↔ (∀ message ∈ sent, ¬ message.isReply) ∧ (message.isOkay ↔ installed) := by
  constructor
  · rintro ⟨before, verdict, after, hsent, -, hbefore, hafter, hokay⟩
    cases before with
    | nil =>
      obtain ⟨rfl, rfl⟩ := List.cons_eq_cons.mp hsent
      exact ⟨hafter, hokay⟩
    | cons first before =>
      obtain ⟨rfl, -⟩ := List.cons_eq_cons.mp hsent
      exact absurd h (hbefore message (by simp))
  · rintro ⟨hafter, hokay⟩
    exact ⟨[], message, sent, rfl, h, by simp, hafter, hokay⟩

theorem oneVerdict_cons_of_not {message : InstallSent} (h : ¬ message.isVerdict) (installed : Prop)
    (sent : List InstallSent) :
    OneVerdict installed (message :: sent) ↔ OneVerdict installed sent := by
  constructor
  · rintro ⟨before, verdict, after, hsent, hverdict, hbefore, hafter, hokay⟩
    cases before with
    | nil =>
      obtain ⟨rfl, -⟩ := List.cons_eq_cons.mp hsent
      exact absurd hverdict h
    | cons first before =>
      obtain ⟨-, rfl⟩ := List.cons_eq_cons.mp hsent
      exact ⟨before, verdict, after, rfl, hverdict,
        fun m hm => hbefore m (List.mem_cons_of_mem _ hm), hafter, hokay⟩
  · rintro ⟨before, verdict, after, rfl, hverdict, hbefore, hafter, hokay⟩
    exact ⟨message :: before, verdict, after, rfl, hverdict,
      List.forall_mem_cons.mpr ⟨h, hbefore⟩, hafter, hokay⟩

theorem oneVerdict_append {before : List InstallSent} (h : ∀ message ∈ before, ¬ message.isVerdict)
    (installed : Prop) (sent : List InstallSent) :
    OneVerdict installed (before ++ sent) ↔ OneVerdict installed sent := by
  induction before with
  | nil => rfl
  | cons message before ih =>
    obtain ⟨hmessage, hbefore⟩ := List.forall_mem_cons.mp h
    rw [List.cons_append, oneVerdict_cons_of_not hmessage, ih hbefore]

@[simp] theorem oneVerdict_progress (data : String) (progress : Nat) (installed : Prop)
    (sent : List InstallSent) :
    OneVerdict installed (.progress data progress :: sent) ↔ OneVerdict installed sent :=
  oneVerdict_cons_of_not (by simp [InstallSent.isVerdict]) installed sent

@[simp] theorem oneVerdict_okay (data : String) (installed : Prop) (sent : List InstallSent) :
    OneVerdict installed (.okay data :: sent) ↔
      (∀ message ∈ sent, ¬ message.isReply) ∧ installed := by
  rw [oneVerdict_cons_verdict rfl]
  simp [InstallSent.isOkay]

@[simp] theorem oneVerdict_fail (data : String) (installed : Prop) (sent : List InstallSent) :
    OneVerdict installed (.fail data :: sent)
      ↔ (∀ message ∈ sent, ¬ message.isReply) ∧ ¬ installed := by
  rw [oneVerdict_cons_verdict rfl]
  simp [InstallSent.isOkay]

/-! ### How the calls come out -/

/-- The path of an application that was pushed, where it is verified. -/
def verifiedPath (o : InstallOutcomes) : Option String :=
  match o.apkSize with
  | .error _ => none
  | .ok size =>
    if size = 0 then none
    else
      match o.cleanup with
      | .error _ => none
      | .ok _ => some target

/-- The path of the application on the device, where it was pushed and is verified. -/
def pushedPath (o : InstallOutcomes) : Option String :=
  match o.download, o.stat, o.push with
  | .ok _, .ok _, .ok none => verifiedPath o
  | _, _, _ => none

/-- The answer of the package manager to the last command it is given. -/
def lastAnswer (o : InstallOutcomes) (installCmd : String) : Except InstallError String :=
  match o.shell installCmd 0 with
  | .error e => .error e
  | .ok result =>
    if succeeds result || !isCertificateOrDowngrade result then .ok result
    else
      match o.uninstall with
      | .error e => .error e
      | .ok _ => o.shell installCmd 1

/-- The last output of the commands of an installation. -/
def answer (message : InstallMessage) (o : InstallOutcomes) : Except InstallError String :=
  lastAnswer o (installCmd message.installFlags (pushedPath o))

/-- The package manager has said so at last. -/
def Installed (message : InstallMessage) (o : InstallOutcomes) : Prop :=
  ∃ result, answer message o = .ok result ∧ succeeds result

/-- The launch sends nothing and does not fail: there is none, or the request comes from the API and
the activity can be started. -/
def QuietLaunch (message : InstallMessage) (manifest : Manifest) (o : InstallOutcomes) : Prop :=
  message.launch → manifest.launcherActivities = some 0
    ∨ (∃ n, manifest.launcherActivities = some (n + 1)) ∧ message.isApi
      ∧ ∃ result, o.startActivity = .ok result

/-- The manifest can be parsed; the last command of the package manager throws, or has said that the
package is installed and the launch is quiet, or has failed for the certificate or the version. -/
def Replies (message : InstallMessage) (o : InstallOutcomes) : Prop :=
  ∃ manifest, message.manifest = some manifest ∧ ∀ result, answer message o = .ok result →
    if succeeds result then QuietLaunch message manifest o else isCertificateOrDowngrade result

/-! ### What is sent -/

theorem sendProgress_eq (isApi : Bool) (data : String) (progress : Nat) :
    sendProgress isApi data progress
      = ⟨if isApi then [] else [.progress data progress], .ok ()⟩ := by
  cases isApi <;> rfl

@[simp] theorem not_isVerdict_sendProgress (isApi : Bool) (data : String) (progress : Nat) :
    ∀ message ∈ (if isApi then [] else [InstallSent.progress data progress]),
      ¬ message.isVerdict := by
  cases isApi <;> simp [InstallSent.isVerdict]

theorem verify_eq (isApi : Bool) (o : InstallOutcomes) :
    ∃ sent, tryCatch (verify isApi o) (fun _ : InstallError => pure none)
        = ⟨sent, .ok (verifiedPath o)⟩
      ∧ ∀ message ∈ sent, ¬ message.isVerdict := by
  have hquiet := not_isVerdict_sendProgress isApi "pushing_app" 50
  cases hsize : o.apkSize with
  | error e =>
    cases hfailed : o.cleanupFailed <;> simp [verify, verifiedPath, hsize, hfailed]
  | ok size =>
    by_cases hzero : size = 0
    · cases hfailed : o.cleanupFailed <;> simp [verify, verifiedPath, hsize, hfailed, hzero]
    · cases hclean : o.cleanup with
      | ok u => simpa [verify, verifiedPath, sendProgress_eq, hsize, hzero, hclean] using hquiet
      | error e =>
        cases hfailed : o.cleanupFailed <;>
          simpa [verify, verifiedPath, sendProgress_eq, hsize, hzero, hclean, hfailed] using hquiet

theorem pushApp_eq (isApi : Bool) (o : InstallOutcomes) :
    ∃ sent, pushApp isApi o = ⟨sent, .ok (pushedPath o)⟩ ∧ ∀ message ∈ sent, ¬ message.isVerdict := by
  cases hdownload : o.download with
  | error e => simp [pushApp, pushedPath, hdownload]
  | ok u =>
    cases hstat : o.stat with
    | error e => simp [pushApp, pushedPath, hdownload, hstat]
    | ok u =>
      cases hpush : o.push with
      | error e => simp [pushApp, pushedPath, hdownload, hstat, hpush]
      | ok transferError =>
        cases transferError with
        | some error => simp [pushApp, pushedPath, hdownload, hstat, hpush]
        | none =>
          obtain ⟨sent, hsent, hquiet⟩ := verify_eq isApi o
          refine ⟨sent, ?_, hquiet⟩
          simpa [pushApp, pushedPath, hdownload, hstat, hpush] using hsent

/-- What `install` does with the last answer of the package manager. -/
def conclude (message : InstallMessage) (manifest : Manifest) (o : InstallOutcomes) :
    Except InstallError String → Sends Unit
  | .error e => ⟨[], .error e⟩
  | .ok result =>
    if succeeds result then
      ⟨.okay "Installed successfully" :: .result "Installed successfully"
        :: (launch message manifest o).sent, (launch message manifest o).value⟩
    else if isCertificateOrDowngrade result then ⟨[], .error ⟨"Error", result⟩⟩
    else
      ⟨[.fail result,
        .result ("Tried to install package " ++ manifest.package ++ ", got " ++ result)],
        .error ⟨"Error", result⟩⟩

theorem install_one (message : InstallMessage) (manifest : Manifest) (o : InstallOutcomes)
    (cmd : String) :
    install message manifest o cmd 1 = conclude message manifest o (o.shell cmd 1) := by
  rw [install]
  cases hshell : o.shell cmd 1 with
  | error e => simp [conclude]
  | ok result =>
    by_cases hs : succeeds result <;> by_cases hc : isCertificateOrDowngrade result <;>
      simp [conclude, hs, hc]

theorem install_zero (message : InstallMessage) (manifest : Manifest) (o : InstallOutcomes)
    (cmd : String) :
    install message manifest o cmd 0 = conclude message manifest o (lastAnswer o cmd) := by
  rw [install]
  cases hshell : o.shell cmd 0 with
  | error e => simp [conclude, lastAnswer, hshell]
  | ok result =>
    by_cases hs : succeeds result
    · simp [conclude, lastAnswer, hshell, hs]
    · by_cases hc : isCertificateOrDowngrade result
      · cases huninstall : o.uninstall <;>
          simp [conclude, lastAnswer, hshell, hs, hc, huninstall, install_one]
      · simp [conclude, lastAnswer, hshell, hs, hc]

/-- What is sent after the progress. -/
theorem handle_eq (message : InstallMessage) (o : InstallOutcomes) {manifest : Manifest}
    (h : message.manifest = some manifest) :
    ∃ before, handle message o = before
        ++ (tryCatch (conclude message manifest o (answer message o))
            (fun err => send (failWith err))).sent
      ∧ ∀ m ∈ before, ¬ m.isVerdict := by
  obtain ⟨sent, hpush, hquiet⟩ := pushApp_eq message.isApi o
  refine ⟨(if message.isApi then [] else [.progress "pushing_app" 0]) ++ sent
    ++ (if message.isApi then [] else [.progress "installing_app" 50]), ?_, ?_⟩
  · rw [answer]
    cases hend : conclude message manifest o
        (lastAnswer o (installCmd message.installFlags (pushedPath o))) with
    | mk after value =>
      cases value <;> simp [handle, h, installOn, sendProgress_eq, hpush, install_zero, hend]
  · simp only [List.forall_mem_append]
    exact ⟨⟨not_isVerdict_sendProgress message.isApi _ _, hquiet⟩,
      not_isVerdict_sendProgress message.isApi _ _⟩

theorem failWith_eq (err : InstallError) : ∃ data, failWith err = .fail data := by
  unfold failWith
  split
  · exact ⟨_, rfl⟩
  · exact ⟨_, rfl⟩

@[simp] theorem isReply_failWith (err : InstallError) : (failWith err).isReply := by
  obtain ⟨data, hfail⟩ := failWith_eq err
  rw [hfail]
  rfl

/-- What comes after the verdict of a successful installation. -/
theorem quietLaunch_iff (message : InstallMessage) (manifest : Manifest) (o : InstallOutcomes) :
    (∀ m ∈ (tryCatch (launch message manifest o) (fun err => send (failWith err))).sent,
      ¬ m.isReply) ↔ QuietLaunch message manifest o := by
  cases hlaunch : message.launch with
  | false => simp [launch, QuietLaunch, hlaunch]
  | true =>
    match hactivities : manifest.launcherActivities with
    | none => simp [launch, QuietLaunch, hlaunch, hactivities]
    | some 0 => simp [launch, QuietLaunch, hlaunch, hactivities]
    | some (n + 1) =>
      cases hapi : message.isApi with
      | false =>
        cases hstart : o.startActivity with
        | error e =>
          simp [launch, QuietLaunch, hlaunch, hactivities, hapi, hstart, sendProgress_eq,
            InstallSent.isReply]
        | ok started =>
          cases started <;>
            simp [launch, QuietLaunch, hlaunch, hactivities, hapi, hstart, sendProgress_eq,
              InstallSent.isReply]
      | true =>
        cases hstart : o.startActivity with
        | error e => simp [launch, QuietLaunch, hlaunch, hactivities, hapi, hstart, sendProgress_eq]
        | ok started =>
          cases started <;>
            simp [launch, QuietLaunch, hlaunch, hactivities, hapi, hstart, sendProgress_eq]

theorem oneVerdict_failWith (err : InstallError) (installed : Prop) :
    OneVerdict installed [failWith err] ↔ ¬ installed := by
  obtain ⟨data, hfail⟩ := failWith_eq err
  simp [hfail]

theorem not_oneVerdict_conclude {message : InstallMessage} {manifest : Manifest}
    {o : InstallOutcomes} {result : String} (hs : ¬ succeeds result)
    (hc : ¬ isCertificateOrDowngrade result) (installed : Prop) :
    ¬ OneVerdict installed (tryCatch (conclude message manifest o (.ok result))
      (fun err => send (failWith err))).sent := by
  intro h
  simp only [conclude, hs, hc, Bool.false_eq_true, if_false, tryCatch_error, send_eq,
    List.cons_append, oneVerdict_fail] at h
  exact h.1 (failWith ⟨"Error", result⟩) (by simp) (isReply_failWith _)

/-- There is one verdict exactly where the last failure of the package manager, if any, is an
exception or about the certificate or the version, and a launch is quiet. -/
theorem oneVerdict_iff (message : InstallMessage) (o : InstallOutcomes) :
    OneVerdict (Installed message o) (handle message o) ↔ Replies message o := by
  cases hmanifest : message.manifest with
  | none => simp [handle, Replies, hmanifest]
  | some manifest =>
    obtain ⟨before, hsent, hbefore⟩ := handle_eq message o hmanifest
    rw [hsent, oneVerdict_append hbefore]
    cases hanswer : answer message o with
    | error e => simp [conclude, Installed, Replies, hmanifest, hanswer, oneVerdict_failWith]
    | ok result =>
      by_cases hs : succeeds result
      · have hquiet := quietLaunch_iff message manifest o
        cases hlaunch : launch message manifest o with
        | mk sent value =>
          rw [hlaunch] at hquiet
          cases value <;>
            simpa [conclude, Installed, Replies, hmanifest, hanswer, hs, hlaunch,
              InstallSent.isReply] using hquiet
      · by_cases hc : isCertificateOrDowngrade result
        · simp [conclude, Installed, Replies, hmanifest, hanswer, hs, hc, oneVerdict_failWith]
        · exact iff_of_false (not_oneVerdict_conclude hs hc _)
            (by simp [Replies, hmanifest, hanswer, hs, hc])

/-- A device without space: the failure is replied twice. -/
theorem not_oneVerdict_of_storage :
    ¬ ∀ (message : InstallMessage) (o : InstallOutcomes),
      OneVerdict (Installed message o) (handle message o) := by
  intro h
  let message : InstallMessage :=
    { launch := false, isApi := false,
      manifest := some { package := "org.example", launcherActivities := some 1 },
      installFlags := [] }
  let o : InstallOutcomes :=
    { download := .ok (), stat := .ok (), push := .ok none, apkSize := .ok 1024,
      cleanup := .ok (), cleanupFailed := .ok (),
      shell := fun _ _ => .ok "Failure [INSTALL_FAILED_INSUFFICIENT_STORAGE]",
      uninstall := .ok (), startActivity := .ok true }
  obtain ⟨before, hsent, hbefore⟩ := handle_eq message o rfl
  have hverdict := h message o
  rw [hsent, oneVerdict_append hbefore] at hverdict
  have hs : ¬ succeeds "Failure [INSTALL_FAILED_INSUFFICIENT_STORAGE]" := by decide
  have hc : ¬ isCertificateOrDowngrade "Failure [INSTALL_FAILED_INSUFFICIENT_STORAGE]" := by decide
  have hanswer : answer message o = .ok "Failure [INSTALL_FAILED_INSUFFICIENT_STORAGE]" := by
    simp [answer, lastAnswer, o, hs, hc]
  rw [hanswer] at hverdict
  exact not_oneVerdict_conclude hs hc _ hverdict

end Install

end DeviceHub
