import Nuntium.Telepathy.Service

/-!
# The inbound path of the mediator

`handlePushAgentNotification` and `handleMNotificationInd` of
`cmd/nuntium/mediator.go`, with the helpers they call: the report of a failed
download `handleMessageDownloadError`, the forward to the telepathy service
`getAndHandleMRetrieveConf`, and the acknowledgement `handleMNotifyRespInd`
and `sendMNotifyRespInd`.

A handler runs whole: it holds `contextLock` throughout. Its external steps
(context activation, download, each storage write, decoding, each send on the
bus, the M-NotifyResp.ind file and its upload) take their outcomes from an
`InboundOutcome`, so every combination of failures is one value of it.

A local test notification (`IsDebug`) takes the debug side door: the context
activation and the proxy are skipped and their failures forced by the markers
it carries (`debugMMSContextError`), as is the failure of the acknowledgement,
whose upload is skipped; each forced failure persists the popped notification
with `UpdateMNotificationInd`. `deferredDownload` is false, as nothing in the
sources sets it. The preferred context `SetPreferredContext` records is not
modelled: nothing modelled reads it. `GetProxy` never returns an error, so
`ErrorGetProxy` is reached only when a local test forces it.
-/

namespace Nuntium.Mediator

open Storage Telepathy

/-! ### Errors -/

/-- The error codes (spec §6; the Go constants live in a file not among the
sources). -/
def ErrorActivateContext : String := "x-ubports-nuntium-mms-error-activate-context"
def ErrorGetProxy : String := "x-ubports-nuntium-mms-error-get-proxy"
def ErrorDownloadContent : String := "x-ubports-nuntium-mms-error-download-content"
def ErrorStorage : String := "x-ubports-nuntium-mms-error-storage"
def ErrorForward : String := "x-ubports-nuntium-mms-error-forward"

/-- `standartizedError{err, code}`: it has a `Code` and no `AllowRedownload`. -/
def standartizedError (code : String) : DownloadError := ⟨some code, none⟩

/-- `downloadError{standartizedError{err, code}}`: it also answers
`AllowRedownload`, true except for a storage failure (spec §7). -/
def downloadError (code : String) : DownloadError := ⟨some code, some (code != ErrorStorage)⟩

/-- A nil dereference, which crashes the process: the method called on the nil
`telepathyService`. -/
inductive Panic where
  | nilTelepathyService (method : String)
  deriving DecidableEq, Repr

/-! ### Outcomes of the external steps -/

/-- `handleMessageDownloadError`: its `storage.Destroy` of the new message (at
most one of its three call sites runs), `IncomingMessageFailAdded`,
`SetTelepathyErrorNotified` and the `MessageRemoved` of the superseded
message. -/
structure DownloadErrorOutcome where
  destroy : Bool
  failAdded : FailAddedOutcome
  setNotified : Bool
  removed : RemoveOutcome
  deriving DecidableEq, Repr

/-- `getAndHandleMRetrieveConf`: the M-Retrieve.conf read from the downloaded
file, if it decodes; the send of `IncomingMessageAdded`; the `MessageRemoved`
of a superseded error object; the `UpdateMNotificationInd` of a forced debug
error. -/
structure ForwardOutcome where
  retrieveConf : Option MRetrieveConf
  messageAdded : Bool
  removed : RemoveOutcome
  updateNotification : Bool
  deriving DecidableEq, Repr

/-- `handleMNotifyRespInd` and `sendMNotifyRespInd`: creating, encoding,
syncing and closing the response file; the context's message center; the
upload. -/
structure RespondOutcome where
  createResponseFile : Bool
  encode : Bool
  sync : Bool
  close : Bool
  messageCenter : Bool
  upload : Bool
  deriving DecidableEq, Repr

/-- `handleMNotificationInd`: context activation, the downloaded file (or a
failed download), the storage writes, the forward, the acknowledgement, the
report of a failure, and the `UpdateMNotificationInd` of a forced debug error. -/
structure InboundOutcome where
  activateContext : Bool
  download : Option String
  updateDownloaded : Bool
  forward : ForwardOutcome
  updateReceived : Bool
  respond : RespondOutcome
  updateResponded : Bool
  downloadError : DownloadErrorOutcome
  updateNotification : Bool
  deriving DecidableEq, Repr

/-! ### The handlers -/

/-- `storage.Destroy` of a message whose failure the mediator only logs. -/
def destroyMessage (ok : Bool) (uuid : String) (w : World) : World :=
  { w with store := (destroy ok w.store uuid).getD w.store }

/-- `handlePushAgentNotification` for a push that decodes to `n`: `Received`
is the time of the push, or the first reception time of the message that
stands for `n`'s transaction; `n` is stored (the result of `storage.Create` is
ignored) and sent on `NewMNotificationInd`. -/
def handlePushAgentNotification (created : Bool) (n : MNotificationInd) (modemId : String)
    (w : World) : World :=
  let n := { n with received := w.clock }
  let n := if n.transactionId ≠ "" then
      match (w.unrespondedTransactions n.transactionId).bind (Storage.getMMSState w.store) with
      | some st => match st.mNotificationInd with
        | some first => { n with received := first.received }
        | none => n
      | none => n
    else n
  { w with store := (create created w.store modemId n).getD w.store, pending := w.pending ++ [n] }

/-- The registry update that opens `handleMNotificationInd`: `n` stands for
its transaction unless a stored message already does. -/
def registerTransaction (n : MNotificationInd) (w : World) : World :=
  if n.transactionId ≠ "" then
    match w.unrespondedTransactions n.transactionId with
    | none => w.setUnresponded n.transactionId (some n.uuid)
    | some uuid =>
        if (Storage.getMMSState w.store uuid).isNone then
          w.setUnresponded n.transactionId (some n.uuid)
        else w
  else w

/-- The message another notification of `n`'s transaction stands for, when
`n` is neither the first of its transaction nor a redownload. -/
def supersedes (w : World) (n : MNotificationInd) : Option String :=
  match w.unrespondedTransactions n.transactionId with
  | some u => if n.transactionId ≠ "" ∧ n.redownloadOfUUID = "" ∧ u ≠ n.uuid then some u else none
  | none => none

/-- `handleMessageDownloadError`: report the failed download of `n` once per
transaction. When the message that stands for the transaction was already
reported (an error object, or a RECEIVED or RESPONDED message), `n` is
dropped; otherwise an error object is put on the bus for `n`, which then
replaces the earlier message. -/
def handleMessageDownloadError (oc : DownloadErrorOutcome) (n : MNotificationInd)
    (err : DownloadError) (w : World) : World :=
  let prior := w.unrespondedTransactions n.transactionId
  let duplicate := (supersedes w n).isSome
  let communicated : Bool := match (supersedes w n).bind (Storage.getMMSState w.store) with
    | some st => st.telepathyErrorNotified || st.state == .received || st.state == .responded
    | none => false
  if communicated then destroyMessage oc.destroy n.uuid w
  else
    match incomingMessageFailAdded oc.failAdded n err w with
    | (w, .error _) => if duplicate then destroyMessage oc.destroy n.uuid w else w
    | (w, .ok ()) =>
        match setTelepathyErrorNotified oc.setNotified w.store n.uuid with
        | none => if duplicate then destroyMessage oc.destroy n.uuid w else w
        | some store =>
            let w := { w with store }
            match prior with
            | some u =>
                if n.transactionId ≠ "" ∧ u ≠ n.uuid then
                  let (w, removed) := messageRemoved oc.removed (genMessagePath w.telepathyService u) w
                  let w := match removed with
                    | .ok () => destroyMessage oc.destroy n.uuid w
                    | .error _ => w
                  w.setUnresponded n.transactionId (some n.uuid)
                else w
            | none => w

/-- `getMRetrieveConf`: the M-Retrieve.conf decoded from the record's content,
when the record has content and it decodes. -/
def getMRetrieveConf (retrieveConf : Option MRetrieveConf) (store : Store) (uuid : String) :
    Option MRetrieveConf :=
  match getMMS store uuid with
  | some _ => retrieveConf.map fun m => { m with uuid }
  | none => none

/-- `getAndHandleMRetrieveConf`: forward the downloaded message of `n` to the
telepathy service. When an error object of another message stands for the
transaction, `n` is marked as its redownload (the notification is changed in
place, as the Go pointer is) and that object is removed once `n`'s message is
on the bus. Returns the possibly changed `n` and the message when forwarded. -/
def getAndHandleMRetrieveConf (oc : ForwardOutcome) (n : MNotificationInd) (w : World) :
    World × MNotificationInd × Option MRetrieveConf :=
  match getMRetrieveConf oc.retrieveConf w.store n.uuid with
  | none => (w, n, none)
  | some m =>
      let replaced : Bool := match supersedes w n with
        | some u => ((Storage.getMMSState w.store u).map (·.telepathyErrorNotified)).getD false
        | none => false
      let prior := (supersedes w n).getD ""
      let n := if replaced then { n with redownloadOfUUID := prior } else n
      match incomingMessageAdded oc.updateNotification oc.messageAdded m n w with
      | (w, n, .error _) => (w, n, none)
      | (w, n, .ok ()) =>
          let w := if replaced then
            (messageRemoved oc.removed (genMessagePath w.telepathyService prior) w).1 else w
          (w, n, some m)

/-- `handleMNotifyRespInd`: write the encoded M-NotifyResp.ind of `uuid` to a
response file; true when the file was synced and closed. A file whose
encoding, sync or close fails is left on disk. -/
def handleMNotifyRespInd (oc : RespondOutcome) (uuid : String) (w : World) : World × Bool :=
  if oc.createResponseFile then
    let w := { w with scratch := w.scratch.insert (.notifyResp uuid) }
    (w, oc.encode && oc.sync && oc.close)
  else (w, false)

/-- `sendMNotifyRespInd`: upload the response file to the message center and
remove it on every exit path. -/
def sendMNotifyRespInd (oc : RespondOutcome) (uuid : String) (w : World) : World × Bool :=
  let uploaded := oc.messageCenter && oc.upload
  let w := if uploaded then { w with uploads := uuid :: w.uploads } else w
  ({ w with scratch := w.scratch.filter (· != .notifyResp uuid) }, uploaded)

/-- `debugMMSContextError`: the failure of the context activation or of the
proxy that a local test forces, with the notification left behind. -/
def debugMMSContextError (n : MNotificationInd) : Option (MNotificationInd × DownloadError) :=
  match n.popDebugError .activateContext with
  | some n => some (n, downloadError ErrorActivateContext)
  | none =>
      match n.popDebugError .getProxy with
      | some n => some (n, downloadError ErrorGetProxy)
      | none => none

/-- The acknowledgement of `m`'s download in `handleMNotificationInd`: upload
the M-NotifyResp.ind, or for a local test skip it and fail where its
`RespondHandle` marker asks, persisting the popped notification. True when the
message center counts as notified. -/
def notifyMessageCenter (oc : InboundOutcome) (n : MNotificationInd) (m : MRetrieveConf)
    (w : World) : World × Bool :=
  if !n.isDebug then
    match handleMNotifyRespInd oc.respond m.uuid w with
    | (w, false) => (w, false)
    | (w, true) => sendMNotifyRespInd oc.respond m.uuid w
  else
    match n.popDebugError .respondHandle with
    | some n => (w.updateNotification oc.updateNotification n, false)
    | none => (w, true)

/-- The steps of `handleMNotificationInd` after the forward of `m`: mark
RECEIVED, acknowledge the download, and mark RESPONDED. -/
def acknowledgeDownload (oc : InboundOutcome) (n : MNotificationInd) (m : MRetrieveConf)
    (w : World) : World :=
  match updateReceived oc.updateReceived w.store m.uuid with
  | none => w
  | some store =>
      match notifyMessageCenter oc n m { w with store } with
      | (w, false) => w
      | (w, true) =>
          let w := w.setUnresponded n.transactionId none
          { w with store := (updateResponded oc.updateResponded w.store m.uuid).getD w.store }

/-- The steps of `handleMNotificationInd` from the download on, which a local
test shares with a notification of the message center: download, mark
DOWNLOADED, forward, and acknowledge. -/
def handleContent (oc : InboundOutcome) (n : MNotificationInd) (w : World) : World :=
  match oc.download with
  | none => handleMessageDownloadError oc.downloadError n (downloadError ErrorDownloadContent) w
  | some filePath =>
      match updateDownloaded oc.updateDownloaded w.store n.uuid filePath with
      | none => handleMessageDownloadError oc.downloadError n (downloadError ErrorStorage) w
      | some store =>
          match getAndHandleMRetrieveConf oc.forward n { w with store } with
          | (w, n, none) =>
              handleMessageDownloadError oc.downloadError n (standartizedError ErrorForward) w
          | (w, n, some m) => acknowledgeDownload oc n m w

/-- `handleMNotificationInd`. For a notification of the message center,
activating the context first reads the preferred context of the telepathy
service, which panics while the service is nil; a local test skips the
activation and fails where its markers ask. -/
def handleMNotificationInd (oc : InboundOutcome) (n : MNotificationInd) (w : World) :
    Except Panic World :=
  let w := registerTransaction n w
  if n.isDebug then .ok <|
    match debugMMSContextError n with
    | some (n, err) =>
        handleMessageDownloadError oc.downloadError n err (w.updateNotification oc.updateNotification n)
    | none => handleContent oc n w
  else
    match w.telepathyService with
    | none => .error (.nilTelepathyService "GetPreferredContext")
    | some _ => .ok <|
      if !oc.activateContext then
        handleMessageDownloadError oc.downloadError n (downloadError ErrorActivateContext) w
      else handleContent oc n w

/-! ### Spec lemmas -/

/-- The registry update either keeps the world or points the transaction at
`n`. -/
theorem registerTransaction_eq (n : MNotificationInd) (w : World) :
    registerTransaction n w = w ∨
      registerTransaction n w = w.setUnresponded n.transactionId (some n.uuid) := by
  unfold registerTransaction
  split_ifs <;> (try split) <;> (try split_ifs) <;> simp

@[simp] theorem registerTransaction_store (n : MNotificationInd) (w : World) :
    (registerTransaction n w).store = w.store := by
  rcases registerTransaction_eq n w with h | h <;> simp [h]

@[simp] theorem registerTransaction_service (n : MNotificationInd) (w : World) :
    (registerTransaction n w).telepathyService = w.telepathyService := by
  rcases registerTransaction_eq n w with h | h <;> simp [h]

@[simp] theorem registerTransaction_handlers (n : MNotificationInd) (w : World) :
    (registerTransaction n w).handlers = w.handlers := by
  rcases registerTransaction_eq n w with h | h <;> simp [h]

section Acknowledge

variable (oc : RespondOutcome) (uuid : String) (w : World)

@[simp] theorem handleMNotifyRespInd_store : (handleMNotifyRespInd oc uuid w).1.store = w.store := by
  unfold handleMNotifyRespInd; split <;> rfl
@[simp] theorem handleMNotifyRespInd_unresponded :
    (handleMNotifyRespInd oc uuid w).1.unrespondedTransactions = w.unrespondedTransactions := by
  unfold handleMNotifyRespInd; split <;> rfl
@[simp] theorem handleMNotifyRespInd_service :
    (handleMNotifyRespInd oc uuid w).1.telepathyService = w.telepathyService := by
  unfold handleMNotifyRespInd; split <;> rfl
@[simp] theorem handleMNotifyRespInd_handlers :
    (handleMNotifyRespInd oc uuid w).1.handlers = w.handlers := by
  unfold handleMNotifyRespInd; split <;> rfl
@[simp] theorem handleMNotifyRespInd_signals : (handleMNotifyRespInd oc uuid w).1.signals = w.signals := by
  unfold handleMNotifyRespInd; split <;> rfl

@[simp] theorem sendMNotifyRespInd_store : (sendMNotifyRespInd oc uuid w).1.store = w.store := by
  unfold sendMNotifyRespInd; dsimp only; split <;> rfl
@[simp] theorem sendMNotifyRespInd_unresponded :
    (sendMNotifyRespInd oc uuid w).1.unrespondedTransactions = w.unrespondedTransactions := by
  unfold sendMNotifyRespInd; dsimp only; split <;> rfl
@[simp] theorem sendMNotifyRespInd_service :
    (sendMNotifyRespInd oc uuid w).1.telepathyService = w.telepathyService := by
  unfold sendMNotifyRespInd; dsimp only; split <;> rfl
@[simp] theorem sendMNotifyRespInd_handlers :
    (sendMNotifyRespInd oc uuid w).1.handlers = w.handlers := by
  unfold sendMNotifyRespInd; dsimp only; split <;> rfl
@[simp] theorem sendMNotifyRespInd_signals : (sendMNotifyRespInd oc uuid w).1.signals = w.signals := by
  unfold sendMNotifyRespInd; dsimp only; split <;> rfl

section Notify

variable (oc : InboundOutcome) (n : MNotificationInd) (m : MRetrieveConf) (w : World)

/-- What the acknowledgement does to the world: the steps of the upload, the
persisting of the notification a popped marker leaves, or nothing. -/
theorem notifyMessageCenter_cases :
    (notifyMessageCenter oc n m w).1 = (handleMNotifyRespInd oc.respond m.uuid w).1 ∨
      (notifyMessageCenter oc n m w).1 =
        (sendMNotifyRespInd oc.respond m.uuid (handleMNotifyRespInd oc.respond m.uuid w).1).1 ∨
      (∃ n', n.popDebugError .respondHandle = some n' ∧
        (notifyMessageCenter oc n m w).1 = w.updateNotification oc.updateNotification n') ∨
      (notifyMessageCenter oc n m w).1 = w := by
  unfold notifyMessageCenter
  split_ifs
  · rcases handleMNotifyRespInd oc.respond m.uuid w with ⟨w₁, _ | _⟩ <;> simp
  · rcases h : n.popDebugError .respondHandle with _ | n'
    exacts [.inr (.inr (.inr rfl)), .inr (.inr (.inl ⟨_, rfl, rfl⟩))]

@[simp] theorem notifyMessageCenter_handlers :
    (notifyMessageCenter oc n m w).1.handlers = w.handlers := by
  rcases notifyMessageCenter_cases oc n m w with h | h | ⟨_, -, h⟩ | h <;> simp [h]
@[simp] theorem notifyMessageCenter_service :
    (notifyMessageCenter oc n m w).1.telepathyService = w.telepathyService := by
  rcases notifyMessageCenter_cases oc n m w with h | h | ⟨_, -, h⟩ | h <;> simp [h]
@[simp] theorem notifyMessageCenter_unresponded :
    (notifyMessageCenter oc n m w).1.unrespondedTransactions = w.unrespondedTransactions := by
  rcases notifyMessageCenter_cases oc n m w with h | h | ⟨_, -, h⟩ | h <;> simp [h]
@[simp] theorem notifyMessageCenter_signals : (notifyMessageCenter oc n m w).1.signals = w.signals := by
  rcases notifyMessageCenter_cases oc n m w with h | h | ⟨_, -, h⟩ | h <;> simp [h]

/-- What follows the forward keeps every part of the world that the store,
the registry and the acknowledgement leave. -/
theorem acknowledgeDownload_frame {α : Type} (f : World → α) (hstore : ∀ (w : World) store, f { w with store } = f w)
    (hset : ∀ w T e, f (World.setUnresponded w T e) = f w)
    (hnotify : ∀ w, f (notifyMessageCenter oc n m w).1 = f w) : f (acknowledgeDownload oc n m w) = f w := by
  unfold acknowledgeDownload
  split
  · rfl
  rename_i store _
  have h := hnotify { w with store }
  rcases hr : notifyMessageCenter oc n m { w with store } with ⟨w₁, _ | _⟩ <;> rw [hr] at h
  · exact h.trans (hstore w store)
  · exact (hstore _ _).trans ((hset _ _ _).trans (h.trans (hstore w store)))

/-- What follows the forward touches no object and no service. -/
@[simp] theorem acknowledgeDownload_handlers : (acknowledgeDownload oc n m w).handlers = w.handlers :=
  acknowledgeDownload_frame oc n m w World.handlers (fun _ _ => rfl) (fun _ _ _ => rfl)
    (notifyMessageCenter_handlers oc n m)

@[simp] theorem acknowledgeDownload_service :
    (acknowledgeDownload oc n m w).telepathyService = w.telepathyService :=
  acknowledgeDownload_frame oc n m w World.telepathyService (fun _ _ => rfl) (fun _ _ _ => rfl)
    (notifyMessageCenter_service oc n m)

@[simp] theorem acknowledgeDownload_signals : (acknowledgeDownload oc n m w).signals = w.signals :=
  acknowledgeDownload_frame oc n m w World.signals (fun _ _ => rfl) (fun _ _ _ => rfl)
    (notifyMessageCenter_signals oc n m)

end Notify

end Acknowledge

/-- A transaction whose registry entry names a stored message keeps it. -/
theorem registerTransaction_of_live {n : MNotificationInd} {w : World} {u : String}
    (hreg : w.unrespondedTransactions n.transactionId = some u) (hu : (w.store.records u).isSome) :
    registerTransaction n w = w := by
  unfold registerTransaction
  split_ifs
  · simp [hreg, Storage.getMMSState, Option.isSome_iff_ne_none.mp hu]
  · rfl

/-- A transaction whose registry entry names no stored message is pointed at
`n`, whatever `n`'s own record holds. -/
theorem registerTransaction_of_free {n : MNotificationInd} {w : World}
    (htx : n.transactionId ≠ "")
    (hfree : ∀ u, w.unrespondedTransactions n.transactionId = some u → w.store.records u = none) :
    registerTransaction n w = w.setUnresponded n.transactionId (some n.uuid) := by
  unfold registerTransaction
  rw [if_pos htx]
  split
  · rfl
  · rename_i u hu
    simp [Storage.getMMSState, hfree u hu]

/-- What a forced context error leaves behind is `n` with one marker popped. -/
theorem debugMMSContextError_popped {n n' : MNotificationInd} {err : DownloadError}
    (h : debugMMSContextError n = some (n', err)) : ∃ e, n.popDebugError e = some n' := by
  unfold debugMMSContextError at h
  split at h
  · cases h; exact ⟨_, ‹_›⟩
  · split at h
    · cases h; exact ⟨_, ‹_›⟩
    · cases h

theorem getMRetrieveConf_some {rc : Option MRetrieveConf} {store : Store} {uuid : String}
    {m : MRetrieveConf} (h : getMRetrieveConf rc store uuid = some m) :
    (getMMS store uuid).isSome ∧ m.uuid = uuid := by
  unfold getMRetrieveConf at h
  split at h
  · obtain ⟨m₀, -, rfl⟩ := Option.map_eq_some'.mp h
    simp_all
  · cases h

theorem supersedes_eq_some {w : World} {n : MNotificationInd} {u : String} :
    supersedes w n = some u ↔ w.unrespondedTransactions n.transactionId = some u ∧
      n.transactionId ≠ "" ∧ n.redownloadOfUUID = "" ∧ u ≠ n.uuid := by
  unfold supersedes
  rcases w.unrespondedTransactions n.transactionId with _ | u'
  · simp
  · dsimp only
    split_ifs with hc
    · simp only [Option.some.injEq]
      exact ⟨fun h => ⟨h, h ▸ hc⟩, fun h => h.1⟩
    · simp only [reduceCtorEq, false_iff, not_and]
      rintro h₁ h₂ h₃ h₄
      cases h₁
      exact hc ⟨h₂, h₃, h₄⟩

/-- The report of a failed download changes the registry at most by pointing
`n`'s transaction at `n`. -/
theorem handleMessageDownloadError_unresponded (oc : DownloadErrorOutcome) (n : MNotificationInd)
    (err : DownloadError) (w : World) :
    (handleMessageDownloadError oc n err w).unrespondedTransactions = w.unrespondedTransactions ∨
      (handleMessageDownloadError oc n err w).unrespondedTransactions =
        Function.update w.unrespondedTransactions n.transactionId (some n.uuid) := by
  have hfa := incomingMessageFailAdded_unresponded oc.failAdded n err w
  unfold handleMessageDownloadError
  dsimp only
  split_ifs <;> (repeat' split) <;> simp_all [destroyMessage]

/-- A failed download of `n` that supersedes the message `u` standing for its
transaction, when every step succeeds: `n`'s error object goes on the bus,
`u`'s object and record go, and the registry names `n`. The record of `n`
goes too: the `Destroy` after `MessageRemoved` names `n`'s UUID, not `u`'s. -/
theorem handleMessageDownloadError_supersedes {oc : DownloadErrorOutcome} {n : MNotificationInd}
    {err : DownloadError} {w : World} {svc : MMSService} {u : String} {st : MMSState}
    (hsvc : w.telepathyService = some svc) (hsup : supersedes w n = some u)
    (hst : w.store.records u = some st)
    (hopen : st.telepathyErrorNotified = false ∧ st.state ≠ .received ∧ st.state ≠ .responded)
    (hn : (w.store.records n.uuid).isSome) (hu : (w.handlers (genMessagePath (some svc) u)).isSome)
    (hseg : IsSegment u) (hdebug : n.hasDebugError .telepathyErrorNotify = false)
    (hok : oc.failAdded.sent = true ∧ oc.setNotified = true ∧ oc.removed = ⟨true, true⟩ ∧
      oc.destroy = true) :
    let w' := handleMessageDownloadError oc n err w
    (w'.handlers (genMessagePath (some svc) n.uuid)).isSome ∧
      w'.handlers (genMessagePath (some svc) u) = none ∧
      w'.store.records n.uuid = none ∧ w'.store.records u = none ∧
      w'.unrespondedTransactions n.transactionId = some n.uuid := by
  obtain ⟨hreg, htx, -, hne⟩ := supersedes_eq_some.mp hsup
  obtain ⟨hsent, hset, hrem, hdes⟩ := hok
  obtain ⟨stn, hstn⟩ := Option.isSome_iff_exists.mp hn
  -- the error object of `n` goes on the bus
  obtain ⟨w₁, hfa⟩ : ∃ w₁, incomingMessageFailAdded oc.failAdded n err w = (w₁, .ok ()) :=
    ⟨_, Prod.ext rfl ((incomingMessageFailAdded_ok _ _ hsvc hdebug).mpr hsent)⟩
  have h₁store : w₁.store = w.store := by
    simpa [hfa] using incomingMessageFailAdded_kept oc.failAdded err w hdebug
  have h₁reg : w₁.unrespondedTransactions = w.unrespondedTransactions := by
    simpa [hfa] using incomingMessageFailAdded_unresponded oc.failAdded n err w
  have h₁h := incomingMessageFailAdded_handlers oc.failAdded err hsvc hdebug
  rw [hfa] at h₁h
  obtain ⟨svc₁, hsvc₁, hid⟩ :
      ∃ svc₁, w₁.telepathyService = some svc₁ ∧ svc₁.identity = svc.identity := by
    have := incomingMessageFailAdded_service oc.failAdded n err w
    rw [hfa, hsvc] at this
    simpa using this
  have hp : genMessagePath w₁.telepathyService u = genMessagePath (some svc) u := by
    simp [hsvc₁, genMessagePath, hid]
  -- its record is flagged
  set store₂ := w.store.modify n.uuid (fun st => { st with telepathyErrorNotified := true })
    fun _ => rfl
  have hflag : setTelepathyErrorNotified oc.setNotified w₁.store n.uuid = some store₂ := by
    simp [setTelepathyErrorNotified, h₁store, hstn, hset, store₂]
  -- the superseded message is removed
  have hh : (svc₁.messageHandlers (genMessagePath (some svc) u)).isSome := by
    have := h₁h (genMessagePath (some svc) u)
    simp only [World.handlers, hsvc₁, Option.some_bind] at this
    exact this ▸ .inr hu
  have hrm := @messageRemoved_succeeds { w₁ with store := store₂ } _ _ _ hsvc₁ hh
    (getUUIDFromObjectPath_genMessagePath _ hseg)
  have hpn : genMessagePath (some svc) n.uuid ≠ genMessagePath (some svc) u :=
    fun h => hne (genMessagePath_inj _ h).symm
  have hnh : (w₁.handlers (genMessagePath (some svc) n.uuid)).isSome := by
    simpa using h₁h (genMessagePath (some svc) n.uuid)
  intro w'
  simp only [w', handleMessageDownloadError]
  rw [if_neg (by simp [hsup, Storage.getMMSState, hst, hopen]), hfa]
  simp only [hflag, hreg, hrem]
  rw [if_pos ⟨htx, hne⟩, hp, hrm]
  simp only [destroyMessage, destroy, hdes]
  refine ⟨?_, ?_, ?_, ?_, ?_⟩
  · simpa [World.handlers, World.setHandler, hsvc₁, hpn, Function.update_apply] using hnh
  · simp [World.handlers, World.setHandler, hsvc₁]
  · simp
  · simp [store₂, hne]
  · simp

/-- The forward registers an object for `n`'s message and removes no object,
unless an error object of another message of the transaction stands for it. -/
theorem getAndHandleMRetrieveConf_handlers {oc : ForwardOutcome} {n : MNotificationInd}
    {w : World} {svc : MMSService} {m : MRetrieveConf} (hsvc : w.telepathyService = some svc)
    (hm : getMRetrieveConf oc.retrieveConf w.store n.uuid = some m)
    (hprior : ∀ u st, supersedes w n = some u → w.store.records u = some st →
      st.telepathyErrorNotified = false) (hdebug : n.hasDebugError .receiveHandle = false)
    (q : String) :
    (getAndHandleMRetrieveConf oc n w).1.handlers q =
      if q = genMessagePath (some svc) n.uuid then some ⟨false, .incoming n.transactionId⟩
      else w.handlers q := by
  obtain ⟨hcontent, hmu⟩ := getMRetrieveConf_some hm
  have hrep : (match supersedes w n with
      | some u => ((Storage.getMMSState w.store u).map (·.telepathyErrorNotified)).getD false
      | none => false) = false := by
    rcases hs : supersedes w n with _ | u
    · rfl
    · rcases hst : w.store.records u with _ | st
      · simp [Storage.getMMSState, hst]
      · simp [Storage.getMMSState, hst, hprior u st hs hst]
  have hadd := incomingMessageAdded_handlers oc.updateNotification oc.messageAdded hsvc hdebug
    (hmu ▸ hcontent) q
  rw [hmu] at hadd
  unfold getAndHandleMRetrieveConf
  rw [hm]
  simp only [hrep, Bool.false_eq_true, ite_false]
  split <;> simp_all

/-- The forward hands the message on exactly when `IncomingMessageAdded` is
sent. -/
theorem getAndHandleMRetrieveConf_forwarded {oc : ForwardOutcome} {n : MNotificationInd}
    {w : World} {svc : MMSService} {m : MRetrieveConf} (hsvc : w.telepathyService = some svc)
    (hm : getMRetrieveConf oc.retrieveConf w.store n.uuid = some m)
    (hdebug : n.hasDebugError .receiveHandle = false) :
    (getAndHandleMRetrieveConf oc n w).2.2 = some m ↔ oc.messageAdded = true := by
  obtain ⟨hcontent, hmu⟩ := getMRetrieveConf_some hm
  unfold getAndHandleMRetrieveConf
  rw [hm]
  dsimp only
  generalize hn' : (if _ = true then _ else n : MNotificationInd) = n'
  have hd' : n'.hasDebugError .receiveHandle = false := by rw [← hn']; split <;> exact hdebug
  have hok := incomingMessageAdded_ok oc.updateNotification oc.messageAdded hsvc hd' (hmu ▸ hcontent)
  split <;> rename_i heq <;> simp_all

/-- The forward leaves the registry as it is, even when it removes the error
object of the message the registry names. -/
theorem getAndHandleMRetrieveConf_unresponded (oc : ForwardOutcome) (n : MNotificationInd)
    (w : World) :
    (getAndHandleMRetrieveConf oc n w).1.unrespondedTransactions = w.unrespondedTransactions := by
  unfold getAndHandleMRetrieveConf
  split
  · rfl
  dsimp only
  generalize hr : incomingMessageAdded _ _ _ _ w = r
  have h₁ : r.1.unrespondedTransactions = w.unrespondedTransactions := by rw [← hr]; simp
  rcases r with ⟨w₁, n₁, _ | _⟩
  · exact h₁
  · dsimp only at h₁ ⊢
    split <;> simp [h₁]

/-- A push is queued with the reception time of the message the registry names
for its transaction, when that message is stored with its notification, and
with the time of the push otherwise. -/
theorem handlePushAgentNotification_pending (created : Bool) (n : MNotificationInd)
    (modemId : String) (w : World) :
    (handlePushAgentNotification created n modemId w).pending = w.pending ++
      [{ n with received := if n.transactionId ≠ "" then
          ((((w.unrespondedTransactions n.transactionId).bind (Storage.getMMSState w.store)).bind
            (·.mNotificationInd)).map (·.received)).getD w.clock
        else w.clock }] := by
  unfold handlePushAgentNotification
  by_cases htx : n.transactionId = ""
  · simp [htx]
  · simp only [htx, ne_eq, not_false_eq_true, ite_true]
    rcases (w.unrespondedTransactions n.transactionId).bind (Storage.getMMSState w.store) with _ | st
    · rfl
    · rcases h : st.mNotificationInd with _ | first <;> simp [h]

end Nuntium.Mediator
