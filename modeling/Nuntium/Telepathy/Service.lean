import Nuntium.World

/-!
# The telepathy service

The methods of `telepathy.MMSService` that serve inbound messages, the two
that serve an outbound one (`MessageStatusChanged`, `MessageDestroy`), and one
round of each of the watchers that serve a user's Delete and Redownload on a
message object.

Every method takes the outcomes of its external steps (a storage write, a
send on the bus) as arguments and returns, next to the new world, the error it
returns in Go (`.ok ()` for nil). The nil-receiver guards are kept: a method
with one answers `nilMMSService` while the service is nil. The debug side door
is kept too: `IncomingMessageFailAdded` and `IncomingMessageAdded` pop their
marker from a local test notification, persist it and fail.

* `messageRemoved_ok` — `MessageRemoved` succeeds exactly by closing the
  object, destroying the record and then emitting the signal, so at the
  emission the record is gone and no object is left at the path.
* `incomingMessageFailAdded_handlers`, `incomingMessageAdded_handlers` —
  both register the object before they send `MessageAdded`; a failed send
  leaves it registered.
* `genMessagePath_round_trip` — a UUID that is one path element is read back
  from its message path, so the service and its watchers act on that UUID's
  record.
* `parseRecipients_intercalate` — `Recipients` is the `To` list with one
  `PLMN` suffix dropped from each address, when the list is not empty;
  `recipients_of_no_to` — an empty `To` list gives the recipient `""`.
* `initializationMessageAdded_no_recipients` — a rescued object is announced
  without `Recipients`.
-/

namespace Nuntium.Telepathy

open Storage

/-- The errors the service methods return. -/
inductive ServiceError where
  /-- `ErrorNilMMSService`, or `"Nil MMSService"`. -/
  | nilMMSService
  /-- `ErrorNilMNotificationInd`. -/
  | nilMNotificationInd
  /-- The error `PopDebugError` forces for the marker it popped. -/
  | debug (e : DebugError)
  /-- `"message not handled"`. -/
  | notHandled
  /-- `"message is already handled"`. -/
  | alreadyHandled
  /-- The error of `getUUIDFromObjectPath`. -/
  | objectPath (text : String)
  /-- A storage read or write failed. -/
  | storage
  /-- Sending on the bus failed. -/
  | bus
  /-- `"no message interface handler for object path %s"`. -/
  | noMessageInterface (objectPath : String)
  deriving DecidableEq, Repr

/-- What `IncomingMessageFailAdded` reads of the error it is given: the
results of its `Code` and `AllowRedownload` methods, when it has them. -/
structure DownloadError where
  code : Option String
  allowRedownload : Option Bool
  deriving DecidableEq, Repr

/-! ### Payloads -/

/-- `strings.Split(s, sep)` for a one-character separator, on characters. -/
def splitOn (sep : Char) : List Char → List (List Char)
  | [] => [[]]
  | c :: cs =>
      match splitOn sep cs with
      | [] => [[c]]
      | w :: ws => if c = sep then [] :: w :: ws else (c :: w) :: ws

/-- `parseRecipients`: split at commas and drop one trailing `PLMN` from each
recipient. -/
def parseRecipients (joined : String) : List String :=
  (splitOn ',' joined.data).map fun r => trimSuffix ⟨r⟩ PLMN

/-- `MMSService.parseMessage`: the path and properties of a retrieved message.
It fails when the message has data parts and its content cannot be found. -/
def parseMessage (service : Option MMSService) (store : Store) (m : MRetrieveConf) :
    Except ServiceError (String × Properties) :=
  let params : Properties :=
    [("Status", .str "received"), ("Date", .nat m.date),
      ("Sender", .str (trimSuffix m.fromAddress PLMN))]
  let params := if m.subject ≠ "" then params.set "Subject" (.str m.subject) else params
  let params := params.set "Recipients" (.strs (parseRecipients (String.intercalate "," m.toAddress)))
  let params := match m.smil with
    | some smil => params.set "Smil" (.str smil)
    | none => params
  let attachments : Except ServiceError (List Attachment) :=
    match m.dataParts with
    | [] => .ok []
    | parts =>
        match getMMS store m.uuid with
        | some filePath => .ok (parts.map fun d => ⟨d.contentId, d.mediaType, filePath, d.offset, d.length⟩)
        | none => .error .storage
  match attachments with
  | .ok attachments =>
      .ok (genMessagePath service m.uuid, params.set "Attachments" (.attachments attachments))
  | .error e => .error e

/-! ### Signals and message objects -/

/-- `MMSService.MessageAdded`: send the signal; `sent` is whether the send
succeeds. -/
def messageAdded (sent : Bool) (path : String) (props : Properties) (w : World) :
    World × Except ServiceError Unit :=
  if sent then (w.emit (.messageAdded path props), .ok ()) else (w, .error .bus)

/-- `MMSService.SingnalMessageRemoved`. -/
def singnalMessageRemoved (sent : Bool) (objectPath : String) (w : World) :
    World × Except ServiceError Unit :=
  match w.telepathyService with
  | none => (w, .error .nilMMSService)
  | some _ => if sent then (w.emit (.messageRemoved objectPath), .ok ()) else (w, .error .bus)

/-- The outcomes of the external steps of `MessageRemoved`. -/
structure RemoveOutcome where
  destroy : Bool
  signal : Bool
  deriving DecidableEq, Repr

/-- `MMSService.MessageRemoved`: close the object, destroy the record, emit
`MessageRemoved`, in this order; stop at the first failure. -/
def messageRemoved (oc : RemoveOutcome) (objectPath : String) (w : World) :
    World × Except ServiceError Unit :=
  match w.telepathyService with
  | none => (w, .error .nilMMSService)
  | some svc =>
      match svc.messageHandlers objectPath with
      | none => (w, .error .notHandled)
      | some _ =>
          let w := w.setHandler objectPath none
          match getUUIDFromObjectPath objectPath with
          | .error e => (w, .error (.objectPath e))
          | .ok uuid =>
              match destroy oc.destroy w.store uuid with
              | none => (w, .error .storage)
              | some store => singnalMessageRemoved oc.signal objectPath { w with store }

/-- The outcomes of the external steps of `IncomingMessageFailAdded`:
`MobileDataEnabled` (`none` when it cannot be read), the send, and the
`UpdateMNotificationInd` of a forced debug error. -/
structure FailAddedOutcome where
  mobileData : Option Bool
  sent : Bool
  updateNotification : Bool
  deriving DecidableEq, Repr

/-- `MMSService.IncomingMessageFailAdded`: put an error object for `n` on the
bus, with the redownload channel when the error allows it and `n` has not
expired, and announce it. A local test carrying the `TelepathyErrorNotify`
marker fails instead, once the popped notification is persisted. -/
def incomingMessageFailAdded (oc : FailAddedOutcome) (n : MNotificationInd) (err : DownloadError)
    (w : World) : World × Except ServiceError Unit :=
  match w.telepathyService with
  | none => (w, .error .nilMMSService)
  | some svc =>
      match n.popDebugError .telepathyErrorNotify with
      | some n => (w.updateNotification oc.updateNotification n, .error (.debug .telepathyErrorNotify))
      | none =>
          let errorCode := err.code.getD "x-ubports-nuntium-mms-error-unknown"
          let allowRedownload := err.allowRedownload.getD false && !n.expired w.clock
          let params : Properties :=
            [("Status", .str "received"), ("Date", .nat w.clock),
              ("Sender", .str (trimSuffix n.fromAddress PLMN)),
              ("Error", .error ⟨errorCode, n.expire, n.size, oc.mobileData⟩),
              ("AllowRedownload", .bool allowRedownload)]
          let params := if n.redownloadOfUUID ≠ "" then
            params.set "DeleteEvent" (.str (genMessagePath (some svc) n.redownloadOfUUID)) else params
          let params := if n.received ≠ 0 then params.set "Received" (.nat n.received) else params
          let path := genMessagePath (some svc) n.uuid
          messageAdded oc.sent path params
            (w.setHandler path (some ⟨allowRedownload, .incoming n.transactionId⟩))

/-- `MMSService.IncomingMessageAdded`: put the retrieved message on the bus and
announce it. A local test carrying the `ReceiveHandle` marker fails instead,
once the popped notification is persisted. The Go method pops the marker
through its caller's pointer, so the notification it leaves is returned. -/
def incomingMessageAdded (updateNotification sent : Bool) (m : MRetrieveConf) (n : MNotificationInd)
    (w : World) : World × MNotificationInd × Except ServiceError Unit :=
  match w.telepathyService with
  | none => (w, n, .error .nilMMSService)
  | some svc =>
      match n.popDebugError .receiveHandle with
      | some n => (w.updateNotification updateNotification n, n, .error (.debug .receiveHandle))
      | none =>
          match parseMessage (some svc) w.store m with
          | .error e => (w, n, .error e)
          | .ok (path, props) =>
              let props := if n.redownloadOfUUID ≠ "" then
                props.set "DeleteEvent" (.str (genMessagePath (some svc) n.redownloadOfUUID)) else props
              let props := if n.received ≠ 0 then props.set "Received" (.nat n.received) else props
              let added := messageAdded sent path props
                (w.setHandler path (some ⟨false, .incoming n.transactionId⟩))
              (added.1, n, added.2)

/-- `MMSService.InitializationMessageAdded`: on startup, put a rescued,
silent object for `n` on the bus, unless one is there already. -/
def initializationMessageAdded (sent : Bool) (m : Option MRetrieveConf)
    (n : Option MNotificationInd) (w : World) : World × Except ServiceError Unit :=
  match w.telepathyService with
  | none => (w, .error .nilMMSService)
  | some svc =>
      match n with
      | none => (w, .error .nilMNotificationInd)
      | some n =>
          let path := genMessagePath (some svc) n.uuid
          match svc.messageHandlers path with
          | some _ => (w, .error .alreadyHandled)
          | none =>
              let props : Properties :=
                [("Status", .str "received"), ("Sender", .str (trimSuffix n.fromAddress PLMN)),
                  ("Rescued", .bool true), ("Silent", .bool true)]
              let props := match m.map (parseMessage (some svc) w.store) with
                | some (.ok (_, pl)) =>
                    let props := if pl.get? "Sender" = none then
                      props.set "Sender" ((pl.get? "Sender").getD .empty) else props
                    if pl.get? "Recipients" = none then
                      props.set "Recipients" ((pl.get? "Recipients").getD .empty) else props
                | _ => props
              messageAdded sent path props
                (w.setHandler path (some ⟨true, .incoming n.transactionId⟩))

/-- `telepathy.SENT`, `PERMANENT_ERROR` and `TRANSIENT_ERROR`, the statuses
of an outbound message (declared in a file of the package that is not among
the sources; the values are the spec's, §4.C). -/
def SENT : String := "sent"
def PERMANENT_ERROR : String := "permanent-error"
def TRANSIENT_ERROR : String := "transient-error"

/-- `MMSService.MessageStatusChanged`: push `status` on the object of `uuid`;
`sent` is whether the send succeeds. The method has no nil guard: `none` when
the service is nil, whose handlers it reads. -/
def messageStatusChanged (sent : Bool) (uuid status : String) (w : World) :
    Option (World × Except ServiceError Unit) :=
  w.telepathyService.map fun svc =>
    let path := genMessagePath (some svc) uuid
    match svc.messageHandlers path with
    | some _ => if sent then (w.emit (.statusChanged path status), .ok ()) else (w, .error .bus)
    | none => (w, .error (.noMessageInterface path))

/-- `MMSService.MessageDestroy`: close and drop the object of `uuid`; `none`
when the service is nil, which it dereferences. -/
def messageDestroy (uuid : String) (w : World) : Option (World × Except ServiceError Unit) :=
  w.telepathyService.map fun svc =>
    let path := genMessagePath (some svc) uuid
    match svc.messageHandlers path with
    | some _ => (w.setHandler path none, .ok ())
    | none => (w, .error (.noMessageInterface path))

/-! ### The Delete and Redownload watchers -/

/-- `MMSService.getMMSState`: the record a message path names. -/
def getMMSState (store : Store) (objectPath : String) : Except ServiceError MMSState :=
  match getUUIDFromObjectPath objectPath with
  | .error e => .error (.objectPath e)
  | .ok uuid =>
      match Storage.getMMSState store uuid with
      | some st => .ok st
      | none => .error .storage

/-- One Delete request served by `watchMessageDeleteCalls`: refused for an
unexpired message not yet acknowledged, otherwise `MessageRemoved`. -/
def watchMessageDeleteCall (oc : RemoveOutcome) (objectPath : String) (w : World) : World :=
  let refuse : Bool := match getMMSState w.store objectPath with
    | .ok st => st.state != .responded &&
        (match st.mNotificationInd with | some n => !n.expired w.clock | none => false)
    | .error _ => false
  if refuse then w else (messageRemoved oc objectPath w).1

/-- One Redownload request served by `watchMessageRedownloadCalls`: the
message must still be a NOTIFICATION with its notification; its object is
removed and a copy of the notification under the fresh UUID `uuid`, marked as
a redownload of it, is stored and sent to the mediator. -/
def watchMessageRedownloadCall (oc : RemoveOutcome) (created : Bool) (uuid objectPath : String)
    (w : World) : World :=
  match getMMSState w.store objectPath with
  | .error _ => w
  | .ok st =>
      if st.state ≠ .notification then w
      else
        match st.mNotificationInd with
        | none => w
        | some n =>
            let w := (messageRemoved oc objectPath w).1
            let n' := { n with redownloadOfUUID := n.uuid, uuid := uuid }
            let w := { w with store := (create created w.store st.modemId n').getD w.store }
            { w with pending := w.pending ++ [n'] }


/-! ### What the methods change -/

section Frames

variable (w : World)

@[simp] theorem messageAdded_store (sent : Bool) (p : String) (props : Properties) :
    (messageAdded sent p props w).1.store = w.store := by
  unfold messageAdded; split <;> rfl
@[simp] theorem messageAdded_unresponded (sent : Bool) (p : String) (props : Properties) :
    (messageAdded sent p props w).1.unrespondedTransactions = w.unrespondedTransactions := by
  unfold messageAdded; split <;> rfl
@[simp] theorem messageAdded_service (sent : Bool) (p : String) (props : Properties) :
    (messageAdded sent p props w).1.telepathyService = w.telepathyService := by
  unfold messageAdded; split <;> rfl
@[simp] theorem messageAdded_handlers (sent : Bool) (p : String) (props : Properties) :
    (messageAdded sent p props w).1.handlers = w.handlers := by
  unfold messageAdded; split <;> rfl
@[simp] theorem messageAdded_pending (sent : Bool) (p : String) (props : Properties) :
    (messageAdded sent p props w).1.pending = w.pending := by
  unfold messageAdded; split <;> rfl
@[simp] theorem messageAdded_uploads (sent : Bool) (p : String) (props : Properties) :
    (messageAdded sent p props w).1.uploads = w.uploads := by
  unfold messageAdded; split <;> rfl
@[simp] theorem messageAdded_clock (sent : Bool) (p : String) (props : Properties) :
    (messageAdded sent p props w).1.clock = w.clock := by
  unfold messageAdded; split <;> rfl

theorem messageAdded_ok_iff (sent : Bool) (p : String) (props : Properties) :
    (messageAdded sent p props w).2 = .ok () ↔ sent = true := by
  unfold messageAdded; split <;> simp_all

@[simp] theorem singnalMessageRemoved_store (sent : Bool) (p : String) :
    (singnalMessageRemoved sent p w).1.store = w.store := by
  unfold singnalMessageRemoved; split <;> (try split) <;> rfl
@[simp] theorem singnalMessageRemoved_unresponded (sent : Bool) (p : String) :
    (singnalMessageRemoved sent p w).1.unrespondedTransactions = w.unrespondedTransactions := by
  unfold singnalMessageRemoved; split <;> (try split) <;> rfl
@[simp] theorem singnalMessageRemoved_service (sent : Bool) (p : String) :
    (singnalMessageRemoved sent p w).1.telepathyService = w.telepathyService := by
  unfold singnalMessageRemoved; split <;> (try split) <;> rfl
@[simp] theorem singnalMessageRemoved_handlers (sent : Bool) (p : String) :
    (singnalMessageRemoved sent p w).1.handlers = w.handlers := by
  unfold singnalMessageRemoved; split <;> (try split) <;> rfl
@[simp] theorem singnalMessageRemoved_pending (sent : Bool) (p : String) :
    (singnalMessageRemoved sent p w).1.pending = w.pending := by
  unfold singnalMessageRemoved; split <;> (try split) <;> rfl
@[simp] theorem singnalMessageRemoved_clock (sent : Bool) (p : String) :
    (singnalMessageRemoved sent p w).1.clock = w.clock := by
  unfold singnalMessageRemoved; split <;> (try split) <;> rfl

/-- The signal `SingnalMessageRemoved` emits, whatever the store holds. -/
theorem singnalMessageRemoved_signals {svc : MMSService} (hsvc : w.telepathyService = some svc)
    (p : String) : (singnalMessageRemoved true p w).1.signals = .messageRemoved p :: w.signals := by
  simp [singnalMessageRemoved, hsvc]

end Frames

/-- `parseMessage` succeeds whenever the message's content is found. -/
theorem parseMessage_ok {store : Store} {m : MRetrieveConf} (service : Option MMSService)
    (h : (getMMS store m.uuid).isSome) :
    ∃ props, parseMessage service store m = .ok (genMessagePath service m.uuid, props) := by
  obtain ⟨f, hf⟩ := Option.isSome_iff_exists.mp h
  rcases hd : m.dataParts with _ | ⟨d, ds⟩ <;> simp [parseMessage, hf, hd]

/-- `IncomingMessageAdded` registers an object for the message at its path
before it sends the signal, whether or not the send succeeds, unless a debug
marker forces its failure. -/
theorem incomingMessageAdded_handlers {w : World} {svc : MMSService} {m : MRetrieveConf}
    {n : MNotificationInd} (updated sent : Bool) (hsvc : w.telepathyService = some svc)
    (hdebug : n.hasDebugError .receiveHandle = false) (hcontent : (getMMS w.store m.uuid).isSome)
    (q : String) :
    (incomingMessageAdded updated sent m n w).1.handlers q =
      if q = genMessagePath (some svc) m.uuid then some ⟨false, .incoming n.transactionId⟩
      else w.handlers q := by
  obtain ⟨props, hp⟩ := parseMessage_ok (some svc) hcontent
  simp [incomingMessageAdded, hsvc, hp, MNotificationInd.popDebugError_eq_none.mpr hdebug,
    World.setHandler_handlers]

theorem incomingMessageAdded_ok {w : World} {svc : MMSService} {m : MRetrieveConf}
    {n : MNotificationInd} (updated sent : Bool) (hsvc : w.telepathyService = some svc)
    (hdebug : n.hasDebugError .receiveHandle = false) (hcontent : (getMMS w.store m.uuid).isSome) :
    (incomingMessageAdded updated sent m n w).2.2 = .ok () ↔ sent = true := by
  obtain ⟨props, hp⟩ := parseMessage_ok (some svc) hcontent
  simp [incomingMessageAdded, hsvc, hp, MNotificationInd.popDebugError_eq_none.mpr hdebug,
    messageAdded_ok_iff]

/-- On a live service, the `ReceiveHandle` marker of a local test is popped,
the notification it leaves is persisted, and the call fails. -/
theorem incomingMessageAdded_popped {w : World} {svc : MMSService} {n n' : MNotificationInd}
    (updated sent : Bool) (m : MRetrieveConf) (hsvc : w.telepathyService = some svc)
    (h : n.popDebugError .receiveHandle = some n') :
    incomingMessageAdded updated sent m n w =
      (w.updateNotification updated n', n', .error (.debug .receiveHandle)) := by
  simp [incomingMessageAdded, hsvc, h]

/-- Without the `ReceiveHandle` marker, the notification and the store are left
as they are. -/
theorem incomingMessageAdded_kept (updated sent : Bool) (m : MRetrieveConf) {n : MNotificationInd}
    (w : World) (hdebug : n.hasDebugError .receiveHandle = false) :
    (incomingMessageAdded updated sent m n w).2.1 = n ∧
      (incomingMessageAdded updated sent m n w).1.store = w.store := by
  have hp := MNotificationInd.popDebugError_eq_none.mpr hdebug
  rcases hs : w.telepathyService with _ | svc
  · simp [incomingMessageAdded, hs]
  · rcases hm : parseMessage (some svc) w.store m with e | ⟨path, props⟩ <;>
      simp [incomingMessageAdded, hs, hp, hm]

/-- The notification is left as it is or popped; the store is changed only by
persisting the popped one. -/
theorem incomingMessageAdded_store (updated sent : Bool) (m : MRetrieveConf) (n : MNotificationInd)
    (w : World) :
    (incomingMessageAdded updated sent m n w).2.1 = n ∧
        (incomingMessageAdded updated sent m n w).1.store = w.store ∨
      n.popDebugError .receiveHandle = some (incomingMessageAdded updated sent m n w).2.1 ∧
        (incomingMessageAdded updated sent m n w).1 =
          w.updateNotification updated (incomingMessageAdded updated sent m n w).2.1 := by
  rcases hs : w.telepathyService with _ | svc
  · exact .inl (by simp [incomingMessageAdded, hs])
  rcases h : n.popDebugError .receiveHandle with _ | n'
  · exact .inl (incomingMessageAdded_kept updated sent m w (MNotificationInd.popDebugError_eq_none.mp h))
  · exact .inr (by simp [incomingMessageAdded_popped updated sent m hs h, h])

@[simp] theorem incomingMessageAdded_service (updated sent : Bool) (m : MRetrieveConf)
    (n : MNotificationInd) (w : World) :
    (incomingMessageAdded updated sent m n w).1.telepathyService.isSome =
      w.telepathyService.isSome := by
  unfold incomingMessageAdded; split <;> (try split) <;> (try split) <;> simp

@[simp] theorem incomingMessageAdded_unresponded (updated sent : Bool) (m : MRetrieveConf)
    (n : MNotificationInd) (w : World) :
    (incomingMessageAdded updated sent m n w).1.unrespondedTransactions =
      w.unrespondedTransactions := by
  unfold incomingMessageAdded; split <;> (try split) <;> (try split) <;> simp

/-- `IncomingMessageFailAdded` registers the error object for `n` at its path
before it sends the signal, whether or not the send succeeds, unless a debug
marker forces its failure. -/
theorem incomingMessageFailAdded_handlers {w : World} {svc : MMSService}
    (oc : FailAddedOutcome) {n : MNotificationInd} (err : DownloadError)
    (hsvc : w.telepathyService = some svc)
    (hdebug : n.hasDebugError .telepathyErrorNotify = false) (q : String) :
    ((incomingMessageFailAdded oc n err w).1.handlers q).isSome =
      (q = genMessagePath (some svc) n.uuid ∨ (w.handlers q).isSome) := by
  by_cases hq : q = genMessagePath (some svc) n.uuid <;>
    simp [incomingMessageFailAdded, hsvc, MNotificationInd.popDebugError_eq_none.mpr hdebug,
      World.setHandler_handlers, hq]

theorem incomingMessageFailAdded_ok {w : World} {svc : MMSService}
    (oc : FailAddedOutcome) {n : MNotificationInd} (err : DownloadError)
    (hsvc : w.telepathyService = some svc)
    (hdebug : n.hasDebugError .telepathyErrorNotify = false) :
    (incomingMessageFailAdded oc n err w).2 = .ok () ↔ oc.sent = true := by
  simp [incomingMessageFailAdded, hsvc, MNotificationInd.popDebugError_eq_none.mpr hdebug,
    messageAdded_ok_iff]

/-- On a live service, the `TelepathyErrorNotify` marker of a local test is
popped, the notification it leaves is persisted, and the call fails. -/
theorem incomingMessageFailAdded_popped {w : World} {svc : MMSService} {n n' : MNotificationInd}
    (oc : FailAddedOutcome) (err : DownloadError) (hsvc : w.telepathyService = some svc)
    (h : n.popDebugError .telepathyErrorNotify = some n') :
    incomingMessageFailAdded oc n err w =
      (w.updateNotification oc.updateNotification n', .error (.debug .telepathyErrorNotify)) := by
  simp [incomingMessageFailAdded, hsvc, h]

/-- The store is changed only by persisting the popped notification. -/
theorem incomingMessageFailAdded_store (oc : FailAddedOutcome) (n : MNotificationInd)
    (err : DownloadError) (w : World) :
    (incomingMessageFailAdded oc n err w).1.store = w.store ∨
      ∃ n', n.popDebugError .telepathyErrorNotify = some n' ∧
        (incomingMessageFailAdded oc n err w).1 = w.updateNotification oc.updateNotification n' := by
  rcases hs : w.telepathyService with _ | svc
  · exact .inl (by simp [incomingMessageFailAdded, hs])
  rcases h : n.popDebugError .telepathyErrorNotify with _ | n'
  · exact .inl (by simp [incomingMessageFailAdded, hs, h])
  · exact .inr ⟨n', rfl, by rw [incomingMessageFailAdded_popped oc err hs h]⟩

theorem incomingMessageFailAdded_kept (oc : FailAddedOutcome) {n : MNotificationInd}
    (err : DownloadError) (w : World) (hdebug : n.hasDebugError .telepathyErrorNotify = false) :
    (incomingMessageFailAdded oc n err w).1.store = w.store := by
  rcases incomingMessageFailAdded_store oc n err w with h | ⟨n', h, -⟩
  · exact h
  · simp [MNotificationInd.popDebugError_eq_none.mpr hdebug] at h

@[simp] theorem incomingMessageFailAdded_unresponded (oc : FailAddedOutcome)
    (n : MNotificationInd) (err : DownloadError) (w : World) :
    (incomingMessageFailAdded oc n err w).1.unrespondedTransactions = w.unrespondedTransactions := by
  unfold incomingMessageFailAdded; split <;> (try split) <;> simp

@[simp] theorem incomingMessageFailAdded_service (oc : FailAddedOutcome) (n : MNotificationInd)
    (err : DownloadError) (w : World) :
    (incomingMessageFailAdded oc n err w).1.telepathyService.map (·.identity) =
      w.telepathyService.map (·.identity) := by
  unfold incomingMessageFailAdded; split <;> (try split) <;> simp_all [World.setHandler]

@[simp] theorem messageRemoved_unresponded (oc : RemoveOutcome) (p : String) (w : World) :
    (messageRemoved oc p w).1.unrespondedTransactions = w.unrespondedTransactions := by
  unfold messageRemoved destroy
  repeat' split
  all_goals simp

/-- `MessageRemoved` succeeds exactly when the object was on the bus, the path
names a UUID, the record was destroyed and the signal sent; it then leaves no
object at the path and no record under the UUID, and has emitted the signal
last. -/
theorem messageRemoved_ok {oc : RemoveOutcome} {p : String} {w : World} :
    (messageRemoved oc p w).2 = .ok () ↔
      (w.handlers p).isSome ∧ (∃ uuid, getUUIDFromObjectPath p = .ok uuid) ∧
        oc.destroy = true ∧ oc.signal = true := by
  unfold messageRemoved
  rcases hs : w.telepathyService with _ | svc
  · simp [World.handlers, hs]
  · rcases hh : svc.messageHandlers p with _ | mi
    · simp [World.handlers, hs, hh]
    · rcases hu : getUUIDFromObjectPath p with e | uuid
      · simp [World.handlers, hs, hh]
      · cases hd : oc.destroy <;> cases hsig : oc.signal <;>
          simp [World.handlers, hs, hh, destroy, hd, singnalMessageRemoved, World.setHandler, hsig]

/-- When `MessageRemoved` succeeds, the record is gone and no object is left at
the path, and the signal was the last thing it did. -/
theorem messageRemoved_clean {oc : RemoveOutcome} {p uuid : String} {w : World}
    (hok : (messageRemoved oc p w).2 = .ok ()) (hu : getUUIDFromObjectPath p = .ok uuid) :
    (messageRemoved oc p w).1.store.records uuid = none ∧
      (messageRemoved oc p w).1.handlers p = none ∧
      (messageRemoved oc p w).1.signals = .messageRemoved p :: w.signals := by
  obtain ⟨hh, -, hd, hsig⟩ := messageRemoved_ok.mp hok
  unfold messageRemoved
  rcases hs : w.telepathyService with _ | svc
  · simp [World.handlers, hs] at hh
  · rcases hm : svc.messageHandlers p with _ | mi
    · simp [World.handlers, hs, hm] at hh
    · simp [hu, hm, destroy, hd, singnalMessageRemoved, World.setHandler, hs, hsig, World.handlers,
        World.emit]

/-- `MessageRemoved` when every step succeeds: the object goes, then the
record, then the signal is sent. -/
theorem messageRemoved_succeeds {w : World} {svc : MMSService} {p uuid : String}
    (hsvc : w.telepathyService = some svc) (hh : (svc.messageHandlers p).isSome)
    (hu : getUUIDFromObjectPath p = .ok uuid) :
    messageRemoved ⟨true, true⟩ p w =
      ({ w.setHandler p none with store := w.store.erase uuid }.emit (.messageRemoved p), .ok ()) := by
  obtain ⟨mi, hmi⟩ := Option.isSome_iff_exists.mp hh
  simp [messageRemoved, hsvc, hmi, hu, destroy, singnalMessageRemoved, World.setHandler]

/-! ### A message path names its UUID -/

/-- `MessageRemoved` changes the store only by destroying the record its path
names. -/
theorem messageRemoved_store (oc : RemoveOutcome) (p : String) (w : World) :
    (messageRemoved oc p w).1.store = w.store ∨
      ∃ uuid, getUUIDFromObjectPath p = .ok uuid ∧
        (messageRemoved oc p w).1.store = w.store.erase uuid := by
  unfold messageRemoved
  rcases w.telepathyService with _ | svc
  · exact .inl rfl
  dsimp only
  split
  · exact .inl rfl
  rcases hu : getUUIDFromObjectPath p with e | uuid
  · exact .inl rfl
  dsimp only
  cases hd : oc.destroy
  · exact .inl (by simp [destroy, hd])
  · exact .inr ⟨uuid, rfl, by simp [destroy, hd]⟩

theorem getMMSState_eq_ok {store : Store} {p uuid : String}
    (hu : getUUIDFromObjectPath p = .ok uuid) (st : MMSState) :
    getMMSState store p = .ok st ↔ store.records uuid = some st := by
  unfold getMMSState
  rw [hu]
  rcases h : Storage.getMMSState store uuid with _ | st' <;> simp_all [Storage.getMMSState]

theorem watchMessageDeleteCall_store (oc : RemoveOutcome) (p : String) (w : World) :
    (watchMessageDeleteCall oc p w).store = w.store ∨
      ∃ uuid, getUUIDFromObjectPath p = .ok uuid ∧
        (watchMessageDeleteCall oc p w).store = w.store.erase uuid := by
  unfold watchMessageDeleteCall
  dsimp only
  split_ifs
  · exact .inl rfl
  · exact messageRemoved_store oc p w

/-- The Redownload watcher leaves every record alone but the one its path
names and the one it files under the fresh UUID. -/
theorem watchMessageRedownloadCall_records (oc : RemoveOutcome) (created : Bool)
    (fresh p : String) (w : World) {x : String} (hx : fresh ≠ x)
    (hp : ∀ uuid, getUUIDFromObjectPath p = .ok uuid → uuid ≠ x) :
    (watchMessageRedownloadCall oc created fresh p w).store.records x = w.store.records x := by
  unfold watchMessageRedownloadCall
  split
  · rfl
  split_ifs
  · rfl
  split
  · rfl
  have hrm : (messageRemoved oc p w).1.store.records x = w.store.records x := by
    rcases messageRemoved_store oc p w with h | ⟨uuid, hu, h⟩
    · rw [h]
    · rw [h, erase_records, if_neg (hp uuid hu).symm]
  cases created <;> simp [create, hrm, Ne.symm hx]

/-- A UUID that is one path element is read back from its message path, on a
live service and on a nil one; so the service's `getMMSState` reads that UUID's
record, and `MessageRemoved` and both watchers change no record but that
UUID's (the Redownload watcher also files the record of its fresh UUID). -/
theorem genMessagePath_round_trip (service : Option MMSService) {uuid : String}
    (h : IsSegment uuid) :
    getUUIDFromObjectPath (genMessagePath service uuid) = .ok uuid ∧
      (∀ store st, getMMSState store (genMessagePath service uuid) = .ok st ↔
        store.records uuid = some st) ∧
      (∀ oc w, (messageRemoved oc (genMessagePath service uuid) w).1.store = w.store ∨
        (messageRemoved oc (genMessagePath service uuid) w).1.store = w.store.erase uuid) ∧
      (∀ oc w, (watchMessageDeleteCall oc (genMessagePath service uuid) w).store = w.store ∨
        (watchMessageDeleteCall oc (genMessagePath service uuid) w).store =
          w.store.erase uuid) ∧
      ∀ oc created fresh w x, x ≠ uuid → x ≠ fresh →
        (watchMessageRedownloadCall oc created fresh (genMessagePath service uuid) w).store.records
          x = w.store.records x := by
  have hu := getUUIDFromObjectPath_genMessagePath service h
  have hname : ∀ u, getUUIDFromObjectPath (genMessagePath service uuid) = .ok u → u = uuid :=
    fun u h' => Except.ok.inj (h'.symm.trans hu)
  refine ⟨hu, fun store st => getMMSState_eq_ok hu st, fun oc w => ?_, fun oc w => ?_,
    fun oc created fresh w x hx hfresh => ?_⟩
  · rcases messageRemoved_store oc _ w with h' | ⟨u, hu', h'⟩
    · exact .inl h'
    · exact .inr (hname u hu' ▸ h')
  · rcases watchMessageDeleteCall_store oc _ w with h' | ⟨u, hu', h'⟩
    · exact .inl h'
    · exact .inr (hname u hu' ▸ h')
  · exact watchMessageRedownloadCall_records oc created fresh _ w (Ne.symm hfresh)
      fun u hu' => hname u hu' ▸ Ne.symm hx

theorem genMessagePath_round_trip_nil :
    IsSegment "A" ∧ getUUIDFromObjectPath (genMessagePath none "A") = .ok "A" :=
  ⟨by decide, (genMessagePath_round_trip none (by decide)).1⟩

/-! ### Recipients -/

/-- `splitOn` is `List.splitOn`. -/
theorem splitOn_eq_splitOn (sep : Char) (l : List Char) : splitOn sep l = l.splitOn sep := by
  induction l with
  | nil => rfl
  | cons c cs ih =>
      simp only [splitOn, List.splitOn] at ih ⊢
      rw [ih, List.splitOnP_cons]
      rcases h : cs.splitOnP (· == sep) with _ | ⟨r, rs⟩
      · exact absurd h (List.splitOnP_ne_nil _ _)
      · by_cases hc : c = sep <;> simp [hc]

theorem intercalate_go_data (s acc : String) (l : List String) :
    (String.intercalate.go acc s l).data =
      acc.data ++ (l.map fun a => s.data ++ a.data).flatten := by
  induction l generalizing acc with
  | nil => simp [String.intercalate.go]
  | cons a as ih => simp [String.intercalate.go, ih]

theorem intercalate_data (s : String) (l : List String) :
    (String.intercalate s l).data = s.data.intercalate (l.map String.data) := by
  cases l with
  | nil => rfl
  | cons a as =>
      rw [String.intercalate, intercalate_go_data]
      induction as generalizing a with
      | nil => simp [List.intercalate]
      | cons b bs ih =>
          simp only [List.intercalate, List.map_cons, List.flatten_cons,
            List.intersperse_cons₂, List.append_assoc] at ih ⊢
          rw [ih b]

/-- `parseRecipients` undoes the join of a non-empty list of addresses without
commas, dropping one trailing `PLMN` from each. -/
theorem parseRecipients_intercalate {addresses : List String} (hne : addresses ≠ [])
    (hsep : ∀ r ∈ addresses, ',' ∉ r.data) :
    parseRecipients (String.intercalate "," addresses) = addresses.map (trimSuffix · PLMN) := by
  have hx : ∀ l ∈ addresses.map String.data, ',' ∉ l := by simpa using hsep
  unfold parseRecipients
  rw [intercalate_data, splitOn_eq_splitOn,
    List.splitOn_intercalate _ ',' hx (by simpa using hne)]
  simp [Function.comp_def]

/-- The `Recipients` of a parsed message are `parseRecipients` of its joined
`To` list. -/
theorem parseMessage_recipients {service : Option MMSService} {store : Store}
    {m : MRetrieveConf} {path : String} {props : Properties}
    (h : parseMessage service store m = .ok (path, props)) :
    props.get? "Recipients" =
      some (.strs (parseRecipients (String.intercalate "," m.toAddress))) := by
  simp only [parseMessage] at h
  split at h
  · obtain ⟨-, rfl⟩ := Prod.mk.inj (Except.ok.inj h)
    cases m.smil <;> simp
  · cases h

/-- A message with no `To` address gets the one empty recipient `""`: the
split of the empty join is `[""]`. -/
theorem recipients_of_no_to : ∃ m : MRetrieveConf, m.toAddress = [] ∧
    ∀ service store, ∃ path props, parseMessage service store m = .ok (path, props) ∧
      props.get? "Recipients" = some (.strs [""]) :=
  ⟨⟨"A", "+1", [], "", 3, none, []⟩, rfl, fun _ _ => ⟨_, _, rfl, by simp; decide⟩⟩

/-- The rescued object's `MessageAdded` never carries `Recipients`: they are
copied from the parsed message only when it lacks them, and a parsed message
always has them. -/
theorem initializationMessageAdded_no_recipients (sent : Bool) (m : Option MRetrieveConf)
    (n : Option MNotificationInd) (w : World) :
    (initializationMessageAdded sent m n w).1.signals = w.signals ∨
      ∃ path props, (initializationMessageAdded sent m n w).1.signals =
        .messageAdded path props :: w.signals ∧ props.get? "Recipients" = none := by
  unfold initializationMessageAdded
  rcases w.telepathyService with _ | svc
  · exact .inl rfl
  rcases n with _ | n
  · exact .inl rfl
  dsimp only
  split
  · exact .inl rfl
  unfold messageAdded
  split
  · refine .inr ⟨_, _, rfl, ?_⟩
    split
    · rename_i pl heq
      obtain ⟨m, -, hp⟩ := Option.map_eq_some'.mp heq
      have hR : pl.get? "Recipients" ≠ none := by simp [parseMessage_recipients hp]
      simp only [hR, ite_false]
      split_ifs
      · rw [Properties.get?_set, if_neg (by decide)]; rfl
      · rfl
    · rfl
  · exact .inl rfl

end Nuntium.Telepathy
