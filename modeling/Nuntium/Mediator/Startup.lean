import Nuntium.Mediator.Inbound

/-!
# Startup reconciliation

`initializeMessages` of `cmd/nuntium/mediator.go`, run by the mediator loop
when the SIM identity appears, and `respondMessage`, which acknowledges a
RECEIVED message to the message center.

The pass visits the UUIDs `GetStoredUUIDs` lists, in the order it lists them.
Each visit is `initializeMessage`: it reads the record, drops the ones that
are not inbound messages of this modem or that repeat a transaction handled
earlier in the pass, registers the transaction, and then drives the record by
its state (`reconcile`): a NOTIFICATION not yet reported is sent back to the
inbound handler; an expired reported one is destroyed; a DOWNLOADED one is
forwarded again and falls through to RECEIVED, which is acknowledged and falls
through to RESPONDED, which is kept only if the history service still shows
it as new. What survives with a state to show gets a rescued object on the
bus.

The outcomes of the external steps are given per UUID (`InitOutcome`). The
loop calls the pass right after it has set `telepathyService`, so the nil
dereferences of `respondMessage` and of the history lookup are not reached
from here and are not modelled. `GetStoredUUIDs` and the history service are
outside the sources; what they return is an input. The debug side door
reaches the pass twice: the forward of a DOWNLOADED local test fails on its
`ReceiveHandle` marker, and `respondMessage` skips the M-NotifyResp.ind of a
local test and fails on its `RespondHandle` marker; each persists the popped
notification.
-/

namespace Nuntium.Mediator

open Storage Telepathy

/-- What the history service answers about a message: `GetMessage` fails, the
message does not exist, `IsNew` fails, or `IsNew` answers. -/
inductive HistoryOutcome where
  | getMessageError
  | notExists
  | isNewError
  | isNew (new : Bool)
  deriving DecidableEq, Repr

/-- The outcomes of the external steps the pass takes for one stored message:
its `storage.Destroy`, the `SingnalMessageRemoved` of an expired message, the
forward of a DOWNLOADED message (whose M-Retrieve.conf is read again by
`respondMessage` and for the rescued object), the storage writes, the context
activation and the upload of `respondMessage`, the history service, the send
of `InitializationMessageAdded`, and the `UpdateMNotificationInd` of a debug
error `respondMessage` forces. -/
structure InitOutcome where
  destroy : Bool
  signalRemoved : Bool
  forward : ForwardOutcome
  updateReceived : Bool
  activateContext : Bool
  respond : RespondOutcome
  updateResponded : Bool
  history : HistoryOutcome
  initAdded : Bool
  updateNotification : Bool
  deriving DecidableEq, Repr

/-- `respondMessage`: acknowledge the download of `n`'s message to the message
center; true when the M-NotifyResp.ind was uploaded, or skipped for a local
test that forces no failure. The Go function pops the `RespondHandle` marker
through the record's pointer, so the notification it leaves is returned. -/
def respondMessage (oc : InitOutcome) (n : MNotificationInd) (w : World) :
    World × MNotificationInd × Bool :=
  match getMRetrieveConf oc.forward.retrieveConf w.store n.uuid with
  | none => (w, n, false)
  | some m =>
      if !n.isDebug then
        if oc.activateContext then
          match handleMNotifyRespInd oc.respond m.uuid w with
          | (w, true) =>
              let sent := sendMNotifyRespInd oc.respond m.uuid w
              (sent.1, n, sent.2)
          | (w, false) => (w, n, false)
        else (w, n, false)
      else
        match n.popDebugError .respondHandle with
        | some n => (w.updateNotification oc.updateNotification n, n, false)
        | none => (w, n, true)

/-- The `storage.RESPONDED` arm: the transaction leaves the registry; unless
the history check is skipped, a message the history service shows as absent
or read is destroyed. True when the message still needs an object. -/
def respondedArm (oc : InitOutcome) (uuid : String) (n : MNotificationInd)
    (checkInHistoryService : Bool) (w : World) : Bool × World :=
  let w := w.setUnresponded n.transactionId none
  if checkInHistoryService then
    match oc.history with
    | .notExists => (false, destroyMessage oc.destroy uuid w)
    | .isNew false => (false, destroyMessage oc.destroy uuid w)
    | _ => (true, w)
  else (true, w)

/-- The `storage.RECEIVED` arm: acknowledge unless expired, mark RESPONDED and
fall through. Returns whether an object is needed and the notification the
record variable then holds (none after a failed write, which leaves Go's zero
`MMSState` in it). -/
def receivedArm (oc : InitOutcome) (uuid : String) (n : MNotificationInd)
    (checkInHistoryService : Bool) (w : World) : Bool × Option MNotificationInd × World :=
  let (w, n, responded) := if n.expired w.clock then (w, n, true) else respondMessage oc n w
  if responded then
    match updateResponded oc.updateResponded w.store n.uuid with
    | none => (true, none, w)
    | some store =>
        let (start, w) := respondedArm oc uuid n checkInHistoryService { w with store }
        (start, some n, w)
  else (true, some n, w)

/-- The `switch mmsState.State` of the pass for a record `st` holding `n`. -/
def reconcile (oc : InitOutcome) (uuid : String) (st : MMSState) (n : MNotificationInd)
    (w : World) : Bool × Option MNotificationInd × World :=
  match st.state with
  | .notification =>
      if !st.telepathyErrorNotified then (false, some n, { w with pending := w.pending ++ [n] })
      else if n.expired w.clock then
        let w := destroyMessage oc.destroy uuid w
        let w := (singnalMessageRemoved oc.signalRemoved (genMessagePath w.telepathyService uuid) w).1
        (false, some n, w.setUnresponded n.transactionId none)
      else (true, some n, w)
  | .downloaded =>
      match getAndHandleMRetrieveConf oc.forward n w with
      | (w, n', none) => (true, some n', w)
      | (w, _, some m) =>
          match updateReceived oc.updateReceived w.store m.uuid with
          | none => (true, none, w)
          | some store => receivedArm oc uuid n false { w with store }
  | .received => receivedArm oc uuid n true w
  | .responded =>
      let (start, w) := respondedArm oc uuid n true w
      (start, some n, w)
  | .draft | .sent => (false, some n, w)

/-- One iteration of the pass of `initializeMessages` over `uuid`, with the
transactions handled so far. -/
def initializeMessage (modemId : String) (oc : InitOutcome) (uuid : String)
    (handled : List String) (w : World) : List String × World :=
  match Storage.getMMSState w.store uuid with
  | none => (handled, destroyMessage oc.destroy uuid w)
  | some st =>
      if !st.isIncoming then (handled, w)
      else if st.modemId = "" then (handled, destroyMessage oc.destroy uuid w)
      else if modemId ≠ st.modemId then (handled, w)
      else
        match st.mNotificationInd with
        | none => (handled, destroyMessage oc.destroy uuid w)
        | some n =>
            if n.transactionId ≠ "" ∧ n.transactionId ∈ handled then
              (handled, destroyMessage oc.destroy uuid w)
            else
              let (handled, w) := if n.transactionId ≠ "" then
                  (n.transactionId :: handled, w.setUnresponded n.transactionId (some uuid))
                else (handled, w)
              let (start, notif, w) := reconcile oc uuid st n w
              (handled, if start then
                (initializationMessageAdded oc.initAdded
                  (getMRetrieveConf oc.forward.retrieveConf w.store uuid) notif w).1
                else w)

/-- The pass from a given set of handled transactions. -/
def initializeFrom (modemId : String) (oc : String → InitOutcome) :
    List String → List String → World → World
  | [], _, w => w
  | uuid :: uuids, handled, w =>
      let (handled, w) := initializeMessage modemId (oc uuid) uuid handled w
      initializeFrom modemId oc uuids handled w

/-- `initializeMessages(modemId)` over the UUIDs `GetStoredUUIDs` listed. -/
def initializeMessages (modemId : String) (oc : String → InitOutcome) (uuids : List String)
    (w : World) : World :=
  initializeFrom modemId oc uuids [] w

end Nuntium.Mediator
