import Nuntium.Storage
import Nuntium.Telepathy.Path

/-!
# The state of a nuntium process

One record holds everything the mediator of one modem and its telepathy
service read and write:

* the persistent message store (`storage`), which survives a restart;
* `unrespondedTransactions`, the mediator's map from transaction id to the
  UUID of the message that currently stands for it;
* `telepathyService`, the mediator's `*telepathy.MMSService`, `none` while it
  is nil; the service owns the message objects (`messageHandlers`) it has
  put on the bus;
* the notifications sent on `NewMNotificationInd` and not yet handled;
* the history of the signals emitted on the bus and of the M-NotifyResp.ind
  uploads that reached the message center, newest first;
* the scratch files the storage has handed out and that still exist;
* the wall clock and the modem's identity and push-agent registration.

A message object records, as a ghost field, what it was created for: an
inbound message with the transaction id of its notification, or an outbound
one. The Go object does not keep it; the theorems about surfaces per
transaction use it.
-/

namespace Nuntium

open Storage Telepathy

/-! ### Bus payloads and signals -/

/-- `telepathy.Attachment`, one attachment descriptor of a payload. -/
structure Attachment where
  id : String
  mediaType : String
  filePath : String
  offset : Nat
  length : Nat
  deriving DecidableEq, Repr

/-- The object JSON-encoded into an `Error` property: `Code`, `Expire`, `Size`
and `MobileData` (the `Message` text is the adapter's error text and is not
modelled). -/
structure ErrorMessage where
  code : String
  expire : Nat
  size : Nat
  mobileData : Option Bool
  deriving DecidableEq, Repr

/-- The `dbus.Variant` values payloads carry. Times are kept as Unix seconds;
their RFC 3339 rendering is not modelled. `empty` is the zero `Variant{}`. -/
inductive Variant where
  | empty
  | str (s : String)
  | bool (b : Bool)
  | nat (n : Nat)
  | strs (l : List String)
  | attachments (l : List Attachment)
  | error (e : ErrorMessage)
  deriving DecidableEq, Repr

/-- A property map `map[string]dbus.Variant`; the first entry of a name wins. -/
abbrev Properties := List (String × Variant)

/-- `props[name] = value`. -/
def Properties.set (props : Properties) (name : String) (value : Variant) : Properties :=
  (name, value) :: props.filter (·.1 != name)

/-- `props[name]`, if present. -/
def Properties.get? (props : Properties) (name : String) : Option Variant :=
  props.lookup name

@[simp] theorem Properties.get?_set (props : Properties) (name key : String) (value : Variant) :
    (props.set name value).get? key = if key = name then some value else props.get? key := by
  unfold Properties.set Properties.get?
  by_cases h : key = name
  · subst h; simp [List.lookup_cons]
  · have hne : (key == name) = false := by simpa using h
    simp only [List.lookup_cons, hne, h, if_false]
    induction props with
    | nil => rfl
    | cons p ps ih =>
        obtain ⟨k, v⟩ := p
        by_cases hk : k = name
        · simp [List.filter, hk, List.lookup_cons, hne, ih]
        · have : (k != name) = true := by simpa using hk
          simp only [List.filter, this, List.lookup_cons, ih]

/-- The signals the service emits on the bus. -/
inductive Signal where
  | messageAdded (path : String) (properties : Properties)
  | messageRemoved (path : String)
  | statusChanged (path : String) (status : String)
  deriving DecidableEq, Repr

/-! ### Message objects and the service -/

/-- What a message object was created for (ghost). -/
inductive Origin where
  | incoming (transactionId : String)
  | outgoing
  deriving DecidableEq, Repr

/-- A `MessageInterface` on the bus: whether it was given the redownload
channel, and its ghost origin. -/
structure MessageInterface where
  redownload : Bool
  origin : Origin
  deriving DecidableEq, Repr

/-- `telepathy.MMSService`: its identity and its message objects by path. -/
structure MMSService where
  identity : String
  messageHandlers : String → Option MessageInterface

/-- The service `NewMMSService` makes for an identity: no message objects. -/
def MMSService.new (identity : String) : MMSService := ⟨identity, fun _ => none⟩

/-- `MMSService.GenMessagePath`, which also answers on a nil service. -/
def genMessagePath (service : Option MMSService) (uuid : String) : String :=
  match service with
  | none => MMS_DBUS_PATH ++ "//" ++ uuid
  | some s => MMS_DBUS_PATH ++ "/" ++ s.identity ++ "/" ++ uuid

theorem getUUIDFromObjectPath_genMessagePath (service : Option MMSService) {uuid : String}
    (h : IsSegment uuid) : getUUIDFromObjectPath (genMessagePath service uuid) = .ok uuid := by
  cases service with
  | none =>
      have : MMS_DBUS_PATH ++ "//" ++ uuid = (MMS_DBUS_PATH ++ "/") ++ "/" ++ uuid := by
        simp only [String.append_assoc]; rfl
      rw [genMessagePath, this, getUUIDFromObjectPath_append h]
  | some s => exact getUUIDFromObjectPath_append h

/-- A service's paths are distinct for distinct UUIDs. -/
theorem genMessagePath_inj (service : Option MMSService) {u v : String}
    (h : genMessagePath service u = genMessagePath service v) : u = v := by
  apply String.ext
  cases service <;> simpa [genMessagePath] using congrArg String.data h

/-! ### The world -/

/-- A scratch file: the encoded M-NotifyResp.ind or M-Send.req of a message
(`CreateResponseFile`, `CreateSendFile`), or the M-Send.conf an upload
returned. -/
inductive ScratchFile where
  | notifyResp (uuid : String)
  | sendReq (uuid : String)
  | sendConf (uuid : String)
  deriving DecidableEq, Repr

/-- The state of the process around one modem. -/
structure World where
  store : Store
  unrespondedTransactions : String → Option String
  telepathyService : Option MMSService
  pending : List MNotificationInd
  signals : List Signal
  uploads : List String
  scratch : List ScratchFile
  clock : Nat
  identity : String
  pushRegistered : Bool

namespace World

/-- Emit a signal on the bus. -/
def emit (w : World) (signal : Signal) : World := { w with signals := signal :: w.signals }

/-- The message objects of the live service; none while the service is nil. -/
def handlers (w : World) (path : String) : Option MessageInterface :=
  w.telepathyService.bind fun s => s.messageHandlers path

/-- Replace the message object at `path` of the live service. -/
def setHandler (w : World) (path : String) (mi : Option MessageInterface) : World :=
  { w with telepathyService := w.telepathyService.map fun s =>
      { s with messageHandlers := Function.update s.messageHandlers path mi } }

/-- Point transaction `tx` at `uuid`, or remove it. -/
def setUnresponded (w : World) (tx : String) (uuid : Option String) : World :=
  { w with unrespondedTransactions := Function.update w.unrespondedTransactions tx uuid }

/-- `storage.UpdateMNotificationInd(n)` where its error is ignored, as at every
call site: the debug side door persists the notification it has changed. -/
def updateNotification (w : World) (ok : Bool) (n : MNotificationInd) : World :=
  { w with store := (updateMNotificationInd ok w.store n).getD w.store }

/-- A process that starts on a store: no service, nothing pending. -/
def start (store : Store) (clock : Nat) : World :=
  ⟨store, fun _ => none, none, [], [], [], [], clock, "", false⟩

/-- What a restart keeps of a world: the store, and the clock and the
histories. -/
def restart (w : World) : World where
  store := w.store
  unrespondedTransactions := fun _ => none
  telepathyService := none
  pending := []
  signals := w.signals
  uploads := w.uploads
  scratch := w.scratch
  clock := w.clock
  identity := ""
  pushRegistered := false

variable (w : World)

@[simp] theorem emit_store (s : Signal) : (w.emit s).store = w.store := rfl
@[simp] theorem emit_unresponded (s : Signal) :
    (w.emit s).unrespondedTransactions = w.unrespondedTransactions := rfl
@[simp] theorem emit_service (s : Signal) : (w.emit s).telepathyService = w.telepathyService := rfl
@[simp] theorem emit_pending (s : Signal) : (w.emit s).pending = w.pending := rfl
@[simp] theorem emit_signals (s : Signal) : (w.emit s).signals = s :: w.signals := rfl
@[simp] theorem emit_uploads (s : Signal) : (w.emit s).uploads = w.uploads := rfl
@[simp] theorem emit_scratch (s : Signal) : (w.emit s).scratch = w.scratch := rfl
@[simp] theorem emit_clock (s : Signal) : (w.emit s).clock = w.clock := rfl
@[simp] theorem emit_handlers (s : Signal) : (w.emit s).handlers = w.handlers := rfl

@[simp] theorem setHandler_store (p : String) (mi : Option MessageInterface) :
    (w.setHandler p mi).store = w.store := rfl
@[simp] theorem setHandler_unresponded (p : String) (mi : Option MessageInterface) :
    (w.setHandler p mi).unrespondedTransactions = w.unrespondedTransactions := rfl
@[simp] theorem setHandler_pending (p : String) (mi : Option MessageInterface) :
    (w.setHandler p mi).pending = w.pending := rfl
@[simp] theorem setHandler_signals (p : String) (mi : Option MessageInterface) :
    (w.setHandler p mi).signals = w.signals := rfl
@[simp] theorem setHandler_uploads (p : String) (mi : Option MessageInterface) :
    (w.setHandler p mi).uploads = w.uploads := rfl
@[simp] theorem setHandler_scratch (p : String) (mi : Option MessageInterface) :
    (w.setHandler p mi).scratch = w.scratch := rfl
@[simp] theorem setHandler_clock (p : String) (mi : Option MessageInterface) :
    (w.setHandler p mi).clock = w.clock := rfl
@[simp] theorem setHandler_service_isSome (p : String) (mi : Option MessageInterface) :
    (w.setHandler p mi).telepathyService.isSome = w.telepathyService.isSome := by
  simp [setHandler]

theorem setHandler_handlers (p : String) (mi : Option MessageInterface) (q : String) :
    (w.setHandler p mi).handlers q =
      if w.telepathyService.isSome then (if q = p then mi else w.handlers q) else none := by
  cases h : w.telepathyService <;> by_cases hq : q = p <;>
    simp [handlers, setHandler, h, hq, Function.update_apply]

@[simp] theorem setUnresponded_store (tx : String) (u : Option String) :
    (w.setUnresponded tx u).store = w.store := rfl
@[simp] theorem setUnresponded_unresponded (tx : String) (u : Option String) :
    (w.setUnresponded tx u).unrespondedTransactions =
      Function.update w.unrespondedTransactions tx u := rfl
@[simp] theorem setUnresponded_service (tx : String) (u : Option String) :
    (w.setUnresponded tx u).telepathyService = w.telepathyService := rfl
@[simp] theorem setUnresponded_handlers (tx : String) (u : Option String) :
    (w.setUnresponded tx u).handlers = w.handlers := rfl
@[simp] theorem setUnresponded_pending (tx : String) (u : Option String) :
    (w.setUnresponded tx u).pending = w.pending := rfl
@[simp] theorem setUnresponded_signals (tx : String) (u : Option String) :
    (w.setUnresponded tx u).signals = w.signals := rfl
@[simp] theorem setUnresponded_uploads (tx : String) (u : Option String) :
    (w.setUnresponded tx u).uploads = w.uploads := rfl
@[simp] theorem setUnresponded_scratch (tx : String) (u : Option String) :
    (w.setUnresponded tx u).scratch = w.scratch := rfl
@[simp] theorem setUnresponded_clock (tx : String) (u : Option String) :
    (w.setUnresponded tx u).clock = w.clock := rfl

section UpdateNotification

variable (ok : Bool) (n : MNotificationInd)

@[simp] theorem updateNotification_store :
    (w.updateNotification ok n).store = if ok then w.store.setNotification n else w.store := by
  simp [updateNotification, updateMNotificationInd_getD]
@[simp] theorem updateNotification_unresponded :
    (w.updateNotification ok n).unrespondedTransactions = w.unrespondedTransactions := rfl
@[simp] theorem updateNotification_service :
    (w.updateNotification ok n).telepathyService = w.telepathyService := rfl
@[simp] theorem updateNotification_handlers : (w.updateNotification ok n).handlers = w.handlers := rfl
@[simp] theorem updateNotification_pending : (w.updateNotification ok n).pending = w.pending := rfl
@[simp] theorem updateNotification_signals : (w.updateNotification ok n).signals = w.signals := rfl
@[simp] theorem updateNotification_uploads : (w.updateNotification ok n).uploads = w.uploads := rfl
@[simp] theorem updateNotification_scratch : (w.updateNotification ok n).scratch = w.scratch := rfl
@[simp] theorem updateNotification_clock : (w.updateNotification ok n).clock = w.clock := rfl

end UpdateNotification

end World

end Nuntium
