import Mathlib.Logic.Function.Basic
import Mathlib.Data.List.Nodup

/-!
# Messages and the message store

The PDU records the mediator reads (`mms.MNotificationInd`,
`mms.MRetrieveConf`) and the per-UUID store of the `storage` package.

Of `storage`, only `storage/const.go` is in the sources, and of `mms` none.
The operations are modelled from the spec (§3, §4.A): every write takes the
outcome of its I/O as a Boolean, and either fails and leaves the store as it
was, or succeeds with the effect the spec gives it. Reads are exact:
`GetMMSState` fails exactly when no record is filed under the UUID.

The debug side door of `mms` is modelled from the spec too (§4.E.1, "Debug
path"; §9): a local test notification carries debug-error markers, and
`PopDebugError` removes one and forces the error it stands for. The callers
then persist the notification with `UpdateMNotificationInd`.

A `Store` carries its one structural invariant: a record that holds a
notification is filed under that notification's UUID. `Create` files records
so, `UpdateMNotificationInd` writes a notification under its own UUID, and no
other write changes a record's notification.
-/

namespace Nuntium

/-! ### PDUs -/

/-- Modelled from the spec: the debug errors of the `mms` package, which is
not among the sources, one for each point of the inbound path where a local
test can force a failure (§4.E.1). The names are those of the constants the
call sites pass to `PopDebugError`. -/
inductive DebugError where
  | activateContext
  | getProxy
  | telepathyErrorNotify
  | receiveHandle
  | respondHandle
  deriving DecidableEq, Repr

/-- The fields of an M-Notification.ind that the mediator and the telepathy
service read. `fromAddress` is the PDU's `From`; `expire` is the time the
Expire header names and `received` the time of the push. `debug` is modelled
from the spec, as the `mms` package is not among the sources: `none` for a
notification of the message center, and for a local test the debug-error
markers it still carries. -/
structure MNotificationInd where
  uuid : String
  transactionId : String
  redownloadOfUUID : String
  fromAddress : String
  size : Nat
  expire : Nat
  received : Nat
  debug : Option (List DebugError)
  deriving DecidableEq, Repr

/-- Modelled from the spec: `MNotificationInd.Expired` of the `mms` package,
which is not among the sources (§3): the wall clock `now` is past the Expire
time. -/
def MNotificationInd.expired (now : Nat) (n : MNotificationInd) : Bool :=
  decide (n.expire < now)

/-- Modelled from the spec: `MNotificationInd.IsDebug` of the `mms` package,
which is not among the sources: the notification is a local test. It stays
one after its last marker is popped. -/
def MNotificationInd.isDebug (n : MNotificationInd) : Bool :=
  n.debug.isSome

/-- Modelled from the spec: `MNotificationInd.PopDebugError(e)` of the `mms`
package, which is not among the sources. When the notification carries the
marker `e`, the marker is removed and its error forced: the result is the
notification left behind. Otherwise the error is nil (`none`) and the
notification is unchanged. -/
def MNotificationInd.popDebugError (e : DebugError) (n : MNotificationInd) :
    Option MNotificationInd :=
  match n.debug with
  | some es => if e ∈ es then some { n with debug := some (es.erase e) } else none
  | none => none

/-- Whether the notification carries the marker `e`. -/
def MNotificationInd.hasDebugError (e : DebugError) (n : MNotificationInd) : Bool :=
  match n.debug with
  | some es => decide (e ∈ es)
  | none => false

/-- The notification with its debug markers dropped; a local test stays one.
A pop changes nothing else. -/
def MNotificationInd.unmarked (n : MNotificationInd) : MNotificationInd :=
  { n with debug := n.debug.map fun _ => [] }

namespace MNotificationInd

variable {e : DebugError} {n n' : MNotificationInd}

/-- A pop forces an error exactly when the marker is there, and changes only
the markers. -/
theorem popDebugError_eq_some :
    n.popDebugError e = some n' ↔
      ∃ es, n.debug = some es ∧ e ∈ es ∧ n' = { n with debug := some (es.erase e) } := by
  unfold popDebugError
  rcases n.debug with _ | es
  · simp
  · by_cases h : e ∈ es <;> simp [h, eq_comm]

theorem popDebugError_eq_none : n.popDebugError e = none ↔ n.hasDebugError e = false := by
  unfold popDebugError hasDebugError
  rcases n.debug with _ | es
  · simp
  · by_cases h : e ∈ es <;> simp [h]

theorem popDebugError_of_not_debug (h : n.isDebug = false) : n.popDebugError e = none := by
  simp_all [popDebugError, isDebug]

theorem hasDebugError_of_not_debug (h : n.isDebug = false) : n.hasDebugError e = false :=
  popDebugError_eq_none.mp (popDebugError_of_not_debug h)

/-- What a pop leaves is the same local test, with one marker fewer. -/
theorem popDebugError_fields (h : n.popDebugError e = some n') :
    n'.uuid = n.uuid ∧ n'.transactionId = n.transactionId ∧
      n'.redownloadOfUUID = n.redownloadOfUUID ∧ n'.fromAddress = n.fromAddress ∧
      n'.size = n.size ∧ n'.expire = n.expire ∧ n'.received = n.received ∧
      n'.isDebug = true ∧ n.isDebug = true := by
  obtain ⟨es, hes, -, rfl⟩ := popDebugError_eq_some.mp h
  simp [isDebug, hes]

theorem isDebug_of_pop (h : n.popDebugError e = some n') : n'.isDebug = true := by
  obtain ⟨es, -, -, rfl⟩ := popDebugError_eq_some.mp h
  rfl

/-- A pop never adds a marker. -/
theorem hasDebugError_of_pop {e' : DebugError} (h : n.popDebugError e = some n')
    (h' : n.hasDebugError e' = false) : n'.hasDebugError e' = false := by
  obtain ⟨es, hes, -, rfl⟩ := popDebugError_eq_some.mp h
  simp only [hasDebugError, hes, decide_eq_false_iff_not] at h' ⊢
  exact fun hm => h' (List.mem_of_mem_erase hm)

theorem popDebugError_unmarked (h : n.popDebugError e = some n') : n'.unmarked = n.unmarked := by
  obtain ⟨es, hes, -, rfl⟩ := popDebugError_eq_some.mp h
  simp [unmarked, hes]

@[simp] theorem unmarked_unmarked : n.unmarked.unmarked = n.unmarked := by
  simp [unmarked, Option.map_map, Function.comp_def]

@[simp] theorem unmarked_uuid : n.unmarked.uuid = n.uuid := rfl
@[simp] theorem unmarked_transactionId : n.unmarked.transactionId = n.transactionId := rfl
@[simp] theorem unmarked_redownloadOfUUID : n.unmarked.redownloadOfUUID = n.redownloadOfUUID := rfl
@[simp] theorem unmarked_fromAddress : n.unmarked.fromAddress = n.fromAddress := rfl
@[simp] theorem unmarked_expire : n.unmarked.expire = n.expire := rfl
@[simp] theorem unmarked_received : n.unmarked.received = n.received := rfl
@[simp] theorem unmarked_isDebug : n.unmarked.isDebug = n.isDebug := by
  simp [unmarked, isDebug]
@[simp] theorem unmarked_expired (now : Nat) : n.unmarked.expired now = n.expired now := rfl

theorem uuid_of_unmarked (h : n.unmarked = n'.unmarked) : n.uuid = n'.uuid := by
  simpa using congrArg uuid h

theorem transactionId_of_unmarked (h : n.unmarked = n'.unmarked) : n.transactionId = n'.transactionId := by
  simpa using congrArg transactionId h

theorem expired_of_unmarked (h : n.unmarked = n'.unmarked) (now : Nat) : n.expired now = n'.expired now := by
  simpa using congrArg (expired now) h

end MNotificationInd

/-- One data part of a retrieved message, as `GetDataParts` lists it. -/
structure DataPart where
  contentId : String
  mediaType : String
  offset : Nat
  length : Nat
  deriving DecidableEq, Repr

/-- The decoded M-Retrieve.conf. `uuid` is the one `NewMRetrieveConf` was given;
the rest is decoded from the downloaded PDU (`fromAddress` and `toAddress` are
its `From` and `To`). -/
structure MRetrieveConf where
  uuid : String
  fromAddress : String
  toAddress : List String
  subject : String
  date : Nat
  smil : Option String
  dataParts : List DataPart
  deriving DecidableEq, Repr

namespace Storage

/-! ### Records -/

/-- `storage.NOTIFICATION`, ..., `storage.SENT` (`storage/const.go`). -/
inductive State where
  | notification
  | downloaded
  | received
  | responded
  | draft
  | sent
  deriving DecidableEq, Repr

/-- `storage.MMSState`: the persisted record of one message. -/
structure MMSState where
  state : State
  modemId : String
  mNotificationInd : Option MNotificationInd
  telepathyErrorNotified : Bool
  contentLocation : String
  deriving DecidableEq, Repr

/-- Modelled from the spec: `MMSState.IsIncoming` of the `storage` package,
which is not among the sources (§3, invariant 4). -/
def MMSState.isIncoming (st : MMSState) : Bool :=
  match st.state with
  | .notification | .downloaded | .received | .responded => true
  | .draft | .sent => false

/-- The record `Create` files for a fresh notification. -/
def MMSState.ofNotification (modemId : String) (n : MNotificationInd) : MMSState :=
  ⟨.notification, modemId, some n, false, ""⟩

/-- The record with the debug markers of its notification dropped, which is
all that popping a marker leaves unchanged. -/
def MMSState.unmarked (st : MMSState) : MMSState :=
  { st with mNotificationInd := st.mNotificationInd.map MNotificationInd.unmarked }

theorem MMSState.unmarked_eq_withState {st st' : MMSState} {x : State} :
    st'.unmarked = { st.unmarked with state := x } ↔
      st'.state = x ∧ st'.modemId = st.modemId ∧
        st'.mNotificationInd.map MNotificationInd.unmarked =
          st.mNotificationInd.map MNotificationInd.unmarked ∧
        st'.telepathyErrorNotified = st.telepathyErrorNotified ∧
        st'.contentLocation = st.contentLocation := by
  cases st; cases st'; simp [MMSState.unmarked]

/-- Writing back a notification with markers popped keeps the unmarked
record. -/
theorem MMSState.unmarked_setNotification {st : MMSState} {n n' : MNotificationInd}
    (hn : st.mNotificationInd = some n) (h : n'.unmarked = n.unmarked) :
    ({ st with mNotificationInd := some n' } : MMSState).unmarked = st.unmarked := by
  simp [MMSState.unmarked, hn, h]

/-! ### The store -/

/-- The store: at most one record per UUID, each record that holds a
notification filed under that notification's UUID. `keys` lists the stored
UUIDs, each once, as a directory listing does. -/
structure Store where
  records : String → Option MMSState
  keys : List String
  keyed : ∀ {uuid st n}, records uuid = some st → st.mNotificationInd = some n → n.uuid = uuid
  mem_keys : ∀ uuid, (records uuid).isSome ↔ uuid ∈ keys
  nodup : keys.Nodup

/-- Stores with the same records and the same listing are equal. -/
theorem Store.ext {s s' : Store} (hr : s.records = s'.records) (hk : s.keys = s'.keys) : s = s' := by
  cases s; cases s'; subst hr hk; rfl

/-- The empty store. -/
def Store.empty : Store := ⟨fun _ => none, [], (fun h _ => by cases h), (by simp), List.nodup_nil⟩

/-- Remove whatever is filed under `uuid`. -/
def Store.erase (s : Store) (uuid : String) : Store where
  records := Function.update s.records uuid none
  keys := s.keys.erase uuid
  keyed := by
    intro u st n h hn
    by_cases hu : u = uuid
    · subst hu; simp at h
    · rw [Function.update_noteq hu] at h
      exact s.keyed h hn
  mem_keys := by
    intro u
    rw [s.nodup.mem_erase_iff, ← s.mem_keys]
    by_cases hu : u = uuid
    · subst hu; simp
    · simp [hu, Function.update_noteq hu]
  nodup := s.nodup.erase uuid

/-- File `n`'s fresh record under its own UUID. -/
def Store.file (s : Store) (modemId : String) (n : MNotificationInd) : Store where
  records := Function.update s.records n.uuid (some (.ofNotification modemId n))
  keys := s.keys.insert n.uuid
  keyed := by
    intro u st m h hm
    by_cases hu : u = n.uuid
    · subst hu
      simp only [Function.update_same, Option.some.injEq] at h
      subst h
      cases hm
      rfl
    · rw [Function.update_noteq hu] at h
      exact s.keyed h hm
  mem_keys := by
    intro u
    rw [List.mem_insert_iff, ← s.mem_keys]
    by_cases hu : u = n.uuid
    · subst hu; simp
    · simp [hu, Function.update_noteq hu]
  nodup := s.nodup.insert

/-- Rewrite the record under `uuid` by `f`, which keeps the notification. -/
def Store.modify (s : Store) (uuid : String) (f : MMSState → MMSState)
    (hf : ∀ st, (f st).mNotificationInd = st.mNotificationInd) : Store where
  records := Function.update s.records uuid ((s.records uuid).map f)
  keys := s.keys
  keyed := by
    intro u st n h hn
    by_cases hu : u = uuid
    · subst hu
      simp only [Function.update_same, Option.map_eq_some'] at h
      obtain ⟨st₀, h₀, rfl⟩ := h
      exact s.keyed h₀ (by rw [← hf st₀]; exact hn)
    · rw [Function.update_noteq hu] at h
      exact s.keyed h hn
  mem_keys := by
    intro u
    rw [← s.mem_keys]
    by_cases hu : u = uuid
    · subst hu; simp
    · simp [Function.update_noteq hu]
  nodup := s.nodup

/-- Put `n` in the record filed under its UUID. -/
def Store.setNotification (s : Store) (n : MNotificationInd) : Store where
  records := Function.update s.records n.uuid
    ((s.records n.uuid).map fun st => { st with mNotificationInd := some n })
  keys := s.keys
  keyed := by
    intro u st m h hm
    by_cases hu : u = n.uuid
    · subst hu
      simp only [Function.update_same, Option.map_eq_some'] at h
      obtain ⟨_, -, rfl⟩ := h
      cases hm
      rfl
    · rw [Function.update_noteq hu] at h
      exact s.keyed h hm
  mem_keys := by
    intro u
    rw [← s.mem_keys]
    by_cases hu : u = n.uuid
    · subst hu; simp
    · simp [Function.update_noteq hu]
  nodup := s.nodup

section Records

variable (s : Store) (uuid u : String)

@[simp] theorem empty_records : Store.empty.records u = none := rfl

@[simp] theorem erase_records :
    (s.erase uuid).records u = if u = uuid then none else s.records u := by
  simp [Store.erase, Function.update_apply]

@[simp] theorem file_records (modemId : String) (n : MNotificationInd) :
    (s.file modemId n).records u =
      if u = n.uuid then some (.ofNotification modemId n) else s.records u := by
  simp [Store.file, Function.update_apply]

@[simp] theorem modify_records (f : MMSState → MMSState)
    (hf : ∀ st, (f st).mNotificationInd = st.mNotificationInd) :
    (s.modify uuid f hf).records u = if u = uuid then (s.records u).map f else s.records u := by
  by_cases h : u = uuid
  · subst h; simp [Store.modify]
  · simp [Store.modify, Function.update_noteq h, h]

@[simp] theorem setNotification_records (n : MNotificationInd) :
    (s.setNotification n).records u =
      if u = n.uuid then (s.records u).map fun st => { st with mNotificationInd := some n }
      else s.records u := by
  by_cases h : u = n.uuid
  · subst h; simp [Store.setNotification]
  · simp [Store.setNotification, Function.update_noteq h, h]

@[simp] theorem setNotification_keys (n : MNotificationInd) : (s.setNotification n).keys = s.keys :=
  rfl

theorem erase_records_eq : (s.erase uuid).records = Function.update s.records uuid none := rfl

theorem modify_records_eq (f : MMSState → MMSState)
    (hf : ∀ st, (f st).mNotificationInd = st.mNotificationInd) :
    (s.modify uuid f hf).records = Function.update s.records uuid ((s.records uuid).map f) := rfl

end Records

/-! ### Operations (modelled from the spec, §4.A) -/

/-- Modelled from the spec: `storage.Create`, of the `storage` package, which
is not among the sources: file a fresh record in state NOTIFICATION. -/
def create (ok : Bool) (s : Store) (modemId : String) (n : MNotificationInd) : Option Store :=
  if ok then some (s.file modemId n) else none

/-- Modelled from the spec: `storage.GetMMSState`, of the `storage` package,
which is not among the sources. -/
def getMMSState (s : Store) (uuid : String) : Option MMSState :=
  s.records uuid

/-- Modelled from the spec: `storage.Destroy`, of the `storage` package, which
is not among the sources: remove the record and its content. -/
def destroy (ok : Bool) (s : Store) (uuid : String) : Option Store :=
  if ok then some (s.erase uuid) else none

/-- Modelled from the spec: a state transition of the `storage` package, which
is not among the sources. It requires the record under `uuid` to be in state
`src` and rewrites it by `f`. `UpdateDownloaded`, `UpdateReceived` and
`UpdateResponded` are its instances. -/
def advance (ok : Bool) (s : Store) (uuid : String) (src : State) (f : MMSState → MMSState)
    (hf : ∀ st, (f st).mNotificationInd = st.mNotificationInd) : Option Store :=
  match s.records uuid with
  | some st => if ok ∧ st.state = src then some (s.modify uuid f hf) else none
  | none => none

/-- Modelled from the spec: `storage.UpdateDownloaded`, of the `storage`
package, which is not among the sources: NOTIFICATION to DOWNLOADED, keeping
the downloaded file as the record's content. -/
def updateDownloaded (ok : Bool) (s : Store) (uuid filePath : String) : Option Store :=
  advance ok s uuid .notification
    (fun st => { st with state := .downloaded, contentLocation := filePath }) fun _ => rfl

/-- Modelled from the spec: `storage.UpdateReceived`, of the `storage`
package, which is not among the sources: DOWNLOADED to RECEIVED. -/
def updateReceived (ok : Bool) (s : Store) (uuid : String) : Option Store :=
  advance ok s uuid .downloaded (fun st => { st with state := .received }) fun _ => rfl

/-- Modelled from the spec: `storage.UpdateResponded`, of the `storage`
package, which is not among the sources: RECEIVED to RESPONDED. -/
def updateResponded (ok : Bool) (s : Store) (uuid : String) : Option Store :=
  advance ok s uuid .received (fun st => { st with state := .responded }) fun _ => rfl

/-- Modelled from the spec: `storage.SetTelepathyErrorNotified`, of the
`storage` package, which is not among the sources: set the flag of an
existing record. -/
def setTelepathyErrorNotified (ok : Bool) (s : Store) (uuid : String) : Option Store :=
  match s.records uuid with
  | some _ =>
      if ok then some (s.modify uuid (fun st => { st with telepathyErrorNotified := true })
        fun _ => rfl) else none
  | none => none

/-- Modelled from the spec: `storage.UpdateMNotificationInd`, of the `storage`
package, which is not among the sources: overwrite the notification of the
record filed under its UUID. -/
def updateMNotificationInd (ok : Bool) (s : Store) (n : MNotificationInd) : Option Store :=
  match s.records n.uuid with
  | some _ => if ok then some (s.setNotification n) else none
  | none => none

/-- Modelled from the spec: `storage.GetMMS`, of the `storage` package, which is
not among the sources: the downloaded content of the record, if it has one. -/
def getMMS (s : Store) (uuid : String) : Option String :=
  match s.records uuid with
  | some st => if st.contentLocation = "" then none else some st.contentLocation
  | none => none

/-! ### What the operations do -/

/-- A transition succeeds exactly on a record in its source state, and then
rewrites that record only. -/
theorem advance_eq_some {ok : Bool} {s s' : Store} {uuid : String} {src : State}
    {f : MMSState → MMSState} {hf : ∀ st, (f st).mNotificationInd = st.mNotificationInd} :
    advance ok s uuid src f hf = some s' ↔
      ok = true ∧ (∃ st, s.records uuid = some st ∧ st.state = src) ∧ s' = s.modify uuid f hf := by
  unfold advance
  rcases h : s.records uuid with _ | st
  · simp
  · by_cases hc : ok = true ∧ st.state = src
    · simp [hc, eq_comm]
    · simp only [hc, ite_false, reduceCtorEq, false_iff]
      rintro ⟨hok, ⟨st', hst', hsrc⟩, -⟩
      cases hst'
      exact hc ⟨hok, hsrc⟩

/-- An `UpdateMNotificationInd` whose failure is ignored: on a missing record
the write fails and changes nothing, as writing would not either. -/
theorem updateMNotificationInd_getD (ok : Bool) (s : Store) (n : MNotificationInd) :
    (updateMNotificationInd ok s n).getD s = if ok then s.setNotification n else s := by
  unfold updateMNotificationInd
  rcases h : s.records n.uuid with _ | st
  · have : s.setNotification n = s := Store.ext (funext fun u => by
      by_cases hu : u = n.uuid
      · subst hu; simp [h]
      · simp [hu]) rfl
    cases ok <;> simp [this]
  · cases ok <;> rfl

theorem updateMNotificationInd_eq_some {ok : Bool} {s s' : Store} {n : MNotificationInd} :
    updateMNotificationInd ok s n = some s' ↔
      ok = true ∧ (s.records n.uuid).isSome ∧ s' = s.setNotification n := by
  unfold updateMNotificationInd
  rcases s.records n.uuid with _ | st
  · simp
  · cases ok <;> simp [eq_comm]

end Storage

end Nuntium
