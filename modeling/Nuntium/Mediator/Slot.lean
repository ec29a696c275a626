import Nuntium.Mediator.Startup

/-!
# One visit of the startup pass, on its slot

An abstract model of one iteration of `initializeMessages`: what a visit does
to the part of the world it owns. That part, the visit's `Slot`, is the record
under the visited UUID, the message object at the UUID's path, and the
registry entry of the record's transaction. The model is stated over slots and
is not translated from the source; `Nuntium.Mediator.Refinement` proves that
the faithful `initializeMessage` acts on the world as `Slot.visit` acts on the
visit's slot, and touches nothing else the pass reads.

`View` is what the pass reads and writes of a world, apart from what it only
appends (re-fed notifications, signals, uploads, scratch files). `View.put`
writes a slot back; puts at different UUIDs and transactions commute.

* `View.slot_put`, `View.put_put`, `View.put_slot` — a slot is read back as
  written, a second write replaces the first, and writing back what was read
  changes nothing.
* `View.put_comm` — writes of two visits commute when they own different
  UUIDs and either different transactions or agree on the entry.
-/

namespace Nuntium

/-- Replace the object at `u`'s path of a service. -/
def MMSService.setObject (svc : MMSService) (u : String) (mi : Option MessageInterface) :
    MMSService :=
  { svc with messageHandlers := Function.update svc.messageHandlers (genMessagePath (some svc) u) mi }

@[simp] theorem genMessagePath_setObject (svc : MMSService) (u v : String)
    (mi : Option MessageInterface) :
    genMessagePath (some (svc.setObject u mi)) v = genMessagePath (some svc) v := rfl

@[simp] theorem MMSService.setObject_messageHandlers (svc : MMSService) (u : String)
    (mi : Option MessageInterface) :
    (svc.setObject u mi).messageHandlers =
      Function.update svc.messageHandlers (genMessagePath (some svc) u) mi := rfl

theorem MMSService.setObject_setObject (svc : MMSService) (u : String)
    (mi mi' : Option MessageInterface) :
    (svc.setObject u mi).setObject u mi' = svc.setObject u mi' := by
  unfold setObject
  congr 1
  exact Function.update_idem _ _ _

/-- What the startup pass reads and writes of a world, apart from what it only
appends. -/
@[ext] structure Mediator.View where
  records : String → Option Storage.MMSState
  unresponded : String → Option String
  service : Option MMSService
  clock : Nat

/-- The view of a world. -/
def World.view (w : World) : Mediator.View :=
  ⟨w.store.records, w.unrespondedTransactions, w.telepathyService, w.clock⟩

end Nuntium

namespace Nuntium.Mediator

open Storage Telepathy

/-! ### Slots -/

/-- The part of a view one visit owns: a record, the object at the record's
path, and the registry entry of the record's transaction. -/
@[ext] structure Slot where
  record : Option MMSState
  handler : Option MessageInterface
  entry : Option String
  deriving DecidableEq

/-- The transaction a record's notification names; the empty one when there
is none. -/
def txOf : Option MMSState → String
  | some st => (st.mNotificationInd.map (·.transactionId)).getD ""
  | none => ""

namespace View

variable (v : View) (u tx : String) (s : Slot)

/-- The object at `u`'s path. -/
def object : Option MessageInterface :=
  v.service.bind fun svc => svc.messageHandlers (genMessagePath (some svc) u)

/-- The slot of `u`, whose record names the transaction `tx`. -/
def slot : Slot := ⟨v.records u, v.object u, v.unresponded tx⟩

/-- Write the slot of `u` back. -/
def put : View where
  records := Function.update v.records u s.record
  unresponded := Function.update v.unresponded tx s.entry
  service := v.service.map fun svc => svc.setObject u s.handler
  clock := v.clock

@[simp] theorem slot_record : (v.slot u tx).record = v.records u := rfl
@[simp] theorem slot_handler : (v.slot u tx).handler = v.object u := rfl
@[simp] theorem slot_entry : (v.slot u tx).entry = v.unresponded tx := rfl

@[simp] theorem put_records : (v.put u tx s).records = Function.update v.records u s.record := rfl
@[simp] theorem put_unresponded :
    (v.put u tx s).unresponded = Function.update v.unresponded tx s.entry := rfl
@[simp] theorem put_service :
    (v.put u tx s).service = v.service.map fun svc => svc.setObject u s.handler := rfl
@[simp] theorem put_clock : (v.put u tx s).clock = v.clock := rfl

theorem object_put (u' : String) :
    (v.put u tx s).object u' = if v.service.isSome ∧ u' = u then s.handler else v.object u' := by
  rcases hs : v.service with _ | svc
  · simp [object, put, hs]
  · by_cases hu : u' = u
    · subst hu; simp [object, put, hs]
    · have hp : genMessagePath (some svc) u' ≠ genMessagePath (some svc) u :=
        fun h => hu (genMessagePath_inj _ h)
      simp [object, put, hs, hu, Function.update_noteq hp]

/-- A slot is read back as it was written, on a view with a service. -/
theorem slot_put (hs : v.service.isSome) : (v.put u tx s).slot u tx = s := by
  ext <;> simp [slot, object_put, hs]

/-- A second write of the same slot replaces the first. -/
theorem put_put (s' : Slot) : (v.put u tx s).put u tx s' = v.put u tx s' := by
  ext : 1
  · simp
  · simp
  · simp only [put, Option.map_map]
    congr 1
    funext svc
    exact MMSService.setObject_setObject svc u _ _
  · rfl

/-- Writing back what was read changes nothing. -/
theorem put_slot : v.put u tx (v.slot u tx) = v := by
  ext : 1
  · simp [slot]
  · simp [slot]
  · rcases hs : v.service with _ | svc
    · simp [put, hs]
    · simp [put, hs, slot, object, MMSService.setObject]
  · rfl

/-- The slot of another UUID and another transaction is not touched. -/
theorem slot_put_ne {u' tx' : String} (hu : u' ≠ u) (htx : tx' ≠ tx) :
    (v.put u tx s).slot u' tx' = v.slot u' tx' := by
  ext <;> simp [slot, object_put, hu, htx, Function.update_noteq]

/-- The slot of another UUID sees only the entry written. -/
theorem slot_put_of_ne {u' tx' : String} (hu : u' ≠ u) :
    (v.put u tx s).slot u' tx' =
      { v.slot u' tx' with entry := Function.update v.unresponded tx s.entry tx' } := by
  ext <;> simp [slot, object_put, hu]

/-- Of two writes of one entry, only the second counts. -/
theorem put_put_entry {u' : String} (s' : Slot) (e : Option String) :
    (v.put u tx s).put u' tx s' = (v.put u tx { s with entry := e }).put u' tx s' := by
  ext : 1 <;> simp

/-- Writes of two visits commute when they own different UUIDs, and either
different transactions or write the same entry. -/
theorem put_comm {u' tx' : String} (s' : Slot) (hu : u ≠ u')
    (htx : tx ≠ tx' ∨ s.entry = s'.entry) :
    (v.put u tx s).put u' tx' s' = (v.put u' tx' s').put u tx s := by
  ext : 1
  · exact Function.update_comm hu _ _ _
  · rcases htx with htx | hsame
    · exact Function.update_comm htx _ _ _
    · by_cases h : tx = tx'
      · subst h; simp [hsame]
      · exact Function.update_comm h _ _ _
  · simp only [put, Option.map_map]
    congr 1
    funext svc
    have hp : genMessagePath (some svc) u ≠ genMessagePath (some svc) u' :=
      fun h => hu (genMessagePath_inj _ h)
    simp only [Function.comp, MMSService.setObject, genMessagePath_setObject]
    congr 1
    exact Function.update_comm hp _ _ _
  · rfl

end View

/-! ### The visit on its slot -/

namespace Slot

variable (s : Slot)

/-- `GetMMS` on the slot's record. -/
def content : Option String :=
  match s.record with
  | some st => if st.contentLocation = "" then none else some st.contentLocation
  | none => none

/-- `storage.Destroy` of the slot's record. -/
def destroy (ok : Bool) : Slot := if ok then { s with record := none } else s

/-- A state transition of the slot's record, as `UpdateReceived` and
`UpdateResponded` make it. -/
def advance (ok : Bool) (src dst : State) : Option Slot :=
  match s.record with
  | some st => if ok ∧ st.state = src then some { s with record := some { st with state := dst } }
      else none
  | none => none

/-- `UpdateMNotificationInd` of the slot's record: the record holds `n` when
the write succeeds. -/
def setNotification (ok : Bool) (n : MNotificationInd) : Slot :=
  if ok then { s with record := s.record.map fun st => { st with mNotificationInd := some n } } else s

/-- The forward of `getAndHandleMRetrieveConf` when no error object stands for
the transaction: the object is put on the bus whenever the content decodes,
and the forward succeeds when `MessageAdded` is sent. A local test with the
`ReceiveHandle` marker fails the forward instead and persists the popped
notification. Returns the slot, the notification left, and whether the
message was forwarded. -/
def forward (oc : ForwardOutcome) (n : MNotificationInd) : Slot × MNotificationInd × Bool :=
  if s.content.isSome ∧ oc.retrieveConf.isSome then
    match n.popDebugError .receiveHandle with
    | some n' => (s.setNotification oc.updateNotification n', n', false)
    | none => ({ s with handler := some ⟨false, .incoming n.transactionId⟩ }, n, oc.messageAdded)
  else (s, n, false)

/-- `respondMessage` on the slot: whether the message center counts as
notified (the M-NotifyResp.ind was uploaded, or skipped for a local test),
the notification left, and the slot. A local test with the `RespondHandle`
marker fails and persists the popped notification. -/
def respond (oc : InitOutcome) (n : MNotificationInd) : Bool × MNotificationInd × Slot :=
  if s.content.isSome && oc.forward.retrieveConf.isSome then
    if !n.isDebug then
      (oc.activateContext &&
        (oc.respond.createResponseFile && (oc.respond.encode && oc.respond.sync && oc.respond.close)) &&
        (oc.respond.messageCenter && oc.respond.upload), n, s)
    else
      match n.popDebugError .respondHandle with
      | some n' => (false, n', s.setNotification oc.updateNotification n')
      | none => (true, n, s)
  else (false, n, s)

/-- The RESPONDED arm: whether the visit starts handlers, and the slot. -/
def respondedArm (oc : InitOutcome) (check : Bool) : Bool × Slot :=
  let s : Slot := { s with entry := none }
  if check then
    match oc.history with
    | .notExists => (false, s.destroy oc.destroy)
    | .isNew false => (false, s.destroy oc.destroy)
    | _ => (true, s)
  else (true, s)

/-- The RECEIVED arm. -/
def receivedArm (oc : InitOutcome) (clock : Nat) (n : MNotificationInd) (check : Bool) :
    Bool × Option MNotificationInd × Slot :=
  let (responded, n, s) := if n.expired clock then (true, n, s) else s.respond oc n
  if responded then
    match s.advance oc.updateResponded .received .responded with
    | none => (true, none, s)
    | some s =>
        let (start, s) := s.respondedArm oc check
        (start, some n, s)
  else (true, some n, s)

/-- The switch on the record's state: whether the visit starts handlers, the
notification the record variable then holds, the notification re-fed, and
the slot. -/
def reconcile (oc : InitOutcome) (clock : Nat) (st : MMSState) (n : MNotificationInd) :
    Bool × Option MNotificationInd × Option MNotificationInd × Slot :=
  match st.state with
  | .notification =>
      if !st.telepathyErrorNotified then (false, some n, some n, s)
      else if n.expired clock then (false, some n, none, { s.destroy oc.destroy with entry := none })
      else (true, some n, none, s)
  | .downloaded =>
      match s.forward oc.forward n with
      | (s, n', false) => (true, some n', none, s)
      | (s, _, true) =>
          match s.advance oc.updateReceived .downloaded .received with
          | none => (true, none, none, s)
          | some s =>
              let (start, notif, s) := s.receivedArm oc clock n false
              (start, notif, none, s)
  | .received =>
      let (start, notif, s) := s.receivedArm oc clock n true
      (start, notif, none, s)
  | .responded =>
      let (start, s) := s.respondedArm oc true
      (start, some n, none, s)
  | .draft | .sent => (false, some n, none, s)

@[simp] theorem setNotification_handler (ok : Bool) (n : MNotificationInd) :
    (s.setNotification ok n).handler = s.handler := by
  unfold setNotification; split <;> rfl

@[simp] theorem setNotification_entry (ok : Bool) (n : MNotificationInd) :
    (s.setNotification ok n).entry = s.entry := by
  unfold setNotification; split <;> rfl

@[simp] theorem setNotification_content (ok : Bool) (n : MNotificationInd) :
    (s.setNotification ok n).content = s.content := by
  rcases s with ⟨_ | st, h, e⟩ <;> cases ok <;> rfl

/-- The forward and the acknowledgement leave the notification they were
given, or pop one of its markers. -/
theorem forward_notif (oc : ForwardOutcome) (n : MNotificationInd) :
    (s.forward oc n).2.1.unmarked = n.unmarked := by
  unfold forward
  split_ifs
  · rcases h : n.popDebugError .receiveHandle with _ | n'
    · rfl
    · exact MNotificationInd.popDebugError_unmarked h
  · rfl

theorem respond_notif (oc : InitOutcome) (n : MNotificationInd) :
    (s.respond oc n).2.1.unmarked = n.unmarked := by
  unfold respond
  split_ifs
  · rfl
  · rcases h : n.popDebugError .respondHandle with _ | n'
    · rfl
    · exact MNotificationInd.popDebugError_unmarked h
  · rfl

/-- The record variable holds the visited notification after the switch, a
debug marker popped from it, or nothing. -/
theorem receivedArm_notif {oc : InitOutcome} {clock : Nat} {n n' : MNotificationInd} {check : Bool}
    (h : (s.receivedArm oc clock n check).2.1 = some n') : n'.unmarked = n.unmarked := by
  have hr : (if n.expired clock then (true, n, s) else s.respond oc n).2.1.unmarked = n.unmarked := by
    split_ifs
    · rfl
    · exact respond_notif s oc n
  unfold receivedArm at h
  generalize (if n.expired clock then (true, n, s) else s.respond oc n) = r at h hr
  obtain ⟨b, n₁, s₁⟩ := r
  dsimp only at h hr
  split_ifs at h <;> (try split at h) <;> simp_all

theorem reconcile_notif {oc : InitOutcome} {clock : Nat} {st : MMSState} {n n' : MNotificationInd}
    (h : (s.reconcile oc clock st n).2.1 = some n') : n'.unmarked = n.unmarked := by
  unfold reconcile at h
  split at h
  · split_ifs at h <;> cases h <;> rfl
  · have hf := forward_notif s oc.forward n
    split at h
    · rename_i heq; rw [heq] at hf; cases h; exact hf
    · split at h
      · cases h
      · exact receivedArm_notif _ h
  · exact receivedArm_notif _ h
  all_goals cases h; rfl

/-- `InitializationMessageAdded`: a rescued object goes on the bus unless one
is there; a failed send leaves it. -/
def initAdded : Option MNotificationInd → Slot
  | some n => if s.handler.isNone then { s with handler := some ⟨true, .incoming n.transactionId⟩ }
      else s
  | none => s

/-- One visit of the pass on its slot, when the record's transaction was
(`seen`) or was not handled earlier in the pass: whether it marks the
transaction handled, the notification it re-feeds, and the slot after it. -/
def visit (modemId : String) (oc : InitOutcome) (clock : Nat) (seen : Bool) :
    Bool × Option MNotificationInd × Slot :=
  match s.record with
  | none => (false, none, s.destroy oc.destroy)
  | some st =>
      if !st.isIncoming then (false, none, s)
      else if st.modemId = "" then (false, none, s.destroy oc.destroy)
      else if modemId ≠ st.modemId then (false, none, s)
      else
        match st.mNotificationInd with
        | none => (false, none, s.destroy oc.destroy)
        | some n =>
            if n.transactionId ≠ "" ∧ seen then (false, none, s.destroy oc.destroy)
            else
              let s : Slot := if n.transactionId ≠ "" then { s with entry := some n.uuid } else s
              let (start, notif, refeed, s) := s.reconcile oc clock st n
              (n.transactionId ≠ "", refeed, if start then s.initAdded notif else s)

end Slot

/-- The pass's visit of `u` on a view: the slot of `u` goes through
`Slot.visit` and is written back. -/
def View.visit (modemId : String) (oc : InitOutcome) (u : String) (seen : Bool) (v : View) :
    Bool × Option MNotificationInd × View :=
  let tx := txOf (v.records u)
  let (registers, refeed, s) := (v.slot u tx).visit modemId oc v.clock seen
  (registers, refeed, v.put u tx s)

end Nuntium.Mediator
