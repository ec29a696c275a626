import Nuntium.Mediator.Slot

/-!
# The startup pass refines its slot model

`initializeMessage`, one iteration of `initializeMessages`, acts on the world
as `Slot.visit` acts on the slot of the visited UUID: its view is the old view
with the slot written back, the transaction is marked handled exactly when the
model says so, and the only notification appended to `pending` is the one the
model re-feeds. Each function the pass calls gets its own statement of this
kind, and the visit's is assembled from them.

The pass runs on a world with a service (the loop has just set it), and the
store is keyed, so the notification of the visited record names the visited
UUID. After the visit registers the record's transaction, no error object of
another message stands for it, so the forward never removes another object.
The notification a local test persists after a popped marker, with
`UpdateMNotificationInd`, is written back to the slot by `Slot.setNotification`.

* `initializeMessage_view` — the refinement of one visit.
-/

namespace Nuntium.Mediator

open Storage Telepathy

/-! ### Views of worlds -/

namespace World

variable (w : World) (u tx : String)

@[simp] theorem view_records : w.view.records = w.store.records := rfl
@[simp] theorem view_unresponded : w.view.unresponded = w.unrespondedTransactions := rfl
@[simp] theorem view_service : w.view.service = w.telepathyService := rfl
@[simp] theorem view_clock : w.view.clock = w.clock := rfl

@[simp] theorem view_object : w.view.object u = w.handlers (genMessagePath w.telepathyService u) := by
  simp only [View.object, World.handlers, view_service]; cases w.telepathyService <;> rfl

/-- Putting back the object that is there changes no service. -/
@[simp] theorem map_setObject_handlers :
    w.telepathyService.map (fun svc => svc.setObject u (w.handlers (genMessagePath w.telepathyService u))) =
      w.telepathyService := by
  rcases hs : w.telepathyService with _ | svc
  · rfl
  · simp [World.handlers, hs, MMSService.setObject]

theorem view_setUnresponded (e : Option String) :
    (w.setUnresponded tx e).view = w.view.put u tx { w.view.slot u tx with entry := e } := by
  ext : 1 <;> simp

theorem view_setHandler {svc : MMSService} (hsvc : w.telepathyService = some svc)
    (mi : Option MessageInterface) :
    (w.setHandler (genMessagePath (some svc) u) mi).view =
      w.view.put u tx { w.view.slot u tx with handler := mi } := by
  ext : 1 <;> simp [World.setHandler, hsvc, MMSService.setObject]

@[simp] theorem view_emit (sig : Signal) : (w.emit sig).view = w.view := rfl

/-- `UpdateMNotificationInd` of the visited record is the slot's. -/
theorem view_updateNotification (ok : Bool) (n : MNotificationInd) :
    (w.updateNotification ok n).view =
      w.view.put n.uuid tx ((w.view.slot n.uuid tx).setNotification ok n) := by
  cases ok <;> ext : 1 <;> simp [Slot.setNotification, Store.setNotification]

end World

section Steps

variable {w : World} {svc : MMSService} (u tx : String)

theorem destroyMessage_view (ok : Bool) (w : World) :
    (destroyMessage ok u w).view = w.view.put u tx ((w.view.slot u tx).destroy ok) := by
  cases ok <;> ext : 1 <;> simp [destroyMessage, destroy, Slot.destroy, erase_records_eq]

@[simp] theorem destroyMessage_pending (ok : Bool) (w : World) :
    (destroyMessage ok u w).pending = w.pending := rfl

/-- A state transition of the store on the visited record is the slot's. -/
theorem advance_view (ok : Bool) (src dst : State) (w : World) :
    (advance ok w.store u src (fun st => { st with state := dst }) fun _ => rfl).map
        (fun store => ({ w with store } : World).view) =
      ((w.view.slot u tx).advance ok src dst).map (w.view.put u tx) := by
  unfold advance Slot.advance
  rcases hr : w.store.records u with _ | st
  · simp [hr]
  · by_cases hc : ok = true ∧ st.state = src
    · simp only [View.slot_record, World.view_records, hr, hc, and_self, ite_true, Option.map_some',
        Option.some.injEq]
      ext : 1 <;> simp [modify_records_eq, hr]
    · simp [hr, hc]

theorem slot_content (w : World) : (w.view.slot u tx).content = getMMS w.store u := rfl

theorem getMRetrieveConf_isSome (rc : Option MRetrieveConf) (w : World) :
    (getMRetrieveConf rc w.store u).isSome = ((w.view.slot u tx).content.isSome && rc.isSome) := by
  rw [slot_content]
  unfold getMRetrieveConf
  split <;> simp_all

@[simp] theorem handleMNotifyRespInd_view (oc : RespondOutcome) (uuid : String) (w : World) :
    (handleMNotifyRespInd oc uuid w).1.view = w.view := by
  unfold handleMNotifyRespInd; split <;> rfl

@[simp] theorem handleMNotifyRespInd_pending (oc : RespondOutcome) (uuid : String) (w : World) :
    (handleMNotifyRespInd oc uuid w).1.pending = w.pending := by
  unfold handleMNotifyRespInd; split <;> rfl

theorem handleMNotifyRespInd_written (oc : RespondOutcome) (uuid : String) (w : World) :
    (handleMNotifyRespInd oc uuid w).2 = (oc.createResponseFile && (oc.encode && oc.sync && oc.close)) := by
  unfold handleMNotifyRespInd; split <;> simp_all

@[simp] theorem sendMNotifyRespInd_view (oc : RespondOutcome) (uuid : String) (w : World) :
    (sendMNotifyRespInd oc uuid w).1.view = w.view := by
  unfold sendMNotifyRespInd; dsimp only; split <;> rfl

@[simp] theorem sendMNotifyRespInd_pending (oc : RespondOutcome) (uuid : String) (w : World) :
    (sendMNotifyRespInd oc uuid w).1.pending = w.pending := by
  unfold sendMNotifyRespInd; dsimp only; split <;> rfl

@[simp] theorem sendMNotifyRespInd_uploaded (oc : RespondOutcome) (uuid : String) (w : World) :
    (sendMNotifyRespInd oc uuid w).2 = (oc.messageCenter && oc.upload) := rfl

/-- `respondMessage` acts on the view as the slot model says: it uploads, or
forces the failure of a local test and persists the popped notification, as
the model says. -/
theorem respondMessage_view (oc : InitOutcome) (n : MNotificationInd) (w : World) :
    let r := respondMessage oc n w
    let r' := (w.view.slot n.uuid tx).respond oc n
    r.1.view = w.view.put n.uuid tx r'.2.2 ∧ r.1.pending = w.pending ∧ r.2.1 = r'.2.1 ∧
      r.2.2 = r'.1 := by
  have hsome := getMRetrieveConf_isSome n.uuid tx oc.forward.retrieveConf w
  intro r r'
  simp only [r, r', respondMessage, Slot.respond]
  rcases hm : getMRetrieveConf oc.forward.retrieveConf w.store n.uuid with _ | m <;>
    rw [hm] at hsome <;> rw [← hsome]
  · simp [View.put_slot]
  cases hd : n.isDebug
  · cases hact : oc.activateContext
    · simp [View.put_slot]
    · generalize hr : handleMNotifyRespInd oc.respond m.uuid w = r
      have hw := handleMNotifyRespInd_written oc.respond m.uuid w
      have hv := handleMNotifyRespInd_view oc.respond m.uuid w
      have hp := handleMNotifyRespInd_pending oc.respond m.uuid w
      rw [hr] at hw hv hp
      rcases r with ⟨w₁, _ | _⟩ <;> simp_all [View.put_slot]
  · rcases hp : n.popDebugError .respondHandle with _ | n'
    · simp [View.put_slot]
    · have hu : n'.uuid = n.uuid := (MNotificationInd.popDebugError_fields hp).1
      have hv := World.view_updateNotification w tx oc.updateNotification n'
      rw [hu] at hv
      simp [hv]

@[simp] theorem messageAdded_view (sent : Bool) (p : String) (props : Properties) (w : World) :
    (messageAdded sent p props w).1.view = w.view := by
  unfold messageAdded; split <;> rfl

/-- `IncomingMessageAdded` of the visited message writes the slot's object. -/
theorem incomingMessageAdded_view (hsvc : w.telepathyService = some svc) (updated sent : Bool)
    {m : MRetrieveConf} {n : MNotificationInd} (hdebug : n.hasDebugError .receiveHandle = false)
    (hcontent : (getMMS w.store m.uuid).isSome) :
    (incomingMessageAdded updated sent m n w).1.view =
        w.view.put m.uuid tx { w.view.slot m.uuid tx with handler := some ⟨false, .incoming n.transactionId⟩ } ∧
      (incomingMessageAdded updated sent m n w).1.pending = w.pending := by
  obtain ⟨props, hp⟩ := parseMessage_ok (some svc) hcontent
  simp only [incomingMessageAdded, hsvc, hp, MNotificationInd.popDebugError_eq_none.mpr hdebug,
    messageAdded_view]
  exact ⟨World.view_setHandler w m.uuid tx hsvc _, by simp⟩

/-- The forward of the visited message, when no error object stands for its
transaction, is the slot's. -/
theorem getAndHandleMRetrieveConf_view (hsvc : w.telepathyService = some svc)
    (oc : ForwardOutcome) (n : MNotificationInd) (hsup : supersedes w n = none) :
    let r := getAndHandleMRetrieveConf oc n w
    let f := (w.view.slot n.uuid tx).forward oc n
    r.1.view = w.view.put n.uuid tx f.1 ∧ r.1.pending = w.pending ∧ r.2.1 = f.2.1 ∧
      r.2.2.isSome = f.2.2 ∧ ∀ m, r.2.2 = some m → m.uuid = n.uuid := by
  have hsome := getMRetrieveConf_isSome n.uuid tx oc.retrieveConf w
  intro r f
  simp only [r, f, getAndHandleMRetrieveConf, hsup, Slot.forward]
  rcases hm : getMRetrieveConf oc.retrieveConf w.store n.uuid with _ | m
  · rw [hm] at hsome
    have hc : ¬((w.view.slot n.uuid tx).content.isSome = true ∧ oc.retrieveConf.isSome = true) := by
      rintro ⟨h₁, h₂⟩; simp [h₁, h₂] at hsome
    rw [if_neg hc]
    simp [View.put_slot]
  rw [hm] at hsome
  obtain ⟨hcontent, hmu⟩ := getMRetrieveConf_some hm
  simp only [Option.isSome_some, Bool.true_eq, Bool.and_eq_true] at hsome
  rw [if_pos hsome]
  simp only [Bool.false_eq_true, ite_false]
  rcases hpop : n.popDebugError .receiveHandle with _ | n'
  · have hdebug := MNotificationInd.popDebugError_eq_none.mp hpop
    have hok := incomingMessageAdded_ok oc.updateNotification oc.messageAdded hsvc hdebug
      (hmu ▸ hcontent)
    obtain ⟨hv, hp⟩ := incomingMessageAdded_view tx hsvc oc.updateNotification oc.messageAdded hdebug
      (hmu ▸ hcontent)
    have hn := (incomingMessageAdded_kept oc.updateNotification oc.messageAdded m w hdebug).1
    rw [hmu] at hv
    rcases hr : incomingMessageAdded oc.updateNotification oc.messageAdded m n w with ⟨w₁, n₁, _ | _⟩ <;>
      simp only [hr] at hv hp hok hn ⊢
    · exact ⟨hv, hp, hn, by simpa using hok.symm, by simp⟩
    · exact ⟨hv, hp, hn, by simpa using hok.symm, by simp [hmu]⟩
  · have hu : n'.uuid = n.uuid := (MNotificationInd.popDebugError_fields hpop).1
    have hv := World.view_updateNotification w tx oc.updateNotification n'
    rw [hu] at hv
    simp [incomingMessageAdded_popped oc.updateNotification oc.messageAdded m hsvc hpop, hv]

/-- The destroy of a visit after other writes to its slot. -/
theorem destroyMessage_view_of_put {w₁ : World} {s : Slot} (hsvc : w.telepathyService.isSome)
    (h₁ : w₁.view = w.view.put u tx s) (ok : Bool) :
    (destroyMessage ok u w₁).view = w.view.put u tx (s.destroy ok) := by
  rw [destroyMessage_view u tx, h₁, View.slot_put _ _ _ _ hsvc, View.put_put]

/-- The RESPONDED arm is the slot's. -/
theorem respondedArm_view (hsvc : w.telepathyService.isSome) (oc : InitOutcome)
    (n : MNotificationInd) (check : Bool) :
    let r := respondedArm oc u n check w
    let r' := (w.view.slot u n.transactionId).respondedArm oc check
    r.1 = r'.1 ∧ r.2.view = w.view.put u n.transactionId r'.2 ∧ r.2.pending = w.pending := by
  have h₁ := World.view_setUnresponded w u n.transactionId none
  have hd := destroyMessage_view_of_put _ _ hsvc h₁
  intro r r'
  simp only [r, r', respondedArm, Slot.respondedArm]
  cases check
  · simp [h₁]
  · rcases oc.history with _ | _ | _ | _ | _ <;> simp [h₁, hd]

/-- A transition on the visited record either fails on the world and on the
slot, or succeeds on both with the same slot. -/
theorem advance_view_cases (ok : Bool) (src dst : State) (w : World) :
    (advance ok w.store u src (fun st => { st with state := dst }) (fun _ => rfl) = none ∧
        (w.view.slot u tx).advance ok src dst = none) ∨
      ∃ store s, advance ok w.store u src (fun st => { st with state := dst }) (fun _ => rfl) = some store ∧
        (w.view.slot u tx).advance ok src dst = some s ∧ ({ w with store } : World).view = w.view.put u tx s := by
  have h := advance_view u tx ok src dst w
  rcases ha : advance ok w.store u src (fun st => { st with state := dst }) (fun _ => rfl) with _ | store
  · rw [ha, Option.map_none'] at h
    exact .inl ⟨rfl, Option.map_eq_none'.mp h.symm⟩
  · rw [ha, Option.map_some'] at h
    obtain ⟨s, hs, hv⟩ := Option.map_eq_some'.mp h.symm
    exact .inr ⟨store, s, rfl, hs, hv.symm⟩

/-- The RECEIVED arm is the slot's. -/
theorem receivedArm_view (hsvc : w.telepathyService.isSome) (oc : InitOutcome)
    (n : MNotificationInd) (hu : n.uuid = u) (check : Bool) :
    let r := receivedArm oc u n check w
    let r' := (w.view.slot u n.transactionId).receivedArm oc w.clock n check
    r.1 = r'.1 ∧ r.2.1 = r'.2.1 ∧ r.2.2.view = w.view.put u n.transactionId r'.2.2 ∧
      r.2.2.pending = w.pending := by
  intro r r'
  subst hu
  set tx := n.transactionId
  have hsv : w.view.service.isSome := hsvc
  -- the acknowledgement, unless the message has expired
  obtain ⟨w₁, n₁, b, s₁, hpair, hpair', hv₁, hp₁, hn₁⟩ : ∃ w₁ n₁ b s₁,
      (if n.expired w.clock then (w, n, true) else respondMessage oc n w) = (w₁, n₁, b) ∧
      (if n.expired w.clock then (true, n, w.view.slot n.uuid tx)
        else (w.view.slot n.uuid tx).respond oc n) = (b, n₁, s₁) ∧
      w₁.view = w.view.put n.uuid tx s₁ ∧ w₁.pending = w.pending ∧ n₁.unmarked = n.unmarked := by
    by_cases hexp : n.expired w.clock = true
    · exact ⟨w, n, true, _, by simp [hexp], by simp [hexp], (View.put_slot _ _ _).symm, rfl, rfl⟩
    · obtain ⟨hv, hp, hn, hb⟩ := respondMessage_view tx oc n w
      refine ⟨(respondMessage oc n w).1, (respondMessage oc n w).2.1, (respondMessage oc n w).2.2,
        ((w.view.slot n.uuid tx).respond oc n).2.2, by simp [hexp], ?_, hv, hp,
        hn ▸ Slot.respond_notif _ oc n⟩
      simp only [hexp, Bool.false_eq_true, ↓reduceIte, hn, hb]
  have hu₁ : n₁.uuid = n.uuid := MNotificationInd.uuid_of_unmarked hn₁
  have htx₁ : n₁.transactionId = tx := MNotificationInd.transactionId_of_unmarked hn₁
  have hslot : w₁.view.slot n.uuid tx = s₁ := by rw [hv₁, View.slot_put _ _ _ _ hsv]
  have hsv₁ : w₁.view.service.isSome := by rw [hv₁]; simpa using hsv
  simp only [r, r', receivedArm, Slot.receivedArm, hpair, hpair']
  cases b
  · simp [hv₁, hp₁]
  rw [hu₁]
  rcases advance_view_cases n.uuid tx oc.updateResponded .received .responded w₁ with
    ⟨ha, hs⟩ | ⟨store, s', ha, hs, hv'⟩ <;> rw [hslot] at hs <;> simp only [updateResponded, ha, hs]
  · simp [hv₁, hp₁]
  · obtain ⟨h₁, h₂, h₃⟩ := @respondedArm_view { w₁ with store } n.uuid
      (by simpa using hsv₁) oc n₁ check
    rw [htx₁, hv', View.slot_put _ _ _ _ hsv₁] at h₁ h₂
    rw [hv₁, View.put_put, View.put_put] at h₂
    exact ⟨h₁, rfl, h₂, by simpa [hp₁] using h₃⟩

@[simp] theorem singnalMessageRemoved_view (sent : Bool) (p : String) (w : World) :
    (singnalMessageRemoved sent p w).1.view = w.view := by
  unfold singnalMessageRemoved; split <;> (try split) <;> rfl

@[simp] theorem singnalMessageRemoved_pending' (sent : Bool) (p : String) (w : World) :
    (singnalMessageRemoved sent p w).1.pending = w.pending := by
  unfold singnalMessageRemoved; split <;> (try split) <;> rfl

/-- The switch on the visited record's state is the slot's, once the record's
transaction is registered for it. -/
theorem reconcile_view (hsvc : w.telepathyService = some svc) (oc : InitOutcome) (st : MMSState)
    (n : MNotificationInd) (hu : n.uuid = u) (hsup : supersedes w n = none) :
    let r := reconcile oc u st n w
    let r' := (w.view.slot u n.transactionId).reconcile oc w.clock st n
    r.1 = r'.1 ∧ r.2.1 = r'.2.1 ∧ r.2.2.view = w.view.put u n.transactionId r'.2.2.2 ∧
      r.2.2.pending = w.pending ++ r'.2.2.1.toList := by
  have hsvc' : w.telepathyService.isSome := by simp [hsvc]
  intro r r'
  simp only [r, r', reconcile, Slot.reconcile]
  cases st.state
  · by_cases hflag : st.telepathyErrorNotified = true
    · by_cases hexp : n.expired w.clock = true
      · simp only [hflag, hexp, Bool.not_true, Bool.false_eq_true, ite_false, ite_true]
        refine ⟨trivial, trivial, ?_, by simp⟩
        rw [World.view_setUnresponded _ u, singnalMessageRemoved_view, destroyMessage_view u n.transactionId,
          View.slot_put _ _ _ _ (by simpa using hsvc'), View.put_put]
      · simp [hflag, hexp, View.put_slot]
    · simp [hflag, View.put_slot]; rfl
  · obtain ⟨hv₁, hp₁, hn₁, hf, hmu⟩ :=
      getAndHandleMRetrieveConf_view n.transactionId hsvc oc.forward n hsup
    rw [hu] at hv₁ hn₁ hf
    generalize getAndHandleMRetrieveConf oc.forward n w = g at hv₁ hp₁ hn₁ hf hmu
    generalize (w.view.slot u n.transactionId).forward oc.forward n = f at hv₁ hn₁ hf
    rcases g with ⟨w₁, n₁, _ | m⟩ <;> rcases f with ⟨s₁, n₁', _ | _⟩ <;>
      simp only at hv₁ hp₁ hn₁ hf hmu ⊢
    · exact ⟨trivial, by rw [hn₁], hv₁, by simpa using hp₁⟩
    · cases hf
    · cases hf
    · have hmu' : m.uuid = u := (hmu m rfl).trans hu
      have hsv : w.view.service.isSome := hsvc'
      have hslot : w₁.view.slot u n.transactionId = s₁ := by rw [hv₁, View.slot_put _ _ _ _ hsv]
      have hclock : w₁.clock = w.clock := by
        rw [← World.view_clock, hv₁, View.put_clock, World.view_clock]
      rw [hmu']
      rcases advance_view_cases u n.transactionId oc.updateReceived .downloaded .received w₁ with ⟨ha, hs⟩ | ⟨store, s', ha, hs, hv'⟩
      · rw [hslot] at hs
        simp only [updateReceived, ha, hs]
        exact ⟨trivial, trivial, hv₁, by simpa using hp₁⟩
      · rw [hslot] at hs
        simp only [updateReceived, ha, hs]
        have hsv₁ : ({ w₁ with store } : World).telepathyService.isSome := by
          rw [← World.view_service, hv', View.put_service, hv₁]; simpa using hsv
        obtain ⟨h₁, h₂, h₃, h₄⟩ := @receivedArm_view { w₁ with store } u hsv₁ oc n hu false
        have hs' : ({ w₁ with store } : World).view.slot u n.transactionId = s' := by
          rw [hv', hv₁, View.put_put, View.slot_put _ _ _ _ hsv]
        rw [hs'] at h₁ h₂ h₃
        rw [hv', hv₁] at h₃
        simp only [View.put_put] at h₃
        rw [← hclock]
        exact ⟨h₁, h₂, h₃, by simpa [hp₁] using h₄⟩
  · obtain ⟨h₁, h₂, h₃, h₄⟩ := receivedArm_view u hsvc' oc n hu true
    exact ⟨h₁, h₂, h₃, by simpa using h₄⟩
  · obtain ⟨h₁, h₂, h₃⟩ := respondedArm_view u hsvc' oc n true
    exact ⟨h₁, rfl, h₂, by simpa using h₃⟩
  · simp [View.put_slot]
  · simp [View.put_slot]

/-- `InitializationMessageAdded` of the visited message writes the slot's
object as the model says. -/
theorem initializationMessageAdded_view (hsvc : w.telepathyService = some svc) (sent : Bool)
    (m : Option MRetrieveConf) (notif : Option MNotificationInd)
    (hnu : ∀ n, notif = some n → n.uuid = u) :
    (initializationMessageAdded sent m notif w).1.view = w.view.put u tx ((w.view.slot u tx).initAdded notif) ∧
      (initializationMessageAdded sent m notif w).1.pending = w.pending := by
  rcases notif with _ | n
  · simp [initializationMessageAdded, hsvc, Slot.initAdded, View.put_slot]
  · obtain rfl := hnu n rfl
    have hobj : (w.view.slot n.uuid tx).handler = svc.messageHandlers (genMessagePath (some svc) n.uuid) := by
      simp [World.handlers, hsvc]
    rcases hh : svc.messageHandlers (genMessagePath (some svc) n.uuid) with _ | mi
    · rw [hh] at hobj
      simp only [initializationMessageAdded, hsvc, hh, Slot.initAdded, hobj, Option.isNone_none, ite_true,
        messageAdded_view]
      exact ⟨World.view_setHandler w n.uuid tx hsvc _, by simp⟩
    · rw [hh] at hobj
      simp only [initializationMessageAdded, hsvc, hh, Slot.initAdded, hobj, Option.isNone_some,
        Bool.false_eq_true, ite_false, View.put_slot]
      exact ⟨trivial, trivial⟩

/-- No error object of another message stands for a transaction that names
the visited message, nor for the empty transaction. -/
theorem supersedes_eq_none {n : MNotificationInd}
    (h : n.transactionId ≠ "" → w.unrespondedTransactions n.transactionId = some n.uuid) :
    supersedes w n = none := by
  rcases hs : supersedes w n with _ | u
  · rfl
  · obtain ⟨hreg, htx, -, hne⟩ := supersedes_eq_some.mp hs
    rw [h htx] at hreg
    cases hreg
    exact absurd rfl hne

end Steps

/-! ### One visit -/

/-- The switch and the rescued object that may follow it, after the visit has
written `s₀` (the registration) into the slot. -/
theorem reconcile_initAdded_view {w w₁ : World} {svc : MMSService} {u tx : String} {s₀ : Slot}
    (hsvc : w.telepathyService = some svc) (hw₁ : w₁.view = w.view.put u tx s₀)
    (hp₁ : w₁.pending = w.pending) (oc : InitOutcome) (st : MMSState) (n : MNotificationInd)
    (hu : n.uuid = u) (htx : n.transactionId = tx) (hsup : supersedes w₁ n = none) :
    let r := reconcile oc u st n w₁
    let r' := s₀.reconcile oc w.clock st n
    let w₂ := if r.1 then (initializationMessageAdded oc.initAdded
      (getMRetrieveConf oc.forward.retrieveConf r.2.2.store u) r.2.1 r.2.2).1 else r.2.2
    w₂.view = w.view.put u tx (if r'.1 then r'.2.2.2.initAdded r'.2.1 else r'.2.2.2) ∧
      w₂.pending = w.pending ++ r'.2.2.1.toList := by
  intro r r' w₂
  have hsv : w.view.service.isSome := by simp [hsvc]
  have hsome : ∀ w' : World, w'.view.service.isSome → ∃ svc', w'.telepathyService = some svc' :=
    fun w' h => Option.isSome_iff_exists.mp h
  obtain ⟨svc₁, hsvc₁⟩ := hsome w₁ (by rw [hw₁]; simpa using hsv)
  obtain ⟨h₁, h₂, h₃, h₄⟩ := reconcile_view u hsvc₁ oc st n hu hsup
  have hslot : w₁.view.slot u n.transactionId = s₀ := by rw [htx, hw₁, View.slot_put _ _ _ _ hsv]
  have hclock : w₁.clock = w.clock := by rw [← World.view_clock, hw₁]; rfl
  rw [hslot, hclock] at h₁ h₂ h₃ h₄
  rw [hw₁, htx, View.put_put] at h₃
  rw [hp₁] at h₄
  simp only [w₂, r', ← h₁, ← h₂]
  split
  · obtain ⟨svc₂, hsvc₂⟩ := hsome r.2.2 (by rw [h₃]; simpa using hsv)
    have hnu : ∀ n', r.2.1 = some n' → n'.uuid = u := fun n' h' => by
      rw [h₂] at h'; rw [← hu]; exact MNotificationInd.uuid_of_unmarked (Slot.reconcile_notif _ h')
    obtain ⟨h₅, h₆⟩ := initializationMessageAdded_view u tx hsvc₂ oc.initAdded
      (getMRetrieveConf oc.forward.retrieveConf r.2.2.store u) r.2.1 hnu
    rw [h₅, h₃, View.slot_put _ _ _ _ hsv, View.put_put, h₆, h₄]
    exact ⟨rfl, rfl⟩
  · exact ⟨h₃, h₄⟩

/-- **One visit of the pass refines the slot model.** The visit of `u` marks
the record's transaction handled as `Slot.visit` says, writes `u`'s slot as it
says, leaves the rest of the view as it was, and re-feeds the notification it
says. -/
theorem initializeMessage_view {w : World} {svc : MMSService} (hsvc : w.telepathyService = some svc)
    (modemId : String) (oc : InitOutcome) (u : String) (handled : List String) :
    let tx := txOf (w.store.records u)
    let r := (w.view.slot u tx).visit modemId oc w.clock (tx ∈ handled)
    let w' := initializeMessage modemId oc u handled w
    w'.1 = (if r.1 then tx :: handled else handled) ∧ w'.2.view = w.view.put u tx r.2.2 ∧
      w'.2.pending = w.pending ++ r.2.1.toList := by
  intro tx r w'
  have hsv : w.view.service.isSome := by simp [hsvc]
  have hkeep : w.view.put u tx (w.view.slot u tx) = w.view := View.put_slot _ _ _
  have hdestroy := destroyMessage_view u tx oc.destroy w
  have htx : tx = txOf (w.store.records u) := rfl
  simp only [w', r, initializeMessage, Slot.visit, Storage.getMMSState, View.slot_record,
    World.view_records]
  rcases hr : w.store.records u with _ | st
  · simpa using hdestroy
  · rw [hr] at htx
    dsimp only
    by_cases h₁ : (!st.isIncoming) = true
    · simp only [h₁, ↓reduceIte]; simp [hkeep]
    by_cases h₂ : st.modemId = ""
    · simp only [h₁, h₂, ↓reduceIte]; simpa using hdestroy
    by_cases h₃ : modemId = st.modemId
    swap
    · simp only [h₁, h₂, h₃, ne_eq, not_false_eq_true, ↓reduceIte]; simp [hkeep]
    simp only [h₁, h₂, h₃, ne_eq, not_true_eq_false, ↓reduceIte]
    rcases hn : st.mNotificationInd with _ | n
    · simpa using hdestroy
    simp only [txOf, hn, Option.map_some', Option.getD_some] at htx
    have hu : n.uuid = u := w.store.keyed hr hn
    simp only [← htx, decide_eq_true_eq]
    by_cases h₄ : tx ≠ "" ∧ tx ∈ handled
    · simp only [h₄, and_self, ↓reduceIte]; simpa using hdestroy
    simp only [h₄, Bool.false_eq_true, ↓reduceIte]
    by_cases h₅ : tx = ""
    · have hsup : supersedes w n = none := supersedes_eq_none fun h => absurd (htx ▸ h₅) h
      obtain ⟨h₆, h₇⟩ := reconcile_initAdded_view hsvc hkeep.symm rfl oc st n hu htx.symm hsup
      simp only [h₅, not_true_eq_false, decide_False, ↓reduceIte, Bool.false_eq_true] at h₆ h₇ ⊢
      exact ⟨trivial, h₆, h₇⟩
    · have hsup : supersedes (w.setUnresponded tx (some u)) n = none :=
        supersedes_eq_none fun _ => by simp [World.setUnresponded, ← htx, hu]
      have hs₀ : ({ w.view.slot u tx with entry := some u } : Slot) =
          { record := some st, handler := (w.view.slot u tx).handler, entry := some n.uuid } := by
        ext : 1 <;> simp [hr, hu]
      obtain ⟨h₆, h₇⟩ := reconcile_initAdded_view hsvc (World.view_setUnresponded w u tx (some u))
        rfl oc st n hu htx.symm hsup
      rw [hs₀] at h₆ h₇
      simp only [h₅, not_false_eq_true, decide_True, ↓reduceIte] at h₆ h₇ ⊢
      exact ⟨trivial, h₆, h₇⟩

end Nuntium.Mediator
