import Nuntium.Mediator.Loop

/-!
# Message objects, records and the registry across handlers

What a handler of the mediator does to the message objects on the bus, to the
store and to `unrespondedTransactions` when a notification arrives for a
transaction that another message already stands for, and what the startup
pass does with an expired error object. Each general theorem is followed by a
run of the loop, from a store on disk, that takes the path it describes.

* `handleMNotificationInd_forward_handlers` — a re-push that downloads is put
  on the bus beside the message that stands for its transaction, unless that
  one was reported as an error: both objects stay.
* `handleMNotificationInd_supersedes` — a re-push whose download fails removes
  the message that stands for its transaction, its object and its record,
  even when that message was announced; it destroys its own record too, and
  leaves its own error object on the bus.
* `handleMNotificationInd_registers` — a handler whose download fails points
  the transaction at its message whatever state that message's record is in.
* `initializeMessage_expired` — the startup pass signals the removal of an
  expired error object whether or not its record was destroyed.
* `repush_loses_first_reception` — once a forward has replaced an error
  object, a later push of the transaction no longer gets its first reception
  time.
-/

namespace Nuntium.Mediator

open Storage Telepathy

/-! ### Inputs of the runs -/

/-- A notification of transaction `T` that expires at 100. -/
def notificationOf (uuid : String) : MNotificationInd := ⟨uuid, "T", "", "+1", 1, 100, 0, none⟩

/-- What a download decodes to. -/
def retrieved : MRetrieveConf := ⟨"", "+1", ["+2"], "hi", 3, none, []⟩

/-- Every external step of a handler succeeds; the download is the file `f`. -/
def inboundOk : InboundOutcome :=
  ⟨true, some "f", true, ⟨some retrieved, true, ⟨true, true⟩, true⟩, true,
    ⟨true, true, true, true, true, true⟩, true, ⟨true, ⟨none, true, true⟩, true, ⟨true, true⟩⟩, true⟩

/-- Every external step of the startup pass succeeds, and the history service
shows every message as new. -/
def initOk : InitOutcome :=
  ⟨true, true, ⟨some retrieved, true, ⟨true, true⟩, true⟩, true, true,
    ⟨true, true, true, true, true, true⟩, true, .isNew true, true, true⟩

/-! ### A re-push that downloads -/

/-- The handler of a notification of the message center whose download
succeeds and is forwarded: unless the message standing for the transaction was
reported as an error, the handler adds `n`'s object and removes none. -/
theorem handleMNotificationInd_forward_handlers {oc : InboundOutcome} {n : MNotificationInd}
    {w : World} {svc : MMSService} {f : String} {store : Store} {m : MRetrieveConf}
    (hdebug : n.isDebug = false) (hsvc : w.telepathyService = some svc)
    (hact : oc.activateContext = true)
    (hdl : oc.download = some f)
    (hup : updateDownloaded oc.updateDownloaded w.store n.uuid f = some store)
    (hm : getMRetrieveConf oc.forward.retrieveConf store n.uuid = some m)
    (hsent : oc.forward.messageAdded = true)
    (hprior : ∀ u st, w.unrespondedTransactions n.transactionId = some u →
      w.store.records u = some st → st.telepathyErrorNotified = false) :
    ∃ w', handleMNotificationInd oc n w = .ok w' ∧ ∀ q, w'.handlers q =
      if q = genMessagePath (some svc) n.uuid then some ⟨false, .incoming n.transactionId⟩
      else w.handlers q := by
  set w₁ : World := { registerTransaction n w with store }
  have hsvc₁ : w₁.telepathyService = some svc := by simp [w₁, hsvc]
  have hm₁ : getMRetrieveConf oc.forward.retrieveConf w₁.store n.uuid = some m := hm
  have hprior₁ : ∀ u st, supersedes w₁ n = some u → w₁.store.records u = some st →
      st.telepathyErrorNotified = false := by
    intro u st hs hst
    obtain ⟨hreg, -, -, hne⟩ := supersedes_eq_some.mp hs
    obtain ⟨-, -, rfl⟩ := advance_eq_some.mp hup
    refine hprior u st ?_ (by simpa [w₁, hne] using hst)
    change (registerTransaction n w).unrespondedTransactions n.transactionId = some u at hreg
    rcases registerTransaction_eq n w with h | h <;> rw [h] at hreg
    · exact hreg
    · simp at hreg; exact absurd hreg.symm hne
  have hnd := MNotificationInd.hasDebugError_of_not_debug (e := .receiveHandle) hdebug
  obtain ⟨w₂, n₂, hg⟩ : ∃ w₂ n₂, getAndHandleMRetrieveConf oc.forward n w₁ = (w₂, n₂, some m) :=
    ⟨_, _, Prod.ext rfl (Prod.ext rfl ((getAndHandleMRetrieveConf_forwarded hsvc₁ hm₁ hnd).mpr hsent))⟩
  have hh := getAndHandleMRetrieveConf_handlers hsvc₁ hm₁ hprior₁ hnd
  have hw₁ : w₁.handlers = w.handlers := registerTransaction_handlers n w
  simp only [hg, hw₁] at hh
  refine ⟨_, by simp [handleMNotificationInd, hdebug, hsvc, hact]; rfl, fun q => ?_⟩
  -- what follows the forward touches no object
  simp only [handleContent, hdl, registerTransaction_store, hup]
  rw [show { registerTransaction n w with store } = w₁ from rfl, hg]
  simp [hh q]

/-- A message `A` of transaction `T` is announced but its M-NotifyResp.ind is
not uploaded; a re-push `B` of `T` then downloads. The handler of `B` leaves
two objects of `T` on the bus, and no M-NotifyResp.ind of `T` was uploaded
before it ran. -/
theorem repush_second_object :
    ∃ w oc w', Reachable w ∧ w.uploads = [] ∧ Enabled w (.handle 0 oc) ∧
      step w (.handle 0 oc) = .ok w' ∧ ∃ a b, a ≠ b ∧
        w'.handlers (genMessagePath w'.telepathyService a) = some ⟨false, .incoming "T"⟩ ∧
        w'.handlers (genMessagePath w'.telepathyService b) = some ⟨false, .incoming "T"⟩ :=
  ⟨_, inboundOk, _, Reachable.run (.start Store.empty 10)
    [.pushInterfaceAvailable true, .identityAdded "id" [] fun _ => initOk,
      .push (notificationOf "A") true,
      .handle 0 { inboundOk with respond := ⟨true, true, true, true, true, false⟩ },
      .push (notificationOf "B") true] (by decide) rfl,
    rfl, by decide, rfl, "A", "B", by decide, rfl, rfl⟩

/-! ### A re-push whose download fails -/

/-- The handler of a re-push `n` whose download fails, while the message `u`
that stands for its transaction is stored, on the bus, and neither reported
nor acknowledged. When the report's steps succeed, `n`'s error object is on
the bus, `u`'s object and record are gone, the registry names `n`, and `n`'s
own record is gone too. -/
theorem handleMNotificationInd_supersedes {oc : InboundOutcome} {n : MNotificationInd}
    {w : World} {svc : MMSService} {u : String} {st : MMSState} (hdebug : n.isDebug = false)
    (hsvc : w.telepathyService = some svc) (hact : oc.activateContext = true)
    (hdl : oc.download = none) (hsup : supersedes w n = some u)
    (hst : w.store.records u = some st)
    (hopen : st.telepathyErrorNotified = false ∧ st.state ≠ .received ∧ st.state ≠ .responded)
    (hn : (w.store.records n.uuid).isSome) (hu : (w.handlers (genMessagePath (some svc) u)).isSome)
    (hseg : IsSegment u)
    (hok : oc.downloadError.failAdded.sent = true ∧ oc.downloadError.setNotified = true ∧
      oc.downloadError.removed = ⟨true, true⟩ ∧ oc.downloadError.destroy = true) :
    ∃ w', handleMNotificationInd oc n w = .ok w' ∧
      (w'.handlers (genMessagePath (some svc) n.uuid)).isSome ∧
      w'.handlers (genMessagePath (some svc) u) = none ∧
      w'.store.records n.uuid = none ∧ w'.store.records u = none ∧
      w'.unrespondedTransactions n.transactionId = some n.uuid := by
  have hlive : registerTransaction n w = w :=
    registerTransaction_of_live (supersedes_eq_some.mp hsup).1 (by simp [hst])
  refine ⟨_, ?_, @handleMessageDownloadError_supersedes _ _ (downloadError ErrorDownloadContent) _ _ _ _
    hsvc hsup hst hopen hn hu hseg (MNotificationInd.hasDebugError_of_not_debug hdebug) hok⟩
  simp [handleMNotificationInd, handleContent, hdebug, hlive, hsvc, hact, hdl]

/-- A message `A` of transaction `T` is announced but `UpdateReceived` fails;
a re-push `B` of `T` then fails to download. `B`'s error object stays on the
bus with no record behind it. -/
theorem error_object_without_record :
    ∃ w, Reachable w ∧ ∃ u, (w.handlers (genMessagePath w.telepathyService u)).isSome ∧
      w.store.records u = none :=
  ⟨_, Reachable.run (.start Store.empty 10)
    [.pushInterfaceAvailable true, .identityAdded "id" [] fun _ => initOk,
      .push (notificationOf "A") true, .handle 0 { inboundOk with updateReceived := false },
      .push (notificationOf "B") true, .handle 0 { inboundOk with download := none }]
    (by decide) rfl, "B", by decide, by decide⟩

/-- In the same run, the handler of `B` destroys the record of `A`, whose
`MessageAdded` was sent, without any Delete of the user. -/
theorem announced_message_destroyed :
    ∃ w oc w' u, Reachable w ∧ (∃ props, Signal.messageAdded
        (genMessagePath w.telepathyService u) props ∈ w.signals) ∧
      (w.store.records u).isSome ∧ Enabled w (.handle 0 oc) ∧ step w (.handle 0 oc) = .ok w' ∧
      w'.store.records u = none :=
  ⟨_, { inboundOk with download := none }, _, "A", Reachable.run (.start Store.empty 10)
    [.pushInterfaceAvailable true, .identityAdded "id" [] fun _ => initOk,
      .push (notificationOf "A") true, .handle 0 { inboundOk with updateReceived := false },
      .push (notificationOf "B") true] (by decide) rfl,
    ⟨_, List.mem_singleton_self _⟩, by decide, by decide, rfl, by decide⟩

/-! ### The registry after a failed download -/

/-- A handler whose download fails makes `n` stand for its transaction
whenever the registry named no stored message for it, whatever state `n`'s own
record is in. -/
theorem handleMNotificationInd_registers {oc : InboundOutcome} {n : MNotificationInd}
    {w : World} {svc : MMSService} (hsvc : w.telepathyService = some svc)
    (hact : oc.activateContext = true) (hdl : oc.download = none) (htx : n.transactionId ≠ "")
    (hfree : ∀ u, w.unrespondedTransactions n.transactionId = some u → w.store.records u = none) :
    ∃ w', handleMNotificationInd oc n w = .ok w' ∧
      w'.unrespondedTransactions n.transactionId = some n.uuid := by
  -- the error a local test forces first reports a notification of the same message
  have hreport : ∀ n' err w₁, n'.uuid = n.uuid → n'.transactionId = n.transactionId →
      w₁.unrespondedTransactions = (registerTransaction n w).unrespondedTransactions →
      (handleMessageDownloadError oc.downloadError n' err w₁).unrespondedTransactions n.transactionId =
        some n.uuid := by
    intro n' err w₁ hu htx' hw₁
    rw [registerTransaction_of_free htx hfree] at hw₁
    rcases handleMessageDownloadError_unresponded oc.downloadError n' err w₁ with h | h <;>
      simp [h, hw₁, ← hu, ← htx']
  unfold handleMNotificationInd
  cases hd : n.isDebug
  · exact ⟨handleMessageDownloadError oc.downloadError n (downloadError ErrorDownloadContent)
      (registerTransaction n w), by simp [hsvc, hact, handleContent, hdl], hreport n _ _ rfl rfl rfl⟩
  · refine ⟨_, rfl, ?_⟩
    rcases hc : debugMMSContextError n with _ | ⟨n', err⟩
    · simpa [handleContent, hdl] using hreport n _ _ rfl rfl rfl
    · obtain ⟨e, hp⟩ := debugMMSContextError_popped hc
      have hf := MNotificationInd.popDebugError_unmarked hp
      exact hreport n' err _ (MNotificationInd.uuid_of_unmarked hf)
        (MNotificationInd.transactionId_of_unmarked hf) rfl

/-- A stored NOTIFICATION `U` of transaction `T` is re-fed by two startup
passes; the first handler acknowledges it, the second fails to download. The
registry then names `U`, whose record is RESPONDED. -/
theorem registry_names_responded :
    ∃ w, Reachable w ∧ ∃ u, w.unrespondedTransactions "T" = some u ∧
      (w.store.records u).map (·.state) = some .responded :=
  ⟨_, Reachable.run (.start (Store.empty.file "M" (notificationOf "U")) 10)
    [.identityAdded "M" ["U"] fun _ => initOk, .identityRemoved "M",
      .identityAdded "M" ["U"] fun _ => initOk, .handle 0 inboundOk,
      .handle 0 { inboundOk with download := none }] (by decide) rfl, "U", by decide, by decide⟩

/-! ### Expired error objects at startup -/

/-- The startup pass on an expired NOTIFICATION of this modem that was
reported as an error: it signals the removal of the message's object when the
send succeeds, and the record stays exactly when its `Destroy` fails. -/
theorem initializeMessage_expired {modemId uuid : String} {handled : List String} {w : World}
    {oc : InitOutcome} {st : MMSState} {n : MNotificationInd} {svc : MMSService}
    (hsvc : w.telepathyService = some svc) (hst : w.store.records uuid = some st)
    (hstate : st.state = .notification) (hflag : st.telepathyErrorNotified = true)
    (hmodem : st.modemId = modemId) (hid : modemId ≠ "") (hn : st.mNotificationInd = some n)
    (hexp : n.expired w.clock = true) (hnew : n.transactionId ∉ handled)
    (hsig : oc.signalRemoved = true) :
    (initializeMessage modemId oc uuid handled w).2.signals =
        .messageRemoved (genMessagePath (some svc) uuid) :: w.signals ∧
      (initializeMessage modemId oc uuid handled w).2.store.records uuid =
        if oc.destroy then none else some st := by
  have hinc : st.isIncoming = true := by simp [MMSState.isIncoming, hstate]
  have hrec : ∀ w₁ : World, w₁.telepathyService = some svc → w₁.clock = w.clock →
      reconcile oc uuid st n w₁ = (false, some n, ((singnalMessageRemoved true
        (genMessagePath (some svc) uuid) (destroyMessage oc.destroy uuid w₁)).1).setUnresponded
          n.transactionId none) := by
    intro w₁ h₁ hc
    simp [reconcile, hstate, hflag, hc, hexp, hsig, destroyMessage, h₁]
  unfold initializeMessage
  simp only [Storage.getMMSState, hst, hinc, hmodem, hid, hn, hnew, Bool.not_true,
    Bool.false_eq_true, ite_false, ne_eq, not_true_eq_false, and_false]
  by_cases htx : n.transactionId = ""
  · simp only [htx, not_true_eq_false, ite_false]
    rw [hrec w hsvc rfl]
    cases hd : oc.destroy <;> simp [singnalMessageRemoved, destroyMessage, destroy, hd, hsvc, hst]
  · simp only [htx, not_false_eq_true, ite_true]
    rw [hrec (w.setUnresponded n.transactionId (some uuid)) hsvc rfl]
    cases hd : oc.destroy <;> simp [singnalMessageRemoved, destroyMessage, destroy, hd, hsvc, hst]

/-- A stored error object `F` of modem `M` has expired; the startup pass fails
to destroy its record. The pass signals `MessageRemoved` for `F` all the same,
and the record stays. -/
theorem removal_signal_with_record :
    ∃ w, Reachable w ∧ ∃ u,
      w.signals.head? = some (.messageRemoved (genMessagePath w.telepathyService u)) ∧
      (w.store.records u).isSome :=
  ⟨_, Reachable.run (.start ((Store.empty.file "M" ⟨"F", "T", "", "+1", 1, 5, 0, none⟩).modify "F"
      (fun st => { st with telepathyErrorNotified := true }) fun _ => rfl) 10)
    [.identityAdded "M" ["F"] fun _ => { initOk with destroy := false }] (by decide) rfl,
    "F", by decide, by decide⟩

/-! ### Reception times of re-pushes -/

/-- A message `A` of transaction `T` fails to download; a re-push `B` of `T`
downloads, replaces `A`'s error object and destroys `A`'s record, but its
M-NotifyResp.ind is not uploaded; a third push `C` of `T` follows. -/
def supersessionRun : List Event :=
  [.pushInterfaceAvailable true, .identityAdded "id" [] fun _ => initOk,
    .push (notificationOf "A") true, .handle 0 { inboundOk with download := none },
    .tick 5, .push (notificationOf "B") true,
    .handle 0 { inboundOk with respond := ⟨true, true, true, true, true, false⟩ },
    .tick 5, .push (notificationOf "C") true]

/-- In that run, with no Redownload and no upload, `B` keeps the reception
time of the first push of `T` (10) but `C`, stored while `B` is, gets the time
of its own push (20): the forward of `B` leaves the registry naming `A`
(`getAndHandleMRetrieveConf_unresponded`), whose record it destroyed, so the
push of `C` finds no first reception time (`handlePushAgentNotification_pending`). -/
theorem repush_loses_first_reception :
    ∃ w, RunEnabled (World.start Store.empty 10) supersessionRun ∧
      run (World.start Store.empty 10) supersessionRun = .ok w ∧ w.uploads = [] ∧
      ((w.store.records "B").bind (·.mNotificationInd)).map (fun n => (n.transactionId, n.received)) =
        some ("T", 10) ∧
      ((w.store.records "C").bind (·.mNotificationInd)).map (fun n => (n.transactionId, n.received)) =
        some ("T", 20) :=
  ⟨_, by decide, rfl, rfl, by decide, by decide⟩

end Nuntium.Mediator
