import Nuntium.Mediator.Consistency

/-!
# Redownload

A user's Redownload on a message object that is still a NOTIFICATION:
`watchMessageRedownloadCalls` removes the object, files a copy of the
notification under a fresh UUID, marked as a redownload of the first, and
sends the copy to the mediator, which handles it in `handleMNotificationInd`.

`Announces path deleteEvent w w'` says what every step of handling the copy
may do to the bus: emit signals of which every `MessageAdded` is for the
object at `path` and carries `DeleteEvent = deleteEvent`, keep the service's
identity, and keep an object at `path` once there is one.

* `supersedes_of_redownload` — a redownload never stands for another message
  of its transaction, in any world, so the duplicate rule of
  `handleMessageDownloadError` never drops it.
* `handleMNotificationInd_redownload` — on a live service the handler of a
  redownload leaves an object for it on the bus, unless it is a local test
  whose `TelepathyErrorNotify` marker is popped, and every `MessageAdded` it
  emits is for that object and names the first message's path as
  `DeleteEvent`.
* `redownload_replaces` — the watcher, then the handler of the copy;
* `redownload_without_record_or_object` — a failed `storage.Create` leaves the
  copy without a record, and the copy of such a local test is left without an
  object.
-/

namespace Nuntium.Mediator

open Storage Telepathy

/-- A redownload never stands for another message of its transaction. -/
@[simp] theorem supersedes_of_redownload (w : World) {n : MNotificationInd}
    (h : n.redownloadOfUUID ≠ "") : supersedes w n = none := by
  unfold supersedes; split <;> simp [h]

/-- A service's message paths depend on its identity only. -/
theorem genMessagePath_of_identity {service : Option MMSService} {svc : MMSService}
    (h : service.map (·.identity) = some svc.identity) (uuid : String) :
    genMessagePath service uuid = genMessagePath (some svc) uuid := by
  rcases service with _ | s <;> simp_all [genMessagePath]

/-! ### What handling a redownload does to the bus -/

/-- What a step of handling a redownload may do to the bus: emit signals of
which every `MessageAdded` is at `path` and carries `DeleteEvent =
deleteEvent`; keep the service's identity; keep an object at `path`. -/
structure Announces (path deleteEvent : String) (w w' : World) : Prop where
  signals : ∃ new, w'.signals = new ++ w.signals ∧ ∀ q props, .messageAdded q props ∈ new →
    q = path ∧ props.get? "DeleteEvent" = some (.str deleteEvent)
  identity : w'.telepathyService.map (·.identity) = w.telepathyService.map (·.identity)
  handler : (w.handlers path).isSome → (w'.handlers path).isSome

namespace Announces

variable {path d : String} {w₁ w₂ w₃ : World}

theorem refl (w : World) : Announces path d w w := ⟨⟨[], rfl, by simp⟩, rfl, id⟩

theorem trans (h₁ : Announces path d w₁ w₂) (h₂ : Announces path d w₂ w₃) :
    Announces path d w₁ w₃ := by
  obtain ⟨⟨new₁, hs₁, hn₁⟩, hi₁, hh₁⟩ := h₁
  obtain ⟨⟨new₂, hs₂, hn₂⟩, hi₂, hh₂⟩ := h₂
  refine ⟨⟨new₂ ++ new₁, by rw [hs₂, hs₁, List.append_assoc], fun q props h => ?_⟩,
    hi₂.trans hi₁, hh₂ ∘ hh₁⟩
  rcases List.mem_append.mp h with h | h
  · exact hn₂ q props h
  · exact hn₁ q props h

/-- A step that leaves the signals and the service alone. -/
theorem of_frame (hs : w₂.signals = w₁.signals) (ht : w₂.telepathyService = w₁.telepathyService) :
    Announces path d w₁ w₂ :=
  ⟨⟨[], by simp [hs], by simp⟩, by rw [ht], by simp [World.handlers, ht]⟩

/-- A store update. -/
theorem store (w : World) (s : Store) : Announces path d w { w with store := s } :=
  .of_frame rfl rfl

/-- Replacing the object at another path. -/
theorem setHandler {q : String} (hq : q ≠ path) (mi : Option MessageInterface) (w : World) :
    Announces path d w (w.setHandler q mi) :=
  ⟨⟨[], by simp, by simp⟩, by simp [World.setHandler, Option.map_map, Function.comp_def],
    fun h => by
      rcases hs : w.telepathyService <;>
        simp_all [World.handlers, World.setHandler, Function.update_apply, Ne.symm hq]⟩

/-- A `MessageRemoved` signal. -/
theorem emit_removed (q : String) (w : World) :
    Announces path d w (w.emit (.messageRemoved q)) :=
  ⟨⟨[.messageRemoved q], rfl, by simp⟩, rfl, id⟩

theorem setUnresponded (h : Announces path d w₁ w₂) (tx : String) (u : Option String) :
    Announces path d w₁ (w₂.setUnresponded tx u) :=
  h.trans (.of_frame rfl rfl)

theorem destroyMessage (h : Announces path d w₁ w₂) (ok : Bool) (uuid : String) :
    Announces path d w₁ (destroyMessage ok uuid w₂) :=
  h.trans (.of_frame rfl rfl)

theorem handleMNotifyRespInd (h : Announces path d w₁ w₂) (oc : RespondOutcome) (uuid : String) :
    Announces path d w₁ (handleMNotifyRespInd oc uuid w₂).1 :=
  h.trans (.of_frame (by unfold Mediator.handleMNotifyRespInd; split <;> rfl) (by simp))

theorem sendMNotifyRespInd (h : Announces path d w₁ w₂) (oc : RespondOutcome) (uuid : String) :
    Announces path d w₁ (sendMNotifyRespInd oc uuid w₂).1 :=
  h.trans (.of_frame (by unfold Mediator.sendMNotifyRespInd; dsimp only; split <;> rfl) (by simp))

end Announces

section Steps

variable {path d : String}

theorem singnalMessageRemoved_announces (sent : Bool) (q : String) (w : World) :
    Announces path d w (singnalMessageRemoved sent q w).1 := by
  unfold singnalMessageRemoved
  split
  · exact .refl w
  · split
    · exact .emit_removed q w
    · exact .refl w

/-- `MessageRemoved` of another object. -/
theorem messageRemoved_announces (oc : RemoveOutcome) {q : String} (w : World) (hq : q ≠ path) :
    Announces path d w (messageRemoved oc q w).1 := by
  have hset : Announces path d w (w.setHandler q none) := .setHandler hq none w
  unfold messageRemoved
  split
  · exact .refl w
  split
  · exact .refl w
  dsimp only
  split
  · exact hset
  split
  · exact hset
  · refine hset.trans (Announces.trans ?_ (singnalMessageRemoved_announces _ _ _))
    exact .of_frame rfl rfl

/-- The paths of a service whose identity is `svc`'s are `svc`'s. -/
theorem exists_service_of_identity {w : World} {svc : MMSService}
    (hid : w.telepathyService.map (·.identity) = some svc.identity) :
    ∃ s, w.telepathyService = some s ∧ genMessagePath (some s) = genMessagePath (some svc) := by
  obtain ⟨s, hs, hsid⟩ := Option.map_eq_some'.mp hid
  exact ⟨s, hs, funext fun u => by simp [genMessagePath, hsid]⟩

/-- `IncomingMessageFailAdded` of a redownload puts its error object at its
path and announces it with `DeleteEvent`, unless it pops the
`TelepathyErrorNotify` marker and announces nothing. -/
theorem incomingMessageFailAdded_announces {w : World} {svc : MMSService} (oc : FailAddedOutcome)
    {n : MNotificationInd} (err : DownloadError)
    (hid : w.telepathyService.map (·.identity) = some svc.identity) (hre : n.redownloadOfUUID ≠ "") :
    Announces (genMessagePath (some svc) n.uuid) (genMessagePath (some svc) n.redownloadOfUUID) w
        (incomingMessageFailAdded oc n err w).1 ∧
      (n.hasDebugError .telepathyErrorNotify = false →
        ((incomingMessageFailAdded oc n err w).1.handlers (genMessagePath (some svc) n.uuid)).isSome) := by
  obtain ⟨s, hs, hpath⟩ := exists_service_of_identity hid
  rcases hp : n.popDebugError .telepathyErrorNotify with _ | n'
  · have hh : ((incomingMessageFailAdded oc n err w).1.handlers (genMessagePath (some svc) n.uuid)).isSome := by
      simp [incomingMessageFailAdded_handlers oc err hs (MNotificationInd.popDebugError_eq_none.mp hp), hpath]
    refine ⟨⟨?_, incomingMessageFailAdded_service oc n err w, fun _ => hh⟩, fun _ => hh⟩
    simp only [incomingMessageFailAdded, hs, hp, messageAdded, hpath]
    split
    · exact ⟨[_], rfl, by simp [hre]; split_ifs <;> simp⟩
    · exact ⟨[], rfl, by simp⟩
  · rw [incomingMessageFailAdded_popped oc err hs hp]
    exact ⟨.of_frame rfl rfl, fun h => by simp [MNotificationInd.popDebugError_eq_none.mpr h] at hp⟩

/-- A parsed message is at its own path. -/
theorem parseMessage_path {service : Option MMSService} {store : Store} {m : MRetrieveConf}
    {p : String} {props : Properties} (h : parseMessage service store m = .ok (p, props)) :
    p = genMessagePath service m.uuid := by
  unfold parseMessage at h
  rcases hd : m.dataParts with _ | ⟨d, ds⟩
  · simp [hd] at h; exact h.1.symm
  · rcases hg : getMMS store m.uuid with _ | f <;> simp [hd, hg] at h
    exact h.1.symm

/-- `IncomingMessageAdded` of a redownload's message: when the message is put
on the bus, it is at the redownload's path, and it is announced with
`DeleteEvent`. -/
theorem incomingMessageAdded_announces {w : World} {svc : MMSService} (updated sent : Bool)
    {m : MRetrieveConf} {n : MNotificationInd}
    (hid : w.telepathyService.map (·.identity) = some svc.identity) (hre : n.redownloadOfUUID ≠ "")
    (hm : m.uuid = n.uuid) :
    Announces (genMessagePath (some svc) n.uuid) (genMessagePath (some svc) n.redownloadOfUUID) w
        (incomingMessageAdded updated sent m n w).1 ∧
      ((incomingMessageAdded updated sent m n w).2.2 = .ok () →
        ((incomingMessageAdded updated sent m n w).1.handlers (genMessagePath (some svc) n.uuid)).isSome) := by
  obtain ⟨s, hs, hpath⟩ := exists_service_of_identity hid
  rcases hp : n.popDebugError .receiveHandle with _ | n'
  swap
  · rw [incomingMessageAdded_popped updated sent m hs hp]
    exact ⟨.of_frame rfl rfl, by simp⟩
  unfold incomingMessageAdded
  simp only [hs, hp]
  split
  · exact ⟨.refl w, by simp⟩
  rename_i path props hp
  obtain rfl : path = genMessagePath (some svc) n.uuid := by rw [parseMessage_path hp, hpath, hm]
  have hset : Announces (genMessagePath (some svc) n.uuid) (genMessagePath (some svc) n.redownloadOfUUID)
      w (w.setHandler (genMessagePath (some svc) n.uuid) (some ⟨false, .incoming n.transactionId⟩)) :=
    ⟨⟨[], by simp, by simp⟩, by simp [World.setHandler, Option.map_map, Function.comp_def],
      fun _ => by simp [World.handlers, World.setHandler, hs]⟩
  unfold messageAdded
  split
  · refine ⟨hset.trans ⟨⟨[_], rfl, ?_⟩, rfl, id⟩, fun _ => by simp [World.handlers, World.setHandler, hs]⟩
    simp [hre, hpath]; split_ifs <;> simp
  · exact ⟨hset, by simp⟩

/-- `handleMessageDownloadError` of a redownload puts its error object on the
bus, unless its `TelepathyErrorNotify` marker is popped, and announces nothing
else. -/
theorem handleMessageDownloadError_announces {w : World} {svc : MMSService}
    (oc : DownloadErrorOutcome) {n : MNotificationInd} (err : DownloadError)
    (hid : w.telepathyService.map (·.identity) = some svc.identity) (hre : n.redownloadOfUUID ≠ "") :
    Announces (genMessagePath (some svc) n.uuid) (genMessagePath (some svc) n.redownloadOfUUID) w
        (handleMessageDownloadError oc n err w) ∧
      (n.hasDebugError .telepathyErrorNotify = false →
        ((handleMessageDownloadError oc n err w).handlers (genMessagePath (some svc) n.uuid)).isSome) := by
  obtain ⟨hA, hH⟩ := incomingMessageFailAdded_announces (w := w) oc.failAdded err hid hre
  unfold handleMessageDownloadError
  simp only [supersedes_of_redownload w hre, Option.none_bind, Option.isSome_none,
    Bool.false_eq_true, ↓reduceIte]
  rcases hf : incomingMessageFailAdded oc.failAdded n err w with ⟨w₁, _ | ⟨⟨⟩⟩⟩
  all_goals simp only [hf] at hA hH ⊢
  · exact ⟨hA, hH⟩
  suffices h : Announces (genMessagePath (some svc) n.uuid)
      (genMessagePath (some svc) n.redownloadOfUUID) w₁ _ from ⟨hA.trans h, fun hd => h.handler (hH hd)⟩
  split
  · exact .refl w₁
  rename_i store _
  refine (Announces.store w₁ store).trans ?_
  split
  · rename_i u _
    split_ifs with hu
    · have hq : genMessagePath w₁.telepathyService u ≠ genMessagePath (some svc) n.uuid := by
        rw [genMessagePath_of_identity (hA.identity.trans hid)]
        exact fun h => hu.2 (genMessagePath_inj _ h)
      have hrm := messageRemoved_announces (d := genMessagePath (some svc) n.redownloadOfUUID)
        oc.removed { w₁ with store } hq
      refine .setUnresponded ?_ _ _
      split
      · exact hrm.destroyMessage _ _
      · exact hrm
    · exact .refl _
  · exact .refl _

/-- The forward of a redownload leaves the notification as it is or pops its
`ReceiveHandle` marker; when it hands the message on, the message is the
redownload's and is on the bus. -/
theorem getAndHandleMRetrieveConf_announces {w : World} {svc : MMSService} (oc : ForwardOutcome)
    {n : MNotificationInd} (hid : w.telepathyService.map (·.identity) = some svc.identity)
    (hre : n.redownloadOfUUID ≠ "") :
    ((getAndHandleMRetrieveConf oc n w).2.1 = n ∨
        n.popDebugError .receiveHandle = some (getAndHandleMRetrieveConf oc n w).2.1) ∧
      Announces (genMessagePath (some svc) n.uuid) (genMessagePath (some svc) n.redownloadOfUUID) w
        (getAndHandleMRetrieveConf oc n w).1 ∧
      ∀ m, (getAndHandleMRetrieveConf oc n w).2.2 = some m →
        ((getAndHandleMRetrieveConf oc n w).1.handlers (genMessagePath (some svc) n.uuid)).isSome := by
  unfold getAndHandleMRetrieveConf
  split
  · exact ⟨.inl rfl, .refl w, by simp⟩
  rename_i m hm
  obtain ⟨hA, hH⟩ := incomingMessageAdded_announces oc.updateNotification oc.messageAdded hid hre
    (getMRetrieveConf_some hm).2 (w := w)
  have hn := (incomingMessageAdded_store oc.updateNotification oc.messageAdded m n w).imp And.left And.left
  simp only [supersedes_of_redownload w hre, Bool.false_eq_true, ↓reduceIte]
  rcases hr : incomingMessageAdded oc.updateNotification oc.messageAdded m n w with ⟨w₁, n₁, _ | ⟨⟨⟩⟩⟩
  all_goals simp only [hr] at hA hH hn ⊢
  · exact ⟨hn, hA, by simp⟩
  · exact ⟨hn, hA, fun _ _ => hH trivial⟩

end Steps

/-- The handler of a redownload, on a live service: whatever its outcomes, it
leaves an object for the redownload at its path, unless the redownload is a
local test whose `TelepathyErrorNotify` marker is popped; and every
`MessageAdded` it emits is for that object and carries `DeleteEvent`, the
path of the message it replaces. -/
theorem handleMNotificationInd_redownload (oc : InboundOutcome) {n : MNotificationInd}
    {w : World} {svc : MMSService} (hsvc : w.telepathyService = some svc)
    (hre : n.redownloadOfUUID ≠ "") :
    ∃ w', handleMNotificationInd oc n w = .ok w' ∧
      Announces (genMessagePath (some svc) n.uuid) (genMessagePath (some svc) n.redownloadOfUUID) w w' ∧
      (n.hasDebugError .telepathyErrorNotify = false →
        (w'.handlers (genMessagePath (some svc) n.uuid)).isSome) := by
  set P := genMessagePath (some svc) n.uuid
  set D := genMessagePath (some svc) n.redownloadOfUUID
  have hsvc₀ : (registerTransaction n w).telepathyService = some svc := by simp [hsvc]
  have hid : (registerTransaction n w).telepathyService.map (·.identity) = some svc.identity := by
    rw [hsvc₀]; rfl
  have h₀ : Announces P D w (registerTransaction n w) := by
    rcases registerTransaction_eq n w with h | h <;> rw [h]
    exacts [.refl w, .of_frame rfl rfl]
  -- the error is reported for `n`, or for `n` with markers popped
  have herror : ∀ (n₁ : MNotificationInd) (w₁ : World) err, n₁.uuid = n.uuid →
      n₁.redownloadOfUUID = n.redownloadOfUUID →
      (n.hasDebugError .telepathyErrorNotify = false → n₁.hasDebugError .telepathyErrorNotify = false) →
      w₁.telepathyService.map (·.identity) = some svc.identity → Announces P D w w₁ →
      Announces P D w (handleMessageDownloadError oc.downloadError n₁ err w₁) ∧
        (n.hasDebugError .telepathyErrorNotify = false →
          ((handleMessageDownloadError oc.downloadError n₁ err w₁).handlers P).isSome) := by
    intro n₁ w₁ err hu hr hd hid₁ h
    obtain ⟨hA, hH⟩ := handleMessageDownloadError_announces oc.downloadError err hid₁ (hr ▸ hre) (n := n₁)
    rw [hu, hr] at hA
    rw [hu] at hH
    exact ⟨h.trans hA, hH ∘ hd⟩
  have hpop : ∀ e n₁, n.popDebugError e = some n₁ → n₁.uuid = n.uuid ∧
      n₁.redownloadOfUUID = n.redownloadOfUUID ∧
      (n.hasDebugError .telepathyErrorNotify = false → n₁.hasDebugError .telepathyErrorNotify = false) := by
    intro e n₁ h
    obtain ⟨hu, -, hr, -⟩ := MNotificationInd.popDebugError_fields h
    exact ⟨hu, hr, MNotificationInd.hasDebugError_of_pop h⟩
  -- the download, the forward and the acknowledgement
  have hcontent : ∀ w₁ : World, w₁.telepathyService.map (·.identity) = some svc.identity →
      Announces P D w w₁ → Announces P D w (handleContent oc n w₁) ∧
        (n.hasDebugError .telepathyErrorNotify = false → ((handleContent oc n w₁).handlers P).isSome) := by
    intro w₁ hid₁ h₁
    unfold handleContent
    rcases oc.download with _ | f
    · exact herror n w₁ _ rfl rfl id hid₁ h₁
    dsimp only
    rcases updateDownloaded oc.updateDownloaded w₁.store n.uuid f with _ | store
    · exact herror n w₁ _ rfl rfl id hid₁ h₁
    dsimp only
    have h₂ : Announces P D w { w₁ with store } := h₁.trans (.store _ store)
    obtain ⟨hn, hA, hH⟩ := getAndHandleMRetrieveConf_announces oc.forward hid₁ hre (w := { w₁ with store })
    rcases hg : getAndHandleMRetrieveConf oc.forward n { w₁ with store } with ⟨w₂, n₂, _ | m⟩
    all_goals simp only [hg] at hn hA hH
    · obtain ⟨hu, hr, hd⟩ : n₂.uuid = n.uuid ∧ n₂.redownloadOfUUID = n.redownloadOfUUID ∧
          (n.hasDebugError .telepathyErrorNotify = false → n₂.hasDebugError .telepathyErrorNotify = false) := by
        rcases hn with rfl | hn
        exacts [⟨rfl, rfl, id⟩, hpop _ _ hn]
      exact herror n₂ w₂ _ hu hr hd (hA.identity.trans hid₁) (h₂.trans hA)
    · -- the acknowledgement touches neither the bus nor the service
      have h₃ : Announces P D w₂ (acknowledgeDownload oc n₂ m w₂) := .of_frame (by simp) (by simp)
      exact ⟨(h₂.trans hA).trans h₃, fun _ => h₃.handler (hH m rfl)⟩
  unfold handleMNotificationInd
  dsimp only
  split_ifs
  · refine ⟨_, rfl, ?_⟩
    rcases hc : debugMMSContextError n with _ | ⟨n₁, err⟩
    · exact hcontent _ hid h₀
    · obtain ⟨e, hp⟩ := debugMMSContextError_popped hc
      obtain ⟨hu, hr, hd⟩ := hpop e n₁ hp
      exact herror n₁ _ err hu hr hd (by simp [hsvc]) (h₀.trans (.of_frame rfl rfl))
  · simp only [hsvc₀]
    exact ⟨_, rfl, herror n _ _ rfl rfl id hid h₀⟩
  · simp only [hsvc₀]
    exact ⟨_, rfl, hcontent _ hid h₀⟩

/-! ### The Redownload watcher -/

/-- `MessageRemoved` of an object on the bus whose path names `uuid`: the
object goes, and the record goes exactly when `storage.Destroy` succeeds. -/
theorem messageRemoved_of_handler {w : World} {svc : MMSService} {p uuid : String}
    (oc : RemoveOutcome) (hsvc : w.telepathyService = some svc) (hh : (w.handlers p).isSome)
    (hu : getUUIDFromObjectPath p = .ok uuid) :
    (messageRemoved oc p w).1.handlers p = none ∧
      (messageRemoved oc p w).1.store = (if oc.destroy then w.store.erase uuid else w.store) ∧
      (messageRemoved oc p w).1.pending = w.pending := by
  obtain ⟨mi, hmi⟩ : ∃ mi, svc.messageHandlers p = some mi := by
    simpa [World.handlers, hsvc, Option.isSome_iff_exists] using hh
  cases hd : oc.destroy <;> cases hs : oc.signal <;>
    simp [messageRemoved, hsvc, hmi, hu, destroy, hd, hs, singnalMessageRemoved, World.setHandler,
      World.handlers, World.emit]

/-- The Redownload watcher on a NOTIFICATION with its notification: the
message is removed, then the copy is filed (when `storage.Create` succeeds)
and queued. -/
theorem watchMessageRedownloadCall_of_notification {w : World} {p : String} {st : MMSState}
    {n : MNotificationInd} (oc : RemoveOutcome) (created : Bool) (uuid : String)
    (hget : Telepathy.getMMSState w.store p = .ok st) (hst : st.state = .notification)
    (hn : st.mNotificationInd = some n) :
    watchMessageRedownloadCall oc created uuid p w =
      { (messageRemoved oc p w).1 with
        store := (create created (messageRemoved oc p w).1.store st.modemId
          { n with redownloadOfUUID := n.uuid, uuid }).getD (messageRemoved oc p w).1.store,
        pending := (messageRemoved oc p w).1.pending ++ [{ n with redownloadOfUUID := n.uuid, uuid }] } := by
  simp [watchMessageRedownloadCall, hget, hst, hn]

/-- A Redownload on the object of a NOTIFICATION `U` that has its
notification `n`: the object goes, the record goes when `storage.Destroy`
succeeds, and the copy `n'` of `n` under the fresh `U'`, marked as a
redownload of `U`, is queued, and filed when `storage.Create` succeeds. In
every later world, `n'` stands for no other message of its transaction; on a
live service its handler, whatever its outcomes, puts an object for `U'` on
the bus, and every `MessageAdded` it emits is for that object and carries
`DeleteEvent`, the path of `U`. -/
theorem redownload_replaces {w : World} {svc : MMSService} {U U' : String} {st : MMSState}
    {n : MNotificationInd} (hsvc : w.telepathyService = some svc) (hU : IsSegment U)
    (hsurface : (w.handlers (genMessagePath (some svc) U)).isSome)
    (hrec : w.store.records U = some st) (hst : st.state = .notification)
    (hn : st.mNotificationInd = some n) (hU' : w.store.records U' = none)
    (oc : RemoveOutcome) (created : Bool) :
    let w' := watchMessageRedownloadCall oc created U' (genMessagePath (some svc) U) w
    let n' : MNotificationInd := { n with uuid := U', redownloadOfUUID := U }
    U' ≠ U ∧ w'.handlers (genMessagePath (some svc) U) = none ∧
      w'.store.records U = (if oc.destroy then none else some st) ∧
      w'.store.records U' = (if created then some (.ofNotification st.modemId n') else none) ∧
      w'.pending = w.pending ++ [n'] ∧ (∀ w₀, supersedes w₀ n' = none) ∧
      ∀ (oc' : InboundOutcome) (w₀ : World) (svc₀ : MMSService), w₀.telepathyService = some svc₀ →
        ∃ w₁ new, handleMNotificationInd oc' n' w₀ = .ok w₁ ∧
          (n.hasDebugError .telepathyErrorNotify = false →
            (w₁.handlers (genMessagePath (some svc₀) U')).isSome) ∧ w₁.signals = new ++ w₀.signals ∧
          ∀ q props, .messageAdded q props ∈ new → q = genMessagePath (some svc₀) U' ∧
            props.get? "DeleteEvent" = some (.str (genMessagePath (some svc₀) U)) := by
  intro w' n'
  have hkey : n.uuid = U := w.store.keyed hrec hn
  have hne : U' ≠ U := by rintro rfl; simp [hrec] at hU'
  have hp := getUUIDFromObjectPath_genMessagePath (some svc) hU
  obtain ⟨hh, hstore, hpending⟩ := messageRemoved_of_handler oc hsvc hsurface hp
  have hw' := watchMessageRedownloadCall_of_notification oc created U'
    ((getMMSState_eq_ok hp st).mpr hrec) hst hn
  rw [hkey] at hw'
  refine ⟨hne, ?_, ?_, ?_, ?_, fun w₀ => supersedes_of_redownload w₀ hU.1,
    fun oc' w₀ svc₀ hsvc₀ => ?_⟩
  · simpa [w', hw', World.handlers] using hh
  · cases created <;> cases hd : oc.destroy <;> simp_all [w', create, Ne.symm hne]
  · cases created <;> cases hd : oc.destroy <;> simp_all [w', create, n']
  · simp [w', hw', hpending, n']
  · obtain ⟨w₁, h, ⟨⟨new, hs, hnew⟩, -, -⟩, hh₁⟩ := handleMNotificationInd_redownload oc' hsvc₀ hU.1
      (n := n')
    exact ⟨w₁, new, h, hh₁, hs, hnew⟩

/-- A message `A` of transaction `T` fails to download: its error object,
with the redownload channel, is on the bus and its record is an error-notified
NOTIFICATION. -/
def errorObjectRun : List Event :=
  [.pushInterfaceAvailable true, .identityAdded "id" [] fun _ => initOk,
    .push (notificationOf "A") true, .handle 0 { inboundOk with download := none }]

/-- The Redownload on `A`'s error object files the copy under `B`. -/
theorem redownload_replaces_error_object :
    ∃ w svc st n, run (World.start Store.empty 10) errorObjectRun = .ok w ∧
      w.telepathyService = some svc ∧ w.store.records "A" = some st ∧ st.mNotificationInd = some n ∧
      (watchMessageRedownloadCall ⟨true, true⟩ true "B" (genMessagePath (some svc) "A") w).store.records
        "B" = some (.ofNotification st.modemId { n with uuid := "B", redownloadOfUUID := "A" }) :=
  by
  refine ⟨_, _, _, _, rfl, rfl, rfl, rfl, ?_⟩
  exact (redownload_replaces rfl (by decide) (by rfl) rfl rfl rfl rfl ⟨true, true⟩ true).2.2.2.1

/-- The same run, then a Redownload on `A`'s error object whose
`storage.Create` fails, then the handler of the copy `B` with every other
step succeeding. -/
def redownloadRun : List Event :=
  errorObjectRun ++ [.redownload (genMessagePath (some (MMSService.new "id")) "A") "B" false ⟨true, true⟩]

/-- A store with `A`, an error-notified NOTIFICATION of modem `id` that is a
local test whose notification asks `IncomingMessageFailAdded` to fail. -/
def localTestStore : Store :=
  (Store.empty.file "id" { notificationOf "A" with debug := some [.telepathyErrorNotify] }).modify "A"
    (fun st => { st with telepathyErrorNotified := true }) (fun _ => rfl)

/-- The startup pass puts `A`'s error object back on the bus; a Redownload on
it files and queues the copy `B`, whose download then fails. -/
def localTestRun : List Event :=
  [.identityAdded "id" ["A"] (fun _ => initOk),
    .redownload (genMessagePath (some (MMSService.new "id")) "A") "B" true ⟨true, true⟩,
    .handle 0 { inboundOk with download := none }]

/-- Two ways a redownload falls short. The error of `storage.Create` is
ignored: after the Redownload, `B` is queued with no record, and `A`'s record
is gone; its handler then cannot mark the download, and leaves an error
object for `B` that has no redownload channel, so the message has no record
and can no longer be redownloaded. And the copy of a local test keeps its
markers: when `A`'s notification asks `IncomingMessageFailAdded` to fail, the
failed download of `B` leaves no object for `B`, nor for `A`. -/
theorem redownload_without_record_or_object :
    (∃ w w', RunEnabled (World.start Store.empty 10) redownloadRun ∧
      run (World.start Store.empty 10) redownloadRun = .ok w ∧
      w.store.records "A" = none ∧ w.store.records "B" = none ∧ w.pending.map (·.uuid) = ["B"] ∧
      Enabled w (.handle 0 inboundOk) ∧ step w (.handle 0 inboundOk) = .ok w' ∧
      w'.store.records "B" = none ∧
      w'.handlers (genMessagePath (some (MMSService.new "id")) "B") = some ⟨false, .incoming "T"⟩) ∧
    (∃ w, RunEnabled (World.start localTestStore 10) localTestRun ∧
      run (World.start localTestStore 10) localTestRun = .ok w ∧ (w.store.records "B").isSome ∧
      w.handlers (genMessagePath (some (MMSService.new "id")) "A") = none ∧
      w.handlers (genMessagePath (some (MMSService.new "id")) "B") = none) :=
  ⟨⟨_, _, by decide, rfl, rfl, rfl, rfl, by decide, rfl, rfl, rfl⟩,
    ⟨_, by decide, rfl, rfl, rfl, rfl⟩⟩

end Nuntium.Mediator
