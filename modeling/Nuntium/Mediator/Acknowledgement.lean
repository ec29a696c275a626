import Nuntium.Mediator.Consistency

/-!
# Acknowledgement

An M-NotifyResp.ind is uploaded to the message center by
`handleMNotificationInd` and by `respondMessage` in the startup pass, each
time before `storage.UpdateResponded` marks the record RESPONDED; a local
test skips the upload and is marked RESPONDED all the same. A message whose
record is still RECEIVED is acknowledged again by the next startup pass.

`Acknowledged w` says that no message was acknowledged twice and that every
acknowledged message is RESPONDED or gone. `Quiet w w'` is what every step but
an upload does: it uploads nothing, and files no record and moves none out of
RESPONDED. Only a push and a Redownload file records, under fresh UUIDs.

* `acknowledged_twice` — when `UpdateResponded` fails after the upload, a
  restart acknowledges the message again.
* `Acknowledged.step` — every enabled step whose `UpdateResponded` writes
  succeed keeps the invariant.
* `uploads_nodup` — in every run from any store in which every
  `UpdateResponded` succeeds, across restarts and every other failure, no
  message is acknowledged twice.
-/

namespace Nuntium.Mediator

open Storage Telepathy

/-- A message `A` is downloaded and acknowledged, but `UpdateResponded` fails;
the process restarts and the startup pass finds `A` RECEIVED. -/
def acknowledgedTwiceRun : List Event :=
  [.pushInterfaceAvailable true, .identityAdded "M" [] fun _ => initOk,
    .push (notificationOf "A") true, .handle 0 { inboundOk with updateResponded := false },
    .restart, .identityAdded "M" ["A"] fun _ => initOk]

/-- In that run the M-NotifyResp.ind of `A` is uploaded twice. -/
theorem acknowledged_twice :
    ∃ w, RunEnabled (World.start Store.empty 10) acknowledgedTwiceRun ∧
      run (World.start Store.empty 10) acknowledgedTwiceRun = .ok w ∧ w.uploads = ["A", "A"] :=
  ⟨_, by decide, rfl, rfl⟩

/-! ### Messages that are RESPONDED or gone -/

/-- Every message of `uuids` is RESPONDED or gone. -/
def RespondedOrGone (s : Store) (uuids : List String) : Prop :=
  ∀ u ∈ uuids, ∀ st, s.records u = some st → st.state = .responded

/-- Every set of messages RESPONDED or gone in `s` is so in `s'`: `s'` files
no record and moves none out of RESPONDED. -/
def KeepsResponded (s s' : Store) : Prop :=
  ∀ uuids, RespondedOrGone s uuids → RespondedOrGone s' uuids

namespace KeepsResponded

variable {s s' s'' : Store}

theorem refl (s : Store) : KeepsResponded s s := fun _ h => h

theorem trans (h₁ : KeepsResponded s s') (h₂ : KeepsResponded s' s'') : KeepsResponded s s'' :=
  fun us h => h₂ us (h₁ us h)

theorem erase (s : Store) (uuid : String) : KeepsResponded s (s.erase uuid) := by
  intro us h u hu st hst
  rw [erase_records] at hst
  split_ifs at hst
  exact h u hu st hst

/-- A rewrite that keeps the record's state. -/
theorem modify (s : Store) (uuid : String) {f : MMSState → MMSState}
    (hf : ∀ st, (f st).mNotificationInd = st.mNotificationInd) (hs : ∀ st, (f st).state = st.state) :
    KeepsResponded s (s.modify uuid f hf) := by
  intro us h u hu st hst
  rw [modify_records] at hst
  split_ifs at hst
  · obtain ⟨st₀, h₀, rfl⟩ := Option.map_eq_some'.mp hst
    rw [hs]; exact h u hu st₀ h₀
  · exact h u hu st hst

/-- A state transition out of a state other than RESPONDED. -/
theorem advance {ok : Bool} {uuid : String} {src : State} {f : MMSState → MMSState}
    {hf : ∀ st, (f st).mNotificationInd = st.mNotificationInd} (hsrc : src ≠ .responded)
    (h : Storage.advance ok s uuid src f hf = some s') : KeepsResponded s s' := by
  obtain ⟨-, ⟨st, hst, hsrc'⟩, rfl⟩ := advance_eq_some.mp h
  intro us hs u hu st' hst'
  have hne : u ≠ uuid := by rintro rfl; exact hsrc (hsrc'.symm.trans (hs u hu st hst))
  rw [modify_records, if_neg hne] at hst'
  exact hs u hu st' hst'

theorem getD {o : Option Store} (h : ∀ s', o = some s' → KeepsResponded s s') :
    KeepsResponded s (o.getD s) := by
  rcases o with _ | s'
  exacts [refl s, h s' rfl]

theorem destroy (ok : Bool) (uuid : String) : KeepsResponded s ((Storage.destroy ok s uuid).getD s) :=
  getD fun _ h => by
    unfold Storage.destroy at h
    split at h <;> cases h
    exact erase s uuid

/-- Writing back a notification keeps the record's state. -/
theorem setNotification (s : Store) (n : MNotificationInd) : KeepsResponded s (s.setNotification n) := by
  intro us h u hu st hst
  rw [setNotification_records] at hst
  split_ifs at hst
  · obtain ⟨st₀, h₀, rfl⟩ := Option.map_eq_some'.mp hst
    exact h u hu st₀ h₀
  · exact h u hu st hst

theorem setTelepathyErrorNotified (ok : Bool) (uuid : String) :
    KeepsResponded s ((Storage.setTelepathyErrorNotified ok s uuid).getD s) :=
  getD fun _ h => by
    unfold Storage.setTelepathyErrorNotified at h
    split at h
    · split at h <;> cases h
      exact modify s uuid _ fun _ => rfl
    · cases h

end KeepsResponded

/-! ### Steps that upload nothing -/

/-- A step that uploads nothing and keeps every set of messages RESPONDED or
gone so. -/
structure Quiet (w w' : World) : Prop where
  uploads : w'.uploads = w.uploads
  responded : KeepsResponded w.store w'.store

namespace Quiet

variable {w₁ w₂ w₃ : World}

theorem refl (w : World) : Quiet w w := ⟨rfl, .refl _⟩

theorem trans (h₁ : Quiet w₁ w₂) (h₂ : Quiet w₂ w₃) : Quiet w₁ w₃ :=
  ⟨h₂.uploads.trans h₁.uploads, h₁.responded.trans h₂.responded⟩

theorem of_eq (hu : w₂.uploads = w₁.uploads) (hs : w₂.store = w₁.store) : Quiet w₁ w₂ :=
  ⟨hu, hs ▸ .refl _⟩

theorem store (h : Quiet w₁ w₂) {s : Store} (hs : KeepsResponded w₂.store s) :
    Quiet w₁ { w₂ with store := s } :=
  h.trans ⟨rfl, hs⟩

theorem setUnresponded (h : Quiet w₁ w₂) (tx : String) (u : Option String) :
    Quiet w₁ (w₂.setUnresponded tx u) :=
  h.trans (of_eq rfl rfl)

theorem destroyMessage (h : Quiet w₁ w₂) (ok : Bool) (uuid : String) :
    Quiet w₁ (destroyMessage ok uuid w₂) :=
  h.store (.destroy ok uuid)

theorem updateNotification (h : Quiet w₁ w₂) (ok : Bool) (n : MNotificationInd) :
    Quiet w₁ (w₂.updateNotification ok n) := by
  cases ok
  · exact h.trans (of_eq rfl (by simp))
  · exact h.trans ⟨rfl, by simpa using KeepsResponded.setNotification w₂.store n⟩

end Quiet

section Quiet

variable (w : World)

@[simp] theorem singnalMessageRemoved_uploads (sent : Bool) (p : String) :
    (singnalMessageRemoved sent p w).1.uploads = w.uploads := by
  unfold singnalMessageRemoved; split <;> (try split) <;> rfl

theorem singnalMessageRemoved_quiet (sent : Bool) (p : String) :
    Quiet w (singnalMessageRemoved sent p w).1 :=
  .of_eq (by simp) (by simp)

@[simp] theorem messageRemoved_uploads (oc : RemoveOutcome) (p : String) :
    (messageRemoved oc p w).1.uploads = w.uploads := by
  unfold messageRemoved destroy
  repeat' split
  all_goals simp [World.setHandler]

theorem messageRemoved_quiet (oc : RemoveOutcome) (p : String) :
    Quiet w (messageRemoved oc p w).1 := by
  refine ⟨messageRemoved_uploads w oc p, ?_⟩
  rcases messageRemoved_store oc p w with h | ⟨u, -, h⟩ <;> rw [h]
  exacts [.refl _, .erase _ u]

theorem incomingMessageFailAdded_quiet (oc : FailAddedOutcome) (n : MNotificationInd)
    (err : DownloadError) : Quiet w (incomingMessageFailAdded oc n err w).1 := by
  rcases incomingMessageFailAdded_store oc n err w with h | ⟨n', -, h⟩
  · exact .of_eq (by unfold incomingMessageFailAdded; split <;> (try split) <;> simp [World.setHandler]) h
  · rw [h]; exact (Quiet.refl w).updateNotification _ _

theorem incomingMessageAdded_quiet (updated sent : Bool) (m : MRetrieveConf) (n : MNotificationInd) :
    Quiet w (incomingMessageAdded updated sent m n w).1 := by
  rcases incomingMessageAdded_store updated sent m n w with ⟨-, h⟩ | ⟨-, h⟩
  · exact .of_eq (by unfold incomingMessageAdded; split <;> (try split) <;> (try split) <;>
      simp [World.setHandler]) h
  · rw [h]; exact (Quiet.refl w).updateNotification _ _

theorem initializationMessageAdded_quiet (sent : Bool) (m : Option MRetrieveConf)
    (n : Option MNotificationInd) : Quiet w (initializationMessageAdded sent m n w).1 := by
  unfold initializationMessageAdded
  split
  · exact .refl w
  split
  · exact .refl w
  dsimp only
  split
  · exact .refl w
  · exact .of_eq (by simp [World.setHandler]) (by simp [World.setHandler])

theorem handleMNotifyRespInd_quiet (oc : RespondOutcome) (uuid : String) :
    Quiet w (handleMNotifyRespInd oc uuid w).1 :=
  .of_eq (by unfold handleMNotifyRespInd; split <;> rfl) (by simp)

theorem handleMessageDownloadError_quiet (oc : DownloadErrorOutcome) (n : MNotificationInd)
    (err : DownloadError) : Quiet w (handleMessageDownloadError oc n err w) := by
  have hf := incomingMessageFailAdded_quiet w oc.failAdded n err
  unfold handleMessageDownloadError
  dsimp only
  split_ifs
  · exact (Quiet.refl w).destroyMessage _ _
  -- a duplicate is destroyed where another is kept; the steps are otherwise the same
  all_goals
    rcases hr : incomingMessageFailAdded oc.failAdded n err w with ⟨w₁, _ | ⟨⟨⟩⟩⟩ <;>
      simp only [hr] at hf ⊢
    · first | exact hf.destroyMessage _ _ | exact hf
    split
    · first | exact hf.destroyMessage _ _ | exact hf
    rename_i store hs
    have h₂ : Quiet w { w₁ with store } :=
      hf.store (by simpa [hs] using KeepsResponded.setTelepathyErrorNotified (s := w₁.store) oc.setNotified n.uuid)
    split
    · split_ifs
      · refine Quiet.setUnresponded ?_ _ _
        have h₃ := h₂.trans (messageRemoved_quiet _ oc.removed (genMessagePath w₁.telepathyService ‹_›))
        split
        exacts [h₃.destroyMessage _ _, h₃]
      · exact h₂
    · exact h₂

theorem getAndHandleMRetrieveConf_quiet (oc : ForwardOutcome) (n : MNotificationInd) :
    Quiet w (getAndHandleMRetrieveConf oc n w).1 := by
  unfold getAndHandleMRetrieveConf
  split
  · exact .refl w
  dsimp only
  generalize (if _ = true then _ else n : MNotificationInd) = n'
  have h₁ := incomingMessageAdded_quiet w oc.updateNotification oc.messageAdded ‹_› n'
  rcases hr : incomingMessageAdded oc.updateNotification oc.messageAdded _ n' w with ⟨w₁, n₁, _ | _⟩
  all_goals simp only [hr] at h₁ ⊢
  · exact h₁
  · split
    exacts [h₁.trans (messageRemoved_quiet _ _ _), h₁]

theorem sendMNotifyRespInd_uploads (oc : RespondOutcome) (uuid : String) :
    (sendMNotifyRespInd oc uuid w).1.store = w.store ∧
      (sendMNotifyRespInd oc uuid w).1.uploads =
        if (sendMNotifyRespInd oc uuid w).2 then uuid :: w.uploads else w.uploads := by
  unfold sendMNotifyRespInd
  cases oc.messageCenter <;> cases oc.upload <;> simp

theorem respondedArm_quiet (oc : InitOutcome) (uuid : String) (n : MNotificationInd) (check : Bool) :
    Quiet w (respondedArm oc uuid n check w).2 := by
  have h := (Quiet.refl w).setUnresponded n.transactionId none
  unfold respondedArm
  split_ifs
  · split
    exacts [h.destroyMessage _ _, h.destroyMessage _ _, h]
  · exact h

end Quiet

/-! ### The invariant -/

/-- No message was acknowledged twice, and every acknowledged message is
RESPONDED or gone. -/
structure Acknowledged (w : World) : Prop where
  nodup : w.uploads.Nodup
  responded : RespondedOrGone w.store w.uploads

namespace Acknowledged

variable {w w' : World}

theorem start (store : Store) (clock : Nat) : Acknowledged (World.start store clock) :=
  ⟨List.nodup_nil, fun _ h => by cases h⟩

theorem quiet (h : Acknowledged w) (q : Quiet w w') : Acknowledged w' := by
  have := q.responded _ h.responded
  rw [← q.uploads] at this
  exact ⟨q.uploads ▸ h.nodup, this⟩

/-- A message that is not RESPONDED was not acknowledged. -/
theorem not_mem (h : Acknowledged w) {u : String} {st : MMSState}
    (hrec : w.store.records u = some st) (hst : st.state ≠ .responded) : u ∉ w.uploads :=
  fun hu => hst (h.responded u hu st hrec)

/-- The upload of the M-NotifyResp.ind of a RECEIVED message, followed by its
successful `UpdateResponded`. -/
theorem respond (h : Acknowledged w) {u : String} {st : MMSState}
    (hrec : w.store.records u = some st) (hst : st.state = .received)
    (hstore : w'.store = (updateResponded true w.store u).getD w.store)
    (hup : w'.uploads = w.uploads ∨ w'.uploads = u :: w.uploads) : Acknowledged w' := by
  have hu := h.not_mem hrec (by simp [hst])
  have hrec' : ∀ v, w'.store.records v =
      if v = u then some { st with state := .responded } else w.store.records v := by
    intro v
    by_cases hv : v = u
    · subst hv; simp [hstore, updateResponded, advance, hrec, hst]
    · simp [hstore, updateResponded, advance, hrec, hst, hv]
  refine ⟨by rcases hup with hup | hup <;> rw [hup]; exacts [h.nodup, .cons hu h.nodup], ?_⟩
  intro v hv st' hst'
  rw [hrec'] at hst'
  split_ifs at hst' with hvu
  · cases hst'; rfl
  · refine h.responded v ?_ st' hst'
    rcases hup with hup | hup <;> rw [hup] at hv
    exacts [hv, (List.mem_cons.mp hv).resolve_left hvu]

end Acknowledged

/-! ### The inbound handler -/

/-- A successful `UpdateReceived` leaves the record RECEIVED. -/
theorem updateReceived_received {ok : Bool} {s s' : Store} {uuid : String}
    (h : updateReceived ok s uuid = some s') :
    ∃ st, s'.records uuid = some st ∧ st.state = .received := by
  obtain ⟨-, ⟨st, hst, -⟩, rfl⟩ := advance_eq_some.mp h
  exact ⟨{ st with state := .received }, by simp [hst], rfl⟩

/-- The acknowledgement in `handleMNotificationInd` keeps the invariant when
its `UpdateResponded` succeeds: it uploads only after `UpdateReceived` has left
the message RECEIVED, and marks it RESPONDED after. -/
theorem acknowledgeDownload_acknowledged {oc : InboundOutcome} {n : MNotificationInd}
    {m : MRetrieveConf} {w : World} (h : Acknowledged w) (hok : oc.updateResponded = true) :
    Acknowledged (acknowledgeDownload oc n m w) := by
  unfold acknowledgeDownload
  rcases hrc : updateReceived oc.updateReceived w.store m.uuid with _ | store₃
  · exact h
  dsimp only
  obtain ⟨st, hst, hrecv⟩ := updateReceived_received hrc
  have h₃ : Acknowledged { w with store := store₃ } :=
    h.quiet ((Quiet.refl _).store (.advance (by decide) hrc))
  unfold notifyMessageCenter
  split_ifs
  · -- the upload and `UpdateResponded`
    have q₄ := handleMNotifyRespInd_quiet { w with store := store₃ } oc.respond m.uuid
    have e₄ : (handleMNotifyRespInd oc.respond m.uuid { w with store := store₃ }).1.store = store₃ := by
      simp
    generalize handleMNotifyRespInd oc.respond m.uuid { w with store := store₃ } = r at q₄ e₄ ⊢
    rcases r with ⟨w₄, _ | _⟩
    · exact h₃.quiet q₄
    dsimp only at q₄ e₄ ⊢
    obtain ⟨hs₁, hs₂⟩ := sendMNotifyRespInd_uploads w₄ oc.respond m.uuid
    generalize sendMNotifyRespInd oc.respond m.uuid w₄ = r at hs₁ hs₂ ⊢
    rcases r with ⟨w₅, _ | _⟩ <;> dsimp only at hs₁ hs₂
    · exact h₃.quiet (q₄.trans (.of_eq (by simpa using hs₂) hs₁))
    · refine h₃.respond hst hrecv ?_ (.inr ?_)
      · simp only [World.setUnresponded, hok, hs₁, e₄]
      · simpa [World.setUnresponded, q₄.uploads] using hs₂
  · -- a local test skips the upload, or persists a popped marker
    rcases n.popDebugError .respondHandle with _ | n'
    · exact h₃.respond hst hrecv (by simp [World.setUnresponded, hok]) (.inl rfl)
    · exact h₃.quiet ((Quiet.refl _).updateNotification _ _)

/-- The download, the forward and the acknowledgement keep the invariant when
`UpdateResponded` succeeds. -/
theorem handleContent_acknowledged {oc : InboundOutcome} {n : MNotificationInd} {w : World}
    (h : Acknowledged w) (hok : oc.updateResponded = true) : Acknowledged (handleContent oc n w) := by
  have herr : ∀ n' err w₁, Quiet w w₁ →
      Acknowledged (handleMessageDownloadError oc.downloadError n' err w₁) := fun _ _ w₁ q =>
    (h.quiet q).quiet (handleMessageDownloadError_quiet _ _ _ _)
  unfold handleContent
  split
  · exact herr _ _ _ (.refl _)
  split
  · exact herr _ _ _ (.refl _)
  rename_i store hdl
  have q₂ := ((Quiet.refl w).store (.advance (by decide) hdl)).trans
    (getAndHandleMRetrieveConf_quiet _ oc.forward n)
  rcases hg : getAndHandleMRetrieveConf oc.forward n { w with store } with ⟨w₂, n₂, _ | m⟩
  all_goals simp only [hg] at q₂ ⊢
  · exact herr _ _ _ q₂
  · exact acknowledgeDownload_acknowledged (h.quiet q₂) hok

/-- `handleMNotificationInd` keeps the invariant when its `UpdateResponded`
succeeds. -/
theorem handleMNotificationInd_acknowledged {oc : InboundOutcome} {n : MNotificationInd}
    {w w' : World} (h : Acknowledged w) (hok : oc.updateResponded = true)
    (hw : handleMNotificationInd oc n w = .ok w') : Acknowledged w' := by
  have h₀ : Acknowledged (registerTransaction n w) := h.quiet <| by
    rcases registerTransaction_eq n w with e | e <;> rw [e]
    exacts [.refl w, .of_eq rfl rfl]
  unfold handleMNotificationInd at hw
  dsimp only at hw
  split_ifs at hw
  · -- a local test fails where its markers ask, without the service
    obtain rfl := Except.ok.inj hw.symm
    split
    · exact (h₀.quiet ((Quiet.refl _).updateNotification _ _)).quiet
        (handleMessageDownloadError_quiet _ _ _ _)
    · exact handleContent_acknowledged h₀ hok
  all_goals
    split at hw
    · cases hw
    obtain rfl := Except.ok.inj hw.symm
  · exact h₀.quiet (handleMessageDownloadError_quiet _ _ _ _)
  · exact handleContent_acknowledged h₀ hok

/-! ### The startup pass -/

theorem getAndHandleMRetrieveConf_uuid {oc : ForwardOutcome} {n : MNotificationInd} {w : World}
    {m : MRetrieveConf} (h : (getAndHandleMRetrieveConf oc n w).2.2 = some m) : m.uuid = n.uuid := by
  unfold getAndHandleMRetrieveConf at h
  split at h
  · cases h
  rename_i m₀ hm₀
  dsimp only at h
  split at h <;> cases h
  exact (getMRetrieveConf_some hm₀).2

/-- `respondMessage` answers false and writes at most the notification a
popped marker leaves, uploading nothing; or it answers true with the
notification it was given, writes no record, and uploads at most the
M-NotifyResp.ind of its message. -/
theorem respondMessage_uploads (oc : InitOutcome) (n : MNotificationInd) (w : World) :
    (respondMessage oc n w).2.2 = false ∧ Quiet w (respondMessage oc n w).1 ∨
      (respondMessage oc n w).2 = (n, true) ∧ (respondMessage oc n w).1.store = w.store ∧
        ((respondMessage oc n w).1.uploads = w.uploads ∨
          (respondMessage oc n w).1.uploads = n.uuid :: w.uploads) := by
  unfold respondMessage
  split
  · exact .inl ⟨rfl, .refl w⟩
  rename_i m hm
  rw [← (getMRetrieveConf_some hm).2]
  split_ifs
  · have q := handleMNotifyRespInd_quiet w oc.respond m.uuid
    have e : (handleMNotifyRespInd oc.respond m.uuid w).1.store = w.store := by simp
    generalize handleMNotifyRespInd oc.respond m.uuid w = r at q e ⊢
    rcases r with ⟨w₁, _ | _⟩ <;> dsimp only at q e ⊢
    · exact .inl ⟨rfl, q⟩
    · obtain ⟨hs₁, hs₂⟩ := sendMNotifyRespInd_uploads w₁ oc.respond m.uuid
      generalize sendMNotifyRespInd oc.respond m.uuid w₁ = r at hs₁ hs₂ ⊢
      rcases r with ⟨w₂, _ | _⟩ <;> dsimp only at hs₁ hs₂ ⊢
      · exact .inl ⟨rfl, q.trans (.of_eq (by simpa using hs₂) hs₁)⟩
      · exact .inr ⟨rfl, hs₁.trans e, .inr (by simpa [q.uploads] using hs₂)⟩
  · exact .inl ⟨rfl, .refl w⟩
  · split
    · exact .inl ⟨rfl, (Quiet.refl w).updateNotification _ _⟩
    · exact .inr ⟨rfl, rfl, .inl rfl⟩

/-- The RECEIVED arm keeps the invariant when its `UpdateResponded` succeeds. -/
theorem receivedArm_acknowledged {oc : InitOutcome} {uuid : String} {n : MNotificationInd}
    {check : Bool} {w : World} {st : MMSState} (h : Acknowledged w) (hok : oc.updateResponded = true)
    (hrec : w.store.records n.uuid = some st) (hst : st.state = .received) :
    Acknowledged (receivedArm oc uuid n check w).2.2 := by
  have hr := respondMessage_uploads oc n w
  replace hr : (if n.expired w.clock then (w, n, true) else respondMessage oc n w).2.2 = false ∧
      Quiet w (if n.expired w.clock then (w, n, true) else respondMessage oc n w).1 ∨
      (if n.expired w.clock then (w, n, true) else respondMessage oc n w).2 = (n, true) ∧
        (if n.expired w.clock then (w, n, true) else respondMessage oc n w).1.store = w.store ∧
        ((if n.expired w.clock then (w, n, true) else respondMessage oc n w).1.uploads = w.uploads ∨
          (if n.expired w.clock then (w, n, true) else respondMessage oc n w).1.uploads =
            n.uuid :: w.uploads) := by
    split_ifs
    exacts [.inr ⟨rfl, rfl, .inl rfl⟩, hr]
  have hu : updateResponded true w.store n.uuid =
      some (w.store.modify n.uuid (fun st => { st with state := .responded }) fun _ => rfl) := by
    simp [updateResponded, advance, hrec, hst]
  unfold receivedArm
  generalize (if n.expired w.clock then (w, n, true) else respondMessage oc n w) = r at hr ⊢
  rcases r with ⟨w₁, n₁, _ | _⟩ <;> dsimp only at hr ⊢
  · exact h.quiet (hr.resolve_right (by simp)).2
  · obtain ⟨hn, hs, hup⟩ := hr.resolve_left (by simp)
    obtain rfl : n₁ = n := (Prod.mk.inj hn).1
    rw [hok, hs, hu]
    simp only [↓reduceIte]
    have h₂ : Acknowledged
        { w₁ with store := w.store.modify n₁.uuid (fun st => { st with state := .responded }) fun _ => rfl } :=
      h.respond hrec hst (by simp [hu]) hup
    exact h₂.quiet (respondedArm_quiet _ oc uuid n₁ check)

/-- The visit of a record keeps the invariant when its `UpdateResponded`
succeeds. -/
theorem reconcile_acknowledged {oc : InitOutcome} {uuid : String} {st : MMSState}
    {n : MNotificationInd} {w : World} (h : Acknowledged w) (hok : oc.updateResponded = true)
    (hrec : w.store.records uuid = some st) (hn : st.mNotificationInd = some n) :
    Acknowledged (reconcile oc uuid st n w).2.2 := by
  unfold reconcile
  split
  · split_ifs
    · exact h.quiet (.of_eq rfl rfl)
    · exact h.quiet ((((Quiet.refl w).destroyMessage _ _).trans
        (singnalMessageRemoved_quiet _ _ _)).setUnresponded _ _)
    · exact h
  · have q := getAndHandleMRetrieveConf_quiet w oc.forward n
    have hm : ∀ m, (getAndHandleMRetrieveConf oc.forward n w).2.2 = some m → m.uuid = n.uuid :=
      fun _ => getAndHandleMRetrieveConf_uuid
    generalize getAndHandleMRetrieveConf oc.forward n w = r at q hm ⊢
    rcases r with ⟨w₁, n', _ | m⟩ <;> dsimp only at q hm ⊢
    · exact h.quiet q
    split
    · exact h.quiet q
    rename_i store hrc
    obtain ⟨st', hst', hrecv⟩ := updateReceived_received hrc
    rw [hm m rfl] at hst'
    exact receivedArm_acknowledged ((h.quiet q).quiet ((Quiet.refl _).store (.advance (by decide) hrc)))
      hok hst' hrecv
  · exact receivedArm_acknowledged h hok (w.store.keyed hrec hn ▸ hrec) ‹_›
  · exact h.quiet (respondedArm_quiet _ _ _ _ _)
  all_goals exact h

/-- One visit of the startup pass keeps the invariant when its `UpdateResponded`
succeeds. -/
theorem initializeMessage_acknowledged {modemId : String} {oc : InitOutcome} {uuid : String}
    {handled : List String} {w : World} (h : Acknowledged w) (hok : oc.updateResponded = true) :
    Acknowledged (initializeMessage modemId oc uuid handled w).2 := by
  have hd : Acknowledged (destroyMessage oc.destroy uuid w) := h.quiet ((Quiet.refl w).destroyMessage _ _)
  unfold initializeMessage
  split
  · exact hd
  rename_i st hrec
  split_ifs
  · exact h
  · exact hd
  · exact h
  split
  · exact hd
  rename_i n hn
  by_cases hdup : n.transactionId ≠ "" ∧ n.transactionId ∈ handled
  · rw [if_pos hdup]; exact hd
  rw [if_neg hdup]
  have hp : Quiet w (if n.transactionId ≠ "" then
      (n.transactionId :: handled, w.setUnresponded n.transactionId (some uuid)) else (handled, w)).2 ∧
      (if n.transactionId ≠ "" then (n.transactionId :: handled,
        w.setUnresponded n.transactionId (some uuid)) else (handled, w)).2.store = w.store := by
    split_ifs <;> exact ⟨.of_eq rfl rfl, rfl⟩
  generalize (if n.transactionId ≠ "" then (n.transactionId :: handled,
    w.setUnresponded n.transactionId (some uuid)) else (handled, w)) = p at hp ⊢
  rcases p with ⟨handled', w₁⟩
  dsimp only at hp ⊢
  have hr := reconcile_acknowledged (h.quiet hp.1) hok (by rw [hp.2]; exact hrec) hn
  generalize reconcile oc uuid st n w₁ = r at hr ⊢
  rcases r with ⟨start, notif, w₂⟩
  dsimp only at hr ⊢
  split_ifs
  exacts [hr.quiet (initializationMessageAdded_quiet _ _ _ _), hr]

theorem initializeFrom_acknowledged {modemId : String} {oc : String → InitOutcome}
    (uuids : List String) (hok : ∀ u ∈ uuids, (oc u).updateResponded = true) {handled : List String}
    {w : World} (h : Acknowledged w) : Acknowledged (initializeFrom modemId oc uuids handled w) := by
  induction uuids generalizing handled w with
  | nil => exact h
  | cons u us ih =>
      have h₁ : Acknowledged (initializeMessage modemId (oc u) u handled w).2 :=
        initializeMessage_acknowledged h (hok u (.head _))
      simp only [initializeFrom]
      generalize initializeMessage modemId (oc u) u handled w = r at h₁ ⊢
      exact ih (fun v hv => hok v (.tail _ hv)) h₁

/-! ### Every run -/

/-- Filing a record under a UUID that was not acknowledged. -/
theorem RespondedOrGone.create {s : Store} {uuids : List String} (h : RespondedOrGone s uuids) (created : Bool)
    (modemId : String) {n : MNotificationInd} (hn : n.uuid ∉ uuids) :
    RespondedOrGone ((Storage.create created s modemId n).getD s) uuids := by
  cases created
  · exact h
  · intro u hu st hst
    simp only [Storage.create, ite_true, Option.getD_some, file_records] at hst
    split_ifs at hst with hun
    · exact absurd (hun ▸ hu) hn
    · exact h u hu st hst

/-- The `UpdateResponded` writes of an event all succeed. -/
def RespondedOk : Event → Prop
  | .handle _ oc => oc.updateResponded = true
  | .identityAdded _ uuids oc => ∀ u ∈ uuids, (oc u).updateResponded = true
  | _ => True

instance : (e : Event) → Decidable (RespondedOk e)
  | .handle _ oc => inferInstanceAs (Decidable (oc.updateResponded = true))
  | .identityAdded _ uuids oc => inferInstanceAs (Decidable (∀ u ∈ uuids, (oc u).updateResponded = true))
  | .push .. | .delete .. | .redownload .. | .identityRemoved _ | .pushInterfaceAvailable _
  | .tick _ | .restart => isTrue trivial

/-- Every enabled step whose `UpdateResponded` writes succeed keeps the
invariant. -/
theorem Acknowledged.step {w w' : World} {e : Event} (h : Acknowledged w) (he : Enabled w e)
    (hok : RespondedOk e) (hs : step w e = .ok w') : Acknowledged w' := by
  cases e with
  | push n created =>
      obtain rfl := Except.ok.inj hs
      have hu : n.uuid ∉ w.uploads := he.2.2.2.2
      unfold handlePushAgentNotification
      refine ⟨h.nodup, h.responded.create created _ ?_⟩
      split_ifs <;> (repeat' split) <;> exact hu
  | handle i oc =>
      simp only [Mediator.step] at hs
      split at hs
      · exact handleMNotificationInd_acknowledged (w := { w with pending := w.pending.eraseIdx i })
          (h.quiet (.of_eq rfl rfl)) hok hs
      · cases hs; exact h
  | delete path oc =>
      obtain rfl := Except.ok.inj hs
      unfold watchMessageDeleteCall
      dsimp only
      split_ifs
      exacts [h, h.quiet (messageRemoved_quiet _ _ _)]
  | redownload path uuid created oc =>
      obtain rfl := Except.ok.inj hs
      unfold watchMessageRedownloadCall
      split
      · exact h
      split_ifs
      · exact h
      split
      · exact h
      have h₁ := h.quiet (messageRemoved_quiet w oc path)
      exact ⟨h₁.nodup, h₁.responded.create created _ (by simpa using he.2.2.2.2)⟩
  | identityAdded id uuids oc =>
      obtain rfl := Except.ok.inj hs
      exact initializeFrom_acknowledged uuids hok (h.quiet (.of_eq rfl rfl))
  | identityRemoved _ | pushInterfaceAvailable _ | tick _ | restart =>
      obtain rfl := Except.ok.inj hs
      exact h.quiet (.of_eq rfl rfl)

theorem Acknowledged.run {w w' : World} (h : Acknowledged w) (es : List Event)
    (henabled : RunEnabled w es) (hok : ∀ e ∈ es, RespondedOk e) (hrun : run w es = .ok w') :
    Acknowledged w' := by
  induction es generalizing w with
  | nil => cases hrun; exact h
  | cons e es ih =>
      simp only [Mediator.run] at hrun
      simp only [RunEnabled] at henabled
      split at hrun
      · rename_i w₁ hstep
        rw [hstep] at henabled
        exact ih (h.step henabled.1 (hok e (.head _)) hstep) henabled.2
          (fun e he => hok e (.tail _ he)) hrun
      · cases hrun

/-- In every run from a store on disk in which every `UpdateResponded`
succeeds, with restarts and every other failure anywhere, no M-NotifyResp.ind
is uploaded twice. -/
theorem uploads_nodup (store : Store) (clock : Nat) (es : List Event) {w : World}
    (henabled : RunEnabled (World.start store clock) es) (hok : ∀ e ∈ es, RespondedOk e)
    (hrun : run (World.start store clock) es = .ok w) : w.uploads.Nodup :=
  ((Acknowledged.start store clock).run es henabled hok hrun).nodup

/-- The run of `acknowledged_twice` with `UpdateResponded` succeeding: the
restart finds `A` RESPONDED, and `A` is acknowledged once. -/
def acknowledgedOnceRun : List Event :=
  [.pushInterfaceAvailable true, .identityAdded "M" [] fun _ => initOk,
    .push (notificationOf "A") true, .handle 0 inboundOk, .restart,
    .identityAdded "M" ["A"] fun _ => initOk]

theorem uploads_nodup_once :
    ∃ w, RunEnabled (World.start Store.empty 10) acknowledgedOnceRun ∧
      (∀ e ∈ acknowledgedOnceRun, RespondedOk e) ∧
      run (World.start Store.empty 10) acknowledgedOnceRun = .ok w ∧ w.uploads = ["A"] ∧
      w.uploads.Nodup :=
  ⟨_, by decide, by decide, rfl, rfl,
    uploads_nodup Store.empty 10 acknowledgedOnceRun (by decide) (by decide) rfl⟩

end Nuntium.Mediator
