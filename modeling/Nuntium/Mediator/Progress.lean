import Nuntium.Mediator.Consistency

/-!
# Records only move forward

What a step of the mediator loop writes to the store. Apart from the
`storage.Create` of a push and of a Redownload, which files a record under a
UUID the store does not hold, every write a handler, a watcher or the startup
pass makes is a successful `Destroy`, `UpdateDownloaded`, `UpdateReceived`,
`UpdateResponded` or `SetTelepathyErrorNotified`, or the
`UpdateMNotificationInd` by which a local test persists the notification a
popped marker leaves, on whatever record the path of the code reaches
(`Storage.Writes`). Each helper gets one lemma saying so, and the step of the
loop is assembled from them.

From that alone: a record, for as long as it stays in the store, keeps its
ModemId and its kind, and its notification unless a local test's is written
back; its state only moves forward along NOTIFICATION, DOWNLOADED, RECEIVED,
RESPONDED; its error flag is never cleared; and its content changes only as
it leaves NOTIFICATION (`MMSState.Evolves`). This holds on every path of every
handler, failed writes included, since a failed write leaves the store as it
was.

* `step_changes` — the store effect of every enabled step (`Storage.Changes`);
* `step_evolves` — every record a step keeps has evolved;
* `records_evolve` — both over every run from any world.
-/

namespace Nuntium

namespace Storage

/-! ### How a record may change -/

/-- The place of a state in the order the store moves a record through: the
inbound states in the order of their transitions, then the outbound ones. -/
def State.stage : State → Nat
  | .notification => 0
  | .downloaded => 1
  | .received => 2
  | .responded => 3
  | .draft => 4
  | .sent => 5

/-- How a record may change while it stays in the store: its ModemId and its
kind are kept, and its notification unless a local test's notification is
written back; its state moves forward, its error flag is never cleared, and
its content changes only as it leaves NOTIFICATION. -/
structure MMSState.Evolves (st st' : MMSState) : Prop where
  modemId : st'.modemId = st.modemId
  notification : st'.mNotificationInd = st.mNotificationInd ∨
    ∃ n, st'.mNotificationInd = some n ∧ n.isDebug = true
  incoming : st'.isIncoming = st.isIncoming
  stage : st.state.stage ≤ st'.state.stage
  notified : st.telepathyErrorNotified = true → st'.telepathyErrorNotified = true
  content : st'.contentLocation = st.contentLocation ∨ st.state = .notification

namespace MMSState.Evolves

theorem refl (st : MMSState) : st.Evolves st := ⟨rfl, .inl rfl, rfl, le_refl _, id, .inl rfl⟩

theorem trans {st₁ st₂ st₃ : MMSState} (h₁ : st₁.Evolves st₂) (h₂ : st₂.Evolves st₃) :
    st₁.Evolves st₃ where
  modemId := h₂.modemId.trans h₁.modemId
  notification := h₂.notification.elim (fun e₂ => e₂ ▸ h₁.notification) .inr
  incoming := h₂.incoming.trans h₁.incoming
  stage := h₁.stage.trans h₂.stage
  notified := h₂.notified ∘ h₁.notified
  content := by
    rcases h₁.content with e₁ | e₁
    · rcases h₂.content with e₂ | e₂
      · exact .inl (e₂.trans e₁)
      · -- only a NOTIFICATION comes at or before a NOTIFICATION
        have hle := h₁.stage
        rw [e₂] at hle
        revert hle
        cases st₁.state <;> simp [State.stage]
    · exact .inr e₁

end MMSState.Evolves

/-! ### The writes -/

/-- One successful write of the `storage` package to a record. -/
inductive Write : Store → Store → Prop where
  | destroy {ok : Bool} {s s' : Store} {uuid : String} :
      Storage.destroy ok s uuid = some s' → Write s s'
  | updateDownloaded {ok : Bool} {s s' : Store} {uuid filePath : String} :
      Storage.updateDownloaded ok s uuid filePath = some s' → Write s s'
  | updateReceived {ok : Bool} {s s' : Store} {uuid : String} :
      Storage.updateReceived ok s uuid = some s' → Write s s'
  | updateResponded {ok : Bool} {s s' : Store} {uuid : String} :
      Storage.updateResponded ok s uuid = some s' → Write s s'
  | setTelepathyErrorNotified {ok : Bool} {s s' : Store} {uuid : String} :
      Storage.setTelepathyErrorNotified ok s uuid = some s' → Write s s'
  | updateMNotificationInd {ok : Bool} {s s' : Store} {n : MNotificationInd} :
      Storage.updateMNotificationInd ok s n = some s' → n.isDebug = true → Write s s'

/-- A sequence of successful writes. -/
def Writes : Store → Store → Prop := Relation.ReflTransGen Write

namespace Writes

variable {s s₁ s₂ : Store}

theorem refl (s : Store) : Writes s s := Relation.ReflTransGen.refl

theorem of_eq (h : s₁ = s) : Writes s s₁ := h ▸ refl s

theorem single (h : Write s s₁) : Writes s s₁ := Relation.ReflTransGen.single h

theorem trans (h₁ : Writes s s₁) (h₂ : Writes s₁ s₂) : Writes s s₂ :=
  Relation.ReflTransGen.trans h₁ h₂

theorem tail (h₁ : Writes s s₁) (h₂ : Write s₁ s₂) : Writes s s₂ := Relation.ReflTransGen.tail h₁ h₂

/-- A write whose failure the caller ignores. -/
theorem getD {o : Option Store} (h : ∀ s', o = some s' → Write s s') : Writes s (o.getD s) := by
  rcases o with _ | s'
  exacts [refl s, single (h s' rfl)]

end Writes

/-- Every record of `s'` was in `s` and has evolved from the record there. -/
def Descends (s s' : Store) : Prop :=
  ∀ u st', s'.records u = some st' → ∃ st, s.records u = some st ∧ st.Evolves st'

namespace Descends

variable {s s₁ s₂ : Store}

theorem refl (s : Store) : Descends s s := fun _ st h => ⟨st, h, .refl st⟩

theorem trans (h₁ : Descends s s₁) (h₂ : Descends s₁ s₂) : Descends s s₂ := fun u st₂ h => by
  obtain ⟨st₁, hst₁, e₂⟩ := h₂ u st₂ h
  obtain ⟨st, hst, e₁⟩ := h₁ u st₁ hst₁
  exact ⟨st, hst, e₁.trans e₂⟩

theorem erase (s : Store) (uuid : String) : Descends s (s.erase uuid) := fun u st' h => by
  rw [erase_records] at h
  split_ifs at h
  exact ⟨st', h, .refl st'⟩

theorem modify {uuid : String} {f : MMSState → MMSState}
    {hf : ∀ st, (f st).mNotificationInd = st.mNotificationInd}
    (hev : ∀ st, s.records uuid = some st → st.Evolves (f st)) : Descends s (s.modify uuid f hf) :=
  fun u st' h => by
    rw [modify_records] at h
    split_ifs at h with hu
    · subst hu
      obtain ⟨st, hst, rfl⟩ := Option.map_eq_some'.mp h
      exact ⟨st, hst, hev st hst⟩
    · exact ⟨st', h, .refl st'⟩

/-- The notification of a local test written back. -/
theorem setNotification {n : MNotificationInd} (hd : n.isDebug = true) : Descends s (s.setNotification n) :=
  fun u st' h => by
    rw [setNotification_records] at h
    split_ifs at h
    · obtain ⟨st, hst, rfl⟩ := Option.map_eq_some'.mp h
      exact ⟨st, hst, rfl, .inr ⟨n, rfl, hd⟩, rfl, le_refl _, id, .inl rfl⟩
    · exact ⟨st', h, .refl st'⟩

/-- A transition of an inbound record to the next inbound state. -/
theorem advance {ok : Bool} {uuid : String} {src : State} {f : MMSState → MMSState}
    {hf : ∀ st, (f st).mNotificationInd = st.mNotificationInd}
    (hev : ∀ st : MMSState, st.state = src → st.Evolves (f st)) (h : Storage.advance ok s uuid src f hf = some s₁) :
    Descends s s₁ := by
  obtain ⟨-, ⟨st, hst, hsrc⟩, rfl⟩ := advance_eq_some.mp h
  exact modify fun st' h' => hev st' (by rw [hst] at h'; cases h'; exact hsrc)

end Descends

/-- No write files a record, and each leaves every record it keeps evolved. -/
theorem Write.descends {s s' : Store} (h : Write s s') : Descends s s' := by
  cases h with
  | destroy h =>
      unfold Storage.destroy at h
      split at h <;> cases h
      exact .erase s _
  | updateDownloaded h =>
      unfold Storage.updateDownloaded at h
      refine .advance (fun st hs => ?_) h
      exact ⟨rfl, .inl rfl, by simp [MMSState.isIncoming, hs], by simp [hs, State.stage], id, .inr hs⟩
  | updateReceived h =>
      unfold Storage.updateReceived at h
      refine .advance (fun st hs => ?_) h
      exact ⟨rfl, .inl rfl, by simp [MMSState.isIncoming, hs], by simp [hs, State.stage], id, .inl rfl⟩
  | updateResponded h =>
      unfold Storage.updateResponded at h
      refine .advance (fun st hs => ?_) h
      exact ⟨rfl, .inl rfl, by simp [MMSState.isIncoming, hs], by simp [hs, State.stage], id, .inl rfl⟩
  | setTelepathyErrorNotified h =>
      unfold Storage.setTelepathyErrorNotified at h
      split at h
      · split at h <;> cases h
        exact .modify fun st _ => ⟨rfl, .inl rfl, rfl, le_refl _, fun _ => rfl, .inl rfl⟩
      · cases h
  | updateMNotificationInd h hd =>
      obtain ⟨-, -, rfl⟩ := updateMNotificationInd_eq_some.mp h
      exact .setNotification hd

theorem Writes.descends {s s' : Store} (h : Writes s s') : Descends s s' := by
  induction h with
  | refl => exact .refl s
  | tail _ hw ih => exact ih.trans hw.descends

/-- One change of the store by a step: a write, or the `Create` of a record
under a UUID the store does not hold. -/
inductive Change : Store → Store → Prop where
  | write {s s' : Store} : Write s s' → Change s s'
  | create {s : Store} {modemId : String} {n : MNotificationInd} :
      s.records n.uuid = none → Change s (s.file modemId n)

/-- The changes of the store along a run. -/
def Changes : Store → Store → Prop := Relation.ReflTransGen Change

theorem Writes.changes {s s' : Store} (h : Writes s s') : Changes s s' :=
  Relation.ReflTransGen.mono (fun _ _ => .write) h

end Storage

namespace Mediator

open Storage Telepathy

/-! ### The writes of each helper -/

section Helpers

variable (w : World)

theorem destroyMessage_writes (ok : Bool) (uuid : String) :
    Writes w.store (destroyMessage ok uuid w).store :=
  .getD fun _ h => .destroy h

theorem updateNotification_writes (ok : Bool) {n : MNotificationInd} (hd : n.isDebug = true) :
    Writes w.store (w.updateNotification ok n).store :=
  .getD fun _ h => .updateMNotificationInd h hd

theorem messageRemoved_writes (oc : RemoveOutcome) (p : String) :
    Writes w.store (messageRemoved oc p w).1.store := by
  rcases messageRemoved_store oc p w with h | ⟨u, -, h⟩ <;> rw [h]
  exacts [.refl _, .single (.destroy (show destroy true w.store u = some (w.store.erase u) from rfl))]

@[simp] theorem initializationMessageAdded_store (sent : Bool) (m : Option MRetrieveConf)
    (n : Option MNotificationInd) : (initializationMessageAdded sent m n w).1.store = w.store := by
  unfold initializationMessageAdded
  split
  · rfl
  split
  · rfl
  dsimp only
  split
  · rfl
  · simp [World.setHandler]

theorem respondMessage_writes (oc : InitOutcome) (n : MNotificationInd) :
    Writes w.store (respondMessage oc n w).1.store := by
  unfold respondMessage
  split
  · exact .refl _
  rename_i m _
  split_ifs
  · have e : (handleMNotifyRespInd oc.respond m.uuid w).1.store = w.store := by simp
    generalize handleMNotifyRespInd oc.respond m.uuid w = r at e ⊢
    rcases r with ⟨w₁, _ | _⟩ <;> dsimp only at e ⊢ <;> exact .of_eq (by simp [e])
  · exact .refl _
  · rcases hp : n.popDebugError .respondHandle with _ | n'
    · exact .refl _
    · exact updateNotification_writes w _ (MNotificationInd.isDebug_of_pop hp)

theorem incomingMessageFailAdded_writes (oc : FailAddedOutcome) (n : MNotificationInd)
    (err : DownloadError) : Writes w.store (incomingMessageFailAdded oc n err w).1.store := by
  rcases incomingMessageFailAdded_store oc n err w with h | ⟨n', hp, h⟩
  · exact .of_eq h
  · rw [h]; exact updateNotification_writes w _ (MNotificationInd.isDebug_of_pop hp)

theorem incomingMessageAdded_writes (updated sent : Bool) (m : MRetrieveConf) (n : MNotificationInd) :
    Writes w.store (incomingMessageAdded updated sent m n w).1.store := by
  rcases incomingMessageAdded_store updated sent m n w with ⟨-, h⟩ | ⟨hp, h⟩
  · exact .of_eq h
  · rw [h]; exact updateNotification_writes w _ (MNotificationInd.isDebug_of_pop hp)

theorem handleMessageDownloadError_writes (oc : DownloadErrorOutcome) (n : MNotificationInd)
    (err : DownloadError) : Writes w.store (handleMessageDownloadError oc n err w).store := by
  have hf := incomingMessageFailAdded_writes w oc.failAdded n err
  unfold handleMessageDownloadError
  dsimp only
  split_ifs
  · exact destroyMessage_writes w _ _
  -- a duplicate is destroyed where another is kept; the steps are otherwise the same
  all_goals
    rcases hr : incomingMessageFailAdded oc.failAdded n err w with ⟨w₁, _ | ⟨⟨⟩⟩⟩ <;>
      simp only [hr] at hf ⊢
    · first | exact hf.trans (destroyMessage_writes w₁ _ _) | exact hf
    split
    · first | exact hf.trans (destroyMessage_writes w₁ _ _) | exact hf
    rename_i store hs
    have h₂ : Writes w.store store := hf.tail (.setTelepathyErrorNotified hs)
    split
    · split_ifs
      · have h₃ := h₂.trans (messageRemoved_writes { w₁ with store } oc.removed
          (genMessagePath w₁.telepathyService ‹_›))
        split
        exacts [h₃.trans (destroyMessage_writes _ _ _), h₃]
      · exact h₂
    · exact h₂

theorem getAndHandleMRetrieveConf_writes (oc : ForwardOutcome) (n : MNotificationInd) :
    Writes w.store (getAndHandleMRetrieveConf oc n w).1.store := by
  unfold getAndHandleMRetrieveConf
  split
  · exact .refl _
  dsimp only
  generalize (if _ = true then _ else n : MNotificationInd) = n'
  have h₁ := incomingMessageAdded_writes w oc.updateNotification oc.messageAdded ‹_› n'
  rcases hr : incomingMessageAdded oc.updateNotification oc.messageAdded _ n' w with ⟨w₁, n₁, _ | _⟩
  all_goals simp only [hr] at h₁ ⊢
  · exact h₁
  · split
    exacts [h₁.trans (messageRemoved_writes _ _ _), h₁]

theorem respondedArm_writes (oc : InitOutcome) (uuid : String) (n : MNotificationInd) (check : Bool) :
    Writes w.store (respondedArm oc uuid n check w).2.store := by
  unfold respondedArm
  split_ifs
  · split
    exacts [destroyMessage_writes _ _ _, destroyMessage_writes _ _ _, .refl _]
  · exact .refl _

theorem receivedArm_writes (oc : InitOutcome) (uuid : String) (n : MNotificationInd) (check : Bool) :
    Writes w.store (receivedArm oc uuid n check w).2.2.store := by
  have hr : Writes w.store (if n.expired w.clock then (w, n, true) else respondMessage oc n w).1.store := by
    split_ifs
    exacts [.refl _, respondMessage_writes w oc n]
  unfold receivedArm
  generalize (if n.expired w.clock then (w, n, true) else respondMessage oc n w) = r at hr ⊢
  obtain ⟨w₁, n₁, responded⟩ := r
  dsimp only at hr ⊢
  split_ifs
  · split
    · exact hr
    rename_i store hu
    exact (hr.tail (.updateResponded hu)).trans (respondedArm_writes { w₁ with store } oc uuid n₁ check)
  · exact hr

theorem reconcile_writes (oc : InitOutcome) (uuid : String) (st : MMSState) (n : MNotificationInd) :
    Writes w.store (reconcile oc uuid st n w).2.2.store := by
  unfold reconcile
  split
  · split_ifs
    · exact .refl _
    · exact (destroyMessage_writes w oc.destroy uuid).trans (.of_eq (by simp))
    · exact .refl _
  · have h₁ := getAndHandleMRetrieveConf_writes w oc.forward n
    generalize getAndHandleMRetrieveConf oc.forward n w = r at h₁ ⊢
    rcases r with ⟨w₁, n', _ | m⟩ <;> dsimp only at h₁ ⊢
    · exact h₁
    split
    · exact h₁
    rename_i store hrc
    exact (h₁.tail (.updateReceived hrc)).trans (receivedArm_writes { w₁ with store } oc uuid n false)
  · exact receivedArm_writes _ _ _ _ _
  · exact respondedArm_writes _ _ _ _ _
  all_goals exact .refl _

theorem initializeMessage_writes (modemId : String) (oc : InitOutcome) (uuid : String)
    (handled : List String) : Writes w.store (initializeMessage modemId oc uuid handled w).2.store := by
  unfold initializeMessage
  split
  · exact destroyMessage_writes _ _ _
  rename_i st hrec
  split_ifs
  · exact .refl _
  · exact destroyMessage_writes _ _ _
  · exact .refl _
  split
  · exact destroyMessage_writes _ _ _
  rename_i n hn
  by_cases hdup : n.transactionId ≠ "" ∧ n.transactionId ∈ handled
  · rw [if_pos hdup]; exact destroyMessage_writes _ _ _
  rw [if_neg hdup]
  have hp : (if n.transactionId ≠ "" then (n.transactionId :: handled,
      w.setUnresponded n.transactionId (some uuid)) else (handled, w)).2.store = w.store := by
    split_ifs <;> rfl
  generalize (if n.transactionId ≠ "" then (n.transactionId :: handled,
    w.setUnresponded n.transactionId (some uuid)) else (handled, w)) = p at hp ⊢
  rcases p with ⟨handled', w₁⟩
  dsimp only at hp ⊢
  have hr := (Writes.of_eq hp).trans (reconcile_writes w₁ oc uuid st n)
  generalize reconcile oc uuid st n w₁ = r at hr ⊢
  rcases r with ⟨start, notif, w₂⟩
  dsimp only at hr ⊢
  split_ifs
  exacts [hr.trans (.of_eq (by simp)), hr]

theorem initializeFrom_writes (modemId : String) (oc : String → InitOutcome) (uuids : List String)
    (handled : List String) : Writes w.store (initializeFrom modemId oc uuids handled w).store := by
  induction uuids generalizing handled w with
  | nil => exact .refl _
  | cons u us ih =>
      have h₁ := initializeMessage_writes w modemId (oc u) u handled
      simp only [initializeFrom]
      generalize initializeMessage modemId (oc u) u handled w = r at h₁ ⊢
      exact h₁.trans (ih _ _)

theorem notifyMessageCenter_writes (oc : InboundOutcome) (n : MNotificationInd) (m : MRetrieveConf) :
    Writes w.store (notifyMessageCenter oc n m w).1.store := by
  rcases notifyMessageCenter_cases oc n m w with h | h | ⟨n', hp, h⟩ | h <;> rw [h]
  · exact .of_eq (by simp)
  · exact .of_eq (by simp)
  · exact updateNotification_writes w _ (MNotificationInd.isDebug_of_pop hp)
  · exact .refl _

theorem acknowledgeDownload_writes (oc : InboundOutcome) (n : MNotificationInd) (m : MRetrieveConf) :
    Writes w.store (acknowledgeDownload oc n m w).store := by
  unfold acknowledgeDownload
  rcases hrc : updateReceived oc.updateReceived w.store m.uuid with _ | store₃
  · exact .refl _
  dsimp only
  have h₄ := (Writes.single (.updateReceived hrc)).trans
    (notifyMessageCenter_writes { w with store := store₃ } oc n m)
  rcases hr : notifyMessageCenter oc n m { w with store := store₃ } with ⟨w₄, _ | _⟩ <;> rw [hr] at h₄
  · exact h₄
  · exact h₄.trans (.getD fun _ h => .updateResponded h)

theorem handleContent_writes (oc : InboundOutcome) (n : MNotificationInd) :
    Writes w.store (handleContent oc n w).store := by
  have herr : ∀ n' err w₁, Writes w.store w₁.store →
      Writes w.store (handleMessageDownloadError oc.downloadError n' err w₁).store :=
    fun _ _ w₁ h => h.trans (handleMessageDownloadError_writes w₁ _ _ _)
  unfold handleContent
  split
  · exact herr _ _ _ (.refl _)
  split
  · exact herr _ _ _ (.refl _)
  rename_i store hdl
  have h₂ := (Writes.single (.updateDownloaded hdl)).trans
    (getAndHandleMRetrieveConf_writes { w with store } oc.forward n)
  rcases hg : getAndHandleMRetrieveConf oc.forward n { w with store } with ⟨w₂, n₂, _ | m⟩
  all_goals simp only [hg] at h₂ ⊢
  · exact herr _ _ _ h₂
  · exact h₂.trans (acknowledgeDownload_writes w₂ oc n₂ m)

end Helpers

theorem handleMNotificationInd_writes {oc : InboundOutcome} {n : MNotificationInd} {w w' : World}
    (hw : handleMNotificationInd oc n w = .ok w') : Writes w.store w'.store := by
  have h₀ : Writes w.store (registerTransaction n w).store := .of_eq (by simp)
  unfold handleMNotificationInd at hw
  dsimp only at hw
  split_ifs at hw
  · -- a local test fails where its markers ask, persisting what a pop leaves
    obtain rfl := Except.ok.inj hw.symm
    rcases hc : debugMMSContextError n with _ | ⟨n₁, err⟩
    · exact h₀.trans (handleContent_writes _ _ _)
    · obtain ⟨e, hp⟩ := debugMMSContextError_popped hc
      exact (h₀.trans (updateNotification_writes _ _ (MNotificationInd.isDebug_of_pop hp))).trans
        (handleMessageDownloadError_writes _ _ _ _)
  all_goals
    split at hw
    · cases hw
    obtain rfl := Except.ok.inj hw.symm
  · exact h₀.trans (handleMessageDownloadError_writes _ _ _ _)
  · exact h₀.trans (handleContent_writes _ _ _)

/-! ### Every step -/

/-- What an enabled step does to the store: a sequence of writes, and for a
push or a Redownload possibly the `Create` of a record under a UUID the store
did not hold. -/
theorem step_writes {w w' : World} {e : Event} (he : Enabled w e) (hs : step w e = .ok w') :
    ∃ s, Writes w.store s ∧
      (w'.store = s ∨ ∃ modemId n, w.store.records n.uuid = none ∧ w'.store = s.file modemId n) := by
  cases e with
  | push n created =>
      obtain rfl := Except.ok.inj hs
      refine ⟨w.store, .refl _, ?_⟩
      cases created
      · exact .inl rfl
      · refine .inr ⟨_, _, ?_, rfl⟩
        split_ifs <;> (repeat' split) <;> exact he.2.2.1
  | handle i oc =>
      simp only [Mediator.step] at hs
      split at hs
      · have h := handleMNotificationInd_writes hs
        exact ⟨_, h, .inl rfl⟩
      · cases hs; exact ⟨w.store, .refl _, .inl rfl⟩
  | delete path oc =>
      obtain rfl := Except.ok.inj hs
      refine ⟨_, ?_, .inl rfl⟩
      rcases watchMessageDeleteCall_store oc path w with h | ⟨u, -, h⟩ <;> rw [h]
      exacts [.refl _, .single (.destroy (show destroy true w.store u = some (w.store.erase u) from rfl))]
  | redownload path uuid created oc =>
      obtain rfl := Except.ok.inj hs
      unfold watchMessageRedownloadCall
      split
      · exact ⟨w.store, .refl _, .inl rfl⟩
      split_ifs
      · exact ⟨w.store, .refl _, .inl rfl⟩
      split
      · exact ⟨w.store, .refl _, .inl rfl⟩
      refine ⟨_, messageRemoved_writes w oc path, ?_⟩
      cases created
      · exact .inl rfl
      · exact .inr ⟨_, _, he.2.2.1, rfl⟩
  | identityAdded id uuids oc =>
      obtain rfl := Except.ok.inj hs
      have h := initializeFrom_writes { w with telepathyService := some (MMSService.new id), identity := id }
        id oc uuids []
      exact ⟨_, h, .inl rfl⟩
  | identityRemoved _ | pushInterfaceAvailable _ | tick _ | restart =>
      obtain rfl := Except.ok.inj hs
      exact ⟨w.store, .refl _, .inl rfl⟩

/-- Every enabled step changes the store by writes, and possibly by the
`Create` of a record under a UUID the store does not hold. -/
theorem step_changes {w w' : World} {e : Event} (he : Enabled w e) (hs : step w e = .ok w') :
    Changes w.store w'.store := by
  obtain ⟨s, hw, h | ⟨modemId, n, hn, h⟩⟩ := step_writes he hs <;> rw [h]
  · exact hw.changes
  · -- the writes file no record, so the UUID is still free
    have hfree : s.records n.uuid = none := by
      rcases hr : s.records n.uuid with _ | st'
      · rfl
      · obtain ⟨st, hst, -⟩ := hw.descends _ st' hr
        rw [hn] at hst; cases hst
    exact Relation.ReflTransGen.tail hw.changes (.create hfree)

/-- Every record an enabled step keeps has evolved. -/
theorem step_evolves {w w' : World} {e : Event} (he : Enabled w e) (hs : step w e = .ok w')
    {u : String} {st st' : MMSState} (hst : w.store.records u = some st)
    (hst' : w'.store.records u = some st') : st.Evolves st' := by
  obtain ⟨s, hw, h⟩ := step_writes he hs
  have hs' : s.records u = some st' := by
    rcases h with h | ⟨modemId, n, hn, h⟩ <;> rw [h] at hst'
    · exact hst'
    · rwa [file_records, if_neg (by rintro rfl; rw [hn] at hst; cases hst)] at hst'
  obtain ⟨st₀, h₀, hev⟩ := hw.descends u st' hs'
  rw [hst] at h₀
  cases h₀
  exact hev

/-- The record of `u` is in the store after every step of the run. -/
def Stays (u : String) : World → List Event → Prop
  | _, [] => True
  | w, e :: es =>
      match step w e with
      | .ok w' => (w'.store.records u).isSome ∧ Stays u w' es
      | .error _ => True

instance decStays (u : String) : (w : World) → (es : List Event) → Decidable (Stays u w es)
  | _, [] => isTrue trivial
  | w, e :: es =>
      match h : step w e with
      | .ok w' =>
          have := decStays u w' es
          decidable_of_iff ((w'.store.records u).isSome ∧ Stays u w' es) (by simp [Stays, h])
      | .error _ => isTrue (by simp [Stays, h])

/-- A store with the NOTIFICATION `A` of modem `M`, not yet reported. -/
def storedA : Store := Store.empty.file "M" (notificationOf "A")

/-- The startup pass re-feeds `A`, and its handler runs with every step
succeeding. -/
def refedRun : List Event :=
  [.pushInterfaceAvailable true, .identityAdded "M" ["A"] fun _ => initOk, .handle 0 inboundOk]

end Mediator

end Nuntium
