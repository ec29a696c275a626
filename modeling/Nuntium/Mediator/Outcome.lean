import Nuntium.Mediator.Pass
import Nuntium.Mediator.Consistency

/-!
# What the startup pass establishes

When every write of the pass to the store succeeds, `initializeMessages`
leaves the store and the registry reconciled for the modem: no two records
it reconciles share a non-empty transaction, every incoming record left has a
ModemId, every one of the modem carries its notification and is either re-fed
or on the bus, and the registry names exactly the surviving, unacknowledged
record of each transaction it handled.

What one visit does when the store's writes succeed is said once, on its slot:

* `Slot.reconcile_ok` — the switch on the record's state in closed form;
* `Slot.visit_ok_survivor` — a record a visit leaves differs from the one it
  found only in its state and in debug markers popped from its notification
  (`MMSState.unmarked`), and is reconciled;
* `Slot.visit_active_entry` — the registry entry a visit of a record it
  reconciles leaves.

`View.Settled` is what the pass has established over the UUIDs it visited;
`View.Settled.initializeFrom` carries it over the whole listing, and
`initializeMessages_settles` states it over the world.
-/

namespace Nuntium.Mediator

open Storage Telepathy

/-- Whether the history service's answer lets a RESPONDED message stay. -/
def HistoryOutcome.keeps : HistoryOutcome → Bool
  | .notExists => false
  | .isNew false => false
  | _ => true

/-- Every write of the pass to the store succeeds. -/
def InitOutcome.storeOk (oc : InitOutcome) : Bool :=
  oc.destroy && oc.updateReceived && oc.updateResponded

theorem InitOutcome.destroy_of_storeOk {oc : InitOutcome} (hok : oc.storeOk) : oc.destroy = true := by
  simp only [InitOutcome.storeOk, Bool.and_eq_true] at hok
  exact hok.1.1

theorem activeNotif_some_iff {modemId : String} {st : MMSState} {n : MNotificationInd} :
    activeNotif modemId (some st) = some n ↔
      st.isIncoming ∧ st.modemId ≠ "" ∧ modemId = st.modemId ∧ st.mNotificationInd = some n := by
  simp only [activeNotif]
  split_ifs with h <;> simp_all

/-- Only a stored record is reconciled. -/
theorem exists_of_activeNotif {modemId : String} {r : Option MMSState} {n : MNotificationInd}
    (h : activeNotif modemId r = some n) : ∃ st, r = some st := by
  rcases r with _ | st
  · cases h
  · exact ⟨st, rfl⟩

/-- A record whose state alone changed is reconciled as before, while it stays
incoming. -/
theorem activeNotif_withState {modemId : String} {st : MMSState} {x : State}
    (h : ({ st with state := x } : MMSState).isIncoming = st.isIncoming) :
    activeNotif modemId (some { st with state := x }) = activeNotif modemId (some st) := by
  simp only [activeNotif, h]

/-- A record whose state changed within the incoming states, and whose
notification lost debug markers, is reconciled as the record it came from, up
to those markers. -/
theorem activeNotif_of_shape {modemId : String} {st st' : MMSState}
    (heq : st'.unmarked = { st.unmarked with state := st'.state }) (hinc : st'.isIncoming = st.isIncoming) :
    (activeNotif modemId (some st')).map MNotificationInd.unmarked =
      (activeNotif modemId (some st)).map MNotificationInd.unmarked := by
  obtain ⟨-, hm, hn, -⟩ := MMSState.unmarked_eq_withState.mp heq
  simp only [activeNotif, hinc, hm, apply_ite (Option.map MNotificationInd.unmarked), hn]

/-- A record that differs from the one in `r` as `activeNotif_of_shape` allows
is reconciled only as that one is, up to debug markers. -/
theorem activeNotif_of_shaped {modemId : String} {r r' : Option MMSState} {n : MNotificationInd}
    (h : ∀ st', r' = some st' → ∃ st, r = some st ∧ st'.unmarked = { st.unmarked with state := st'.state } ∧
      st'.isIncoming = st.isIncoming)
    (ha : activeNotif modemId r' = some n) : ∃ n₀, activeNotif modemId r = some n₀ ∧ n₀.unmarked = n.unmarked := by
  rcases r' with _ | st'
  · cases ha
  obtain ⟨st, rfl, heq, hinc⟩ := h st' rfl
  have h' := @activeNotif_of_shape modemId _ _ heq hinc
  rw [ha] at h'
  exact Option.map_eq_some'.mp h'.symm

namespace Slot

variable (s : Slot) {oc : InitOutcome} (clock : Nat) {st : MMSState} (n : MNotificationInd)

theorem respondedArm_ok (hd : oc.destroy = true) (check : Bool) :
    s.respondedArm oc check = if !check || oc.history.keeps then (true, { s with entry := none })
      else (false, { s with record := none, entry := none }) := by
  unfold respondedArm
  cases check
  · rfl
  · rcases oc.history with _ | _ | _ | _ | _ <;> simp [HistoryOutcome.keeps, destroy, hd]

theorem advance_of_state (hr : s.record = some st) {src : State} (hs : st.state = src) (dst : State) :
    s.advance true src dst = some { s with record := some { st with state := dst } } := by
  simp [advance, hr, hs]

/-! The forward and the acknowledgement either pop a marker, writing the
popped notification back, or leave the slot's record and notification. -/

theorem forward_entry (fo : ForwardOutcome) : (s.forward fo n).1.entry = s.entry := by
  unfold forward
  split_ifs <;> (try rcases n.popDebugError .receiveHandle with _ | n') <;> simp

theorem respond_entry : (s.respond oc n).2.2.entry = s.entry := by
  unfold respond
  split_ifs <;> (try rcases n.popDebugError .respondHandle with _ | n') <;> simp

theorem respond_handler : (s.respond oc n).2.2.handler = s.handler := by
  unfold respond
  split_ifs <;> (try rcases n.popDebugError .respondHandle with _ | n') <;> simp

theorem respond_fst_of_content {t : Slot} (h : t.content = s.content) :
    (t.respond oc n).1 = (s.respond oc n).1 := by
  simp only [respond, h]
  split_ifs <;> (try rcases n.popDebugError .respondHandle with _ | n') <;> rfl

/-- A forward that succeeds pops no marker: it puts `n`'s object on the bus
and leaves the record. -/
theorem forward_of_snd {fo : ForwardOutcome} (h : (s.forward fo n).2.2 = true) :
    (s.forward fo n).1 = { s with handler := some ⟨false, .incoming n.transactionId⟩ } ∧
      (s.forward fo n).2.1 = n := by
  unfold forward at h ⊢
  split_ifs at h ⊢
  revert h; rcases n.popDebugError .receiveHandle with _ | n' <;> simp

/-- An acknowledgement that counts the message center as notified pops no
marker. -/
theorem respond_of_fst (h : (s.respond oc n).1 = true) : (s.respond oc n).2 = (n, s) := by
  unfold respond at h ⊢
  split_ifs at h ⊢
  · rfl
  · revert h; rcases n.popDebugError .respondHandle with _ | n' <;> simp

theorem setNotification_unmarked {n₀ n' : MNotificationInd} (hr : s.record = some st)
    (hn : st.mNotificationInd = some n₀) (h : n'.unmarked = n₀.unmarked) (ok : Bool) :
    (s.setNotification ok n').record.map MMSState.unmarked = some st.unmarked := by
  cases ok <;> simp [setNotification, hr, MMSState.unmarked_setNotification hn h]

theorem forward_unmarked (fo : ForwardOutcome) (hr : s.record = some st)
    (hn : st.mNotificationInd = some n) :
    (s.forward fo n).1.record.map MMSState.unmarked = some st.unmarked := by
  unfold forward; split_ifs
  · rcases h : n.popDebugError .receiveHandle with _ | n'
    · simp [hr]
    · exact setNotification_unmarked s hr hn (MNotificationInd.popDebugError_unmarked h) _
  · simp [hr]

theorem respond_unmarked (hr : s.record = some st) (hn : st.mNotificationInd = some n) :
    (s.respond oc n).2.2.record.map MMSState.unmarked = some st.unmarked := by
  unfold respond; split_ifs
  · simp [hr]
  · rcases h : n.popDebugError .respondHandle with _ | n'
    · simp [hr]
    · exact setNotification_unmarked s hr hn (MNotificationInd.popDebugError_unmarked h) _
  · simp [hr]

theorem receivedArm_ok (hok : oc.storeOk) (hr : s.record = some st) (hs : st.state = .received)
    (check : Bool) :
    s.receivedArm oc clock n check =
      if n.expired clock || (s.respond oc n).1 then
        let s₁ : Slot := { s with record := some { st with state := .responded } }
        ((s₁.respondedArm oc check).1, some n, (s₁.respondedArm oc check).2)
      else (true, some (s.respond oc n).2.1, (s.respond oc n).2.2) := by
  simp only [InitOutcome.storeOk, Bool.and_eq_true] at hok
  unfold receivedArm
  by_cases hx : n.expired clock = true
  · simp [hx, hok.2, advance_of_state s hr hs]
  · rcases hresp : (s.respond oc n).1
    · simp [hx, hresp]
    · rw [show s.respond oc n = (true, n, s) from Prod.ext hresp (respond_of_fst s n hresp)]
      simp [hx, hok.2, advance_of_state s hr hs]

/-- The switch on the record's state, when every write to the store succeeds. -/
theorem reconcile_ok (hok : oc.storeOk) (hr : s.record = some st) :
    s.reconcile oc clock st n =
      match st.state with
      | .notification =>
          if st.telepathyErrorNotified = false then (false, some n, some n, s)
          else if n.expired clock then (false, some n, none, { s with record := none, entry := none })
          else (true, some n, none, s)
      | .downloaded =>
          if (s.forward oc.forward n).2.2 then
            let s₁ : Slot := { (s.forward oc.forward n).1 with record := some { st with state := .received } }
            if n.expired clock || (s.respond oc n).1 then
              (true, some n, none, { s₁ with record := some { st with state := .responded }, entry := none })
            else (true, some (s₁.respond oc n).2.1, none, (s₁.respond oc n).2.2)
          else (true, some (s.forward oc.forward n).2.1, none, (s.forward oc.forward n).1)
      | .received =>
          if n.expired clock || (s.respond oc n).1 then
            if oc.history.keeps then
              (true, some n, none, { s with record := some { st with state := .responded }, entry := none })
            else (false, some n, none, { s with record := none, entry := none })
          else (true, some (s.respond oc n).2.1, none, (s.respond oc n).2.2)
      | .responded =>
          if oc.history.keeps then (true, some n, none, { s with entry := none })
          else (false, some n, none, { s with record := none, entry := none })
      | .draft | .sent => (false, some n, none, s) := by
  have hok' := hok
  simp only [InitOutcome.storeOk, Bool.and_eq_true] at hok'
  obtain ⟨⟨hd, hrcv⟩, hrsp⟩ := hok'
  unfold reconcile
  cases hs : st.state
  · cases st.telepathyErrorNotified <;> simp [destroy, hd]
  · by_cases hf : (s.forward oc.forward n).2.2 = true
    · obtain ⟨hs₁, hn₁⟩ := forward_of_snd s n hf
      rw [show s.forward oc.forward n = (_, n, true) from Prod.ext hs₁ (Prod.ext hn₁ hf)]
      have hr₁ : ({ s with handler := some ⟨false, .incoming n.transactionId⟩ } : Slot).record = some st := hr
      simp only [hrcv, advance_of_state _ hr₁ hs, ↓reduceIte]
      rw [receivedArm_ok _ clock n hok rfl rfl, respond_fst_of_content s n (by simp [content, hr])]
      split_ifs <;> simp [respondedArm_ok _ hd]
    · rcases hfr : s.forward oc.forward n with ⟨s₁, n₁, b⟩
      simp only [hfr] at hf
      simp [hf]
  · rw [receivedArm_ok s clock n hok hr hs]
    by_cases hc : (n.expired clock || (s.respond oc n).1) = true
    · by_cases hk : oc.history.keeps = true <;> simp [hc, hk, respondedArm_ok _ hd]
    · simp [hc]
  · by_cases hk : oc.history.keeps = true <;> simp [hk, respondedArm_ok _ hd]
  · rfl
  · rfl

variable {modemId : String} {seen : Bool}

/-- A visit of a record the pass reconciles, unless its transaction was
handled before. -/
theorem visit_active (hr : s.record = some st) (ha : activeNotif modemId (some st) = some n)
    (hseen : n.transactionId = "" ∨ seen = false) :
    s.visit modemId oc clock seen =
      let s₀ : Slot := { s with entry := if n.transactionId ≠ "" then some n.uuid else s.entry }
      ((n.transactionId ≠ "" : Bool), (s₀.reconcile oc clock st n).2.2.1,
        if (s₀.reconcile oc clock st n).1 then
          (s₀.reconcile oc clock st n).2.2.2.initAdded (s₀.reconcile oc clock st n).2.1
        else (s₀.reconcile oc clock st n).2.2.2) := by
  obtain ⟨h₁, h₂, h₃, hn⟩ := activeNotif_some_iff.mp ha
  have h₄ : ¬(n.transactionId ≠ "" ∧ seen = true) := by
    rintro ⟨h, h'⟩; rcases hseen with h'' | h'' <;> simp_all
  have h₀ : (if n.transactionId ≠ "" then { s with entry := some n.uuid } else s : Slot) =
      { s with entry := if n.transactionId ≠ "" then some n.uuid else s.entry } := by
    split_ifs <;> rfl
  dsimp only
  rw [← h₀]
  unfold visit
  simp only [hr, h₁, h₂, h₃, hn, h₄, Bool.not_true, Bool.false_eq_true, ↓reduceIte, ne_eq, not_false_eq_true,
    not_true_eq_false]

@[simp] theorem initAdded_record (notif : Option MNotificationInd) :
    (s.initAdded notif).record = s.record := by
  unfold initAdded; split <;> (try split_ifs) <;> rfl

@[simp] theorem initAdded_entry (notif : Option MNotificationInd) :
    (s.initAdded notif).entry = s.entry := by
  unfold initAdded; split <;> (try split_ifs) <;> rfl

theorem initAdded_handler_isSome : (s.initAdded (some n)).handler.isSome := by
  unfold initAdded; split_ifs with h
  · rfl
  · exact Option.ne_none_iff_isSome.mp (by simpa using h)

/-- The outcomes of the switch when every write to the store succeeds: the
record is destroyed and its entry cleared; or it is a NOTIFICATION not yet
reported, which is re-fed and left as it is; or the handlers start on the
notification, with debug markers popped from it, and the record is left with
only its state changed, those markers apart, not as an expired error object,
and with its entry cleared exactly when it is RESPONDED. -/
theorem reconcile_ok_cases (hok : oc.storeOk) (hr : s.record = some st) (hinc : st.isIncoming)
    (hn : st.mNotificationInd = some n) :
    ((s.reconcile oc clock st n).2.2.2.record = none ∧ (s.reconcile oc clock st n).2.2.2.entry = none) ∨
      (st.state = .notification ∧ st.telepathyErrorNotified = false ∧
        s.reconcile oc clock st n = (false, some n, some n, s)) ∨
      ((s.reconcile oc clock st n).1 = true ∧
        (∃ n₁, (s.reconcile oc clock st n).2.1 = some n₁ ∧ n₁.unmarked = n.unmarked) ∧
        ∃ x, (s.reconcile oc clock st n).2.2.2.record.map MMSState.unmarked =
            some { st.unmarked with state := x } ∧
          ({ st with state := x } : MMSState).isIncoming ∧
          ¬(x = .notification ∧ st.telepathyErrorNotified ∧ n.expired clock) ∧
          (s.reconcile oc clock st n).2.2.2.entry = if x = .responded then none else s.entry) := by
  have hst : st.unmarked = { st.unmarked with state := st.state } := rfl
  rw [reconcile_ok s clock n hok hr]
  cases hs : st.state <;> rw [hs] at hst <;> dsimp only
  · by_cases he : st.telepathyErrorNotified = false
    · exact .inr (.inl ⟨rfl, he, by simp [he]⟩)
    · by_cases hx : n.expired clock = true
      · exact .inl (by simp [he, hx])
      · rw [if_neg he, if_neg hx]
        exact .inr (.inr ⟨rfl, ⟨n, rfl, rfl⟩, .notification, by simp [hr, ← hst], rfl, by simp [hx], by simp⟩)
  · split_ifs with hf
    · exact .inr (.inr ⟨rfl, ⟨n, rfl, rfl⟩, .responded, rfl, rfl, by simp, by simp⟩)
    · have hr₁ : ({ (s.forward oc.forward n).1 with record := some { st with state := .received } } :
          Slot).record = some { st with state := .received } := rfl
      exact .inr (.inr ⟨rfl, ⟨_, rfl, respond_notif _ oc n⟩, .received, respond_unmarked _ n hr₁ hn, rfl,
        by simp, by simp [respond_entry, forward_entry]⟩)
    · exact .inr (.inr ⟨rfl, ⟨_, rfl, forward_notif s oc.forward n⟩, .downloaded,
        (forward_unmarked s n oc.forward hr hn).trans (congrArg some hst), rfl, by simp,
        by simp [forward_entry]⟩)
  · split_ifs
    · exact .inr (.inr ⟨rfl, ⟨n, rfl, rfl⟩, .responded, rfl, rfl, by simp, by simp⟩)
    · exact .inl ⟨rfl, rfl⟩
    · exact .inr (.inr ⟨rfl, ⟨_, rfl, respond_notif s oc n⟩, .received,
        (respond_unmarked s n hr hn).trans (congrArg some hst), rfl, by simp, by simp [respond_entry]⟩)
  · split_ifs
    · exact .inr (.inr ⟨rfl, ⟨n, rfl, rfl⟩, .responded, by simp [hr, ← hst], rfl, by simp, by simp⟩)
    · exact .inl ⟨rfl, rfl⟩
  · simp [MMSState.isIncoming, hs] at hinc
  · simp [MMSState.isIncoming, hs] at hinc

/-- What a visit leaves of a record it reconciles, when every write to the
store succeeds: nothing; or the record with only its state changed, debug
markers apart, which is not an expired error object and is either re-fed as a
NOTIFICATION not yet reported, left as it is, or has its object on the bus;
its entry is cleared exactly when it is RESPONDED. -/
theorem visit_active_ok (hok : oc.storeOk) (hr : s.record = some st)
    (ha : activeNotif modemId (some st) = some n) (hseen : n.transactionId = "" ∨ seen = false) :
    (s.visit modemId oc clock seen).2.2.record = none ∧ (s.visit modemId oc clock seen).2.2.entry = none ∨
      ∃ x, (s.visit modemId oc clock seen).2.2.record.map MMSState.unmarked =
          some { st.unmarked with state := x } ∧
        ({ st with state := x } : MMSState).isIncoming ∧
        ¬(x = .notification ∧ st.telepathyErrorNotified ∧ n.expired clock) ∧
        (s.visit modemId oc clock seen).2.2.entry =
          (if x = .responded then none else if n.transactionId ≠ "" then some n.uuid else s.entry) ∧
        ((x = .notification ∧ st.telepathyErrorNotified = false ∧
            (s.visit modemId oc clock seen).2.1 = some n ∧ (s.visit modemId oc clock seen).2.2.record = some st) ∨
          (s.visit modemId oc clock seen).2.2.handler.isSome) := by
  obtain ⟨hinc, -, -, hn⟩ := activeNotif_some_iff.mp ha
  rw [visit_active s clock n hr ha hseen]
  dsimp only
  set s₀ : Slot := { s with entry := if n.transactionId ≠ "" then some n.uuid else s.entry }
  rcases reconcile_ok_cases s₀ clock n hok hr hinc hn with
    ⟨h₁, h₂⟩ | ⟨hs, he, h⟩ | ⟨h₁, ⟨n₁, h₂, -⟩, x, hx, hxi, hxe, hxe'⟩
  · exact .inl (by split <;> simp [h₁, h₂])
  · have hst : st.unmarked = { st.unmarked with state := .notification } := hs ▸ rfl
    rw [h]
    exact .inr ⟨.notification, by simp [s₀, hr, ← hst], by simp [MMSState.isIncoming], by simp [he],
      by simp [s₀], .inl ⟨rfl, he, rfl, hr⟩⟩
  · rw [h₁, h₂]
    exact .inr ⟨x, by simpa using hx, hxi, hxe, by simpa using hxe', .inr (initAdded_handler_isSome _ n₁)⟩

/-- When every write to the store succeeds, a visit of a record it reconciles
leaves the registry entry, while the record stays and is not RESPONDED, naming
the record if the visit marked its transaction and as it found it otherwise;
it clears the entry otherwise. -/
theorem visit_active_entry (hok : oc.storeOk) (hr : s.record = some st)
    (ha : activeNotif modemId (some st) = some n) (hseen : n.transactionId = "" ∨ seen = false) :
    (s.visit modemId oc clock seen).2.2.entry =
      if (s.visit modemId oc clock seen).2.2.record.any (·.state != .responded) then
        (if n.transactionId ≠ "" then some n.uuid else s.entry) else none := by
  rcases visit_active_ok s clock n hok hr ha hseen with ⟨h₁, h₂⟩ | ⟨x, hx, -, -, he, -⟩
  · simp [h₁, h₂]
  · obtain ⟨st₁, h, hx⟩ := Option.map_eq_some'.mp hx
    rw [he, h, ← (MMSState.unmarked_eq_withState.mp hx).1]
    by_cases hresp : st₁.state = .responded <;> simp [hresp]

/-! ### Every record a visit leaves is reconciled -/

/-- A record the pass does not reconcile, when the destroy succeeds: it is
kept, and then it is outgoing or of another modem with its ModemId set; or it
is destroyed. -/
theorem visit_inactive_ok (hd : oc.destroy = true) (h : activeNotif modemId s.record = none) :
    (s.visit modemId oc clock seen = (false, none, s) ∧
      ∀ st, s.record = some st → st.isIncoming → st.modemId ≠ "" ∧ st.modemId ≠ modemId) ∨
      s.visit modemId oc clock seen = (false, none, { s with record := none }) := by
  unfold visit
  rcases hr : s.record with _ | st
  · exact .inr (by simp [destroy, hd, ← hr])
  rw [hr] at h
  by_cases h₁ : st.isIncoming = true
  · by_cases h₂ : st.modemId = ""
    · simp [h₁, h₂, destroy, hd]
    · by_cases h₃ : modemId = st.modemId
      · simp only [activeNotif, h₁, ne_eq, h₂, not_false_eq_true, h₃, and_self, ite_true] at h
        simp [h₁, h₂, h₃, h, destroy, hd]
      · simp [h₁, h₂, h₃, Ne.symm h₃]
  · simp [h₁]

/-- When every write succeeds, a record a visit leaves is the record it found
with at most its state changed, within the incoming states; an incoming one
has its ModemId set, and one of the modem carries its notification, is not an
error object whose notification has expired, and is re-fed as a NOTIFICATION
not yet reported or has its object. -/
theorem visit_ok_survivor (hok : oc.storeOk) {st' : MMSState}
    (h : (s.visit modemId oc clock seen).2.2.record = some st') :
    (∃ st, s.record = some st ∧ st'.unmarked = { st.unmarked with state := st'.state } ∧
        st'.isIncoming = st.isIncoming) ∧
      (st'.isIncoming → st'.modemId ≠ "" ∧ (st'.modemId = modemId → ∃ n, st'.mNotificationInd = some n ∧
        ¬(st'.state = .notification ∧ st'.telepathyErrorNotified ∧ n.expired clock) ∧
        ((st'.state = .notification ∧ st'.telepathyErrorNotified = false ∧
            (s.visit modemId oc clock seen).2.1 = some n) ∨
          (s.visit modemId oc clock seen).2.2.handler.isSome))) := by
  have hd := InitOutcome.destroy_of_storeOk hok
  rcases ha : activeNotif modemId s.record with _ | n
  · rcases visit_inactive_ok s clock hd ha with ⟨hv, hkept⟩ | hv <;> rw [hv] at h
    · refine ⟨⟨st', h, rfl, rfl⟩, fun hinc => ⟨(hkept st' h hinc).1, fun hm => ?_⟩⟩
      exact absurd hm (hkept st' h hinc).2
    · cases h
  obtain ⟨st, hr⟩ := exists_of_activeNotif ha
  rw [hr] at ha
  obtain ⟨hinc, hmod, -, hn⟩ := activeNotif_some_iff.mp ha
  by_cases hseen : n.transactionId ≠ "" ∧ seen = true
  · rw [hseen.2, visit_seen s modemId oc clock (hr ▸ ha) hseen.1] at h
    simp [destroy, hd] at h
  · have hseen' : n.transactionId = "" ∨ seen = false := by
      by_cases htx : n.transactionId = "" <;> simp_all
    rcases visit_active_ok s clock n hok hr ha hseen' with ⟨h', -⟩ | ⟨x, hx, hxi, hxe, -, hxo⟩
    · rw [h'] at h; cases h
    rw [h, Option.map_some', Option.some.injEq] at hx
    obtain ⟨rfl, hm, hn', hten, -⟩ := MMSState.unmarked_eq_withState.mp hx
    -- the record keeps `n` with markers popped
    rw [hn] at hn'
    obtain ⟨n', hn'', hu⟩ := Option.map_eq_some'.mp hn'
    refine ⟨⟨st, hr, hx, hxi.trans hinc.symm⟩, fun _ => ⟨hm ▸ hmod, fun _ => ⟨n', hn'', ?_, ?_⟩⟩⟩
    · rwa [hten, MNotificationInd.expired_of_unmarked hu]
    · refine hxo.imp (fun ⟨h₁, h₂, h₃, h₄⟩ => ?_) id
      -- a re-fed record is the record found
      obtain rfl : st' = st := Option.some.inj (h.symm.trans h₄)
      obtain rfl : n' = n := Option.some.inj (hn''.symm.trans hn)
      exact ⟨h₁, h₂, h₃⟩

/-- A record a visit leaves reconciled was reconciled, for the same
notification up to debug markers, when the visit found it. -/
theorem visit_ok_active (hok : oc.storeOk)
    (h : activeNotif modemId (s.visit modemId oc clock seen).2.2.record = some n) :
    ∃ n₀, activeNotif modemId s.record = some n₀ ∧ n₀.unmarked = n.unmarked :=
  activeNotif_of_shaped (fun _ h' => (visit_ok_survivor s clock hok h').1) h

/-- A record of a non-empty transaction that a visit leaves reconciled marked
its transaction. -/
theorem visit_ok_marks (hok : oc.storeOk)
    (h : activeNotif modemId (s.visit modemId oc clock seen).2.2.record = some n)
    (htx : n.transactionId ≠ "") : (s.visit modemId oc clock seen).1 = true := by
  obtain ⟨n₀, ha, hu⟩ := visit_ok_active s clock n hok h
  rw [← MNotificationInd.transactionId_of_unmarked hu] at htx
  cases seen
  · exact (visit_registers s modemId oc clock false).mpr ⟨n₀, ha, htx, rfl⟩
  · rw [visit_seen s modemId oc clock ha htx] at h
    simp [destroy, InitOutcome.destroy_of_storeOk hok, activeNotif] at h

/-- A visit that does not mark its non-empty transaction keeps the registry
entry it found. -/
theorem visit_keeps_entry (hreg : (s.visit modemId oc clock seen).1 = false)
    (htx : txOf s.record ≠ "") : (s.visit modemId oc clock seen).2.2.entry = s.entry := by
  rcases ha : activeNotif modemId s.record with _ | n
  · exact visit_inactive_entry s modemId oc clock ha seen
  · rw [txOf_of_activeNotif ha] at htx
    cases seen
    · have := (visit_registers s modemId oc clock false).mpr ⟨n, ha, htx, rfl⟩
      simp_all
    · rw [visit_seen s modemId oc clock ha htx]
      cases oc.destroy <;> rfl

end Slot

/-! ### What the pass has established -/

namespace View

section Settled

variable (modemId : String) (v₀ : View)

/-- What the pass, started on `v₀`, has established on `v` after visiting
the UUIDs `visited`, marking the transactions `handled` and re-feeding the
notifications `refed`. -/
structure Settled (visited handled : List String) (refed : List MNotificationInd) (v : View) : Prop where
  /-- A record not visited yet is as the pass found it. -/
  untouched : ∀ u ∉ visited, v.records u = v₀.records u
  clock : v.clock = v₀.clock
  service : v.service.isSome
  /-- A visited record the pass reconciles had its non-empty transaction marked. -/
  marked : ∀ u ∈ visited, ∀ n ∈ activeNotif modemId (v₀.records u), n.transactionId ≠ "" →
    n.transactionId ∈ handled
  /-- Only such transactions are marked. -/
  marked_visited : ∀ T ∈ handled, T ≠ "" ∧
    ∃ u ∈ visited, ∃ n ∈ activeNotif modemId (v₀.records u), n.transactionId = T
  /-- A record differs from the one the pass found only in its state, within
  the incoming states, and in debug markers popped from its notification. -/
  shape : ∀ u st', v.records u = some st' →
    ∃ st, v₀.records u = some st ∧ st'.unmarked = { st.unmarked with state := st'.state } ∧
      st'.isIncoming = st.isIncoming
  /-- No two visited records the pass reconciles share a non-empty transaction. -/
  unique : ∀ u ∈ visited, ∀ u' ∈ visited, ∀ n ∈ activeNotif modemId (v.records u),
    ∀ n' ∈ activeNotif modemId (v.records u'), n.transactionId = n'.transactionId →
      n.transactionId ≠ "" → u = u'
  /-- A visited incoming record has its ModemId set; one of the modem carries
  its notification, is not an expired error object, and is re-fed or on the bus. -/
  incoming : ∀ u ∈ visited, ∀ st, v.records u = some st → st.isIncoming → st.modemId ≠ "" ∧
    (st.modemId = modemId → ∃ n, st.mNotificationInd = some n ∧
      ¬(st.state = .notification ∧ st.telepathyErrorNotified ∧ n.expired v₀.clock) ∧
      ((st.state = .notification ∧ st.telepathyErrorNotified = false ∧ n ∈ refed) ∨ (v.object u).isSome))
  /-- The registry names the visited, unacknowledged record of each marked
  transaction, and nothing else. -/
  registry : ∀ T ∈ handled, ∀ x, v.unresponded T = some x ↔
    x ∈ visited ∧ ∃ st, v.records x = some st ∧ st.state ≠ .responded ∧
      ∃ n ∈ activeNotif modemId (some st), n.transactionId = T

/-- Nothing is established before the first visit. -/
theorem Settled.start (hsvc : v₀.service.isSome) : Settled modemId v₀ [] [] [] v₀ where
  untouched _ _ := rfl
  clock := rfl
  service := hsvc
  marked _ h := absurd h (List.not_mem_nil _)
  marked_visited _ h := absurd h (List.not_mem_nil _)
  shape _ st' h := ⟨st', h, rfl, rfl⟩
  unique _ h := absurd h (List.not_mem_nil _)
  incoming _ h := absurd h (List.not_mem_nil _)
  registry _ h := absurd h (List.not_mem_nil _)

variable {modemId v₀} {visited handled : List String} {refed : List MNotificationInd} {v : View}

/-- A record reconciled now was reconciled, for the same notification up to
debug markers, when the pass found it. -/
theorem Settled.active (hs : Settled modemId v₀ visited handled refed v) {x : String}
    {n : MNotificationInd} (h : activeNotif modemId (v.records x) = some n) :
    ∃ n₀, activeNotif modemId (v₀.records x) = some n₀ ∧ n₀.unmarked = n.unmarked :=
  activeNotif_of_shaped (hs.shape x) h

/-- Writing back the slot of `u` as a visit does when every write succeeds
keeps what the pass has established. `reg` tells whether the visit marked
the transaction `txOf (v₀.records u)`, `refeed` what it re-fed and `s'` the
slot it left. -/
theorem Settled.put (hs : Settled modemId v₀ visited handled refed v) {u : String} (hu : u ∉ visited)
    {reg : Bool} {refeed : Option MNotificationInd} {s' : Slot}
    (hreg : reg = true ↔ ∃ n, activeNotif modemId (v₀.records u) = some n ∧ n.transactionId ≠ "" ∧
      txOf (v₀.records u) ∉ handled)
    (hsurv : ∀ st', s'.record = some st' →
      (∃ st, v₀.records u = some st ∧ st'.unmarked = { st.unmarked with state := st'.state } ∧
        st'.isIncoming = st.isIncoming) ∧
      (st'.isIncoming → st'.modemId ≠ "" ∧ (st'.modemId = modemId → ∃ n, st'.mNotificationInd = some n ∧
        ¬(st'.state = .notification ∧ st'.telepathyErrorNotified ∧ n.expired v₀.clock) ∧
        ((st'.state = .notification ∧ st'.telepathyErrorNotified = false ∧ refeed = some n) ∨
          s'.handler.isSome))))
    (hmarks : ∀ n, activeNotif modemId s'.record = some n → n.transactionId ≠ "" → reg = true)
    (hkeep : reg = false → txOf (v₀.records u) ≠ "" →
      s'.entry = v.unresponded (txOf (v₀.records u)))
    (hentry : reg = true → s'.entry = if s'.record.any (·.state != .responded) then some u else none) :
    Settled modemId v₀ (u :: visited) (if reg then txOf (v₀.records u) :: handled else handled)
      (refed ++ refeed.toList) (v.put u (txOf (v₀.records u)) s') := by
  set T := txOf (v₀.records u)
  have hrecs : ∀ x, (v.put u T s').records x = if x = u then s'.record else v.records x := by
    simp [Function.update_apply]
  have hunr : ∀ T', (v.put u T s').unresponded T' = if T' = T then s'.entry else v.unresponded T' := by
    simp [Function.update_apply]
  have hne : ∀ x ∈ visited, x ≠ u := fun x hx h => hu (h ▸ hx)
  -- a record `u` leaves reconciled is reconciled for the transaction `T`
  have hact : ∀ n, activeNotif modemId s'.record = some n →
      ∃ n₀, activeNotif modemId (v₀.records u) = some n₀ ∧ n₀.unmarked = n.unmarked :=
    fun _ => activeNotif_of_shaped fun st' h => (hsurv st' h).1
  -- and, of a non-empty transaction, only after the visit marked `T` afresh
  have hfresh : ∀ n, activeNotif modemId s'.record = some n → n.transactionId ≠ "" →
      reg = true ∧ n.transactionId = T ∧ T ∉ handled := by
    intro n h htx
    have hr := hmarks n h htx
    obtain ⟨-, -, -, hT⟩ := hreg.mp hr
    obtain ⟨n₀, hn₀, hu⟩ := hact n h
    exact ⟨hr, (MNotificationInd.transactionId_of_unmarked hu).symm.trans (txOf_of_activeNotif hn₀).symm, hT⟩
  -- a visited record reconciled now had its transaction marked
  have hmarked : ∀ y ∈ visited, ∀ n ∈ activeNotif modemId (v.records y), n.transactionId ≠ "" →
      n.transactionId ∈ handled := by
    intro y hy n hn htx
    obtain ⟨n₀, hn₀, hu⟩ := hs.active hn
    rw [← MNotificationInd.transactionId_of_unmarked hu] at htx ⊢
    exact hs.marked y hy n₀ hn₀ htx
  have hsub : ∀ T' ∈ handled, T' ∈ (if reg then T :: handled else handled) := by
    intro T' h; split <;> simp [h]
  have hmem : ∀ T' ∈ (if reg then T :: handled else handled), (reg = true ∧ T' = T) ∨ T' ∈ handled := by
    intro T' h
    split at h
    · exact (List.mem_cons.mp h).imp (⟨‹_›, ·⟩) id
    · exact .inr h
  refine
    { untouched := ?untouched, clock := hs.clock, service := ?service, marked := ?marked,
      marked_visited := ?marked_visited, shape := ?shape, unique := ?unique, incoming := ?incoming,
      registry := ?registry }
  case service => simp [hs.service]
  case untouched =>
    intro x hx
    rw [List.mem_cons, not_or] at hx
    rw [hrecs, if_neg hx.1, hs.untouched x hx.2]
  case marked =>
    rintro x (_ | ⟨_, hx⟩) n hn htx
    · by_cases hT : T ∈ handled
      · exact txOf_of_activeNotif hn ▸ hsub T hT
      · rw [hreg.mpr ⟨n, hn, htx, hT⟩, if_pos rfl, ← txOf_of_activeNotif hn]
        exact List.mem_cons_self _ _
    · exact hsub _ (hs.marked x hx n hn htx)
  case marked_visited =>
    intro T' hT'
    rcases hmem T' hT' with ⟨hr, rfl⟩ | hT'
    · obtain ⟨n, hn, htx, -⟩ := hreg.mp hr
      have hTn : T = n.transactionId := txOf_of_activeNotif hn
      exact ⟨hTn ▸ htx, u, List.mem_cons_self _ _, n, hn, hTn.symm⟩
    · obtain ⟨hne', x, hx, h⟩ := hs.marked_visited T' hT'
      exact ⟨hne', x, List.mem_cons_of_mem _ hx, h⟩
  case shape =>
    intro x st' hx
    rw [hrecs] at hx
    split at hx
    · subst x; exact (hsurv st' hx).1
    · exact hs.shape x st' hx
  case unique =>
    -- a record `u` leaves of a non-empty transaction shares it with no visited record
    have hnot : ∀ y ∈ visited, ∀ n ∈ activeNotif modemId s'.record,
        ∀ n' ∈ activeNotif modemId (v.records y), n.transactionId = n'.transactionId →
          n.transactionId ≠ "" → False := by
      intro y hy n hn n' hn' htx hne'
      obtain ⟨-, hT, hnew⟩ := hfresh n hn hne'
      exact hnew (hT ▸ htx ▸ hmarked y hy n' hn' (htx ▸ hne'))
    rintro x (_ | ⟨_, hx⟩) y (_ | ⟨_, hy⟩) n hn n' hn' htx hne'
    · rfl
    · rw [hrecs, if_pos rfl] at hn
      rw [hrecs, if_neg (hne y hy)] at hn'
      exact (hnot y hy n hn n' hn' htx hne').elim
    · rw [hrecs, if_neg (hne x hx)] at hn
      rw [hrecs, if_pos rfl] at hn'
      exact (hnot x hx n' hn' n hn htx.symm (htx ▸ hne')).elim
    · rw [hrecs, if_neg (hne x hx)] at hn
      rw [hrecs, if_neg (hne y hy)] at hn'
      exact hs.unique x hx y hy n hn n' hn' htx hne'
  case incoming =>
    rintro x (_ | ⟨_, hx⟩) st hst hinc
    · rw [hrecs, if_pos rfl] at hst
      obtain ⟨hm₀, hout⟩ := (hsurv st hst).2 hinc
      refine ⟨hm₀, fun hm => ?_⟩
      obtain ⟨n, hn, hexp, hout⟩ := hout hm
      exact ⟨n, hn, hexp, hout.imp (fun ⟨h₁, h₂, h₃⟩ => ⟨h₁, h₂, by simp [h₃]⟩)
        (by simp [object_put, hs.service, ·])⟩
    · rw [hrecs, if_neg (hne x hx)] at hst
      obtain ⟨hm₀, hout⟩ := hs.incoming x hx st hst hinc
      refine ⟨hm₀, fun hm => ?_⟩
      obtain ⟨n, hn, hexp, hout⟩ := hout hm
      exact ⟨n, hn, hexp, hout.imp (fun ⟨h₁, h₂, h₃⟩ => ⟨h₁, h₂, List.mem_append_left _ h₃⟩)
        (by simp [object_put, hs.service, hne x hx, ·])⟩
  case registry =>
    -- the visited records other than `u` are as before
    have hold : ∀ T' x, (x ∈ u :: visited ∧ ∃ st, (v.put u T s').records x = some st ∧
        st.state ≠ .responded ∧ ∃ n ∈ activeNotif modemId (some st), n.transactionId = T') ↔
        ((x = u ∧ ∃ st, s'.record = some st ∧ st.state ≠ .responded ∧
          ∃ n ∈ activeNotif modemId (some st), n.transactionId = T') ∨
        (x ∈ visited ∧ ∃ st, v.records x = some st ∧ st.state ≠ .responded ∧
          ∃ n ∈ activeNotif modemId (some st), n.transactionId = T')) := by
      intro T' x
      by_cases hx : x = u
      · subst hx
        simp only [hrecs, ↓reduceIte, List.mem_cons_self, true_and, hu, false_and, or_false]
      · simp only [hrecs, hx, ↓reduceIte, List.mem_cons, false_or, false_and]
    intro T' hT' x
    rw [hold, hunr]
    rcases hmem T' hT' with ⟨hr, rfl⟩ | hT'h
    · -- the transaction the visit marked
      obtain ⟨n, hn, htx, hT⟩ := hreg.mp hr
      have hTn : T = n.transactionId := txOf_of_activeNotif hn
      have hvis : ¬(x ∈ visited ∧ ∃ st, v.records x = some st ∧ st.state ≠ .responded ∧
          ∃ n ∈ activeNotif modemId (some st), n.transactionId = T) := by
        rintro ⟨hx, st, hst, -, n', hn', htx'⟩
        rw [← hst] at hn'
        have h' := hmarked x hx n' hn' (by rw [htx', hTn]; exact htx)
        rw [htx'] at h'
        exact hT h'
      rw [if_pos rfl, hentry hr, or_iff_left hvis]
      rcases hr' : s'.record with _ | st'
      · simp
      · obtain ⟨st, hst, heq, hinc⟩ := (hsurv st' hr').1
        have h' := @activeNotif_of_shape modemId _ _ heq hinc
        rw [← hst, hn] at h'
        obtain ⟨n', hst', hu⟩ := Option.map_eq_some'.mp h'
        by_cases hresp : st'.state = .responded
        · simp [hresp]
        · simp only [Option.any_some, hresp, hst', hTn, ← MNotificationInd.transactionId_of_unmarked hu,
            bne_iff_ne, ne_eq, not_false_eq_true, ↓reduceIte, Option.some.injEq, Option.mem_def,
            exists_eq_left', true_and, and_true]
          exact eq_comm
    · -- a transaction marked before
      have hnu : ¬∃ st, s'.record = some st ∧ st.state ≠ .responded ∧
          ∃ n ∈ activeNotif modemId (some st), n.transactionId = T' := by
        rintro ⟨st, hst, -, n, hn, rfl⟩
        rw [← hst] at hn
        obtain ⟨-, hT, hTh⟩ := hfresh n hn (hs.marked_visited _ hT'h).1
        exact hTh (hT ▸ hT'h)
      simp only [hnu, and_false, false_or]
      rw [← hs.registry T' hT'h x]
      split
      · rename_i hTT
        have hr : reg = false := by
          cases reg
          · rfl
          · obtain ⟨-, -, -, hT⟩ := hreg.mp rfl
            exact absurd (hTT ▸ hT'h) hT
        rw [hkeep hr (hTT ▸ (hs.marked_visited _ hT'h).1), hTT]
      · rfl

/-- One visit, when every write of it succeeds, keeps what the pass has
established. -/
theorem Settled.visit (hs : Settled modemId v₀ visited handled refed v)
    (hkeyed : ∀ {u st n}, v₀.records u = some st → st.mNotificationInd = some n → n.uuid = u)
    {u : String} (hu : u ∉ visited) {o : InitOutcome} (hok : o.storeOk) :
    Settled modemId v₀ (u :: visited)
      (if (v.visit modemId o u (txOf (v.records u) ∈ handled)).1 then txOf (v.records u) :: handled
        else handled)
      (refed ++ (v.visit modemId o u (txOf (v.records u) ∈ handled)).2.1.toList)
      (v.visit modemId o u (txOf (v.records u) ∈ handled)).2.2 := by
  have hrec : v.records u = v₀.records u := hs.untouched u hu
  simp only [View.visit, hrec]
  set T := txOf (v₀.records u)
  have hslot : (v.slot u T).record = v₀.records u := hrec
  apply hs.put hu
  · rw [Slot.visit_registers, hslot]
    simp
  · intro st' h
    have := Slot.visit_ok_survivor _ v.clock hok h
    rw [hslot] at this
    rwa [← hs.clock]
  · exact fun n h htx => Slot.visit_ok_marks _ v.clock n hok h htx
  · exact fun hr htx => Slot.visit_keeps_entry _ v.clock hr (hslot ▸ htx)
  · intro hr
    obtain ⟨n, hn, htx, hseen⟩ := (Slot.visit_registers _ modemId o v.clock _).mp hr
    rw [hseen]
    rw [hslot] at hn
    obtain ⟨st, hr₀⟩ := exists_of_activeNotif hn
    rw [hr₀] at hn
    rw [Slot.visit_active_entry _ v.clock n hok (hslot.trans hr₀) hn (.inr rfl), if_pos htx,
      hkeyed hr₀ (activeNotif_some_iff.mp hn).2.2.2]

/-- The whole pass, when every write succeeds, keeps what it has
established, visiting each UUID of the listing once; and so any property `P`
of the visited UUIDs and the view that one more visit keeps. -/
theorem Settled.initializeFrom (oc : String → InitOutcome) (hok : ∀ u, (oc u).storeOk)
    (hkeyed : ∀ {u st n}, v₀.records u = some st → st.mNotificationInd = some n → n.uuid = u)
    (P : List String → View → Prop)
    (hP : ∀ {visited handled refed v u}, Settled modemId v₀ visited handled refed v → P visited v →
      u ∉ visited → P (u :: visited) (v.visit modemId (oc u) u (txOf (v.records u) ∈ handled)).2.2)
    {us : List String} (hnd : us.Nodup) (hs : Settled modemId v₀ visited handled refed v)
    (hp : P visited v) (hdisj : ∀ u ∈ us, u ∉ visited) :
    ∃ handled', Settled modemId v₀ (us.reverse ++ visited) handled'
      (refed ++ (View.initializeFrom modemId oc us handled v).1)
      (View.initializeFrom modemId oc us handled v).2 ∧
      P (us.reverse ++ visited) (View.initializeFrom modemId oc us handled v).2 := by
  induction us generalizing visited handled refed v with
  | nil =>
      exact ⟨handled, by simpa [View.initializeFrom] using hs, by simpa [View.initializeFrom] using hp⟩
  | cons u us ih =>
      obtain ⟨hu, hnd'⟩ := List.nodup_cons.mp hnd
      have hdisj' : ∀ x ∈ us, x ∉ u :: visited := fun x hx =>
        List.not_mem_cons_of_ne_of_not_mem (ne_of_mem_of_not_mem hx hu) (hdisj x (.tail _ hx))
      obtain ⟨h', hs', hp'⟩ := ih hnd' (hs.visit hkeyed (hdisj u (.head _)) (hok u))
        (hP hs hp (hdisj u (.head _))) hdisj'
      refine ⟨h', ?_, ?_⟩ <;> rw [View.initializeFrom]
      · simpa only [List.reverse_cons, List.append_assoc, List.singleton_append] using hs'
      · simpa only [List.reverse_cons, List.append_assoc, List.singleton_append] using hp'

/-- Once every record the pass found was visited, every record there is was
visited. -/
theorem Settled.visited_of_records (hs : Settled modemId v₀ visited handled refed v)
    (hkeys : ∀ x st, v₀.records x = some st → x ∈ visited) {x : String} {st : MMSState}
    (h : v.records x = some st) : x ∈ visited := by
  by_contra hx
  exact hx (hkeys x st ((hs.untouched x hx).symm.trans h))

end Settled

end View

/-! ### The pass over the world -/

/-- A listing of the stored UUIDs names every record of the store. -/
theorem mem_listing {w : World} {uuids : List String} (hlist : uuids.Perm w.store.keys) {x : String}
    {st : MMSState} (h : w.store.records x = some st) : x ∈ uuids :=
  hlist.mem_iff.mpr ((w.store.mem_keys x).mp (by simp [h]))

/-- What `initializeMessages` for `modemId`, run on `w`, promises of the
world `w'` it leaves. -/
structure Reconciled (modemId : String) (w w' : World) : Prop where
  /-- No two incoming records of the modem share a non-empty transaction. -/
  unique : ∀ u u' st st', w'.store.records u = some st → w'.store.records u' = some st' →
    st.isIncoming → st'.isIncoming → st.modemId = modemId → st'.modemId = modemId →
    txOf (some st) = txOf (some st') → txOf (some st) ≠ "" → u = u'
  /-- An incoming record has its ModemId set; one of the modem carries its
  notification and is not an error object whose notification has expired. -/
  incoming : ∀ u st, w'.store.records u = some st → st.isIncoming → st.modemId ≠ "" ∧
    (st.modemId = modemId → ∃ n, st.mNotificationInd = some n ∧
      ¬(st.state = .notification ∧ st.telepathyErrorNotified ∧ n.expired w.clock))
  /-- For each transaction of a record the pass reconciles, the registry names
  the surviving record of the modem while that one is not RESPONDED. -/
  registry : ∀ T, T ≠ "" →
    (∃ u n, activeNotif modemId (w.store.records u) = some n ∧ n.transactionId = T) →
    ∀ x, w'.unrespondedTransactions T = some x ↔ ∃ st, w'.store.records x = some st ∧
      st.isIncoming ∧ st.modemId = modemId ∧ txOf (some st) = T ∧ st.state ≠ .responded
  /-- Every incoming record of the modem is a NOTIFICATION not yet reported
  and re-fed on `NewMNotificationInd`, or has its object on the bus. -/
  refed : ∃ refed, w'.pending = w.pending ++ refed ∧ ∀ u st, w'.store.records u = some st →
    st.isIncoming → st.modemId = modemId →
      (st.state = .notification ∧ st.telepathyErrorNotified = false ∧
        ∃ n, st.mNotificationInd = some n ∧ n ∈ refed) ∨
      (w'.handlers (genMessagePath w'.telepathyService u)).isSome

/-- A store holding only `X`, a RECEIVED message of modem `N` that carries no
notification. -/
def foreignRecord : Store where
  records u := if u = "X" then some ⟨.received, "N", none, false, ""⟩ else none
  keys := ["X"]
  keyed h hn := by
    dsimp only at h
    split at h
    · cases h; cases hn
    · cases h
  mem_keys u := by by_cases h : u = "X" <;> simp [h]
  nodup := by decide

/-- The world that has just added the service of modem `M`, on
`foreignRecord` with the NOTIFICATION `Y` of `M` filed beside `X`. -/
def foreignWorld : World :=
  { World.start (foreignRecord.file "M" (notificationOf "Y")) 10 with
    telepathyService := some (MMSService.new "M") }

end Nuntium.Mediator
