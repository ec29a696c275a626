import Nuntium.Mediator.Refinement

/-!
# The startup pass over views

`initializeMessages` visits the listed UUIDs one after the other, carrying
the list of transactions it has handled. `View.initializeFrom` is the same
loop over views, each iteration a `View.visit`; `initializeFrom_view` proves
that the faithful pass acts on the world's view as the loop does, and appends
to `pending` exactly the notifications the loop re-feeds.

What one visit can do is said once, on its slot:

* `Slot.visit_inactive` — a record the pass does not reconcile for the modem
  is kept or destroyed, whatever was handled before;
* `Slot.visit_seen` — a record of a transaction handled before is destroyed;
* `Slot.visit_registers` — a visit marks its transaction handled exactly when
  it reconciles a record of a non-empty transaction not handled before;
* `Slot.visit_setEntry` — what a visit does to the record and the object does
  not depend on the registry entry it finds; a visit that does not mark its
  transaction keeps that entry or clears it.
-/

namespace Nuntium.Mediator

open Storage Telepathy

/-- The notification of a record that the pass reconciles for `modemId`: an
incoming record of that modem, with its ModemId set, that carries one. -/
def activeNotif (modemId : String) : Option MMSState → Option MNotificationInd
  | some st => if st.isIncoming ∧ st.modemId ≠ "" ∧ modemId = st.modemId then st.mNotificationInd
      else none
  | none => none

theorem txOf_of_activeNotif {modemId : String} {r : Option MMSState} {n : MNotificationInd}
    (h : activeNotif modemId r = some n) : txOf r = n.transactionId := by
  rcases r with _ | st
  · cases h
  · simp only [activeNotif] at h
    split_ifs at h
    simp [txOf, h]

namespace Slot

variable (s : Slot) (modemId : String) (oc : InitOutcome) (clock : Nat)

/-! ### What a visit does -/

/-- A record the pass does not reconcile is kept or destroyed. -/
theorem visit_inactive (h : activeNotif modemId s.record = none) (seen : Bool) :
    s.visit modemId oc clock seen = (false, none, s) ∨
      s.visit modemId oc clock seen = (false, none, s.destroy oc.destroy) := by
  unfold visit
  rcases hr : s.record with _ | st
  · exact .inr rfl
  rw [hr] at h
  by_cases h₁ : st.isIncoming = true
  · by_cases h₂ : st.modemId = ""
    · simp [h₁, h₂]
    · by_cases h₃ : modemId = st.modemId
      · simp only [activeNotif, h₁, ne_eq, h₂, not_false_eq_true, h₃, and_self, ite_true] at h
        simp [h₁, h₂, h₃, h]
      · simp [h₁, h₂, h₃]
  · simp [h₁]

/-- The record of a transaction handled before is destroyed. -/
theorem visit_seen {n : MNotificationInd} (h : activeNotif modemId s.record = some n)
    (htx : n.transactionId ≠ "") :
    s.visit modemId oc clock true = (false, none, s.destroy oc.destroy) := by
  unfold visit
  rcases hr : s.record with _ | st
  · simp [hr, activeNotif] at h
  rw [hr] at h
  simp only [activeNotif] at h
  split_ifs at h with hc
  obtain ⟨h₁, h₂, h₃⟩ := hc
  simp [h₁, h₂, h₃, h, htx]

/-- A visit marks its transaction handled exactly when it reconciles a record
of a non-empty transaction that was not handled before. -/
theorem visit_registers (seen : Bool) :
    (s.visit modemId oc clock seen).1 = true ↔
      ∃ n, activeNotif modemId s.record = some n ∧ n.transactionId ≠ "" ∧ seen = false := by
  rcases ha : activeNotif modemId s.record with _ | n
  · rcases visit_inactive s modemId oc clock ha seen with h | h <;> simp [h]
  · cases seen
    · unfold visit
      rcases hr : s.record with _ | st
      · rw [hr] at ha; cases ha
      rw [hr] at ha
      simp only [activeNotif] at ha
      split_ifs at ha with hc
      obtain ⟨h₁, h₂, h₃⟩ := hc
      simp [h₁, h₂, h₃, ha]
    · by_cases htx : n.transactionId = ""
      · unfold visit
        rcases hr : s.record with _ | st
        · rw [hr] at ha; cases ha
        rw [hr] at ha
        simp only [activeNotif] at ha
        split_ifs at ha with hc
        obtain ⟨h₁, h₂, h₃⟩ := hc
        simp [h₁, h₂, h₃, ha, htx]
      · simp [visit_seen s modemId oc clock ha htx]

/-- Whether the transaction was handled before matters only to a record the
pass reconciles, of a non-empty transaction. -/
theorem visit_seen_irrel (seen : Bool)
    (h : ∀ n, activeNotif modemId s.record = some n → n.transactionId ≠ "" → seen = false) :
    s.visit modemId oc clock seen = s.visit modemId oc clock false := by
  unfold visit
  rcases hr : s.record with _ | st
  · rfl
  rw [hr] at h
  by_cases hc : st.isIncoming ∧ st.modemId ≠ "" ∧ modemId = st.modemId
  · obtain ⟨h₁, h₂, h₃⟩ := hc
    rcases hn : st.mNotificationInd with _ | n
    · simp [h₁, h₂, h₃, hn]
    · have hseen := h n (by simp [activeNotif, h₁, h₂, h₃, hn])
      by_cases htx : n.transactionId = ""
      · simp [h₁, h₂, h₃, hn, htx]
      · simp [h₁, h₂, h₃, hn, htx, hseen]
  · simp only [not_and_or, ne_eq, not_not] at hc
    rcases hc with hc | hc | hc <;> simp [hc]

/-- A record the pass does not reconcile keeps its entry. -/
theorem visit_inactive_entry (h : activeNotif modemId s.record = none) (seen : Bool) :
    (s.visit modemId oc clock seen).2.2.entry = s.entry := by
  rcases visit_inactive s modemId oc clock h seen with h' | h' <;> rw [h']
  cases oc.destroy <;> rfl

/-! ### The registry entry a visit finds -/

section Entry

variable (e : Option String)

theorem destroy_setEntry (ok : Bool) :
    ({ s with entry := e } : Slot).destroy ok = { s.destroy ok with entry := e } := by
  cases ok <;> rfl

theorem advance_setEntry (ok : Bool) (src dst : State) :
    ({ s with entry := e } : Slot).advance ok src dst = (s.advance ok src dst).map ({ · with entry := e }) := by
  unfold advance
  rcases hr : s.record with _ | st
  · simp [hr]
  · simp only [hr]
    split_ifs <;> rfl

theorem content_setEntry : ({ s with entry := e } : Slot).content = s.content := rfl

theorem setNotification_setEntry (ok : Bool) (n : MNotificationInd) :
    ({ s with entry := e } : Slot).setNotification ok n = { s.setNotification ok n with entry := e } := by
  cases ok <;> rfl

theorem respond_setEntry (n : MNotificationInd) :
    ({ s with entry := e } : Slot).respond oc n =
      ((s.respond oc n).1, (s.respond oc n).2.1, { (s.respond oc n).2.2 with entry := e }) := by
  unfold respond
  rw [content_setEntry]
  split_ifs
  · rfl
  · rcases n.popDebugError .respondHandle with _ | n'
    · rfl
    · exact congrArg _ (congrArg _ (setNotification_setEntry s e _ n'))
  · rfl

theorem forward_setEntry (fo : ForwardOutcome) (n : MNotificationInd) :
    ({ s with entry := e } : Slot).forward fo n =
      ({ (s.forward fo n).1 with entry := e }, (s.forward fo n).2.1, (s.forward fo n).2.2) := by
  unfold forward
  rw [content_setEntry]
  split_ifs
  · rcases n.popDebugError .receiveHandle with _ | n'
    · rfl
    · exact congrArg (·, _) (setNotification_setEntry s e _ n')
  · rfl

theorem respondedArm_setEntry (check : Bool) :
    ({ s with entry := e } : Slot).respondedArm oc check = s.respondedArm oc check := rfl

theorem respondedArm_entry (check : Bool) : (s.respondedArm oc check).2.entry = none := by
  unfold respondedArm
  cases check
  · rfl
  · rcases oc.history with _ | _ | _ | _ | _ <;> cases oc.destroy <;> rfl

theorem initAdded_setEntry (notif : Option MNotificationInd) :
    ({ s with entry := e } : Slot).initAdded notif = { s.initAdded notif with entry := e } := by
  unfold initAdded
  split <;> (try split_ifs) <;> rfl

/-- The RECEIVED arm keeps the entry it finds, or clears it. -/
theorem receivedArm_setEntry (n : MNotificationInd) (check : Bool) : ∃ clears : Bool, ∀ e,
    ({ s with entry := e } : Slot).receivedArm oc clock n check =
      ((s.receivedArm oc clock n check).1, (s.receivedArm oc clock n check).2.1,
        { (s.receivedArm oc clock n check).2.2 with entry := if clears then none else e }) := by
  obtain ⟨b, n₁, s₁, hb, hb'⟩ : ∃ b n₁ s₁,
      (if n.expired clock then (true, n, s) else s.respond oc n) = (b, n₁, s₁) ∧
      ∀ e, (if n.expired clock then (true, n, ({ s with entry := e } : Slot))
        else ({ s with entry := e } : Slot).respond oc n) = (b, n₁, { s₁ with entry := e }) := by
    by_cases hexp : n.expired clock = true
    · exact ⟨true, n, s, by simp [hexp], fun e => by simp [hexp]⟩
    · refine ⟨(s.respond oc n).1, (s.respond oc n).2.1, (s.respond oc n).2.2, by simp [hexp],
        fun e => ?_⟩
      simp only [hexp, Bool.false_eq_true, ↓reduceIte]
      exact respond_setEntry s oc e n
  unfold receivedArm
  rw [hb]
  cases b
  · exact ⟨false, fun e => by rw [hb' e]; rfl⟩
  rcases ha : s₁.advance oc.updateResponded .received .responded with _ | s₂
  · exact ⟨false, fun e => by rw [hb' e]; simp [advance_setEntry, ha]⟩
  · refine ⟨true, fun e => ?_⟩
    rw [hb' e]
    simp only [ite_true, advance_setEntry, ha, Option.map_some', respondedArm_setEntry]
    rw [← respondedArm_entry s₂ oc check]

/-- The switch on the record's state keeps the entry it finds, or clears it. -/
theorem reconcile_setEntry (st : MMSState) (n : MNotificationInd) : ∃ clears : Bool, ∀ e,
    ({ s with entry := e } : Slot).reconcile oc clock st n =
      ((s.reconcile oc clock st n).1, (s.reconcile oc clock st n).2.1, (s.reconcile oc clock st n).2.2.1,
        { (s.reconcile oc clock st n).2.2.2 with entry := if clears then none else e }) := by
  unfold reconcile
  cases st.state
  · by_cases h₁ : st.telepathyErrorNotified = true
    · by_cases h₂ : n.expired clock = true
      · exact ⟨true, fun e => by simp [h₁, h₂, destroy_setEntry]⟩
      · exact ⟨false, fun e => by simp [h₁, h₂]⟩
    · exact ⟨false, fun e => by simp [h₁]⟩
  · simp only [forward_setEntry]
    rcases s.forward oc.forward n with ⟨s₁, n₁, _ | _⟩
    · exact ⟨false, fun e => rfl⟩
    · simp only [advance_setEntry]
      rcases s₁.advance oc.updateReceived .downloaded .received with _ | s₂
      · exact ⟨false, fun e => rfl⟩
      · obtain ⟨clears, hc⟩ := receivedArm_setEntry s₂ oc clock n false
        exact ⟨clears, fun e => by rw [Option.map_some']; dsimp only; rw [hc]⟩
  · obtain ⟨clears, hc⟩ := receivedArm_setEntry s oc clock n true
    exact ⟨clears, fun e => by dsimp only; rw [hc]⟩
  · refine ⟨true, fun e => ?_⟩
    simp only [respondedArm_setEntry, ↓reduceIte]
    rw [← respondedArm_entry s oc true]
  · exact ⟨false, fun e => rfl⟩
  · exact ⟨false, fun e => rfl⟩

/-- What a visit does to the record and the object does not depend on the
registry entry it finds. A visit that marks its transaction writes the same
entry whatever it found; any other keeps the entry it found, or clears it. -/
theorem visit_setEntry (seen : Bool) : ∃ clears : Bool, ∀ e,
    ({ s with entry := e } : Slot).visit modemId oc clock seen =
      ((s.visit modemId oc clock seen).1, (s.visit modemId oc clock seen).2.1,
        { (s.visit modemId oc clock seen).2.2 with entry :=
          if (s.visit modemId oc clock seen).1 then (s.visit modemId oc clock seen).2.2.entry
          else if clears then none else e }) := by
  unfold visit
  rcases hr : s.record with _ | st
  · exact ⟨false, fun e => by cases oc.destroy <;> simp [hr, destroy]⟩
  by_cases h₁ : st.isIncoming = true
  swap
  · exact ⟨false, fun e => by simp [hr, h₁]⟩
  by_cases h₂ : st.modemId = ""
  · exact ⟨false, fun e => by cases oc.destroy <;> simp [hr, h₁, h₂, destroy]⟩
  by_cases h₃ : modemId = st.modemId
  swap
  · exact ⟨false, fun e => by simp [hr, h₁, h₂, h₃]⟩
  rcases hn : st.mNotificationInd with _ | n
  · exact ⟨false, fun e => by cases oc.destroy <;> simp [hr, h₁, h₂, h₃, hn, destroy]⟩
  by_cases h₄ : n.transactionId ≠ "" ∧ seen = true
  · exact ⟨false, fun e => by cases oc.destroy <;> simp [hr, h₁, h₂, h₃, hn, h₄, destroy]⟩
  obtain ⟨clears, hrec⟩ := reconcile_setEntry s oc clock st n
  refine ⟨clears, fun e => ?_⟩
  have hrec' := hrec e
  rw [hr] at hrec'
  simp only [h₁, h₂, h₃, hn, h₄, Bool.not_true, Bool.false_eq_true, ↓reduceIte, ne_eq, not_true_eq_false]
  by_cases htx : n.transactionId = ""
  · simp only [htx, not_true_eq_false, ↓reduceIte, decide_False, Bool.false_eq_true]
    rw [hrec']
    rcases s.reconcile oc clock st n with ⟨_ | _, notif, refeed, s'⟩
    · rfl
    · exact congrArg _ (congrArg _ (initAdded_setEntry s' _ notif))
  · simp only [htx, not_false_eq_true, ↓reduceIte, decide_True]

/-- A visit of a non-empty transaction that does not mark it keeps the entry
it finds. -/
theorem visit_keeps (htx : txOf s.record ≠ "") (hreg : (s.visit modemId oc clock false).1 = false)
    (e : Option String) :
    ({ s with entry := e } : Slot).visit modemId oc clock false =
      ((s.visit modemId oc clock false).1, (s.visit modemId oc clock false).2.1,
        { (s.visit modemId oc clock false).2.2 with entry := e }) := by
  have ha : activeNotif modemId s.record = none := by
    rcases h : activeNotif modemId s.record with _ | n
    · rfl
    · have := (visit_registers s modemId oc clock false).mpr ⟨n, h, txOf_of_activeNotif h ▸ htx, rfl⟩
      simp [hreg] at this
  obtain ⟨clears, hc⟩ := visit_setEntry s modemId oc clock false
  cases clears
  · simpa [hreg] using hc e
  · have h₁ := visit_inactive_entry { s with entry := some "" } modemId oc clock ha false
    rw [hc] at h₁
    simp [hreg] at h₁

/-- What a visit writes into the entry it finds: the same entry whatever it
found, when it marks its transaction; otherwise the entry it found or, for
the empty transaction only, nothing. -/
theorem visit_write : ∃ W : Option String → Option String,
    (∀ e, ({ s with entry := e } : Slot).visit modemId oc clock false =
      ((s.visit modemId oc clock false).1, (s.visit modemId oc clock false).2.1,
        { (s.visit modemId oc clock false).2.2 with entry := W e })) ∧
    (((s.visit modemId oc clock false).1 = true ∧ txOf s.record ≠ "" ∧ ∀ e, W e = W none) ∨
      (∀ e, W e = e) ∨ (txOf s.record = "" ∧ ∀ e, W e = none)) := by
  obtain ⟨clears, hc⟩ := visit_setEntry s modemId oc clock false
  refine ⟨_, hc, ?_⟩
  cases hreg : (s.visit modemId oc clock false).1
  · cases clears
    · exact .inr (.inl fun e => by simp)
    · by_cases htx : txOf s.record = ""
      · exact .inr (.inr ⟨htx, fun e => by simp⟩)
      · have h₁ := (visit_keeps s modemId oc clock htx hreg (some "")).symm.trans (hc (some ""))
        simp [hreg] at h₁
  · obtain ⟨n, hn, htx, -⟩ := (visit_registers s modemId oc clock false).mp hreg
    exact .inl ⟨rfl, txOf_of_activeNotif hn ▸ htx, fun e => by simp⟩

end Entry

end Slot

/-! ### The pass -/

/-- The loop of `initializeMessages` over views, from the transactions
`handled` before it: the notifications it re-feeds, in order, and the view
after it. -/
def View.initializeFrom (modemId : String) (oc : String → InitOutcome) :
    List String → List String → View → List MNotificationInd × View
  | [], _, v => ([], v)
  | u :: us, handled, v =>
      let tx := txOf (v.records u)
      let (registers, refeed, v) := v.visit modemId (oc u) u (tx ∈ handled)
      let (refed, v) := View.initializeFrom modemId oc us (if registers then tx :: handled else handled) v
      (refeed.toList ++ refed, v)

/-- The faithful pass acts on the world's view as the loop over views does, and
appends to `pending` the notifications the loop re-feeds. -/
theorem initializeFrom_view (modemId : String) (oc : String → InitOutcome)
    (uuids handled : List String) {w : World} (hsvc : w.telepathyService.isSome) :
    (initializeFrom modemId oc uuids handled w).view =
        (View.initializeFrom modemId oc uuids handled w.view).2 ∧
      (initializeFrom modemId oc uuids handled w).pending =
        w.pending ++ (View.initializeFrom modemId oc uuids handled w.view).1 := by
  induction uuids generalizing handled w with
  | nil => exact ⟨rfl, by simp [initializeFrom, View.initializeFrom]⟩
  | cons u us ih =>
      obtain ⟨svc, hs⟩ := Option.isSome_iff_exists.mp hsvc
      obtain ⟨h₁, h₂, h₃⟩ := initializeMessage_view hs modemId (oc u) u handled
      have hsvc' : (initializeMessage modemId (oc u) u handled w).2.telepathyService.isSome := by
        rw [← World.view_service, h₂]; simp [hs]
      obtain ⟨ih₁, ih₂⟩ := ih (initializeMessage modemId (oc u) u handled w).1 hsvc'
      simp only [initializeFrom, View.initializeFrom, View.visit]
      rw [ih₁, ih₂, h₂, h₁, h₃]
      exact ⟨rfl, by simp⟩

end Nuntium.Mediator
