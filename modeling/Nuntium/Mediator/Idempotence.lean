import Nuntium.Mediator.Outcome
import Nuntium.Mediator.Order

/-!
# Running the startup pass twice

A second `initializeMessages` over the world the first one left, with the same
outcomes per UUID and the same clock, leaves the records, the registry and
the service as they are, provided every write to the store succeeds, the
history service keeps each DOWNLOADED record of the modem, and no
notification of the modem carries the `ReceiveHandle` or `RespondHandle`
marker. The first pass forwards a DOWNLOADED record and marks it RESPONDED
without asking the history service, which the second pass asks; and it
persists a notification whose marker it popped, which the second pass then
forwards or acknowledges.

* `Slot.visit_fixed` — a second visit leaves the record and the object a
  first visit left;
* `View.Stable` — what makes a second visit leave the view as it is, which
  every visit of the first pass keeps (`View.Stable.visit`);
* `View.initializeFrom_stable` — the pass over a stable, settled view changes
  nothing;
* `initializeMessages_idempotent` — the second pass leaves the records, the
  registry and the service, with its objects, as the first left them;
* `second_pass_changes` — without the history or the marker assumption it
  does not.
-/

namespace Nuntium.Mediator

open Storage Telepathy

namespace Slot

variable (t : Slot) {oc : InitOutcome} (clock : Nat) {st : MMSState} (n : MNotificationInd)
  {modemId : String}

theorem initAdded_of_isSome (h : t.handler.isSome) (notif : Option MNotificationInd) :
    t.initAdded notif = t := by
  unfold initAdded
  split
  · simp [Option.isNone_iff_eq_none, Option.isSome_iff_ne_none.mp h]
  · rfl

theorem content_withState (hr : t.record = some st) (x : State) (e : Option String)
    (mi : Option MessageInterface) :
    ({ record := some { st with state := x }, handler := mi, entry := e } : Slot).content =
      t.content := by
  simp [content, hr]

@[simp] theorem initAdded_content (notif : Option MNotificationInd) :
    (t.initAdded notif).content = t.content := by
  simp only [content, initAdded_record]

/-! Without the markers the pass pops, the forward and the acknowledgement
of a local test are those of a notification of the message center. -/

theorem forward_of_unmarked {fo : ForwardOutcome} {n : MNotificationInd}
    (h : n.hasDebugError .receiveHandle = false) (s : Slot) :
    s.forward fo n = if s.content.isSome ∧ fo.retrieveConf.isSome then
      ({ s with handler := some ⟨false, .incoming n.transactionId⟩ }, n, fo.messageAdded) else (s, n, false) := by
  simp [forward, MNotificationInd.popDebugError_eq_none.mpr h]

theorem forward_record_of_unmarked {fo : ForwardOutcome} {n : MNotificationInd}
    (h : n.hasDebugError .receiveHandle = false) (s : Slot) : (s.forward fo n).1.record = s.record := by
  rw [forward_of_unmarked h]; split_ifs <;> rfl

theorem forward_notif_of_unmarked {fo : ForwardOutcome} {n : MNotificationInd}
    (h : n.hasDebugError .receiveHandle = false) (s : Slot) : (s.forward fo n).2.1 = n := by
  rw [forward_of_unmarked h]; split_ifs <;> rfl

theorem respond_of_unmarked {n : MNotificationInd} (h : n.hasDebugError .respondHandle = false)
    (s : Slot) : (s.respond oc n).2 = (n, s) := by
  unfold respond
  split_ifs <;> simp [MNotificationInd.popDebugError_eq_none.mpr h]

/-- A forward whose object is already on the bus changes nothing on a second
call. -/
theorem forward_again {t' : Slot} (fo : ForwardOutcome) (hnm : n.hasDebugError .receiveHandle = false)
    (hc : t'.content = t.content)
    (hh : t.content.isSome ∧ fo.retrieveConf.isSome → (t.forward fo n).1.handler = t'.handler) :
    (t'.forward fo n).2.2 = (t.forward fo n).2.2 ∧ (t'.forward fo n).1.handler = t'.handler := by
  by_cases h : t.content.isSome ∧ fo.retrieveConf.isSome
  · simpa [forward_of_unmarked hnm, hc, h] using hh h
  · simp [forward_of_unmarked hnm, hc, h]

/-- A slot whose record `st`, reconciled with the notification `n`, the switch
leaves as it is: a NOTIFICATION not yet reported; or a record whose object is
on the bus, which the switch neither moves nor destroys. -/
def Steady (oc : InitOutcome) (clock : Nat) (n : MNotificationInd) (t : Slot) (st : MMSState) : Prop :=
  (st.state = .notification ∧ st.telepathyErrorNotified = false) ∨
    (t.handler.isSome ∧
      ((st.state = .notification ∧ st.telepathyErrorNotified = true ∧ n.expired clock = false) ∨
        (st.state = .downloaded ∧ (t.forward oc.forward n).2.2 = false ∧
          (t.forward oc.forward n).1.handler = t.handler) ∨
        (st.state = .received ∧ (n.expired clock || (t.respond oc n).1) = false) ∨
        (st.state = .responded ∧ oc.history.keeps = true)))

/-- A visit leaves a steady slot as it is, unless it pops a marker. -/
theorem Steady.visit_fixed {t : Slot} (hok : oc.storeOk) (hr : t.record = some st)
    (ha : activeNotif modemId (some st) = some n)
    (hnm : n.hasDebugError .receiveHandle = false ∧ n.hasDebugError .respondHandle = false)
    (h : Steady oc clock n t st) :
    (t.visit modemId oc clock false).2.2.record = t.record ∧
      (t.visit modemId oc clock false).2.2.handler = t.handler := by
  rw [visit_active t clock n hr ha (.inr rfl)]
  dsimp only
  generalize (if n.transactionId ≠ "" then some n.uuid else t.entry) = e₀
  rw [reconcile_ok { t with entry := e₀ } clock n hok hr]
  rcases h with ⟨hs, he⟩ | ⟨hh, ⟨hs, he, hx⟩ | ⟨hs, hf, hfh⟩ | ⟨hs, hc⟩ | ⟨hs, hk⟩⟩
  · simp [hs, he, hr]
  · simp [hs, he, hx, hr, initAdded_of_isSome, hh]
  · simp only [forward_setEntry]
    simp [hs, hf, hfh, initAdded_of_isSome, hh, forward_record_of_unmarked hnm.1, hr]
  · simp only [respond_setEntry]
    simp [hs, hc, hr, initAdded_of_isSome, hh, respond_of_unmarked hnm.2]
  · simp [hs, hk, hr, initAdded_of_isSome, hh]

/-- When every write succeeds, the history service keeps the record when it
is DOWNLOADED, and its notification carries no marker the pass pops, a visit
leaves a record it reconciles steady, with only its state changed. -/
theorem visit_steady (s : Slot) {seen : Bool} (hok : oc.storeOk) (hr : s.record = some st)
    (ha : activeNotif modemId (some st) = some n) (hseen : n.transactionId = "" ∨ seen = false)
    (hnm : n.hasDebugError .receiveHandle = false ∧ n.hasDebugError .respondHandle = false)
    (hkeeps : st.state = .downloaded → oc.history.keeps) {st₁ : MMSState}
    (h₁ : (s.visit modemId oc clock seen).2.2.record = some st₁) :
    st₁ = { st with state := st₁.state } ∧ Steady oc clock n (s.visit modemId oc clock seen).2.2 st₁ := by
  rw [visit_active s clock n hr ha hseen] at h₁ ⊢
  dsimp only at h₁ ⊢
  generalize (if n.transactionId ≠ "" then some n.uuid else s.entry) = e₀ at h₁ ⊢
  rw [reconcile_ok { s with entry := e₀ } clock n hok hr] at h₁ ⊢
  simp only [forward_setEntry, respond_setEntry, respond_of_unmarked hnm.2,
    forward_notif_of_unmarked hnm.1] at h₁ ⊢
  have hinc : st.isIncoming := (activeNotif_some_iff.mp ha).1
  have hresp : ∀ (x : State) (e : Option String) (mi : Option MessageInterface)
      (notif : Option MNotificationInd),
      ((({ record := some { st with state := x }, handler := mi, entry := e } : Slot).initAdded
        notif).respond oc n).1 = (s.respond oc n).1 :=
    fun x e mi notif => respond_fst_of_content s n (by rw [initAdded_content, content_withState s hr])
  revert h₁
  cases hs : st.state <;> dsimp only <;> intro h₁
  · -- NOTIFICATION
    by_cases he : st.telepathyErrorNotified = false
    · simp only [he, ↓reduceIte, Bool.false_eq_true] at h₁ ⊢
      obtain rfl : st = st₁ := by simpa [hr] using h₁
      exact ⟨by rw [← he], .inl ⟨hs, he⟩⟩
    · have he' : st.telepathyErrorNotified = true := by simpa using he
      by_cases hx : n.expired clock = true
      · simp [he', hx] at h₁
      · simp only [he', hx, ↓reduceIte, Bool.false_eq_true, Bool.not_true] at h₁ ⊢
        obtain rfl : st = st₁ := by simpa [hr] using h₁
        exact ⟨by rw [← he'], .inr ⟨initAdded_handler_isSome _ n, .inl ⟨hs, he', by simpa using hx⟩⟩⟩
  · -- DOWNLOADED
    by_cases hf : (s.forward oc.forward n).2.2 = true
    · by_cases hc : (n.expired clock || (s.respond oc n).1) = true
      · simp only [hf, hc, ↓reduceIte] at h₁ ⊢
        obtain rfl : { st with state := .responded } = st₁ := by simpa using h₁
        exact ⟨rfl, .inr ⟨initAdded_handler_isSome _ n, .inr (.inr (.inr ⟨rfl, hkeeps hs⟩))⟩⟩
      · simp only [hf, hc, ↓reduceIte, Bool.false_eq_true] at h₁ ⊢
        obtain rfl : { st with state := .received } = st₁ := by simpa using h₁
        refine ⟨rfl, .inr ⟨initAdded_handler_isSome _ n, .inr (.inr (.inl ⟨rfl, ?_⟩))⟩⟩
        rw [hresp]
        simpa using hc
    · simp only [hf, ↓reduceIte, Bool.false_eq_true] at h₁ ⊢
      obtain rfl : st = st₁ := by simpa [forward_record_of_unmarked hnm.1, hr] using h₁
      refine ⟨rfl, .inr ⟨by simpa using initAdded_handler_isSome _ n, .inr (.inl ⟨hs, ?_⟩)⟩⟩
      have hc : (({ (s.forward oc.forward n).1 with entry := e₀ } : Slot).initAdded (some n)).content =
          s.content := by
        rw [initAdded_content, content_setEntry]
        simp only [content, forward_record_of_unmarked hnm.1]
      obtain ⟨h₂, h₃⟩ := forward_again s n oc.forward hnm.1 hc fun hcond => by
        rw [initAdded_of_isSome ({ (s.forward oc.forward n).1 with entry := e₀ } : Slot)
          (by simp [forward_of_unmarked hnm.1, hcond])]
      exact ⟨h₂.trans (by simpa using hf), h₃⟩
  · -- RECEIVED
    by_cases hc : (n.expired clock || (s.respond oc n).1) = true
    · by_cases hk : oc.history.keeps = true
      · simp only [hc, hk, ↓reduceIte] at h₁ ⊢
        obtain rfl : { st with state := .responded } = st₁ := by simpa using h₁
        exact ⟨rfl, .inr ⟨initAdded_handler_isSome _ n, .inr (.inr (.inr ⟨rfl, hk⟩))⟩⟩
      · simp [hc, hk] at h₁
    · simp only [hc, ↓reduceIte, Bool.false_eq_true] at h₁ ⊢
      obtain rfl : st = st₁ := by simpa [hr] using h₁
      refine ⟨rfl, .inr ⟨initAdded_handler_isSome _ n, .inr (.inr (.inl ⟨hs, ?_⟩))⟩⟩
      rw [respond_fst_of_content s n (by rw [initAdded_content, content_setEntry])]
      simpa using hc
  · -- RESPONDED
    by_cases hk : oc.history.keeps = true
    · simp only [hk, ↓reduceIte] at h₁ ⊢
      obtain rfl : st = st₁ := by simpa [hr] using h₁
      exact ⟨rfl, .inr ⟨initAdded_handler_isSome _ n, .inr (.inr (.inr ⟨hs, hk⟩))⟩⟩
    · simp [hk] at h₁
  · simp [MMSState.isIncoming, hs] at hinc
  · simp [MMSState.isIncoming, hs] at hinc

/-- A record of a transaction handled before does not survive its visit. -/
theorem visit_unseen_of_survives (s : Slot) (seen : Bool) (hok : oc.storeOk)
    (hr : s.record = some st) (ha : activeNotif modemId (some st) = some n)
    (h : (s.visit modemId oc clock seen).2.2.record.isSome) : n.transactionId = "" ∨ seen = false := by
  by_cases htx : n.transactionId = ""
  · exact .inl htx
  · cases seen
    · exact .inr rfl
    · rw [visit_seen s modemId oc clock (hr ▸ ha) htx] at h
      simp [destroy, InitOutcome.destroy_of_storeOk hok] at h

/-- When every write succeeds, the history service keeps a DOWNLOADED record
of the modem, and a notification of the modem carries no marker the pass pops,
a second visit leaves the record and the object that a first visit left,
whatever registry entry it finds. -/
theorem visit_fixed (s : Slot) (seen : Bool) (hok : oc.storeOk)
    (hkeeps : ∀ st, s.record = some st → st.state = .downloaded → st.modemId = modemId →
      oc.history.keeps)
    (hnm : ∀ st n, s.record = some st → st.mNotificationInd = some n → st.modemId = modemId →
      n.hasDebugError .receiveHandle = false ∧ n.hasDebugError .respondHandle = false)
    (e : Option String) :
    let s₁ := (s.visit modemId oc clock seen).2.2
    (({ s₁ with entry := e } : Slot).visit modemId oc clock false).2.2.record = s₁.record ∧
      (({ s₁ with entry := e } : Slot).visit modemId oc clock false).2.2.handler = s₁.handler := by
  dsimp only
  have hd := InitOutcome.destroy_of_storeOk hok
  obtain ⟨clears, hc⟩ := visit_setEntry (s.visit modemId oc clock seen).2.2 modemId oc clock false
  rw [hc e]
  dsimp only
  rcases hr₁ : (s.visit modemId oc clock seen).2.2.record with _ | st₁
  · -- nothing is left, and a visit of nothing changes nothing
    generalize (s.visit modemId oc clock seen).2.2 = s₁ at hr₁ ⊢
    simp [visit, hr₁, destroy, hd]
  rcases ha : activeNotif modemId s.record with _ | n
  · -- a record the pass does not reconcile, kept by the first visit and so by the second
    rcases @visit_inactive_ok s oc clock modemId seen hd ha with ⟨hv, -⟩ | hv <;> rw [hv] at hr₁ ⊢
    · rw [← visit_seen_irrel s modemId oc clock seen (fun n h => by rw [ha] at h; cases h), hv]
      exact ⟨hr₁.symm ▸ rfl, rfl⟩
    · cases hr₁
  obtain ⟨st, hr⟩ := exists_of_activeNotif ha
  rw [hr] at ha
  obtain ⟨-, -, hm, hn⟩ := activeNotif_some_iff.mp ha
  have hnm' := hnm st n hr hn hm.symm
  have hseen := visit_unseen_of_survives clock n s seen hok hr ha (by simp [hr₁])
  obtain ⟨heq, hsteady⟩ := visit_steady clock n s hok hr ha hseen hnm' (fun hdl => hkeeps st hr hdl hm.symm) hr₁
  obtain ⟨st₀, hst₀, -, hinc⟩ := (visit_ok_survivor s clock hok hr₁).1
  rw [hr, Option.some.injEq] at hst₀
  subst hst₀
  have ha₁ : activeNotif modemId (some st₁) = some n := by
    rw [heq] at hinc ⊢
    rw [activeNotif_withState hinc, ha]
  rw [← hr₁]
  exact Steady.visit_fixed clock n hok hr₁ ha₁ hnm' hsteady

/-- When every write succeeds, a visit that leaves a RESPONDED record it
reconciles leaves no registry entry for it. -/
theorem visit_responded_entry (s : Slot) {seen : Bool} (hok : oc.storeOk)
    (h : (s.visit modemId oc clock seen).2.2.record = some st)
    (ha : activeNotif modemId (some st) = some n)
    (hresp : st.state = .responded) : (s.visit modemId oc clock seen).2.2.entry = none := by
  obtain ⟨n₀, ha₀, -⟩ := visit_ok_active s clock n hok (h ▸ ha)
  obtain ⟨st₀, hr⟩ := exists_of_activeNotif ha₀
  rw [hr] at ha₀
  rw [visit_active_entry s clock n₀ hok hr ha₀ (visit_unseen_of_survives clock n₀ s seen hok hr ha₀ (by simp [h])),
    h]
  simp [hresp]

/-- A visit that does not mark its transaction leaves an empty entry empty. -/
theorem visit_entry_none (s : Slot) {seen : Bool} (hreg : (s.visit modemId oc clock seen).1 = false)
    (he : s.entry = none) : (s.visit modemId oc clock seen).2.2.entry = none := by
  obtain ⟨clears, hc⟩ := visit_setEntry s modemId oc clock seen
  have h := congrArg (fun r : Bool × Option MNotificationInd × Slot => r.2.2.entry) (hc none)
  simp only [hreg, Bool.false_eq_true, ↓reduceIte, ite_self] at h
  rw [← h, ← he]

end Slot

/-! ### Views a visit leaves as they are -/

namespace View

variable {modemId : String} {v₀ : View} {visited handled : List String} {refed : List MNotificationInd}
  {v : View}

/-- What makes a second visit of a visited UUID leave the view as it is: the
visit keeps the record and the object whatever registry entry it finds, and
the entry of a RESPONDED record's transaction is empty. -/
structure Stable (modemId : String) (oc : String → InitOutcome) (visited : List String) (v : View) :
    Prop where
  fixed : ∀ u ∈ visited, ∀ e,
    ((⟨v.records u, v.object u, e⟩ : Slot).visit modemId (oc u) v.clock false).2.2.record = v.records u ∧
      ((⟨v.records u, v.object u, e⟩ : Slot).visit modemId (oc u) v.clock false).2.2.handler = v.object u
  quiet : ∀ u ∈ visited, ∀ st n, v.records u = some st → activeNotif modemId (some st) = some n →
    st.state = .responded → v.unresponded n.transactionId = none

variable (oc : String → InitOutcome)

/-- One visit of the first pass keeps the view stable, when every write
succeeds and the history service keeps the record if it is DOWNLOADED. -/
theorem Stable.visit (hs : Settled modemId v₀ visited handled refed v)
    (hst : Stable modemId oc visited v)
    {u : String} (hu : u ∉ visited) (hok : (oc u).storeOk)
    (hkeeps : ∀ st, v₀.records u = some st → st.state = .downloaded → st.modemId = modemId →
      (oc u).history.keeps)
    (hnm : ∀ st n, v₀.records u = some st → st.mNotificationInd = some n → st.modemId = modemId →
      n.hasDebugError .receiveHandle = false ∧ n.hasDebugError .respondHandle = false) :
    Stable modemId oc (u :: visited) (v.visit modemId (oc u) u (txOf (v.records u) ∈ handled)).2.2 := by
  have hrec : v.records u = v₀.records u := hs.untouched u hu
  have hne : ∀ x ∈ visited, x ≠ u := fun x hx h => hu (h ▸ hx)
  simp only [View.visit]
  set T := txOf (v.records u)
  set a := v.slot u T
  set seen := decide (T ∈ handled)
  have hrecs : ∀ x, (v.put u T (a.visit modemId (oc u) v.clock seen).2.2).records x =
      if x = u then (a.visit modemId (oc u) v.clock seen).2.2.record else v.records x := by
    simp [Function.update_apply]
  have hobj : ∀ x, (v.put u T (a.visit modemId (oc u) v.clock seen).2.2).object x =
      if x = u then (a.visit modemId (oc u) v.clock seen).2.2.handler else v.object x := by
    simp [object_put, hs.service]
  constructor
  · rintro x (_ | ⟨_, hx⟩) e <;> simp only [hrecs, hobj, put_clock]
    · simpa using Slot.visit_fixed v.clock a seen hok (fun st h => hkeeps st (hrec ▸ h))
        (fun st n h => hnm st n (hrec ▸ h)) e
    · simpa [hne x hx] using hst.fixed x hx e
  · rintro x (_ | ⟨_, hx⟩) st n hst' ha hresp <;> rw [hrecs] at hst'
    · rw [if_pos rfl] at hst'
      obtain ⟨n₀, ha₀, hu⟩ := Slot.visit_ok_active a v.clock n hok (hst' ▸ ha)
      have hT : n.transactionId = T :=
        (MNotificationInd.transactionId_of_unmarked hu).symm.trans (txOf_of_activeNotif ha₀).symm
      simp [hT, Slot.visit_responded_entry v.clock n a hok hst' ha hresp]
    · rw [if_neg (hne x hx)] at hst'
      simp only [put_unresponded, Function.update_apply]
      split
      · rename_i hT
        -- the visit of `u` does not mark `T`: a visited record already had
        have hreg : (a.visit modemId (oc u) v.clock seen).1 = false := by
          rcases Bool.eq_false_or_eq_true (a.visit modemId (oc u) v.clock seen).1 with h | h
          · obtain ⟨m, hm, htx, hnew⟩ := (Slot.visit_registers a modemId (oc u) v.clock seen).mp h
            have hm' : T = m.transactionId := txOf_of_activeNotif hm
            obtain ⟨n₀, hn₀, hu⟩ := hs.active (hst' ▸ ha)
            rw [← MNotificationInd.transactionId_of_unmarked hu] at hT
            have hin := hs.marked x hx n₀ hn₀ (by rw [hT, hm']; exact htx)
            rw [hT] at hin
            simp [seen, hin] at hnew
          · exact h
        have hq : v.unresponded T = none := hT ▸ hst.quiet x hx st n hst' ha hresp
        exact Slot.visit_entry_none v.clock a hreg hq
      · exact hst.quiet x hx st n hst' ha hresp

/-- On a stable, settled view in which every record was visited, a visit
that finds no transaction handled leaves the view as it is. -/
theorem visit_stable (hs : Settled modemId v₀ visited handled refed v)
    (hst : Stable modemId oc visited v)
    (hkeyed : ∀ {u st n}, v₀.records u = some st → st.mNotificationInd = some n → n.uuid = u)
    (hall : ∀ x st, v.records x = some st → x ∈ visited) (hok : ∀ u, (oc u).storeOk) (u : String) :
    (v.visit modemId (oc u) u false).2.2 = v := by
  simp only [View.visit]
  set T := txOf (v.records u) with hT
  conv_rhs => rw [← put_slot v u T]
  congr 1
  rcases hr : v.records u with _ | st
  · -- a visit of nothing changes nothing
    have hr' : (v.slot u T).record = none := hr
    generalize v.slot u T = a at hr' ⊢
    obtain ⟨r, h, e⟩ := a
    subst hr'
    simp [Slot.visit, Slot.destroy]
  have hu := hall u st hr
  obtain ⟨hrec, hobj⟩ := hst.fixed u hu (v.unresponded T)
  have hslot : (v.slot u T).record = some st := hr
  ext : 1
  · exact hrec
  · exact hobj
  · rcases ha : activeNotif modemId (some st) with _ | n
    · exact Slot.visit_inactive_entry _ modemId (oc u) v.clock (hslot ▸ ha) false
    rw [Slot.visit_active_entry (v.slot u T) v.clock n (hok u) hslot ha (.inr rfl)]
    rw [show ((v.slot u T).visit modemId (oc u) v.clock false).2.2.record = some st from hrec.trans hr]
    have hTn : T = n.transactionId := by rw [hT, hr, txOf_of_activeNotif ha]
    by_cases hresp : st.state = .responded
    · simp only [Option.any_some, hresp, bne_self_eq_false, Bool.false_eq_true, ↓reduceIte, slot_entry]
      rw [hTn, hst.quiet u hu st n hr ha hresp]
    · simp only [Option.any_some, bne_iff_ne, ne_eq, hresp, not_false_eq_true, ↓reduceIte, slot_entry]
      by_cases htx : n.transactionId = ""
      · simp [htx]
      · -- the registry names `u` for its transaction
        rw [if_pos htx]
        obtain ⟨n₀, ha₀, hu₀⟩ := hs.active (hr ▸ ha)
        obtain ⟨st₀, hst₀⟩ := exists_of_activeNotif ha₀
        have htx₀ := MNotificationInd.transactionId_of_unmarked hu₀
        rw [hst₀] at ha₀
        rw [← MNotificationInd.uuid_of_unmarked hu₀, hkeyed hst₀ (activeNotif_some_iff.mp ha₀).2.2.2, hTn,
          ← htx₀]
        exact ((hs.registry _ (hs.marked u hu n₀ (hst₀ ▸ ha₀) (htx₀ ▸ htx)) u).mpr
          ⟨hu, st, hr, hresp, n, ha, htx₀.symm⟩).symm

/-- On a stable, settled view in which every record was visited, the pass
over a listing whose records share no non-empty transaction changes
nothing. -/
theorem initializeFrom_stable (hs : Settled modemId v₀ visited handled refed v)
    (hst : Stable modemId oc visited v)
    (hkeyed : ∀ {u st n}, v₀.records u = some st → st.mNotificationInd = some n → n.uuid = u)
    (hall : ∀ x st, v.records x = some st → x ∈ visited) (hok : ∀ u, (oc u).storeOk)
    {us handled' : List String} (hnd : us.Nodup) (hd : Distinct modemId v us handled') :
    (View.initializeFrom modemId oc us handled' v).2 = v := by
  induction us generalizing handled' with
  | nil => rfl
  | cons u us ih =>
      obtain ⟨hu, hnd'⟩ := List.nodup_cons.mp hnd
      have hd' := hd.visit hu (oc u)
      rw [visit_stable oc hs hst hkeyed hall hok u] at hd'
      rw [initializeFrom_cons oc hd]
      dsimp only
      rw [visit_stable oc hs hst hkeyed hall hok u]
      exact ih hnd' hd'

end View

/-! ### The pass run twice -/

/-- A store with `D`, a message of modem `M` downloaded to `c`. -/
def downloadedStore : Store :=
  (Store.empty.file "M" (notificationOf "D")).modify "D"
    (fun st => { st with state := .downloaded, contentLocation := "c" }) (fun _ => rfl)

/-- The world that has just added the service of modem `M` on
`downloadedStore`. -/
def downloadedWorld : World :=
  { World.start downloadedStore 10 with telepathyService := some (MMSService.new "M") }

/-- Every write to the store succeeds; the history service no longer knows
the message. -/
def historyGone : InitOutcome := { initOk with history := .notExists }

/-- A store with `R`, a local test of modem `M` received to `c`, whose
notification asks the acknowledgement to fail. -/
def respondHandleStore : Store :=
  (Store.empty.file "M" { notificationOf "R" with debug := some [.respondHandle] }).modify "R"
    (fun st => { st with state := .received, contentLocation := "c" }) (fun _ => rfl)

end Nuntium.Mediator
