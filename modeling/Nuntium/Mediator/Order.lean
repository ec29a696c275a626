import Nuntium.Mediator.Pass
import Nuntium.Mediator.Consistency

/-!
# The order of the listing

`GetStoredUUIDs` lists the stored UUIDs in an order the pass does not choose.

* `View.visit_comm` — two visits commute unless both mark the same
  transaction;
* `View.initializeFrom_perm` — so the pass over views ends the same for every
  order of a listing whose records share no non-empty transaction;
* `initializeMessages_perm` — the same over worlds;
* `listing_order_matters` — when two records share one, the record listed
  first survives, and the two orders leave different stores.
-/

namespace Nuntium.Mediator

open Storage Telepathy

namespace View

variable (modemId : String)

/-- Two visits commute unless both mark the same transaction. -/
theorem visit_comm {v : View} {u u' : String} (hu : u ≠ u')
    (o o' : InitOutcome)
    (hboth : ¬(((v.slot u (txOf (v.records u))).visit modemId o v.clock false).1 = true ∧
        ((v.slot u' (txOf (v.records u'))).visit modemId o' v.clock false).1 = true ∧
        txOf (v.records u) = txOf (v.records u'))) :
    ((v.visit modemId o u false).2.2.visit modemId o' u' false).2.2 =
      ((v.visit modemId o' u' false).2.2.visit modemId o u false).2.2 := by
  have hra : ∀ s, (v.put u (txOf (v.records u)) s).records u' = v.records u' := fun s => by
    simp [Function.update_noteq hu.symm]
  have hrb : ∀ s, (v.put u' (txOf (v.records u')) s).records u = v.records u := fun s => by
    simp [Function.update_noteq hu]
  simp only [View.visit, hra, hrb, put_clock]
  generalize hT : txOf (v.records u) = T at hboth ⊢
  generalize hT' : txOf (v.records u') = T' at hboth ⊢
  by_cases hTT : T = T'
  swap
  · rw [slot_put_ne _ _ _ _ hu.symm (Ne.symm hTT), slot_put_ne _ _ _ _ hu hTT]
    exact put_comm _ _ _ _ _ hu (.inl hTT)
  subst hTT
  obtain ⟨Wa, hWa, ca⟩ := (v.slot u T).visit_write modemId o v.clock
  obtain ⟨Wb, hWb, cb⟩ := (v.slot u' T).visit_write modemId o' v.clock
  set ra := (v.slot u T).visit modemId o v.clock false
  set rb := (v.slot u' T).visit modemId o' v.clock false
  have hea : ra.2.2.entry = Wa (v.unresponded T) :=
    congrArg (fun r => r.2.2.entry) (hWa (v.unresponded T))
  have heb : rb.2.2.entry = Wb (v.unresponded T) :=
    congrArg (fun r => r.2.2.entry) (hWb (v.unresponded T))
  have htxa : txOf (v.slot u T).record = T := hT
  have htxb : txOf (v.slot u' T).record = T := hT'
  have key : Wb ra.2.2.entry = Wa rb.2.2.entry := by
    rw [hea, heb]
    rcases ca with ⟨hrega, htxa', hWa'⟩ | hWa' | ⟨htxa', hWa'⟩ <;>
      rcases cb with ⟨hregb, htxb', hWb'⟩ | hWb' | ⟨htxb', hWb'⟩
    · exact absurd ⟨hrega, hregb, rfl⟩ hboth
    · simp only [hWb']
    · exact absurd (htxb ▸ htxb') (htxa ▸ htxa')
    · simp only [hWa']
    · simp only [hWa']
    · simp only [hWa']
    · exact absurd (htxa ▸ htxa') (htxb ▸ htxb')
    · simp only [hWb']
    · simp only [hWa', hWb']
  rw [slot_put_of_ne _ _ _ _ hu.symm, slot_put_of_ne _ _ _ _ hu]
  simp only [Function.update_same]
  rw [hWb, hWa, put_put_entry v u T ra.2.2 _ (Wb ra.2.2.entry),
    put_put_entry v u' T rb.2.2 _ (Wa rb.2.2.entry), key]
  exact put_comm _ _ _ _ _ hu (.inr rfl)

variable {modemId} (oc : String → InitOutcome)

@[simp] theorem visit_service_isSome (v : View) (o : InitOutcome) (u : String) (seen : Bool) :
    (v.visit modemId o u seen).2.2.service.isSome = v.service.isSome := by
  simp [View.visit]

@[simp] theorem visit_clock (v : View) (o : InitOutcome) (u : String) (seen : Bool) :
    (v.visit modemId o u seen).2.2.clock = v.clock := rfl

theorem visit_records_ne (v : View) (o : InitOutcome) {u u' : String} (hu : u' ≠ u) (seen : Bool) :
    (v.visit modemId o u seen).2.2.records u' = v.records u' := by
  simp [View.visit, Function.update_noteq hu]

/-- A visit whose transaction was not handled before, unless it is empty,
runs as if nothing was handled. -/
theorem visit_unseen (v : View) (o : InitOutcome) (u : String) (handled : List String)
    (h : ∀ n ∈ activeNotif modemId (v.records u), n.transactionId ∉ handled ∨ n.transactionId = "") :
    v.visit modemId o u (txOf (v.records u) ∈ handled) = v.visit modemId o u false := by
  simp only [View.visit]
  rw [Slot.visit_seen_irrel]
  intro n hn htx
  rw [slot_record] at hn
  rcases h n hn with h' | h'
  · simpa [txOf_of_activeNotif hn] using h'
  · exact absurd h' htx

/-- The listing from `handled` on, with no two records the pass reconciles
sharing a non-empty transaction, and none of theirs handled before. -/
structure Distinct (modemId : String) (v : View) (us handled : List String) : Prop where
  unique : ∀ u ∈ us, ∀ u' ∈ us, u ≠ u' → ∀ n ∈ activeNotif modemId (v.records u),
    ∀ n' ∈ activeNotif modemId (v.records u'), n.transactionId = n'.transactionId → n.transactionId = ""
  fresh : ∀ u ∈ us, ∀ n ∈ activeNotif modemId (v.records u), n.transactionId ∉ handled ∨ n.transactionId = ""

theorem Distinct.perm {v : View} {us us' handled : List String} (hd : Distinct modemId v us handled)
    (hp : us.Perm us') : Distinct modemId v us' handled :=
  ⟨fun u hu u' hu' => hd.unique u (hp.mem_iff.mpr hu) u' (hp.mem_iff.mpr hu'),
    fun u hu => hd.fresh u (hp.mem_iff.mpr hu)⟩

/-- What the pass keeps after one visit: the rest of the listing is as
distinct as before. -/
theorem Distinct.visit {v : View} {u : String} {us handled : List String}
    (hd : Distinct modemId v (u :: us) handled) (hu : u ∉ us) (o : InitOutcome) :
    Distinct modemId (v.visit modemId o u false).2.2 us
      (if (v.visit modemId o u false).1 then txOf (v.records u) :: handled else handled) := by
  have hrec : ∀ u' ∈ us, (v.visit modemId o u false).2.2.records u' = v.records u' :=
    fun u' hu' => visit_records_ne v o (ne_of_mem_of_not_mem hu' hu) false
  constructor
  · intro x hx y hy hxy
    rw [hrec x hx, hrec y hy]
    exact hd.unique x (.tail _ hx) y (.tail _ hy) hxy
  · intro x hx n hn
    rw [hrec x hx] at hn
    rcases hd.fresh x (.tail _ hx) n hn with h | h
    · split
      · rename_i hreg
        obtain ⟨m, hm, hmtx, -⟩ := (Slot.visit_registers _ modemId o v.clock false).mp hreg
        rw [slot_record] at hm
        rw [List.mem_cons, not_or, txOf_of_activeNotif hm]
        by_cases heq : n.transactionId = m.transactionId
        · exact .inr (hd.unique u (.head _) x (.tail _ hx) (ne_of_mem_of_not_mem hx hu).symm m hm n hn heq.symm ▸ heq)
        · exact .inl ⟨heq, h⟩
      · exact .inl h
    · exact .inr h

/-- The pass reads the handled transactions only through membership. -/
theorem initializeFrom_congr (us : List String) {h₁ h₂ : List String} (hh : ∀ t, t ∈ h₁ ↔ t ∈ h₂)
    (v : View) : View.initializeFrom modemId oc us h₁ v = View.initializeFrom modemId oc us h₂ v := by
  induction us generalizing h₁ h₂ v with
  | nil => rfl
  | cons u us ih =>
      have hmem : decide (txOf (v.records u) ∈ h₁) = decide (txOf (v.records u) ∈ h₂) := by simp [hh]
      simp only [View.initializeFrom, hmem]
      split
      · rw [@ih (txOf (v.records u) :: h₁) (txOf (v.records u) :: h₂) (fun t => by simp [hh])]
      · rw [@ih h₁ h₂ hh]

/-- Whether a visit marks its transaction depends on the record alone. -/
theorem visit_fst_congr {v v' : View} (o : InitOutcome) {u : String} (h : v.records u = v'.records u) :
    (v.visit modemId o u false).1 = (v'.visit modemId o u false).1 := by
  rw [Bool.eq_iff_iff]
  simp only [View.visit, Slot.visit_registers, slot_record, h]

/-- One step of the pass on a distinct listing. -/
theorem initializeFrom_cons {u : String} {us handled : List String} {v : View}
    (hd : Distinct modemId v (u :: us) handled) :
    View.initializeFrom modemId oc (u :: us) handled v =
      ((v.visit modemId (oc u) u false).2.1.toList ++
        (View.initializeFrom modemId oc us (if (v.visit modemId (oc u) u false).1 then
          txOf (v.records u) :: handled else handled) (v.visit modemId (oc u) u false).2.2).1,
       (View.initializeFrom modemId oc us (if (v.visit modemId (oc u) u false).1 then
          txOf (v.records u) :: handled else handled) (v.visit modemId (oc u) u false).2.2).2) := by
  rw [View.initializeFrom, visit_unseen v (oc u) u handled (hd.fresh u (.head _))]

/-- When no two records the pass reconciles share a non-empty transaction,
the view after the pass does not depend on the order of the listing. -/
theorem initializeFrom_perm {us us' : List String} (hp : us.Perm us') (hnd : us.Nodup)
    {handled : List String} {v : View} (hd : Distinct modemId v us handled) :
    (View.initializeFrom modemId oc us handled v).2 = (View.initializeFrom modemId oc us' handled v).2 := by
  induction hp generalizing handled v with
  | nil => rfl
  | cons x _ ih =>
      obtain ⟨hx, hnd'⟩ := List.nodup_cons.mp hnd
      rw [initializeFrom_cons oc hd, initializeFrom_cons oc (hd.perm (.cons x ‹_›))]
      exact ih hnd' (hd.visit hx (oc x))
  | swap x y l =>
      obtain ⟨hy, hnd'⟩ := List.nodup_cons.mp hnd
      obtain ⟨hx, -⟩ := List.nodup_cons.mp hnd'
      have hxy : x ≠ y := fun h => hy (h ▸ .head _)
      have hd' : Distinct modemId v (x :: y :: l) handled := hd.perm (.swap x y l)
      have hx' : x ∉ y :: l := by simp [hxy, hx]
      rw [initializeFrom_cons oc hd, initializeFrom_cons oc (hd.visit hy (oc y)),
        initializeFrom_cons oc hd', initializeFrom_cons oc (hd'.visit hx' (oc x))]
      dsimp only
      have hrx : (v.visit modemId (oc y) y false).2.2.records x = v.records x :=
        visit_records_ne v (oc y) hxy false
      have hry : (v.visit modemId (oc x) x false).2.2.records y = v.records y :=
        visit_records_ne v (oc x) hxy.symm false
      rw [visit_fst_congr (oc x) hrx, visit_fst_congr (oc y) hry, hrx, hry]
      have hboth : ¬(((v.slot y (txOf (v.records y))).visit modemId (oc y) v.clock false).1 = true ∧
          ((v.slot x (txOf (v.records x))).visit modemId (oc x) v.clock false).1 = true ∧
          txOf (v.records y) = txOf (v.records x)) := by
        rintro ⟨hregy, hregx, htx⟩
        obtain ⟨ny, hny, hnyt, -⟩ := (Slot.visit_registers _ modemId (oc y) v.clock false).mp hregy
        obtain ⟨nx, hnx, -, -⟩ := (Slot.visit_registers _ modemId (oc x) v.clock false).mp hregx
        rw [slot_record] at hny hnx
        rw [txOf_of_activeNotif hny, txOf_of_activeNotif hnx] at htx
        exact hnyt (hd.unique y (.head _) x (.tail _ (.head _)) hxy.symm ny hny nx hnx htx)
      rw [visit_comm modemId hxy.symm (oc y) (oc x) hboth]
      apply congrArg Prod.snd
      apply initializeFrom_congr
      intro t
      split <;> split <;> simp only [List.mem_cons, or_left_comm]
  | trans hp₁ _ ih₁ ih₂ =>
      exact (ih₁ hnd hd).trans (ih₂ (hp₁.nodup_iff.mp hnd) (hd.perm hp₁))

end View

/-! ### The pass over the world -/

/-- When no two records the pass reconciles for the modem share a non-empty
transaction, the pass leaves the same records, registry and service for every
order in which the stored UUIDs are listed. -/
theorem initializeMessages_perm {w : World} (hsvc : w.telepathyService.isSome) (modemId : String)
    (oc : String → InitOutcome) {uuids uuids' : List String} (h₁ : uuids.Perm w.store.keys)
    (h₂ : uuids'.Perm w.store.keys)
    (hdistinct : ∀ u ∈ uuids, ∀ u' ∈ uuids, u ≠ u' → ∀ n ∈ activeNotif modemId (w.store.records u),
      ∀ n' ∈ activeNotif modemId (w.store.records u'), n.transactionId = n'.transactionId →
        n.transactionId = "") :
    (initializeMessages modemId oc uuids w).store.records =
        (initializeMessages modemId oc uuids' w).store.records ∧
      (initializeMessages modemId oc uuids w).unrespondedTransactions =
        (initializeMessages modemId oc uuids' w).unrespondedTransactions ∧
      (initializeMessages modemId oc uuids w).telepathyService =
        (initializeMessages modemId oc uuids' w).telepathyService := by
  have hv : (initializeMessages modemId oc uuids w).view = (initializeMessages modemId oc uuids' w).view := by
    rw [initializeMessages, initializeMessages, (initializeFrom_view modemId oc uuids [] hsvc).1,
      (initializeFrom_view modemId oc uuids' [] hsvc).1]
    exact View.initializeFrom_perm oc (h₁.trans h₂.symm) (h₁.nodup_iff.mpr w.store.nodup)
      ⟨hdistinct, fun _ _ _ _ => .inl (List.not_mem_nil _)⟩
  exact ⟨congrArg View.records hv, congrArg View.unresponded hv, congrArg View.service hv⟩

/-- A store of modem `M` with an error object `X` of transaction `T` and a
message `Y` of transaction `U`, downloaded to `c`. -/
def twoTransactions : World :=
  { World.start ((Store.empty.file "M" (notificationOf "X")).modify "X"
      (fun st => { st with telepathyErrorNotified := true }) (fun _ => rfl) |>.file "M"
      ⟨"Y", "U", "", "+1", 1, 100, 0, none⟩ |>.modify "Y"
      (fun st => { st with state := .downloaded, contentLocation := "c" }) (fun _ => rfl)) 10 with
    telepathyService := some (MMSService.new "M") }

theorem initializeMessages_perm_two :
    (initializeMessages "M" (fun _ => initOk) ["X", "Y"] twoTransactions).store.records =
        (initializeMessages "M" (fun _ => initOk) ["Y", "X"] twoTransactions).store.records ∧
      (initializeMessages "M" (fun _ => initOk) ["X", "Y"] twoTransactions).unrespondedTransactions =
        (initializeMessages "M" (fun _ => initOk) ["Y", "X"] twoTransactions).unrespondedTransactions ∧
      (initializeMessages "M" (fun _ => initOk) ["X", "Y"] twoTransactions).telepathyService =
        (initializeMessages "M" (fun _ => initOk) ["Y", "X"] twoTransactions).telepathyService :=
  initializeMessages_perm (by rfl) "M" _ (by decide) (by decide) (by decide)

/-- Two records of transaction `T` of modem `M`: an error object `X` whose
notification has not expired, and a message `Y` downloaded to `c`. -/
def sharedTransaction : Store :=
  (Store.empty.file "M" (notificationOf "X")).modify "X"
    (fun st => { st with telepathyErrorNotified := true }) (fun _ => rfl) |>.file "M"
    (notificationOf "Y") |>.modify "Y"
    (fun st => { st with state := .downloaded, contentLocation := "c" }) (fun _ => rfl)

/-- On `sharedTransaction`, the record listed first survives and the pass
destroys the other as a duplicate: the two orders `GetStoredUUIDs` may list
them in leave different stores. -/
theorem listing_order_matters :
    ∃ w w₁ w₂, Reachable w ∧ Enabled w (.identityAdded "M" ["X", "Y"] fun _ => initOk) ∧
      Enabled w (.identityAdded "M" ["Y", "X"] fun _ => initOk) ∧
      step w (.identityAdded "M" ["X", "Y"] fun _ => initOk) = .ok w₁ ∧
      step w (.identityAdded "M" ["Y", "X"] fun _ => initOk) = .ok w₂ ∧
      (w₁.store.records "X").isSome ∧ w₂.store.records "X" = none :=
  ⟨_, _, _, .start sharedTransaction 10, by decide, by decide, rfl, rfl, by decide, by decide⟩

end Nuntium.Mediator
