import Mathlib.Logic.Basic

/-!
# The modem's identity watch

`Modem.handleIdentity` and `Modem.Delete` of `ofono/modem.go`: how the modem
turns the SIM's `SubscriberIdentity` values into the `IdentityAdded` and
`IdentityRemoved` messages the mediator loop serves. The modem keeps the
identity it last announced.

* `handleIdentity_removed_empty` — every `IdentityRemoved` that
  `handleIdentity` sends carries the new, empty identity, never the one that
  was removed; `delete_removed` — `Delete` sends the identity it holds.
* `watchIdentity_added_nonempty` — every `IdentityAdded` carries a non-empty
  identity.
-/

namespace Nuntium.Ofono

/-- The part of `ofono.Modem` the identity watch reads and writes. -/
structure Modem where
  identity : String
  deriving DecidableEq, Repr

/-- A message on `IdentityAdded` or `IdentityRemoved`. -/
inductive IdentityEvent where
  | added (identity : String)
  | removed (identity : String)
  deriving DecidableEq, Repr

/-- `Modem.handleIdentity` for the value `identity`: the new modem and the
messages it sent, in order. -/
def handleIdentity (identity : String) (m : Modem) : Modem × List IdentityEvent :=
  let (m, sent) : Modem × List IdentityEvent :=
    if identity = "" ∧ m.identity ≠ "" then (⟨identity⟩, [.removed identity]) else (m, [])
  if identity ≠ "" ∧ m.identity = "" then (⟨identity⟩, sent ++ [.added identity]) else (m, sent)

/-- `Modem.Delete`: the messages it sends. -/
def delete (m : Modem) : List IdentityEvent :=
  if m.identity ≠ "" then [.removed m.identity] else []

/-- `handleIdentity` over a sequence of `SubscriberIdentity` values. -/
def watchIdentity : List String → Modem → Modem × List IdentityEvent
  | [], m => (m, [])
  | identity :: rest, m =>
      let (m, sent) := handleIdentity identity m
      let (m, sent') := watchIdentity rest m
      (m, sent ++ sent')

/-! ### What the messages carry -/

theorem handleIdentity_removed_empty {identity x : String} {m : Modem}
    (h : IdentityEvent.removed x ∈ (handleIdentity identity m).2) : x = "" := by
  unfold handleIdentity at h
  by_cases h₁ : identity = "" ∧ m.identity ≠ "" <;> by_cases h₂ : identity ≠ "" ∧ m.identity = "" <;>
    simp_all

theorem handleIdentity_added_nonempty {identity x : String} {m : Modem}
    (h : IdentityEvent.added x ∈ (handleIdentity identity m).2) : x ≠ "" := by
  unfold handleIdentity at h
  by_cases h₁ : identity = "" ∧ m.identity ≠ "" <;> by_cases h₂ : identity ≠ "" ∧ m.identity = "" <;>
    simp_all

/-- Every `IdentityRemoved` the watch sends names the empty identity. -/
theorem watchIdentity_removed_empty (values : List String) (m : Modem) {x : String}
    (h : IdentityEvent.removed x ∈ (watchIdentity values m).2) : x = "" := by
  induction values generalizing m with
  | nil => simp [watchIdentity] at h
  | cons v rest ih =>
      simp only [watchIdentity, List.mem_append] at h
      exact h.elim handleIdentity_removed_empty (ih _)

/-- The SIM identity `A` appears and goes: the watch announces `A` and then
removes the empty identity, not `A`. -/
theorem watchIdentity_removes_empty :
    watchIdentity ["A", ""] ⟨""⟩ = (⟨""⟩, [.added "A", .removed ""]) := by
  decide

/-- Every `IdentityAdded` the watch sends names a non-empty identity. -/
theorem watchIdentity_added_nonempty (values : List String) (m : Modem) {x : String}
    (h : IdentityEvent.added x ∈ (watchIdentity values m).2) : x ≠ "" := by
  induction values generalizing m with
  | nil => simp [watchIdentity] at h
  | cons v rest ih =>
      simp only [watchIdentity, List.mem_append] at h
      exact h.elim handleIdentity_added_nonempty (ih _)

/-- `Delete` removes the identity the modem holds. -/
theorem delete_removed (m : Modem) (h : m.identity ≠ "") : delete m = [.removed m.identity] := by
  simp [delete, h]

end Nuntium.Ofono
