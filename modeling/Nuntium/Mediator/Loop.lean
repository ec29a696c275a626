import Nuntium.Mediator.Startup

/-!
# The mediator loop

`Mediator.init` of `cmd/nuntium/mediator.go` as a step function over the
world, together with the goroutines the loop talks to: the push handler, the
handlers it spawns, the service's Delete and Redownload watchers, and a
restart of the process.

An event is one input the loop serves, with the outcomes of the external
steps its handler takes. A handler runs whole when the loop hands it a
pending notification; pending notifications may be handled in any order, as
the spawned goroutines may take `contextLock` in any order. A step that
dereferences the nil service panics, which ends the process. A restart keeps
only the store (and the clock and the histories of what was sent).

`Reachable` is the set of worlds a process reaches from a store it finds on
disk, by enabled steps.

* `handleMNotificationInd_panics_iff` — a handler panics exactly when the loop
  has no service and the notification is not a local test.
-/

namespace Nuntium.Mediator

open Storage Telepathy

/-- The inputs of the mediator loop and of the goroutines around it. -/
inductive Event where
  /-- A push arrives that decodes to `n`, with the fresh UUID
  `NewMNotificationInd` generated; `created` is the outcome of `Create`. -/
  | push (n : MNotificationInd) (created : Bool)
  /-- The loop takes the `i`-th pending notification and its handler runs. -/
  | handle (i : Nat) (oc : InboundOutcome)
  /-- The user calls Delete on the message object at `path`. -/
  | delete (path : String) (oc : RemoveOutcome)
  /-- The user calls Redownload on the message object at `path`; `uuid` is
  the fresh UUID `GenUUID` gives. -/
  | redownload (path uuid : String) (created : Bool) (oc : RemoveOutcome)
  /-- `IdentityAdded`: `AddService`, then `initializeMessages` over `uuids`,
  the listing of `GetStoredUUIDs`. -/
  | identityAdded (id : String) (uuids : List String) (oc : String → InitOutcome)
  /-- `IdentityRemoved`: `RemoveService`. -/
  | identityRemoved (id : String)
  /-- `PushInterfaceAvailable`: register or unregister the push agent. -/
  | pushInterfaceAvailable (available : Bool)
  /-- Time passes. -/
  | tick (dt : Nat)
  /-- The process ends and starts again. -/
  | restart

/-- A UUID never seen by the world: `mms.GenUUID`'s contract. -/
def Fresh (w : World) (uuid : String) : Prop :=
  IsSegment uuid ∧ w.store.records uuid = none ∧ uuid ∉ w.pending.map (·.uuid) ∧
    uuid ∉ w.uploads

instance (w : World) (uuid : String) : Decidable (Fresh w uuid) := by
  unfold Fresh; infer_instance

/-- When the environment can produce an event. A push comes only to a
registered push agent; a user acts only on an object on the bus, and
Redownload only on one that has the redownload channel; `GetStoredUUIDs`
lists every stored UUID once, in some order. -/
def Enabled (w : World) : Event → Prop
  | .push n _ => w.pushRegistered ∧ Fresh w n.uuid
  | .handle i _ => i < w.pending.length
  | .delete path _ => (w.handlers path).isSome
  | .redownload path uuid _ _ => (w.handlers path).any (·.redownload) ∧ Fresh w uuid
  | .identityAdded _ uuids _ => uuids.Perm w.store.keys
  | _ => True

instance (w : World) : (e : Event) → Decidable (Enabled w e)
  | .push .. => inferInstanceAs (Decidable (_ ∧ _))
  | .handle i _ => inferInstanceAs (Decidable (i < _))
  | .delete .. => inferInstanceAs (Decidable (_ = _))
  | .redownload .. => inferInstanceAs (Decidable (_ ∧ _))
  | .identityAdded _ uuids _ => inferInstanceAs (Decidable (uuids.Perm _))
  | .identityRemoved _ | .pushInterfaceAvailable _ | .tick _ | .restart => isTrue trivial

/-- One step of the loop and the goroutines around it. -/
def step (w : World) : Event → Except Panic World
  | .push n created => .ok (handlePushAgentNotification created n w.identity w)
  | .handle i oc =>
      match w.pending[i]? with
      | some n => handleMNotificationInd oc n { w with pending := w.pending.eraseIdx i }
      | none => .ok w
  | .delete path oc => .ok (watchMessageDeleteCall oc path w)
  | .redownload path uuid created oc => .ok (watchMessageRedownloadCall oc created uuid path w)
  | .identityAdded id uuids oc =>
      .ok (initializeMessages id oc uuids
        { w with telepathyService := some (MMSService.new id), identity := id })
  | .identityRemoved _ => .ok { w with telepathyService := none, identity := "" }
  | .pushInterfaceAvailable available => .ok { w with pushRegistered := available }
  | .tick dt => .ok { w with clock := w.clock + dt }
  | .restart => .ok w.restart

/-- The worlds a process reaches from a store on disk. -/
inductive Reachable : World → Prop where
  | start (store : Store) (clock : Nat) : Reachable (World.start store clock)
  | step {w w' : World} {e : Event} : Reachable w → Enabled w e → step w e = .ok w' →
      Reachable w'

/-- Run a sequence of events; the first panic ends the run. -/
def run (w : World) : List Event → Except Panic World
  | [] => .ok w
  | e :: es =>
      match step w e with
      | .ok w' => run w' es
      | .error p => .error p

/-- Every event of `es` is enabled when it comes. -/
def RunEnabled (w : World) : List Event → Prop
  | [] => True
  | e :: es =>
      Enabled w e ∧ match step w e with
        | .ok w' => RunEnabled w' es
        | .error _ => True

instance decRunEnabled : (w : World) → (es : List Event) → Decidable (RunEnabled w es)
  | _, [] => isTrue trivial
  | w, e :: es =>
      match h : step w e with
      | .ok w' =>
          have := decRunEnabled w' es
          decidable_of_iff (Enabled w e ∧ RunEnabled w' es) (by simp [RunEnabled, h])
      | .error _ => decidable_of_iff (Enabled w e) (by simp [RunEnabled, h])

/-- A run of enabled events from a reachable world ends in a reachable world. -/
theorem Reachable.run {w w' : World} (hw : Reachable w) (es : List Event)
    (henabled : RunEnabled w es) (hrun : run w es = .ok w') : Reachable w' := by
  induction es generalizing w with
  | nil => cases hrun; exact hw
  | cons e es ih =>
      simp only [Mediator.run] at hrun
      simp only [RunEnabled] at henabled
      split at hrun
      · rename_i w₁ hstep
        rw [hstep] at henabled
        exact ih (hw.step henabled.1 hstep) henabled.2 hrun
      · cases hrun

/-! ### Panics -/

/-- The inbound handler panics exactly when the loop has no service, unless the
notification is a local test, which skips the context activation. -/
theorem handleMNotificationInd_panics_iff (oc : InboundOutcome) (n : MNotificationInd)
    (w : World) :
    (∃ p, handleMNotificationInd oc n w = .error p) ↔
      w.telepathyService = none ∧ n.isDebug = false := by
  unfold handleMNotificationInd
  rcases hs : w.telepathyService with _ | svc <;> cases n.isDebug <;> simp [hs]

/-- The push agent is registered before the SIM identity is known, as
`fetchExistingStatus` reports it; a push then reaches a handler while the
service is nil, and the handler panics whatever its steps would do. -/
theorem handler_before_identity_panics :
    ∃ w, Reachable w ∧ w.telepathyService = none ∧
      ∀ oc, Enabled w (.handle 0 oc) ∧ ∃ p, step w (.handle 0 oc) = .error p :=
  ⟨_, Reachable.run (.start Store.empty 10)
    [.pushInterfaceAvailable true, .push ⟨"A", "T", "", "+1", 1, 100, 0, none⟩ true] (by decide) rfl,
    rfl, fun _ => ⟨Nat.one_pos, _, rfl⟩⟩

end Nuntium.Mediator
