import Nuntium.Ofono.Modem
import Nuntium.Ofono.Context

/-!
# The modem's status watch and the loop

`Modem.watchStatus`, `handleOnlineState`, `updatePushInterfaceState` and
`handleIdentity` of `ofono/modem.go`, with the three arms of the mediator loop
that take what the watch sends: `IdentityAdded`, `IdentityRemoved` and
`PushInterfaceAvailable`. The channels are unbuffered: the watch waits on each
send until the loop takes the message, then goes on with the next signal while
the loop serves it. The loop's `PushAgent.Register` or `Unregister` completes
later, and only then does `PushAgent.Registered`, which
`updatePushInterfaceState` reads, change.

`PUSH_NOTIFICATION_INTERFACE` is not among the sources; it is a parameter.
`reflect.Value.Bool` and `Len` panic on a value of another type, and so does
the `.(string)` of an element that is not a string: the watch gives `none`
then. `Init` runs `fetchExistingStatus` beside `watchStatus`, on the same
fields; here the values both read come as one sequence of signals.

* `identities_alternate` — the identity messages the watch sends alternate
  between `IdentityAdded` of a non-empty identity and `IdentityRemoved`; the
  next is an `IdentityAdded` exactly when the modem holds no identity.
* `available_registered` — whenever the watch and the loop are idle, a modem
  whose push interface is available has its push agent registered. The
  converse fails: the agent can stay registered after the interface went.
-/

namespace Nuntium.Ofono

/-! ### The watch -/

/-- The fields of `ofono.Modem` the status watch reads and writes. -/
structure ModemStatus where
  identity : String
  online : Bool
  pushInterfaceAvailable : Bool
  deriving DecidableEq, Repr

/-- A message of the watch to the loop: on `IdentityAdded` or
`IdentityRemoved`, or on `PushInterfaceAvailable`. -/
inductive ModemMessage where
  | identity (e : IdentityEvent)
  | pushInterfaceAvailable (available : Bool)
  deriving DecidableEq, Repr

/-- The identity message a message is, if it is one. -/
def ModemMessage.identity? : ModemMessage → Option IdentityEvent
  | .identity e => some e
  | .pushInterfaceAvailable _ => none

/-- The value a `PushInterfaceAvailable` message carries, if it is one. -/
def ModemMessage.push? : ModemMessage → Option Bool
  | .identity _ => none
  | .pushInterfaceAvailable available => some available

/-- A `PropertyChanged` signal the watch receives, on the modem interface or
on the SIM manager's, as go-dbus decodes it. -/
inductive StatusSignal where
  | modem (name : String) (value : Value)
  | sim (name : String) (value : Value)
  deriving DecidableEq, Repr

section Watch

variable (pushInterface : String)

/-- `Modem.handleOnlineState`. -/
def handleOnlineState (value : Value) (m : ModemStatus) : Option ModemStatus :=
  match value with
  | .bool online => some { m with online }
  | _ => none

/-- The loop of `updatePushInterfaceState` over the `Interfaces` value: whether
it lists the push interface. The empty string has no element to convert. -/
def hasPushInterface : Value → Option Bool
  | .strs l => some (l.any (· == pushInterface))
  | .str s => if s = "" then some false else none
  | _ => none

/-- `Modem.updatePushInterfaceState`: a change to available is sent; a change
to unavailable only while `PushAgent.Registered`. -/
def updatePushInterfaceState (registered : Bool) (value : Value) (m : ModemStatus) :
    Option (ModemStatus × List ModemMessage) :=
  (hasPushInterface pushInterface value).map fun nextState =>
    if m.pushInterfaceAvailable != nextState then
      let m := { m with pushInterfaceAvailable := nextState }
      if nextState then (m, [.pushInterfaceAvailable true])
      else if registered then (m, [.pushInterfaceAvailable false])
      else (m, [])
    else (m, [])

/-- `Modem.handleIdentity` on the status, for the text `reflect` gives of the
value. -/
def ModemStatus.handleIdentity (value : Value) (m : ModemStatus) : ModemStatus × List ModemMessage :=
  let r := Ofono.handleIdentity (PropValue.value value).reflectString ⟨m.identity⟩
  ({ m with identity := r.1.identity }, r.2.map .identity)

/-- One signal served by `Modem.watchStatus`, or by `fetchExistingStatus`,
which reads the same three properties; `registered` is what
`PushAgent.Registered` holds then. -/
def watchStatus (registered : Bool) : StatusSignal → ModemStatus → Option (ModemStatus × List ModemMessage)
  | .modem name value, m =>
      if name = "Interfaces" then updatePushInterfaceState pushInterface registered value m
      else if name = "Online" then (handleOnlineState value m).map (·, [])
      else some (m, [])
  | .sim name value, m =>
      if name = "SubscriberIdentity" then some (m.handleIdentity value) else some (m, [])

end Watch

/-! ### Identities -/

/-- `Alternates b es b'`: the identity messages `es` alternate between
`IdentityAdded` of a non-empty identity and `IdentityRemoved`, the first an
`IdentityAdded` when `b`, and one comes next after them when `b'`. -/
inductive Alternates : Bool → List IdentityEvent → Bool → Prop where
  | nil (b : Bool) : Alternates b [] b
  | added {x : String} {es : List IdentityEvent} {b : Bool} :
      x ≠ "" → Alternates false es b → Alternates true (.added x :: es) b
  | removed {x : String} {es : List IdentityEvent} {b : Bool} :
      Alternates true es b → Alternates false (.removed x :: es) b

theorem Alternates.append {b b' b'' : Bool} {es es' : List IdentityEvent} (h : Alternates b es b')
    (h' : Alternates b' es' b'') : Alternates b (es ++ es') b'' := by
  induction h with
  | nil => exact h'
  | added hx _ ih => exact .added hx (ih h')
  | removed _ ih => exact .removed (ih h')

theorem handleIdentity_alternates (identity : String) (m : Modem) :
    Alternates (m.identity = "") (handleIdentity identity m).2 ((handleIdentity identity m).1.identity = "") := by
  unfold handleIdentity
  by_cases hi : identity = "" <;> by_cases hm : m.identity = ""
  · simp [hi, hm]; exact .nil _
  · simp [hi, hm]; exact .removed (.nil _)
  · simp [hi, hm]; exact .added hi (.nil _)
  · simp [hi, hm]; exact .nil _

/-- The identity messages among `l`. -/
def identities (l : List ModemMessage) : List IdentityEvent := l.filterMap ModemMessage.identity?

@[simp] theorem identities_map (es : List IdentityEvent) : identities (es.map .identity) = es := by
  induction es with
  | nil => rfl
  | cons e es ih => simpa [identities, ModemMessage.identity?] using ih

/-! ### What a signal does -/

section Signals

variable {pushInterface : String} {registered : Bool} {m m' : ModemStatus} {sent : List ModemMessage}

/-- `updatePushInterfaceState` keeps the identity and sends only
`PushInterfaceAvailable`: `true` last when it leaves the interface available,
unless it found it so already and sent nothing. -/
theorem updatePushInterfaceState_spec {value : Value}
    (h : updatePushInterfaceState pushInterface registered value m = some (m', sent)) :
    m'.identity = m.identity ∧ identities sent = [] ∧
      (m'.pushInterfaceAvailable = true →
        (sent.filterMap ModemMessage.push? = [] ∧ m.pushInterfaceAvailable = true) ∨
          sent.filterMap ModemMessage.push? = [true]) := by
  simp only [updatePushInterfaceState, Option.map_eq_some'] at h
  obtain ⟨next, -, h⟩ := h
  split_ifs at h with hc hn <;> cases h
  · exact ⟨rfl, rfl, fun _ => .inr rfl⟩
  · exact ⟨rfl, rfl, fun ha => absurd ha hn⟩
  · exact ⟨rfl, rfl, fun ha => absurd ha hn⟩
  · exact ⟨rfl, rfl, fun ha => .inl ⟨rfl, ha⟩⟩

/-- `handleIdentity` keeps the push state and sends only identity messages,
alternating as `handleIdentity_alternates` says. -/
theorem ModemStatus.handleIdentity_spec (value : Value) (m : ModemStatus) :
    (m.handleIdentity value).1.pushInterfaceAvailable = m.pushInterfaceAvailable ∧
      (m.handleIdentity value).2.filterMap ModemMessage.push? = [] ∧
      Alternates (m.identity = "") (identities (m.handleIdentity value).2)
        ((m.handleIdentity value).1.identity = "") := by
  refine ⟨rfl, by simp [ModemStatus.handleIdentity, ModemMessage.push?], ?_⟩
  simpa [ModemStatus.handleIdentity] using
    handleIdentity_alternates (PropValue.value value).reflectString ⟨m.identity⟩

/-- What one signal can do: keep the identity and the push state and send
nothing, or serve an `Interfaces` or a `SubscriberIdentity` value. -/
theorem watchStatus_cases {s : StatusSignal}
    (h : watchStatus pushInterface registered s m = some (m', sent)) :
    (m'.identity = m.identity ∧ m'.pushInterfaceAvailable = m.pushInterfaceAvailable ∧ sent = []) ∨
      (∃ value, updatePushInterfaceState pushInterface registered value m = some (m', sent)) ∨
      ∃ value, m.handleIdentity value = (m', sent) := by
  cases s with
  | modem name value =>
      simp only [watchStatus] at h
      split_ifs at h
      · exact .inr (.inl ⟨value, h⟩)
      · simp only [handleOnlineState] at h
        split at h <;> simp only [Option.map_some', Option.map_none', Option.some.injEq,
          Prod.mk.injEq, reduceCtorEq] at h
        obtain ⟨rfl, rfl⟩ := h
        exact .inl ⟨rfl, rfl, rfl⟩
      · cases h; exact .inl ⟨rfl, rfl, rfl⟩
  | sim name value =>
      simp only [watchStatus] at h
      split_ifs at h <;> cases h
      · exact .inr (.inr ⟨value, rfl⟩)
      · exact .inl ⟨rfl, rfl, rfl⟩

theorem watchStatus_identities {s : StatusSignal}
    (h : watchStatus pushInterface registered s m = some (m', sent)) :
    Alternates (m.identity = "") (identities sent) (m'.identity = "") := by
  rcases watchStatus_cases h with ⟨hi, -, rfl⟩ | ⟨value, hv⟩ | ⟨value, hv⟩
  · rw [hi]; exact .nil _
  · obtain ⟨hi, hs, -⟩ := updatePushInterfaceState_spec hv
    rw [hi, hs]; exact .nil _
  · simpa [hv] using (m.handleIdentity_spec value).2.2

/-- A signal that leaves the push interface available either sends no
`PushInterfaceAvailable` and found it available, or sends `true` last. -/
theorem watchStatus_push {s : StatusSignal}
    (h : watchStatus pushInterface registered s m = some (m', sent)) (ha : m'.pushInterfaceAvailable = true) :
    (sent.filterMap ModemMessage.push? = [] ∧ m.pushInterfaceAvailable = true) ∨
      sent.filterMap ModemMessage.push? = [true] := by
  rcases watchStatus_cases h with ⟨-, hp, rfl⟩ | ⟨value, hv⟩ | ⟨value, hv⟩
  · exact .inl ⟨rfl, hp ▸ ha⟩
  · exact (updatePushInterfaceState_spec hv).2.2 ha
  · obtain ⟨hp, hs, -⟩ := m.handleIdentity_spec value
    rw [hv] at hp hs
    exact .inl ⟨hs, hp ▸ ha⟩

end Signals

/-! ### The watch and the loop -/

/-- The watch and the loop's side of its channels: the modem's status, the
messages the watch has still to hand over (it waits on the first), the
`PushInterfaceAvailable` value whose `Register` or `Unregister` the loop is
running, `PushAgent.Registered`, and the messages the loop took, oldest first
(ghost). -/
structure Link where
  status : ModemStatus
  outbox : List ModemMessage
  registering : Option Bool
  registered : Bool
  received : List ModemMessage
  deriving DecidableEq, Repr

/-- A step of the watch or of the loop. -/
inductive LinkMove where
  /-- The watch serves a signal. -/
  | signal (s : StatusSignal)
  /-- The loop takes the message the watch waits on; an identity message it
  serves whole (`AddService` or `RemoveService`, then the loop is free). -/
  | receive
  /-- The loop's `Register` or `Unregister` completes. -/
  | register
  deriving DecidableEq, Repr

namespace Link

/-- When a party can move: the watch once its last message was taken, the
loop once it is free and a message waits, the registration while it runs. -/
def Enabled (L : Link) : LinkMove → Prop
  | .signal _ => L.outbox = []
  | .receive => L.outbox ≠ [] ∧ L.registering = none
  | .register => L.registering.isSome

instance (L : Link) : (m : LinkMove) → Decidable (L.Enabled m)
  | .signal _ => inferInstanceAs (Decidable (_ = _))
  | .receive => inferInstanceAs (Decidable (_ ∧ _))
  | .register => inferInstanceAs (Decidable (_ = _))

section Steps

variable (pushInterface : String)

/-- One move; `none` where the watch panics. -/
def step (L : Link) : LinkMove → Option Link
  | .signal s => (watchStatus pushInterface L.registered s L.status).map fun (m, sent) =>
      { L with status := m, outbox := L.outbox ++ sent }
  | .receive =>
      match L.outbox with
      | [] => some L
      | msg :: rest =>
          some { L with outbox := rest, received := L.received ++ [msg],
                        registering := (msg.push?).or L.registering }
  | .register => some { L with registering := none, registered := L.registering.getD L.registered }

/-- Run a sequence of moves; a panic ends the run. -/
def run (L : Link) : List LinkMove → Option Link
  | [] => some L
  | m :: ms => (L.step pushInterface m).bind fun L' => L'.run ms

/-- Every move of `ms` is enabled when it comes. -/
def RunEnabled (L : Link) : List LinkMove → Prop
  | [] => True
  | m :: ms => L.Enabled m ∧ ∀ L', L.step pushInterface m = some L' → L'.RunEnabled ms

instance decRunEnabled : (L : Link) → (ms : List LinkMove) → Decidable (L.RunEnabled pushInterface ms)
  | _, [] => isTrue trivial
  | L, m :: ms =>
      match h : L.step pushInterface m with
      | some L' =>
          have := decRunEnabled L' ms
          decidable_of_iff (L.Enabled m ∧ L'.RunEnabled pushInterface ms) (by simp [RunEnabled, h])
      | none => decidable_of_iff (L.Enabled m) (by simp [RunEnabled, h])

end Steps

end Link

section Identities

variable {pushInterface : String}

/-- The invariant: the identity messages sent so far, taken or not, alternate
from `b`, and the next is an `IdentityAdded` exactly when the modem holds no
identity. -/
def IdentitiesFrom (b : Bool) (L : Link) : Prop :=
  Alternates b (identities (L.received ++ L.outbox)) (L.status.identity = "")

theorem step_identities {b : Bool} {L L' : Link} {m : LinkMove} (h : IdentitiesFrom b L)
    (hs : L.step pushInterface m = some L') : IdentitiesFrom b L' := by
  unfold IdentitiesFrom at h ⊢
  cases m with
  | signal s =>
      simp only [Link.step, Option.map_eq_some'] at hs
      obtain ⟨⟨m', sent⟩, hw, rfl⟩ := hs
      simpa [identities, List.filterMap_append, List.append_assoc] using
        h.append (watchStatus_identities hw)
  | receive =>
      simp only [Link.step] at hs
      split at hs <;> cases hs
      · exact h
      · rename_i hq
        rw [hq] at h
        simpa using h
  | register => cases hs; exact h

theorem run_identities {b : Bool} {L L' : Link} {ms : List LinkMove} (h : IdentitiesFrom b L)
    (hrun : L.run pushInterface ms = some L') : IdentitiesFrom b L' := by
  induction ms generalizing L with
  | nil => cases hrun; exact h
  | cons m ms ih =>
      simp only [Link.run, Option.bind_eq_some] at hrun
      obtain ⟨L₁, hs, hrun⟩ := hrun
      exact ih (step_identities h hs) hrun

/-- The identity messages the watch sends, those the loop took and the one it
waits to hand over, alternate between `IdentityAdded` of a non-empty identity
and `IdentityRemoved`, starting with `IdentityAdded` from a modem with no
identity; the next is an `IdentityAdded` exactly when the modem holds none.
So the loop never makes a service for an identity while one is up. -/
theorem identities_alternate {L L' : Link} {ms : List LinkMove} (hidle : L.received = [] ∧ L.outbox = [])
    (hrun : L.run pushInterface ms = some L') :
    Alternates (L.status.identity = "") (identities (L'.received ++ L'.outbox)) (L'.status.identity = "") := by
  have h₀ : IdentitiesFrom (L.status.identity = "") L := by
    rw [IdentitiesFrom, hidle.1, hidle.2]; exact .nil _
  exact run_identities h₀ hrun

/-- A modem with no identity, its push interface away and its agent not
registered, before any signal. -/
def idleLink : Link := ⟨⟨"", false, false⟩, [], none, false, []⟩

/-- The SIM's identity `A` appears and goes, and the loop takes each message. -/
def identityRun : List LinkMove :=
  [.signal (.sim "SubscriberIdentity" (.str "A")), .receive,
    .signal (.sim "SubscriberIdentity" (.str "")), .receive]

/-- The loop takes an `IdentityAdded` of `A`, then an `IdentityRemoved`. -/
theorem identities_alternate_run :
    ∃ L', idleLink.RunEnabled "Push" identityRun ∧ idleLink.run "Push" identityRun = some L' ∧
      identities L'.received = [.added "A", .removed ""] ∧ L'.outbox = [] ∧
      Alternates (idleLink.status.identity = "") (identities (L'.received ++ L'.outbox))
        (L'.status.identity = "") :=
  ⟨_, by decide, rfl, rfl, rfl, @identities_alternate "Push" idleLink _ identityRun ⟨rfl, rfl⟩ rfl⟩

end Identities


/-! ### The push agent -/

namespace Link

/-- The `PushInterfaceAvailable` values the loop has still to act on: the one
whose registration runs, then those waiting, oldest first. -/
def pipeline (L : Link) : List Bool := L.registering.toList ++ L.outbox.filterMap ModemMessage.push?

/-- What `PushAgent.Registered` holds once the loop has acted on them all. -/
def settles (L : Link) : Bool := L.pipeline.foldl (fun _ v => v) L.registered

/-- The invariant: while the push interface is available, the agent ends up
registered. -/
def AgentFollows (L : Link) : Prop := L.status.pushInterfaceAvailable = true → L.settles = true

end Link

section Agent

variable {pushInterface : String}

theorem step_agentFollows {L L' : Link} {m : LinkMove} (h : L.AgentFollows)
    (hs : L.step pushInterface m = some L') : L'.AgentFollows := by
  unfold Link.AgentFollows Link.settles Link.pipeline at h ⊢
  cases m with
  | signal s =>
      simp only [Link.step, Option.map_eq_some'] at hs
      obtain ⟨⟨m', sent⟩, hw, rfl⟩ := hs
      intro ha
      rcases watchStatus_push hw ha with ⟨hn, ha₀⟩ | hn <;>
        simp only [List.filterMap_append, hn, List.append_nil, List.foldl_append, List.foldl_cons,
          List.foldl_nil] at h ⊢
      exact h ha₀
  | receive =>
      simp only [Link.step] at hs
      split at hs <;> cases hs
      · exact h
      · rename_i msg rest hq
        rw [hq] at h
        cases msg <;> cases hr : L.registering <;> simp_all [ModemMessage.push?]
  | register =>
      cases hs
      cases hr : L.registering <;> simp_all

theorem run_agentFollows {L L' : Link} {ms : List LinkMove} (h : L.AgentFollows)
    (hrun : L.run pushInterface ms = some L') : L'.AgentFollows := by
  induction ms generalizing L with
  | nil => cases hrun; exact h
  | cons m ms ih =>
      simp only [Link.run, Option.bind_eq_some] at hrun
      obtain ⟨L₁, hs, hrun⟩ := hrun
      exact ih (step_agentFollows h hs) hrun

/-- In every run of the watch and the loop from an idle start where an
available push interface has its agent registered: whenever the watch and
the loop are idle again, an available push interface has its agent
registered. -/
theorem available_registered {L L' : Link} {ms : List LinkMove}
    (hstart : L.registering = none ∧ L.outbox = [] ∧
      (L.status.pushInterfaceAvailable = true → L.registered = true))
    (hrun : L.run pushInterface ms = some L') (hidle : L'.registering = none ∧ L'.outbox = []) :
    L'.status.pushInterfaceAvailable = true → L'.registered = true := by
  have h₀ : L.AgentFollows := by
    simpa [Link.AgentFollows, Link.settles, Link.pipeline, hstart.1, hstart.2.1] using hstart.2.2
  have h := run_agentFollows h₀ hrun
  simpa [Link.AgentFollows, Link.settles, Link.pipeline, hidle.1, hidle.2] using h

/-- The push interface appears; while the loop registers the agent, it goes:
the watch reads `PushAgent.Registered` still false and sends nothing, and
the agent stays registered. -/
def raceRun : List LinkMove :=
  [.signal (.modem "Interfaces" (.strs ["Push"])), .receive, .signal (.modem "Interfaces" (.strs [])),
    .register]

/-- The idle end of the race: the agent registered, the interface away. -/
theorem available_registered_race :
    ∃ L', idleLink.RunEnabled "Push" raceRun ∧ idleLink.run "Push" raceRun = some L' ∧
      L'.registering = none ∧ L'.outbox = [] ∧ L'.registered = true ∧
      L'.status.pushInterfaceAvailable = false ∧
      (L'.status.pushInterfaceAvailable = true → L'.registered = true) :=
  ⟨_, by decide, rfl, rfl, rfl, rfl, rfl,
    @available_registered "Push" idleLink _ raceRun ⟨rfl, rfl, by decide⟩ rfl ⟨rfl, rfl⟩⟩

end Agent

end Nuntium.Ofono
