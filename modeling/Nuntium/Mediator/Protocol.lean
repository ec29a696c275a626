import Nuntium.Telepathy.Methods
import Nuntium.Mediator.Outbound

/-!
# The service, its callers and the mediator

The protocol between the service's callers, its method calls and the
mediator, from `cmd/nuntium/mediator.go` and `telepathy/service.go`. A
`SendMessage` call is queued on `outMessage`; the mediator's loop takes it and
starts `handleOutgoingMessage` on it, which runs beside the loop and the other
submissions: it builds the attachments, answers the call through
`ReplySendMessage` with the path of the new message, and hands the M-Send.req
to the loop on `NewMSendReq`, which starts `handleMSendReq` on it.

A `System` is the loop's world, the service's method state, the submissions
being built, the M-Send.reqs on `NewMSendReq`, and the two values every
service of the process is created with. A `Move` is a step of one party: a
loop event, a method call, the mediator storing the context it activated,
the loop taking a submission, a submission finishing, an M-Send.req handled.
Runs interleave them freely. `IdentityAdded` makes a new service, with a new
`Properties` map; the preferred contexts stay in the storage. A restart of the
process closes its connection, whose pending calls the bus answers itself, so
the runs here are those of one process.

* `handleOutgoingMessage_answers` — a submission whose attachments build is
  answered once, on its own serial; one with an attachment that fails is
  dropped unanswered.
* `replies_conserved` — over every run, for each serial: the replies, plus
  the submissions pending, plus those dropped, are those at the start plus the
  calls made. No call is answered twice or lost, and no reply is made without
  a call.
* `getProperties_answered` — in every state a run reaches, `GetProperties`
  answers the two properties the service was created with and the stored
  preferred context, `/` when none is stored, and nothing else.
* `setProperty_round_trip` — in every state a run reaches, what a
  `SetProperty` of `PreferredContext` answers and what the next
  `GetProperties` answers then.
-/

namespace Nuntium.Mediator

open Storage Telepathy

/-! ### `handleOutgoingMessage` -/

/-- The outcomes of `handleOutgoingMessage`'s external steps: whether
`mms.NewAttachment` can build an attachment from its file, the UUID
`mms.NewMSendReq` draws, and the outcomes of `ReplySendMessage`. -/
structure SubmitOutcome where
  readable : OutAttachment → Bool
  uuid : String
  reply : ReplyOutcome

/-- The attachments loop of `handleOutgoingMessage`: `mms.NewAttachment` of
each in turn, returning at the first that fails. -/
def newAttachments (readable : OutAttachment → Bool) : List OutAttachment → Option (List OutAttachment)
  | [] => some []
  | att :: atts => if readable att then (newAttachments readable atts).map (att :: ·) else none

@[simp] theorem newAttachments_isSome (readable : OutAttachment → Bool) (atts : List OutAttachment) :
    (newAttachments readable atts).isSome = atts.all readable := by
  induction atts with
  | nil => rfl
  | cons att atts ih => by_cases h : readable att <;> simp [newAttachments, h, ih]

/-- `handleOutgoingMessage`: the UUID it hands on `NewMSendReq`, if any. The
nil service panics in `ReplySendMessage`, whose send dereferences it. -/
def handleOutgoingMessage (oc : SubmitOutcome) (msg : OutgoingMessage) (w : World) (s : MethodState) :
    Except Panic (World × MethodState × Option String) :=
  match newAttachments oc.readable msg.attachments with
  | none => .ok (w, s, none)
  | some _ =>
      match replySendMessage oc.reply msg.reply oc.uuid w s with
      | none => .error (.nilTelepathyService "ReplySendMessage")
      | some (w, s, .ok _) => .ok (w, s, some oc.uuid)
      | some (w, s, .error _) => .ok (w, s, none)

theorem replySendMessage_answers {oc : ReplyOutcome} {reply : Nat} {uuid : String} {w w' : World}
    {s s' : MethodState} {res : Except ServiceError String}
    (h : replySendMessage oc reply uuid w s = some (w', s', res)) :
    s' = s.send (.methodReturn reply [.value (.objectPath (genMessagePath w.telepathyService uuid))]) := by
  unfold replySendMessage at h
  rcases hsvc : w.telepathyService with _ | svc <;> rw [hsvc] at h
  · cases h
  · simp only [Option.map_some', Option.some.injEq] at h
    split at h <;> cases h <;> rfl

/-- A submission whose attachments build is answered once, on its own serial,
with the path of the new message under the live service; one with an
attachment that fails is dropped with nothing answered. -/
theorem handleOutgoingMessage_answers {oc : SubmitOutcome} {msg : OutgoingMessage} {w w' : World}
    {s s' : MethodState} {uuid : Option String}
    (h : handleOutgoingMessage oc msg w s = .ok (w', s', uuid)) :
    if msg.attachments.all oc.readable then
      s' = s.send (.methodReturn msg.reply [.value (.objectPath (genMessagePath w.telepathyService oc.uuid))])
    else s' = s ∧ w' = w ∧ uuid = none := by
  unfold handleOutgoingMessage at h
  have hsome := newAttachments_isSome oc.readable msg.attachments
  split at h
  · rename_i hnone
    rw [hnone] at hsome
    cases h
    simp [← hsome]
  · rename_i hsome'
    rw [hsome'] at hsome
    rw [if_pos (by simpa using hsome.symm)]
    split at h <;> cases h <;> exact replySendMessage_answers ‹_›

/-! ### The protocol -/

/-- The parties of the protocol: the loop's world, the service's method state,
the `handleOutgoingMessage` goroutines started and not finished, the UUIDs of
the M-Send.reqs on `NewMSendReq`, and the modem's object path and the
`useDeliveryReports` flag that `AddService` gives every service. -/
structure System where
  world : World
  methods : MethodState
  submitting : List OutgoingMessage
  sendReqs : List String
  modemObjPath : String
  useDeliveryReports : Bool

/-- A step of one party of the protocol. -/
inductive Move where
  /-- The loop serves an event. -/
  | loop (e : Event)
  /-- The service serves a method call. -/
  | call (oc : CallOutcome) (msg : MethodCall)
  /-- The mediator stores the context it activated: the `SetPreferredContext`
  of `handleMNotificationInd` and of `uploadFile`. The handlers run whole
  elsewhere and do not record it, so it may come at any time. -/
  | storeContext (context : String) (oc : CallOutcome)
  /-- The loop takes the oldest submission on `outMessage` and starts
  `handleOutgoingMessage` on it. -/
  | take
  /-- The `handleOutgoingMessage` of `msg` runs. -/
  | submit (msg : OutgoingMessage) (oc : SubmitOutcome)
  /-- The loop takes the M-Send.req of `uuid` and its `handleMSendReq` runs. -/
  | sendReq (uuid : String) (oc : OutboundOutcome)

/-- Whether an event is a restart of the process. -/
def Event.isRestart : Event → Bool
  | .restart => true
  | _ => false

namespace System

/-- When a party can move: the loop as `Enabled` says, short of a restart; the
service while it is on the bus; the loop takes a submission that was queued,
and a goroutine runs on one that was started. -/
def Enabled (S : System) : Move → Prop
  | .loop e => Mediator.Enabled S.world e ∧ e.isRestart = false
  | .call .. | .storeContext .. => S.world.telepathyService.isSome
  | .take => S.methods.outMessage ≠ []
  | .submit msg _ => msg ∈ S.submitting
  | .sendReq uuid _ => uuid ∈ S.sendReqs

instance (S : System) : (m : Move) → Decidable (S.Enabled m)
  | .loop .. => inferInstanceAs (Decidable (_ ∧ _))
  | .call .. | .storeContext .. => inferInstanceAs (Decidable (_ = _))
  | .take => inferInstanceAs (Decidable (_ ≠ _))
  | .submit .. => inferInstanceAs (Decidable (_ ∈ _))
  | .sendReq .. => inferInstanceAs (Decidable (_ ∈ _))

/-- The method state after a loop event: on `IdentityAdded`, `NewMMSService`
builds the new service's `Properties` map. -/
def methodsAfter (S : System) : Event → MethodState
  | .identityAdded .. =>
      { S.methods with properties := serviceProperties S.modemObjPath S.useDeliveryReports }
  | _ => S.methods

/-- One move; a panic of the loop or of a goroutine ends the process. -/
def step (S : System) : Move → Except Panic System
  | .loop e =>
      match Mediator.step S.world e with
      | .ok w => .ok { S with world := w, methods := S.methodsAfter e }
      | .error p => .error p
  | .call oc msg => .ok { S with methods := serveMethodCall oc S.world.identity msg S.methods }
  | .storeContext context oc =>
      .ok { S with methods := (setPreferredContext oc S.world.identity context S.methods).1 }
  | .take =>
      match S.methods.outMessage with
      | [] => .ok S
      | msg :: rest => .ok { S with methods := { S.methods with outMessage := rest },
                                    submitting := S.submitting ++ [msg] }
  | .submit msg oc =>
      match handleOutgoingMessage oc msg S.world S.methods with
      | .ok (w, s, uuid) =>
          .ok { S with world := w, methods := s, submitting := S.submitting.erase msg,
                       sendReqs := S.sendReqs ++ uuid.toList }
      | .error p => .error p
  | .sendReq uuid oc =>
      match handleMSendReq oc uuid S.world with
      | .ok w => .ok { S with world := w, sendReqs := S.sendReqs.erase uuid }
      | .error p => .error p

/-- Run a sequence of moves; the first panic ends the run. -/
def run (S : System) : List Move → Except Panic System
  | [] => .ok S
  | m :: ms =>
      match S.step m with
      | .ok S' => S'.run ms
      | .error p => .error p

/-- Every move of `ms` is enabled when it comes. -/
def RunEnabled (S : System) : List Move → Prop
  | [] => True
  | m :: ms =>
      S.Enabled m ∧ match S.step m with
        | .ok S' => S'.RunEnabled ms
        | .error _ => True

instance decRunEnabled : (S : System) → (ms : List Move) → Decidable (S.RunEnabled ms)
  | _, [] => isTrue trivial
  | S, m :: ms =>
      match h : S.step m with
      | .ok S' =>
          have := decRunEnabled S' ms
          decidable_of_iff (S.Enabled m ∧ S'.RunEnabled ms) (by simp [RunEnabled, h])
      | .error _ => decidable_of_iff (S.Enabled m) (by simp [RunEnabled, h])

/-! ### Replies -/

/-- The replies to serial `r` handed to the bus. -/
def replies (r : Nat) (S : System) : Nat := answers r S.methods.sent

/-- The submissions of serial `r` not yet finished: queued on `outMessage` or
being built. -/
def pending (r : Nat) (S : System) : Nat := queued r S.methods.outMessage + queued r S.submitting

end System

/-- Whether a move is a call of serial `r`. -/
def Move.calls (r : Nat) : Move → Bool
  | .call _ msg => msg.serial == r
  | _ => false

/-- Whether a move drops a submission of serial `r` unanswered: one of its
attachments fails to build. -/
def Move.drops (r : Nat) : Move → Bool
  | .submit msg oc => msg.reply == r && !msg.attachments.all oc.readable
  | _ => false

namespace System

/-! ### Frames -/

@[simp] theorem methodsAfter_sent (S : System) (e : Event) : (S.methodsAfter e).sent = S.methods.sent := by
  cases e <;> rfl

@[simp] theorem methodsAfter_outMessage (S : System) (e : Event) :
    (S.methodsAfter e).outMessage = S.methods.outMessage := by
  cases e <;> rfl

theorem handleOutgoingMessage_properties {oc : SubmitOutcome} {msg : OutgoingMessage} {w w' : World}
    {s s' : MethodState} {uuid : Option String}
    (h : handleOutgoingMessage oc msg w s = .ok (w', s', uuid)) : s'.properties = s.properties := by
  have ha := handleOutgoingMessage_answers h
  split_ifs at ha
  · rw [ha]; rfl
  · rw [ha.1]

theorem queued_erase {q : List OutgoingMessage} {msg : OutgoingMessage} (h : msg ∈ q) (r : Nat) :
    queued r (q.erase msg) + (if msg.reply = r then 1 else 0) = queued r q := by
  rw [queued, queued, (List.perm_cons_erase h).countP_eq, List.countP_cons]
  simp only [beq_iff_eq]

/-! ### Replies -/

theorem step_replies {S S' : System} {m : Move} (he : S.Enabled m) (hs : S.step m = .ok S') (r : Nat) :
    replies r S' + pending r S' + (if m.drops r then 1 else 0) =
      replies r S + pending r S + if m.calls r then 1 else 0 := by
  cases m with
  | loop e =>
      simp only [step] at hs
      split at hs <;> cases hs
      simp [replies, pending, Move.drops, Move.calls]
  | call oc msg =>
      cases hs
      have := serveMethodCall_answers oc S.world.identity msg S.methods r
      simp only [replies, pending, Move.drops, Move.calls, beq_iff_eq, Bool.false_eq_true, ite_false]
        at this ⊢
      omega
  | storeContext context oc =>
      cases hs
      obtain ⟨h₁, h₂⟩ := setPreferredContext_answers oc S.world.identity context S.methods r
      simp [replies, pending, Move.drops, Move.calls, h₁, h₂]
  | take =>
      simp only [step] at hs
      split at hs <;> cases hs
      · rfl
      · rename_i msg rest hq
        simp only [replies, pending, queued, List.countP_append, List.countP_cons, List.countP_nil,
          beq_iff_eq, Nat.zero_add, Move.drops, Bool.false_eq_true, ↓reduceIte, Nat.add_zero, hq, Move.calls,
          Nat.add_left_cancel_iff]
        omega
  | submit msg oc =>
      simp only [step] at hs
      split at hs
      · rename_i w s uuid hh
        cases hs
        have hq := queued_erase he r
        have ha := handleOutgoingMessage_answers hh
        simp only [replies, pending, Move.drops, Move.calls, beq_iff_eq, Bool.and_eq_true,
          Bool.not_eq_true'] at hq ⊢
        split_ifs at ha with hall
        · subst ha
          simp only [answers_send, BusMessage.replySerial?, Option.some.injEq, send_outMessage, hall,
            Bool.true_eq_false, and_false, ↓reduceIte, Nat.add_zero, Bool.false_eq_true]
          omega
        · obtain ⟨rfl, -, -⟩ := ha
          simp only [hall, and_true, Bool.false_eq_true, ↓reduceIte, Nat.add_zero]
          omega
      · cases hs
  | sendReq uuid oc =>
      simp only [step] at hs
      split at hs <;> cases hs
      rfl

/-- Over every run of the protocol, for each serial `r`: the replies to `r`
handed to the bus, plus its submissions pending, plus those the run dropped
for an attachment, are those at the start plus the calls of serial `r` the
run made. So no call is answered twice or lost, and no reply is made without
a call; a call whose attachment fails is never answered. -/
theorem replies_conserved {S S' : System} {ms : List Move} (he : S.RunEnabled ms)
    (hrun : S.run ms = .ok S') (r : Nat) :
    replies r S' + pending r S' + ms.countP (Move.drops r) =
      replies r S + pending r S + ms.countP (Move.calls r) := by
  induction ms generalizing S with
  | nil => cases hrun; rfl
  | cons m ms ih =>
      simp only [run] at hrun
      simp only [RunEnabled] at he
      split at hrun
      · rename_i S₁ hs
        rw [hs] at he
        have h₁ := step_replies he.1 hs r
        have h₂ := ih he.2 hrun
        simp only [List.countP_cons]
        omega
      · cases hrun

/-- A process on an empty store, before its service comes up. -/
def idleSystem : System :=
  ⟨World.start Store.empty 0, ⟨serviceProperties "/ril_0" false, fun _ => none, [], []⟩, [], [],
    "/ril_0", false⟩

/-- The attachment of the submission below. -/
def noteAttachment : OutAttachment := ⟨"a", "text/plain", "/tmp/a"⟩

/-- The service of `id` comes up; serial 1 submits a message, which the loop
takes and whose attachment builds. -/
def submitRun : List Move :=
  [.loop (.identityAdded "id" [] fun _ => initOk),
    .call ⟨true, true, true⟩ ⟨1, MMS_SERVICE_DBUS_IFACE, "SendMessage", servicePath "id",
      [.strs ["+15551234"], .outAttachments [noteAttachment]]⟩,
    .take,
    .submit ⟨["+15551234"], [noteAttachment], 1⟩ ⟨fun _ => true, "U", ⟨true, true, []⟩⟩]

/-- The submission is answered once. -/
theorem replies_conserved_submitted :
    ∃ S', idleSystem.RunEnabled submitRun ∧ idleSystem.run submitRun = .ok S' ∧
      replies 1 S' = 1 ∧ pending 1 S' = 0 ∧
      replies 1 S' + pending 1 S' + submitRun.countP (Move.drops 1) =
        replies 1 idleSystem + pending 1 idleSystem + submitRun.countP (Move.calls 1) :=
  ⟨_, by decide, rfl, rfl, rfl, @replies_conserved idleSystem _ submitRun (by decide) rfl 1⟩

/-! ### Properties -/

/-- The invariant of the service's map: the two values of the process, and
the map's shape for them. -/
structure Shaped (modemObjPath : String) (useDeliveryReports : Bool) (S : System) : Prop where
  modemObjPath_eq : S.modemObjPath = modemObjPath
  useDeliveryReports_eq : S.useDeliveryReports = useDeliveryReports
  shape : PropertiesShape modemObjPath useDeliveryReports S.methods.properties

section Shaped

variable {modemObjPath : String} {useDeliveryReports : Bool}

theorem Shaped.methodsAfter {S : System} (h : Shaped modemObjPath useDeliveryReports S) (e : Event) :
    PropertiesShape modemObjPath useDeliveryReports (S.methodsAfter e).properties := by
  cases e
  case identityAdded => rw [System.methodsAfter, ← h.modemObjPath_eq, ← h.useDeliveryReports_eq]; exact .new _ _
  all_goals exact h.shape

theorem step_shaped {S S' : System} {m : Move} (h : Shaped modemObjPath useDeliveryReports S)
    (hs : S.step m = .ok S') : Shaped modemObjPath useDeliveryReports S' := by
  obtain ⟨h₁, h₂, h₃⟩ := h
  cases m with
  | loop e =>
      simp only [step] at hs
      split at hs <;> cases hs
      exact ⟨h₁, h₂, Shaped.methodsAfter ⟨h₁, h₂, h₃⟩ e⟩
  | call oc msg => cases hs; exact ⟨h₁, h₂, h₃.serveMethodCall ..⟩
  | storeContext context oc =>
      cases hs; exact ⟨h₁, h₂, (setPreferredContext_properties ..).symm ▸ h₃⟩
  | take =>
      simp only [step] at hs
      split at hs <;> cases hs <;> exact ⟨h₁, h₂, h₃⟩
  | submit msg oc =>
      simp only [step] at hs
      split at hs
      · cases hs; exact ⟨h₁, h₂, (handleOutgoingMessage_properties ‹_›).symm ▸ h₃⟩
      · cases hs
  | sendReq uuid oc =>
      simp only [step] at hs
      split at hs <;> cases hs
      exact ⟨h₁, h₂, h₃⟩

theorem run_shaped {S S' : System} {ms : List Move} (h : Shaped modemObjPath useDeliveryReports S)
    (hrun : S.run ms = .ok S') : Shaped modemObjPath useDeliveryReports S' := by
  induction ms generalizing S with
  | nil => cases hrun; exact h
  | cons m ms ih =>
      simp only [run] at hrun
      split at hrun
      · exact ih (step_shaped h ‹_›) hrun
      · cases hrun

end Shaped

/-- In every state a run reaches from a process whose service's map has its
shape, whatever calls, submissions, context writes and loop events the run
interleaves: `GetProperties` answers the two properties the service was
created with and the stored preferred context of the live identity, `/` when
none is stored, and nothing else. -/
theorem getProperties_answered {S S' : System} {ms : List Move}
    (h : PropertiesShape S.modemObjPath S.useDeliveryReports S.methods.properties)
    (hrun : S.run ms = .ok S') (oc : CallOutcome) (msg : MethodCall)
    (hi : msg.interface = MMS_SERVICE_DBUS_IFACE) (hm : msg.member = "GetProperties")
    (ha : oc.appended = true) :
    ∃ props, (serveMethodCall oc S'.world.identity msg S'.methods).sent =
        .methodReturn msg.serial [.properties props] :: S'.methods.sent ∧
      PropertiesShape S.modemObjPath S.useDeliveryReports props ∧
      props.lookup preferredContextProperty =
        some (.objectPath ((S'.methods.preferred S'.world.identity).getD "/")) :=
  getProperties_reply (run_shaped ⟨rfl, rfl, h⟩ hrun).shape oc _ msg hi hm ha

/-- A `GetProperties` call. -/
def getPropertiesCall : MethodCall := ⟨3, MMS_SERVICE_DBUS_IFACE, "GetProperties", servicePath "id", []⟩

/-- The service of `id` comes up and serial 2 sets the preferred context to
`/bad`, whose storage write fails. -/
def failedSetRun : List Move :=
  [.loop (.identityAdded "id" [] fun _ => initOk),
    .call ⟨true, false, true⟩ ⟨2, MMS_SERVICE_DBUS_IFACE, "SetProperty", servicePath "id",
      [.str preferredContextProperty, .variant (.objectPath "/bad")]⟩]

/-- The context whose write failed is not answered. -/
theorem getProperties_answered_failedSet :
    ∃ S' props, idleSystem.run failedSetRun = .ok S' ∧
      (serveMethodCall ⟨true, true, true⟩ S'.world.identity getPropertiesCall S'.methods).sent =
        .methodReturn 3 [.properties props] :: S'.methods.sent ∧
      PropertiesShape "/ril_0" false props ∧
      props.lookup preferredContextProperty = some (.objectPath "/") := by
  obtain ⟨props, h₁, h₂, h₃⟩ := @getProperties_answered idleSystem _ failedSetRun (.new _ _) rfl
    ⟨true, true, true⟩ getPropertiesCall rfl rfl rfl
  exact ⟨_, props, rfl, h₁, h₂, h₃⟩

/-- After a `SetProperty` of `PreferredContext` to `v`, in every state a run
reaches from a process whose service's map has its shape: the call is
answered with an error exactly when the storage write or the
`PropertyChanged` send failed, and the next `GetProperties` answers `v`'s
text whenever the write succeeded, also when the reply was an error. When no
context was stored and `v` reads as `""`, the write is skipped: the call
succeeds and `GetProperties` still answers `/`. -/
theorem setProperty_round_trip {S S' : System} {ms : List Move}
    (h : PropertiesShape S.modemObjPath S.useDeliveryReports S.methods.properties)
    (hrun : S.run ms = .ok S') (oc oc' : CallOutcome) (v : BusValue) (set get : MethodCall)
    (hsi : set.interface = MMS_SERVICE_DBUS_IFACE) (hsm : set.member = "SetProperty")
    (hsa : set.args = [.str preferredContextProperty, .variant v])
    (hgi : get.interface = MMS_SERVICE_DBUS_IFACE) (hgm : get.member = "GetProperties")
    (ha : oc'.appended = true) :
    let id := S'.world.identity
    let skip := S'.methods.preferred id = none ∧ v.reflectString = ""
    (serveMethodCall oc id set S'.methods).sent.head? =
        some (if skip ∨ oc.stored ∧ oc.signalSent then .methodReturn set.serial []
          else .error set.serial InvalidArguments (if oc.stored then .send else .storage)) ∧
      ∃ props, (serveMethodCall oc' id get (serveMethodCall oc id set S'.methods)).sent.head? =
          some (.methodReturn get.serial [.properties props]) ∧
        PropertiesShape S.modemObjPath S.useDeliveryReports props ∧
        props.lookup preferredContextProperty = some (.objectPath (if skip then "/"
          else if oc.stored then v.reflectString else (S'.methods.preferred id).getD "/")) :=
  setProperty_getProperties (run_shaped ⟨rfl, rfl, h⟩ hrun).shape oc oc' _ v set get hsi hsm hsa
    hgi hgm ha

/-- A call setting the preferred context to `/ctx`. -/
def setContextCall : MethodCall :=
  ⟨2, MMS_SERVICE_DBUS_IFACE, "SetProperty", servicePath "id",
    [.str preferredContextProperty, .variant (.objectPath "/ctx")]⟩

/-- After the submission, the context set is answered back. -/
theorem setProperty_round_trip_submitted :
    ∃ S' props, idleSystem.run submitRun = .ok S' ∧
      (serveMethodCall ⟨true, true, true⟩ S'.world.identity setContextCall S'.methods).sent.head? =
        some (.methodReturn 2 []) ∧
      (serveMethodCall ⟨true, true, true⟩ S'.world.identity getPropertiesCall
          (serveMethodCall ⟨true, true, true⟩ S'.world.identity setContextCall S'.methods)).sent.head? =
        some (.methodReturn 3 [.properties props]) ∧
      PropertiesShape "/ril_0" false props ∧
      props.lookup preferredContextProperty = some (.objectPath "/ctx") := by
  obtain ⟨h₁, props, h₂, h₃, h₄⟩ := @setProperty_round_trip idleSystem _ submitRun (.new _ _) rfl
    ⟨true, true, true⟩ ⟨true, true, true⟩ (.objectPath "/ctx") setContextCall getPropertiesCall
    rfl rfl rfl rfl rfl rfl
  exact ⟨_, props, rfl, h₁.trans (by decide), h₂, h₃, h₄.trans (by decide)⟩

end System

end Nuntium.Mediator
