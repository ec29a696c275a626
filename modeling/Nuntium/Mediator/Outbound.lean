import Nuntium.Mediator.Consistency

/-!
# The outbound path of the mediator

`handleMSendReq`, `sendMSendReq` and `uploadFile` of `cmd/nuntium/mediator.go`.
The M-Send.req of an outgoing message, whose object `ReplySendMessage` put on
the bus under its UUID, is encoded to a send file; the file is uploaded to the
message center under the context lock, and the M-Send.conf that comes back
decides the status pushed on the object, which is then destroyed. The deferred
calls of `sendMSendReq` run last first: the M-Send.conf file is removed, the
object destroyed, the send file removed.

The outcomes of the steps come from an `OutboundOutcome`. `MSendConf.Status`
lives in the `mms` package, not among the sources; it answers nil, a
permanent or a transient error (spec §5). A nil service is dereferenced by the
first call that reads it, which panics.

* `handleMSendReq_statuses` — which outcomes push a status on the object, and
  that it is one of the three.
* `send_request_without_status` — a failed `CreateSendFile`, `Sync` or `Close`
  pushes no status and leaves the object on the bus.
* `sendMSendReq_live` — on a live service `sendMSendReq` pushes one of the
  three statuses, destroys the object and removes both of its files.
* `scratch_files_left` — a failed encoding leaves the send file, and the
  response file of an acknowledgement, on disk.
-/

namespace Nuntium.Mediator

open Storage Telepathy

/-- What `MSendConf.Status` answers (spec §5). -/
inductive SendConfStatus where
  | ok
  | permanent
  | transient
  deriving DecidableEq, Repr

/-- The status `sendMSendReq` pushes for an M-Send.conf status. -/
def SendConfStatus.status : SendConfStatus → String
  | .ok => SENT
  | .permanent => PERMANENT_ERROR
  | .transient => TRANSIENT_ERROR

/-- The outcomes of the steps of `handleMSendReq` and `sendMSendReq`: the send
file's creation, encoding, sync and close; the context activation, the message
center and the upload of `uploadFile`; the M-Send.conf as
`parseMSendConfFile` reads and decodes it; the send of the status. -/
structure OutboundOutcome where
  createSendFile : Bool
  encode : Bool
  sync : Bool
  close : Bool
  activateContext : Bool
  messageCenter : Bool
  upload : Bool
  sendConf : Option SendConfStatus
  statusSent : Bool
  deriving DecidableEq, Repr

/-- `uploadFile`: activate the context, read the message center and upload the
send file of `uuid`; on success the M-Send.conf file the upload returns is on
disk. -/
def uploadFile (oc : OutboundOutcome) (uuid : String) (w : World) : World × Bool :=
  if oc.activateContext && oc.messageCenter && oc.upload then
    ({ w with scratch := w.scratch.insert (.sendConf uuid) }, true)
  else (w, false)

/-- `sendMSendReq`: upload the send file of `uuid` and push the status its
M-Send.conf gives, a transient error when the upload or the decoding fails;
then the deferred calls. `uploadFile` reads the preferred context of the
service first. -/
def sendMSendReq (oc : OutboundOutcome) (uuid : String) (w : World) : Except Panic World :=
  match w.telepathyService with
  | none => .error (.nilTelepathyService "GetPreferredContext")
  | some _ =>
      let (w, uploaded) := uploadFile oc uuid w
      let status := if uploaded then (oc.sendConf.map (·.status)).getD TRANSIENT_ERROR
        else TRANSIENT_ERROR
      match messageStatusChanged oc.statusSent uuid status w with
      | none => .error (.nilTelepathyService "MessageStatusChanged")
      | some (w, _) =>
          let w := if uploaded then { w with scratch := w.scratch.filter (· != .sendConf uuid) }
            else w
          match messageDestroy uuid w with
          | none => .error (.nilTelepathyService "MessageDestroy")
          | some (w, _) => .ok { w with scratch := w.scratch.filter (· != .sendReq uuid) }

/-- `handleMSendReq` followed by the `sendMSendReq` it calls: encode the
M-Send.req of `uuid` to a send file. A failed encoding pushes a permanent
error; a failed creation, sync or close returns with nothing pushed. -/
def handleMSendReq (oc : OutboundOutcome) (uuid : String) (w : World) : Except Panic World :=
  if !oc.createSendFile then .ok w
  else
    let w := { w with scratch := w.scratch.insert (.sendReq uuid) }
    if !oc.encode then
      match messageStatusChanged oc.statusSent uuid PERMANENT_ERROR w with
      | none => .error (.nilTelepathyService "MessageStatusChanged")
      | some (w, _) => .ok w
    else if !(oc.sync && oc.close) then .ok w
    else sendMSendReq oc uuid w

/-! ### Statuses -/

section Statuses

variable {w : World} {svc : MMSService} {uuid : String}

theorem messageStatusChanged_live (hsvc : w.telepathyService = some svc)
    (hh : (svc.messageHandlers (genMessagePath (some svc) uuid)).isSome) (status : String) :
    messageStatusChanged true uuid status w =
      some (w.emit (.statusChanged (genMessagePath (some svc) uuid) status), .ok ()) := by
  obtain ⟨mi, hmi⟩ := Option.isSome_iff_exists.mp hh
  simp [messageStatusChanged, hsvc, hmi]

theorem messageDestroy_live (hsvc : w.telepathyService = some svc)
    (hh : (svc.messageHandlers (genMessagePath (some svc) uuid)).isSome) :
    messageDestroy uuid w = some (w.setHandler (genMessagePath (some svc) uuid) none, .ok ()) := by
  obtain ⟨mi, hmi⟩ := Option.isSome_iff_exists.mp hh
  simp [messageDestroy, hsvc, hmi]

/-- `sendMSendReq` on a live service with the object of `uuid` on the bus:
one status is pushed, the object is destroyed, and neither file is left. -/
theorem sendMSendReq_live (oc : OutboundOutcome) (hsvc : w.telepathyService = some svc)
    (hh : (svc.messageHandlers (genMessagePath (some svc) uuid)).isSome)
    (hsent : oc.statusSent = true) :
    ∃ w' status, sendMSendReq oc uuid w = .ok w' ∧
      (status = SENT ∨ status = PERMANENT_ERROR ∨ status = TRANSIENT_ERROR) ∧
      w'.signals = .statusChanged (genMessagePath (some svc) uuid) status :: w.signals ∧
      w'.handlers (genMessagePath (some svc) uuid) = none ∧
      .sendReq uuid ∉ w'.scratch ∧ (.sendConf uuid ∉ w.scratch → .sendConf uuid ∉ w'.scratch) ∧
      ∀ f, f ≠ .sendReq uuid → f ≠ .sendConf uuid → (f ∈ w'.scratch ↔ f ∈ w.scratch) := by
  obtain ⟨mi, hmi⟩ := Option.isSome_iff_exists.mp hh
  have hobj : ∀ w₁ : World, w₁.telepathyService = some svc →
      (w₁.setHandler (genMessagePath (some svc) uuid) none).handlers
        (genMessagePath (some svc) uuid) = none := fun w₁ h => by
    simp [World.handlers, World.setHandler, h]
  by_cases hup : (oc.activateContext && oc.messageCenter && oc.upload) = true
  · simp only [sendMSendReq, uploadFile, hsvc, hup, ite_true, hsent, messageStatusChanged,
      messageDestroy, hmi, Option.map_some', World.emit]
    refine ⟨_, (oc.sendConf.map (·.status)).getD TRANSIENT_ERROR, rfl, ?_, ?_, ?_, ?_⟩
    · rcases oc.sendConf with _ | (_ | _ | _) <;> simp [SendConfStatus.status]
    · simp [World.setHandler]
    · simp [World.handlers, World.setHandler]
    · simp [World.setHandler, List.mem_filter]
      exact fun f h₁ h₂ => by simp [h₁, h₂]
  · simp only [sendMSendReq, uploadFile, hsvc, hup, ite_false, hsent, messageStatusChanged,
      messageDestroy, hmi, Option.map_some', World.emit, Bool.false_eq_true]
    refine ⟨_, TRANSIENT_ERROR, rfl, .inr (.inr rfl), ?_, ?_, ?_⟩
    · simp [World.setHandler, hmi]
    · simp [World.handlers, World.setHandler, hmi]
    · simp [World.setHandler, List.mem_filter, hmi]
      exact fun f h₁ _ _ => h₁

/-- `handleMSendReq` on a live service with the object of `uuid` on the bus
pushes at most one status, one of the three, and pushes one exactly when the
send file is created and its encoding fails or its sync and close succeed. -/
theorem handleMSendReq_statuses (oc : OutboundOutcome) (hsvc : w.telepathyService = some svc)
    (hh : (svc.messageHandlers (genMessagePath (some svc) uuid)).isSome)
    (hsent : oc.statusSent = true) :
    ∃ (w' : World) (statuses : List String), handleMSendReq oc uuid w = .ok w' ∧
      w'.signals = statuses.map (.statusChanged (genMessagePath (some svc) uuid)) ++ w.signals ∧
      (∀ s ∈ statuses, s = SENT ∨ s = PERMANENT_ERROR ∨ s = TRANSIENT_ERROR) ∧
      statuses.length = if oc.createSendFile && (!oc.encode || oc.sync && oc.close) then 1 else 0 := by
  have hlive : ∀ scratch : List ScratchFile, ({ w with scratch } : World).telepathyService =
      some svc := fun _ => hsvc
  cases hc : oc.createSendFile
  · exact ⟨w, [], by simp [handleMSendReq, hc], by simp, by simp, by simp⟩
  cases he : oc.encode
  · refine ⟨({ w with scratch := w.scratch.insert (.sendReq uuid) } : World).emit
      (.statusChanged (genMessagePath (some svc) uuid) PERMANENT_ERROR), [PERMANENT_ERROR], ?_, rfl,
      by simp, by simp⟩
    simp [handleMSendReq, hc, he, hsent, messageStatusChanged_live (hlive _) hh]
  cases hs : oc.sync && oc.close
  · exact ⟨_, [], by simp [handleMSendReq, hc, he, hs]; rfl, by simp, by simp, by simp [hs]⟩
  obtain ⟨w', status, hw', hstatus, hsig, -⟩ := sendMSendReq_live oc (hlive _) hh hsent
  refine ⟨w', [status], ?_, by simpa using hsig, by simpa using hstatus, by simp [hs]⟩
  simpa [handleMSendReq, hc, he, hs] using hw'

end Statuses

/-- A send file that cannot be created, or that is encoded but fails its sync
or its close, ends `handleMSendReq` with no status pushed: the object of the
message stays on the bus with no status, and the file written is left. -/
theorem send_request_without_status (oc : OutboundOutcome) (uuid : String) (w : World) :
    handleMSendReq { oc with createSendFile := false } uuid w = .ok w ∧
      handleMSendReq { oc with createSendFile := true, encode := true, sync := false } uuid w =
        .ok { w with scratch := w.scratch.insert (.sendReq uuid) } ∧
      handleMSendReq { oc with createSendFile := true, encode := true, close := false } uuid w =
        .ok { w with scratch := w.scratch.insert (.sendReq uuid) } := by
  simp [handleMSendReq]

/-- A failed encoding leaves its file: the send file of `handleMSendReq`
after it pushes the permanent error, and, in a run of the loop, the response
file of an acknowledgement after the handler returns. -/
theorem scratch_files_left :
    (∀ (oc : OutboundOutcome) (uuid : String) (w : World) (svc : MMSService),
      w.telepathyService = some svc →
      ∃ w', handleMSendReq { oc with createSendFile := true, encode := false } uuid w = .ok w' ∧
        .sendReq uuid ∈ w'.scratch) ∧
    ∃ w, Reachable w ∧ .notifyResp "A" ∈ w.scratch := by
  refine ⟨fun oc uuid w svc hsvc => ?_, _, Reachable.run (.start Store.empty 10)
    [.pushInterfaceAvailable true, .identityAdded "id" [] fun _ => initOk,
      .push (notificationOf "A") true,
      .handle 0 { inboundOk with respond := ⟨true, false, true, true, true, true⟩ }]
    (by decide) rfl, by decide⟩
  unfold handleMSendReq messageStatusChanged
  simp only [Bool.not_true, Bool.false_eq_true, ite_false, Bool.not_false, ite_true, hsvc,
    Option.map_some']
  split <;> [split; skip] <;> exact ⟨_, rfl, by simp⟩

end Nuntium.Mediator
