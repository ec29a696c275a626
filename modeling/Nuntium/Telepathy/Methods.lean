import Nuntium.Telepathy.Service

/-!
# The service's method calls

`watchDBusMethodCalls` of `telepathy/service.go` serves the calls made on the
service object `/org/nuntium/mms/<identity>`, one at a time: `GetMessages`,
`GetProperties`, `SetProperty` (through `setProperty` and
`SetPreferredContext`), and `SendMessage`, which it hands to the mediator on
`outMessage` without answering it. `ReplySendMessage` answers a `SendMessage`
later, once the mediator has built its M-Send.req.

The preferred context lives in the `storage` package (outside the sources;
spec §4.A): one path per identity, which `GetPreferredContext` reads and
`SetPreferredContext` writes. A read of an identity with no stored path fails
and gives the zero path `""`, as the Go function's named result does.

A message handed to the bus is recorded whether or not its send succeeds: the
code only logs a failed send of a reply.

* `serveMethodCall_answers` — every call is answered once, on its own serial,
  except a `SendMessage` whose arguments decode, which is queued on
  `outMessage` unanswered (`serveMethodCall_outMessage`).
* `serveMethodCall_properties` — the calls change the `Properties` map only at
  `PreferredContext`.
* `getProperties_reply` — `GetProperties` answers the properties the service
  was created with and the stored preferred context, `/` when there is none,
  never a value a failed `SetProperty` left in the map.
* `setProperty_getProperties` — what `GetProperties` answers after a
  `SetProperty` of `PreferredContext`: the value set, whenever its storage
  write succeeds, even when the reply to `SetProperty` was an error; but when
  nothing was stored and the value reads as `""`, the write is skipped.
* `setProperty_unhandled` — any other property is refused with
  `unhandled property`, and nothing but the reply changes.
-/

namespace Nuntium.Telepathy

/-! ### Values, calls and replies -/

/-- `telepathy.OutAttachment`: an attachment of a message to send. -/
structure OutAttachment where
  id : String
  contentType : String
  filePath : String
  deriving DecidableEq, Repr

/-- A value as go-dbus decodes it. -/
inductive BusValue where
  | str (s : String)
  | objectPath (p : String)
  | bool (b : Bool)
  | strs (l : List String)
  | outAttachments (l : List OutAttachment)
  | variant (v : BusValue)
  deriving DecidableEq, Repr

/-- `reflect.ValueOf(v).String()`: the text of a string or an object path,
`<T Value>` for a value of any other Go type `T`. -/
def BusValue.reflectString : BusValue → String
  | .str s => s
  | .objectPath p => p
  | .bool _ => "<bool Value>"
  | .strs _ => "<[]string Value>"
  | .outAttachments _ => "<[]telepathy.OutAttachment Value>"
  | .variant _ => "<dbus.Variant Value>"

/-- A Go `map[string]dbus.Variant`; the first entry of a name wins. -/
abbrev BusProperties := List (String × BusValue)

/-- `m[name] = value`. -/
def BusProperties.set (m : BusProperties) (name : String) (value : BusValue) : BusProperties :=
  (name, value) :: m.filter (·.1 != name)

@[simp] theorem BusProperties.lookup_set (m : BusProperties) (name key : String) (value : BusValue) :
    (m.set name value).lookup key = if key = name then some value else m.lookup key := by
  unfold BusProperties.set
  by_cases h : key = name
  · subst h; simp [List.lookup_cons]
  · have hne : (key == name) = false := by simpa using h
    simp only [List.lookup_cons, hne, h, if_false]
    induction m with
    | nil => rfl
    | cons p ps ih =>
        obtain ⟨k, v⟩ := p
        by_cases hk : k = name
        · simp [List.filter, hk, List.lookup_cons, hne, ih]
        · have : (k != name) = true := by simpa using hk
          simp only [List.filter, this, List.lookup_cons, ih]

/-- A method call on the service object: its serial, interface, member, the
object path it was sent to, and its arguments. -/
structure MethodCall where
  serial : Nat
  interface : String
  member : String
  path : String
  args : List BusValue
  deriving DecidableEq, Repr

/-- An argument of a reply: a value, the property map of `GetProperties`, or
the payloads of `GetMessages` (a path and properties per message). -/
inductive ReplyArg where
  | value (v : BusValue)
  | properties (props : BusProperties)
  | payloads (l : List (String × BusProperties))
  deriving DecidableEq, Repr

/-- The text of an error reply: one the code writes, or that of an error it
passes on, whose wording is not among the sources: go-dbus failing to decode
the arguments, `storage.SetPreferredContext` failing, the send of
`PropertyChanged` failing. -/
inductive ErrorText where
  | text (s : String)
  | args
  | storage
  | send
  deriving DecidableEq, Repr

/-- A message the service hands to the bus. -/
inductive BusMessage where
  | methodReturn (replySerial : Nat) (args : List ReplyArg)
  | error (replySerial : Nat) (name : String) (text : ErrorText)
  | signal (path iface member : String) (args : List BusValue)
  deriving DecidableEq, Repr

/-- The serial a message answers, if it is a reply. -/
def BusMessage.replySerial? : BusMessage → Option Nat
  | .methodReturn r _ => some r
  | .error r _ _ => some r
  | .signal .. => none

/-- `telepathy.OutgoingMessage`: what `SendMessage` hands to the mediator. Its
`Reply` is the method return of the call, named here by the call's serial. -/
structure OutgoingMessage where
  recipients : List String
  attachments : List OutAttachment
  reply : Nat
  deriving DecidableEq, Repr

/-- What the service's method calls read and write: its `Properties` map, the
preferred contexts the `storage` package keeps by identity, the messages
handed to the bus (newest first) and those sent on `outMessage` (oldest
first). -/
structure MethodState where
  properties : BusProperties
  preferred : String → Option String
  sent : List BusMessage
  outMessage : List OutgoingMessage

/-- Hand a message to the bus. -/
def MethodState.send (s : MethodState) (m : BusMessage) : MethodState := { s with sent := m :: s.sent }

/-- The outcomes of a call's external steps: `AppendArgs` of the reply, the
write of `storage.SetPreferredContext`, and the send of `PropertyChanged`. -/
structure CallOutcome where
  appended : Bool
  stored : Bool
  signalSent : Bool
  deriving DecidableEq, Repr

/-- The names of the service's interface, signal and properties (spec §6; the
Go constants are declared in a file not among the sources). -/
def MMS_SERVICE_DBUS_IFACE : String := "org.nuntium.MMSService"
def propertyChangedSignal : String := "PropertyChanged"
def useDeliveryReportsProperty : String := "UseDeliveryReports"
def modemObjectPathProperty : String := "ModemObjectPath"
def preferredContextProperty : String := "PreferredContext"

/-- The path of the service object, `payload.Path` of `NewMMSService`. -/
def servicePath (identity : String) : String := MMS_DBUS_PATH ++ "/" ++ identity

/-- The `Properties` `NewMMSService` gives a service. -/
def serviceProperties (modemObjPath : String) (useDeliveryReports : Bool) : BusProperties :=
  BusProperties.set (BusProperties.set [] useDeliveryReportsProperty (.bool useDeliveryReports))
    modemObjectPathProperty (.objectPath modemObjPath)

/-! ### The calls -/

/-- `storage.GetPreferredContext(identity)`: the stored path and whether the
read succeeded; a failed read gives the zero path. -/
def getPreferredContext (preferred : String → Option String) (identity : String) : String × Bool :=
  match preferred identity with
  | some pc => (pc, true)
  | none => ("", false)

/-- `MMSService.SetPreferredContext`: store `context` as the identity's
preferred context and announce it with `PropertyChanged`. Its guard, meant to
skip setting the context already stored, returns early only when the read
fails and `context` is the zero path that read gives. -/
def setPreferredContext (oc : CallOutcome) (identity context : String) (s : MethodState) :
    MethodState × Except ErrorText Unit :=
  let (pc, ok) := getPreferredContext s.preferred identity
  if !ok && context == pc then (s, .ok ())
  else if oc.stored then
    let s := { s with preferred := Function.update s.preferred identity (some context) }
    let s := s.send (.signal (servicePath identity) MMS_SERVICE_DBUS_IFACE propertyChangedSignal
      [.str preferredContextProperty, .variant (.objectPath context)])
    (s, if oc.signalSent then .ok () else .error .send)
  else (s, .error .storage)

/-- `MMSService.setProperty`: only `PreferredContext` can be set; the map
entry is written before the storage is. -/
def setProperty (oc : CallOutcome) (identity : String) (args : List BusValue) (s : MethodState) :
    MethodState × Except ErrorText Unit :=
  match args with
  | [.str propertyName, .variant propertyValue] =>
      if propertyName = preferredContextProperty then
        let path := propertyValue.reflectString
        setPreferredContext oc identity path
          { s with properties := s.properties.set preferredContextProperty (.objectPath path) }
      else (s, .error (.text "unhandled property"))
  | _ => (s, .error .args)

/-- The error name of a call with bad arguments. -/
def InvalidArguments : String := "Error.InvalidArguments"

/-- One call served by `watchDBusMethodCalls` for the service of `identity`. -/
def serveMethodCall (oc : CallOutcome) (identity : String) (msg : MethodCall) (s : MethodState) :
    MethodState :=
  if msg.interface ≠ MMS_SERVICE_DBUS_IFACE then
    s.send (.error msg.serial "org.freedesktop.DBus.Error.UnknownInterface"
      (.text ("No such interface \x27" ++ msg.interface ++ "\x27 at object path \x27" ++ msg.path ++
        "\x27")))
  else
    match msg.member with
    | "GetMessages" =>
        s.send (if oc.appended then .methodReturn msg.serial [.payloads []]
          else .error msg.serial InvalidArguments (.text "Cannot parse services"))
    | "GetProperties" =>
        let pc := match getPreferredContext s.preferred identity with
          | (pc, true) => pc
          | (_, false) => "/"
        let s := { s with properties := s.properties.set preferredContextProperty (.objectPath pc) }
        s.send (if oc.appended then .methodReturn msg.serial [.properties s.properties]
          else .error msg.serial InvalidArguments (.text "Cannot parse services"))
    | "SetProperty" =>
        let (s, r) := setProperty oc identity msg.args s
        s.send (match r with
          | .ok () => .methodReturn msg.serial []
          | .error e => .error msg.serial InvalidArguments e)
    | "SendMessage" =>
        match msg.args with
        | [.strs recipients, .outAttachments attachments] =>
            { s with outMessage := s.outMessage ++ [⟨recipients, attachments, msg.serial⟩] }
        | _ => s.send (.error msg.serial InvalidArguments (.text "Cannot parse New Message"))
    | member =>
        s.send (.error msg.serial "org.freedesktop.DBus.Error.UnknownMethod"
          (.text ("No such method \x27" ++ member ++ "\x27 at object path \x27" ++ msg.path ++ "\x27")))

/-- The outcomes of `ReplySendMessage`'s sends: of the reply, and of
`MessageAdded`, whose error it ignores; `payload` is the new object's
`GetPayload` properties (the message interface is not among the sources). -/
structure ReplyOutcome where
  replySent : Bool
  added : Bool
  payload : Properties
  deriving DecidableEq, Repr

/-- `MMSService.ReplySendMessage`: answer the `SendMessage` call `reply` with
the path of the new message `uuid`; once the reply is sent, put an outgoing
object at that path on the bus and announce it. `none` on the nil service,
whose connection the send dereferences. -/
def replySendMessage (oc : ReplyOutcome) (reply : Nat) (uuid : String) (w : World) (s : MethodState) :
    Option (World × MethodState × Except ServiceError String) :=
  w.telepathyService.map fun svc =>
    let path := genMessagePath (some svc) uuid
    let s := s.send (.methodReturn reply [.value (.objectPath path)])
    if oc.replySent then
      ((messageAdded oc.added path oc.payload (w.setHandler path (some ⟨false, .outgoing⟩))).1, s, .ok path)
    else (w, s, .error .bus)

/-! ### Replies -/

/-- The replies to serial `r` among `sent`. -/
def answers (r : Nat) (sent : List BusMessage) : Nat := sent.countP (·.replySerial? == some r)

/-- The messages on `outMessage` that carry the reply to serial `r`. -/
def queued (r : Nat) (q : List OutgoingMessage) : Nat := q.countP (·.reply == r)

@[simp] theorem answers_send (r : Nat) (s : MethodState) (m : BusMessage) :
    answers r (s.send m).sent = answers r s.sent + if m.replySerial? = some r then 1 else 0 := by
  simp [answers, MethodState.send, List.countP_cons]

@[simp] theorem send_outMessage (s : MethodState) (m : BusMessage) : (s.send m).outMessage = s.outMessage :=
  rfl

/-- `SetPreferredContext` answers no call and queues nothing. -/
theorem setPreferredContext_answers (oc : CallOutcome) (identity context : String) (s : MethodState)
    (r : Nat) : answers r (setPreferredContext oc identity context s).1.sent = answers r s.sent ∧
      (setPreferredContext oc identity context s).1.outMessage = s.outMessage := by
  unfold setPreferredContext
  dsimp only
  split_ifs <;> simp [BusMessage.replySerial?]

theorem setProperty_answers (oc : CallOutcome) (identity : String) (args : List BusValue)
    (s : MethodState) (r : Nat) : answers r (setProperty oc identity args s).1.sent = answers r s.sent ∧
      (setProperty oc identity args s).1.outMessage = s.outMessage := by
  unfold setProperty
  split
  · split_ifs
    · exact setPreferredContext_answers oc identity _ _ r
    · exact ⟨rfl, rfl⟩
  · exact ⟨rfl, rfl⟩

/-- A `SendMessage` on the service's interface whose arguments decode. -/
def MethodCall.IsSubmission (msg : MethodCall) : Prop :=
  msg.interface = MMS_SERVICE_DBUS_IFACE ∧ msg.member = "SendMessage" ∧
    ∃ recipients attachments, msg.args = [.strs recipients, .outAttachments attachments]

/-- Each call is answered once or queued once, on its own serial: the replies
and queued submissions of every other serial are left as they were. -/
theorem serveMethodCall_answers (oc : CallOutcome) (identity : String) (msg : MethodCall)
    (s : MethodState) (r : Nat) :
    answers r (serveMethodCall oc identity msg s).sent + queued r (serveMethodCall oc identity msg s).outMessage =
      answers r s.sent + queued r s.outMessage + if msg.serial = r then 1 else 0 := by
  unfold serveMethodCall
  by_cases hi : msg.interface ≠ MMS_SERVICE_DBUS_IFACE
  · rw [if_pos hi]; simp [BusMessage.replySerial?, Nat.add_right_comm]
  rw [if_neg hi]
  split
  · cases oc.appended <;> simp [BusMessage.replySerial?, Nat.add_right_comm]
  · cases oc.appended <;> simp [BusMessage.replySerial?, Nat.add_right_comm]
  · obtain ⟨h₁, h₂⟩ := setProperty_answers oc identity msg.args s r
    generalize setProperty oc identity msg.args s = p at h₁ h₂
    obtain ⟨s', e⟩ := p
    dsimp only at h₁ h₂ ⊢
    cases e <;> simp [h₁, h₂, BusMessage.replySerial?, Nat.add_right_comm]
  · split
    · simp [queued, List.countP_append, Nat.add_assoc, List.countP_cons]
    · simp [BusMessage.replySerial?, Nat.add_right_comm]
  · simp [BusMessage.replySerial?, Nat.add_right_comm]

/-- A call is queued exactly when it is a `SendMessage` whose arguments
decode; it is then not answered. -/
theorem serveMethodCall_outMessage (oc : CallOutcome) (identity : String) (msg : MethodCall)
    (s : MethodState) :
    (msg.IsSubmission → (serveMethodCall oc identity msg s).sent = s.sent ∧
      ∃ recipients attachments, (serveMethodCall oc identity msg s).outMessage =
        s.outMessage ++ [⟨recipients, attachments, msg.serial⟩]) ∧
    (¬msg.IsSubmission → (serveMethodCall oc identity msg s).outMessage = s.outMessage) := by
  refine ⟨fun ⟨hi, hm, recipients, attachments, ha⟩ => ?_, fun hn => ?_⟩
  · simp only [serveMethodCall, hi, ne_eq, not_true_eq_false, ite_false, hm, ha]
    exact ⟨by trivial, _, _, rfl⟩
  · unfold serveMethodCall
    by_cases hi : msg.interface ≠ MMS_SERVICE_DBUS_IFACE
    · rw [if_pos hi]; rfl
    rw [if_neg hi]
    split
    · rfl
    · rfl
    · exact (setProperty_answers oc identity msg.args s 0).2
    · split
      · exact absurd ⟨not_not.mp hi, ‹_›, _, _, ‹_›⟩ hn
      · rfl
    · rfl

/-! ### Properties -/

theorem useDeliveryReports_ne_preferredContext : useDeliveryReportsProperty ≠ preferredContextProperty := by
  decide

theorem modemObjectPath_ne_preferredContext : modemObjectPathProperty ≠ preferredContextProperty := by
  decide

theorem useDeliveryReports_ne_modemObjectPath : useDeliveryReportsProperty ≠ modemObjectPathProperty := by
  decide

/-- The `Properties` map holds the two properties the service was created
with and, besides them, at most `PreferredContext`. -/
structure PropertiesShape (modemObjPath : String) (useDeliveryReports : Bool) (props : BusProperties) :
    Prop where
  useDeliveryReports : props.lookup useDeliveryReportsProperty = some (.bool useDeliveryReports)
  modemObjectPath : props.lookup modemObjectPathProperty = some (.objectPath modemObjPath)
  keys : ∀ p ∈ props, p.1 = useDeliveryReportsProperty ∨ p.1 = modemObjectPathProperty ∨
    p.1 = preferredContextProperty

theorem PropertiesShape.new (modemObjPath : String) (useDeliveryReports : Bool) :
    PropertiesShape modemObjPath useDeliveryReports (serviceProperties modemObjPath useDeliveryReports) := by
  refine ⟨by simp [serviceProperties, useDeliveryReports_ne_modemObjectPath],
    by simp [serviceProperties], ?_⟩
  simp [serviceProperties, BusProperties.set]

theorem PropertiesShape.set {modemObjPath : String} {useDeliveryReports : Bool} {props : BusProperties}
    (h : PropertiesShape modemObjPath useDeliveryReports props) (v : BusValue) :
    PropertiesShape modemObjPath useDeliveryReports (props.set preferredContextProperty v) := by
  refine ⟨by simp [h.useDeliveryReports, useDeliveryReports_ne_preferredContext],
    by simp [h.modemObjectPath, modemObjectPath_ne_preferredContext], ?_⟩
  simp only [BusProperties.set, List.mem_cons, List.mem_filter]
  rintro p (rfl | ⟨hp, -⟩)
  exacts [.inr (.inr rfl), h.keys p hp]

theorem setPreferredContext_properties (oc : CallOutcome) (identity context : String)
    (s : MethodState) : (setPreferredContext oc identity context s).1.properties = s.properties := by
  unfold setPreferredContext
  dsimp only
  split_ifs <;> rfl

theorem setProperty_properties (oc : CallOutcome) (identity : String) (args : List BusValue)
    (s : MethodState) : (setProperty oc identity args s).1.properties = s.properties ∨
      ∃ v, (setProperty oc identity args s).1.properties = s.properties.set preferredContextProperty v := by
  unfold setProperty
  split
  · split_ifs
    · exact .inr ⟨_, setPreferredContext_properties ..⟩
    · exact .inl rfl
  · exact .inl rfl

/-- The calls change the `Properties` map only at `PreferredContext`. -/
theorem serveMethodCall_properties (oc : CallOutcome) (identity : String) (msg : MethodCall)
    (s : MethodState) : (serveMethodCall oc identity msg s).properties = s.properties ∨
      ∃ v, (serveMethodCall oc identity msg s).properties = s.properties.set preferredContextProperty v := by
  unfold serveMethodCall
  by_cases hi : msg.interface ≠ MMS_SERVICE_DBUS_IFACE
  · rw [if_pos hi]; exact .inl rfl
  rw [if_neg hi]
  split
  · exact .inl (by cases oc.appended <;> rfl)
  · exact .inr ⟨_, by cases oc.appended <;> rfl⟩
  · have h := setProperty_properties oc identity msg.args s
    generalize setProperty oc identity msg.args s = p at h
    exact h
  · split <;> exact .inl rfl
  · exact .inl rfl

/-- The calls keep the shape of the map. -/
theorem PropertiesShape.serveMethodCall {modemObjPath : String} {useDeliveryReports : Bool}
    {s : MethodState} (h : PropertiesShape modemObjPath useDeliveryReports s.properties)
    (oc : CallOutcome) (identity : String) (msg : MethodCall) :
    PropertiesShape modemObjPath useDeliveryReports (serveMethodCall oc identity msg s).properties := by
  rcases serveMethodCall_properties oc identity msg s with e | ⟨v, e⟩ <;> rw [e]
  exacts [h, h.set v]

/-- What `GetProperties` answers, when its reply can be built. -/
theorem getProperties_sent (oc : CallOutcome) (identity : String) (msg : MethodCall) (s : MethodState)
    (hi : msg.interface = MMS_SERVICE_DBUS_IFACE) (hm : msg.member = "GetProperties")
    (ha : oc.appended = true) :
    (serveMethodCall oc identity msg s).sent =
      .methodReturn msg.serial [.properties (s.properties.set preferredContextProperty
        (.objectPath ((s.preferred identity).getD "/")))] :: s.sent := by
  simp only [serveMethodCall, hi, ne_eq, not_true_eq_false, ite_false, hm, ha, ite_true]
  unfold getPreferredContext
  rcases s.preferred identity with _ | pc <;> rfl

/-- On a map of the service's shape, `GetProperties` answers the two
properties the service was created with and the stored preferred context,
`/` when none is stored, and nothing else: never a value that a `SetProperty`
whose storage write failed left in the map. -/
theorem getProperties_reply {modemObjPath : String} {useDeliveryReports : Bool} {s : MethodState}
    (h : PropertiesShape modemObjPath useDeliveryReports s.properties) (oc : CallOutcome)
    (identity : String) (msg : MethodCall) (hi : msg.interface = MMS_SERVICE_DBUS_IFACE)
    (hm : msg.member = "GetProperties") (ha : oc.appended = true) :
    ∃ props, (serveMethodCall oc identity msg s).sent = .methodReturn msg.serial [.properties props] :: s.sent ∧
      PropertiesShape modemObjPath useDeliveryReports props ∧
      props.lookup preferredContextProperty = some (.objectPath ((s.preferred identity).getD "/")) :=
  ⟨_, getProperties_sent oc identity msg s hi hm ha, h.set _, by simp⟩

/-- What `SetProperty` of `PreferredContext` stores and answers. The write is
skipped when no context is stored and the value reads as the zero path. -/
theorem setProperty_preferredContext (oc : CallOutcome) (identity : String) (v : BusValue)
    (s : MethodState) :
    let skip := s.preferred identity = none ∧ v.reflectString = ""
    (setProperty oc identity [.str preferredContextProperty, .variant v] s).1.preferred =
        (if skip ∨ oc.stored = false then s.preferred
          else Function.update s.preferred identity (some v.reflectString)) ∧
      (setProperty oc identity [.str preferredContextProperty, .variant v] s).2 =
        (if skip then .ok () else if oc.stored then (if oc.signalSent then .ok () else .error .send)
          else .error .storage) := by
  simp only [setProperty, ite_true, setPreferredContext, getPreferredContext]
  rcases hp : s.preferred identity with _ | pc <;> cases oc.stored <;> cases oc.signalSent <;>
    by_cases hv : v.reflectString = "" <;> simp [hv, MethodState.send]

/-- `SetProperty` of any other property is refused, and changes nothing but
the reply. -/
theorem setProperty_unhandled (oc : CallOutcome) (identity : String) {name : String}
    (hname : name ≠ preferredContextProperty) (v : BusValue) (s : MethodState) :
    setProperty oc identity [.str name, .variant v] s = (s, .error (.text "unhandled property")) := by
  simp [setProperty, hname]

/-- After a `SetProperty` of `PreferredContext` to `v`, on a map of the
service's shape: the call is answered with an error exactly when the storage
write or the `PropertyChanged` send failed, and the next `GetProperties`
answers `v`'s text whenever the write succeeded, also when the reply was an
error. When no context was stored and `v` reads as `""`, the write is
skipped: the call succeeds and `GetProperties` still answers `/`. -/
theorem setProperty_getProperties {modemObjPath : String} {useDeliveryReports : Bool}
    {s : MethodState} (h : PropertiesShape modemObjPath useDeliveryReports s.properties)
    (oc oc' : CallOutcome) (identity : String) (v : BusValue) (set get : MethodCall) (hsi : set.interface = MMS_SERVICE_DBUS_IFACE)
    (hsm : set.member = "SetProperty") (hsa : set.args = [.str preferredContextProperty, .variant v])
    (hgi : get.interface = MMS_SERVICE_DBUS_IFACE) (hgm : get.member = "GetProperties")
    (ha : oc'.appended = true) :
    let skip := s.preferred identity = none ∧ v.reflectString = ""
    (serveMethodCall oc identity set s).sent.head? =
        some (if skip ∨ oc.stored ∧ oc.signalSent then .methodReturn set.serial []
          else .error set.serial InvalidArguments (if oc.stored then .send else .storage)) ∧
      ∃ props, (serveMethodCall oc' identity get (serveMethodCall oc identity set s)).sent.head? =
          some (.methodReturn get.serial [.properties props]) ∧
        PropertiesShape modemObjPath useDeliveryReports props ∧
        props.lookup preferredContextProperty = some (.objectPath
          (if skip then "/" else if oc.stored then v.reflectString else (s.preferred identity).getD "/")) := by
  dsimp only
  obtain ⟨hpref, hreply⟩ := setProperty_preferredContext oc identity v s
  have e₁ : serveMethodCall oc identity set s =
      (setProperty oc identity set.args s).1.send (match (setProperty oc identity set.args s).2 with
        | .ok () => .methodReturn set.serial []
        | .error e => .error set.serial InvalidArguments e) := by
    simp only [serveMethodCall, hsi, ne_eq, not_true_eq_false, ite_false, hsm]
  obtain ⟨props, hsent, hshape, hpc⟩ :=
    getProperties_reply (h.serveMethodCall oc identity set) oc' identity get hgi hgm ha
  refine ⟨?_, props, by rw [hsent]; rfl, hshape, ?_⟩
  · rw [e₁, hsa, hreply]
    by_cases hs : s.preferred identity = none ∧ v.reflectString = "" <;> cases oc.stored <;>
      cases oc.signalSent <;> simp [hs, MethodState.send]
  · rw [hpc, e₁, hsa]
    simp only [MethodState.send, hpref]
    by_cases hs : s.preferred identity = none ∧ v.reflectString = "" <;> cases oc.stored <;>
      simp [hs]

end Nuntium.Telepathy
