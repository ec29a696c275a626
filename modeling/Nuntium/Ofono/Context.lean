import Mathlib

/-!
# Ofono contexts: the MMS context and its proxy

`OfonoContext` of `ofono/modem.go` with the property readers the mediator's
context activation goes through: `GetMMSContexts`, which orders the contexts
`ActivateMMSContext` tries, and `GetProxy`, whose port `handleMNotificationInd`,
`sendMNotifyRespInd` and `uploadFile` narrow with `int32(proxy.Port)`.

A context's properties are the values ofono sends, as go-dbus decodes them,
read through `reflect`. `isActive` and `isPreferred` call
`reflect.Value.Bool`, which panics on a missing or non-boolean property: they
give `none` then, and so does a loop that reaches one. The list of contexts is
what `getOfonoProps` returned; its own failure is not modelled.

* `getMMSContexts_spec` — the contexts `GetMMSContexts` returns: an error
  exactly when none is MMS capable, the first preferred capable one alone, or
  else every capable one once, the active or preferred ones first.
* `getProxy_port_fits` — the proxy port is below `2^16`, so its `int32`
  conversion keeps it, and `host:port` settings are read back exactly.
-/

namespace Nuntium.Ofono

/-! ### Context properties -/

/-- A value of a context property or of a `Settings` entry, by the Go type
go-dbus decodes it to. -/
inductive Value where
  | str (s : String)
  | bool (b : Bool)
  | uint16 (n : UInt16)
  | strs (l : List String)
  deriving DecidableEq, Repr

/-- A context property: a value, or a dictionary of variants (`Settings`,
decoded as `map[interface{}]interface{}`). -/
inductive PropValue where
  | value (v : Value)
  | dict (entries : List (String × Value))
  deriving DecidableEq, Repr

/-- `reflect.ValueOf(v).String()`: a string's contents, `"<T Value>"` for any
other type `T`. -/
def PropValue.reflectString : PropValue → String
  | .value (.str s) => s
  | .value (.bool _) => "<bool Value>"
  | .value (.uint16 _) => "<uint16 Value>"
  | .value (.strs _) => "<[]string Value>"
  | .dict _ => "<map[interface {}]interface {} Value>"

/-- `ofono.OfonoContext`: its object path and its properties. -/
structure OfonoContext where
  objectPath : String
  properties : List (String × PropValue)
  deriving DecidableEq, Repr

def contextTypeInternet : String := "internet"
def contextTypeMMS : String := "mms"
def PROP_SETTINGS : String := "Settings"
def SETTINGS_PROXY : String := "Proxy"
def SETTINGS_PROXYPORT : String := "ProxyPort"

namespace OfonoContext

variable (c : OfonoContext)

/-- `oContext.Properties[name]`, if present. -/
def property (name : String) : Option PropValue := c.properties.lookup name

def isTypeInternet : Bool :=
  match c.property "Type" with
  | some v => v.reflectString == contextTypeInternet
  | none => false

def isTypeMMS : Bool :=
  match c.property "Type" with
  | some v => v.reflectString == contextTypeMMS
  | none => false

/-- `isActive`; `none` where `reflect.Value.Bool` panics. -/
def isActive : Option Bool :=
  match c.property "Active" with
  | some (.value (.bool b)) => some b
  | _ => none

/-- `isPreferred`; `none` where `reflect.Value.Bool` panics. -/
def isPreferred : Option Bool :=
  match c.property "Preferred" with
  | some (.value (.bool b)) => some b
  | _ => none

def messageCenter : String :=
  match c.property "MessageCenter" with
  | some v => v.reflectString
  | none => ""

def hasMessageCenter : Bool := c.messageCenter != ""

/-- `GetMessageCenter`. -/
def getMessageCenter : Except String String :=
  if c.hasMessageCenter then .ok c.messageCenter
  else .error "context setting for the Message Center value is empty"

/-- `(isTypeInternet() && isActive() && hasMessageCenter()) || isTypeMMS()`,
evaluated as Go does: `isActive` only for an internet context. -/
def isMMSCapable : Option Bool :=
  (if c.isTypeInternet then c.isActive.map (· && c.hasMessageCenter) else some false).map
    (· || c.isTypeMMS)

/-- `context.ObjectPath == preferredContext || context.isActive()`. -/
def isFront (preferredContext : String) : Option Bool :=
  if c.objectPath = preferredContext then some true else c.isActive

end OfonoContext

/-! ### `GetMMSContexts` -/

/-- The loop of `GetMMSContexts` over `contexts`, from the contexts kept so
far: a preferred capable context ends it alone; other capable ones are
prepended when active or preferred by the service, appended otherwise. -/
def collectMMSContexts (preferredContext : String) :
    List OfonoContext → List OfonoContext → Option (List OfonoContext)
  | [], kept => some kept
  | c :: cs, kept =>
      match c.isMMSCapable with
      | none => none
      | some false => collectMMSContexts preferredContext cs kept
      | some true =>
          match c.isPreferred with
          | none => none
          | some true => some [c]
          | some false =>
              match c.isFront preferredContext with
              | none => none
              | some true => collectMMSContexts preferredContext cs (c :: kept)
              | some false => collectMMSContexts preferredContext cs (kept ++ [c])

/-- `Modem.GetMMSContexts` over the contexts `getOfonoProps` returned. -/
def getMMSContexts (preferredContext : String) (contexts : List OfonoContext) :
    Option (Except String (List OfonoContext)) :=
  (collectMMSContexts preferredContext contexts []).map fun mmsContexts =>
    if mmsContexts.isEmpty then .error "No mms contexts found" else .ok mmsContexts

/-- `Modem.ActivateMMSContext`: the first context of `GetMMSContexts` that is
active or that `toggleActive` switches on (`toggle` gives its outcome). -/
def activateMMSContext (toggle : OfonoContext → Bool) (preferredContext : String)
    (contexts : List OfonoContext) : Option (Except String OfonoContext) :=
  (getMMSContexts preferredContext contexts).bind fun
    | .error e => some (.error e)
    | .ok mmsContexts => go mmsContexts
where
  go : List OfonoContext → Option (Except String OfonoContext)
    | [] => some (.error "no context available to activate")
    | c :: cs =>
        match c.isActive with
        | none => none
        | some true => some (.ok c)
        | some false => if toggle c then some (.ok c) else go cs

namespace OfonoContext

variable (c : OfonoContext) (preferredContext : String)

/-- Both boolean properties `GetMMSContexts` reads are present and boolean. -/
def HasFlags : Prop := c.isActive.isSome ∧ c.isPreferred.isSome

instance : Decidable c.HasFlags := inferInstanceAs (Decidable (_ ∧ _))

/-- MMS capable: of type mms, or of type internet, active and with a
non-empty message center. -/
def mmsCapable : Bool :=
  c.isTypeMMS || (c.isTypeInternet && c.isActive == some true && c.hasMessageCenter)

/-- Put first: the preferred context of the service, or an active one. -/
def prioritized : Bool := c.objectPath == preferredContext || c.isActive == some true

variable {c}

theorem isMMSCapable_of_hasFlags (h : c.HasFlags) : c.isMMSCapable = some c.mmsCapable := by
  obtain ⟨a, ha⟩ := Option.isSome_iff_exists.mp h.1
  unfold isMMSCapable mmsCapable
  cases c.isTypeInternet <;> cases c.isTypeMMS <;> cases a <;> simp [ha]

theorem isFront_of_hasFlags (h : c.HasFlags) :
    c.isFront preferredContext = some (c.prioritized preferredContext) := by
  obtain ⟨a, ha⟩ := Option.isSome_iff_exists.mp h.1
  unfold isFront prioritized
  by_cases hp : c.objectPath = preferredContext <;> cases a <;> simp [hp, ha]

end OfonoContext

section Loop

variable (preferredContext : String)

open OfonoContext

/-- Without a preferred capable context the loop runs to the end: the
prioritized capable contexts are prepended in reverse order, the others
appended in order. -/
theorem collectMMSContexts_of_not_preferred {cs : List OfonoContext}
    (hflags : ∀ c ∈ cs, c.HasFlags) (hnp : ∀ c ∈ cs, c.mmsCapable → c.isPreferred = some false)
    (front back : List OfonoContext) :
    collectMMSContexts preferredContext cs (front ++ back) =
      some ((cs.filter fun c => c.mmsCapable && c.prioritized preferredContext).reverse ++ front ++
        back ++ cs.filter fun c => c.mmsCapable && !c.prioritized preferredContext) := by
  induction cs generalizing front back with
  | nil => simp [collectMMSContexts]
  | cons c cs ih =>
      have hc := hflags c (List.mem_cons_self _ _)
      have ih' := ih (fun c h => hflags c (List.mem_cons_of_mem _ h))
        (fun c h => hnp c (List.mem_cons_of_mem _ h))
      simp only [collectMMSContexts, isMMSCapable_of_hasFlags hc]
      cases hcap : c.mmsCapable
      · simp [ih', hcap]
      · simp only [hnp c (List.mem_cons_self _ _) hcap, isFront_of_hasFlags preferredContext hc]
        cases hpr : c.prioritized preferredContext
        · simpa [hcap, hpr, List.append_assoc] using ih' front (back ++ [c])
        · simpa [hcap, hpr, List.append_assoc] using ih' (c :: front) back

/-- A preferred capable context ends the loop alone: the first one. -/
theorem collectMMSContexts_of_find {cs : List OfonoContext} (hflags : ∀ c ∈ cs, c.HasFlags)
    {c : OfonoContext} (hfind : cs.find? (fun c => c.mmsCapable && c.isPreferred == some true) = some c)
    (kept : List OfonoContext) : collectMMSContexts preferredContext cs kept = some [c] := by
  induction cs generalizing kept with
  | nil => cases hfind
  | cons d ds ih =>
      have hd := hflags d (List.mem_cons_self _ _)
      obtain ⟨p, hp⟩ := Option.isSome_iff_exists.mp hd.2
      have ih' := ih (fun c h => hflags c (List.mem_cons_of_mem _ h))
      simp only [collectMMSContexts, isMMSCapable_of_hasFlags hd]
      rw [List.find?_cons] at hfind
      cases hcap : d.mmsCapable <;> cases p <;> simp only [hcap, hp] at hfind ⊢
      · exact ih' hfind kept
      · exact ih' hfind kept
      · rw [isFront_of_hasFlags preferredContext hd]
        cases d.prioritized preferredContext
        · exact ih' hfind _
        · exact ih' hfind _
      · simpa using hfind

end Loop

/-- `GetMMSContexts` on contexts whose `Active` and `Preferred` are booleans:
it fails exactly when no context is MMS capable; a preferred capable context
is returned alone, the first one; otherwise every capable context is returned
once, the prioritized ones (active, or the service's preferred context) before
all the others. -/
theorem getMMSContexts_spec (preferredContext : String) {contexts : List OfonoContext}
    (hflags : ∀ c ∈ contexts, c.HasFlags) :
    (getMMSContexts preferredContext contexts = some (.error "No mms contexts found") ↔
      ∀ c ∈ contexts, c.mmsCapable = false) ∧
    (∀ c, contexts.find? (fun c => c.mmsCapable && c.isPreferred == some true) = some c →
      getMMSContexts preferredContext contexts = some (.ok [c])) ∧
    (contexts.find? (fun c => c.mmsCapable && c.isPreferred == some true) = none →
      (∃ c ∈ contexts, c.mmsCapable) →
      ∃ l, getMMSContexts preferredContext contexts = some (.ok l) ∧
        l.Perm (contexts.filter (·.mmsCapable)) ∧
        ∃ l₁ l₂, l = l₁ ++ l₂ ∧ (∀ c ∈ l₁, c.prioritized preferredContext) ∧
          ∀ c ∈ l₂, c.prioritized preferredContext = false) := by
  rcases hfind : contexts.find? (fun c => c.mmsCapable && c.isPreferred == some true) with _ | c
  · -- no preferred capable context: the loop keeps every capable one
    have hnp : ∀ c ∈ contexts, c.mmsCapable → c.isPreferred = some false := by
      intro c hc hcap
      obtain ⟨p, hp⟩ := Option.isSome_iff_exists.mp (hflags c hc).2
      have := List.find?_eq_none.mp hfind c hc
      cases p <;> simp_all
    set F := contexts.filter fun c => c.mmsCapable && c.prioritized preferredContext
    set B := contexts.filter fun c => c.mmsCapable && !c.prioritized preferredContext
    have hrun : getMMSContexts preferredContext contexts =
        some (if (F.reverse ++ B).isEmpty then .error "No mms contexts found" else .ok (F.reverse ++ B)) := by
      have := collectMMSContexts_of_not_preferred preferredContext hflags hnp [] []
      simp only [List.append_nil] at this
      simp [getMMSContexts, this, F, B]
    have hperm : (F.reverse ++ B).Perm (contexts.filter (·.mmsCapable)) := by
      have h := List.filter_append_perm (·.prioritized preferredContext) (contexts.filter (·.mmsCapable))
      simp only [List.filter_filter] at h
      refine ((List.reverse_perm F).append_right B).trans ?_
      convert h using 3 <;> funext c <;> simp [Bool.and_comm]
    have hempty : (F.reverse ++ B).isEmpty ↔ ∀ c ∈ contexts, c.mmsCapable = false := by
      rw [List.isEmpty_iff, ← List.length_eq_zero, hperm.length_eq, List.length_eq_zero,
        List.filter_eq_nil_iff]
      simp
    refine ⟨?_, fun c h => by simp [hfind] at h, fun _ hsome => ?_⟩
    · rw [hrun, ← hempty]
      split_ifs with h <;> simp [h]
    · have hne : ¬(F.reverse ++ B).isEmpty := fun h => by
        obtain ⟨c, hc, hcap⟩ := hsome
        simp [hempty.mp h c hc] at hcap
      refine ⟨_, by rw [hrun, if_neg hne], hperm, F.reverse, B, rfl, ?_, ?_⟩
      · intro c hc
        simp only [List.mem_reverse, F, List.mem_filter, Bool.and_eq_true] at hc
        exact hc.2.2
      · intro c hc
        simp only [B, List.mem_filter, Bool.and_eq_true, Bool.not_eq_true'] at hc
        exact hc.2.2
  · -- the first preferred capable context is returned alone
    have hrun : getMMSContexts preferredContext contexts = some (.ok [c]) := by
      simp [getMMSContexts, collectMMSContexts_of_find preferredContext hflags hfind []]
    have hcap : c.mmsCapable = true := by
      have := List.find?_some hfind
      simp only [Bool.and_eq_true] at this
      exact this.1
    refine ⟨?_, fun c' h => ?_, fun h => by simp [hfind] at h⟩
    · rw [hrun]
      simp only [Option.some.injEq, reduceCtorEq, false_iff, not_forall]
      exact ⟨c, List.mem_of_find?_eq_some hfind, by simp [hcap]⟩
    · rwa [← Option.some.inj (hfind.symm.trans h)]

/-- A context of type `t`, with the given `Active` flag and message center. -/
def contextOf (path t : String) (active : Bool) (messageCenter : String) : OfonoContext :=
  ⟨path, [("Type", .value (.str t)), ("Active", .value (.bool active)),
    ("Preferred", .value (.bool false)), ("MessageCenter", .value (.str messageCenter))]⟩

/-- An inactive mms context listed before an active internet one with a message
center: both are capable, and the active one comes first. -/
theorem getMMSContexts_spec_two :
    (∀ c ∈ [contextOf "/c1" "mms" false "", contextOf "/c2" "internet" true "http://mmsc"],
      c.HasFlags) ∧
    (getMMSContexts "" [contextOf "/c1" "mms" false "", contextOf "/c2" "internet" true "http://mmsc"] =
        some (.error "No mms contexts found") ↔
      ∀ c ∈ [contextOf "/c1" "mms" false "", contextOf "/c2" "internet" true "http://mmsc"],
        c.mmsCapable = false) :=
  ⟨by decide, (getMMSContexts_spec "" (by decide)).1⟩

example : getMMSContexts "" [contextOf "/c1" "mms" false "", contextOf "/c2" "internet" true "http://mmsc"] =
    some (.ok [contextOf "/c2" "internet" true "http://mmsc", contextOf "/c1" "mms" false ""]) :=
  rfl

/-- With a preferred capable context, activation tries that context alone: it
fails when the context is inactive and cannot be switched on, whatever other
capable contexts there are. -/
theorem activateMMSContext_of_find (toggle : OfonoContext → Bool) (preferredContext : String)
    {contexts : List OfonoContext} (hflags : ∀ c ∈ contexts, c.HasFlags) {c : OfonoContext}
    (hfind : contexts.find? (fun c => c.mmsCapable && c.isPreferred == some true) = some c) :
    activateMMSContext toggle preferredContext contexts =
      some (if c.isActive = some true ∨ toggle c = true then .ok c
        else .error "no context available to activate") := by
  have hc := hflags c (List.mem_of_find?_eq_some hfind)
  obtain ⟨a, ha⟩ := Option.isSome_iff_exists.mp hc.1
  simp only [activateMMSContext, getMMSContexts,
    collectMMSContexts_of_find preferredContext hflags hfind, Option.map_some', List.isEmpty_cons,
    Bool.false_eq_true, ite_false, Option.some_bind, activateMMSContext.go, ha]
  cases a <;> cases toggle c <;> simp

/-! ### `strconv.ParseUint` -/

/-- The value of the decimal digit `c`. -/
def digitValue (c : Char) : Nat := c.toNat - '0'.toNat

/-- One byte of `strconv.ParseUint` in base 10: a digit that keeps the value
within `bitSize` bits, or an error. -/
def parseUintStep (bitSize : Nat) (acc : Option Nat) (c : Char) : Option Nat :=
  acc.bind fun n =>
    if c.isDigit ∧ 10 * n + digitValue c < 2 ^ bitSize then some (10 * n + digitValue c) else none

/-- `strconv.ParseUint(s, 10, bitSize)`: `none` for each error it returns (an
empty string, a byte that is not a decimal digit, a value beyond `bitSize`
bits), whose value the caller then ignores. -/
def parseUint (s : String) (bitSize : Nat) : Option Nat :=
  if s = "" then none else s.data.foldl (parseUintStep bitSize) (some 0)

/-- The number the decimal digits `l` spell after the digits of `v`. -/
def decimalValue (l : List Char) (v : Nat) : Nat := l.foldl (fun n c => 10 * n + digitValue c) v

theorem le_decimalValue (l : List Char) (v : Nat) : v ≤ decimalValue l v := by
  induction l generalizing v with
  | nil => exact le_refl v
  | cons c cs ih => exact le_trans (by omega) (ih (10 * v + digitValue c))

theorem foldl_parseUintStep {bitSize : Nat} (l : List Char) (v : Nat) (hd : ∀ c ∈ l, c.isDigit)
    (hlt : decimalValue l v < 2 ^ bitSize) :
    l.foldl (parseUintStep bitSize) (some v) = some (decimalValue l v) := by
  induction l generalizing v with
  | nil => rfl
  | cons c cs ih =>
      have hle := le_decimalValue cs (10 * v + digitValue c)
      rw [List.foldl_cons, parseUintStep, Option.some_bind,
        if_pos ⟨hd c (List.mem_cons_self _ _), lt_of_le_of_lt hle hlt⟩]
      exact ih _ (fun c' h' => hd c' (List.mem_cons_of_mem _ h')) hlt

theorem foldl_parseUintStep_lt {bitSize : Nat} (l : List Char) (acc : Option Nat)
    (hacc : ∀ a ∈ acc, a < 2 ^ bitSize) :
    ∀ v ∈ l.foldl (parseUintStep bitSize) acc, v < 2 ^ bitSize := by
  induction l generalizing acc with
  | nil => exact hacc
  | cons c cs ih =>
      refine ih _ fun a ha => ?_
      simp only [parseUintStep, Option.mem_def, Option.bind_eq_some] at ha
      obtain ⟨n, -, h⟩ := ha
      split_ifs at h with hc
      · cases h; exact hc.2

theorem parseUint_lt {s : String} {bitSize v : Nat} (h : parseUint s bitSize = some v) :
    v < 2 ^ bitSize := by
  unfold parseUint at h
  split at h
  · cases h
  · exact foldl_parseUintStep_lt s.data (some 0) (fun a ha => by cases ha; exact Nat.two_pow_pos _)
      v h

theorem digitChar_digit :
    ∀ k < 10, (Nat.digitChar k).isDigit ∧ digitValue (Nat.digitChar k) = k := by
  decide

/-- `Nat.toDigitsCore` with enough fuel lays the decimal digits of `n` before
`acc`. -/
theorem toDigitsCore_digits (f : Nat) : ∀ n (acc : List Char), n < f →
    ∃ D, Nat.toDigitsCore 10 f n acc = D ++ acc ∧ D ≠ [] ∧ (∀ c ∈ D, c.isDigit) ∧
      decimalValue D 0 = n := by
  induction f with
  | zero => intro n acc h; omega
  | succ f ih =>
      intro n acc hn
      obtain ⟨hdig, hval⟩ := digitChar_digit (n % 10) (Nat.mod_lt _ (by omega))
      simp only [Nat.toDigitsCore]
      split
      · refine ⟨[Nat.digitChar (n % 10)], rfl, List.cons_ne_nil _ _, by simpa using hdig, ?_⟩
        simp [decimalValue, hval]
        omega
      · obtain ⟨D, hD, hne, hdD, hvD⟩ := ih (n / 10) (Nat.digitChar (n % 10) :: acc) (by omega)
        refine ⟨D ++ [Nat.digitChar (n % 10)], by simp [hD], by simp, ?_, ?_⟩
        · intro c hc
          rcases List.mem_append.mp hc with h | h
          · exact hdD c h
          · simp at h; exact h ▸ hdig
        · simp only [decimalValue, List.foldl_append, List.foldl_cons, List.foldl_nil] at hvD ⊢
          rw [hvD, hval]
          omega

/-- The decimal text of `n`: digits that spell `n`. -/
theorem toString_digits (n : Nat) :
    ∃ D, toString n = ⟨D⟩ ∧ D ≠ [] ∧ (∀ c ∈ D, c.isDigit) ∧ decimalValue D 0 = n := by
  obtain ⟨D, hD, hne, hdig, hval⟩ := toDigitsCore_digits (n + 1) n [] (by omega)
  refine ⟨D, ?_, hne, hdig, hval⟩
  show (Nat.toDigits 10 n).asString = _
  simp [Nat.toDigits, hD, List.asString]

/-- `ParseUint` reads back the decimal text of every number that fits. -/
theorem parseUint_toString {n bitSize : Nat} (h : n < 2 ^ bitSize) :
    parseUint (toString n) bitSize = some n := by
  obtain ⟨D, hs, hne, hdig, hval⟩ := toString_digits n
  rw [hs, parseUint, if_neg (fun e => hne (congrArg String.data e)),
    foldl_parseUintStep D 0 hdig (hval ▸ h), hval]

/-! ### The proxy -/

/-- `ofono.ProxyInfo`; `Port` is a `uint64`. -/
structure ProxyInfo where
  host : String
  port : Nat
  deriving DecidableEq, Repr

/-- Go's conversion `int32(x)` of an unsigned integer: its low 32 bits read in
two's complement, as `handleMNotificationInd`, `sendMNotifyRespInd` and
`uploadFile` apply it to `proxy.Port`. -/
def int32 (x : Nat) : Int := (BitVec.ofNat 32 x).toInt

theorem int32_of_lt {x : Nat} (h : x < 2 ^ 31) : int32 x = x := by
  have h32 : x % 2 ^ 32 = x := Nat.mod_eq_of_lt (by omega)
  rw [int32, BitVec.toInt_eq_toNat_cond, BitVec.toNat_ofNat, h32, if_pos (by omega)]

namespace OfonoContext

variable (c : OfonoContext)

/-- `settingsProxy`: the string `Proxy` entry of the `Settings` dictionary, or
`""`. -/
def settingsProxy : String :=
  match c.property PROP_SETTINGS with
  | some (.dict settings) =>
      match settings.lookup SETTINGS_PROXY with
      | some (.str proxy) => proxy
      | _ => ""
  | _ => ""

/-- `settingsProxyPort`: the `uint16` `ProxyPort` entry of the `Settings`
dictionary, or 80. -/
def settingsProxyPort : Nat :=
  match c.property PROP_SETTINGS with
  | some (.dict settings) =>
      match settings.lookup SETTINGS_PROXYPORT with
      | some (.uint16 port) => port.toNat
      | _ => 80
  | _ => 80

/-- `GetProxy`, whose error is nil on every path. A proxy with a `:` is split
there (into at least two parts: `v[0]` and `v[1]` exist) and its port parsed
as a 16-bit number, 80 when that fails. -/
def getProxy : ProxyInfo :=
  let proxy := c.settingsProxy
  if proxy = "" then ⟨"", 0⟩
  else if ':' ∈ proxy.data then
    let v := proxy.data.splitOn ':'
    ⟨⟨v.getD 0 []⟩, (parseUint ⟨v.getD 1 []⟩ 16).getD 80⟩
  else ⟨proxy, c.settingsProxyPort⟩

theorem settingsProxyPort_lt : c.settingsProxyPort < 2 ^ 16 := by
  unfold settingsProxyPort
  split
  · split
    · exact UInt16.toNat_lt_size _
    · decide
  · decide

end OfonoContext

/-- The split of a list at a separator it contains has at least two parts. -/
theorem two_le_length_splitOn {l : List Char} {sep : Char} (h : sep ∈ l) :
    2 ≤ (l.splitOn sep).length := by
  induction l with
  | nil => cases h
  | cons c cs ih =>
      rw [List.splitOn, List.splitOnP_cons]
      by_cases hc : c = sep
      · rw [if_pos (by simp [hc]), List.length_cons]
        exact Nat.succ_le_succ (List.length_pos.mpr (List.splitOnP_ne_nil _ _))
      · rw [if_neg (by simpa using hc), List.length_modifyHead]
        exact ih (List.mem_of_ne_of_mem (Ne.symm hc) h)

/-- A proxy with a `:` is split there into `v[0]`, `v[1]` and maybe more, so
`GetProxy` reads the host from `v[0]` and the port from `v[1]` and never
takes the defaults of `getD`. -/
theorem OfonoContext.getProxy_of_colon (c : OfonoContext) (h : ':' ∈ c.settingsProxy.data) :
    ∃ host port rest, c.settingsProxy.data.splitOn ':' = host :: port :: rest ∧
      c.getProxy = ⟨⟨host⟩, (parseUint ⟨port⟩ 16).getD 80⟩ := by
  have hne : c.settingsProxy ≠ "" := fun e => by simp [e] at h
  have hlen := two_le_length_splitOn h
  rcases hv : c.settingsProxy.data.splitOn ':' with _ | ⟨host, _ | ⟨port, rest⟩⟩
  · simp [hv] at hlen
  · simp [hv] at hlen
  · refine ⟨host, port, rest, rfl, ?_⟩
    simp [getProxy, hne, h, hv]

open OfonoContext in
/-- Every proxy port `GetProxy` gives is below `2^16`, so the `int32`
conversions of the mediator keep it; and a `Proxy` entry `host:n` of the
`Settings` dictionary, with no `:` in `host` and `n` below `2^16`, gives
exactly that host and port. -/
theorem getProxy_port_fits :
    (∀ c : OfonoContext, c.getProxy.port < 2 ^ 16 ∧ int32 c.getProxy.port = c.getProxy.port) ∧
    ∀ (c : OfonoContext) (host : String) (n : Nat) (settings : List (String × Value)),
      ':' ∉ host.data → n < 2 ^ 16 → c.property PROP_SETTINGS = some (.dict settings) →
      settings.lookup SETTINGS_PROXY = some (.str (host ++ ":" ++ toString n)) →
      c.getProxy = ⟨host, n⟩ := by
  have hport : ∀ c : OfonoContext, c.getProxy.port < 2 ^ 16 := by
    intro c
    unfold getProxy
    dsimp only
    split_ifs
    · decide
    · dsimp only
      rcases h : parseUint _ 16 with _ | p
      · decide
      · exact parseUint_lt h
    · exact c.settingsProxyPort_lt
  refine ⟨fun c => ⟨hport c, int32_of_lt (by have := hport c; omega)⟩, ?_⟩
  intro c host n settings hhost hn hdict hentry
  have hset : c.settingsProxy = host ++ ":" ++ toString n := by simp [settingsProxy, hdict, hentry]
  obtain ⟨D, hs, -, hdig, -⟩ := toString_digits n
  have hD : ∀ x ∈ D, ¬(x == ':') = true := fun x hx e => by
    have := hdig x hx
    rw [beq_iff_eq.mp e] at this
    cases this
  have hH : ∀ x ∈ host.data, ¬(x == ':') = true := fun x hx e => hhost (beq_iff_eq.mp e ▸ hx)
  have hdata : c.settingsProxy.data = host.data ++ ':' :: D := by simp [hset, hs]
  obtain ⟨h₀, p₀, rest, hsp, hget⟩ := c.getProxy_of_colon (by simp [hdata])
  rw [hdata, List.splitOn, List.splitOnP_first _ _ hH ':' (by simp), List.splitOnP_eq_single _ _ hD] at hsp
  obtain ⟨rfl, rfl, rfl⟩ : host.data = h₀ ∧ D = p₀ ∧ [] = rest := by simpa using hsp
  rw [hget, ← hs, parseUint_toString hn]
  rfl

/-- A context whose `Settings` name the proxy `10.0.0.1:8080`. -/
def proxyContext : OfonoContext :=
  ⟨"/c", [(PROP_SETTINGS, .dict [(SETTINGS_PROXY, .str "10.0.0.1:8080")])]⟩

/-- Its proxy is host `10.0.0.1` on port 8080. -/
theorem getProxy_port_fits_proxyContext :
    ':' ∉ "10.0.0.1".data ∧ 8080 < 2 ^ 16 ∧
      proxyContext.property PROP_SETTINGS = some (.dict [(SETTINGS_PROXY, .str "10.0.0.1:8080")]) ∧
      [(SETTINGS_PROXY, Value.str "10.0.0.1:8080")].lookup SETTINGS_PROXY =
        some (.str ("10.0.0.1" ++ ":" ++ toString 8080)) ∧
      proxyContext.getProxy = ⟨"10.0.0.1", 8080⟩ :=
  ⟨by decide, by decide, rfl, rfl, getProxy_port_fits.2 proxyContext "10.0.0.1" 8080
    [(SETTINGS_PROXY, .str "10.0.0.1:8080")] (by decide) (by decide) rfl rfl⟩

end Nuntium.Ofono
