import Mathlib.Data.List.DropRight

/-!
# Object paths of messages

A message object lives at `MMS_DBUS_PATH/<identity>/<uuid>`; the telepathy
service finds the UUID again with `getUUIDFromObjectPath`, which takes the
last element of the path with `filepath.Base`. `MMS_DBUS_PATH` and `PLMN`
are declared in a file of the `telepathy` package that is not among the
sources; their values are the ones the spec gives (§6, §8).

`getUUIDFromObjectPath_append` is the round trip the service relies on: for
a UUID that is one path element, the UUID is read back from any path that
ends in it.
-/

namespace Nuntium.Telepathy

/-- `MMS_DBUS_PATH` (spec §6). -/
def MMS_DBUS_PATH : String := "/org/nuntium/mms"

/-- `PLMN`, the suffix operators append to phone numbers (spec §8). -/
def PLMN : String := "/TYPE=PLMN"

/-- `filepath.Base` on Unix: the last element of `path` once trailing slashes
are removed; `"."` for the empty path and `"/"` for a path of slashes. -/
def base (path : String) : String :=
  if path = "" then "."
  else
    match (path.data.rdropWhile (· == '/')).rtakeWhile (· != '/') with
    | [] => "/"
    | last => ⟨last⟩

/-- `strings.TrimSuffix`: `s` without `suffix` when it ends in it. -/
def trimSuffix (s suffix : String) : String :=
  if suffix.data.isSuffixOf s.data then ⟨s.data.take (s.data.length - suffix.data.length)⟩ else s

/-- `getUUIDFromObjectPath`. -/
def getUUIDFromObjectPath (objectPath : String) : Except String String :=
  let defaultError := objectPath ++ " is not a proper object path for a Message"
  if objectPath = "" then .error defaultError
  else
    let uuid := base objectPath
    if uuid = "" ∨ uuid = ".." ∨ uuid = "." then .error defaultError else .ok uuid

/-- A UUID that is one element of an object path. `mms.GenUUID` makes only
such UUIDs. -/
def IsSegment (uuid : String) : Prop :=
  uuid ≠ "" ∧ '/' ∉ uuid.data ∧ uuid ≠ "." ∧ uuid ≠ ".."

instance (uuid : String) : Decidable (IsSegment uuid) := by
  unfold IsSegment; infer_instance

/-! ### The round trip -/

theorem rtakeWhile_append_cons {p : Char → Bool} {l₁ l₂ : List Char} {a : Char}
    (ha : p a = false) (h₂ : ∀ c ∈ l₂, p c = true) :
    (l₁ ++ a :: l₂).rtakeWhile p = l₂ := by
  have hrev : ∀ c ∈ l₂.reverse, p c = true := fun c hc => h₂ c (List.mem_reverse.mp hc)
  simp [List.rtakeWhile, List.takeWhile_append_of_pos hrev, ha]

theorem append_slash_ne_empty (pre uuid : String) : pre ++ "/" ++ uuid ≠ "" := by
  intro e
  have hlen := congrArg String.length e
  have hslash : ("/" : String).length = 1 := rfl
  rw [String.length_append, String.length_append, hslash] at hlen
  exact absurd hlen (by simp)

theorem base_append {pre uuid : String} (h : IsSegment uuid) :
    base (pre ++ "/" ++ uuid) = uuid := by
  obtain ⟨hne, hslash, -, -⟩ := h
  have hdata : uuid.data ≠ [] := fun e => hne (String.ext e)
  have hnot : ∀ c ∈ uuid.data, c ≠ '/' := fun c hc e => hslash (e ▸ hc)
  have hlast : (pre.data ++ '/' :: uuid.data).rdropWhile (· == '/') =
      pre.data ++ '/' :: uuid.data := by
    refine List.rdropWhile_eq_self_iff.mpr fun _ => ?_
    rw [List.getLast_append_of_ne_nil (List.cons_ne_nil _ _), List.getLast_cons hdata]
    simpa using hnot _ (List.getLast_mem hdata)
  have htake : (pre.data ++ '/' :: uuid.data).rtakeWhile (· != '/') = uuid.data :=
    rtakeWhile_append_cons (by simp) fun c hc => by simpa using hnot c hc
  unfold base
  rw [if_neg (append_slash_ne_empty pre uuid)]
  simp only [String.data_append, List.append_assoc, List.singleton_append]
  show (match (pre.data ++ '/' :: uuid.data).rdropWhile (· == '/') |>.rtakeWhile (· != '/') with
    | [] => "/" | last => ⟨last⟩) = uuid
  rw [hlast, htake]
  split
  · contradiction
  · rfl

/-- A UUID that is one path element is read back from every path ending in
`/` and that UUID. -/
theorem getUUIDFromObjectPath_append {pre uuid : String} (h : IsSegment uuid) :
    getUUIDFromObjectPath (pre ++ "/" ++ uuid) = .ok uuid := by
  have hb := @base_append pre uuid h
  obtain ⟨hne, -, hdot, hdotdot⟩ := h
  simp [getUUIDFromObjectPath, append_slash_ne_empty, hb, hne, hdot, hdotdot]

end Nuntium.Telepathy
