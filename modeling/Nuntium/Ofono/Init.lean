import Nuntium.Ofono.Watch

/-!
# `Init`'s two goroutines on the identity

`Modem.Init` of `ofono/modem.go` starts `watchStatus` and then runs
`fetchExistingStatus` beside it, "the calling order here avoids race
conditions"; both call `handleIdentity` on the same `modem.identity`, with
no lock. Here `handleIdentity` is cut at its reads and writes of
`modem.identity` and at its sends, and the two goroutines interleave freely.

* `goroutine_alone` — a goroutine that runs alone does what `handleIdentity`
  does.
* `interleaved_messages` — under every interleaving, every `IdentityAdded`
  carries a non-empty identity and every `IdentityRemoved` the empty one. The
  messages no longer alternate: both goroutines can find the identity empty
  and announce the same one.
* `exclusive_alternate` — they do alternate on every schedule where the two
  goroutines are never inside `handleIdentity` at once.
* `exclusive_sequential` — such a schedule, once both goroutines are between
  calls, leaves the identity and the messages the sequential watch
  (`watchIdentity`) leaves on an interleaving of the values the two goroutines
  took.
-/

namespace Nuntium.Ofono

/-- Where a goroutine is in `handleIdentity` for the value `v`. -/
inductive IdentityPc where
  /-- Between two calls. -/
  | ready
  /-- It found `v` empty and the modem's identity not: it sends `IdentityRemoved`. -/
  | removing (v : String)
  /-- It sent `IdentityRemoved`: it writes the identity. -/
  | removed (v : String)
  /-- It reads the identity again. -/
  | checking (v : String)
  /-- It found `v` non-empty and the identity empty: it writes the identity. -/
  | adding (v : String)
  /-- It wrote the identity: it sends `IdentityAdded`. -/
  | announcing (v : String)
  deriving DecidableEq, Repr

/-- A goroutine calling `handleIdentity`: where it is, and the
`SubscriberIdentity` values it has still to handle. -/
structure Goroutine where
  pc : IdentityPc
  values : List String
  deriving DecidableEq, Repr

/-- The goroutines of `Init`. -/
inductive Routine where
  | fetch
  | watch
  deriving DecidableEq, Repr

/-- The other goroutine. -/
def Routine.other : Routine → Routine
  | .fetch => .watch
  | .watch => .fetch

theorem Routine.other_ne (t : Routine) : t.other ≠ t := by cases t <;> decide

@[simp] theorem Routine.other_other (t : Routine) : t.other.other = t := by cases t <;> rfl

theorem Routine.eq_or_eq_other (t t₁ : Routine) : t₁ = t ∨ t₁ = t.other := by
  cases t <;> cases t₁ <;> simp [Routine.other]

/-- `modem.identity`, the two goroutines, and the identity messages sent. -/
structure IdentityRace where
  identity : String
  fetch : Goroutine
  watch : Goroutine
  sent : List IdentityEvent
  deriving DecidableEq, Repr

/-- One statement of `handleIdentity`: the identity after it, where the
goroutine is then, and what it sent. -/
def Goroutine.step (identity : String) (g : Goroutine) : Option (String × Goroutine × List IdentityEvent) :=
  match g.pc, g.values with
  | .ready, [] => none
  | .ready, v :: vs =>
      some (identity, ⟨if v = "" ∧ identity ≠ "" then .removing v else .checking v, vs⟩, [])
  | .removing v, vs => some (identity, ⟨.removed v, vs⟩, [.removed v])
  | .removed v, vs => some (v, ⟨.checking v, vs⟩, [])
  | .checking v, vs => some (identity, ⟨if v ≠ "" ∧ identity = "" then .adding v else .ready, vs⟩, [])
  | .adding v, vs => some (v, ⟨.announcing v, vs⟩, [])
  | .announcing v, vs => some (identity, ⟨.ready, vs⟩, [.added v])

namespace IdentityRace

/-- A goroutine of the race. -/
def get (S : IdentityRace) : Routine → Goroutine
  | .fetch => S.fetch
  | .watch => S.watch

/-- Replace a goroutine of the race. -/
def set (S : IdentityRace) : Routine → Goroutine → IdentityRace
  | .fetch, g => { S with fetch := g }
  | .watch, g => { S with watch := g }

/-- The goroutine `t` runs one statement; `none` when it has nothing left. -/
def step (S : IdentityRace) (t : Routine) : Option IdentityRace :=
  ((S.get t).step S.identity).map fun (identity, g, out) =>
    { S.set t g with identity, sent := S.sent ++ out }

/-- Run the goroutines in the order `ts` names them. -/
def run (S : IdentityRace) : List Routine → Option IdentityRace
  | [] => some S
  | t :: ts => (S.step t).bind (·.run ts)

/-- Whether the goroutines never overlap on the schedule `ts`: each statement
runs while the other goroutine is between two calls of `handleIdentity`. -/
def exclusive (S : IdentityRace) : List Routine → Bool
  | [] => true
  | t :: ts => (S.get t.other).pc = .ready && (S.step t).all (·.exclusive ts)

@[simp] theorem get_set (S : IdentityRace) (t : Routine) (g : Goroutine) : (S.set t g).get t = g := by
  cases t <;> rfl

theorem get_set_ne (S : IdentityRace) {t u : Routine} (h : u ≠ t) (g : Goroutine) :
    (S.set t g).get u = S.get u := by
  cases t <;> cases u <;> first | rfl | exact absurd rfl h

@[simp] theorem get_with (S : IdentityRace) (u : Routine) (identity : String) (sent : List IdentityEvent) :
    { S with identity, sent }.get u = S.get u := by
  cases u <;> rfl

/-- One statement: the goroutine's step, and the other goroutine left as it was. -/
theorem step_some {S S' : IdentityRace} {t : Routine} (h : S.step t = some S') :
    ∃ g out, (S.get t).step S.identity = some (S'.identity, g, out) ∧ S'.get t = g ∧
      S'.sent = S.sent ++ out ∧ ∀ u, u ≠ t → S'.get u = S.get u := by
  simp only [step, Option.map_eq_some'] at h
  obtain ⟨⟨identity, g, out⟩, hs, rfl⟩ := h
  exact ⟨g, out, hs, by simp, rfl, fun u hu => by simp [get_set_ne _ hu]⟩

theorem run_cons_some {S S' : IdentityRace} {t : Routine} {ts : List Routine}
    (h : S.run (t :: ts) = some S') : ∃ S₁, S.step t = some S₁ ∧ S₁.run ts = some S' :=
  Option.bind_eq_some.mp h

/-- A goroutine that does not run is left as it was. -/
theorem run_get_ne {S S' : IdentityRace} {ts : List Routine} {u : Routine} (h : S.run ts = some S')
    (hu : u ∉ ts) : S'.get u = S.get u := by
  induction ts generalizing S with
  | nil => cases h; rfl
  | cons t ts ih =>
      obtain ⟨S₁, h₁, h₂⟩ := run_cons_some h
      obtain ⟨-, -, -, -, -, hu₁⟩ := step_some h₁
      rw [ih h₂ fun h => hu (List.mem_cons_of_mem _ h), hu₁ u fun h => hu (h ▸ List.mem_cons_self _ _)]

end IdentityRace

/-- Both goroutines are handed the SIM\x27s identity `A` as `Init` starts: the
fetch reads it and the watch is signalled it. -/
def raceStart : IdentityRace := ⟨"", ⟨.ready, ["A"]⟩, ⟨.ready, ["A"]⟩, []⟩

/-! ### A goroutine alone -/

/-- A goroutine that runs alone through one value takes four statements when
`handleIdentity` sends a message and two when it sends none; it then does
what `handleIdentity` does, and leaves the other goroutine as it was. -/
theorem goroutine_alone (S : IdentityRace) (t : Routine) {v : String} {vs : List String}
    (hg : S.get t = ⟨.ready, v :: vs⟩) :
    ∃ S', S.run (List.replicate (if (handleIdentity v ⟨S.identity⟩).2 = [] then 2 else 4) t) = some S' ∧
      S'.get t = ⟨.ready, vs⟩ ∧ (∀ u, u ≠ t → S'.get u = S.get u) ∧
      S'.identity = (handleIdentity v ⟨S.identity⟩).1.identity ∧
      S'.sent = S.sent ++ (handleIdentity v ⟨S.identity⟩).2 := by
  obtain ⟨S', hrun, hget, hid, hsent⟩ :
      ∃ S', S.run (List.replicate (if (handleIdentity v ⟨S.identity⟩).2 = [] then 2 else 4) t) = some S' ∧
        S'.get t = ⟨.ready, vs⟩ ∧ S'.identity = (handleIdentity v ⟨S.identity⟩).1.identity ∧
        S'.sent = S.sent ++ (handleIdentity v ⟨S.identity⟩).2 := by
    by_cases hv : v = "" <;> by_cases hi : S.identity = "" <;>
      simp only [handleIdentity, hv, hi, hg, ne_eq, not_true_eq_false, not_false_eq_true, and_true, and_false,
        and_self, ↓reduceIte, List.nil_append, List.cons_ne_self, List.replicate, IdentityRace.run,
        IdentityRace.step, Goroutine.step, Option.map_some', List.append_nil, Option.bind_some, Option.some_bind,
        IdentityRace.get_with, IdentityRace.get_set, List.append_assoc, List.singleton_append, Option.some.injEq,
        exists_eq_left']
  exact ⟨S', hrun, hget, fun u hu => IdentityRace.run_get_ne hrun fun h => hu (List.mem_replicate.mp h).2,
    hid, hsent⟩

/-- The fetch handles `A` alone from the empty identity, in four statements,
as `handleIdentity`. -/
theorem goroutine_alone_fetch :
    raceStart.get .fetch = ⟨.ready, ["A"]⟩ ∧
      ∃ S', raceStart.run (List.replicate
          (if (handleIdentity "A" ⟨raceStart.identity⟩).2 = [] then 2 else 4) .fetch) = some S' ∧
        S'.get .fetch = ⟨.ready, []⟩ ∧ (∀ u, u ≠ .fetch → S'.get u = raceStart.get u) ∧
        S'.identity = (handleIdentity "A" ⟨raceStart.identity⟩).1.identity ∧
        S'.sent = raceStart.sent ++ (handleIdentity "A" ⟨raceStart.identity⟩).2 :=
  ⟨rfl, goroutine_alone raceStart .fetch rfl⟩

/-! ### What the messages carry -/

/-- What an identity message must carry: `IdentityAdded` a non-empty identity,
`IdentityRemoved` the empty one. -/
def IdentityEvent.Carries : IdentityEvent → Prop
  | .added x => x ≠ ""
  | .removed x => x = ""

/-- What a goroutine's place says of the value it handles. -/
def IdentityPc.Valid : IdentityPc → Prop
  | .removing v | .removed v => v = ""
  | .adding v | .announcing v => v ≠ ""
  | .ready | .checking _ => True

/-- A statement keeps the goroutine's place valid and sends what it must,
whatever the identity it reads. -/
theorem Goroutine.step_valid {identity : String} {g : Goroutine} (hg : g.pc.Valid) :
    ∀ r ∈ g.step identity, r.2.1.pc.Valid ∧ ∀ e ∈ r.2.2, e.Carries := by
  obtain ⟨pc, _ | ⟨v, vs⟩⟩ := g <;> cases pc <;>
    simp only [Goroutine.step, Option.mem_def, Option.some.injEq, forall_eq', reduceCtorEq] <;>
    first
    | exact fun _ => False.elim
    | exact ⟨by split_ifs with hv <;> simp [IdentityPc.Valid, hv], by simp⟩
    | simp_all [IdentityPc.Valid, IdentityEvent.Carries]

theorem IdentityRace.run_valid {S S' : IdentityRace} {ts : List Routine} (hS : ∀ u, (S.get u).pc.Valid)
    (h : S.run ts = some S') : ∃ out, S'.sent = S.sent ++ out ∧ ∀ e ∈ out, e.Carries := by
  induction ts generalizing S with
  | nil => cases h; exact ⟨[], by simp, by simp⟩
  | cons t ts ih =>
      obtain ⟨S₁, h₁, h₂⟩ := IdentityRace.run_cons_some h
      obtain ⟨g, out₁, hs, hg, hsent₁, hu⟩ := IdentityRace.step_some h₁
      obtain ⟨hg', hout₁⟩ := Goroutine.step_valid (hS t) _ hs
      have hS₁ : ∀ u, (S₁.get u).pc.Valid := fun u => by
        by_cases e : u = t
        · subst e; rw [hg]; exact hg'
        · rw [hu u e]; exact hS u
      obtain ⟨out₂, hsent₂, hout₂⟩ := ih hS₁ h₂
      exact ⟨out₁ ++ out₂, by rw [hsent₂, hsent₁, List.append_assoc],
        fun e he => (List.mem_append.mp he).elim (hout₁ e) (hout₂ e)⟩

/-- Under every interleaving of the two goroutines, each started between two
calls, every `IdentityAdded` sent carries a non-empty identity and every
`IdentityRemoved` the empty one. -/
theorem interleaved_messages {S S' : IdentityRace} {ts : List Routine} (hf : S.fetch.pc = .ready)
    (hw : S.watch.pc = .ready) (h : S.run ts = some S') :
    ∃ out, S'.sent = S.sent ++ out ∧ ∀ e ∈ out, e.Carries :=
  IdentityRace.run_valid (fun u => by cases u <;> simp [IdentityRace.get, hf, hw, IdentityPc.Valid]) h

/-- Both goroutines read the empty identity before either writes it. -/
def doubleAdd : List Routine := [.fetch, .watch, .fetch, .watch, .fetch, .fetch, .watch, .watch]

/-- The messages carry what they must, but `A` is announced twice, with no
`IdentityRemoved` between. -/
theorem interleaved_messages_twice :
    raceStart.fetch.pc = .ready ∧ raceStart.watch.pc = .ready ∧
      raceStart.run doubleAdd = some ⟨"A", ⟨.ready, []⟩, ⟨.ready, []⟩, [.added "A", .added "A"]⟩ ∧
      ∃ out, [IdentityEvent.added "A", .added "A"] = raceStart.sent ++ out ∧ ∀ e ∈ out, e.Carries :=
  ⟨rfl, rfl, rfl, @interleaved_messages raceStart ⟨"A", ⟨.ready, []⟩, ⟨.ready, []⟩, [.added "A", .added "A"]⟩
    doubleAdd rfl rfl rfl⟩

/-! ### Goroutines that never overlap -/

/-- What a goroutine's place says of its value and of the identity, when it
alone writes the identity. -/
def IdentityPc.Alone (identity : String) : IdentityPc → Prop
  | .ready | .checking _ => True
  | .removing v => v = "" ∧ identity ≠ ""
  | .removed v => v = ""
  | .adding v => v ≠ "" ∧ identity = ""
  | .announcing v => v ≠ "" ∧ identity = v

/-- Whether the next identity message of a goroutine that runs alone is an
`IdentityAdded`. -/
def IdentityPc.addsNext (identity : String) : IdentityPc → Bool
  | .removed _ | .announcing _ => true
  | _ => identity = ""

/-- A statement of a goroutine that alone writes the identity continues the
alternation. -/
theorem Goroutine.step_alone {identity : String} {g : Goroutine} (hg : g.pc.Alone identity) :
    ∀ r ∈ g.step identity,
      r.2.1.pc.Alone r.1 ∧ Alternates (g.pc.addsNext identity) r.2.2 (r.2.1.pc.addsNext r.1) := by
  obtain ⟨pc, vs⟩ := g
  cases pc <;> simp only [Goroutine.step, Option.mem_def, Option.some.injEq, forall_eq'] <;>
    simp only [IdentityPc.Alone] at hg
  case ready =>
    cases vs with
    | nil => simp
    | cons v vs =>
        simp only [Option.some.injEq, forall_eq']
        split_ifs with hv
        · exact ⟨hv, .nil _⟩
        · exact ⟨trivial, .nil _⟩
  case checking v =>
    split_ifs with hv
    · exact ⟨hv, .nil _⟩
    · exact ⟨trivial, .nil _⟩
  case removing v =>
    exact ⟨hg.1, by simpa [IdentityPc.addsNext, hg.2] using Alternates.removed (x := v) (.nil true)⟩
  case removed v => simpa [IdentityPc.Alone, IdentityPc.addsNext, hg] using Alternates.nil true
  case adding v => simpa [IdentityPc.Alone, IdentityPc.addsNext, hg] using Alternates.nil true
  case announcing v =>
    obtain ⟨hv, rfl⟩ := hg
    simpa [IdentityPc.Alone, IdentityPc.addsNext, hv] using Alternates.added hv (.nil false)

namespace IdentityRace

/-- With the other goroutine between calls, a goroutine runs alone. -/
theorem step_alone {S S' : IdentityRace} {t : Routine} (hother : (S.get t.other).pc = .ready)
    (ht : (S.get t).pc.Alone S.identity) (h : S.step t = some S') :
    (S'.get t.other).pc = .ready ∧ (S'.get t).pc.Alone S'.identity ∧ ∃ out, S'.sent = S.sent ++ out ∧
      Alternates ((S.get t).pc.addsNext S.identity) out ((S'.get t).pc.addsNext S'.identity) := by
  obtain ⟨g, out, hs, hg, hsent, hu⟩ := step_some h
  rw [hu _ t.other_ne, hg]
  obtain ⟨hg', halt⟩ := Goroutine.step_alone ht _ hs
  exact ⟨hother, hg', out, hsent, halt⟩

/-- A statement of either goroutine may run next: when it is not the one
inside `handleIdentity`, neither is. -/
theorem alone_switch {S : IdentityRace} {t t₁ : Routine} (hother : (S.get t.other).pc = .ready)
    (ht : (S.get t).pc.Alone S.identity) (h₁ : (S.get t₁.other).pc = .ready) :
    (S.get t₁).pc.Alone S.identity ∧ (S.get t₁).pc.addsNext S.identity = (S.get t).pc.addsNext S.identity := by
  rcases t.eq_or_eq_other t₁ with rfl | rfl
  · exact ⟨ht, rfl⟩
  · rw [Routine.other_other] at h₁
    rw [hother, h₁]
    exact ⟨trivial, rfl⟩

theorem run_alone {S S' : IdentityRace} {ts : List Routine} {t : Routine} (hother : (S.get t.other).pc = .ready)
    (ht : (S.get t).pc.Alone S.identity) (hx : S.exclusive ts = true) (h : S.run ts = some S') :
    ∃ out b, S'.sent = S.sent ++ out ∧ Alternates ((S.get t).pc.addsNext S.identity) out b := by
  induction ts generalizing S t with
  | nil => cases h; exact ⟨[], _, by simp, .nil _⟩
  | cons t₁ ts ih =>
      obtain ⟨S₁, h₁, h₂⟩ := run_cons_some h
      simp only [exclusive, Bool.and_eq_true, decide_eq_true_eq, h₁, Option.all_some] at hx
      obtain ⟨ht₁, hnext⟩ := alone_switch hother ht hx.1
      obtain ⟨hother₁, hS₁, out₁, hsent₁, halt₁⟩ := step_alone hx.1 ht₁ h₁
      obtain ⟨out₂, b, hsent₂, halt₂⟩ := ih hother₁ hS₁ hx.2 h₂
      exact ⟨out₁ ++ out₂, b, by rw [hsent₂, hsent₁, List.append_assoc], hnext ▸ halt₁.append halt₂⟩

end IdentityRace

/-- On every schedule where the two goroutines, each started between two
calls, are never inside `handleIdentity` at once, the identity messages
alternate, an `IdentityAdded` first when the identity is empty. -/
theorem exclusive_alternate {S S' : IdentityRace} {ts : List Routine} (hf : S.fetch.pc = .ready)
    (hw : S.watch.pc = .ready) (hx : S.exclusive ts = true) (h : S.run ts = some S') :
    ∃ out b, S'.sent = S.sent ++ out ∧ Alternates (S.identity = "") out b := by
  have hf' : (S.get .fetch).pc = .ready := hf
  simpa [hf', IdentityPc.addsNext] using
    IdentityRace.run_alone (t := .fetch) hw (by rw [hf']; trivial) hx h

/-- The fetch handles `A` before the watch starts: `A` is announced once. -/
theorem exclusive_alternate_once :
    raceStart.fetch.pc = .ready ∧ raceStart.watch.pc = .ready ∧
      raceStart.exclusive [.fetch, .fetch, .fetch, .fetch, .watch, .watch] = true ∧
      raceStart.run [.fetch, .fetch, .fetch, .fetch, .watch, .watch] =
        some ⟨"A", ⟨.ready, []⟩, ⟨.ready, []⟩, [.added "A"]⟩ ∧
      ∃ out b, [IdentityEvent.added "A"] = raceStart.sent ++ out ∧ Alternates (raceStart.identity = "") out b :=
  ⟨rfl, rfl, rfl, rfl, @exclusive_alternate raceStart ⟨"A", ⟨.ready, []⟩, ⟨.ready, []⟩, [.added "A"]⟩
    [.fetch, .fetch, .fetch, .fetch, .watch, .watch] rfl rfl rfl rfl⟩

/-! ### Goroutines that never overlap do what the watch does -/

/-- `Interleaves l a b`: `l` is `a` and `b` interleaved, each in its order. -/
inductive Interleaves {α : Type} : List α → List α → List α → Prop where
  | nil : Interleaves [] [] []
  | left {x : α} {l a b : List α} : Interleaves l a b → Interleaves (x :: l) (x :: a) b
  | right {x : α} {l a b : List α} : Interleaves l a b → Interleaves (x :: l) a (x :: b)

theorem Interleaves.concat_left {α : Type} {l a b : List α} (h : Interleaves l a b) (x : α) :
    Interleaves (l ++ [x]) (a ++ [x]) b := by
  induction h with
  | nil => exact .left .nil
  | left _ ih => exact .left ih
  | right _ ih => exact .right ih

theorem Interleaves.concat_right {α : Type} {l a b : List α} (h : Interleaves l a b) (x : α) :
    Interleaves (l ++ [x]) a (b ++ [x]) := by
  induction h with
  | nil => exact .right .nil
  | left _ ih => exact .left ih
  | right _ ih => exact .right ih

theorem watchIdentity_concat (values : List String) (v : String) (m : Modem) :
    watchIdentity (values ++ [v]) m =
      ((handleIdentity v (watchIdentity values m).1).1,
        (watchIdentity values m).2 ++ (handleIdentity v (watchIdentity values m).1).2) := by
  induction values generalizing m with
  | nil => simp [watchIdentity]
  | cons w ws ih => simp [watchIdentity, ih]

/-- What is left of a goroutine's call when it finishes it alone from the
modem `m`: the modem and the messages it then sends. -/
def IdentityPc.finish (m : Modem) : IdentityPc → Modem × List IdentityEvent
  | .ready => (m, [])
  | .removing v => (⟨v⟩, [.removed v])
  | .removed v => (⟨v⟩, [])
  | .checking v => if v ≠ "" ∧ m.identity = "" then (⟨v⟩, [.added v]) else (m, [])
  | .adding v => (⟨v⟩, [.added v])
  | .announcing v => (m, [.added v])

/-- The first statement of a call takes a value and leaves `handleIdentity`
of it to do. -/
theorem Goroutine.step_start {identity : String} {g : Goroutine} (hg : g.pc = .ready) :
    ∀ r ∈ g.step identity, ∃ v, g.values = v :: r.2.1.values ∧ r.1 = identity ∧ r.2.2 = [] ∧
      r.2.1.pc.finish ⟨r.1⟩ = handleIdentity v ⟨identity⟩ := by
  obtain ⟨pc, _ | ⟨v, vs⟩⟩ := g <;> subst hg <;>
    simp only [Goroutine.step, Option.mem_def, Option.some.injEq, forall_eq', reduceCtorEq]
  · exact fun _ => False.elim
  · by_cases hv : v = "" <;> by_cases hi : identity = "" <;> simp [hv, hi, IdentityPc.finish, handleIdentity]

/-- A later statement of a call sends part of what is left of it to do. -/
theorem Goroutine.step_finish {identity : String} {g : Goroutine} (hg : g.pc ≠ .ready) :
    ∀ r ∈ g.step identity, r.2.1.values = g.values ∧
      (r.2.1.pc.finish ⟨r.1⟩).1 = (g.pc.finish ⟨identity⟩).1 ∧
      r.2.2 ++ (r.2.1.pc.finish ⟨r.1⟩).2 = (g.pc.finish ⟨identity⟩).2 := by
  obtain ⟨pc, vs⟩ := g
  cases pc <;> simp only [Goroutine.step, Option.mem_def, Option.some.injEq, forall_eq']
  case ready => exact absurd rfl hg
  case checking v => split_ifs <;> simp [IdentityPc.finish, *]
  all_goals simp [IdentityPc.finish]

namespace IdentityRace

/-- The run from `S₀` has reached `S` with only `t` inside a call: once `t`
finishes it, the identity and the messages are those the sequential watch
leaves on `values`, which interleaves the values the goroutines took. -/
structure Serial (S₀ S : IdentityRace) (t : Routine) (values : List String)
    (taken : Routine → List String) : Prop where
  other_ready : (S.get t.other).pc = .ready
  interleaves : Interleaves values (taken .fetch) (taken .watch)
  took : ∀ u, (S₀.get u).values = taken u ++ (S.get u).values
  identity : (watchIdentity values ⟨S₀.identity⟩).1 = ((S.get t).pc.finish ⟨S.identity⟩).1
  sent : S₀.sent ++ (watchIdentity values ⟨S₀.identity⟩).2 = S.sent ++ ((S.get t).pc.finish ⟨S.identity⟩).2

theorem Serial.start {S : IdentityRace} (hf : S.fetch.pc = .ready) (hw : S.watch.pc = .ready) :
    Serial S S .fetch [] fun _ => [] where
  other_ready := hw
  interleaves := .nil
  took _ := rfl
  identity := by simp [get, hf, watchIdentity, IdentityPc.finish]
  sent := by simp [get, hf, watchIdentity, IdentityPc.finish]

/-- With the other goroutine between calls, either may take the next step. -/
theorem Serial.switch {S₀ S : IdentityRace} {t t₁ : Routine} {values : List String}
    {taken : Routine → List String} (h : Serial S₀ S t values taken) (h₁ : (S.get t₁.other).pc = .ready) :
    Serial S₀ S t₁ values taken := by
  rcases t.eq_or_eq_other t₁ with rfl | rfl
  · exact h
  · rw [Routine.other_other] at h₁
    refine ⟨by rwa [Routine.other_other], h.interleaves, h.took, ?_, ?_⟩
    · rw [h.other_ready, ← h₁]; exact h.identity
    · rw [h.other_ready, ← h₁]; exact h.sent

theorem Serial.step {S₀ S S' : IdentityRace} {t : Routine} {values : List String}
    {taken : Routine → List String} (h : Serial S₀ S t values taken) (hs : S.step t = some S') :
    ∃ values' taken', Serial S₀ S' t values' taken' := by
  obtain ⟨g, out, hg, hget, hsent, hu⟩ := step_some hs
  by_cases hr : (S.get t).pc = .ready
  · obtain ⟨v, hvals, hid, hout, hfin⟩ := Goroutine.step_start hr _ hg
    dsimp only at hvals hid hout hfin
    rw [hid] at hfin
    refine ⟨values ++ [v], Function.update taken t (taken t ++ [v]), ⟨?_, ?_, fun u => ?_, ?_, ?_⟩⟩
    · rw [hu _ t.other_ne]; exact h.other_ready
    · cases t
      · simpa [Function.update] using h.interleaves.concat_left v
      · simpa [Function.update] using h.interleaves.concat_right v
    · by_cases e : u = t
      · subst e; simp [h.took u, hvals, hget]
      · simp [Function.update, e, hu u e, h.took u]
    · have hW := h.identity
      rw [hr] at hW
      simp only [IdentityPc.finish] at hW
      rw [watchIdentity_concat, hW, hget, hid, hfin]
    · have hW := h.identity
      have hS := h.sent
      rw [hr] at hW hS
      simp only [IdentityPc.finish, List.append_nil] at hW hS
      simp only [watchIdentity_concat, hW, hget, hid, hfin, hsent, hout, List.append_nil, ← List.append_assoc, hS]
  · obtain ⟨hvals, hid, hout⟩ := Goroutine.step_finish hr _ hg
    dsimp only at hvals hid hout
    refine ⟨values, taken, ⟨?_, h.interleaves, fun u => ?_, ?_, ?_⟩⟩
    · rw [hu _ t.other_ne]; exact h.other_ready
    · by_cases e : u = t
      · subst e; rw [hget, hvals]; exact h.took u
      · rw [hu u e]; exact h.took u
    · rw [hget, hid]; exact h.identity
    · rw [hget, hsent, List.append_assoc, hout]; exact h.sent

theorem Serial.run {S₀ S S' : IdentityRace} {ts : List Routine} {t : Routine} {values : List String}
    {taken : Routine → List String} (h : Serial S₀ S t values taken) (hx : S.exclusive ts = true)
    (hr : S.run ts = some S') : ∃ t' values' taken', Serial S₀ S' t' values' taken' := by
  induction ts generalizing S t values taken with
  | nil => cases hr; exact ⟨t, values, taken, h⟩
  | cons t₁ ts ih =>
      obtain ⟨S₁, h₁, h₂⟩ := run_cons_some hr
      simp only [exclusive, Bool.and_eq_true, decide_eq_true_eq, h₁, Option.all_some] at hx
      obtain ⟨values₁, taken₁, hS₁⟩ := (h.switch hx.1).step h₁
      exact ih hS₁ hx.2 h₂

end IdentityRace

/-- A schedule where the two goroutines of `Init`, each started between two
calls, are never inside `handleIdentity` at once, and that ends with both
between calls, leaves the identity and the messages that the sequential watch
leaves on an interleaving of the values the two goroutines took. -/
theorem exclusive_sequential {S S' : IdentityRace} {ts : List Routine} (hf : S.fetch.pc = .ready)
    (hw : S.watch.pc = .ready) (hx : S.exclusive ts = true) (h : S.run ts = some S')
    (hf' : S'.fetch.pc = .ready) (hw' : S'.watch.pc = .ready) :
    ∃ values taken taken', Interleaves values taken taken' ∧
      S.fetch.values = taken ++ S'.fetch.values ∧ S.watch.values = taken' ++ S'.watch.values ∧
      (watchIdentity values ⟨S.identity⟩).1 = ⟨S'.identity⟩ ∧
      S'.sent = S.sent ++ (watchIdentity values ⟨S.identity⟩).2 := by
  obtain ⟨t, values, taken, hS⟩ := (IdentityRace.Serial.start hf hw).run hx h
  have hready : (S'.get t).pc = .ready := by cases t <;> assumption
  have hid := hS.identity
  have hsent := hS.sent
  rw [hready] at hid hsent
  simp only [IdentityPc.finish, List.append_nil] at hid hsent
  exact ⟨values, taken .fetch, taken .watch, hS.interleaves, hS.took .fetch, hS.took .watch, hid, hsent.symm⟩

/-- Both goroutines between calls, `A` announced once. -/
def announcedOnce : IdentityRace := ⟨"A", ⟨.ready, []⟩, ⟨.ready, []⟩, [.added "A"]⟩

/-- The fetch handles `A` and then the watch finds it announced: the watch
on `[A, A]` sends the one `IdentityAdded`. -/
theorem exclusive_sequential_once :
    raceStart.fetch.pc = .ready ∧ raceStart.watch.pc = .ready ∧
      raceStart.exclusive [.fetch, .fetch, .fetch, .fetch, .watch, .watch] = true ∧
      raceStart.run [.fetch, .fetch, .fetch, .fetch, .watch, .watch] = some announcedOnce ∧
      announcedOnce.fetch.pc = .ready ∧ announcedOnce.watch.pc = .ready ∧
      ∃ values taken taken', Interleaves values taken taken' ∧
        raceStart.fetch.values = taken ++ announcedOnce.fetch.values ∧
        raceStart.watch.values = taken' ++ announcedOnce.watch.values ∧
        (watchIdentity values ⟨raceStart.identity⟩).1 = ⟨announcedOnce.identity⟩ ∧
        announcedOnce.sent = raceStart.sent ++ (watchIdentity values ⟨raceStart.identity⟩).2 :=
  ⟨rfl, rfl, rfl, rfl, rfl, rfl, @exclusive_sequential raceStart announcedOnce
    [.fetch, .fetch, .fetch, .fetch, .watch, .watch] rfl rfl rfl rfl rfl rfl⟩

end Nuntium.Ofono
