import NetworkMonitor.Timer.Measurements

namespace NetworkMonitor

/-- One statement of a program using timers: `Timer t{name}` (the clock reads `now` as the
constructor ends), `t.Stop()`, the end of `t`'s scope (its destructor calls `Stop()`), and
`Timer::ClearAll()`. Timers are numbered in construction order. -/
inductive TimerOp
  | construct (name : String) (now : Int)
  | stop (timer : Nat) (now : Int)
  | destroy (timer : Nat) (now : Int)
  | clearAll
  deriving DecidableEq, Repr

/-- The store, every constructed timer with whether it is still alive, and proof-only ghost
state: for each name, the number of the construction that appended each of its measurements. -/
structure TimerSystem where
  store : TimerMeasurements := {}
  timers : List (Timer × Bool) := []
  owners : List (String × List Nat) := []
  deriving DecidableEq, Repr

namespace TimerSystem

/-- The construction that appended the measurement `(name, i)`. -/
def ownerAt (sys : TimerSystem) (name : String) (i : Nat) : Option Nat :=
  (sys.owners.lookup name).bind (·[i]?)

def apply (sys : TimerSystem) : TimerOp → Except TimerFault TimerSystem
  | .construct name now =>
    let (t, store) := Timer.new sys.store name now
    .ok { store, timers := sys.timers ++ [(t, true)],
          owners := assign sys.owners name ((sys.owners.lookup name).getD [] ++ [sys.timers.length]) }
  | .stop k now =>
    match sys.timers[k]? with
    | some (t, true) => do return { sys with store := ← t.stop sys.store now }
    | _ => .ok sys
  | .destroy k now =>
    match sys.timers[k]? with
    | some (t, true) => do
      return { sys with store := ← t.stop sys.store now, timers := sys.timers.set k (t, false) }
    | _ => .ok sys
  | .clearAll => .ok { sys with store := sys.store.clearAll, owners := [] }

end TimerSystem

namespace TimerOp

/-- A program stops and destroys only timers that are alive, and the clock never reads 0. -/
def Valid (sys : TimerSystem) : TimerOp → Prop
  | .construct _ now => now ≠ 0
  | .stop k now | .destroy k now => sys.timers[k]?.map (·.2) = some true ∧ now ≠ 0
  | .clearAll => True

instance (sys : TimerSystem) (op : TimerOp) : Decidable (op.Valid sys) := by
  cases op <;> unfold Valid <;> exact inferInstance

/-- `ClearAll` is called only when no timer is alive. -/
def ClearsIdle (sys : TimerSystem) : TimerOp → Prop
  | .clearAll => ∀ p ∈ sys.timers, p.2 = false
  | _ => True

instance (sys : TimerSystem) (op : TimerOp) : Decidable (op.ClearsIdle sys) := by
  cases op <;> unfold ClearsIdle <;> exact inferInstance

end TimerOp

namespace TimerSystem

inductive Reachable (allowed : TimerSystem → TimerOp → Prop) : TimerSystem → Prop
  | init : Reachable allowed {}
  | step {sys sys' : TimerSystem} (op : TimerOp) : Reachable allowed sys → allowed sys op →
      sys.apply op = .ok sys' → Reachable allowed sys'

/-- Every live timer's `(name_, id_)` designates the measurement its own constructor appended,
and every stored measurement has started. -/
structure Designated (sys : TimerSystem) : Prop where
  shape : ∀ name, (sys.owners.lookup name).map List.length =
    (sys.store.measurements.lookup name).map List.length
  started : ∀ name i m, sys.store.get name i = some m → m.start ≠ 0
  own : ∀ k t, sys.timers[k]? = some (t, true) → sys.ownerAt t.name t.id = some k

variable {sys sys' : TimerSystem}

theorem ownerAt_eq (sys : TimerSystem) (name : String) (i : Nat) :
    sys.ownerAt name i = ((sys.owners.lookup name).getD [])[i]? := by
  unfold ownerAt
  cases sys.owners.lookup name <;> rfl

theorem apply_construct (name : String) (now : Int) :
    sys.apply (.construct name now) = .ok {
      store := (Timer.new sys.store name now).2
      timers := sys.timers ++ [((Timer.new sys.store name now).1, true)]
      owners := assign sys.owners name ((sys.owners.lookup name).getD [] ++ [sys.timers.length]) } :=
  rfl

theorem Designated.get (h : sys.Designated) {k : Nat} {t : Timer}
    (hk : sys.timers[k]? = some (t, true)) :
    ∃ m, sys.store.get t.name t.id = some m ∧ m.start ≠ 0 := by
  obtain ⟨os, hos, hk'⟩ := Option.bind_eq_some.1 (h.own k t hk)
  have hlen := h.shape t.name
  rw [hos] at hlen
  obtain ⟨ms, hms, hlen⟩ := Option.map_eq_some'.1 hlen.symm
  have hi : t.id < ms.length := hlen ▸ (List.getElem?_eq_some_iff.1 hk').1
  have hget : sys.store.get t.name t.id = some ms[t.id] := by
    simp [TimerMeasurements.get, hms, hi]
  exact ⟨_, hget, h.started _ _ _ hget⟩

theorem Designated.construct (h : sys.Designated) (name : String) {now : Int} (hnow : now ≠ 0) :
    Designated {
      store := (Timer.new sys.store name now).2
      timers := sys.timers ++ [((Timer.new sys.store name now).1, true)]
      owners := assign sys.owners name ((sys.owners.lookup name).getD [] ++ [sys.timers.length]) } := by
  have hlen : ((sys.owners.lookup name).getD []).length =
      ((sys.store.measurements.lookup name).getD []).length := by
    have := h.shape name
    revert this
    cases sys.owners.lookup name <;> cases sys.store.measurements.lookup name <;> simp
  refine ⟨fun k => ?_, fun k i m hm => ?_, fun k t hk => ?_⟩
  · simp only [lookup_assign, Timer.lookup_new]
    by_cases hk : k = name
    · simp [hk, hlen]
    · simp only [hk, if_false]; exact h.shape k
  · rw [TimerMeasurements.get_eq, Timer.lookup_new] at hm
    by_cases hk : k = name
    · subst hk
      simp only [if_true, Option.getD_some, getElem?_append_singleton] at hm
      split_ifs at hm with hi hi'
      · exact h.started k i m (by rw [TimerMeasurements.get_eq]; exact hm)
      · cases hm; exact hnow
    · simp only [hk, if_false] at hm
      exact h.started k i m (by rw [TimerMeasurements.get_eq]; exact hm)
  · rw [ownerAt_eq, lookup_assign]
    rw [getElem?_append_singleton] at hk
    split_ifs at hk with hk₁ hk₂
    · have ho := h.own k t hk
      rw [ownerAt_eq] at ho
      by_cases hn : t.name = name
      · rw [hn] at ho ⊢
        rw [if_pos rfl, Option.getD_some, getElem?_append_singleton,
          if_pos (List.getElem?_eq_some_iff.1 ho).1]
        exact ho
      · simpa [hn] using ho
    · cases hk
      simp [Timer.new_fst, getElem?_append_singleton, hlen, hk₂]

theorem Designated.stopped (h : sys.Designated) {k : Nat} {t : Timer}
    (hk : sys.timers[k]? = some (t, true)) {store : TimerMeasurements} {now : Int}
    (hs : t.stop sys.store now = .ok store) (timers : List (Timer × Bool))
    (htimers : ∀ (k : Nat) (t : Timer), timers[k]? = some (t, true) → sys.timers[k]? = some (t, true)) :
    Designated { sys with store, timers } := by
  obtain ⟨m, hm, -⟩ := h.get hk
  obtain ⟨store', hs', hget, hlen, -⟩ := Timer.stop_spec hm now
  rw [hs'] at hs
  cases hs
  refine ⟨fun name => (h.shape name).trans (hlen name).symm, fun name i m' hm' => ?_,
    fun k' t' hk' => h.own k' t' (htimers k' t' hk')⟩
  rw [hget] at hm'
  split_ifs at hm' with hki hc
  · cases hm'; exact h.started _ _ _ hm
  · cases hm'; exact h.started t.name t.id m hm
  · exact h.started _ _ _ hm'

theorem Designated.cleared (hidle : ∀ p ∈ sys.timers, p.2 = false) :
    Designated { sys with store := sys.store.clearAll, owners := [] } where
  shape _ := rfl
  started _ _ _ hm := by simp [TimerMeasurements.clearAll, TimerMeasurements.get] at hm
  own _ _ hk := absurd (hidle _ (List.getElem?_mem hk)) (by simp)

theorem Designated.step (h : sys.Designated) {op : TimerOp}
    (hv : op.Valid sys ∧ op.ClearsIdle sys) (hs : sys.apply op = .ok sys') : sys'.Designated := by
  cases op with
  | construct name now =>
    rw [apply_construct] at hs
    cases hs
    exact h.construct name hv.1
  | stop k now =>
    obtain ⟨⟨t, b⟩, hk, rfl⟩ := Option.map_eq_some'.1 hv.1.1
    simp only [apply, hk, except_bind_eq_ok] at hs
    obtain ⟨store, hstore, hs⟩ := hs
    cases hs
    exact h.stopped hk hstore sys.timers fun _ _ => id
  | destroy k now =>
    obtain ⟨⟨t, b⟩, hk, rfl⟩ := Option.map_eq_some'.1 hv.1.1
    simp only [apply, hk, except_bind_eq_ok] at hs
    obtain ⟨store, hstore, hs⟩ := hs
    cases hs
    refine h.stopped hk hstore _ fun k' t' hk' => ?_
    rw [List.getElem?_set] at hk'
    split_ifs at hk' with hkk
    · cases hk'
    · exact hk'
  | clearAll =>
    cases hs
    exact Designated.cleared hv.2

theorem designated_of_reachable
    (h : Reachable (fun s op => op.Valid s ∧ op.ClearsIdle s) sys) : sys.Designated := by
  induction h with
  | init => exact ⟨fun _ => rfl, fun _ _ _ hm => by simp [TimerMeasurements.get] at hm,
      fun _ _ hk => by simp at hk⟩
  | step op _ hv hs ih => exact ih.step hv hs

/-- A `ClearAll` while a timer is alive: that timer's later `Stop()` calls `std::terminate`
(`measurements.at(name_)` throws inside a `noexcept` function), and once a new timer of the same
name is constructed, the old timer designates the new one's measurement and stops it. -/
theorem clearAll_with_live_timer :
    let cleared : TimerSystem := { timers := [(⟨"x", 0⟩, true)] }
    let reused : TimerSystem := {
      store := { measurements := [("x", [{ start := 3 }])], order := ["x"] }
      timers := [(⟨"x", 0⟩, true), (⟨"x", 0⟩, true)]
      owners := [("x", [1])] }
    Reachable (fun s op => op.Valid s) cleared ∧
      (⟨"x", 0⟩ : Timer).stop cleared.store 2 = .error .terminate ∧
    Reachable (fun s op => op.Valid s) reused ∧ reused.timers[0]? = some (⟨"x", 0⟩, true) ∧
      reused.ownerAt "x" 0 = some 1 ∧
      ((⟨"x", 0⟩ : Timer).stop reused.store 4).map (·.get "x" 0) =
        .ok (some { start := 3, stop := 4 }) := by
  intro cleared reused
  have h : Reachable (fun s op => op.Valid s) cleared :=
    .step .clearAll (.step (.construct "x" 1) .init (by decide) rfl) trivial rfl
  exact ⟨h, rfl, .step (.construct "x" 3) h (by decide) rfl, rfl, rfl, rfl⟩

theorem live_timer_stop (h : Reachable (fun s op => op.Valid s ∧ op.ClearsIdle s) sys)
    {k : Nat} {t : Timer} (hk : sys.timers[k]? = some (t, true)) :
    sys.ownerAt t.name t.id = some k ∧
    ∃ m, sys.store.get t.name t.id = some m ∧ ∀ now, now ≠ 0 →
      ∃ store, t.stop sys.store now = .ok store ∧
        store.get t.name t.id = some (if m.stop = 0 then { m with stop := now } else m) ∧
        (∀ name i, (name, i) ≠ (t.name, t.id) → store.get name i = sys.store.get name i) ∧
        store.order = sys.store.order ∧
        ∀ now', t.stop store now' = .ok store := by
  have hd := designated_of_reachable h
  obtain ⟨m, hm, hstart⟩ := hd.get hk
  refine ⟨hd.own k t hk, m, hm, fun now hnow => ?_⟩
  obtain ⟨store, hs, hget, -, horder⟩ := Timer.stop_spec hm now
  have hself : store.get t.name t.id = some (if m.stop = 0 then { m with stop := now } else m) := by
    rw [hget, if_pos ⟨rfl, rfl⟩]
    by_cases h0 : m.stop = 0 <;> simp [TimerMeasurement.isComplete, hstart, h0]
  have hcomplete : (if m.stop = 0 then { m with stop := now } else m).isComplete := by
    by_cases h0 : m.stop = 0 <;> simp [TimerMeasurement.isComplete, hstart, hnow, h0]
  refine ⟨store, hs, hself, fun name i hne => ?_, horder,
    fun now' => Timer.stop_of_isComplete hself hcomplete now'⟩
  rw [hget, if_neg fun ⟨h₁, h₂⟩ => hne (by rw [h₁, h₂])]

theorem live_timer_stop_example :
    let sys : TimerSystem := {
      store := { measurements := [("x", [{ start := 1 }])], order := ["x"] }
      timers := [(⟨"x", 0⟩, true)]
      owners := [("x", [0])] }
    Reachable (fun s op => op.Valid s ∧ op.ClearsIdle s) sys ∧
      sys.timers[0]? = some (⟨"x", 0⟩, true) ∧ sys.ownerAt "x" 0 = some 0 := by
  intro sys
  have h : Reachable (fun s op => op.Valid s ∧ op.ClearsIdle s) sys :=
    .step (.construct "x" 1) .init (by decide) rfl
  have hk : sys.timers[0]? = some (⟨"x", 0⟩, true) := rfl
  exact ⟨h, hk, (live_timer_stop h hk).1⟩

end TimerSystem

end NetworkMonitor
