import NetworkMonitor.Timer.Program

namespace NetworkMonitor

/-- A line `Timer::PrintReport()` logs: "Found n timers", the two header lines, or one timer's
row. Column widths and the conversion to microseconds are formatting. -/
inductive ReportLine
  | found (nTimers : Nat)
  | header
  | row (name : String) (results : TimerResults)
  deriving DecidableEq, Repr

namespace TimerMeasurements

/-- The row loop of `PrintReport()`: `GetResults(name)` for each name, the first that throws
ending the report with its text. -/
def printRows (timers : TimerMeasurements) : List String → List ReportLine × Option String
  | [] => ([], none)
  | name :: names =>
    match timers.getResults name with
    | .error e => ([], some e)
    | .ok res =>
      let rest := timers.printRows names
      (.row name res :: rest.1, rest.2)

/-- `Timer::PrintReport()`: the lines it logs, and the text of the exception that escapes it. -/
def printReport (timers : TimerMeasurements) : List ReportLine × Option String :=
  let nTimers := timers.measurements.length
  let rows := timers.printRows timers.order
  (.found nTimers :: (if nTimers > 0 then [.header] else []) ++ rows.1, rows.2)

/-- The shape every program leaves the store in: each name has one vector, never empty, and
`order` lists exactly the names, each once. -/
structure WellShaped (timers : TimerMeasurements) : Prop where
  keys : (timers.measurements.map (·.1)).Nodup
  order_nodup : timers.order.Nodup
  mem_order : ∀ name, name ∈ timers.order ↔ (timers.measurements.lookup name).isSome
  nonempty : ∀ name ms, timers.measurements.lookup name = some ms → ms ≠ []

variable {timers timers' : TimerMeasurements}

theorem WellShaped.empty : WellShaped {} :=
  ⟨List.nodup_nil, List.nodup_nil, fun _ => by simp, fun _ _ h => by simp at h⟩

theorem WellShaped.setList (h : timers.WellShaped) {name : String} {ms : List TimerMeasurement}
    (hname : (timers.measurements.lookup name).isSome) (hms : ms ≠ []) :
    (timers.setList name ms).WellShaped where
  keys := nodup_assign h.keys _ _
  order_nodup := h.order_nodup
  mem_order k := by
    rw [setList_order, lookup_setList]
    split
    · next hk => subst hk; simpa using (h.mem_order k).2 hname
    · exact h.mem_order k
  nonempty k ms' hk := by
    rw [lookup_setList] at hk
    split at hk
    · cases hk; exact hms
    · exact h.nonempty k ms' hk

theorem new_order (name : String) (now : Int) : (Timer.new timers name now).2.order =
    if (timers.measurements.lookup name).getD [] = [] then timers.order ++ [name] else timers.order := by
  simp [Timer.new, List.length_eq_zero]

theorem WellShaped.new (h : timers.WellShaped) (name : String) (now : Int) :
    (Timer.new timers name now).2.WellShaped := by
  have hfresh : (timers.measurements.lookup name).getD [] = [] ↔ name ∉ timers.order := by
    rw [h.mem_order]
    cases hl : timers.measurements.lookup name with
    | none => simp
    | some ms => simpa using h.nonempty name ms hl
  refine ⟨nodup_assign h.keys _ _, ?_, fun k => ?_, fun k ms hk => ?_⟩
  · rw [new_order]
    split
    · next hn =>
      exact h.order_nodup.append (List.nodup_singleton _) (List.disjoint_singleton.2 (hfresh.1 hn))
    · exact h.order_nodup
  · rw [new_order, Timer.lookup_new]
    by_cases hk : k = name
    · subst hk
      split
      · simp
      · next hn => simpa using not_not.1 (mt hfresh.2 hn)
    · simp only [hk, if_false, ← h.mem_order]
      split <;> simp [hk]
  · rw [Timer.lookup_new] at hk
    split at hk
    · cases hk; simp
    · exact h.nonempty k ms hk

theorem WellShaped.stop (h : timers.WellShaped) {t : Timer} {now : Int}
    (hs : t.stop timers now = .ok timers') : timers'.WellShaped := by
  unfold Timer.stop at hs
  split at hs
  · cases hs
  · next ms hms =>
    split at hs
    · cases hs
    · split at hs <;> cases hs
      · exact h
      · exact h.setList (by simp [hms]) (by
          simpa [← List.length_pos, List.length_set] using h.nonempty _ ms hms)

theorem get_of_stop {t : Timer} {now : Int} (hs : t.stop timers now = .ok timers') :
    ∃ m, timers.get t.name t.id = some m := by
  unfold Timer.stop at hs
  split at hs
  · cases hs
  · next ms hms =>
    split at hs
    · cases hs
    · next m hm => exact ⟨m, by simp [get, hms, hm]⟩

theorem starts_stop {t : Timer} {now : Int} (hs : t.stop timers now = .ok timers') (name : String) :
    ((timers'.measurements.lookup name).getD []).map (·.start) =
      ((timers.measurements.lookup name).getD []).map (·.start) := by
  obtain ⟨m, hm⟩ := get_of_stop hs
  obtain ⟨store, hs', hget, -, -⟩ := Timer.stop_spec hm now
  cases hs'.symm.trans hs
  refine List.ext_getElem? fun i => ?_
  rw [List.getElem?_map, List.getElem?_map, ← get_eq, ← get_eq, hget]
  split
  · next hi => obtain ⟨rfl, rfl⟩ := hi; rw [hm]; split <;> rfl
  · rfl

theorem WellShaped.length_eq (h : timers.WellShaped) :
    timers.measurements.length = timers.order.length := by
  have hp : (timers.measurements.map (·.1)).Perm timers.order :=
    (List.perm_ext_iff_of_nodup h.keys h.order_nodup).2 fun name => by
      rw [h.mem_order, List.lookup_isSome_iff, List.mem_map]
      simp only [beq_iff_eq]
      exact ⟨fun ⟨p, hp, he⟩ => ⟨p, hp, he.symm⟩, fun ⟨p, hp, he⟩ => ⟨p, hp, he.symm⟩⟩
  simpa using hp.length_eq

theorem getResults_of_complete {name : String} {ms : List TimerMeasurement}
    (hms : timers.measurements.lookup name = some ms) (hne : ms ≠ []) (hc : ∀ m ∈ ms, m.isComplete) :
    ∃ r, timers.getResults name = .ok r ∧ r.nSamples = ms.length := by
  obtain ⟨m₀, ms', rfl⟩ := List.exists_cons_of_ne_nil hne
  simp only [getResults, hms]
  generalize hF : List.foldlM (m := Except String) _ (durationMax, (0 : Int), (0 : Int))
    (m₀ :: ms') = res
  obtain ⟨b, w, rfl, -⟩ := foldlM_results_ok (by intros; rfl) hc hF
  exact ⟨_, rfl, rfl⟩

theorem printRows_of_ok {P : String → TimerResults → Prop} : ∀ {names : List String},
    (∀ name ∈ names, ∃ r, timers.getResults name = .ok r ∧ P name r) →
    ∃ rows : List (String × TimerResults), timers.printRows names = (rows.map fun r => .row r.1 r.2, none) ∧
      rows.map (·.1) = names ∧ ∀ r ∈ rows, P r.1 r.2
  | [], _ => ⟨[], rfl, rfl, by simp⟩
  | name :: names, h => by
    obtain ⟨r, hr, hP⟩ := h name (List.mem_cons_self _ _)
    obtain ⟨rows, hrows, hnames, hall⟩ := printRows_of_ok fun n hn => h n (List.mem_cons_of_mem _ hn)
    refine ⟨(name, r) :: rows, ?_, by simp [hnames], List.forall_mem_cons.2 ⟨hP, hall⟩⟩
    simp only [printRows, hr, hrows, List.map_cons]

theorem get_new (name : String) (now : Int) (n : String) (i : Nat) :
    (Timer.new timers name now).2.get n i =
      if n = name ∧ i = ((timers.measurements.lookup name).getD []).length then some { start := now }
      else timers.get n i := by
  rw [get_eq, Timer.lookup_new, get_eq]
  by_cases hn : n = name
  · subst hn
    simp only [if_true, true_and, Option.getD_some, getElem?_append_singleton]
    split_ifs with h₁ h₂ h₃ <;> first | rfl | omega | exact (List.getElem?_eq_none (by omega)).symm
  · simp [hn]

end TimerMeasurements

namespace TimerSystem

variable {sys sys' : TimerSystem} {op : TimerOp}

theorem apply_eq_ok (hs : sys.apply op = .ok sys') :
    (∃ name now, op = .construct name now ∧ sys'.store = (Timer.new sys.store name now).2 ∧
      sys'.timers = sys.timers ++ [((Timer.new sys.store name now).1, true)]) ∨
    (∃ k now t, (op = .stop k now ∨ op = .destroy k now) ∧ sys.timers[k]? = some (t, true) ∧
      t.stop sys.store now = .ok sys'.store ∧
      (sys'.timers = sys.timers ∨ sys'.timers = sys.timers.set k (t, false))) ∨
    (∃ k now, (op = .stop k now ∨ op = .destroy k now) ∧ sys.timers[k]?.map (·.2) ≠ some true ∧
      sys' = sys) ∨
    (op = .clearAll ∧ sys'.store = {} ∧ sys'.timers = sys.timers) := by
  cases op with
  | construct name now => rw [apply_construct] at hs; cases hs; exact .inl ⟨name, now, rfl, rfl, rfl⟩
  | stop k now =>
    simp only [apply] at hs
    split at hs
    · next t hk =>
      obtain ⟨store, hst, hs⟩ := except_bind_eq_ok.1 hs
      cases hs
      exact .inr (.inl ⟨k, now, t, .inl rfl, hk, hst, .inl rfl⟩)
    · next hk =>
      cases hs
      refine .inr (.inr (.inl ⟨k, now, .inl rfl, fun h => ?_, rfl⟩))
      obtain ⟨⟨t, b⟩, ht, rfl⟩ := Option.map_eq_some'.1 h
      exact hk t ht
  | destroy k now =>
    simp only [apply] at hs
    split at hs
    · next t hk =>
      obtain ⟨store, hst, hs⟩ := except_bind_eq_ok.1 hs
      cases hs
      exact .inr (.inl ⟨k, now, t, .inr rfl, hk, hst, .inr rfl⟩)
    · next hk =>
      cases hs
      refine .inr (.inr (.inl ⟨k, now, .inr rfl, fun h => ?_, rfl⟩))
      obtain ⟨⟨t, b⟩, ht, rfl⟩ := Option.map_eq_some'.1 h
      exact hk t ht
  | clearAll => cases hs; exact .inr (.inr (.inr ⟨rfl, rfl, rfl⟩))

theorem wellShaped_apply (h : sys.store.WellShaped) (hs : sys.apply op = .ok sys') :
    sys'.store.WellShaped := by
  rcases apply_eq_ok hs with ⟨name, now, -, hst, -⟩ | ⟨k, now, t, -, -, hst, -⟩ | ⟨-, -, -, -, rfl⟩ |
    ⟨-, hst, -⟩
  · exact hst ▸ h.new name now
  · exact h.stop hst
  · exact h
  · exact hst ▸ TimerMeasurements.WellShaped.empty

/-- Every stored measurement has started, and one that is not complete belongs to a live timer. -/
structure Settled (sys : TimerSystem) : Prop where
  started : ∀ name i m, sys.store.get name i = some m → m.start ≠ 0
  owned : ∀ name i m, sys.store.get name i = some m → ¬m.isComplete →
    ∃ k : Nat, sys.timers[k]? = some (⟨name, i⟩, true)

theorem Settled.empty : Settled {} :=
  ⟨fun _ _ _ hm => by simp [TimerMeasurements.get] at hm,
    fun _ _ _ hm => by simp [TimerMeasurements.get] at hm⟩

theorem Settled.construct (h : sys.Settled) {name : String} {now : Int} (hnow : now ≠ 0)
    (hst : sys'.store = (Timer.new sys.store name now).2)
    (htm : sys'.timers = sys.timers ++ [((Timer.new sys.store name now).1, true)]) : sys'.Settled := by
  refine ⟨fun n i m hm => ?_, fun n i m hm hc => ?_⟩ <;>
    rw [hst, TimerMeasurements.get_new] at hm <;> split_ifs at hm with hni
  · cases hm; exact hnow
  · exact h.started n i m hm
  · exact ⟨sys.timers.length, by rw [htm, List.getElem?_concat_length, Timer.new_fst, hni.1, hni.2]⟩
  · obtain ⟨k, hk⟩ := h.owned n i m hm hc
    exact ⟨k, by rw [htm, List.getElem?_append_left (List.getElem?_eq_some_iff.1 hk).1, hk]⟩

theorem Settled.stopped (h : sys.Settled) {k : Nat} {t : Timer} {now : Int} (hnow : now ≠ 0)
    (hk : sys.timers[k]? = some (t, true)) (hst : t.stop sys.store now = .ok sys'.store)
    (htm : sys'.timers = sys.timers ∨ sys'.timers = sys.timers.set k (t, false)) : sys'.Settled := by
  obtain ⟨m, hm₀⟩ := TimerMeasurements.get_of_stop hst
  obtain ⟨store, hs', hget, -, -⟩ := Timer.stop_spec hm₀ now
  cases hs'.symm.trans hst
  have hdone : (if m.isComplete then m else { m with stop := now }).start ≠ 0 ∧
      (if m.isComplete then m else { m with stop := now }).isComplete := by
    have := h.started _ _ _ hm₀
    split <;> simp_all [TimerMeasurement.isComplete]
  refine ⟨fun n i m' hm => ?_, fun n i m' hm hc => ?_⟩ <;> rw [hget] at hm <;>
    by_cases hni : n = t.name ∧ i = t.id
  · rw [if_pos hni] at hm; cases hm; exact hdone.1
  · rw [if_neg hni] at hm; exact h.started n i m' hm
  · rw [if_pos hni] at hm; cases hm; exact absurd hdone.2 hc
  · rw [if_neg hni] at hm
    obtain ⟨k', hk'⟩ := h.owned n i m' hm hc
    refine ⟨k', ?_⟩
    rcases htm with htm | htm
    · rw [htm, hk']
    · have hne : k ≠ k' := by
        rintro rfl
        cases hk.symm.trans hk'
        exact hni ⟨rfl, rfl⟩
      rw [htm, List.getElem?_set_ne hne, hk']

theorem Settled.step (h : sys.Settled) (hv : op.Valid sys) (hs : sys.apply op = .ok sys') :
    sys'.Settled := by
  rcases apply_eq_ok hs with ⟨name, now, rfl, hst, htm⟩ | ⟨k, now, t, hop, hk, hst, htm⟩ |
    ⟨-, -, -, -, rfl⟩ | ⟨-, hst, -⟩
  · exact h.construct hv hst htm
  · have hnow : now ≠ 0 := by rcases hop with rfl | rfl <;> exact hv.2
    exact h.stopped hnow hk hst htm
  · exact h
  · exact ⟨fun _ _ _ hm => by simp [hst, TimerMeasurements.get] at hm,
      fun _ _ _ hm => by simp [hst, TimerMeasurements.get] at hm⟩

/-- `ops`, run in turn from `sys`, each allowed where it is made and each returning, end in
`sys'`. -/
inductive Runs (allowed : TimerSystem → TimerOp → Prop) :
    TimerSystem → List TimerOp → TimerSystem → Prop
  | nil (sys : TimerSystem) : Runs allowed sys [] sys
  | cons {sys mid sys' : TimerSystem} {op : TimerOp} {ops : List TimerOp} :
      allowed sys op → sys.apply op = .ok mid → Runs allowed mid ops sys' →
        Runs allowed sys (op :: ops) sys'

section runs

variable {allowed : TimerSystem → TimerOp → Prop} {ops : List TimerOp}

theorem Runs.invariant {P : TimerSystem → Prop}
    (hstep : ∀ {s s' : TimerSystem} {op : TimerOp}, P s → allowed s op → s.apply op = .ok s' → P s')
    (h : Runs allowed sys ops sys') (h₀ : P sys) : P sys' := by
  induction h with
  | nil => exact h₀
  | cons ha hs _ ih => exact ih (hstep h₀ ha hs)

theorem Runs.snoc_inv {op : TimerOp} :
    ∀ {sys : TimerSystem} {ops : List TimerOp}, Runs allowed sys (ops ++ [op]) sys' →
      ∃ mid, Runs allowed sys ops mid ∧ mid.apply op = .ok sys'
  | sys, [], h => by
    cases h with
    | cons _ hs hr => cases hr; exact ⟨sys, .nil sys, hs⟩
  | _, _ :: _, h => by
    cases h with
    | cons ha hs hr =>
      obtain ⟨mid, hr', hs'⟩ := Runs.snoc_inv hr
      exact ⟨mid, .cons ha hs hr', hs'⟩

end runs

end TimerSystem

namespace TimerOp

/-- `op` constructs a timer named `name`. -/
def constructs (name : String) : TimerOp → Bool
  | .construct n _ => n = name
  | _ => false

/-- The clock reading at which `op` constructs a timer named `name`. -/
def startOf (name : String) : TimerOp → Option Int
  | .construct n now => if n = name then some now else none
  | _ => none

end TimerOp

/-- The statements of `ops` after its last `ClearAll`; all of them if it has none. -/
def sinceLastClear (ops : List TimerOp) : List TimerOp :=
  (ops.reverse.takeWhile (· ≠ .clearAll)).reverse

theorem sinceLastClear_append_singleton (ops : List TimerOp) (op : TimerOp) :
    sinceLastClear (ops ++ [op]) = if op = .clearAll then [] else sinceLastClear ops ++ [op] := by
  unfold sinceLastClear
  rw [List.reverse_append, List.reverse_singleton, List.singleton_append, List.takeWhile_cons]
  by_cases h : op = .clearAll <;> simp [h]

namespace TimerSystem

variable {sys sys' : TimerSystem} {op : TimerOp}

theorem length_apply (hs : sys.apply op = .ok sys') (name : String) :
    ((sys'.store.measurements.lookup name).getD []).length =
      if op = .clearAll then 0
      else ((sys.store.measurements.lookup name).getD []).length + if op.constructs name then 1 else 0 := by
  rcases apply_eq_ok hs with ⟨n, now, rfl, hst, -⟩ | ⟨k, now, t, hop, -, hst, -⟩ |
    ⟨k, now, hop, -, rfl⟩ | ⟨rfl, hst, -⟩
  · rw [hst, Timer.lookup_new]
    by_cases hn : name = n
    · subst hn; simp [TimerOp.constructs]
    · simp [TimerOp.constructs, hn, Ne.symm hn]
  · obtain ⟨m, hm⟩ := TimerMeasurements.get_of_stop hst
    obtain ⟨store, hs', -, hlen, -⟩ := Timer.stop_spec hm now
    cases hs'.symm.trans hst
    have hl := hlen name
    have hop' : op ≠ .clearAll ∧ op.constructs name = false := by
      rcases hop with rfl | rfl <;> exact ⟨by simp, rfl⟩
    rw [if_neg hop'.1, hop'.2, if_neg Bool.false_ne_true, Nat.add_zero]
    revert hl
    cases sys'.store.measurements.lookup name <;> cases sys.store.measurements.lookup name <;> simp
  · have hop' : op ≠ .clearAll ∧ op.constructs name = false := by
      rcases hop with rfl | rfl <;> exact ⟨by simp, rfl⟩
    rw [if_neg hop'.1, hop'.2, if_neg Bool.false_ne_true, Nat.add_zero]
  · simp [hst]

theorem length_of_runs {allowed : TimerSystem → TimerOp → Prop} {ops : List TimerOp}
    (h : Runs allowed {} ops sys) (name : String) :
    ((sys.store.measurements.lookup name).getD []).length =
      (sinceLastClear ops).countP (·.constructs name) := by
  induction ops using List.reverseRecOn generalizing sys with
  | nil => cases h; rfl
  | append_singleton ops op ih =>
    obtain ⟨mid, hr, hs⟩ := h.snoc_inv
    rw [length_apply hs, ih hr, sinceLastClear_append_singleton]
    split
    · rfl
    · rw [List.countP_append]
      split <;> simp_all

theorem starts_apply (hs : sys.apply op = .ok sys') (name : String) :
    ((sys'.store.measurements.lookup name).getD []).map (·.start) =
      if op = .clearAll then []
      else ((sys.store.measurements.lookup name).getD []).map (·.start) ++ (op.startOf name).toList := by
  rcases apply_eq_ok hs with ⟨n, now, rfl, hst, -⟩ | ⟨k, now, t, hop, -, hst, -⟩ |
    ⟨k, now, hop, -, rfl⟩ | ⟨rfl, hst, -⟩
  · rw [hst, Timer.lookup_new]
    by_cases hn : name = n
    · subst hn; simp [TimerOp.startOf]
    · simp [TimerOp.startOf, hn, Ne.symm hn]
  · rcases hop with rfl | rfl <;> simp [TimerMeasurements.starts_stop hst, TimerOp.startOf]
  · rcases hop with rfl | rfl <;> simp [TimerOp.startOf]
  · simp [hst]

theorem starts_of_runs {allowed : TimerSystem → TimerOp → Prop} {ops : List TimerOp}
    (h : Runs allowed {} ops sys) (name : String) :
    ((sys.store.measurements.lookup name).getD []).map (·.start) =
      (sinceLastClear ops).filterMap (·.startOf name) := by
  induction ops using List.reverseRecOn generalizing sys with
  | nil => cases h; rfl
  | append_singleton ops op ih =>
    obtain ⟨mid, hr, hs⟩ := h.snoc_inv
    rw [starts_apply hs, ih hr, sinceLastClear_append_singleton]
    split
    · rfl
    · rw [List.filterMap_append, List.filterMap_cons, List.filterMap_nil]
      cases op.startOf name <;> rfl

theorem starts_of_runs_example :
    let sys : TimerSystem := {
      store := { measurements := [("x", [{ start := 5, stop := 6 }]), ("y", [{ start := 4, stop := 7 }])]
                 order := ["y", "x"] }
      timers := [(⟨"x", 0⟩, false), (⟨"y", 0⟩, false), (⟨"x", 0⟩, false)]
      owners := [("x", [2]), ("y", [1])] }
    Runs (fun _ _ => True) {} [.construct "x" 1, .stop 0 2, .destroy 0 3, .clearAll,
      .construct "y" 4, .construct "x" 5, .destroy 2 6, .destroy 1 7] sys ∧
      ((sys.store.measurements.lookup "x").getD []).map (·.start) = [5] := by
  intro sys
  have h : Runs (fun _ _ => True) {} [.construct "x" 1, .stop 0 2, .destroy 0 3, .clearAll,
      .construct "y" 4, .construct "x" 5, .destroy 2 6, .destroy 1 7] sys :=
    .cons trivial rfl <| .cons trivial rfl <| .cons trivial rfl <| .cons trivial rfl <|
      .cons trivial rfl <| .cons trivial rfl <| .cons trivial rfl <| .cons trivial rfl <| .nil _
  exact ⟨h, (starts_of_runs h "x").trans rfl⟩

theorem store_wellShaped {allowed : TimerSystem → TimerOp → Prop} (h : Reachable allowed sys) :
    (sys.store.measurements.map (·.1)).Nodup ∧ sys.store.order.Nodup ∧
      (∀ name, name ∈ sys.store.order ↔ (sys.store.measurements.lookup name).isSome) ∧
      ∀ name ms, sys.store.measurements.lookup name = some ms → ms ≠ [] := by
  have hw : sys.store.WellShaped := by
    induction h with
    | init => exact TimerMeasurements.WellShaped.empty
    | step _ _ _ hs ih => exact wellShaped_apply ih hs
  exact ⟨hw.keys, hw.order_nodup, hw.mem_order, hw.nonempty⟩

/-- A `ClearAll` with a live timer, then that name again: `order` still lists it once. -/
theorem store_wellShaped_example :
    let sys : TimerSystem := {
      store := { measurements := [("x", [{ start := 3 }])], order := ["x"] }
      timers := [(⟨"x", 0⟩, true), (⟨"x", 0⟩, true)]
      owners := [("x", [1])] }
    Reachable (fun _ _ => True) sys ∧ sys.store.order.Nodup := by
  intro sys
  have h : Reachable (fun _ _ => True) sys :=
    .step (.construct "x" 3) (.step .clearAll (.step (.construct "x" 1) .init trivial rfl) trivial rfl)
      trivial rfl
  exact ⟨h, (store_wellShaped h).2.1⟩

theorem measurement_complete_or_live (h : Reachable (fun s op => op.Valid s) sys) {name : String}
    {i : Nat} {m : TimerMeasurement} (hm : sys.store.get name i = some m) :
    m.start ≠ 0 ∧ (m.isComplete ∨ ∃ k : Nat, sys.timers[k]? = some (⟨name, i⟩, true)) := by
  suffices hs : sys.Settled from ⟨hs.started _ _ _ hm, or_iff_not_imp_left.2 (hs.owned _ _ _ hm)⟩
  clear hm
  induction h with
  | init => exact Settled.empty
  | step _ _ hv hs ih => exact ih.step hv hs

theorem measurement_complete_or_live_example :
    let sys : TimerSystem := {
      store := { measurements := [("x", [{ start := 1 }])], order := ["x"] }
      timers := [(⟨"x", 0⟩, true)]
      owners := [("x", [0])] }
    Reachable (fun s op => op.Valid s) sys ∧ sys.store.get "x" 0 = some { start := 1 } ∧
      ((1 : Int) ≠ 0 ∧ (({ start := 1 } : TimerMeasurement).isComplete ∨
        ∃ k : Nat, sys.timers[k]? = some (⟨"x", 0⟩, true))) := by
  intro sys
  have h : Reachable (fun s op => op.Valid s) sys := .step (.construct "x" 1) .init (by decide) rfl
  have hm : sys.store.get "x" 0 = some { start := 1 } := rfl
  exact ⟨h, hm, measurement_complete_or_live h hm⟩

theorem printReport_after_run {ops : List TimerOp} (h : Runs (fun s op => op.Valid s) {} ops sys)
    (hidle : ∀ p ∈ sys.timers, p.2 = false) :
    ∃ rows : List (String × TimerResults),
      sys.store.printReport = (.found rows.length :: (if rows.length > 0 then [.header] else []) ++
        rows.map (fun r => .row r.1 r.2), none) ∧
      (rows.map (·.1)).Nodup ∧
      (∀ name, name ∈ rows.map (·.1) ↔ ∃ op ∈ sinceLastClear ops, op.constructs name) ∧
      ∀ r ∈ rows, r.2.nSamples = (sinceLastClear ops).countP (·.constructs r.1) := by
  have hw : sys.store.WellShaped :=
    h.invariant (fun hP _ hs => wellShaped_apply hP hs) TimerMeasurements.WellShaped.empty
  have hs : sys.Settled := h.invariant (fun hP hv hs => hP.step hv hs) Settled.empty
  have hcount := length_of_runs h
  -- with no timer alive every measurement is complete, so each name of `order` has a row
  have hrow : ∀ name ∈ sys.store.order, ∃ r, sys.store.getResults name = .ok r ∧
      r.nSamples = (sinceLastClear ops).countP (·.constructs name) := by
    intro name hname
    obtain ⟨ms, hms⟩ := Option.isSome_iff_exists.1 ((hw.mem_order name).1 hname)
    have hc : ∀ m ∈ ms, m.isComplete := by
      intro m hm
      obtain ⟨i, hi, rfl⟩ := List.getElem_of_mem hm
      by_contra hc
      obtain ⟨k, hk⟩ := hs.owned name i _ (by simp [TimerMeasurements.get, hms, hi]) hc
      exact absurd (hidle _ (List.getElem?_mem hk)) (by simp)
    obtain ⟨r, hr, hn⟩ := TimerMeasurements.getResults_of_complete hms (hw.nonempty name ms hms) hc
    exact ⟨r, hr, by rw [hn, ← hcount, hms]; rfl⟩
  obtain ⟨rows, hrows, hnames, hall⟩ := TimerMeasurements.printRows_of_ok hrow
  have hlen : sys.store.measurements.length = rows.length := by
    rw [hw.length_eq, ← hnames, List.length_map]
  refine ⟨rows, by simp only [TimerMeasurements.printReport, hrows, hlen], hnames ▸ hw.order_nodup,
    fun name => ?_, hall⟩
  rw [hnames, hw.mem_order, ← List.countP_pos_iff, ← hcount]
  cases hl : sys.store.measurements.lookup name with
  | none => simp
  | some ms => simpa [List.length_pos] using hw.nonempty name ms hl

/-- Timer x stopped twice, a `ClearAll`, then y and a second x, each ended: the report has the
rows y and x and throws nothing. -/
theorem printReport_after_run_example :
    let sys : TimerSystem := {
      store := { measurements := [("x", [{ start := 5, stop := 6 }]), ("y", [{ start := 4, stop := 7 }])]
                 order := ["y", "x"] }
      timers := [(⟨"x", 0⟩, false), (⟨"y", 0⟩, false), (⟨"x", 0⟩, false)]
      owners := [("x", [2]), ("y", [1])] }
    Runs (fun s op => op.Valid s) {} [.construct "x" 1, .stop 0 2, .destroy 0 3, .clearAll,
      .construct "y" 4, .construct "x" 5, .destroy 2 6, .destroy 1 7] sys ∧
      (∀ p ∈ sys.timers, p.2 = false) ∧ sys.store.printReport.2 = none := by
  intro sys
  have h : Runs (fun s op => op.Valid s) {} [.construct "x" 1, .stop 0 2, .destroy 0 3, .clearAll,
      .construct "y" 4, .construct "x" 5, .destroy 2 6, .destroy 1 7] sys :=
    .cons (by decide) rfl <| .cons (by decide) rfl <| .cons (by decide) rfl <| .cons trivial rfl <|
      .cons (by decide) rfl <| .cons (by decide) rfl <| .cons (by decide) rfl <|
        .cons (by decide) rfl <| .nil _
  have hidle : ∀ p ∈ sys.timers, p.2 = false := by decide
  obtain ⟨rows, hrep, -⟩ := printReport_after_run h hidle
  exact ⟨h, hidle, by rw [hrep]⟩

end TimerSystem

end NetworkMonitor
