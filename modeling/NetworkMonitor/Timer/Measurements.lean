import Mathlib.Algebra.Order.BigOperators.Group.List
import NetworkMonitor.Network.Types

namespace NetworkMonitor

theorem getElem?_append_singleton {α : Type} (l : List α) (a : α) (i : Nat) :
    (l ++ [a])[i]? = if i < l.length then l[i]? else if i = l.length then some a else none := by
  split_ifs with h₁ h₂
  · exact List.getElem?_append_left h₁
  · subst h₂; exact List.getElem?_concat_length l a
  · rw [List.getElem?_append_right (by omega)]
    exact List.getElem?_eq_none (by simp; omega)

/-- A measurement's clock readings as `time_since_epoch().count()`; 0 means "not set". -/
structure TimerMeasurement where
  start : Int := 0
  stop : Int := 0
  deriving DecidableEq, Repr

namespace TimerMeasurement

def isComplete (m : TimerMeasurement) : Bool := m.start ≠ 0 && m.stop ≠ 0

def getDuration (m : TimerMeasurement) : Except String Int :=
  if m.start = 0 then .error "Measurement hasn't started yet"
  else if m.stop = 0 then .error "Measurement hasn't stopped yet"
  else .ok (m.stop - m.start)

theorem getDuration_of_isComplete {m : TimerMeasurement} (h : m.isComplete) :
    m.getDuration = .ok (m.stop - m.start) := by
  simp only [isComplete, ne_eq, Bool.and_eq_true, decide_eq_true_eq] at h
  simp [getDuration, h.1, h.2]

theorem getDuration_of_not_isComplete {m : TimerMeasurement} (h : ¬m.isComplete) :
    ∃ e, m.getDuration = .error e ∧
      (e = "Measurement hasn't started yet" ∨ e = "Measurement hasn't stopped yet") := by
  unfold getDuration
  split_ifs with h₁ h₂
  · exact ⟨_, rfl, .inl rfl⟩
  · exact ⟨_, rfl, .inr rfl⟩
  · simp [isComplete, h₁, h₂] at h

end TimerMeasurement

/-- The process-wide `TimerMeasurements` singleton. -/
structure TimerMeasurements where
  measurements : List (String × List TimerMeasurement) := []
  order : List String := []
  deriving DecidableEq, Repr

/-- A `Timer`'s `name_` and `id_`. -/
structure Timer where
  name : String
  id : Nat
  deriving DecidableEq, Repr

/-- How `Timer::Stop()`, which is `noexcept`, ends when it cannot return: `measurements.at(name_)`
throws, so `std::terminate` is called, or `measurements[id_]` is past the end. -/
inductive TimerFault
  | terminate
  | outOfBounds
  deriving DecidableEq, Repr

structure TimerResults where
  best : Int := 0
  worst : Int := 0
  avg : Int := 0
  nSamples : Nat := 0
  deriving DecidableEq, Repr

namespace TimerMeasurements

/-- The measurement that `(name, id)` designates. -/
def get (timers : TimerMeasurements) (name : String) (i : Nat) : Option TimerMeasurement :=
  (timers.measurements.lookup name).bind (·[i]?)

/-- `timers.measurements[name] = measurements`. -/
def setList (timers : TimerMeasurements) (name : String) (measurements : List TimerMeasurement) :
    TimerMeasurements :=
  { timers with measurements := assign timers.measurements name measurements }

theorem lookup_setList (timers : TimerMeasurements) (name k : String) (ms : List TimerMeasurement) :
    (timers.setList name ms).measurements.lookup k =
      if k = name then some ms else timers.measurements.lookup k :=
  lookup_assign _ _ _ _

theorem get_eq (timers : TimerMeasurements) (name : String) (i : Nat) :
    timers.get name i = ((timers.measurements.lookup name).getD [])[i]? := by
  unfold get
  cases timers.measurements.lookup name <;> rfl

@[simp] theorem setList_order (timers : TimerMeasurements) (name : String)
    (ms : List TimerMeasurement) : (timers.setList name ms).order = timers.order := rfl

/-- `Timer::ClearAll()`. -/
def clearAll (_ : TimerMeasurements) : TimerMeasurements := {}

/-- The largest `Clock::duration`, a signed 64-bit count. -/
def durationMax : Int := 2 ^ 63 - 1

/-- `Timer::GetResults(name)`: the durations are summed, compared and averaged in one loop. -/
def getResults (timers : TimerMeasurements) (name : String) : Except String TimerResults :=
  match timers.measurements.lookup name with
  | none => .error ("Could not find measurement: " ++ name)
  | some [] => .ok {}
  | some measurements => do
    let (best, worst, avg) ← measurements.foldlM (fun (best, worst, avg) measurement => do
        let duration ← measurement.getDuration
        pure (if duration < best then duration else best,
          if duration > worst then duration else worst, avg + duration))
      (durationMax, 0, 0)
    pure ⟨best, worst, avg.tdiv measurements.length, measurements.length⟩

/-! `avg /= nSamples` divides the signed count, truncating toward zero: the quotient of a sum of
`n` values stays between their least and, when it is not negative, their greatest. -/

theorem le_tdiv_of_mul_le {a b n : Int} (hn : 0 < n) (h : n * a ≤ b) : a ≤ b.tdiv n := by
  rcases le_or_lt 0 b with hb | hb
  · rw [Int.tdiv_eq_ediv hb hn.le]
    exact Int.le_ediv_of_mul_le hn (Int.mul_comm a n ▸ h)
  · have := Int.ediv_le_of_le_mul hn (show -b ≤ -a * n by rw [Int.neg_mul, Int.mul_comm]; omega)
    rw [← neg_neg b, Int.neg_tdiv, Int.tdiv_eq_ediv (by omega) hn.le]
    omega

theorem tdiv_le_of_le_mul {b n w : Int} (hn : 0 < n) (hw : 0 ≤ w) (h : b ≤ n * w) : b.tdiv n ≤ w := by
  rcases le_or_lt 0 b with hb | hb
  · rw [Int.tdiv_eq_ediv hb hn.le]
    exact Int.ediv_le_of_le_mul hn (Int.mul_comm n w ▸ h)
  · have := Int.tdiv_nonneg (neg_nonneg.2 hb.le) hn.le
    rw [← neg_neg b, Int.neg_tdiv]
    omega

section results

variable {f : Int × Int × Int → TimerMeasurement → Except String (Int × Int × Int)}
  (hf : ∀ b w a m, f (b, w, a) m = m.getDuration >>= fun d =>
    pure (if d < b then d else b, if d > w then d else w, a + d))
include hf

theorem foldlM_results_ok {ms : List TimerMeasurement} {b w a : Int}
    {res : Except String (Int × Int × Int)} (hc : ∀ m ∈ ms, m.isComplete)
    (h : ms.foldlM f (b, w, a) = res) :
    ∃ b' w', res = .ok (b', w', a + (ms.map fun m => m.stop - m.start).sum) ∧
      (b' ∈ b :: ms.map (fun m => m.stop - m.start) ∧
        ∀ d ∈ b :: ms.map (fun m => m.stop - m.start), b' ≤ d) ∧
      (w' ∈ w :: ms.map (fun m => m.stop - m.start) ∧
        ∀ d ∈ w :: ms.map (fun m => m.stop - m.start), d ≤ w') := by
  induction ms generalizing b w a with
  | nil => exact ⟨b, w, by rw [← h]; simp only [List.map_nil, List.sum_nil, add_zero]; rfl,
      by simp, by simp⟩
  | cons m ms ih =>
    rw [List.foldlM_cons, hf,
      TimerMeasurement.getDuration_of_isComplete (hc m (List.mem_cons_self _ _))] at h
    obtain ⟨b', w', rfl, ⟨hb, hb'⟩, ⟨hw, hw'⟩⟩ := ih (fun x hx => hc x (List.mem_cons_of_mem _ hx)) h
    simp only [List.map_cons, List.forall_mem_cons] at hb hb' hw hw' ⊢
    simp only [List.mem_cons] at hb hw ⊢
    refine ⟨b', w', by simp [add_assoc], ⟨?_, ?_, ?_, hb'.2⟩, ⟨?_, ?_, ?_, hw'.2⟩⟩
    · split_ifs at hb
      · exact .inr hb
      · exact hb.imp_right .inr
    · split_ifs at hb' <;> omega
    · split_ifs at hb' <;> omega
    · split_ifs at hw
      · exact .inr hw
      · exact hw.imp_right .inr
    · split_ifs at hw' <;> omega
    · split_ifs at hw' <;> omega

theorem foldlM_results_error {ms : List TimerMeasurement} {acc : Int × Int × Int}
    {res : Except String (Int × Int × Int)} (hinc : ∃ m ∈ ms, ¬m.isComplete)
    (h : ms.foldlM f acc = res) :
    ∃ e, res = .error e ∧
      (e = "Measurement hasn't started yet" ∨ e = "Measurement hasn't stopped yet") := by
  induction ms generalizing acc with
  | nil => simp at hinc
  | cons m ms ih =>
    obtain ⟨b, w, a⟩ := acc
    obtain ⟨m', hm', hc'⟩ := hinc
    rw [List.foldlM_cons, hf] at h
    by_cases hc : m.isComplete
    · rw [TimerMeasurement.getDuration_of_isComplete hc] at h
      exact ih ⟨m', (List.mem_cons.1 hm').resolve_left (by rintro rfl; exact hc' hc), hc'⟩ h
    · obtain ⟨e, he, hmsg⟩ := TimerMeasurement.getDuration_of_not_isComplete hc
      rw [he] at h
      exact ⟨e, h.symm, hmsg⟩

end results

theorem getResults_spec (timers : TimerMeasurements) (name : String) (ms : List TimerMeasurement)
    (hms : timers.measurements.lookup name = some ms) (hne : ms ≠ []) :
    let ds := ms.map fun m => m.stop - m.start
    ((∀ m ∈ ms, m.isComplete) → (∀ d ∈ ds, -2 ^ 63 ≤ d ∧ d < 2 ^ 63) →
      (∀ k ≤ ds.length, -2 ^ 63 ≤ (ds.take k).sum ∧ (ds.take k).sum < 2 ^ 63) →
      ∃ r, timers.getResults name = .ok r ∧ r.nSamples = ms.length ∧
        (r.best ∈ ds ∧ ∀ d ∈ ds, r.best ≤ d) ∧ (r.worst ∈ 0 :: ds ∧ ∀ d ∈ 0 :: ds, d ≤ r.worst) ∧
        r.avg = ds.sum.tdiv ms.length ∧ r.best ≤ r.avg ∧ r.avg ≤ r.worst) ∧
    ((∃ m ∈ ms, ¬m.isComplete) → ∃ e, timers.getResults name = .error e ∧
      (e = "Measurement hasn't started yet" ∨ e = "Measurement hasn't stopped yet")) := by
  intro ds
  obtain ⟨m₀, ms', rfl⟩ := List.exists_cons_of_ne_nil hne
  simp only [getResults, hms]
  generalize hF : List.foldlM (m := Except String) _ (durationMax, (0 : Int), (0 : Int))
    (m₀ :: ms') = res
  constructor
  · intro hc _ hfit
    obtain ⟨b, w, rfl, ⟨hb, hb'⟩, hw, hw'⟩ := foldlM_results_ok (by intros; rfl) hc hF
    have hpos : (0 : Int) < (m₀ :: ms').length := by simp only [List.length_cons]; omega
    have hlo := List.card_nsmul_le_sum ds b fun d hd => hb' d (.tail _ hd)
    have hhi := List.sum_le_card_nsmul ds w fun d hd => hw' d (.tail _ hd)
    rw [nsmul_eq_mul, List.length_map] at hlo hhi
    -- `best` starts at `Clock::duration::max()`, which the first duration does not exceed
    have hbest : b ∈ ds := by
      rcases List.mem_cons.1 hb with rfl | hb
      · have h₁ := (hfit 1 (by simp [ds])).2
        have h₂ := hb' (m₀.stop - m₀.start) (by simp)
        simp only [ds, List.map_cons, List.take_succ_cons, List.take_zero, List.sum_cons,
          List.sum_nil, add_zero] at h₁
        have : durationMax = m₀.stop - m₀.start := by unfold durationMax at h₂ ⊢; omega
        simp [ds, this]
      · exact hb
    refine ⟨⟨b, w, (0 + ds.sum).tdiv (m₀ :: ms').length, (m₀ :: ms').length⟩, rfl, rfl,
      ⟨hbest, fun d hd => hb' d (.tail _ hd)⟩, ⟨hw, hw'⟩, by rw [zero_add],
      le_tdiv_of_mul_le hpos (by rwa [zero_add]),
      tdiv_le_of_le_mul hpos (hw' 0 (.head _)) (by rwa [zero_add])⟩
  · intro hinc
    obtain ⟨e, rfl, he⟩ := foldlM_results_error (by intros; rfl) hinc hF
    exact ⟨e, rfl, he⟩

/-- Durations 3, 1 and -5: the sum -1 truncates to the mean 0, between -5 and 3. -/
theorem getResults_spec_example :
    let timers : TimerMeasurements := ⟨[("x", [⟨1, 4⟩, ⟨2, 3⟩, ⟨10, 5⟩])], ["x"]⟩
    ∃ r, timers.getResults "x" = .ok r ∧ r.best ≤ r.avg ∧ r.avg ≤ r.worst := by
  intro timers
  obtain ⟨r, hr, -, -, -, -, hlo, hhi⟩ :=
    (getResults_spec timers "x" _ rfl (by decide)).1 (by decide) (by decide) (by decide)
  exact ⟨r, hr, hlo, hhi⟩

example : (⟨[("x", [⟨1, 4⟩, ⟨2, 3⟩, ⟨10, 5⟩])], ["x"]⟩ : TimerMeasurements).getResults "x" =
    .ok ⟨-5, 3, 0, 3⟩ := rfl

end TimerMeasurements

namespace Timer

/-- `Timer::Timer(name)`: append a measurement, take its index as `id_`, record the name's first
use in `order`, and start the measurement at clock reading `now`. -/
def new (timers : TimerMeasurements) (name : String) (now : Int) : Timer × TimerMeasurements :=
  let measurements := (timers.measurements.lookup name).getD [] ++ [{ start := now }]
  let id := measurements.length - 1
  (⟨name, id⟩, { timers.setList name measurements with
    order := if id = 0 then timers.order ++ [name] else timers.order })

/-- `Timer::Stop()` at clock reading `now`: set the stop time unless the measurement is complete. -/
def stop (t : Timer) (timers : TimerMeasurements) (now : Int) :
    Except TimerFault TimerMeasurements :=
  match timers.measurements.lookup t.name with
  | none => .error .terminate
  | some measurements =>
    match measurements[t.id]? with
    | none => .error .outOfBounds
    | some measurement =>
      if measurement.isComplete then .ok timers
      else .ok (timers.setList t.name (measurements.set t.id { measurement with stop := now }))

theorem new_fst (timers : TimerMeasurements) (name : String) (now : Int) :
    (new timers name now).1 = ⟨name, ((timers.measurements.lookup name).getD []).length⟩ := by
  simp [new]

theorem lookup_new (timers : TimerMeasurements) (name : String) (now : Int) (k : String) :
    (new timers name now).2.measurements.lookup k =
      if k = name then some ((timers.measurements.lookup name).getD [] ++ [{ start := now }])
      else timers.measurements.lookup k :=
  lookup_assign _ _ _ _

theorem stop_of_isComplete {timers : TimerMeasurements} {t : Timer} {m : TimerMeasurement}
    (h : timers.get t.name t.id = some m) (hc : m.isComplete) (now : Int) :
    t.stop timers now = .ok timers := by
  unfold TimerMeasurements.get at h
  obtain ⟨ms, hms, hm⟩ := Option.bind_eq_some.1 h
  simp [stop, hms, hm, hc]

theorem stop_spec {timers : TimerMeasurements} {t : Timer} {m : TimerMeasurement}
    (h : timers.get t.name t.id = some m) (now : Int) :
    ∃ timers', t.stop timers now = .ok timers' ∧
      (∀ k i, timers'.get k i = if k = t.name ∧ i = t.id then
        some (if m.isComplete then m else { m with stop := now }) else timers.get k i) ∧
      (∀ k, (timers'.measurements.lookup k).map List.length =
        (timers.measurements.lookup k).map List.length) ∧
      timers'.order = timers.order := by
  unfold TimerMeasurements.get at h
  obtain ⟨ms, hms, hm⟩ := Option.bind_eq_some.1 h
  have hi := (List.getElem?_eq_some_iff.1 hm).1
  by_cases hc : m.isComplete
  · refine ⟨timers, stop_of_isComplete h hc now, fun k i => ?_, fun _ => rfl, rfl⟩
    split
    · next hki => obtain ⟨rfl, rfl⟩ := hki; simp [TimerMeasurements.get, hms, hm, hc]
    · rfl
  · refine ⟨timers.setList t.name (ms.set t.id { m with stop := now }), by simp [stop, hms, hm, hc],
      fun k i => ?_, fun k => ?_, rfl⟩
    · simp only [TimerMeasurements.get_eq, TimerMeasurements.lookup_setList, hc]
      by_cases hk : k = t.name
      · subst hk
        by_cases hid : i = t.id
        · subst hid; simp [hi]
        · simp [hid, hms, List.getElem?_set, Ne.symm hid]
      · simp [hk]
    · rw [TimerMeasurements.lookup_setList]
      split
      · next hk => subst hk; simp [hms]
      · rfl

end Timer

end NetworkMonitor
