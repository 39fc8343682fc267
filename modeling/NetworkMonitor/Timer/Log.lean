import NetworkMonitor.Timer.Report

namespace NetworkMonitor

/-- One timer of the abstract log: the number of its construction, its name, and the clock
readings it started and first stopped at (0 while it runs). -/
structure LogEntry where
  timer : Nat
  name : String
  start : Int
  stop : Int
  deriving DecidableEq, Repr

/-- What the timer store is for: the timers constructed since the last `ClearAll`, in order, each
with its start and its first stop, and the number of timers constructed so far. -/
structure TimerLog where
  entries : List LogEntry := []
  constructed : Nat := 0
  deriving DecidableEq, Repr

namespace TimerLog

/-- Timer `k` stops at `now`, unless it has stopped already. -/
def stopTimer (k : Nat) (now : Int) (e : LogEntry) : LogEntry :=
  if e.timer = k ∧ e.stop = 0 then { e with stop := now } else e

def apply (log : TimerLog) : TimerOp → TimerLog
  | .construct name now =>
    { entries := log.entries ++ [⟨log.constructed, name, now, 0⟩], constructed := log.constructed + 1 }
  | .stop k now | .destroy k now => { log with entries := log.entries.map (stopTimer k now) }
  | .clearAll => { log with entries := [] }

def run (log : TimerLog) (ops : List TimerOp) : TimerLog := ops.foldl apply log

/-- The log's entries of the timers named `name`. -/
def named (log : TimerLog) (name : String) : List LogEntry := log.entries.filter (·.name = name)

/-- The measurements the log keeps under `name`. -/
def measurements (log : TimerLog) (name : String) : List TimerMeasurement :=
  (log.named name).map fun e => ⟨e.start, e.stop⟩

@[simp] theorem stopTimer_name (k : Nat) (now : Int) (e : LogEntry) : (stopTimer k now e).name = e.name := by
  unfold stopTimer; split <;> rfl

@[simp] theorem stopTimer_timer (k : Nat) (now : Int) (e : LogEntry) :
    (stopTimer k now e).timer = e.timer := by
  unfold stopTimer; split <;> rfl

theorem stopTimer_of_ne {k : Nat} {e : LogEntry} (h : e.timer ≠ k) (now : Int) : stopTimer k now e = e :=
  if_neg fun h' => h h'.1

theorem named_map_stopTimer (log : TimerLog) (k : Nat) (now : Int) (name : String) :
    (log.entries.map (stopTimer k now)).filter (·.name = name) = (log.named name).map (stopTimer k now) := by
  rw [List.filter_map]
  exact congrArg _ (List.filter_congr fun e _ => by simp)

end TimerLog

namespace TimerSystem

open TimerMeasurements

/-- The system keeps the abstract log: under each name the store holds the log's measurements and
the ghost `owners` the log's construction numbers, the timers counted are those constructed, and
the log numbers its entries distinctly, below that count. -/
structure Keeps (sys : TimerSystem) (log : TimerLog) : Prop where
  measurements : ∀ name, (sys.store.measurements.lookup name).getD [] = log.measurements name
  owners : ∀ name, (sys.owners.lookup name).getD [] = (log.named name).map (·.timer)
  count : sys.timers.length = log.constructed
  fresh : ∀ e ∈ log.entries, e.timer < log.constructed
  nodup : (log.entries.map (·.timer)).Nodup

variable {sys sys' : TimerSystem} {log : TimerLog}

theorem Keeps.empty : Keeps {} {} := ⟨fun _ => rfl, fun _ => rfl, rfl, by simp, List.nodup_nil⟩

theorem Keeps.construct (h : sys.Keeps log) (name : String) (now : Int) :
    Keeps {
      store := (Timer.new sys.store name now).2
      timers := sys.timers ++ [((Timer.new sys.store name now).1, true)]
      owners := assign sys.owners name ((sys.owners.lookup name).getD [] ++ [sys.timers.length]) }
      (log.apply (.construct name now)) where
  measurements n := by
    rw [Timer.lookup_new]
    by_cases hn : n = name
    · subst hn
      rw [if_pos rfl, Option.getD_some, h.measurements n]
      simp [TimerLog.apply, TimerLog.measurements, TimerLog.named]
    · simp [TimerLog.apply, TimerLog.measurements, TimerLog.named, hn, Ne.symm hn, h.measurements n]
  owners n := by
    rw [lookup_assign]
    by_cases hn : n = name
    · subst hn
      rw [if_pos rfl, Option.getD_some, h.owners n, h.count]
      simp [TimerLog.apply, TimerLog.named]
    · simp [TimerLog.apply, TimerLog.named, hn, Ne.symm hn, h.owners n]
  count := by simp [TimerLog.apply, h.count]
  fresh e he := by
    simp only [TimerLog.apply, List.mem_append, List.mem_singleton] at he
    rcases he with he | rfl
    · exact Nat.lt_succ_of_lt (h.fresh e he)
    · exact Nat.lt_succ_self _
  nodup := by
    simp only [TimerLog.apply, List.map_append, List.map_cons, List.map_nil]
    exact h.nodup.append (List.nodup_singleton _) fun k hk hk' => by
      obtain ⟨e, he, rfl⟩ := List.mem_map.1 hk
      exact absurd (List.eq_of_mem_singleton hk') (Nat.ne_of_lt (h.fresh e he))

theorem Keeps.entry (h : sys.Keeps log) (hd : sys.Designated) {k : Nat} {t : Timer}
    (hk : sys.timers[k]? = some (t, true)) :
    ∃ e, (log.named t.name)[t.id]? = some e ∧ e.timer = k ∧
      sys.store.get t.name t.id = some ⟨e.start, e.stop⟩ := by
  have ho := hd.own k t hk
  rw [ownerAt_eq, h.owners, List.getElem?_map] at ho
  obtain ⟨e, he, rfl⟩ := Option.map_eq_some'.1 ho
  refine ⟨e, he, rfl, ?_⟩
  rw [get_eq, h.measurements, TimerLog.measurements, List.getElem?_map, he]
  rfl

theorem Keeps.timer_ne (h : sys.Keeps log) {name : String} {i : Nat} {e₀ e : LogEntry}
    (he₀ : (log.named name)[i]? = some e₀) {n : String} {j : Nat} (he : (log.named n)[j]? = some e)
    (hne : ¬(n = name ∧ j = i)) : e.timer ≠ e₀.timer := by
  intro heq
  have hmem : ∀ {n j e}, (log.named n)[j]? = some e → e ∈ log.entries ∧ e.name = n := fun he => by
    simpa [TimerLog.named] using List.mem_filter.1 (List.getElem?_mem he)
  obtain ⟨hm, rfl⟩ := hmem he
  obtain ⟨hm₀, hname⟩ := hmem he₀
  obtain rfl := List.inj_on_of_nodup_map h.nodup hm hm₀ heq
  refine hne ⟨hname, List.getElem?_inj (List.getElem?_eq_some_iff.1 he).1
    ((h.nodup.of_map _).filter _) ?_⟩
  rw [he, hname, he₀]

theorem Keeps.stopped (h : sys.Keeps log) (hd : sys.Designated) {k : Nat} {t : Timer}
    (hk : sys.timers[k]? = some (t, true)) {store : TimerMeasurements} {now : Int}
    (hs : t.stop sys.store now = .ok store) (timers : List (Timer × Bool))
    (hlen : timers.length = sys.timers.length) :
    Keeps { sys with store, timers } { log with entries := log.entries.map (TimerLog.stopTimer k now) } where
  measurements n := by
    obtain ⟨e₀, he₀, rfl, hm⟩ := h.entry hd hk
    obtain ⟨store', hs', hget, -, -⟩ := Timer.stop_spec hm now
    cases hs'.symm.trans hs
    refine List.ext_getElem? fun i => ?_
    rw [← get_eq, hget, TimerLog.measurements, TimerLog.named, TimerLog.named_map_stopTimer,
      List.map_map, List.getElem?_map]
    split
    · next hni =>
      obtain ⟨rfl, rfl⟩ := hni
      rw [he₀]
      have hstart := hd.started _ _ _ hm
      by_cases h0 : e₀.stop = 0 <;>
        simp [TimerLog.stopTimer, TimerMeasurement.isComplete, h0, hstart]
    · next hni =>
      rw [get_eq, h.measurements, TimerLog.measurements, List.getElem?_map]
      cases he : (log.named n)[i]? with
      | none => rfl
      | some e => simp [TimerLog.stopTimer_of_ne (h.timer_ne he₀ he hni)]
  owners n := by
    show _ = ((log.entries.map (TimerLog.stopTimer k now)).filter (·.name = n)).map (·.timer)
    rw [TimerLog.named_map_stopTimer, List.map_map, h.owners]
    exact List.map_congr_left fun e _ => by simp
  count := hlen.trans h.count
  fresh e he := by
    obtain ⟨e', he', rfl⟩ := List.mem_map.1 he
    simpa using h.fresh e' he'
  nodup := by simpa [List.map_map, Function.comp_def] using h.nodup

theorem Keeps.step (h : sys.Keeps log) (hd : sys.Designated) {op : TimerOp}
    (hv : op.Valid sys ∧ op.ClearsIdle sys) (hs : sys.apply op = .ok sys') :
    sys'.Keeps (log.apply op) := by
  cases op with
  | construct name now =>
    rw [apply_construct] at hs
    cases hs
    exact h.construct name now
  | stop k now =>
    obtain ⟨⟨t, b⟩, hk, rfl⟩ := Option.map_eq_some'.1 hv.1.1
    simp only [apply, hk, except_bind_eq_ok] at hs
    obtain ⟨store, hstore, hs⟩ := hs
    cases hs
    exact h.stopped hd hk hstore sys.timers rfl
  | destroy k now =>
    obtain ⟨⟨t, b⟩, hk, rfl⟩ := Option.map_eq_some'.1 hv.1.1
    simp only [apply, hk, except_bind_eq_ok] at hs
    obtain ⟨store, hstore, hs⟩ := hs
    cases hs
    exact h.stopped hd hk hstore _ (List.length_set _ _ _)
  | clearAll =>
    cases hs
    exact ⟨fun _ => rfl, fun _ => rfl, h.count, by simp [TimerLog.apply], List.nodup_nil⟩

theorem Keeps.run {ops : List TimerOp} {sys₀ : TimerSystem}
    (h : Runs (fun s op => op.Valid s ∧ op.ClearsIdle s) sys₀ ops sys) :
    ∀ {log : TimerLog}, sys₀.Keeps log → sys₀.Designated → sys.Keeps (log.run ops) := by
  induction h with
  | nil => exact fun hk _ => hk
  | cons hv hs _ ih => exact fun hk hd => ih (hk.step hd hv hs) (hd.step hv hs)

theorem store_refines_log {ops : List TimerOp}
    (h : Runs (fun s op => op.Valid s ∧ op.ClearsIdle s) {} ops sys) (name : String) :
    (sys.store.measurements.lookup name).getD [] = (({} : TimerLog).run ops).measurements name :=
  (Keeps.run h Keeps.empty ⟨fun _ => rfl, fun _ _ _ hm => by simp [TimerMeasurements.get] at hm,
    fun _ _ hk => by simp at hk⟩).measurements name

theorem store_refines_log_example :
    let ops : List TimerOp := [.construct "x" 1, .stop 0 2, .destroy 0 3, .clearAll,
      .construct "y" 4, .construct "x" 5, .destroy 2 6, .destroy 1 7]
    let sys : TimerSystem := {
      store := { measurements := [("x", [{ start := 5, stop := 6 }]), ("y", [{ start := 4, stop := 7 }])]
                 order := ["y", "x"] }
      timers := [(⟨"x", 0⟩, false), (⟨"y", 0⟩, false), (⟨"x", 0⟩, false)]
      owners := [("x", [2]), ("y", [1])] }
    Runs (fun s op => op.Valid s ∧ op.ClearsIdle s) {} ops sys ∧
      (sys.store.measurements.lookup "x").getD [] = (({} : TimerLog).run ops).measurements "x" := by
  intro ops sys
  have h : Runs (fun s op => op.Valid s ∧ op.ClearsIdle s) {} ops sys :=
    .cons (by decide) rfl <| .cons (by decide) rfl <| .cons (by decide) rfl <| .cons (by decide) rfl <|
      .cons (by decide) rfl <| .cons (by decide) rfl <| .cons (by decide) rfl <|
        .cons (by decide) rfl <| .nil _
  exact ⟨h, store_refines_log h "x"⟩

end TimerSystem

end NetworkMonitor
