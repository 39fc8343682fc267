import NetworkMonitor.Network.Reachable

namespace NetworkMonitor

/-- `In` events minus `Out` events for station `S` among `ops`. -/
def tally (S : Id) (ops : List NetworkOp) : Int :=
  (ops.count (.recordPassengerEvent ⟨S, .In⟩) : Int) - ops.count (.recordPassengerEvent ⟨S, .Out⟩)

/-- The tally of the calls after the first `AddStation` of `S`, if there is one. -/
def tallyAfterAdd (S : Id) : List NetworkOp → Option Int
  | [] => none
  | .addStation st :: ops => if st.id = S then some (tally S ops) else tallyAfterAdd S ops
  | _ :: ops => tallyAfterAdd S ops

def NetworkOp.isPassengerEvent : NetworkOp → Bool
  | .recordPassengerEvent _ => true
  | _ => false

/-- Every passenger event at a station that `ops` adds comes after the station's `AddStation`. -/
def EventsAfterAdd (ops : List NetworkOp) : Prop :=
  ∀ pre ev post, ops = pre ++ .recordPassengerEvent ev :: post →
    .addStation ⟨ev.stationId⟩ ∈ ops → .addStation ⟨ev.stationId⟩ ∈ pre

theorem tally_cons (S : Id) (op : NetworkOp) (ops : List NetworkOp) :
    tally S (op :: ops) = tally S ops +
      (if op = .recordPassengerEvent ⟨S, .In⟩ then 1
        else if op = .recordPassengerEvent ⟨S, .Out⟩ then -1 else 0) := by
  unfold tally
  by_cases hi : op = .recordPassengerEvent ⟨S, .In⟩
  · subst hi; simp [List.count_cons]; omega
  · by_cases ho : op = .recordPassengerEvent ⟨S, .Out⟩
    · subst ho; simp [List.count_cons]; omega
    · simp [List.count_cons, hi, ho]

theorem tally_append (S : Id) (l₁ l₂ : List NetworkOp) :
    tally S (l₁ ++ l₂) = tally S l₁ + tally S l₂ := by
  simp only [tally, List.count_append]; omega

theorem natAbs_tally_le (S : Id) (ops : List NetworkOp) :
    (tally S ops).natAbs ≤ ops.countP NetworkOp.isPassengerEvent := by
  induction ops with
  | nil => simp [tally]
  | cons op ops ih =>
    rw [tally_cons, List.countP_cons]
    split
    · next h => subst h; simp [NetworkOp.isPassengerEvent]; omega
    · split
      · next _ h => subst h; simp [NetworkOp.isPassengerEvent]; omega
      · split <;> omega

namespace TransportNetwork

/-- The passenger count of station `S`, if it is one. -/
def countOf (net : TransportNetwork) (S : Id) : Option Int := (net.getStation S).map (·.passengerCount)

variable {net : TransportNetwork}

theorem countOf_modifyStation_of_count (a S : Id) {f : GraphNode → GraphNode}
    (hf : ∀ n, (f n).passengerCount = n.passengerCount) : (net.modifyStation a f).countOf S = net.countOf S := by
  simp only [countOf, getStation_modifyStation]
  split <;> simp [Option.map_map, Function.comp_def, hf]

theorem countOf_addEdges (r : RouteInternal) (stops : List Id) (net : TransportNetwork) (S : Id) :
    (addEdges r net stops).countOf S = net.countOf S := by
  induction net, stops using addEdges.induct r with
  | case1 net a b rest ih =>
    rw [addEdges, ih, countOf_modifyStation_of_count]; exact fun _ => rfl
  | case2 stops net h =>
    match stops, h with
    | [], _ => rfl
    | [_], _ => rfl
    | a :: b :: rest, h => exact absurd rfl (h a b rest)

theorem countOf_addRoutes : ∀ (routes : List Route) (net : TransportNetwork) (line : LineInternal)
    (S : Id), (net.addRoutes line routes).2.1.countOf S = net.countOf S
  | [], _, _, _ => rfl
  | route :: routes, net, line, S => by
    rw [addRoutes]
    split
    · rfl
    · next net₁ line₁ h =>
      rw [countOf_addRoutes routes net₁ line₁ S]
      unfold addRouteToLine at h
      split_ifs at h
      cases h
      exact countOf_addEdges _ _ _ S

theorem countOf_addLine (line : Line) (S : Id) : (net.addLine line).2.countOf S = net.countOf S := by
  unfold addLine
  split
  · rfl
  · split <;> next heq =>
      have := countOf_addRoutes line.routes net ⟨line.id, []⟩ S
      rw [heq] at this; exact this

theorem countOf_setTravelTime (a b : Id) (t : UInt32) (S : Id) :
    (net.setTravelTime a b t).2.countOf S = net.countOf S := by
  unfold setTravelTime setTravelTimeFrom
  split
  · rfl
  · dsimp only
    rw [countOf_modifyStation_of_count, countOf_modifyStation_of_count] <;> exact fun _ => rfl

theorem countOf_addStation (st : Station) (S : Id) :
    (net.addStation st).2.countOf S =
      if net.getStation st.id = none ∧ S = st.id then some 0 else net.countOf S := by
  simp only [countOf, getStation_addStation]
  split <;> rfl

theorem countOf_recordPassengerEvent (ev : PassengerEvent) (S : Id) :
    (net.recordPassengerEvent ev).2.countOf S =
      if ev.stationId = S then (net.countOf S).map fun c => match ev.type with
        | .In => c + 1
        | .Out => c - 1
      else net.countOf S := by
  unfold recordPassengerEvent
  split
  · next h =>
    split
    · next he => subst he; simp [countOf, h]
    · rfl
  · simp only [countOf, getStation_modifyStation]
    by_cases he : ev.stationId = S
    · subst he; simp only [if_true, Option.map_map]
      congr 1; funext n; cases ev.type <;> rfl
    · simp [he, Ne.symm he]

theorem countOf_run (S : Id) : ∀ (ops : List NetworkOp) (net : TransportNetwork),
    (run net ops).countOf S = match net.countOf S with
      | some c => some (c + tally S ops)
      | none => tallyAfterAdd S ops
  | [], net => by cases h : net.countOf S <;> simp [tally, tallyAfterAdd, h]
  | op :: ops, net => by
    rw [run_cons, countOf_run S ops]
    cases op with
    | addStation st =>
      simp only [NetworkOp.apply, countOf_addStation, tally_cons, tallyAfterAdd]
      by_cases h : net.getStation st.id = none ∧ S = st.id
      · obtain ⟨h1, rfl⟩ := h
        simp [countOf, h1]
      · rw [if_neg h]
        cases hc : net.countOf S with
        | some c => simp
        | none =>
          have : st.id ≠ S := fun he => h ⟨by simpa [countOf, he] using hc, he.symm⟩
          simp [this]
    | addLine line =>
      simp only [NetworkOp.apply, countOf_addLine, tally_cons, tallyAfterAdd]
      cases net.countOf S <;> simp
    | setTravelTime a b t =>
      simp only [NetworkOp.apply, countOf_setTravelTime, tally_cons, tallyAfterAdd]
      cases net.countOf S <;> simp
    | recordPassengerEvent ev =>
      simp only [NetworkOp.apply, countOf_recordPassengerEvent, tally_cons, tallyAfterAdd]
      obtain ⟨id, type⟩ := ev
      by_cases he : id = S
      · subst he
        cases net.countOf id <;> cases type <;> simp <;> omega
      · cases net.countOf S <;> simp [he]

theorem getPassengerCount_eq (S : Id) :
    net.getPassengerCount S = match net.countOf S with
      | none => .error ("Could not find station in the network: " ++ S)
      | some c => .ok c := by
  unfold getPassengerCount countOf
  cases net.getStation S <;> rfl

end TransportNetwork

theorem tallyAfterAdd_eq_none {S : Id} : ∀ {ops : List NetworkOp}, .addStation ⟨S⟩ ∉ ops →
    tallyAfterAdd S ops = none
  | [], _ => rfl
  | op :: ops, h => by
    have ih := tallyAfterAdd_eq_none (fun hm => h (List.mem_cons_of_mem _ hm))
    cases op with
    | addStation st =>
      have : st.id ≠ S := fun he => h (by rw [← he]; exact List.mem_cons_self _ _)
      simp [tallyAfterAdd, this, ih]
    | _ => simpa [tallyAfterAdd] using ih

theorem natAbs_tallyAfterAdd_le {S : Id} {n : Int} : ∀ {ops : List NetworkOp},
    tallyAfterAdd S ops = some n → n.natAbs ≤ ops.countP NetworkOp.isPassengerEvent
  | [], h => by simp [tallyAfterAdd] at h
  | op :: ops, h => by
    have hle : ops.countP NetworkOp.isPassengerEvent ≤ (op :: ops).countP NetworkOp.isPassengerEvent := by
      rw [List.countP_cons]; omega
    cases op with
    | addStation st =>
      simp only [tallyAfterAdd] at h
      split at h
      · cases h; exact (natAbs_tally_le S ops).trans hle
      · exact (natAbs_tallyAfterAdd_le h).trans hle
    | _ => exact (natAbs_tallyAfterAdd_le (by simpa [tallyAfterAdd] using h)).trans hle

theorem tallyAfterAdd_of_eventsAfterAdd (S : Id) : ∀ (ops : List NetworkOp),
    (∀ pre ev post, ops = pre ++ .recordPassengerEvent ev :: post → ev.stationId = S →
      .addStation ⟨S⟩ ∈ ops → .addStation ⟨S⟩ ∈ pre) →
    tallyAfterAdd S ops = if .addStation ⟨S⟩ ∈ ops then some (tally S ops) else none
  | [], _ => rfl
  | op :: ops, h => by
    have hne : op ≠ .addStation ⟨S⟩ → ∀ pre ev post, ops = pre ++ .recordPassengerEvent ev :: post →
        ev.stationId = S → .addStation ⟨S⟩ ∈ ops → .addStation ⟨S⟩ ∈ pre :=
      fun hop pre ev post hs hid hm => by
        have := h (op :: pre) ev post (by rw [hs]; rfl) hid (List.mem_cons_of_mem _ hm)
        rcases List.mem_cons.1 this with he | he
        · exact absurd he.symm hop
        · exact he
    cases op with
    | addStation st =>
      by_cases hs : st.id = S
      · obtain ⟨_⟩ := st; subst hs; simp [tallyAfterAdd, tally_cons]
      · have hst : NetworkOp.addStation st ≠ .addStation ⟨S⟩ := fun he => hs (by cases he; rfl)
        rw [tallyAfterAdd, if_neg hs, tallyAfterAdd_of_eventsAfterAdd S ops (hne hst)]
        simp [tally_cons, Ne.symm hst]
    | recordPassengerEvent ev =>
      by_cases hs : ev.stationId = S
      · have hm : .addStation ⟨S⟩ ∉ NetworkOp.recordPassengerEvent ev :: ops := fun hm =>
          by simpa using h [] ev ops rfl hs hm
        rw [if_neg hm]
        simp only [tallyAfterAdd]
        exact tallyAfterAdd_eq_none (fun h' => hm (List.mem_cons_of_mem _ h'))
      · simp only [tallyAfterAdd]
        rw [tallyAfterAdd_of_eventsAfterAdd S ops (hne (by simp))]
        obtain ⟨id, type⟩ := ev
        have : id ≠ S := hs
        simp [tally_cons, this]
    | addLine line =>
      simp only [tallyAfterAdd]
      rw [tallyAfterAdd_of_eventsAfterAdd S ops (hne (by simp))]
      simp [tally_cons]
    | setTravelTime a b t =>
      simp only [tallyAfterAdd]
      rw [tallyAfterAdd_of_eventsAfterAdd S ops (hne (by simp))]
      simp [tally_cons]

theorem passenger_count_law (ops : List NetworkOp) :
    (∀ S, (run {} ops).getPassengerCount S = match tallyAfterAdd S ops with
      | none => .error ("Could not find station in the network: " ++ S)
      | some n => .ok n) ∧
    (ops.countP NetworkOp.isPassengerEvent < 2 ^ 63 →
      ∀ S n, tallyAfterAdd S ops = some n → -2 ^ 63 ≤ n ∧ n < 2 ^ 63) ∧
    (∀ ops', ops.Perm ops' → EventsAfterAdd ops → EventsAfterAdd ops' →
      ∀ S, (run {} ops).getPassengerCount S = (run {} ops').getPassengerCount S) ∧
    (∀ (net : TransportNetwork) ev, net.getStation ev.stationId = none →
      net.recordPassengerEvent ev = (false, net)) ∧
    (∀ (net : TransportNetwork) st, (net.getStation st.id).isSome → net.addStation st = (false, net)) := by
  have hcount : ∀ ops S, (run {} ops).getPassengerCount S = match tallyAfterAdd S ops with
      | none => .error ("Could not find station in the network: " ++ S)
      | some n => .ok n := fun ops S => by
    rw [TransportNetwork.getPassengerCount_eq, TransportNetwork.countOf_run]; rfl
  refine ⟨hcount ops, fun hlt S n hn => ?_, fun ops' hp h₁ h₂ S => ?_, fun net ev h => ?_,
    fun net st h => ?_⟩
  · have := natAbs_tallyAfterAdd_le hn
    omega
  · have e : ∀ l : List NetworkOp, EventsAfterAdd l →
        tallyAfterAdd S l = if .addStation ⟨S⟩ ∈ l then some (tally S l) else none :=
      fun l hl => tallyAfterAdd_of_eventsAfterAdd S l fun pre ev post hs hid hm =>
        hid ▸ hl pre ev post hs (hid ▸ hm)
    rw [hcount, hcount, e ops h₁, e ops' h₂]
    by_cases hm : NetworkOp.addStation ⟨S⟩ ∈ ops
    · rw [if_pos hm, if_pos (hp.mem_iff.1 hm)]; simp only [tally, hp.count_eq]
    · rw [if_neg hm, if_neg (fun h => hm (hp.mem_iff.2 h))]
  · simp [TransportNetwork.recordPassengerEvent, h]
  · simp [TransportNetwork.addStation, h]

namespace TransportNetwork

/-- The network with `delta k` added to the passenger count of each station `k`. -/
def addToCounts (net : TransportNetwork) (delta : Id → Int) : TransportNetwork :=
  { net with stations := net.stations.map fun p =>
    (p.1, { p.2 with passengerCount := p.2.passengerCount + delta p.1 }) }

variable {net : TransportNetwork}

theorem addToCounts_congr {c d : Id → Int} (h : ∀ p ∈ net.stations, c p.1 = d p.1) :
    net.addToCounts c = net.addToCounts d := by
  unfold addToCounts
  rw [List.map_congr_left fun p hp => by rw [h p hp]]

theorem addToCounts_zero : net.addToCounts (fun _ => 0) = net := by
  simp [addToCounts]

theorem countOf_addToCounts (d : Id → Int) (S : Id) :
    (net.addToCounts d).countOf S = (net.countOf S).map (· + d S) := by
  unfold countOf getStation addToCounts
  rw [lookup_map_snd fun k (n : GraphNode) => { n with passengerCount := n.passengerCount + d k },
    Option.map_map, Option.map_map]
  rfl

theorem addToCounts_addToCounts (c d : Id → Int) :
    (net.addToCounts c).addToCounts d = net.addToCounts fun k => c k + d k := by
  simp [addToCounts, Int.add_assoc]

theorem tally_recordPassengerEvent (S : Id) (ev : PassengerEvent) :
    tally S [.recordPassengerEvent ev] =
      if ev.stationId = S then (match ev.type with | .In => 1 | .Out => -1) else 0 := by
  rw [tally_cons, show tally S [] = 0 from rfl, Int.zero_add]
  obtain ⟨id, type⟩ := ev
  by_cases h : id = S
  · subst h; cases type <;> simp
  · simp [h]

theorem recordPassengerEvent_eq_addToCounts (ev : PassengerEvent) :
    (net.recordPassengerEvent ev).2 = net.addToCounts (tally · [.recordPassengerEvent ev]) := by
  unfold recordPassengerEvent
  split
  · next hnone =>
    refine (addToCounts_congr fun p hp => ?_).trans addToCounts_zero |>.symm
    have hne : ev.stationId ≠ p.1 := by simpa using List.lookup_eq_none_iff.1 hnone p hp
    rw [tally_recordPassengerEvent, if_neg hne]
  · unfold modifyStation addToCounts
    dsimp only
    congr 1
    refine List.map_congr_left fun p _ => ?_
    rw [tally_recordPassengerEvent]
    by_cases hp : p.1 = ev.stationId
    · rw [if_pos hp, if_pos hp.symm]
      cases ev.type <;> simp [Int.sub_eq_add_neg]
    · rw [if_neg hp, if_neg (Ne.symm hp), Int.add_zero]

theorem run_passengerEvents (net : TransportNetwork) {evs : List NetworkOp}
    (hev : ∀ op ∈ evs, op.isPassengerEvent) :
    run net evs = net.addToCounts (tally · evs) ∧
    (∀ S c, net.countOf S = some c → c.natAbs + evs.length < 2 ^ 63 →
      (run net evs).countOf S = some (c + tally S evs) ∧
        -2 ^ 63 < c + tally S evs ∧ c + tally S evs < 2 ^ 63) ∧
    (∀ evs', evs.Perm evs' → run net evs' = run net evs) ∧
    ((∀ S, tally S evs = 0) → run net evs = net) := by
  have hrun : ∀ (evs : List NetworkOp) (net : TransportNetwork), (∀ op ∈ evs, op.isPassengerEvent) →
      run net evs = net.addToCounts (tally · evs) := by
    intro evs
    induction evs with
    | nil => exact fun net _ => by simp [tally, addToCounts_zero]
    | cons op evs ih =>
      intro net hev
      have hop := hev op (List.mem_cons_self _ _)
      obtain ⟨ev, rfl⟩ : ∃ ev, op = .recordPassengerEvent ev := by
        cases op <;> first | exact ⟨_, rfl⟩ | exact absurd hop Bool.false_ne_true
      rw [run_cons, NetworkOp.apply, ih _ fun op hop => hev op (List.mem_cons_of_mem _ hop),
        recordPassengerEvent_eq_addToCounts, addToCounts_addToCounts]
      congr 1
      funext S
      rw [← tally_append, List.singleton_append]
  refine ⟨hrun evs net hev, fun S c hc hlt => ?_, fun evs' hp => ?_, fun h0 => ?_⟩
  · have htally := (natAbs_tally_le S evs).trans (List.countP_le_length _)
    rw [hrun evs net hev, countOf_addToCounts, hc]
    exact ⟨rfl, by omega, by omega⟩
  · rw [hrun evs' net fun op hop => hev op (hp.mem_iff.2 hop), hrun evs net hev]
    congr 1
    funext S
    simp only [tally, hp.count_eq]
  · rw [hrun evs net hev, @addToCounts_congr net _ (fun _ => 0) fun p _ => h0 p.1,
      addToCounts_zero]

theorem run_passengerEvents_example :
    let net := (({} : TransportNetwork).addStation ⟨"A"⟩).2
    let evs : List NetworkOp := [.recordPassengerEvent ⟨"A", .In⟩, .recordPassengerEvent ⟨"B", .Out⟩,
      .recordPassengerEvent ⟨"A", .Out⟩]
    (∀ op ∈ evs, op.isPassengerEvent) ∧
      (run net evs = net.addToCounts (tally · evs) ∧
      (∀ S c, net.countOf S = some c → c.natAbs + evs.length < 2 ^ 63 →
        (run net evs).countOf S = some (c + tally S evs) ∧
          -2 ^ 63 < c + tally S evs ∧ c + tally S evs < 2 ^ 63) ∧
      (∀ evs', evs.Perm evs' → run net evs' = run net evs) ∧
      ((∀ S, tally S evs = 0) → run net evs = net)) :=
  ⟨by decide, run_passengerEvents _ (by decide)⟩

end TransportNetwork

end NetworkMonitor
