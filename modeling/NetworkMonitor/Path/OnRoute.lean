import NetworkMonitor.Path.Fastest
import NetworkMonitor.Network.RouteTravelTime
import NetworkMonitor.Network.TravelTimes

namespace NetworkMonitor

theorem PathStop.weight_of_same_route {P : PathStop} {e : GraphEdge}
    (hP : ∀ p ∈ P.edge, p.edge.route.addr = e.route.addr) : P.weight e = e.travelTime.toNat := by
  unfold PathStop.weight PathStop.changesRoute
  cases h : P.edge with
  | none => rfl
  | some p => simp [hP p h]

theorem split_of_getElem? {l : List Id} {i j : Nat} {b : Id} (hij : i ≤ j) (hb : l[j]? = some b) :
    l = l.take i ++ (l.drop i).take (j - i) ++ b :: l.drop (j + 1) := by
  have hdj : (l.drop i).drop (j - i) = l.drop j := by rw [List.drop_drop, Nat.add_sub_cancel' hij]
  rw [List.append_assoc, ← TransportNetwork.drop_eq_cons_of_getElem? hb, ← hdj, List.take_append_drop,
    List.take_append_drop]

theorem headD_take_drop {l : List Id} {i j : Nat} {a b : Id} (hij : i < j) (ha : l[i]? = some a) :
    ((l.drop i).take (j - i)).headD b = a := by
  obtain ⟨k, hk⟩ : ∃ k, j - i = k + 1 := ⟨j - i - 1, by omega⟩
  rw [TransportNetwork.drop_eq_cons_of_getElem? ha, hk, List.take_succ_cons]
  rfl

namespace TransportNetwork

variable {net : TransportNetwork}

section index

variable {rs : List RouteInternal} (h : net.EdgeIndex rs) {r : RouteInternal} (hr : r ∈ rs)
include h hr

theorem nextStop_of_routeEdgeAt {pre post : List Id} {s t : Id} {e : GraphEdge}
    (hstops : r.stops = pre ++ s :: t :: post) (he : net.RouteEdgeAt r s e) : e.nextStop = t := by
  have hmap := h.edges_of_route r hr s
  rw [he, hstops, hopsFrom_of_nodup (hstops ▸ (h.shape r hr).2.1)] at hmap
  simpa using hmap

theorem nextStop_eq_headD {pre mid post : List Id} {s B : Id} {e : GraphEdge}
    (hstops : r.stops = pre ++ s :: mid ++ B :: post) (he : net.RouteEdgeAt r s e) :
    e.nextStop = mid.headD B := by
  cases mid with
  | nil => exact nextStop_of_routeEdgeAt h hr (by simpa using hstops) he
  | cons t mid => exact nextStop_of_routeEdgeAt h hr (by simpa using hstops) he

theorem walk_of_routeEdgeAt {B : Id} {post : List Id} : ∀ (pre : List Id) {mid : List Id}
    {es : List GraphEdge}, r.stops = pre ++ mid ++ B :: post → List.Forall₂ (net.RouteEdgeAt r) mid es →
    ∀ P : PathStop, P.node = mid.headD B → (∀ p ∈ P.edge, p.edge.route.addr = r.addr) →
      ∃ Q ptrs, Q.node = B ∧ ptrs.map (·.station) = mid ∧ ptrs.map (·.edge) = es ∧
        net.Walk B P Q ptrs (es.map (·.travelTime.toNat)).sum
  | _, [], [], _, .nil, P, hP, _ => ⟨P, [], hP, rfl, rfl, .nil P⟩
  | pre, s :: mid, e :: es, hstops, .cons he hes, P, hP, hPe => by
    have hstops' : r.stops = pre ++ s :: (mid ++ B :: post) := by simp [hstops]
    have hsB : s ≠ B := fun hs => (List.nodup_cons.1 (List.nodup_append.1
      (hstops' ▸ (h.shape r hr).2.1)).2.1).1 (by simp [hs])
    have hfilter : e ∈ (net.edgesOf s).filter (·.route.addr = r.addr) := he ▸ List.mem_singleton_self e
    have haddr : e.route.addr = r.addr := by simpa using (List.mem_filter.1 hfilter).2
    obtain ⟨j, hj⟩ := List.mem_iff_getElem?.1 (List.mem_of_mem_filter hfilter)
    have hnext := nextStop_eq_headD h hr hstops he
    obtain ⟨Q, ptrs, hQ, hst, hed, hw⟩ := walk_of_routeEdgeAt (pre ++ [s])
      (show r.stops = pre ++ [s] ++ mid ++ B :: post by simp [hstops]) hes
      (P.next j e) hnext fun p hp => by cases hp; exact haddr
    refine ⟨Q, ⟨P.node, j, e⟩ :: ptrs, hQ, by simp [hP, hst], by simp [hed], ?_⟩
    rw [List.map_cons, List.sum_cons, ← PathStop.weight_of_same_route (haddr ▸ hPe)]
    exact Walk.cons j e (hP ▸ hsB) (hP ▸ hj) hw

end index

theorem travelRouteSpec_of_fastest (hnet : Reachable net) (hS : net.edgeCostSum < 2 ^ 30)
    {A B : Id} (hA : (net.getStation A).isSome) (hB : (net.getStation B).isSome) (hAB : A ≠ B)
    {res : Except SearchFault TravelRoute} (h : net.FastestTravelRoute A B res) :
    ∃ r, res = .ok r ∧ net.TravelRouteSpec A B r := by
  have hnone : ((net.getStation A).isNone || (net.getStation B).isNone) = false := by
    simp [← Option.not_isSome, hA, hB]
  rw [FastestTravelRoute, hnone, if_neg Bool.false_ne_true, if_neg hAB] at h
  obtain ⟨final, hrun, hq, hres⟩ := h
  exact (SearchState.Inv.reachable hS hrun).travelRouteOf_spec hq (consistent_of_reachable hnet) hAB hres

theorem TravelRouteSpec.steps_ne_nil {A B : Id} {r : TravelRoute} (hspec : net.TravelRouteSpec A B r)
    {es : List GraphEdge} (hw : net.IsWalk A B es) : r.steps ≠ [] := fun hnil =>
  hspec.empty_iff.1 ⟨hnil, UInt32.toNat.inj (by simpa [hnil, routeChanges] using hspec.total_eq)⟩
    ⟨es, hw⟩

theorem fastest_le_travelTimeOnRoute (hnet : Reachable net) (hS : net.edgeCostSum < 2 ^ 30)
    {L R A B : Id} {r : RouteInternal} (hr : net.getRoute L R = some r) {i j : Nat} (hij : i < j)
    (hi : r.stops[i]? = some A) (hj : r.stops[j]? = some B) :
    ∀ res, net.FastestTravelRoute A B res →
      ∃ t, res = .ok t ∧ t.steps ≠ [] ∧ t.totalTravelTime ≤ net.getTravelTimeOnRoute L R A B := by
  intro res hres
  have hc := consistent_of_reachable hnet
  have hmem := mem_routes_of_getRoute hr
  have hnd := (hc.2.shape r hmem).2.1
  have hAB : A ≠ B := fun hAB => absurd (List.getElem?_inj (List.getElem?_eq_some_iff.1 hi).1 hnd
    (hi.trans (hAB ▸ hj).symm)) (Nat.ne_of_lt hij)
  obtain ⟨es, hes, hval⟩ := travelTimeOnRoute_eq_sum hc hr (Nat.le_of_lt hij) hi hj
  obtain ⟨Q, ptrs, hQ, hst, hed, hw⟩ := walk_of_routeEdgeAt hc.2 hmem _
    (split_of_getElem? (Nat.le_of_lt hij) hj) hes ⟨A, none⟩ (headD_take_drop hij hi).symm
    fun _ hp => nomatch hp
  have hsum : (es.map (·.travelTime.toNat)).sum < 2 ^ 30 := lt_of_le_of_lt
    (hw.cost_le_edgeCostSum ((hst ▸ (List.take_sublist _ _).trans (List.drop_sublist _ _)).nodup hnd
      |>.of_map _)) hS
  obtain ⟨t, rfl, hspec⟩ := travelRouteSpec_of_fastest hnet hS
    ((hc.2.shape r hmem).2.2 A (List.getElem?_mem hi)) ((hc.2.shape r hmem).2.2 B (List.getElem?_mem hj))
    hAB hres
  have hwalk : net.IsWalk A B es := hQ ▸ hed ▸ hw.isWalk
  have hle : t.totalTravelTime.toNat ≤ (es.map (·.travelTime.toNat)).sum :=
    (hspec.total_le es hwalk).trans_eq (hed ▸ hw.cost_eq).symm
  refine ⟨t, rfl, hspec.steps_ne_nil hwalk, ?_⟩
  rw [uint32_le_iff, hval, Nat.mod_eq_of_lt (by omega)]
  exact hle

theorem fastest_le_travelTimeOnRoute_example :
    let net := run {} [.addStation ⟨"A"⟩, .addStation ⟨"B"⟩, .addStation ⟨"C"⟩,
      .addLine ⟨"L1", [⟨"R1", ["A", "B", "C"]⟩]⟩, .addLine ⟨"L2", [⟨"R2", ["A", "C"]⟩]⟩,
      .setTravelTime "A" "B" 3, .setTravelTime "B" "C" 4, .setTravelTime "A" "C" 5]
    Reachable net ∧ net.edgeCostSum < 2 ^ 30 ∧
      net.getRoute "L1" "R1" = some ⟨0, "R1", "L1", ["A", "B", "C"]⟩ ∧ 0 < 2 ∧
      ["A", "B", "C"][0]? = some "A" ∧ ["A", "B", "C"][2]? = some "C" ∧
      ∀ res, net.FastestTravelRoute "A" "C" res → ∃ t, res = .ok t ∧ t.steps ≠ [] ∧
        t.totalTravelTime ≤ net.getTravelTimeOnRoute "L1" "R1" "A" "C" := by
  intro net
  have h : Reachable net := Reachable.empty.run (by decide)
  have hr : net.getRoute "L1" "R1" = some ⟨0, "R1", "L1", ["A", "B", "C"]⟩ := by decide
  have hf := fastest_le_travelTimeOnRoute h (by decide) hr (by decide : 0 < 2) rfl rfl
  exact ⟨h, by decide, hr, by decide, rfl, rfl, hf⟩

theorem StepsWalk.edge_of_mem : ∀ {a b : Id} {steps : List TravelRoute.Step}, net.StepsWalk a b steps →
    ∀ s ∈ steps, ∃ e ∈ net.edgesOf s.startStationId, e.nextStop = s.endStationId ∧
      e.travelTime = s.travelTime
  | _, _, [], _ => fun _ h => nomatch h
  | _, _, _ :: _, h => by
    obtain ⟨hs, ⟨e, he, -, -, hn, ht⟩, hrest⟩ := h
    rintro x (_ | ⟨_, hx⟩)
    · exact ⟨e, hs ▸ he, hn, ht⟩
    · exact StepsWalk.edge_of_mem hrest x hx

theorem getTravelTime_of_mem_edgesOf (hc : net.Consistent) (hsym : net.TravelTimesSymmetric)
    {a : Id} {e : GraphEdge} (he : e ∈ net.edgesOf a) : net.getTravelTime a e.nextStop = e.travelTime := by
  have hbe : net.Between a e.nextStop e := .inl ⟨he, rfl⟩
  rcases getTravelTime_cases (isSome_of_mem_edgesOf he) (hc.2.nextStop_isSome he) with
    ⟨f, hf, h₁⟩ | ⟨hn, -⟩
  · rw [h₁]; exact hsym _ _ f e hf hbe
  · exact absurd hbe (hn e)

theorem fastest_steps_getTravelTime {mid : TransportNetwork}
    (hmid : ReachableVia (fun op => ¬op.SetsTravelTime) {} mid)
    (hnet : ReachableVia (fun op => ¬op.AddsLine) mid net) (hS : net.edgeCostSum < 2 ^ 30)
    {A B : Id} (hA : (net.getStation A).isSome) (hB : (net.getStation B).isSome) (hAB : A ≠ B) :
    ∀ res, net.FastestTravelRoute A B res → ∃ r, res = .ok r ∧
      (∀ s ∈ r.steps, s.travelTime = net.getTravelTime s.startStationId s.endStationId) ∧
      r.totalTravelTime.toNat = (r.steps.map fun s =>
        (net.getTravelTime s.startStationId s.endStationId).toNat).sum + 5 * routeChanges r.steps := by
  intro res h
  have hreach := hnet.reachable (hmid.reachable .empty)
  have hsym := travelTimesSymmetric_of_timed hnet (travelTimesUnset_of_topology hmid).symmetric
  obtain ⟨r, rfl, hspec⟩ := travelRouteSpec_of_fastest hreach hS hA hB hAB h
  have hsteps : ∀ s ∈ r.steps, s.travelTime = net.getTravelTime s.startStationId s.endStationId := by
    intro s hs
    obtain ⟨e, he, hn, ht⟩ := (hspec.steps_walk (List.ne_nil_of_mem hs)).edge_of_mem s hs
    rw [← hn, getTravelTime_of_mem_edgesOf (consistent_of_reachable hreach) hsym he, ht]
  refine ⟨r, rfl, hsteps, ?_⟩
  rw [hspec.total_eq, List.map_congr_left fun s hs => by rw [hsteps s hs]]

theorem sum_routeEdges_eq (hc : net.Consistent) (hsym : net.TravelTimesSymmetric) {r : RouteInternal}
    (hr : r ∈ net.routes) {B : Id} {post : List Id} : ∀ (pre : List Id) {mid : List Id}
    {es : List GraphEdge}, r.stops = pre ++ mid ++ B :: post → List.Forall₂ (net.RouteEdgeAt r) mid es →
      (es.map (·.travelTime.toNat)).sum =
        (List.zipWith (fun a b => (net.getTravelTime a b).toNat) mid (mid.tail ++ [B])).sum
  | _, [], [], _, .nil => rfl
  | pre, s :: mid, e :: es, hstops, .cons he hes => by
    have htime := getTravelTime_of_mem_edgesOf hc hsym
      (List.mem_of_mem_filter (he ▸ List.mem_singleton_self e) : e ∈ net.edgesOf s)
    rw [nextStop_eq_headD hc.2 hr hstops he] at htime
    rw [List.map_cons, List.sum_cons, sum_routeEdges_eq hc hsym hr (pre ++ [s])
      (show r.stops = pre ++ [s] ++ mid ++ B :: post by simp [hstops]) hes]
    cases mid with
    | nil => simp only [List.headD_nil] at htime; simp [htime]
    | cons t mid => simp only [List.headD_cons] at htime; simp [htime]

theorem travelTimeOnRoute_eq_sum_getTravelTime {mid : TransportNetwork}
    (hmid : ReachableVia (fun op => ¬op.SetsTravelTime) {} mid)
    (hnet : ReachableVia (fun op => ¬op.AddsLine) mid net) {L R A B : Id} {r : RouteInternal}
    (hr : net.getRoute L R = some r) {i j : Nat} (hij : i ≤ j) (hi : r.stops[i]? = some A)
    (hj : r.stops[j]? = some B) :
    let stops := (r.stops.drop i).take (j - i)
    (net.getTravelTimeOnRoute L R A B).toNat =
      (List.zipWith (fun a b => (net.getTravelTime a b).toNat) stops (stops.tail ++ [B])).sum % 2 ^ 32 := by
  intro stops
  have hc := consistent_of_reachable (hnet.reachable (hmid.reachable .empty))
  have hsym := travelTimesSymmetric_of_timed hnet (travelTimesUnset_of_topology hmid).symmetric
  obtain ⟨es, hes, hval⟩ := travelTimeOnRoute_eq_sum hc hr hij hi hj
  rw [hval, sum_routeEdges_eq hc hsym (mem_routes_of_getRoute hr) _ (split_of_getElem? hij hj) hes]

theorem travelTimeOnRoute_eq_sum_getTravelTime_example :
    let mid := run {} [.addStation ⟨"A"⟩, .addStation ⟨"B"⟩, .addStation ⟨"C"⟩,
      .addLine ⟨"L1", [⟨"R1", ["A", "B", "C"]⟩]⟩]
    let net := run mid [.setTravelTime "A" "B" 3, .setTravelTime "B" "C" 4]
    ReachableVia (fun op => ¬op.SetsTravelTime) {} mid ∧ ReachableVia (fun op => ¬op.AddsLine) mid net ∧
      net.getRoute "L1" "R1" = some ⟨0, "R1", "L1", ["A", "B", "C"]⟩ ∧ 0 ≤ 2 ∧
      ["A", "B", "C"][0]? = some "A" ∧ ["A", "B", "C"][2]? = some "C" ∧
      (net.getTravelTimeOnRoute "L1" "R1" "A" "C").toNat =
        (List.zipWith (fun a b => (net.getTravelTime a b).toNat) ["A", "B"] (["B"] ++ ["C"])).sum % 2 ^ 32 := by
  intro mid net
  have hmid : ReachableVia (fun op => ¬op.SetsTravelTime) {} mid := ReachableVia.refl.run (by decide) (by decide)
  have hnet : ReachableVia (fun op => ¬op.AddsLine) mid net := ReachableVia.refl.run (by decide) (by decide)
  have hr : net.getRoute "L1" "R1" = some ⟨0, "R1", "L1", ["A", "B", "C"]⟩ := by decide
  have hsum := travelTimeOnRoute_eq_sum_getTravelTime hmid hnet hr (by decide : 0 ≤ 2) rfl rfl
  exact ⟨hmid, hnet, hr, by decide, rfl, rfl, hsum⟩

theorem fastest_steps_getTravelTime_example :
    let mid := run {} [.addStation ⟨"A"⟩, .addStation ⟨"B"⟩, .addStation ⟨"C"⟩,
      .addLine ⟨"L1", [⟨"R1", ["A", "B"]⟩]⟩, .addLine ⟨"L2", [⟨"R2", ["B", "C"]⟩]⟩]
    let net := run mid [.setTravelTime "A" "B" 3, .setTravelTime "B" "C" 4]
    ReachableVia (fun op => ¬op.SetsTravelTime) {} mid ∧ ReachableVia (fun op => ¬op.AddsLine) mid net ∧
      net.edgeCostSum < 2 ^ 30 ∧ (net.getStation "A").isSome ∧ (net.getStation "C").isSome ∧
      "A" ≠ "C" ∧ ∀ res, net.FastestTravelRoute "A" "C" res → ∃ r, res = .ok r ∧
        (∀ s ∈ r.steps, s.travelTime = net.getTravelTime s.startStationId s.endStationId) ∧
        r.totalTravelTime.toNat = (r.steps.map fun s =>
          (net.getTravelTime s.startStationId s.endStationId).toNat).sum + 5 * routeChanges r.steps := by
  intro mid net
  have hmid : ReachableVia (fun op => ¬op.SetsTravelTime) {} mid := ReachableVia.refl.run (by decide) (by decide)
  have hnet : ReachableVia (fun op => ¬op.AddsLine) mid net := ReachableVia.refl.run (by decide) (by decide)
  have hf := fastest_steps_getTravelTime hmid hnet (by decide)
    (by decide : (net.getStation "A").isSome) (by decide : (net.getStation "C").isSome)
    (by decide : "A" ≠ "C")
  exact ⟨hmid, hnet, by decide, by decide, by decide, by decide, hf⟩

end TransportNetwork

end NetworkMonitor
