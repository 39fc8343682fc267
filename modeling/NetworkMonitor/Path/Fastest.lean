import NetworkMonitor.Path.Invariant
import NetworkMonitor.Path.Termination

namespace NetworkMonitor

/-- The step the path assembly writes for the edge `p`. -/
def EdgePtr.toStep (p : EdgePtr) : TravelRoute.Step :=
  ⟨p.station, p.edge.nextStop, p.edge.route.lineId, p.edge.route.id, p.edge.travelTime⟩

/-- The number of consecutive steps on different routes, a route named by its line and route
ids. -/
def routeChanges : List TravelRoute.Step → Nat
  | s :: t :: steps =>
    (if (s.lineId, s.routeId) = (t.lineId, t.routeId) then 0 else 1) + routeChanges (t :: steps)
  | _ => 0

namespace TransportNetwork

variable (net : TransportNetwork)

/-- `steps` lead from station `a` to station `b`: the first starts at `a`, each ends where the
next starts, the last ends at `b`, and each follows an edge of its start station on its route
`(lineId, routeId)`, with that edge's travel time. -/
def StepsWalk : Id → Id → List TravelRoute.Step → Prop
  | a, b, [] => a = b
  | a, b, s :: steps => s.startStationId = a ∧
      (∃ e ∈ net.edgesOf a, e.route.lineId = s.lineId ∧ e.route.id = s.routeId ∧
        e.nextStop = s.endStationId ∧ e.travelTime = s.travelTime) ∧
      StepsWalk s.endStationId b steps

/-- What the specification asks of the result of `GetFastestTravelRoute(A, B)`. -/
structure TravelRouteSpec (stationA stationB : Id) (r : TravelRoute) : Prop where
  start_eq : r.startStationId = stationA
  end_eq : r.endStationId = stationB
  empty_iff : (r.steps = [] ∧ r.totalTravelTime = 0) ↔ ¬∃ es, net.IsWalk stationA stationB es
  steps_walk : r.steps ≠ [] → net.StepsWalk stationA stationB r.steps
  total_eq : r.totalTravelTime.toNat =
    (r.steps.map (·.travelTime.toNat)).sum + 5 * routeChanges r.steps
  total_le : ∀ es, net.IsWalk stationA stationB es → r.totalTravelTime.toNat ≤ walkCost none es

variable {net} {stationB : Id}

theorem Walk.stepsWalk {P Q : PathStop} {ptrs : List EdgePtr} {c : Nat}
    (h : net.Walk stationB P Q ptrs c) : net.StepsWalk P.node Q.node (ptrs.map EdgePtr.toStep) := by
  induction h with
  | nil => rfl
  | cons j e _ he _ ih => exact ⟨rfl, ⟨e, List.getElem?_mem he, rfl, rfl, rfl, rfl⟩, ih⟩

theorem Walk.ne_nil {P Q : PathStop} {ptrs : List EdgePtr} {c : Nat}
    (h : net.Walk stationB P Q ptrs c) (hPQ : P.node ≠ Q.node) : ptrs ≠ [] := by
  rintro rfl
  cases h
  exact hPQ rfl

theorem route_addr_eq_iff (hc : net.Consistent) {r r' : RouteInternal} (hr : r ∈ net.routes)
    (hr' : r' ∈ net.routes) : r.addr = r'.addr ↔ (r.lineId, r.id) = (r'.lineId, r'.id) := by
  constructor
  · intro h
    rw [List.inj_on_of_nodup_map hc.2.addr_nodup hr hr' h]
  · intro h
    have := hc.1.getRoute_of_mem hr
    rw [(Prod.mk.inj h).1, (Prod.mk.inj h).2, hc.1.getRoute_of_mem hr'] at this
    cases this
    rfl

theorem walkCost_eq_steps (hc : net.Consistent) : ∀ (p : EdgePtr) (ptrs : List EdgePtr),
    (∀ q ∈ p :: ptrs, q.edge.route ∈ net.routes) →
    walkCost (some p.edge) (ptrs.map (·.edge)) =
      (ptrs.map (·.edge.travelTime.toNat)).sum + 5 * routeChanges ((p :: ptrs).map EdgePtr.toStep)
  | _, [], _ => rfl
  | p, q :: ptrs, h => by
    have hrest := walkCost_eq_steps hc q ptrs fun r hr => h r (List.mem_cons_of_mem _ hr)
    have hpq := route_addr_eq_iff hc (h p (List.mem_cons_self _ _))
      (h q (List.mem_cons_of_mem _ (List.mem_cons_self _ _)))
    simp only [List.map_cons, walkCost, penalty, routeChanges, EdgePtr.toStep, ne_eq, hpq,
      List.sum_cons] at hrest ⊢
    rw [hrest]
    split_ifs <;> omega

end TransportNetwork

section assemble

variable {previousStop : List (PathStop × PathStop)} {stationA : Id}

theorem assemble_eq_of_eq_some : ∀ {f₁ f₂ : Nat} {stop : PathStop}
    {steps : List TravelRoute.Step} {r₁ r₂ : Except SearchFault (List TravelRoute.Step)},
    assemble previousStop stationA f₁ stop steps = some r₁ →
    assemble previousStop stationA f₂ stop steps = some r₂ → r₁ = r₂
  | 0, _, _, _, _, _, h, _ => nomatch h
  | _ + 1, 0, _, _, _, _, _, h => nomatch h
  | f₁ + 1, f₂ + 1, stop, steps, r₁, r₂, h₁, h₂ => by
    simp only [assemble] at h₁ h₂
    split at h₁
    · rw [if_pos ‹_›] at h₂
      exact Option.some.inj (h₁.symm.trans h₂)
    · rw [if_neg ‹_›] at h₂
      cases hp : previousStop.lookup stop <;> cases he : stop.edge <;>
        simp only [hp, he, Option.some.injEq] at h₁ h₂
      · exact h₁.symm.trans h₂
      · exact h₁.symm.trans h₂
      · exact h₁.symm.trans h₂
      · exact assemble_eq_of_eq_some h₁ h₂

end assemble

namespace SearchState

variable {st : SearchState} {net : TransportNetwork} {stationA stationB : Id}

theorem assemble_chain {rank : PathStop → Nat}
    (hlink : ∀ P v, st.distFromA.lookup P = some v → P ≠ ⟨stationA, none⟩ →
      st.Linked net stationB rank P v)
    (P : PathStop) (v : UInt32) (hv : st.distFromA.lookup P = some v)
    (steps : List TravelRoute.Step) :
    ∃ X vX ptrs c fuel, X.node = stationA ∧ st.distFromA.lookup X = some vX ∧
      net.Walk stationB X P ptrs c ∧ vX.toNat + c ≤ v.toNat ∧
      assemble st.previousStop stationA fuel P steps =
        some (.ok (steps ++ (ptrs.map EdgePtr.toStep).reverse)) := by
  by_cases hPA : P.node = stationA
  · exact ⟨P, v, [], 0, 1, hPA, hv, .nil _, le_refl _, by simp [assemble, hPA]⟩
  · obtain ⟨Q, vQ, j, e, hprev, hQ, hQB, he, rfl, hle, hlt⟩ :=
      hlink P v hv fun h => hPA (h ▸ rfl)
    obtain ⟨X, vX, ptrs, c, fuel, hX, hvX, hw, hc, hasm⟩ :=
      assemble_chain hlink Q vQ hQ (steps ++ [EdgePtr.toStep ⟨Q.node, j, e⟩])
    refine ⟨X, vX, ptrs ++ [⟨Q.node, j, e⟩], c + Q.weight e, fuel + 1, hX, hvX, hw.snoc hQB he,
      by omega, ?_⟩
    simp only [assemble, if_neg hPA, hprev]
    simpa [EdgePtr.toStep, PathStop.next] using hasm
termination_by (v.toNat, rank P)
decreasing_by exact Prod.lex_def.2 (by dsimp only; omega)

section final

variable (hinv : st.Inv net stationB stationA net.edgeCostSum) (hq : st.nodesToVisit = [])
include hinv hq

theorem Inv.final_le {X Q : PathStop} {ptrs : List EdgePtr} {c : Nat}
    (hw : net.Walk stationB X Q ptrs c) {vX : UInt32} (hX : st.distFromA.lookup X = some vX) :
    ∃ vQ, st.distFromA.lookup Q = some vQ ∧ vQ.toNat ≤ vX.toNat + c := by
  rcases frontier hinv.closed hw hX with ⟨Y, vY, hY, -⟩ | h
  · rw [hq] at hY
    cases hY
  · exact h

theorem Inv.reaches_B (hAB : stationA ≠ stationB) {es : List GraphEdge}
    (hes : net.IsWalk stationA stationB es) :
    ∃ Q vQ, (Q, vQ) ∈ st.pathsToB stationB ∧ vQ.toNat ≤ walkCost none es := by
  obtain ⟨Q, ptrs, c, hQB, -, hw, hc⟩ := TransportNetwork.exists_walk_of_isWalk ⟨stationA, none⟩ es hes hAB
  obtain ⟨vQ, hvQ, hle⟩ := hinv.final_le hq hw hinv.source
  refine ⟨Q, vQ, List.mem_filter.2 ⟨mem_of_lookup_eq_some hvQ, by simpa using hQB⟩, ?_⟩
  simp only [UInt32.toNat_zero, Nat.zero_add] at hle
  exact hle.trans hc

theorem Inv.assemble_final (hc : net.Consistent) (hAB : stationA ≠ stationB) {stop : PathStop}
    {d : UInt32} (hstop : st.distFromA.lookup stop = some d) (hB : stop.node = stationB) :
    ∃ ptrs fuel, net.Walk stationB ⟨stationA, none⟩ stop ptrs d.toNat ∧
      assemble st.previousStop stationA fuel stop [] = some (.ok (ptrs.map EdgePtr.toStep).reverse) := by
  obtain ⟨rank, hlink⟩ := hinv.linked
  obtain ⟨X, vX, ptrs, c, fuel, hX, hvX, hw, hcost, hasm⟩ := assemble_chain hlink stop d hstop []
  obtain ⟨p, ptrs', rfl⟩ := List.exists_cons_of_ne_nil (hw.ne_nil (by rw [hX, hB]; exact hAB))
  obtain ⟨c', hc', hw'⟩ := hw.restart (Y := ⟨stationA, none⟩) hX.symm rfl
  obtain ⟨vS, hvS, hle⟩ := hinv.final_le hq hw' hinv.source
  rw [hstop] at hvS
  cases hvS
  simp only [UInt32.toNat_zero] at hle
  by_cases hX0 : X = ⟨stationA, none⟩
  · subst hX0
    rw [hinv.source] at hvX
    cases hvX
    simp only [UInt32.toNat_zero] at hcost
    exact ⟨_, fuel, (show c = d.toNat by omega) ▸ hw, by simpa using hasm⟩
  · obtain ⟨ptrsX, cX, hwX, hcX, -, -⟩ := chain_walk hlink X vX hvX
    have hne : ptrsX ≠ [] := by
      rintro rfl
      cases hwX
      exact hX0 rfl
    obtain ⟨q, ptrsX', rfl⟩ := List.exists_cons_of_ne_nil hne
    have := hwX.five_le_of_return hc hX
    omega

theorem Inv.exists_travelRouteOf (hc : net.Consistent) (hAB : stationA ≠ stationB) :
    ∃ res, st.TravelRouteOf stationA stationB res := by
  by_cases hB : st.pathsToB stationB = []
  · exact ⟨_, .inl ⟨hB, rfl⟩⟩
  · obtain ⟨⟨pre, ⟨stop, d⟩, post⟩, hs⟩ :=
      Option.ne_none_iff_exists'.1 (mt minSplit_eq_none.1 hB)
    obtain ⟨hl, hmin⟩ := minSplit_spec hs
    have hmem : (stop, d) ∈ st.pathsToB stationB := by rw [hl]; simp
    obtain ⟨hsd, hsB⟩ := List.mem_filter.1 hmem
    obtain ⟨ptrs, fuel, -, hasm⟩ := hinv.assemble_final hq hc hAB
      (lookup_eq_some_of_mem hinv.nodup hsd) (by simpa using hsB)
    exact ⟨_, .inr ⟨stop, d, hmem, hmin, fuel, by rw [hasm]; rfl⟩⟩

theorem Inv.travelRouteOf_spec (hc : net.Consistent) (hAB : stationA ≠ stationB)
    {res : Except SearchFault TravelRoute} (h : st.TravelRouteOf stationA stationB res) :
    ∃ r, res = .ok r ∧ net.TravelRouteSpec stationA stationB r := by
  rcases h with ⟨hB, rfl⟩ | ⟨stop, d, hmem, hmin, fuel, hres⟩
  · refine ⟨_, rfl, rfl, rfl, ⟨fun _ ⟨es, hes⟩ => ?_, fun _ => ⟨rfl, rfl⟩⟩,
      fun h => absurd rfl h, rfl, fun _ _ => Nat.zero_le _⟩
    obtain ⟨Q, vQ, hQ, -⟩ := hinv.reaches_B hq hAB hes
    rw [hB] at hQ
    cases hQ
  · obtain ⟨hsd, hsB⟩ := List.mem_filter.1 hmem
    have hsB : stop.node = stationB := by simpa using hsB
    obtain ⟨ptrs, fuel', hw, hasm⟩ := hinv.assemble_final hq hc hAB
      (lookup_eq_some_of_mem hinv.nodup hsd) hsB
    obtain ⟨r₀, hr₀, rfl⟩ := Option.map_eq_some'.1 hres
    cases assemble_eq_of_eq_some hr₀ hasm
    obtain ⟨p, ptrs', rfl⟩ := List.exists_cons_of_ne_nil (hw.ne_nil (by rw [hsB]; exact hAB))
    have hwalk := hw.isWalk
    rw [hsB] at hwalk
    have hcost := hw.cost_eq
    have hroutes : ∀ q ∈ p :: ptrs', q.edge.route ∈ net.routes := fun q hq' =>
      (hc.2.edge_route _ _ (List.getElem?_mem (hw.valid q hq'))).1
    rw [List.map_cons, walkCost, TransportNetwork.walkCost_eq_steps hc p ptrs' hroutes] at hcost
    refine ⟨_, rfl, rfl, rfl, ⟨fun h => absurd h.1 (by simp), fun h => absurd ⟨_, hwalk⟩ h⟩,
      fun _ => by simpa [hsB] using hw.stepsWalk, ?_, fun es hes => ?_⟩
    · simp only [List.reverse_reverse, List.map_cons, List.map_map, List.sum_cons, Option.map_none',
        penalty, EdgePtr.toStep, Function.comp_def] at hcost ⊢
      omega
    · obtain ⟨Q, vQ, hQ, hle⟩ := hinv.reaches_B hq hAB hes
      exact ((uint32_le_iff _ _).1 (hmin _ hQ)).trans hle

end final

end SearchState

namespace TransportNetwork

variable {net : TransportNetwork} {stationA stationB : Id}

theorem exists_fastestTravelRoute (hnet : Reachable net) (hS : net.edgeCostSum < 2 ^ 30) :
    ∃ res, net.FastestTravelRoute stationA stationB res := by
  unfold FastestTravelRoute
  split_ifs with _ hAB
  · exact ⟨_, rfl⟩
  · exact ⟨_, rfl⟩
  · obtain ⟨final, hrun, hq⟩ := exists_final stationB (initialSearch stationA)
    obtain ⟨res, hres⟩ := (SearchState.Inv.reachable hS hrun).exists_travelRouteOf hq
      (consistent_of_reachable hnet) hAB
    exact ⟨res, final, hrun, hq, hres⟩

theorem getFastestTravelRoute_spec (hnet : Reachable net) (hS : net.edgeCostSum < 2 ^ 30)
    (hA : (net.getStation stationA).isSome) (hB : (net.getStation stationB).isSome)
    (hAB : stationA ≠ stationB) :
    Acc (fun st' st => net.SearchStep stationB st st') (initialSearch stationA) ∧
    (∃ res, net.FastestTravelRoute stationA stationB res) ∧
    (∀ final, Relation.ReflTransGen (net.SearchStep stationB) (initialSearch stationA) final →
      final.nodesToVisit = [] → ∃ res, final.TravelRouteOf stationA stationB res) ∧
    ∀ res, net.FastestTravelRoute stationA stationB res →
      ∃ r, res = .ok r ∧ net.TravelRouteSpec stationA stationB r := by
  have hc := consistent_of_reachable hnet
  refine ⟨acc_searchStep stationB _, exists_fastestTravelRoute hnet hS, fun final hrun hq =>
    (SearchState.Inv.reachable hS hrun).exists_travelRouteOf hq hc hAB, fun res h => ?_⟩
  have hnone : ((net.getStation stationA).isNone || (net.getStation stationB).isNone) = false := by
    simp [← Option.not_isSome, hA, hB]
  rw [FastestTravelRoute, hnone, if_neg Bool.false_ne_true, if_neg hAB] at h
  obtain ⟨final, hrun, hq, hres⟩ := h
  exact (SearchState.Inv.reachable hS hrun).travelRouteOf_spec hq hc hAB hres

theorem getFastestTravelRoute_spec_example :
    let net := run {} [.addStation ⟨"A"⟩, .addStation ⟨"B"⟩, .addStation ⟨"C"⟩,
      .addLine ⟨"L1", [⟨"R1", ["A", "B"]⟩]⟩, .addLine ⟨"L2", [⟨"R2", ["B", "C"]⟩]⟩,
      .setTravelTime "A" "B" 3, .setTravelTime "B" "C" 4]
    Reachable net ∧ net.edgeCostSum < 2 ^ 30 ∧ (∃ res, net.FastestTravelRoute "A" "C" res) ∧
      ∀ res, net.FastestTravelRoute "A" "C" res → ∃ r, res = .ok r ∧ net.TravelRouteSpec "A" "C" r :=
  have h := Reachable.empty.run (by decide)
  have hspec := getFastestTravelRoute_spec h (by decide) (by decide) (by decide) (by decide)
  ⟨h, by decide, hspec.2.1, hspec.2.2.2⟩

end TransportNetwork

end NetworkMonitor
