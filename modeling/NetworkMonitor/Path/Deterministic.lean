import NetworkMonitor.Path.Fastest

namespace NetworkMonitor

namespace TransportNetwork

variable (net : TransportNetwork)

/-- No two heap entries share a distance at any of the first `fuel` turns of `runSearch`. -/
def distinctAlong (stationB : Id) : Nat → SearchState → Bool
  | 0, _ => true
  | fuel + 1, st =>
    decide (st.nodesToVisit.map (·.2)).Nodup &&
      match net.popStep stationB st with
      | none => true
      | some st' => distinctAlong stationB fuel st'

end TransportNetwork

/-- The code after the loop, `std::sort` leaving the first fastest entry last, with `fuel` turns
for the path assembly. -/
def SearchState.routeResult (final : SearchState) (stationA stationB : Id) (fuel : Nat) :
    Option (Except SearchFault TravelRoute) :=
  match minSplit (final.pathsToB stationB) with
  | none => some (.ok ⟨stationA, stationB, 0, []⟩)
  | some (_, m, _) => (assemble final.previousStop stationA fuel m.1 []).map
      (·.map fun steps => ⟨stationA, stationB, m.2, steps.reverse⟩)

namespace TransportNetwork

variable (net : TransportNetwork)

/-- `GetFastestTravelRoute(A, B)` with the heap releasing the first entry of least distance and
`fuel` turns for each loop. -/
def fastestTravelRoute (stationA stationB : Id) (fuel : Nat) :
    Option (Except SearchFault TravelRoute) :=
  if (net.getStation stationA).isNone || (net.getStation stationB).isNone then some (.ok {})
  else if stationA = stationB then
    some (.ok ⟨stationA, stationA, 0, [⟨stationA, stationA, "", "", 0⟩]⟩)
  else
    let final := net.runSearch stationB fuel (initialSearch stationA)
    if final.nodesToVisit = [] then final.routeResult stationA stationB fuel else none

variable {net} {stationA stationB : Id}

theorem length_eq_of_nodup_keys {l pre post pre' post' : List (PathStop × UInt32)}
    {x x' : PathStop × UInt32} (hnd : (l.map (·.2)).Nodup) (h : l = pre ++ x :: post)
    (h' : l = pre' ++ x' :: post') (hx : x.2 = x'.2) : pre.length = pre'.length := by
  have key : ∀ pre post (x : PathStop × UInt32), l = pre ++ x :: post →
      (l.map (·.2)).indexOf x.2 = pre.length := by
    intro pre post x h
    subst h
    simp only [List.map_append, List.map_cons] at hnd ⊢
    rw [List.indexOf_append_of_not_mem fun hm => (List.nodup_append.1 hnd).2.2 hm
      (List.mem_cons_self _ _), List.indexOf_cons_self, add_zero, List.length_map]
  rw [← key pre post x h, ← key pre' post' x' h', hx]

theorem SearchStep.eq_of_nodup {st s₁ s₂ : SearchState} (hnd : (st.nodesToVisit.map (·.2)).Nodup)
    (h₁ : net.SearchStep stationB st s₁) (h₂ : net.SearchStep stationB st s₂) : s₁ = s₂ := by
  obtain ⟨pre, post, P, d, hq, hmin⟩ := h₁
  obtain ⟨pre', post', P', d', hq', hmin'⟩ := h₂
  obtain rfl : d = d' :=
    uint32_le_antisymm (hmin (P', d') (by rw [hq']; simp)) (hmin' (P, d) (by rw [hq]; simp))
  obtain ⟨rfl, hrest⟩ := List.append_inj (hq.symm.trans hq') (length_eq_of_nodup_keys hnd hq hq' rfl)
  obtain ⟨hx, rfl⟩ := List.cons.inj hrest
  cases hx
  rfl

theorem eq_runSearch_of_final : ∀ (fuel : Nat) (st final : SearchState),
    net.distinctAlong stationB fuel st = true → (net.runSearch stationB fuel st).nodesToVisit = [] →
    Relation.ReflTransGen (net.SearchStep stationB) st final → final.nodesToVisit = [] →
    final = net.runSearch stationB fuel st
  | 0, st, final, _, hst, hrun, _ => by
    rcases Relation.ReflTransGen.cases_head hrun with rfl | ⟨c, ⟨pre, post, P, d, hq, -⟩, -⟩
    · rfl
    · rw [runSearch] at hst
      simp [hst] at hq
  | fuel + 1, st, final, hdist, hst, hrun, hfinal => by
    simp only [distinctAlong, Bool.and_eq_true, decide_eq_true_eq] at hdist
    rcases Relation.ReflTransGen.cases_head hrun with rfl | ⟨c, hstep, hrest⟩
    · have : net.popStep stationB st = none := by simp [popStep, minSplit_eq_none.2 hfinal]
      simp [runSearch, this]
    · have hne : st.nodesToVisit ≠ [] := by
        obtain ⟨pre, post, P, d, hq, -⟩ := hstep
        simp [hq]
      obtain ⟨st', hpop⟩ := Option.isSome_iff_exists.1 (popStep_isSome stationB hne)
      cases SearchStep.eq_of_nodup hdist.1 hstep (searchStep_of_popStep hpop)
      simp only [runSearch, hpop] at hst hdist ⊢
      exact eq_runSearch_of_final fuel c final hdist.2 hst hrest hfinal

theorem travelRouteOf_routeResult {final : SearchState} {fuel : Nat}
    {res : Except SearchFault TravelRoute} (h : final.routeResult stationA stationB fuel = some res) :
    final.TravelRouteOf stationA stationB res := by
  unfold SearchState.routeResult at h
  split at h
  · next hs => exact .inl ⟨minSplit_eq_none.1 hs, (Option.some.inj h).symm⟩
  · next pre m post hs =>
    obtain ⟨hl, hmin⟩ := minSplit_spec hs
    exact .inr ⟨m.1, m.2, by rw [hl]; simp, hmin, fuel, h⟩

theorem eq_routeResult {final : SearchState} {fuel : Nat} {res r : Except SearchFault TravelRoute}
    (hnd : ((final.pathsToB stationB).map (·.2)).Nodup) (h : final.TravelRouteOf stationA stationB res)
    (hr : final.routeResult stationA stationB fuel = some r) : res = r := by
  unfold SearchState.routeResult at hr
  rcases h with ⟨hB, rfl⟩ | ⟨stop, d, hmem, hmin, fuel', hres⟩
  · simp only [hB, minSplit, Option.some.injEq] at hr
    exact hr
  · split at hr
    · next hs =>
      rw [minSplit_eq_none.1 hs] at hmem
      cases hmem
    · next pre m post hs =>
      obtain ⟨hl, hmin'⟩ := minSplit_spec hs
      have hm : m ∈ final.pathsToB stationB := by rw [hl]; simp
      obtain rfl : (stop, d) = m := List.inj_on_of_nodup_map hnd hmem hm
        (uint32_le_antisymm (hmin m hm) (hmin' _ hmem))
      obtain ⟨r₁, h₁, rfl⟩ := Option.map_eq_some'.1 hres
      obtain ⟨r₂, h₂, rfl⟩ := Option.map_eq_some'.1 hr
      rw [assemble_eq_of_eq_some h₁ h₂]

theorem fastestTravelRoute_sound {fuel : Nat} {res : Except SearchFault TravelRoute}
    (h : net.fastestTravelRoute stationA stationB fuel = some res) :
    net.FastestTravelRoute stationA stationB res := by
  unfold fastestTravelRoute at h
  unfold FastestTravelRoute
  dsimp only at h
  split_ifs at h ⊢ with _ _ hq
  · exact (Option.some.inj h).symm
  · exact (Option.some.inj h).symm
  · exact ⟨_, reflTransGen_runSearch fuel _, hq, travelRouteOf_routeResult h⟩

theorem eq_fastestTravelRoute {fuel : Nat} {res r : Except SearchFault TravelRoute}
    (hdist : net.distinctAlong stationB fuel (initialSearch stationA) = true)
    (hnd : (((net.runSearch stationB fuel (initialSearch stationA)).pathsToB stationB).map (·.2)).Nodup)
    (hr : net.fastestTravelRoute stationA stationB fuel = some r)
    (h : net.FastestTravelRoute stationA stationB res) : res = r := by
  unfold fastestTravelRoute at hr
  unfold FastestTravelRoute at h
  dsimp only at hr
  split_ifs at h hr with _ _ hq
  · exact h.trans (Option.some.inj hr)
  · exact h.trans (Option.some.inj hr)
  · obtain ⟨final, hrun, hfinal, hres⟩ := h
    rw [eq_runSearch_of_final fuel _ final hdist hq hrun hfinal] at hres
    exact eq_routeResult hnd hres hr

theorem runSearch_of_empty {st : SearchState} (h : st.nodesToVisit = []) :
    ∀ fuel, net.runSearch stationB fuel st = st
  | 0 => rfl
  | _ + 1 => by simp only [runSearch, popStep, minSplit_eq_none.2 h, Option.map_none']

theorem runSearch_empty_of_le : ∀ (fuel : Nat) (st : SearchState), net.searchPotential st ≤ fuel →
    (net.runSearch stationB fuel st).nodesToVisit = []
  | 0, st, h => by
    show st.nodesToVisit = []
    unfold searchPotential at h
    exact List.eq_nil_of_length_eq_zero (by omega)
  | fuel + 1, st, h => by
    unfold runSearch
    cases hp : net.popStep stationB st with
    | none => exact minSplit_eq_none.1 (Option.map_eq_none'.1 hp)
    | some st' =>
      have := searchPotential_step (searchStep_of_popStep hp)
      exact runSearch_empty_of_le fuel st' (by omega)

theorem runSearch_eq_of_le : ∀ {f F : Nat} {st : SearchState},
    (net.runSearch stationB f st).nodesToVisit = [] → f ≤ F →
      net.runSearch stationB F st = net.runSearch stationB f st
  | 0, F, _, h, _ => runSearch_of_empty h F
  | _ + 1, 0, _, _, hle => absurd hle (by omega)
  | f + 1, F + 1, st, h, hle => by
    cases hp : net.popStep stationB st with
    | none => simp only [runSearch, hp]
    | some st' =>
      simp only [runSearch, hp] at h ⊢
      exact runSearch_eq_of_le h (by omega)

theorem assemble_mono {previousStop : List (PathStop × PathStop)} : ∀ {f F : Nat} {stop : PathStop}
    {steps : List TravelRoute.Step} {r : Except SearchFault (List TravelRoute.Step)},
    assemble previousStop stationA f stop steps = some r → f ≤ F →
      assemble previousStop stationA F stop steps = some r
  | 0, _, _, _, _, h, _ => nomatch h
  | _ + 1, 0, _, _, _, _, hle => absurd hle (by omega)
  | f + 1, F + 1, stop, steps, r, h, hle => by
    simp only [assemble] at h ⊢
    split at h
    · rw [if_pos ‹_›]; exact h
    · rw [if_neg ‹_›]
      cases hp : previousStop.lookup stop <;> cases he : stop.edge <;> simp only [hp, he] at h ⊢
      · exact h
      · exact h
      · exact h
      · exact assemble_mono h (by omega)

theorem routeResult_eq_some {final : SearchState} (hinv : final.Inv net stationB stationA net.edgeCostSum)
    (hq : final.nodesToVisit = []) (hc : net.Consistent) (hAB : stationA ≠ stationB) :
    ∃ f₁, ∀ fuel, f₁ ≤ fuel → ∃ r, final.routeResult stationA stationB fuel = some (.ok r) := by
  unfold SearchState.routeResult
  cases hs : minSplit (final.pathsToB stationB) with
  | none => exact ⟨0, fun _ _ => ⟨_, rfl⟩⟩
  | some s =>
    obtain ⟨pre, ⟨stop, d⟩, post⟩ := s
    obtain ⟨hl, -⟩ := minSplit_spec hs
    have hm : (stop, d) ∈ final.pathsToB stationB := by rw [hl]; simp
    obtain ⟨hmem, hB⟩ := List.mem_filter.1 hm
    obtain ⟨ptrs, f₁, -, hasm⟩ := hinv.assemble_final hq hc hAB
      (lookup_eq_some_of_mem hinv.nodup hmem) (by simpa using hB)
    exact ⟨f₁, fun fuel hle => ⟨_, by simp only [assemble_mono hasm hle, Option.map_some']; rfl⟩⟩

theorem fastestTravelRoute_total (hnet : Reachable net) (hS : net.edgeCostSum < 2 ^ 30)
    (hA : (net.getStation stationA).isSome) (hB : (net.getStation stationB).isSome)
    (hAB : stationA ≠ stationB) :
    ∃ fuel₀, ∀ fuel, fuel₀ ≤ fuel → ∃ r, net.fastestTravelRoute stationA stationB fuel = some (.ok r) ∧
      net.TravelRouteSpec stationA stationB r := by
  have hc := consistent_of_reachable hnet
  set f₀ := net.searchPotential (initialSearch stationA)
  have hq : (net.runSearch stationB f₀ (initialSearch stationA)).nodesToVisit = [] :=
    runSearch_empty_of_le f₀ _ le_rfl
  have hinv : (net.runSearch stationB f₀ (initialSearch stationA)).Inv net stationB stationA
      net.edgeCostSum := SearchState.Inv.reachable hS (reflTransGen_runSearch f₀ _)
  obtain ⟨f₁, hf₁⟩ := routeResult_eq_some hinv hq hc hAB
  refine ⟨f₀ + f₁, fun fuel hle => ?_⟩
  obtain ⟨r, hr⟩ := hf₁ fuel (by omega)
  have hnone : ((net.getStation stationA).isNone || (net.getStation stationB).isNone) = false := by
    simp [← Option.not_isSome, hA, hB]
  have hrun := runSearch_eq_of_le (F := fuel) hq (by omega)
  have hres : net.fastestTravelRoute stationA stationB fuel = some (.ok r) := by
    rw [fastestTravelRoute, hnone, if_neg Bool.false_ne_true, if_neg hAB]
    dsimp only
    rw [hrun, if_pos hq, hr]
  obtain ⟨r', hr', hspec⟩ := hinv.travelRouteOf_spec hq hc hAB (travelRouteOf_routeResult hr)
  exact ⟨r, hres, Except.ok.inj hr' ▸ hspec⟩

theorem fastestTravelRoute_total_example :
    let net := run {} [.addStation ⟨"A"⟩, .addStation ⟨"B"⟩, .addStation ⟨"C"⟩,
      .addLine ⟨"L1", [⟨"R1", ["A", "B"]⟩]⟩, .addLine ⟨"L2", [⟨"R2", ["B", "C"]⟩]⟩,
      .setTravelTime "A" "B" 3, .setTravelTime "B" "C" 4]
    Reachable net ∧ net.edgeCostSum < 2 ^ 30 ∧ (net.getStation "A").isSome ∧
      (net.getStation "C").isSome ∧ "A" ≠ "C" ∧
      ∃ fuel₀, ∀ fuel, fuel₀ ≤ fuel → ∃ r, net.fastestTravelRoute "A" "C" fuel = some (.ok r) ∧
        net.TravelRouteSpec "A" "C" r := by
  intro net
  have h : Reachable net := Reachable.empty.run (by decide)
  exact ⟨h, by decide, by decide, by decide, by decide, fastestTravelRoute_total h (by decide)
    (by decide : (net.getStation "A").isSome) (by decide : (net.getStation "C").isSome)
    (by decide : "A" ≠ "C")⟩

/-- With travel times near 2^32 the sum `currentDistFromA + travelTime` wraps: every walk from A
to B costs at least 10, yet the search returns 1, through a walk of cost 2^32 + 1. -/
theorem getFastestTravelRoute_wraps :
    let net : TransportNetwork := run {} [.addStation ⟨"A"⟩, .addStation ⟨"B"⟩, .addStation ⟨"C"⟩,
      .addLine ⟨"L1", [⟨"R1", ["A", "B"]⟩]⟩, .addLine ⟨"L2", [⟨"R2", ["A", "C", "B"]⟩]⟩,
      .setTravelTime "A" "B" 10, .setTravelTime "A" "C" 4294967295, .setTravelTime "C" "B" 2]
    Reachable net ∧ (∀ es, net.IsWalk "A" "B" es → 10 ≤ walkCost none es) ∧
      net.IsWalk "A" "B" [⟨⟨0, "R1", "L1", ["A", "B"]⟩, "B", 10⟩] ∧
      walkCost none [⟨⟨0, "R1", "L1", ["A", "B"]⟩, "B", 10⟩] = 10 ∧
      ∀ res, net.FastestTravelRoute "A" "B" res ↔ res = .ok ⟨"A", "B", 1,
        [⟨"A", "C", "L2", "R2", 4294967295⟩, ⟨"C", "B", "L2", "R2", 2⟩]⟩ := by
  intro net
  have hr : net.fastestTravelRoute "A" "B" 5 = some (.ok ⟨"A", "B", 1,
      [⟨"A", "C", "L2", "R2", 4294967295⟩, ⟨"C", "B", "L2", "R2", 2⟩]⟩) := by
    rfl
  refine ⟨Reachable.empty.run (by decide), fun es hes => ?_, ⟨by decide, rfl⟩, rfl, fun res =>
    ⟨fun h => eq_fastestTravelRoute (by decide) (by decide) hr h, fun h => h ▸ fastestTravelRoute_sound hr⟩⟩
  cases es with
  | nil => exact absurd hes (show "A" ≠ "B" by decide)
  | cons e es =>
    have hA : ∀ e ∈ net.edgesOf "A", 10 ≤ e.travelTime.toNat := by decide
    have := hA e hes.1
    simp only [walkCost]
    omega

end TransportNetwork

end NetworkMonitor
