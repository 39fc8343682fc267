import NetworkMonitor.Path.OnRoute

namespace NetworkMonitor

theorem penalty_le (prev : Option GraphEdge) (e : GraphEdge) : penalty prev e ≤ 5 := by
  unfold penalty; split <;> [split <;> omega; omega]

theorem walkCost_le_none (prev : Option GraphEdge) : ∀ es : List GraphEdge,
    walkCost prev es ≤ walkCost none es + 5
  | [] => Nat.le_add_right _ _
  | e :: es => by
    have := penalty_le prev e
    have h0 : penalty none e = 0 := rfl
    simp only [walkCost, h0]
    omega

theorem walkCost_append_le : ∀ (prev : Option GraphEdge) (es es' : List GraphEdge),
    walkCost prev (es ++ es') ≤ walkCost prev es + walkCost none es' + 5
  | prev, [], es' => by simpa [walkCost] using walkCost_le_none prev es'
  | prev, e :: es, es' => by
    have := walkCost_append_le (some e) es es'
    rw [List.cons_append, walkCost, walkCost]
    omega

namespace TransportNetwork

variable {net : TransportNetwork}

theorem IsWalk.append : ∀ {a b c : Id} {es es' : List GraphEdge}, net.IsWalk a b es →
    net.IsWalk b c es' → net.IsWalk a c (es ++ es')
  | _, _, _, [], _, rfl, h' => h'
  | _, _, _, _ :: _, _, ⟨he, h⟩, h' => ⟨he, IsWalk.append h h'⟩

theorem StepsWalk.exists_ptrs : ∀ {a b : Id} {steps : List TravelRoute.Step},
    net.StepsWalk a b steps → ∃ ptrs : List EdgePtr, ptrs.map EdgePtr.toStep = steps ∧
      net.IsWalk a b (ptrs.map (·.edge)) ∧ ∀ q ∈ ptrs, q.edge ∈ net.edgesOf q.station
  | _, _, [], h => ⟨[], rfl, h, fun _ h => nomatch h⟩
  | _, _, ⟨st, en, l, r, t⟩ :: _, ⟨hs, ⟨e, he, hl, hr, hn, ht⟩, hrest⟩ => by
    obtain ⟨ptrs, hmap, hw, hmem⟩ := StepsWalk.exists_ptrs hrest
    obtain ⟨j, -⟩ := List.mem_iff_getElem?.1 he
    dsimp only at hs hl hr hn ht hw
    subst hs hl hr hn ht
    refine ⟨⟨st, j, e⟩ :: ptrs, by rw [List.map_cons, hmap]; rfl, ⟨he, hw⟩, ?_⟩
    rintro q (_ | ⟨_, hq⟩)
    · exact he
    · exact hmem q hq

theorem walkCost_none_eq_steps (hc : net.Consistent) : ∀ ptrs : List EdgePtr,
    (∀ q ∈ ptrs, q.edge ∈ net.edgesOf q.station) →
    walkCost none (ptrs.map (·.edge)) =
      (ptrs.map (·.edge.travelTime.toNat)).sum + 5 * routeChanges (ptrs.map EdgePtr.toStep)
  | [], _ => rfl
  | p :: ptrs, h => by
    have hrest := walkCost_eq_steps hc p ptrs fun q hq => (hc.2.edge_route _ _ (h q hq)).1
    simp only [List.map_cons, walkCost, penalty, List.sum_cons] at hrest ⊢
    omega

theorem TravelRouteSpec.exists_walk (hc : net.Consistent) {A B : Id} {r : TravelRoute}
    (hspec : net.TravelRouteSpec A B r) (hne : r.steps ≠ []) :
    ∃ es, net.IsWalk A B es ∧ walkCost none es = r.totalTravelTime.toNat := by
  obtain ⟨ptrs, hmap, hw, hmem⟩ := (hspec.steps_walk hne).exists_ptrs
  refine ⟨_, hw, ?_⟩
  rw [walkCost_none_eq_steps hc ptrs hmem, hspec.total_eq, ← hmap, List.map_map]
  rfl

theorem TravelRouteSpec.total_le_add (hc : net.Consistent) {A B C : Id} {r₁ r₂ r₃ : TravelRoute}
    (h₁ : net.TravelRouteSpec A B r₁) (h₂ : net.TravelRouteSpec B C r₂) (h₃ : net.TravelRouteSpec A C r₃)
    (hne₁ : r₁.steps ≠ []) (hne₂ : r₂.steps ≠ []) :
    r₃.steps ≠ [] ∧ r₃.totalTravelTime.toNat ≤ r₁.totalTravelTime.toNat + r₂.totalTravelTime.toNat + 5 := by
  obtain ⟨es₁, hw₁, hc₁⟩ := h₁.exists_walk hc hne₁
  obtain ⟨es₂, hw₂, hc₂⟩ := h₂.exists_walk hc hne₂
  have hw := hw₁.append hw₂
  refine ⟨h₃.steps_ne_nil hw, ?_⟩
  calc r₃.totalTravelTime.toNat
      ≤ walkCost none (es₁ ++ es₂) := h₃.total_le _ hw
    _ ≤ walkCost none es₁ + walkCost none es₂ + 5 := walkCost_append_le none es₁ es₂
    _ = r₁.totalTravelTime.toNat + r₂.totalTravelTime.toNat + 5 := by rw [hc₁, hc₂]

theorem fastest_le_via (hnet : Reachable net) (hS : net.edgeCostSum < 2 ^ 30) {A B C : Id}
    (hA : (net.getStation A).isSome) (hB : (net.getStation B).isSome) (hC : (net.getStation C).isSome)
    (hAB : A ≠ B) (hBC : B ≠ C) (hAC : A ≠ C) :
    (∃ res, net.FastestTravelRoute A C res) ∧
    ∀ res₁ res₂ res₃, net.FastestTravelRoute A B res₁ → net.FastestTravelRoute B C res₂ →
      net.FastestTravelRoute A C res₃ → ∃ r₁ r₂ r₃, res₁ = .ok r₁ ∧ res₂ = .ok r₂ ∧ res₃ = .ok r₃ ∧
        (r₁.steps ≠ [] → r₂.steps ≠ [] → r₃.steps ≠ [] ∧
          r₃.totalTravelTime.toNat ≤ r₁.totalTravelTime.toNat + r₂.totalTravelTime.toNat + 5) := by
  refine ⟨exists_fastestTravelRoute hnet hS, fun res₁ res₂ res₃ hf₁ hf₂ hf₃ => ?_⟩
  obtain ⟨r₁, rfl, h₁⟩ := travelRouteSpec_of_fastest hnet hS hA hB hAB hf₁
  obtain ⟨r₂, rfl, h₂⟩ := travelRouteSpec_of_fastest hnet hS hB hC hBC hf₂
  obtain ⟨r₃, rfl, h₃⟩ := travelRouteSpec_of_fastest hnet hS hA hC hAC hf₃
  exact ⟨r₁, r₂, r₃, rfl, rfl, rfl, h₁.total_le_add (consistent_of_reachable hnet) h₂ h₃⟩

theorem fastest_le_via_example :
    let net := run {} [.addStation ⟨"A"⟩, .addStation ⟨"B"⟩, .addStation ⟨"C"⟩,
      .addLine ⟨"L1", [⟨"R1", ["A", "B"]⟩]⟩, .addLine ⟨"L2", [⟨"R2", ["B", "C"]⟩]⟩,
      .setTravelTime "A" "B" 3, .setTravelTime "B" "C" 4]
    Reachable net ∧ net.edgeCostSum < 2 ^ 30 ∧ (net.getStation "A").isSome ∧
      (net.getStation "B").isSome ∧ (net.getStation "C").isSome ∧ "A" ≠ "B" ∧ "B" ≠ "C" ∧ "A" ≠ "C" ∧
      (∃ res, net.FastestTravelRoute "A" "C" res) ∧ ∀ res₁ res₂ res₃,
        net.FastestTravelRoute "A" "B" res₁ → net.FastestTravelRoute "B" "C" res₂ →
        net.FastestTravelRoute "A" "C" res₃ → ∃ r₁ r₂ r₃, res₁ = .ok r₁ ∧ res₂ = .ok r₂ ∧ res₃ = .ok r₃ ∧
          (r₁.steps ≠ [] → r₂.steps ≠ [] → r₃.steps ≠ [] ∧
            r₃.totalTravelTime.toNat ≤ r₁.totalTravelTime.toNat + r₂.totalTravelTime.toNat + 5) := by
  intro net
  have h : Reachable net := Reachable.empty.run (by decide)
  have hf := fastest_le_via h (by decide) (by decide : (net.getStation "A").isSome)
    (by decide : (net.getStation "B").isSome) (by decide : (net.getStation "C").isSome)
    (by decide : "A" ≠ "B") (by decide : "B" ≠ "C") (by decide : "A" ≠ "C")
  exact ⟨h, by decide, by decide, by decide, by decide, by decide, by decide, by decide, hf⟩

end TransportNetwork

end NetworkMonitor
