import Mathlib.Data.List.Nodup
import NetworkMonitor.Network.EdgeIndex

namespace NetworkMonitor

theorem mem_of_hopsFrom_ne_nil {l : List Id} {s : Id} (hne : hopsFrom l s ≠ []) : s ∈ l := by
  obtain ⟨b, hb⟩ := List.exists_mem_of_ne_nil _ hne
  obtain ⟨pre, post, rfl⟩ := exists_split_of_mem_hopsFrom hb
  simp

section hops

variable {l : List Id} (h : l.Nodup) (s : Id)
include h

theorem length_hopsFrom_le_one : (hopsFrom l s).length ≤ 1 := by
  by_cases hs : s ∈ l
  · obtain ⟨pre, post, rfl⟩ := List.append_of_mem hs
    cases post with
    | nil => simp [hopsFrom_last_of_nodup h]
    | cons b post => simp [hopsFrom_of_nodup h]
  · simp [hopsFrom_eq_nil_of_not_mem hs]

theorem getLast?_eq_iff_of_nodup : l.getLast? = some s ↔ s ∈ l ∧ hopsFrom l s = [] := by
  constructor
  · intro hl
    rw [← List.dropLast_append_getLast? s hl] at h ⊢
    exact ⟨by simp, hopsFrom_last_of_nodup h⟩
  · rintro ⟨hs, hnil⟩
    obtain ⟨pre, post, rfl⟩ := List.append_of_mem hs
    cases post with
    | nil => simp
    | cons b post => simp [hopsFrom_of_nodup h] at hnil

end hops

namespace TransportNetwork

variable {net : TransportNetwork} {rs : List RouteInternal}

theorem edge_routes_perm (h : net.EdgeIndex rs) (s : Id) :
    ((net.edgesOf s).map (·.route)).Perm (rs.filter fun r => hopsFrom r.stops s ≠ []) := by
  have hnd : rs.Nodup := h.addr_nodup.of_map _
  refine List.perm_iff_count.2 fun r => ?_
  by_cases hr : r ∈ rs
  · have hleft : ((net.edgesOf s).map (·.route)).count r = (hopsFrom r.stops s).length := by
      rw [List.count_eq_countP, List.countP_map, ← h.edges_of_route r hr s, List.length_map,
        ← List.countP_eq_length_filter]
      refine List.countP_congr fun e he => ?_
      simp only [Function.comp_apply, beq_iff_eq, decide_eq_true_eq]
      exact ⟨fun e' => e' ▸ rfl,
        fun ha => List.inj_on_of_nodup_map h.addr_nodup (h.edge_route s e he).1 hr ha⟩
    rw [hleft]
    by_cases hp : hopsFrom r.stops s = []
    · rw [hp, List.count_eq_zero.2 fun hm => by simpa [hp] using (List.mem_filter.1 hm).2]
      rfl
    · rw [List.count_filter (by simpa using hp), List.count_eq_one_of_mem hnd hr]
      have := length_hopsFrom_le_one (h.shape r hr).2.1 s
      have := List.length_pos.2 hp
      omega
  · rw [List.count_eq_zero.2, List.count_eq_zero.2]
    · exact fun hm => hr (List.mem_filter.1 hm).1
    · intro hm
      obtain ⟨e, he, rfl⟩ := List.mem_map.1 hm
      exact hr (h.edge_route s e he).1

theorem serving_split_perm (h : net.EdgeIndex rs) (s : Id) :
    ((rs.filter fun r => hopsFrom r.stops s ≠ []) ++ rs.filter fun r => r.stops.getLast? = some s).Perm
      (rs.filter fun r => s ∈ r.stops) := by
  have e₁ : ((rs.filter fun r => s ∈ r.stops).filter fun r => hopsFrom r.stops s ≠ []) =
      rs.filter fun r => hopsFrom r.stops s ≠ [] := by
    rw [List.filter_filter]
    refine List.filter_congr fun r _ => ?_
    by_cases hp : hopsFrom r.stops s = [] <;> simp [hp, mem_of_hopsFrom_ne_nil]
  have e₂ : ((rs.filter fun r => s ∈ r.stops).filter fun r => !decide (hopsFrom r.stops s ≠ [])) =
      rs.filter fun r => r.stops.getLast? = some s := by
    rw [List.filter_filter]
    refine List.filter_congr fun r hr => ?_
    simp [getLast?_eq_iff_of_nodup (h.shape r hr).2.1, Bool.and_comm]
  exact e₁ ▸ e₂ ▸ List.filter_append_perm _ _

theorem terminal_routes_eq (s : Id) :
    (net.lines.flatMap fun line => line.2.routes.filterMap fun route =>
      if route.2.stops.getLast? = some s then some route.2.id else none) =
    (net.routes.filter fun r => r.stops.getLast? = some s).map (·.id) := by
  simp only [routes, List.filter_flatMap, List.map_flatMap]
  congr 1
  funext line
  induction line.2.routes with
  | nil => rfl
  | cons x l ih =>
    by_cases hx : x.2.stops.getLast? = some s <;> simp [List.filterMap_cons, hx, ih]

theorem getRoutesServingStation_perm (hnet : Reachable net) (S : Id) :
    (net.getRoutesServingStation S).Perm ((net.routes.filter fun r => S ∈ r.stops).map (·.id)) := by
  obtain ⟨-, hidx⟩ := consistent_of_reachable hnet
  unfold getRoutesServingStation
  cases hs : net.getStation S with
  | none =>
    rw [List.filter_eq_nil_iff.2 fun r hr hS => by
      simpa [hs] using (hidx.shape r hr).2.2 S (by simpa using hS)]
    exact .nil
  | some node =>
    have hedges : node.edges = net.edgesOf S := by simp [edgesOf, hs]
    have hmap : (net.edgesOf S).map (·.route.id) = ((net.edgesOf S).map (·.route)).map (·.id) := by
      simp
    dsimp only
    rw [hedges, terminal_routes_eq, hmap, ← List.map_append]
    exact (((edge_routes_perm hidx S).append_right _).map _).trans ((serving_split_perm hidx S).map _)

theorem getRoutesServingStation_perm_example :
    let net := run {} [.addStation ⟨"A"⟩, .addStation ⟨"B"⟩, .addLine ⟨"L1", [⟨"R1", ["A", "B"]⟩]⟩,
      .addLine ⟨"L2", [⟨"R2", ["B", "A"]⟩]⟩]
    Reachable net ∧ (net.getRoutesServingStation "B").length = 2 :=
  have h := Reachable.empty.run (by decide)
  ⟨h, (getRoutesServingStation_perm h "B").length_eq.trans (by decide)⟩

end TransportNetwork

end NetworkMonitor
