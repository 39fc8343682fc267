import Mathlib.Data.List.Nodup
import Mathlib.Data.List.Perm.Subperm
import Mathlib.Algebra.Order.BigOperators.Group.List
import Mathlib.Algebra.Order.Group.Nat
import NetworkMonitor.Path.Search
import NetworkMonitor.Network.EdgeIndex

namespace NetworkMonitor

/-- The cost of leaving `P` along `e`: its travel time, plus 5 for a change of route. -/
def PathStop.weight (P : PathStop) (e : GraphEdge) : Nat :=
  e.travelTime.toNat + if P.changesRoute e then 5 else 0

theorem PathStop.weight_le (P : PathStop) (e : GraphEdge) : P.weight e ≤ e.travelTime.toNat + 5 := by
  unfold weight; split <;> omega

/-- The 5 added for taking `e` after `prev` on another route. -/
def penalty (prev : Option GraphEdge) (e : GraphEdge) : Nat :=
  match prev with
  | some p => if p.route.addr ≠ e.route.addr then 5 else 0
  | none => 0

theorem PathStop.candidate_toNat (P : PathStop) (d : UInt32) (e : GraphEdge)
    (h : d.toNat + e.travelTime.toNat + 5 < 2 ^ 32) :
    (if P.changesRoute e then d + e.travelTime + 5 else d + e.travelTime).toNat =
      d.toNat + P.weight e := by
  have h5 : (5 : UInt32).toNat = 5 := rfl
  unfold weight
  split <;> simp only [toNat_add_uint32, h5, if_true, if_false, Bool.false_eq_true] <;> omega

/-- The cost model of the specification: travel times plus 5 for each change of route, the
first edge taken after the edge `prev`. -/
def walkCost : Option GraphEdge → List GraphEdge → Nat
  | _, [] => 0
  | prev, e :: edges => e.travelTime.toNat + penalty prev e + walkCost (some e) edges

theorem PathStop.weight_eq (P : PathStop) (e : GraphEdge) :
    P.weight e = e.travelTime.toNat + penalty (P.edge.map (·.edge)) e := by
  unfold weight changesRoute penalty
  cases P.edge <;> simp

namespace TransportNetwork

variable (net : TransportNetwork)

/-- The search graph: a walk from `P` to `Q` through the edges `ptrs`, costing `c`. A stop at
station B is never left. -/
inductive Walk (stationB : Id) : PathStop → PathStop → List EdgePtr → Nat → Prop
  | nil (P : PathStop) : Walk stationB P P [] 0
  | cons {P Q : PathStop} {ptrs : List EdgePtr} {c : Nat} (j : Nat) (e : GraphEdge) :
      P.node ≠ stationB → (net.edgesOf P.node)[j]? = some e → Walk stationB (P.next j e) Q ptrs c →
      Walk stationB P Q (⟨P.node, j, e⟩ :: ptrs) (P.weight e + c)

/-- `edges` lead from station `a` to station `b`. -/
def IsWalk : Id → Id → List GraphEdge → Prop
  | a, b, [] => a = b
  | a, b, e :: edges => e ∈ net.edgesOf a ∧ IsWalk e.nextStop b edges

/-- The sum over all edges of `travelTime + 5`. -/
def edgeCostSum : Nat :=
  (net.stations.map fun p => (p.2.edges.map fun e => e.travelTime.toNat + 5).sum).sum

/-- Every edge of every station, as a pointer. -/
def allEdgePtrs : List EdgePtr :=
  net.stations.flatMap fun p => p.2.edges.enum.map fun x => ⟨p.1, x.1, x.2⟩

theorem edgeCostSum_eq :
    net.edgeCostSum = (net.allEdgePtrs.map fun p => p.edge.travelTime.toNat + 5).sum := by
  unfold edgeCostSum allEdgePtrs
  induction net.stations with
  | nil => rfl
  | cons p l ih =>
    have hsnd : ((p.2.edges.enum.map fun x => (⟨p.1, x.1, x.2⟩ : EdgePtr)).map
        fun p => p.edge.travelTime.toNat + 5) = p.2.edges.map fun e => e.travelTime.toNat + 5 := by
      rw [List.map_map, ← List.enum_map_snd p.2.edges, List.map_map, List.enum_map_snd]; rfl
    simp only [List.map_cons, List.sum_cons, List.flatMap_cons, List.map_append, List.sum_append,
      hsnd, ih]

theorem mem_allEdgePtrs {s : Id} {j : Nat} {e : GraphEdge} (h : (net.edgesOf s)[j]? = some e) :
    (⟨s, j, e⟩ : EdgePtr) ∈ net.allEdgePtrs := by
  unfold edgesOf at h
  cases hs : net.getStation s with
  | none => simp [hs] at h
  | some node =>
    simp only [hs, Option.map_some', Option.getD_some] at h
    exact List.mem_flatMap.2 ⟨(s, node), mem_of_lookup_eq_some hs,
      List.mem_map.2 ⟨(j, e), List.mem_enum_iff_getElem?.2 h, rfl⟩⟩

theorem edge_cost_le {s : Id} {j : Nat} {e : GraphEdge} (h : (net.edgesOf s)[j]? = some e) :
    e.travelTime.toNat + 5 ≤ net.edgeCostSum := by
  rw [edgeCostSum_eq]
  exact List.le_sum_of_mem (List.mem_map.2 ⟨_, mem_allEdgePtrs net h, rfl⟩)

variable {net} {stationB : Id}

theorem Walk.snoc {P Q : PathStop} {ptrs : List EdgePtr} {c : Nat}
    (h : net.Walk stationB P Q ptrs c) {j : Nat} {e : GraphEdge} (hQ : Q.node ≠ stationB)
    (he : (net.edgesOf Q.node)[j]? = some e) :
    net.Walk stationB P (Q.next j e) (ptrs ++ [⟨Q.node, j, e⟩]) (c + Q.weight e) := by
  induction h with
  | nil P => simpa using Walk.cons j e hQ he (.nil _)
  | cons j' e' hP he' _ ih => simpa [Nat.add_assoc] using Walk.cons j' e' hP he' (ih hQ he)

theorem Walk.cost_eq {P Q : PathStop} {ptrs : List EdgePtr} {c : Nat}
    (h : net.Walk stationB P Q ptrs c) : c = walkCost (P.edge.map (·.edge)) (ptrs.map (·.edge)) := by
  induction h with
  | nil => rfl
  | cons j e _ _ _ ih => simp [walkCost, ih, PathStop.weight_eq, PathStop.next, Nat.add_assoc]

theorem Walk.isWalk {P Q : PathStop} {ptrs : List EdgePtr} {c : Nat}
    (h : net.Walk stationB P Q ptrs c) : net.IsWalk P.node Q.node (ptrs.map (·.edge)) := by
  induction h with
  | nil => rfl
  | cons j e _ he _ ih => exact ⟨List.getElem?_mem he, ih⟩

theorem Walk.valid {P Q : PathStop} {ptrs : List EdgePtr} {c : Nat}
    (h : net.Walk stationB P Q ptrs c) : ∀ p ∈ ptrs, (net.edgesOf p.station)[p.index]? = some p.edge := by
  induction h with
  | nil => simp
  | cons j e _ he _ ih =>
    rintro p (_ | ⟨_, hp⟩)
    · exact he
    · exact ih p hp

theorem exists_walk_of_isWalk : ∀ (P : PathStop) (es : List GraphEdge),
    net.IsWalk P.node stationB es → P.node ≠ stationB →
    ∃ Q ptrs c, Q.node = stationB ∧ ptrs ≠ [] ∧ net.Walk stationB P Q ptrs c ∧
      c ≤ walkCost (P.edge.map (·.edge)) es
  | _, [], h, hne => absurd h hne
  | P, e :: es, ⟨he, hes⟩, hne => by
    obtain ⟨j, hj⟩ := List.mem_iff_getElem?.1 he
    by_cases hB : e.nextStop = stationB
    · refine ⟨P.next j e, _, _, hB, List.cons_ne_nil _ _, .cons j e hne hj (.nil _), ?_⟩
      simp [walkCost, PathStop.weight_eq]
    · obtain ⟨Q, ptrs, c, hQ, -, hw, hc⟩ := exists_walk_of_isWalk (P.next j e) es hes hB
      refine ⟨Q, _, _, hQ, List.cons_ne_nil _ _, .cons j e hne hj hw, ?_⟩
      simp only [walkCost, PathStop.weight_eq]
      simp only [PathStop.next, Option.map_some'] at hc
      omega

theorem Walk.restart {X Q : PathStop} {p : EdgePtr} {ptrs : List EdgePtr} {c : Nat}
    (h : net.Walk stationB X Q (p :: ptrs) c) {Y : PathStop} (hY : Y.node = X.node)
    (hYe : Y.edge = none) : ∃ c', c' ≤ c ∧ net.Walk stationB Y Q (p :: ptrs) c' := by
  cases h with
  | cons j e hX he hrest =>
    have hnext : Y.next j e = X.next j e := by simp [PathStop.next, hY]
    refine ⟨Y.weight e + _, ?_, hY ▸ Walk.cons j e (hY ▸ hX) (hY ▸ he) (hnext ▸ hrest)⟩
    have := X.weight_eq e
    simp only [PathStop.weight_eq, hYe, Option.map_none', penalty] at this ⊢
    omega

theorem Walk.cost_le_sum {P Q : PathStop} {ptrs : List EdgePtr} {c : Nat}
    (h : net.Walk stationB P Q ptrs c) : c ≤ (ptrs.map fun p => p.edge.travelTime.toNat + 5).sum := by
  induction h with
  | nil => simp
  | @cons P _ _ _ j e _ _ _ ih =>
    have := P.weight_le e
    simp only [List.map_cons, List.sum_cons]
    omega

theorem Walk.cost_le_edgeCostSum {P Q : PathStop} {ptrs : List EdgePtr} {c : Nat}
    (h : net.Walk stationB P Q ptrs c) (hnd : ptrs.Nodup) : c ≤ net.edgeCostSum := by
  obtain ⟨l, hperm, hsub⟩ := hnd.subperm fun p hp => mem_allEdgePtrs net (h.valid p hp)
  calc c ≤ (ptrs.map fun p => p.edge.travelTime.toNat + 5).sum := h.cost_le_sum
    _ = (l.map fun p => p.edge.travelTime.toNat + 5).sum := ((hperm.map _).sum_eq).symm
    _ ≤ (net.allEdgePtrs.map fun p => p.edge.travelTime.toNat + 5).sum :=
      (hsub.map _).sum_le_sum fun _ _ => Nat.zero_le _
    _ = net.edgeCostSum := (edgeCostSum_eq net).symm

theorem indexOf_of_mem_hopsFrom {l : List Id} (hnd : l.Nodup) {s b : Id} (h : b ∈ hopsFrom l s) :
    l.indexOf b = l.indexOf s + 1 := by
  obtain ⟨pre, post, rfl⟩ := exists_split_of_mem_hopsFrom h
  have h₁ := List.nodup_append.1 hnd
  have hs : s ∉ pre := fun hs => h₁.2.2 hs (List.mem_cons_self _ _)
  have hb : b ∉ pre := fun hb => h₁.2.2 hb (List.mem_cons_of_mem _ (List.mem_cons_self _ _))
  have hbs : b ≠ s := fun e => (List.nodup_cons.1 h₁.2.1).1 (e ▸ List.mem_cons_self _ _)
  rw [List.indexOf_append_of_not_mem hs, List.indexOf_append_of_not_mem hb, List.indexOf_cons_self,
    List.indexOf_cons_ne _ (Ne.symm hbs), List.indexOf_cons_self]

theorem Walk.indexOf_of_route {rs : List RouteInternal} (hidx : net.EdgeIndex rs) {r : RouteInternal}
    (hr : r ∈ rs) {X Q : PathStop} {ptrs : List EdgePtr} {c : Nat}
    (h : net.Walk stationB X Q ptrs c) (hsame : ∀ p ∈ ptrs, p.edge.route.addr = r.addr) :
    r.stops.indexOf Q.node = r.stops.indexOf X.node + ptrs.length := by
  induction h with
  | nil => rfl
  | cons j e _ he _ ih =>
    have hroute := hidx.edge_route _ e (List.getElem?_mem he)
    have hre : e.route = r := List.inj_on_of_nodup_map hidx.addr_nodup hroute.1 hr
      (hsame _ (List.mem_cons_self _ _))
    rw [ih fun p hp => hsame p (List.mem_cons_of_mem _ hp), PathStop.next,
      indexOf_of_mem_hopsFrom (hidx.shape r hr).2.1 (hre ▸ hroute.2)]
    simp only [List.length_cons]
    omega

theorem Walk.route_eq_of_cost_lt {X Q : PathStop} {p : EdgePtr} {ptrs : List EdgePtr} {c : Nat}
    (h : net.Walk stationB X Q (p :: ptrs) c) (hc : c < 5) :
    ∀ q ∈ ptrs, q.edge.route.addr = p.edge.route.addr := by
  induction ptrs generalizing X p c with
  | nil => simp
  | cons q ptrs ih =>
    cases h with
    | cons j e _ _ hrest =>
      cases hrest with
      | cons j' e' hX' he' hrest' =>
        have hpen : ¬(X.next j e).changesRoute e' := by
          intro hch
          simp only [PathStop.weight, hch, if_true] at hc
          omega
        simp only [PathStop.changesRoute, PathStop.next, decide_eq_true_eq, not_not] at hpen
        have hrest := Walk.cons j' e' hX' he' hrest'
        rintro q' (_ | ⟨_, hq'⟩)
        · exact hpen.symm
        · rw [ih hrest (by unfold PathStop.weight at hc ⊢; omega) q' hq']
          exact hpen.symm

theorem Walk.five_le_of_return (hc : net.Consistent) {P Q : PathStop} {p : EdgePtr}
    {ptrs : List EdgePtr} {c : Nat} (h : net.Walk stationB P Q (p :: ptrs) c)
    (hQ : Q.node = P.node) : 5 ≤ c := by
  by_contra hlt
  have hsame := h.route_eq_of_cost_lt (by omega)
  have hp : p ∈ p :: ptrs := List.mem_cons_self _ _
  have hroute := (hc.2.edge_route _ _ (List.getElem?_mem (h.valid p hp))).1
  have := h.indexOf_of_route hc.2 hroute fun q hq => by
    rcases List.mem_cons.1 hq with rfl | hq
    · rfl
    · exact hsame q hq
  rw [hQ] at this
  simp at this

end TransportNetwork

end NetworkMonitor
