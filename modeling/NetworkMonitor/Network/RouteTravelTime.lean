import Mathlib.Data.List.Forall2
import Mathlib.Algebra.BigOperators.Group.List
import NetworkMonitor.Network.EdgeIndex

namespace NetworkMonitor

namespace TransportNetwork

variable {net : TransportNetwork}

theorem find?_of_filter_eq_singleton {p : GraphEdge → Bool} {e : GraphEdge} :
    ∀ {l : List GraphEdge}, l.filter p = [e] → l.find? p = some e
  | [], h => by simp at h
  | x :: l, h => by
    by_cases hx : p x
    · simp only [List.filter_cons, hx, if_true, List.cons.injEq] at h
      obtain ⟨rfl, -⟩ := h
      simp [List.find?_cons, hx]
    · simp only [List.filter_cons, hx] at h
      simp [List.find?_cons, hx, find?_of_filter_eq_singleton h]

theorem findEdge_eq_find? (s : Id) (r : RouteInternal) :
    (net.getStation s).bind (·.findEdgeForRoute r) =
      (net.edgesOf s).find? fun e => e.route.addr = r.addr := by
  unfold edgesOf GraphNode.findEdgeForRoute
  cases net.getStation s <;> rfl

/-- The route's edge at `s`, the only edge there whose route is `r`. -/
def RouteEdgeAt (net : TransportNetwork) (r : RouteInternal) (s : Id) (e : GraphEdge) : Prop :=
  (net.edgesOf s).filter (·.route.addr = r.addr) = [e]

section index

variable {rs : List RouteInternal} (h : net.EdgeIndex rs) {r : RouteInternal} (hr : r ∈ rs)
include h hr

theorem routeEdgeAt_of_split {pre post : List Id} {s t : Id}
    (hstops : r.stops = pre ++ s :: t :: post) : ∃ e, net.RouteEdgeAt r s e := by
  have hmap := h.edges_of_route r hr s
  rw [hstops, hopsFrom_of_nodup (hstops ▸ (h.shape r hr).2.1)] at hmap
  obtain ⟨e, l, hl, -, hnil⟩ := List.map_eq_cons_iff.1 hmap
  exact ⟨e, by rw [RouteEdgeAt, hl, List.map_eq_nil_iff.1 hnil]⟩

theorem routeEdgeAt_of_mem_before {pre mid post : List Id} {b : Id}
    (hstops : r.stops = pre ++ mid ++ b :: post) : ∀ s ∈ mid, ∃ e, net.RouteEdgeAt r s e := by
  intro s hs
  obtain ⟨m₁, m₂, rfl⟩ := List.append_of_mem hs
  cases m₂ with
  | nil => exact routeEdgeAt_of_split h hr (by simp [hstops] : r.stops = pre ++ m₁ ++ s :: b :: post)
  | cons t m₂ =>
    exact routeEdgeAt_of_split h hr
      (by simp [hstops] : r.stops = pre ++ m₁ ++ s :: t :: (m₂ ++ b :: post))

theorem filter_route_eq_nil_of_last {pre : List Id} {z : Id} (hstops : r.stops = pre ++ [z]) :
    (net.edgesOf z).filter (·.route.addr = r.addr) = [] := by
  have hmap := h.edges_of_route r hr z
  rw [hstops, hopsFrom_last_of_nodup (hstops ▸ (h.shape r hr).2.1)] at hmap
  exact List.map_eq_nil_iff.1 hmap

end index

section walk

variable (r : RouteInternal) (A B : Id)

theorem walkRoute_skip (x : List Id) (tt : UInt32) :
    ∀ pre : List Id, A ∉ pre →
      net.walkRoute r A B (pre ++ x) tt false = if B ∈ pre then tt else net.walkRoute r A B x tt false
  | [], _ => by simp
  | s :: pre, hA => by
    have hsA : s ≠ A := fun e => hA (e ▸ List.mem_cons_self _ _)
    by_cases hsB : s = B
    · simp [walkRoute, hsB]
    · simp only [List.cons_append, walkRoute, Bool.false_or, hsA, decide_False, hsB, if_false,
        List.mem_cons, Ne.symm hsB, false_or]
      exact walkRoute_skip x tt pre fun e => hA (List.mem_cons_of_mem _ e)

theorem walkRoute_head (rest : List Id) (tt : UInt32) (f : Bool) :
    net.walkRoute r A B (A :: rest) tt f = net.walkRoute r A B (A :: rest) tt true := by
  simp [walkRoute]

theorem walkRoute_found_to_B (post : List Id) :
    ∀ (mid : List Id) (tt : UInt32), B ∉ mid → (∀ s ∈ mid, ∃ e, net.RouteEdgeAt r s e) →
      ∃ es, List.Forall₂ (net.RouteEdgeAt r) mid es ∧
        (net.walkRoute r A B (mid ++ B :: post) tt true).toNat =
          (tt.toNat + (es.map (·.travelTime.toNat)).sum) % 2 ^ 32
  | [], tt, _, _ => ⟨[], .nil, by simp [walkRoute, Nat.mod_eq_of_lt tt.toNat_lt_size]⟩
  | s :: mid, tt, hB, hedge => by
    have hsB : s ≠ B := fun h => hB (h ▸ List.mem_cons_self _ _)
    obtain ⟨e, he⟩ := hedge s (List.mem_cons_self _ _)
    obtain ⟨es, hes, hval⟩ := walkRoute_found_to_B post mid (tt + e.travelTime)
      (fun h => hB (List.mem_cons_of_mem _ h)) (fun x hx => hedge x (List.mem_cons_of_mem _ hx))
    refine ⟨e :: es, .cons he hes, ?_⟩
    simp only [List.cons_append, walkRoute, Bool.true_or, hsB, if_false, if_true,
      findEdge_eq_find?, find?_of_filter_eq_singleton he, List.append_eq]
    rw [hval, toNat_add_uint32, Nat.mod_add_mod]
    simp [Nat.add_assoc]

theorem walkRoute_found_without_B :
    ∀ (l : List Id) (tt : UInt32), B ∉ l →
      (∀ pre z, l = pre ++ [z] → (net.edgesOf z).filter (·.route.addr = r.addr) = []) →
      net.walkRoute r A B l tt true = 0
  | [], _, _, _ => rfl
  | s :: l, tt, hB, hlast => by
    have hsB : s ≠ B := fun h => hB (h ▸ List.mem_cons_self _ _)
    simp only [walkRoute, Bool.true_or, hsB, if_false, if_true, findEdge_eq_find?]
    split
    · rfl
    · cases l with
      | nil =>
        next e hfind =>
        have h := hlast [] s rfl
        simp [List.find?_eq_none.2 (List.filter_eq_nil_iff.1 h)] at hfind
      | cons x l =>
        exact walkRoute_found_without_B (x :: l) _ (fun h => hB (List.mem_cons_of_mem _ h))
          (fun pre z hz => hlast (s :: pre) z (by rw [hz]; rfl))

end walk

theorem drop_eq_cons_of_getElem? {l : List Id} {i : Nat} {a : Id} (ha : l[i]? = some a) :
    l.drop i = a :: l.drop (i + 1) := by
  obtain ⟨hi, rfl⟩ := List.getElem?_eq_some_iff.1 ha
  exact List.drop_eq_getElem_cons hi

section route

variable {rs : List RouteInternal} (h : net.EdgeIndex rs) {r : RouteInternal} (hr : r ∈ rs) {A B : Id}
include h hr

theorem walkRoute_between {i j : Nat} (hij : i ≤ j) (hA : r.stops[i]? = some A)
    (hB : r.stops[j]? = some B) :
    ∃ es, List.Forall₂ (net.RouteEdgeAt r) ((r.stops.drop i).take (j - i)) es ∧
      (net.walkRoute r A B r.stops 0 false).toNat = (es.map (·.travelTime.toNat)).sum % 2 ^ 32 := by
  have hnd := (h.shape r hr).2.1
  have hdj : r.stops.drop j = (r.stops.drop i).drop (j - i) := by
    rw [List.drop_drop, Nat.add_sub_cancel' hij]
  have hsplit : r.stops.drop i = (r.stops.drop i).take (j - i) ++ B :: r.stops.drop (j + 1) := by
    rw [← drop_eq_cons_of_getElem? hB, hdj, List.take_append_drop]
  have hstops : r.stops = r.stops.take i ++ (r.stops.drop i).take (j - i) ++ B :: r.stops.drop (j + 1) := by
    rw [List.append_assoc, ← hsplit, List.take_append_drop]
  have hdisj := List.disjoint_take_drop hnd (le_refl i)
  have hBdrop : B ∈ r.stops.drop i := by rw [hsplit]; simp
  have hBmid : B ∉ (r.stops.drop i).take (j - i) := fun hB' =>
    List.disjoint_take_drop (hnd.sublist (List.drop_sublist _ _)) (le_refl _) hB'
      (by rw [← hdj, drop_eq_cons_of_getElem? hB]; exact List.mem_cons_self _ _)
  have hwalk : net.walkRoute r A B r.stops 0 false =
      net.walkRoute r A B ((r.stops.drop i).take (j - i) ++ B :: r.stops.drop (j + 1)) 0 true := by
    conv_lhs => rw [← List.take_append_drop i r.stops]
    rw [walkRoute_skip r A B _ _ _ fun hA' => hdisj hA' (by rw [drop_eq_cons_of_getElem? hA]; simp),
      if_neg fun hB' => hdisj hB' hBdrop, drop_eq_cons_of_getElem? hA, walkRoute_head,
      ← drop_eq_cons_of_getElem? hA, ← hsplit]
  obtain ⟨es, hes, hval⟩ := walkRoute_found_to_B r A B _ _ 0 hBmid
    (routeEdgeAt_of_mem_before h hr hstops)
  exact ⟨es, hes, by rw [hwalk, hval, UInt32.toNat_zero, Nat.zero_add]⟩

theorem walkRoute_not_between (hno : ¬∃ i j : Nat, i ≤ j ∧ r.stops[i]? = some A ∧ r.stops[j]? = some B) :
    net.walkRoute r A B r.stops 0 false = 0 := by
  by_cases hA : A ∈ r.stops
  · obtain ⟨i, hi⟩ := List.mem_iff_getElem?.1 hA
    have hB : B ∉ r.stops.drop i := fun hB => by
      obtain ⟨k, hk⟩ := List.mem_iff_getElem?.1 hB
      rw [List.getElem?_drop] at hk
      exact hno ⟨i, i + k, by omega, hi, hk⟩
    have hdisj := List.disjoint_take_drop (h.shape r hr).2.1 (le_refl i)
    rw [← List.take_append_drop i r.stops, walkRoute_skip r A B _ _ _
      fun hA' => hdisj hA' (by rw [drop_eq_cons_of_getElem? hi]; simp)]
    split_ifs
    · rfl
    · rw [drop_eq_cons_of_getElem? hi, walkRoute_head, ← drop_eq_cons_of_getElem? hi]
      exact walkRoute_found_without_B r A B _ 0 hB fun pre z hz =>
        filter_route_eq_nil_of_last h hr (by rw [List.append_assoc, ← hz, List.take_append_drop] :
          r.stops = r.stops.take i ++ pre ++ [z])
  · rw [← List.append_nil r.stops, walkRoute_skip r A B _ _ _ hA]
    split_ifs <;> rfl

end route

theorem getTravelTimeOnRoute_spec (hnet : Reachable net) (L R A B : Id) :
    match net.getRoute L R with
    | none => net.getTravelTimeOnRoute L R A B = 0
    | some r =>
      (∀ i j : Nat, i ≤ j → r.stops[i]? = some A → r.stops[j]? = some B →
        ∃ es, List.Forall₂ (net.RouteEdgeAt r) ((r.stops.drop i).take (j - i)) es ∧
          (net.getTravelTimeOnRoute L R A B).toNat = (es.map (·.travelTime.toNat)).sum % 2 ^ 32) ∧
      ((¬∃ i j : Nat, i ≤ j ∧ r.stops[i]? = some A ∧ r.stops[j]? = some B) →
        net.getTravelTimeOnRoute L R A B = 0) := by
  obtain ⟨-, hidx⟩ := consistent_of_reachable hnet
  unfold getTravelTimeOnRoute
  cases hr : net.getRoute L R with
  | none => rfl
  | some r =>
    have hmem := mem_routes_of_getRoute hr
    have hst := (hidx.shape r hmem).2.2
    dsimp only
    refine ⟨fun i j hij hA hB => ?_, fun hno => ?_⟩
    · have hA' := hst A (List.getElem?_mem hA)
      have hB' := hst B (List.getElem?_mem hB)
      rw [(Option.isNone_eq_false_iff _).2 hA', (Option.isNone_eq_false_iff _).2 hB']
      exact walkRoute_between hidx hmem hij hA hB
    · split
      · rfl
      · exact walkRoute_not_between hidx hmem hno

theorem getTravelTimeOnRoute_spec_example :
    let net := run {} [.addStation ⟨"A"⟩, .addStation ⟨"B"⟩, .addStation ⟨"C"⟩,
      .addLine ⟨"L1", [⟨"R1", ["A", "B", "C"]⟩]⟩, .setTravelTime "A" "B" 3, .setTravelTime "B" "C" 4]
    Reachable net ∧ net.getTravelTimeOnRoute "L1" "R1" "C" "A" = 0 :=
  have h := Reachable.empty.run (by decide)
  ⟨h, (getTravelTimeOnRoute_spec h "L1" "R1" "C" "A").2 fun ⟨i, j, hij, hi, hj⟩ => by
    rcases i with _ | _ | _ | i <;> rcases j with _ | _ | _ | j <;> simp at hi hj
    omega⟩

theorem routeEdgeAt_unique {r : RouteInternal} : Relator.RightUnique (net.RouteEdgeAt r) :=
  fun _ _ _ h h' => List.singleton_inj.1 (h.symm.trans h')

theorem take_drop_split (l : List Id) {i j k : Nat} (hij : i ≤ j) (hjk : j ≤ k) :
    (l.drop i).take (k - i) = (l.drop i).take (j - i) ++ (l.drop j).take (k - j) := by
  rw [show k - i = j - i + (k - j) by omega, List.take_add, List.drop_drop, Nat.add_sub_cancel' hij]

theorem travelTimeOnRoute_eq_sum (hc : net.Consistent) {L R A B : Id} {r : RouteInternal}
    (hr : net.getRoute L R = some r) {i j : Nat} (hij : i ≤ j) (hi : r.stops[i]? = some A)
    (hj : r.stops[j]? = some B) :
    ∃ es, List.Forall₂ (net.RouteEdgeAt r) ((r.stops.drop i).take (j - i)) es ∧
      (net.getTravelTimeOnRoute L R A B).toNat = (es.map (·.travelTime.toNat)).sum % 2 ^ 32 := by
  have hmem := mem_routes_of_getRoute hr
  have hst := (hc.2.shape r hmem).2.2
  unfold getTravelTimeOnRoute
  rw [hr]
  dsimp only
  rw [(Option.isNone_eq_false_iff _).2 (hst A (List.getElem?_mem hi)),
    (Option.isNone_eq_false_iff _).2 (hst B (List.getElem?_mem hj))]
  exact walkRoute_between hc.2 hmem hij hi hj

theorem travelTimeOnRoute_add (hnet : Reachable net) {L R A B C : Id} {r : RouteInternal}
    (hr : net.getRoute L R = some r) {i j k : Nat} (hij : i ≤ j) (hjk : j ≤ k)
    (hi : r.stops[i]? = some A) (hj : r.stops[j]? = some B) (hk : r.stops[k]? = some C) :
    net.getTravelTimeOnRoute L R A C =
      net.getTravelTimeOnRoute L R A B + net.getTravelTimeOnRoute L R B C := by
  have hc := consistent_of_reachable hnet
  obtain ⟨es, hes, hAC⟩ := travelTimeOnRoute_eq_sum hc hr (hij.trans hjk) hi hk
  obtain ⟨es₁, hes₁, hAB⟩ := travelTimeOnRoute_eq_sum hc hr hij hi hj
  obtain ⟨es₂, hes₂, hBC⟩ := travelTimeOnRoute_eq_sum hc hr hjk hj hk
  rw [take_drop_split r.stops hij hjk] at hes
  have hsplit : es = es₁ ++ es₂ := List.right_unique_forall₂' routeEdgeAt_unique hes (List.rel_append hes₁ hes₂)
  apply UInt32.toNat.inj
  rw [toNat_add_uint32, hAC, hAB, hBC, hsplit, List.map_append, List.sum_append, Nat.add_mod]

theorem travelTimeOnRoute_add_example :
    let net := run {} [.addStation ⟨"A"⟩, .addStation ⟨"B"⟩, .addStation ⟨"C"⟩,
      .addLine ⟨"L1", [⟨"R1", ["A", "B", "C"]⟩]⟩, .setTravelTime "A" "B" 3, .setTravelTime "B" "C" 4]
    Reachable net ∧ net.getRoute "L1" "R1" = some ⟨0, "R1", "L1", ["A", "B", "C"]⟩ ∧ 0 ≤ 1 ∧ 1 ≤ 2 ∧
      ["A", "B", "C"][0]? = some "A" ∧ ["A", "B", "C"][1]? = some "B" ∧ ["A", "B", "C"][2]? = some "C" ∧
      net.getTravelTimeOnRoute "L1" "R1" "A" "C" =
        net.getTravelTimeOnRoute "L1" "R1" "A" "B" + net.getTravelTimeOnRoute "L1" "R1" "B" "C" := by
  intro net
  have h : Reachable net := Reachable.empty.run (by decide)
  have hr : net.getRoute "L1" "R1" = some ⟨0, "R1", "L1", ["A", "B", "C"]⟩ := by decide
  have hadd := travelTimeOnRoute_add h hr (by decide : 0 ≤ 1) (by decide : 1 ≤ 2) rfl rfl rfl
  exact ⟨h, hr, by decide, by decide, rfl, rfl, rfl, hadd⟩

end TransportNetwork

end NetworkMonitor
