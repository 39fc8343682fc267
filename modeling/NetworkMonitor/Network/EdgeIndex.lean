import NetworkMonitor.Network.Reachable

namespace NetworkMonitor

/-- The stops that follow `s` on a route: one per occurrence of `s` before the terminal. -/
def hopsFrom : List Id → Id → List Id
  | a :: b :: rest, s => (if a = s then [b] else []) ++ hopsFrom (b :: rest) s
  | _, _ => []

@[simp] theorem hopsFrom_nil (s : Id) : hopsFrom [] s = [] := rfl

theorem hopsFrom_cons (a s : Id) (l : List Id) :
    hopsFrom (a :: l) s = (if a = s then l.take 1 else []) ++ hopsFrom l s := by
  cases l <;> simp [hopsFrom]

theorem hopsFrom_eq_nil_of_not_mem {stops : List Id} {s : Id} (h : s ∉ stops) :
    hopsFrom stops s = [] := by
  induction stops with
  | nil => rfl
  | cons a l ih =>
    simp only [List.mem_cons, not_or] at h
    simp [hopsFrom_cons, Ne.symm h.1, ih h.2]

theorem hopsFrom_of_nodup {pre post : List Id} {a b : Id} (h : (pre ++ a :: b :: post).Nodup) :
    hopsFrom (pre ++ a :: b :: post) a = [b] := by
  induction pre with
  | nil =>
    have ha : a ∉ b :: post := (List.nodup_cons.1 h).1
    simp [hopsFrom, hopsFrom_eq_nil_of_not_mem ha]
  | cons p pre ih =>
    have hp : p ≠ a := fun e => (List.nodup_cons.1 h).1 (e ▸ by simp)
    simp [hopsFrom_cons, hp, ih (List.nodup_cons.1 h).2]

theorem hopsFrom_last_of_nodup {pre : List Id} {a : Id} (h : (pre ++ [a]).Nodup) :
    hopsFrom (pre ++ [a]) a = [] := by
  induction pre with
  | nil => rfl
  | cons p pre ih =>
    have hp : p ≠ a := fun e => (List.nodup_cons.1 h).1 (e ▸ by simp)
    simp [hopsFrom_cons, hp, ih (List.nodup_cons.1 h).2]

theorem exists_split_of_mem_hopsFrom {stops : List Id} {s b : Id} (h : b ∈ hopsFrom stops s) :
    ∃ pre post, stops = pre ++ s :: b :: post := by
  induction stops with
  | nil => simp at h
  | cons a l ih =>
    rw [hopsFrom_cons, List.mem_append] at h
    rcases h with h | h
    · split at h
      · next has =>
        obtain ⟨post, rfl⟩ : ∃ post, l = b :: post := by
          cases l with
          | nil => simp at h
          | cons c post => simp at h; exact ⟨post, by rw [h]⟩
        exact ⟨[], post, by rw [has]; rfl⟩
      · simp at h
    · obtain ⟨pre, post, rfl⟩ := ih h
      exact ⟨a :: pre, post, rfl⟩

namespace TransportNetwork

/-- Every route registered in some line of `lines_`. -/
def routes (net : TransportNetwork) : List RouteInternal :=
  net.lines.flatMap fun line => line.2.routes.map (·.2)

/-- The edge index against a list of registered routes `rs`: the routes are well formed with
distinct fresh addresses, each route's edges at a stop lead to the stop after it, and every edge
belongs to one of the routes. -/
structure EdgeIndex (net : TransportNetwork) (rs : List RouteInternal) : Prop where
  shape : ∀ r ∈ rs, 2 ≤ r.stops.length ∧ r.stops.Nodup ∧ ∀ s ∈ r.stops, (net.getStation s).isSome
  addr_lt : ∀ r ∈ rs, r.addr < net.allocated
  addr_nodup : (rs.map (·.addr)).Nodup
  edges_of_route : ∀ r ∈ rs, ∀ s,
    ((net.edgesOf s).filter (·.route.addr = r.addr)).map (·.nextStop) = hopsFrom r.stops s
  edge_route : ∀ s, ∀ e ∈ net.edgesOf s, e.route ∈ rs ∧ e.nextStop ∈ hopsFrom e.route.stops s

/-- The bookkeeping of `lines_` and of each line's `routes` map. -/
structure Registry (net : TransportNetwork) : Prop where
  lines_nodup : (net.lines.map (·.1)).Nodup
  routes_nodup : ∀ l ∈ net.lines, (l.2.routes.map (·.1)).Nodup
  keys : ∀ l ∈ net.lines, l.2.id = l.1 ∧ ∀ r ∈ l.2.routes, r.2.lineId = l.1 ∧ r.2.id = r.1

def Consistent (net : TransportNetwork) : Prop := net.Registry ∧ net.EdgeIndex net.routes

def edgeShape (e : GraphEdge) : RouteInternal × Id := (e.route, e.nextStop)

theorem filter_map_nextStop {l l' : List GraphEdge} (h : l'.map edgeShape = l.map edgeShape)
    (a : Nat) : (l'.filter (·.route.addr = a)).map (·.nextStop) =
      (l.filter (·.route.addr = a)).map (·.nextStop) := by
  have key : ∀ l : List GraphEdge, (l.filter (·.route.addr = a)).map (·.nextStop) =
      ((l.map edgeShape).filter (·.1.addr = a)).map (·.2) := by
    intro l; simp [List.filter_map, Function.comp_def, edgeShape]
  rw [key, h, ← key]

theorem EdgeIndex.of_shape {net net' : TransportNetwork} {rs : List RouteInternal}
    (h : net.EdgeIndex rs) (hst : ∀ s, (net.getStation s).isSome → (net'.getStation s).isSome)
    (hal : net'.allocated = net.allocated)
    (hedges : ∀ s, (net'.edgesOf s).map edgeShape = (net.edgesOf s).map edgeShape) :
    net'.EdgeIndex rs where
  shape r hr := by
    obtain ⟨h1, h2, h3⟩ := h.shape r hr
    exact ⟨h1, h2, fun s hs => hst s (h3 s hs)⟩
  addr_lt r hr := hal ▸ h.addr_lt r hr
  addr_nodup := h.addr_nodup
  edges_of_route r hr s := by rw [filter_map_nextStop (hedges s)]; exact h.edges_of_route r hr s
  edge_route s e he := by
    obtain ⟨e₀, he₀, hsh⟩ := List.mem_map.1 ((hedges s) ▸ List.mem_map_of_mem edgeShape he)
    simp only [edgeShape, Prod.mk.injEq] at hsh
    rw [← hsh.1, ← hsh.2]
    exact h.edge_route s e₀ he₀

variable {net : TransportNetwork}

theorem edgesOf_modifyStation_of_edges (a s : Id) {f : GraphNode → GraphNode}
    (hf : ∀ n, (f n).edges = n.edges) : (net.modifyStation a f).edgesOf s = net.edgesOf s := by
  simp only [edgesOf, getStation_modifyStation]
  split <;> simp [Option.map_map, Function.comp_def, hf]

theorem edgesOf_map_shape_modifyStation (a s : Id) {f : GraphNode → GraphNode}
    (hf : ∀ n, (f n).edges.map edgeShape = n.edges.map edgeShape) :
    ((net.modifyStation a f).edgesOf s).map edgeShape = (net.edgesOf s).map edgeShape := by
  simp only [edgesOf, getStation_modifyStation]
  split
  · cases net.getStation s <;> simp [hf]
  · rfl

theorem edgesOf_recordPassengerEvent (ev : PassengerEvent) (s : Id) :
    (net.recordPassengerEvent ev).2.edgesOf s = net.edgesOf s := by
  unfold recordPassengerEvent
  split
  · rfl
  · exact edgesOf_modifyStation_of_edges _ _ fun n => by cases ev.type <;> rfl

theorem isSome_getStation_recordPassengerEvent (ev : PassengerEvent) (s : Id) :
    ((net.recordPassengerEvent ev).2.getStation s).isSome = (net.getStation s).isSome := by
  unfold recordPassengerEvent
  split
  · rfl
  · exact isSome_getStation_modifyStation _ _ _

theorem setTravelTimeFrom_shape (t : UInt32) (a b s : Id) :
    ((net.setTravelTimeFrom t a b).2.edgesOf s).map edgeShape = (net.edgesOf s).map edgeShape :=
  edgesOf_map_shape_modifyStation a s fun n => by
    simp only [List.map_map]
    congr 1; funext e; by_cases h : e.nextStop = b <;> simp [h, edgeShape]

theorem setTravelTime_shape (a b : Id) (t : UInt32) (s : Id) :
    ((net.setTravelTime a b t).2.edgesOf s).map edgeShape = (net.edgesOf s).map edgeShape := by
  unfold setTravelTime
  split
  · rfl
  · simp only [setTravelTimeFrom_shape]

theorem isSome_getStation_setTravelTime (a b : Id) (t : UInt32) (s : Id) :
    ((net.setTravelTime a b t).2.getStation s).isSome = (net.getStation s).isSome := by
  unfold setTravelTime setTravelTimeFrom
  split
  · rfl
  · simp only [isSome_getStation_modifyStation]

theorem addEdges_frame (r : RouteInternal) (stops : List Id) (net : TransportNetwork) :
    (addEdges r net stops).lines = net.lines ∧ (addEdges r net stops).allocated = net.allocated ∧
      ∀ s, ((addEdges r net stops).getStation s).isSome = (net.getStation s).isSome := by
  induction net, stops using addEdges.induct r with
  | case1 net a b rest ih =>
    rw [addEdges]
    exact ⟨ih.1, ih.2.1, fun s => (ih.2.2 s).trans (isSome_getStation_modifyStation _ _ _)⟩
  | case2 stops net h =>
    match stops, h with
    | [], _ => exact ⟨rfl, rfl, fun _ => rfl⟩
    | [_], _ => exact ⟨rfl, rfl, fun _ => rfl⟩
    | a :: b :: rest, h => exact absurd rfl (h a b rest)

theorem edgesOf_addEdges (r : RouteInternal) (stops : List Id) (net : TransportNetwork) (s : Id) :
    (addEdges r net stops).edgesOf s = net.edgesOf s ++
      if (net.getStation s).isSome then (hopsFrom stops s).map (⟨r, ·, 0⟩) else [] := by
  induction net, stops using addEdges.induct r with
  | case1 net a b rest ih =>
    rw [addEdges, ih, isSome_getStation_modifyStation, edgesOf_modifyStation]
    by_cases hs : s = a
    · subst hs; cases hg : net.getStation s <;> simp [hg, edgesOf, hopsFrom]
    · simp [hs, hopsFrom, Ne.symm hs]
  | case2 stops net h =>
    match stops, h with
    | [], _ => simp [addEdges, hopsFrom]
    | [_], _ => simp [addEdges, hopsFrom]
    | a :: b :: rest, h => exact absurd rfl (h a b rest)

theorem EdgeIndex.addRoute {rs : List RouteInternal} (h : net.EdgeIndex rs) (r : RouteInternal)
    (haddr : r.addr = net.allocated)
    (hshape : 2 ≤ r.stops.length ∧ r.stops.Nodup ∧ ∀ s ∈ r.stops, (net.getStation s).isSome) :
    ({ addEdges r net r.stops with allocated := net.allocated + 1 } : TransportNetwork).EdgeIndex
      (r :: rs) := by
  obtain ⟨-, -, hst⟩ := addEdges_frame r r.stops net
  have hedges := edgesOf_addEdges r r.stops net
  have hold : ∀ s, ∀ e ∈ net.edgesOf s, e.route.addr < r.addr := fun s e he =>
    haddr ▸ h.addr_lt _ (h.edge_route s e he).1
  refine ⟨?_, ?_, ?_, ?_, ?_⟩
  · intro q hq
    rcases List.mem_cons.1 hq with rfl | hq
    · exact ⟨hshape.1, hshape.2.1, fun s hs => (hst s).symm ▸ hshape.2.2 s hs⟩
    · obtain ⟨h1, h2, h3⟩ := h.shape q hq
      exact ⟨h1, h2, fun s hs => (hst s).symm ▸ h3 s hs⟩
  · intro q hq
    rcases List.mem_cons.1 hq with rfl | hq
    · show q.addr < net.allocated + 1; omega
    · show q.addr < net.allocated + 1; have := h.addr_lt q hq; omega
  · refine List.nodup_cons.2 ⟨fun hm => ?_, h.addr_nodup⟩
    obtain ⟨q, hq, he⟩ := List.mem_map.1 hm
    have := h.addr_lt q hq
    simp only at he; omega
  · intro q hq s
    show ((addEdges r net r.stops).edgesOf s |>.filter _).map _ = _
    rw [hedges, List.filter_append, List.map_append]
    rcases List.mem_cons.1 hq with rfl | hq
    · rw [List.filter_eq_nil_iff.2 (fun e he => by simpa using (hold s e he).ne)]
      by_cases hs : (net.getStation s).isSome
      · simp [hs, List.filter_map, Function.comp_def]
      · have : s ∉ q.stops := fun hm => hs (hshape.2.2 s hm)
        simp [hs, hopsFrom_eq_nil_of_not_mem this]
    · have hne : r.addr ≠ q.addr := by have := h.addr_lt q hq; omega
      rw [h.edges_of_route q hq s]
      split <;> simp [List.filter_map, Function.comp_def, hne]
  · intro s e he
    change e ∈ (addEdges r net r.stops).edgesOf s at he
    rw [hedges, List.mem_append] at he
    rcases he with he | he
    · obtain ⟨h1, h2⟩ := h.edge_route s e he
      exact ⟨List.mem_cons_of_mem _ h1, h2⟩
    · split at he
      · obtain ⟨b, hb, rfl⟩ := List.mem_map.1 he
        exact ⟨List.mem_cons_self _ _, hb⟩
      · simp at he

theorem addRouteToLine_eq {route : Route} {line : LineInternal}
    (hfresh : line.routes.lookup route.id = none)
    (hst : ∀ s ∈ route.stops, (net.getStation s).isSome) :
    net.addRouteToLine route line =
      some ({ addEdges ⟨net.allocated, route.id, line.id, route.stops⟩ net route.stops with
          allocated := net.allocated + 1 },
        { line with routes := (route.id, ⟨net.allocated, route.id, line.id, route.stops⟩) :: line.routes }) := by
  simp [addRouteToLine, hfresh, List.all_eq_true.2 hst]

theorem addRoutes_wellFormed (rs : List RouteInternal) : ∀ (routes : List Route)
    (net : TransportNetwork) (line : LineInternal),
    net.EdgeIndex (line.routes.map (·.2) ++ rs) →
    (routes.map (·.id) ++ line.routes.map (·.1)).Nodup →
    (∀ route ∈ routes, 2 ≤ route.stops.length ∧ route.stops.Nodup ∧
      ∀ s ∈ route.stops, (net.getStation s).isSome) →
    (∀ r ∈ line.routes, r.2.lineId = line.id ∧ r.2.id = r.1) →
    ∃ net' line', net.addRoutes line routes = (true, net', line') ∧ net'.lines = net.lines ∧
      line'.id = line.id ∧ net'.EdgeIndex (line'.routes.map (·.2) ++ rs) ∧
      (line'.routes.map (·.1)).Nodup ∧ (∀ r ∈ line'.routes, r.2.lineId = line.id ∧ r.2.id = r.1) ∧
      ∀ s, (net'.getStation s).isSome = (net.getStation s).isSome
  | [], net, line, h, hnd, _, hkeys => ⟨net, line, rfl, rfl, rfl, h, by simpa using hnd, hkeys, fun _ => rfl⟩
  | route :: routes, net, line, h, hnd, hwf, hkeys => by
    simp only [List.map_cons, List.cons_append, List.nodup_cons, List.mem_append, not_or] at hnd
    obtain ⟨h2, hnodup, hst⟩ := hwf route (List.mem_cons_self _ _)
    rw [addRoutes, addRouteToLine_eq (lookup_eq_none_of_not_mem hnd.1.2) hst]
    obtain ⟨hlines, -, hst₁⟩ := addEdges_frame ⟨net.allocated, route.id, line.id, route.stops⟩
      route.stops net
    obtain ⟨net', line', heq, hl, hid, hE, hN, hK, hS⟩ := addRoutes_wellFormed rs routes _
      { line with routes := (route.id, ⟨net.allocated, route.id, line.id, route.stops⟩) :: line.routes }
      (EdgeIndex.addRoute h _ rfl ⟨h2, hnodup, hst⟩)
      (List.perm_middle.nodup_iff.2 (List.nodup_cons.2
        ⟨by simpa only [List.mem_append, not_or] using hnd.1, hnd.2⟩))
      (fun q hq => by
        obtain ⟨q1, q2, q3⟩ := hwf q (List.mem_cons_of_mem _ hq)
        exact ⟨q1, q2, fun s hs => (hst₁ s).symm ▸ q3 s hs⟩)
      (by
        intro q hq
        rcases List.mem_cons.1 hq with rfl | hq
        · exact ⟨rfl, rfl⟩
        · exact hkeys q hq)
    exact ⟨net', line', heq, hl.trans hlines, hid, hE, hN, hK, fun s => (hS s).trans (hst₁ s)⟩

theorem Registry.of_lines {net' : TransportNetwork} (h : net.Registry)
    (hl : net'.lines = net.lines) : net'.Registry where
  lines_nodup := hl ▸ h.lines_nodup
  routes_nodup := hl ▸ h.routes_nodup
  keys := hl ▸ h.keys

theorem Consistent.of_frame {net' : TransportNetwork} (h : net.Consistent)
    (hl : net'.lines = net.lines) (hal : net'.allocated = net.allocated)
    (hst : ∀ s, (net.getStation s).isSome → (net'.getStation s).isSome)
    (hedges : ∀ s, (net'.edgesOf s).map edgeShape = (net.edgesOf s).map edgeShape) :
    net'.Consistent :=
  ⟨h.1.of_lines hl, by rw [routes, hl]; exact h.2.of_shape hst hal hedges⟩

theorem Consistent.addStation (h : net.Consistent) (st : Station) : (net.addStation st).2.Consistent := by
  refine h.of_frame (by unfold TransportNetwork.addStation; split <;> rfl)
    (by unfold TransportNetwork.addStation; split <;> rfl) (fun s hs => ?_)
    (fun s => by rw [edgesOf_addStation])
  rw [getStation_addStation]
  split
  · rfl
  · exact hs

theorem Consistent.recordPassengerEvent (h : net.Consistent) (ev : PassengerEvent) :
    (net.recordPassengerEvent ev).2.Consistent :=
  h.of_frame (by unfold TransportNetwork.recordPassengerEvent; split <;> rfl)
    (by unfold TransportNetwork.recordPassengerEvent; split <;> rfl)
    (fun s hs => (isSome_getStation_recordPassengerEvent ev s).symm ▸ hs)
    (fun s => by rw [edgesOf_recordPassengerEvent])

theorem Consistent.setTravelTime (h : net.Consistent) (a b : Id) (t : UInt32) :
    (net.setTravelTime a b t).2.Consistent :=
  h.of_frame (by unfold TransportNetwork.setTravelTime; split <;> rfl)
    (by unfold TransportNetwork.setTravelTime; split <;> rfl)
    (fun s hs => (isSome_getStation_setTravelTime a b t s).symm ▸ hs)
    (setTravelTime_shape a b t)

theorem Consistent.addLine (h : net.Consistent) {line : Line} (hwf : line.WellFormed net) :
    (net.addLine line).2.Consistent := by
  unfold TransportNetwork.addLine
  split
  · exact h
  · next hfresh =>
    obtain ⟨net', li, heq, hl, hid, hE, hN, hK, -⟩ := addRoutes_wellFormed net.routes line.routes net
      ⟨line.id, []⟩ h.2 (by simpa using hwf.1) hwf.2 (by simp)
    rw [heq]
    dsimp only
    have hnot : line.id ∉ net.lines.map (·.1) := fun hm => by
      obtain ⟨l, hlm, hl1⟩ := List.mem_map.1 hm
      have := lookup_eq_some_of_mem h.1.lines_nodup (hl1 ▸ hlm : (line.id, l.2) ∈ net.lines)
      simp [getLine, this] at hfresh
    refine ⟨⟨?_, ?_, ?_⟩, ?_⟩
    · exact List.nodup_cons.2 ⟨by simpa [hl] using hnot, hl ▸ h.1.lines_nodup⟩
    · intro l hlm
      rcases List.mem_cons.1 hlm with rfl | hlm
      · exact hN
      · exact h.1.routes_nodup l (hl ▸ hlm)
    · intro l hlm
      rcases List.mem_cons.1 hlm with rfl | hlm
      · exact ⟨hid, hK⟩
      · exact h.1.keys l (hl ▸ hlm)
    · have : ({ net' with lines := (line.id, li) :: net'.lines } : TransportNetwork).routes =
          li.routes.map (·.2) ++ net.routes := by simp [routes, hl]
      rw [this]
      exact hE.of_shape (fun _ hs => hs) rfl (fun _ => rfl)

theorem consistent_of_reachable {net : TransportNetwork} (h : Reachable net) : net.Consistent := by
  refine Reachable.induction ⟨⟨List.nodup_nil, by simp, by simp⟩, ⟨by simp [routes], by simp [routes],
    by simp [routes], by simp [routes], by simp [edgesOf, getStation]⟩⟩ ?_ h
  intro net op hc hwf
  cases op with
  | addStation st => exact hc.addStation st
  | addLine line => exact hc.addLine hwf
  | setTravelTime a b t => exact hc.setTravelTime a b t
  | recordPassengerEvent ev => exact hc.recordPassengerEvent ev

theorem mem_routes_of_getRoute {L R : Id} {r : RouteInternal} (h : net.getRoute L R = some r) :
    r ∈ net.routes := by
  simp only [getRoute, getLine, Option.bind_eq_some] at h
  obtain ⟨l, hl, hr⟩ := h
  exact List.mem_flatMap.2 ⟨(L, l), mem_of_lookup_eq_some hl,
    List.mem_map.2 ⟨(R, r), mem_of_lookup_eq_some hr, rfl⟩⟩

theorem Registry.getRoute_of_mem (h : net.Registry) {r : RouteInternal} (hr : r ∈ net.routes) :
    net.getRoute r.lineId r.id = some r := by
  obtain ⟨l, hl, hrl⟩ := List.mem_flatMap.1 hr
  obtain ⟨q, hq, rfl⟩ := List.mem_map.1 hrl
  obtain ⟨-, hk⟩ := h.keys l hl
  obtain ⟨h1, h2⟩ := hk q hq
  rw [h1, h2]
  simp only [getRoute, getLine, lookup_eq_some_of_mem h.lines_nodup hl, Option.some_bind]
  exact lookup_eq_some_of_mem (h.routes_nodup l hl) hq

theorem isSome_of_mem_edgesOf {s : Id} {e : GraphEdge} (he : e ∈ net.edgesOf s) :
    (net.getStation s).isSome := by
  unfold edgesOf at he
  cases h : net.getStation s <;> simp_all

theorem EdgeIndex.nextStop_isSome {rs : List RouteInternal} (h : net.EdgeIndex rs) {s : Id}
    {e : GraphEdge} (he : e ∈ net.edgesOf s) : (net.getStation e.nextStop).isSome := by
  obtain ⟨hr, hb⟩ := h.edge_route s e he
  obtain ⟨pre, post, hs⟩ := exists_split_of_mem_hopsFrom hb
  exact (h.shape _ hr).2.2 _ (by rw [hs]; simp)

theorem reachable_edge_index {net : TransportNetwork} (h : Reachable net) :
    (∀ L R r, net.getRoute L R = some r →
      (∀ pre a b post, r.stops = pre ++ a :: b :: post →
        ((net.edgesOf a).filter (·.route.addr = r.addr)).map (·.nextStop) = [b]) ∧
      ∀ pre a, r.stops = pre ++ [a] → (net.edgesOf a).filter (·.route.addr = r.addr) = []) ∧
    ∀ s, ∀ e ∈ net.edgesOf s, (∃ L R, net.getRoute L R = some e.route) ∧
      ∃ pre post, e.route.stops = pre ++ s :: e.nextStop :: post := by
  obtain ⟨hreg, hidx⟩ := consistent_of_reachable h
  refine ⟨fun L R r hr => ?_, fun s e he => ?_⟩
  · have hmem := mem_routes_of_getRoute hr
    have hnd := (hidx.shape r hmem).2.1
    refine ⟨fun pre a b post hs => ?_, fun pre a hs => ?_⟩
    · rw [hidx.edges_of_route r hmem a, hs, hopsFrom_of_nodup (hs ▸ hnd)]
    · have := hidx.edges_of_route r hmem a
      rw [hs, hopsFrom_last_of_nodup (hs ▸ hnd), List.map_eq_nil_iff] at this
      exact this
  · obtain ⟨hr, hb⟩ := hidx.edge_route s e he
    exact ⟨⟨_, _, hreg.getRoute_of_mem hr⟩, exists_split_of_mem_hopsFrom hb⟩

theorem reachable_edge_index_example :
    let net : TransportNetwork := run {} [.addStation ⟨"A"⟩, .addStation ⟨"B"⟩,
      .addLine ⟨"L1", [⟨"R1", ["A", "B"]⟩]⟩]
    Reachable net ∧ ∀ s, ∀ e ∈ net.edgesOf s, ∃ pre post, e.route.stops = pre ++ s :: e.nextStop :: post :=
  have h := Reachable.empty.run (by decide)
  ⟨h, fun s e he => ((reachable_edge_index h).2 s e he).2⟩

end TransportNetwork

end NetworkMonitor
