import NetworkMonitor.Network.EdgeIndex

namespace NetworkMonitor

/-- A registered route as a network file lists it: its line's id, its id and its stops. -/
def RouteInternal.entry (r : RouteInternal) : Id × Id × List Id := (r.lineId, r.id, r.stops)

/-- The routes of a line as a network file lists them. -/
def Line.entries (line : Line) : List (Id × Id × List Id) :=
  line.routes.map fun r => (line.id, r.id, r.stops)

namespace TransportNetwork

variable {net : TransportNetwork}

theorem addRouteToLine_isSome_iff {route : Route} {li : LineInternal} :
    (net.addRouteToLine route li).isSome ↔
      li.routes.lookup route.id = none ∧ ∀ s ∈ route.stops, (net.getStation s).isSome := by
  unfold addRouteToLine
  split_ifs with h₁ h₂
  · simp only [Option.isSome_none, Bool.false_eq_true, false_iff, not_and]
    intro h; simp [h] at h₁
  · exact iff_of_true rfl ⟨Option.not_isSome_iff_eq_none.1 h₁, List.all_eq_true.1 h₂⟩
  · exact iff_of_false Bool.false_ne_true fun h => h₂ (List.all_eq_true.2 h.2)

theorem addRoutes_spec : ∀ (routes : List Route) (net : TransportNetwork) (li : LineInternal),
    ((net.addRoutes li routes).1 = true ↔ (routes.map (·.id)).Nodup ∧
      (∀ r ∈ routes, li.routes.lookup r.id = none) ∧
      ∀ r ∈ routes, ∀ s ∈ r.stops, (net.getStation s).isSome) ∧
    (net.addRoutes li routes).2.1.lines = net.lines ∧
    (∀ s, ((net.addRoutes li routes).2.1.getStation s).isSome = (net.getStation s).isSome) ∧
    ((net.addRoutes li routes).1 = true → (net.addRoutes li routes).2.2.id = li.id ∧
      (∀ r ∈ routes, ∃ ri, (net.addRoutes li routes).2.2.routes.lookup r.id = some ri ∧
        ri.id = r.id ∧ ri.lineId = li.id ∧ ri.stops = r.stops) ∧
      ∀ k, k ∉ routes.map (·.id) →
        (net.addRoutes li routes).2.2.routes.lookup k = li.routes.lookup k)
  | [], net, li => by
    simp only [addRoutes, List.map_nil, List.nodup_nil, List.not_mem_nil, false_implies, implies_true,
      and_self, not_false_eq_true, imp_self]
  | route :: routes, net, li => by
    rw [addRoutes]
    cases h : net.addRouteToLine route li with
    | none =>
      have hn : ¬(li.routes.lookup route.id = none ∧ ∀ s ∈ route.stops, (net.getStation s).isSome) :=
        fun hc => by simpa [h] using addRouteToLine_isSome_iff.2 hc
      refine ⟨iff_of_false Bool.false_ne_true fun ⟨_, hf, hs⟩ => hn ⟨hf route (List.mem_cons_self _ _),
        hs route (List.mem_cons_self _ _)⟩, rfl, fun _ => rfl, fun h => absurd h Bool.false_ne_true⟩
    | some p =>
      obtain ⟨hfresh, hst⟩ := addRouteToLine_isSome_iff.1
        (show (net.addRouteToLine route li).isSome by simp [h])
      rw [addRouteToLine_eq hfresh hst] at h
      cases h
      obtain ⟨hlines, -, hst₁⟩ := addEdges_frame ⟨net.allocated, route.id, li.id, route.stops⟩
        route.stops net
      obtain ⟨hok, hl, hs, hsucc⟩ := addRoutes_spec routes _ _
      refine ⟨?_, hl.trans hlines, fun s => (hs s).trans (hst₁ s), fun hres => ?_⟩
      · rw [hok]
        simp only [List.map_cons, List.nodup_cons, List.forall_mem_cons, lookup_cons_eq, hfresh,
          true_and, and_iff_right hst]
        constructor
        · rintro ⟨hnd, hf, hs'⟩
          have hne : ∀ x ∈ routes, x.id ≠ route.id := fun x hx hx' => by
            have := hf x hx
            rw [if_pos hx'] at this
            cases this
          exact ⟨⟨fun hm => by obtain ⟨x, hx, hx'⟩ := List.mem_map.1 hm; exact hne x hx hx', hnd⟩,
            fun x hx => by have := hf x hx; rwa [if_neg (hne x hx)] at this,
            fun x hx s hs => (hst₁ s).symm.trans (hs' x hx s hs)⟩
        · rintro ⟨⟨hnotin, hnd⟩, hf, hs'⟩
          exact ⟨hnd, fun x hx => by rw [if_neg fun h => hnotin (List.mem_map.2 ⟨x, hx, h⟩)]; exact hf x hx,
            fun x hx s hs => (hst₁ s).trans (hs' x hx s hs)⟩
      · obtain ⟨hid, hmem, hother⟩ := hsucc hres
        have hnotin : route.id ∉ routes.map (·.id) := fun hm => by
          obtain ⟨x, hx, hx'⟩ := List.mem_map.1 hm
          simpa [lookup_cons_eq, hx'] using (hok.1 hres).2.1 x hx
        refine ⟨hid, fun r hr => ?_, fun k hk => ?_⟩
        · rcases List.mem_cons.1 hr with rfl | hr
          · exact ⟨⟨net.allocated, r.id, li.id, r.stops⟩, (hother r.id hnotin).trans (by simp [lookup_cons_eq]),
              rfl, rfl, rfl⟩
          · exact hmem r hr
        · simp only [List.map_cons, List.mem_cons, not_or] at hk
          rw [hother k hk.2, lookup_cons_eq, if_neg hk.1]

theorem isSome_getStation_addLine (line : Line) (s : Id) :
    ((net.addLine line).2.getStation s).isSome = (net.getStation s).isSome := by
  have hs := (addRoutes_spec line.routes net ⟨line.id, []⟩).2.2.1 s
  unfold addLine
  split
  · rfl
  · split <;> next heq => rw [heq] at hs; exact hs

theorem addRoutes_cons (route : Route) (routes : List Route) (li : LineInternal) :
    net.addRoutes li (route :: routes) =
      if li.routes.lookup route.id = none ∧ ∀ s ∈ route.stops, (net.getStation s).isSome then
        addRoutes { addEdges ⟨net.allocated, route.id, li.id, route.stops⟩ net route.stops with
            allocated := net.allocated + 1 }
          { li with routes := (route.id, ⟨net.allocated, route.id, li.id, route.stops⟩) :: li.routes }
          routes
      else (false, net, li) := by
  rw [addRoutes]
  split_ifs with hc
  · rw [addRouteToLine_eq hc.1 hc.2]
  · rw [Option.not_isSome_iff_eq_none.1 (mt addRouteToLine_isSome_iff.1 hc)]

theorem addEdges_ids (r : RouteInternal) : ∀ (net : TransportNetwork) (stops : List Id),
    (addEdges r net stops).stations.map (·.1) = net.stations.map (·.1)
  | _, _ :: b :: rest => by rw [addEdges, addEdges_ids r _ (b :: rest), modifyStation_ids]
  | _, [] => rfl
  | _, [_] => rfl

theorem addRoutes_ids : ∀ (routes : List Route) (net : TransportNetwork) (li : LineInternal),
    (net.addRoutes li routes).2.1.stations.map (·.1) = net.stations.map (·.1)
  | [], _, _ => rfl
  | route :: routes, net, li => by
    rw [addRoutes_cons]
    split_ifs
    · exact (addRoutes_ids routes _ _).trans (addEdges_ids _ _ _)
    · rfl

theorem addRoutes_entries : ∀ (routes : List Route) (net : TransportNetwork) (li : LineInternal),
    (net.addRoutes li routes).1 = true →
    (net.addRoutes li routes).2.2.routes.map (·.2.entry) =
      (routes.map fun r => (li.id, r.id, r.stops)).reverse ++ li.routes.map (·.2.entry)
  | [], _, _, _ => rfl
  | route :: routes, net, li, h => by
    rw [addRoutes_cons] at h ⊢
    split_ifs at h ⊢
    rw [addRoutes_entries routes _ _ h]
    simp [RouteInternal.entry]

theorem addLine_ids (line : Line) :
    (net.addLine line).2.stations.map (·.1) = net.stations.map (·.1) := by
  have hs := addRoutes_ids line.routes net ⟨line.id, []⟩
  unfold addLine
  split
  · rfl
  · split <;> next heq => rw [heq] at hs; exact hs

theorem getLine_addLine_of_ne (line : Line) {L : Id} (hL : L ≠ line.id) :
    (net.addLine line).2.getLine L = net.getLine L := by
  have hl := (addRoutes_spec line.routes net ⟨line.id, []⟩).2.1
  unfold addLine
  split
  · rfl
  · split <;> next heq =>
      rw [heq] at hl
      simp only [getLine, lookup_cons_eq, if_neg hL]
      exact congrArg (List.lookup L) hl

theorem isNone_getLine_of_addLine {line : Line} (h : (net.addLine line).1 = true) :
    (net.getLine line.id).isNone := by
  unfold addLine at h
  split at h
  · cases h
  · next hL => simpa using hL

theorem getRoute_addLine_self {line : Line} (h : (net.addLine line).1 = true) {route : Route}
    (hr : route ∈ line.routes) : ∃ ri, (net.addLine line).2.getRoute line.id route.id = some ri ∧
      ri.id = route.id ∧ ri.lineId = line.id ∧ ri.stops = route.stops := by
  obtain ⟨-, -, -, hsucc⟩ := addRoutes_spec line.routes net ⟨line.id, []⟩
  have hL : ¬(net.getLine line.id).isSome := by simpa using isNone_getLine_of_addLine h
  unfold addLine at h ⊢
  rw [if_neg hL] at h ⊢
  generalize net.addRoutes ⟨line.id, []⟩ line.routes = res at h hsucc ⊢
  obtain ⟨ok, net', li'⟩ := res
  cases ok
  · cases h
  · obtain ⟨ri, hri, hid⟩ := (hsucc rfl).2.1 route hr
    exact ⟨ri, by simpa [getRoute, getLine, lookup_cons_eq] using hri, hid⟩

theorem addLine_entries {line : Line} (h : (net.addLine line).1 = true) :
    (net.addLine line).2.routes.map RouteInternal.entry =
      line.entries.reverse ++ net.routes.map RouteInternal.entry := by
  obtain ⟨-, hl, -, -⟩ := addRoutes_spec line.routes net ⟨line.id, []⟩
  have he := addRoutes_entries line.routes net ⟨line.id, []⟩
  have hL : ¬(net.getLine line.id).isSome := by simpa using isNone_getLine_of_addLine h
  unfold addLine at h ⊢
  rw [if_neg hL] at h ⊢
  generalize net.addRoutes ⟨line.id, []⟩ line.routes = res at h hl he ⊢
  obtain ⟨ok, net', li'⟩ := res
  cases ok
  · cases h
  · have he' : li'.routes.map (·.2.entry) = line.entries.reverse := by
      simpa [Line.entries] using he rfl
    dsimp only at hl
    simp only [routes, List.flatMap_cons, List.map_append, List.map_map, hl]
    rw [← he']
    rfl

theorem addLine_of_new {line : Line} (hL : ¬(net.getLine line.id).isSome) :
    net.addLine line = if (net.addRoutes ⟨line.id, []⟩ line.routes).1 then
      (true, { (net.addRoutes ⟨line.id, []⟩ line.routes).2.1 with
        lines := (line.id, (net.addRoutes ⟨line.id, []⟩ line.routes).2.2) ::
          (net.addRoutes ⟨line.id, []⟩ line.routes).2.1.lines })
    else (false, (net.addRoutes ⟨line.id, []⟩ line.routes).2.1) := by
  unfold addLine
  rw [if_neg hL]
  rcases net.addRoutes ⟨line.id, []⟩ line.routes with ⟨_ | _, _, _⟩ <;> rfl

theorem addLine_fst_iff (line : Line) : (net.addLine line).1 = true ↔ (net.getLine line.id).isNone ∧
    (line.routes.map (·.id)).Nodup ∧ ∀ r ∈ line.routes, ∀ s ∈ r.stops, (net.getStation s).isSome := by
  by_cases hL : (net.getLine line.id).isSome
  · unfold addLine
    rw [if_pos hL]
    exact iff_of_false Bool.false_ne_true fun h => by simp [Option.isNone_iff_eq_none.1 h.1] at hL
  · have hok := (addRoutes_spec line.routes net ⟨line.id, []⟩).1
    rw [addLine_of_new hL]
    split_ifs with h
    · exact iff_of_true rfl ⟨by simpa using hL, (hok.1 h).1, (hok.1 h).2.2⟩
    · exact iff_of_false not_false fun ⟨_, hnd, hst⟩ => h (hok.2 ⟨hnd, fun _ _ => rfl, hst⟩)

theorem addLine_lines (line : Line) : (net.addLine line).2.lines.map (·.1) =
    if (net.addLine line).1 then line.id :: net.lines.map (·.1) else net.lines.map (·.1) := by
  have hl := (addRoutes_spec line.routes net ⟨line.id, []⟩).2.1
  by_cases hL : (net.getLine line.id).isSome
  · unfold addLine
    rw [if_pos hL]
    rfl
  · rw [addLine_of_new hL]
    by_cases h : (net.addRoutes ⟨line.id, []⟩ line.routes).1 = true <;> simp [h, hl]

theorem addLine_lines_of_false {line : Line} (h : (net.addLine line).1 = false) :
    (net.addLine line).2.lines = net.lines := by
  by_cases hL : (net.getLine line.id).isSome
  · unfold addLine
    rw [if_pos hL]
  · rw [addLine_of_new hL] at h ⊢
    split_ifs at h ⊢
    exact (addRoutes_spec line.routes net ⟨line.id, []⟩).2.1

theorem addLine_spec (net : TransportNetwork) (line : Line) (_ : line.InBounds) :
    ((net.addLine line).1 = true ↔ (net.getLine line.id).isNone ∧ (line.routes.map (·.id)).Nodup ∧
        ∀ r ∈ line.routes, ∀ s ∈ r.stops, (net.getStation s).isSome) ∧
    (∀ s, ((net.addLine line).2.getStation s).isSome = (net.getStation s).isSome) ∧
    ((net.addLine line).1 = false → (net.addLine line).2.lines = net.lines) ∧
    ((net.addLine line).1 = true →
      (∀ r ∈ line.routes, ∃ ri, (net.addLine line).2.getRoute line.id r.id = some ri ∧
        ri.id = r.id ∧ ri.lineId = line.id ∧ ri.stops = r.stops) ∧
      (∀ R, R ∉ line.routes.map (·.id) → (net.addLine line).2.getRoute line.id R = none) ∧
      ∀ L, L ≠ line.id → (net.addLine line).2.getLine L = net.getLine L) := by
  refine ⟨addLine_fst_iff line, isSome_getStation_addLine line, addLine_lines_of_false, fun h =>
    ⟨fun r hr => getRoute_addLine_self h hr, fun R hR => ?_, fun L hL => getLine_addLine_of_ne line hL⟩⟩
  have hL : ¬(net.getLine line.id).isSome := by simpa using isNone_getLine_of_addLine h
  rw [addLine_of_new hL] at h ⊢
  split_ifs at h ⊢ with hok
  simp only [getRoute, getLine, lookup_cons_eq, if_pos rfl, Option.some_bind]
  exact ((addRoutes_spec line.routes net ⟨line.id, []⟩).2.2.2 hok).2.2 R hR

theorem addLine_spec_example :
    let net := ((({} : TransportNetwork).addStation ⟨"A"⟩).2.addStation ⟨"B"⟩).2
    let line : Line := ⟨"L", [⟨"R1", ["A", "B"]⟩]⟩
    line.InBounds ∧ ∀ R, R ∉ line.routes.map (·.id) → (net.addLine line).2.getRoute line.id R = none := by
  intro net line
  have hb : line.InBounds := by decide
  exact ⟨hb, ((addLine_spec net line hb).2.2.2 (by decide)).2.1⟩

theorem addRoutes_rejected : ∀ (routes : List Route) (net : TransportNetwork) (li : LineInternal),
    (net.addRoutes li routes).1 = false → ∃ pre route post, routes = pre ++ route :: post ∧
      (net.addRoutes li pre).1 = true ∧
      ¬((net.addRoutes li pre).2.2.routes.lookup route.id = none ∧
        ∀ s ∈ route.stops, ((net.addRoutes li pre).2.1.getStation s).isSome) ∧
      (net.addRoutes li routes).2 = (net.addRoutes li pre).2
  | [], _, _, h => by cases h
  | route :: routes, net, li, h => by
    rw [addRoutes_cons] at h
    by_cases hc : li.routes.lookup route.id = none ∧ ∀ s ∈ route.stops, (net.getStation s).isSome
    · rw [if_pos hc] at h
      obtain ⟨pre, r, post, rfl, hok, hr, heq⟩ := addRoutes_rejected routes _ _ h
      refine ⟨route :: pre, r, post, rfl, ?_, ?_, ?_⟩
      · rwa [addRoutes_cons, if_pos hc]
      · rwa [addRoutes_cons, if_pos hc]
      · rwa [addRoutes_cons, if_pos hc, addRoutes_cons, if_pos hc]
    · exact ⟨[], route, routes, rfl, rfl, hc, by rw [addRoutes_cons, if_neg hc]; rfl⟩

theorem addLine_rejected_eq {line : Line} (h : (net.addLine line).1 = false)
    (hL : (net.getLine line.id).isNone) :
    ∃ pre route post, line.routes = pre ++ route :: post ∧ (net.addLine ⟨line.id, pre⟩).1 = true ∧
      (route.id ∈ pre.map (·.id) ∨ ∃ s ∈ route.stops, (net.getStation s).isNone) ∧
      (net.addLine line).2 = { (net.addLine ⟨line.id, pre⟩).2 with lines := net.lines } := by
  have hL' : ¬(net.getLine line.id).isSome := by simpa using hL
  rw [addLine_of_new hL'] at h ⊢
  split_ifs at h ⊢ with hok
  obtain ⟨pre, route, post, hsplit, hpre, hrefused, heq⟩ :=
    addRoutes_rejected _ _ _ (Bool.eq_false_iff.2 hok)
  obtain ⟨-, hlines, hst, hsucc⟩ := addRoutes_spec pre net ⟨line.id, []⟩
  obtain ⟨-, -, hother⟩ := hsucc hpre
  have hnew : net.addLine ⟨line.id, pre⟩ = (true, { (net.addRoutes ⟨line.id, []⟩ pre).2.1 with
      lines := (line.id, (net.addRoutes ⟨line.id, []⟩ pre).2.2) ::
        (net.addRoutes ⟨line.id, []⟩ pre).2.1.lines }) := by
    rw [@addLine_of_new net ⟨line.id, pre⟩ hL', if_pos hpre]
  refine ⟨pre, route, post, hsplit, by rw [hnew], ?_, ?_⟩
  · by_contra hc
    push_neg at hc
    refine hrefused ⟨by rw [hother route.id hc.1]; rfl, fun s hs => (hst s).trans ?_⟩
    simpa [Option.isSome_iff_ne_none] using hc.2 s hs
  · rw [hnew, heq]
    dsimp only
    rw [← hlines]

theorem addLine_rejected_eq_example :
    let net : TransportNetwork := ((({} : TransportNetwork).addStation ⟨"A"⟩).2.addStation ⟨"B"⟩).2
    let line : Line := ⟨"L", [⟨"R1", ["A", "B"]⟩, ⟨"R2", ["A", "Z"]⟩]⟩
    (net.addLine line).1 = false ∧ (net.getLine line.id).isNone ∧
      ∃ pre route post, line.routes = pre ++ route :: post ∧ (net.addLine ⟨line.id, pre⟩).1 = true ∧
        (route.id ∈ pre.map (·.id) ∨ ∃ s ∈ route.stops, (net.getStation s).isNone) ∧
        (net.addLine line).2 = { (net.addLine ⟨line.id, pre⟩).2 with lines := net.lines } := by
  intro net line
  have h : (net.addLine line).1 = false := by decide
  have hL : (net.getLine line.id).isNone := by decide
  exact ⟨h, hL, addLine_rejected_eq h hL⟩

end TransportNetwork

end NetworkMonitor
