import NetworkMonitor.Network.EdgeIndex

namespace NetworkMonitor

namespace TransportNetwork

variable {net : TransportNetwork}

/-- `e` joins `a` and `b`, in either direction. -/
def Between (net : TransportNetwork) (a b : Id) (e : GraphEdge) : Prop :=
  (e ∈ net.edgesOf a ∧ e.nextStop = b) ∨ (e ∈ net.edgesOf b ∧ e.nextStop = a)

theorem between_comm {a b : Id} {e : GraphEdge} : net.Between a b e ↔ net.Between b a e :=
  or_comm

def TravelTimesSymmetric (net : TransportNetwork) : Prop :=
  ∀ a b e₁ e₂, net.Between a b e₁ → net.Between a b e₂ → e₁.travelTime = e₂.travelTime

def TravelTimesUnset (net : TransportNetwork) : Prop := ∀ s, ∀ e ∈ net.edgesOf s, e.travelTime = 0

theorem TravelTimesUnset.symmetric (h : net.TravelTimesUnset) : net.TravelTimesSymmetric := by
  have hb : ∀ a b e, net.Between a b e → e.travelTime = 0 := by
    rintro a b e (⟨he, -⟩ | ⟨he, -⟩)
    exacts [h a e he, h b e he]
  intro a b e₁ e₂ h₁ h₂
  rw [hb a b e₁ h₁, hb a b e₂ h₂]

/-- The edge `x → e.nextStop` after `SetTravelTime(a, b, t)`. -/
def retime (a b : Id) (t : UInt32) (x : Id) (e : GraphEdge) : GraphEdge :=
  if (x = a ∧ e.nextStop = b) ∨ (x = b ∧ e.nextStop = a) then { e with travelTime := t } else e

theorem edgesOf_modifyStation_map (a s : Id) {f : GraphNode → GraphNode} (g : GraphEdge → GraphEdge)
    (hf : ∀ n, (f n).edges = n.edges.map g) :
    (net.modifyStation a f).edgesOf s = if s = a then (net.edgesOf s).map g else net.edgesOf s := by
  simp only [edgesOf, getStation_modifyStation]
  split
  · cases net.getStation s <;> simp [hf]
  · rfl

theorem edgesOf_setTravelTime (a b : Id) (t : UInt32) (x : Id) :
    (net.setTravelTime a b t).2.edgesOf x =
      if (net.getStation a).isSome ∧ (net.getStation b).isSome then (net.edgesOf x).map (retime a b t x)
      else net.edgesOf x := by
  unfold setTravelTime setTravelTimeFrom
  by_cases hab : (net.getStation a).isSome ∧ (net.getStation b).isSome
  · have hg : ¬((net.getStation a).isNone || (net.getStation b).isNone) := by
      simpa [Option.isNone_iff_eq_none, Option.isSome_iff_ne_none] using hab
    rw [if_neg hg, if_pos hab]
    dsimp only
    rw [edgesOf_modifyStation_map b x _ (fun _ => rfl), edgesOf_modifyStation_map a x _ (fun _ => rfl)]
    by_cases hxa : x = a <;> by_cases hxb : x = b
    · subst hxa; subst hxb
      simp only [if_true, List.map_map]
      congr 1; funext e; by_cases he : e.nextStop = x <;> simp [retime, he]
    · have hne : a ≠ b := hxa ▸ hxb
      rw [if_neg hxb, if_pos hxa]
      congr 1; funext e; by_cases he : e.nextStop = b <;> simp [retime, he, hxa, hne]
    · have hne : b ≠ a := hxb ▸ hxa
      rw [if_pos hxb, if_neg hxa]
      congr 1; funext e; by_cases he : e.nextStop = a <;> simp [retime, he, hxb, hne]
    · rw [if_neg hxb, if_neg hxa]
      symm; exact List.map_id'' (fun e => by simp [retime, hxa, hxb]) _
  · simp only [hab, if_false]
    have hg : ((net.getStation a).isNone || (net.getStation b).isNone) = true := by
      simpa [Option.isNone_iff_eq_none, Option.isSome_iff_ne_none, or_iff_not_imp_left] using hab
    simp [hg]

theorem between_setTravelTime {a b x y : Id} {t : UInt32} {e : GraphEdge}
    (h : (net.setTravelTime a b t).2.Between x y e) :
    ∃ e₀, net.Between x y e₀ ∧
      e.travelTime = if (net.getStation a).isSome ∧ (net.getStation b).isSome ∧
        ((x = a ∧ y = b) ∨ (x = b ∧ y = a)) then t else e₀.travelTime := by
  have key : ∀ u v, e ∈ (net.setTravelTime a b t).2.edgesOf u → e.nextStop = v →
      ∃ e₀ ∈ net.edgesOf u, e₀.nextStop = v ∧ e.travelTime =
        if (net.getStation a).isSome ∧ (net.getStation b).isSome ∧
          ((u = a ∧ v = b) ∨ (u = b ∧ v = a)) then t else e₀.travelTime := by
    intro u v he hv
    rw [edgesOf_setTravelTime] at he
    split at he
    · next hab =>
      obtain ⟨e₀, he₀, rfl⟩ := List.mem_map.1 he
      have hv₀ : e₀.nextStop = v := by rw [← hv]; unfold retime; split <;> rfl
      refine ⟨e₀, he₀, hv₀, ?_⟩
      subst hv₀
      unfold retime
      by_cases hc : (u = a ∧ e₀.nextStop = b) ∨ (u = b ∧ e₀.nextStop = a) <;> simp [hc, hab]
    · next hab => exact ⟨e, he, hv, by rw [if_neg (fun hc => hab ⟨hc.1, hc.2.1⟩)]⟩
  rcases h with ⟨he, hv⟩ | ⟨he, hv⟩
  · obtain ⟨e₀, he₀, hv₀, ht⟩ := key x y he hv
    exact ⟨e₀, .inl ⟨he₀, hv₀⟩, ht⟩
  · obtain ⟨e₀, he₀, hv₀, ht⟩ := key y x he hv
    have hsym : (y = a ∧ x = b) ∨ (y = b ∧ x = a) ↔ (x = a ∧ y = b) ∨ (x = b ∧ y = a) :=
      Or.comm.trans (or_congr and_comm and_comm)
    exact ⟨e₀, .inr ⟨he₀, hv₀⟩, by simpa only [hsym] using ht⟩

theorem TravelTimesSymmetric.setTravelTime (h : net.TravelTimesSymmetric) (a b : Id) (t : UInt32) :
    (net.setTravelTime a b t).2.TravelTimesSymmetric := by
  intro x y e₁ e₂ h₁ h₂
  obtain ⟨f₁, hf₁, ht₁⟩ := between_setTravelTime h₁
  obtain ⟨f₂, hf₂, ht₂⟩ := between_setTravelTime h₂
  rw [ht₁, ht₂]
  split
  · rfl
  · exact h x y f₁ f₂ hf₁ hf₂

theorem TravelTimesSymmetric.of_edgesOf {net' : TransportNetwork} (h : net.TravelTimesSymmetric)
    (he : ∀ s, net'.edgesOf s = net.edgesOf s) : net'.TravelTimesSymmetric := by
  intro a b e₁ e₂ h₁ h₂
  simp only [Between, he] at h₁ h₂
  exact h a b e₁ e₂ h₁ h₂

theorem TravelTimesUnset.of_edgesOf {net' : TransportNetwork} (h : net.TravelTimesUnset)
    (he : ∀ s e, e ∈ net'.edgesOf s → e ∈ net.edgesOf s ∨ e.travelTime = 0) :
    net'.TravelTimesUnset := fun s e hs => (he s e hs).elim (h s e) id

theorem addRouteToLine_new_edges {route : Route} {line line' : LineInternal} {net' : TransportNetwork}
    (h : net.addRouteToLine route line = some (net', line')) (s : Id) (e : GraphEdge)
    (he : e ∈ net'.edgesOf s) : e ∈ net.edgesOf s ∨ e.travelTime = 0 := by
  unfold addRouteToLine at h
  split_ifs at h
  cases h
  change e ∈ (addEdges _ net route.stops).edgesOf s at he
  rw [edgesOf_addEdges, List.mem_append] at he
  rcases he with he | he
  · exact .inl he
  · split at he
    · obtain ⟨b, -, rfl⟩ := List.mem_map.1 he; exact .inr rfl
    · simp at he

theorem addRoutes_new_edges : ∀ (routes : List Route) (net : TransportNetwork) (line : LineInternal)
    (s : Id) (e : GraphEdge), e ∈ (net.addRoutes line routes).2.1.edgesOf s →
      e ∈ net.edgesOf s ∨ e.travelTime = 0
  | [], _, _, _, _, he => .inl he
  | route :: routes, net, line, s, e, he => by
    rw [addRoutes] at he
    split at he
    · exact .inl he
    · next net₁ line₁ h₁ =>
      rcases addRoutes_new_edges routes net₁ line₁ s e he with he | he
      · exact addRouteToLine_new_edges h₁ s e he
      · exact .inr he

theorem TravelTimesUnset.addLine (h : net.TravelTimesUnset) (line : Line) :
    (net.addLine line).2.TravelTimesUnset := by
  unfold TransportNetwork.addLine
  split
  · exact h
  · split
    · next net' li heq =>
      exact h.of_edgesOf fun s e he => by
        have := addRoutes_new_edges line.routes net ⟨line.id, []⟩ s e; rw [heq] at this; exact this he
    · next net' li heq =>
      exact h.of_edgesOf fun s e he => by
        have := addRoutes_new_edges line.routes net ⟨line.id, []⟩ s e; rw [heq] at this; exact this he

theorem getTravelTime_cases {a b : Id} (ha : (net.getStation a).isSome) (hb : (net.getStation b).isSome) :
    (∃ e, net.Between a b e ∧ net.getTravelTime a b = e.travelTime) ∨
      ((∀ e, ¬net.Between a b e) ∧ net.getTravelTime a b = 0) := by
  have hg : ((net.getStation a).isNone || (net.getStation b).isNone) = false := by
    simp [Option.isNone_iff_eq_none, ← Option.isSome_iff_ne_none, ha, hb]
  unfold getTravelTime
  rw [hg, if_neg Bool.false_ne_true]
  split
  · next e hfind =>
    exact .inl ⟨e, .inl ⟨List.mem_of_find?_eq_some hfind, by simpa using List.find?_some hfind⟩, rfl⟩
  · next hnone =>
    split
    · next e hfind =>
      exact .inl ⟨e, .inr ⟨List.mem_of_find?_eq_some hfind, by simpa using List.find?_some hfind⟩, rfl⟩
    · next hnone' =>
      refine .inr ⟨?_, rfl⟩
      rintro e (⟨he, hv⟩ | ⟨he, hv⟩)
      · exact absurd hv (by simpa using List.find?_eq_none.1 hnone e he)
      · exact absurd hv (by simpa using List.find?_eq_none.1 hnone' e he)

theorem travelTimesUnset_of_topology {net : TransportNetwork}
    (h : ReachableVia (fun op => ¬op.SetsTravelTime) {} net) : net.TravelTimesUnset := by
  induction h with
  | refl => intro s e he; simp [edgesOf, getStation] at he
  | step op _ hop _ ih =>
    cases op with
    | addStation st => exact ih.of_edgesOf fun s e he => .inl ((edgesOf_addStation st s) ▸ he)
    | addLine line => exact ih.addLine line
    | setTravelTime a b t => exact absurd trivial hop
    | recordPassengerEvent ev =>
      exact ih.of_edgesOf fun s e he => .inl ((edgesOf_recordPassengerEvent ev s) ▸ he)

theorem travelTimesSymmetric_of_timed {mid net : TransportNetwork}
    (h : ReachableVia (fun op => ¬op.AddsLine) mid net) (hmid : mid.TravelTimesSymmetric) :
    net.TravelTimesSymmetric := by
  induction h with
  | refl => exact hmid
  | step op _ hop _ ih =>
    cases op with
    | addStation st => exact ih.of_edgesOf (edgesOf_addStation st)
    | addLine line => exact absurd trivial hop
    | setTravelTime a b t => exact ih.setTravelTime a b t
    | recordPassengerEvent ev => exact ih.of_edgesOf (edgesOf_recordPassengerEvent ev)

theorem getTravelTime_of_symmetric (h : net.TravelTimesSymmetric) (a b : Id) :
    net.getTravelTime a b = net.getTravelTime b a := by
  by_cases hs : (net.getStation a).isSome ∧ (net.getStation b).isSome
  · rcases getTravelTime_cases hs.1 hs.2 with ⟨e, he, h₁⟩ | ⟨hn, h₁⟩ <;>
      rcases getTravelTime_cases hs.2 hs.1 with ⟨f, hf, h₂⟩ | ⟨hn', h₂⟩
    · rw [h₁, h₂]; exact h a b e f he (between_comm.2 hf)
    · exact absurd (between_comm.1 he) (hn' e)
    · exact absurd (between_comm.1 hf) (hn f)
    · rw [h₁, h₂]
  · have hg : ∀ x y, ¬((net.getStation x).isSome ∧ (net.getStation y).isSome) →
        net.getTravelTime x y = 0 := fun x y hxy => by
      unfold getTravelTime
      rw [if_pos]
      simpa [Option.isNone_iff_eq_none, Option.isSome_iff_ne_none, or_iff_not_imp_left] using hxy
    rw [hg a b hs, hg b a (fun h' => hs ⟨h'.2, h'.1⟩)]

/-- Some edge joins `a` and `b`, in either direction. -/
def joined (net : TransportNetwork) (a b : Id) : Bool :=
  (net.edgesOf a).any (·.nextStop = b) || (net.edgesOf b).any (·.nextStop = a)

theorem joined_iff {a b : Id} : net.joined a b = true ↔ ∃ e, net.Between a b e := by
  simp only [joined, Bool.or_eq_true, List.any_eq_true, decide_eq_true_eq, Between]
  constructor
  · rintro (⟨e, h⟩ | ⟨e, h⟩)
    exacts [⟨e, .inl h⟩, ⟨e, .inr h⟩]
  · rintro ⟨e, h | h⟩
    exacts [.inl ⟨e, h⟩, .inr ⟨e, h⟩]

theorem retime_nextStop (a b : Id) (t : UInt32) (x : Id) (e : GraphEdge) :
    (retime a b t x e).nextStop = e.nextStop := by
  unfold retime; split <;> rfl

theorem find?_map_retime (a b : Id) (t : UInt32) (x y : Id) (l : List GraphEdge) :
    (l.map (retime a b t x)).find? (·.nextStop = y) = (l.find? (·.nextStop = y)).map (retime a b t x) := by
  rw [List.find?_map]
  congr 2
  funext e
  simp [retime_nextStop]

theorem getTravelTime_setTravelTime (a b : Id) (t : UInt32) (x y : Id) :
    (net.setTravelTime a b t).2.getTravelTime x y =
      if (net.getStation a).isSome ∧ (net.getStation b).isSome ∧ ((x = a ∧ y = b) ∨ (x = b ∧ y = a)) ∧
        net.joined x y then t else net.getTravelTime x y := by
  by_cases hab : (net.getStation a).isSome ∧ (net.getStation b).isSome
  · have hg : ∀ s, ((net.setTravelTime a b t).2.getStation s).isNone = (net.getStation s).isNone :=
      fun s => by
        have := @isSome_getStation_setTravelTime net a b t s
        revert this
        cases (net.setTravelTime a b t).2.getStation s <;> cases net.getStation s <;> simp
    have hpair : (x = a ∧ y = b) ∨ (x = b ∧ y = a) →
        ((net.getStation x).isNone || (net.getStation y).isNone) = false := by
      rintro (⟨rfl, rfl⟩ | ⟨rfl, rfl⟩) <;> simp [Option.isNone_iff_eq_none, ← Option.isSome_iff_ne_none, hab]
    simp only [getTravelTime, hg, edgesOf_setTravelTime, hab, and_self, if_true, find?_map_retime,
      true_and]
    by_cases hxy : ((net.getStation x).isNone || (net.getStation y).isNone) = true
    · rw [if_pos hxy, if_pos hxy]
      split_ifs with hc
      · rw [hpair hc.1] at hxy; cases hxy
      · rfl
    · rw [if_neg hxy, if_neg hxy]
      have hpair' : ((y = a ∧ x = b) ∨ (y = b ∧ x = a)) ↔ ((x = a ∧ y = b) ∨ (x = b ∧ y = a)) :=
        Or.comm.trans (or_congr and_comm and_comm)
      cases hfx : (net.edgesOf x).find? (·.nextStop = y) with
      | some e =>
        have hxe := List.find?_some hfx
        have hj : net.joined x y := joined_iff.2 ⟨e, .inl ⟨List.mem_of_find?_eq_some hfx, by simpa using hxe⟩⟩
        simp only [decide_eq_true_eq] at hxe
        simp only [Option.map_some', retime, hxe, hj, and_true]
        split_ifs <;> rfl
      | none =>
        cases hfy : (net.edgesOf y).find? (·.nextStop = x) with
        | some e =>
          have hye := List.find?_some hfy
          have hj : net.joined x y := joined_iff.2 ⟨e, .inr ⟨List.mem_of_find?_eq_some hfy, by simpa using hye⟩⟩
          simp only [decide_eq_true_eq] at hye
          simp only [Option.map_some', Option.map_none', retime, hye, hj, and_true, hpair']
          split_ifs <;> rfl
        | none =>
          have hj : net.joined x y = false := by
            have h₁ := List.find?_eq_none.1 hfx
            have h₂ := List.find?_eq_none.1 hfy
            simp only [decide_eq_true_eq] at h₁ h₂
            simpa [joined] using ⟨h₁, h₂⟩
          simp [hj]
  · have hnone : ((net.getStation a).isNone || (net.getStation b).isNone) = true := by
      simpa [Option.isNone_iff_eq_none, Option.isSome_iff_ne_none, or_iff_not_imp_left] using hab
    simp only [setTravelTime, hnone, if_true]
    rw [if_neg fun h => hab ⟨h.1, h.2.1⟩]

theorem getStation_modifyStation_of_fixed {a : Id} {f : GraphNode → GraphNode}
    (hf : ∀ n, net.getStation a = some n → f n = n) (s : Id) :
    (net.modifyStation a f).getStation s = net.getStation s := by
  rw [getStation_modifyStation]
  split
  · next hs =>
    subst hs
    cases h : net.getStation s with
    | none => rfl
    | some n => simp [hf n h]
  · rfl

theorem setTravelTimeFrom_getStation_of_any {a b : Id} {t : UInt32}
    (h : (net.edgesOf a).any (·.nextStop = b) = false) (s : Id) :
    (net.setTravelTimeFrom t a b).2.getStation s = net.getStation s := by
  refine getStation_modifyStation_of_fixed (fun n hn => ?_) s
  have hno : ∀ e ∈ n.edges, ¬e.nextStop = b := by
    simpa [edgesOf, hn] using h
  have hid : n.edges.map (fun e => if e.nextStop = b then { e with travelTime := t } else e) =
      n.edges := (List.map_congr_left fun e he => if_neg (hno e he)).trans (List.map_id _)
  simp only [hid]

theorem any_nextStop_of_shape {l l' : List GraphEdge} (h : l'.map edgeShape = l.map edgeShape)
    (d : Id) : l'.any (·.nextStop = d) = l.any (·.nextStop = d) := by
  have key : ∀ l : List GraphEdge, l.any (·.nextStop = d) = (l.map edgeShape).any (·.2 = d) :=
    fun l => by induction l <;> simp_all [edgeShape]
  rw [key, key, h]

theorem setTravelTimeFrom_edgesOf_any (t : UInt32) (a b c d : Id) :
    ((net.setTravelTimeFrom t a b).2.edgesOf c).any (·.nextStop = d) = (net.edgesOf c).any (·.nextStop = d) :=
  any_nextStop_of_shape (setTravelTimeFrom_shape t a b c) d

theorem setTravelTime_fst (a b : Id) (t : UInt32) :
    (net.setTravelTime a b t).1 =
      ((net.getStation a).isSome && (net.getStation b).isSome && net.joined a b) := by
  unfold setTravelTime
  split
  · next h =>
    simp only [Bool.or_eq_true, Option.isNone_iff_eq_none] at h
    rcases h with h | h <;> simp [h]
  · next h =>
    simp only [Bool.or_eq_true, Option.isNone_iff_eq_none, not_or] at h
    simp only [← Option.isSome_iff_ne_none] at h
    simp only [h.1, h.2, Bool.true_and, joined]
    show ((net.edgesOf a).any _ || ((net.setTravelTimeFrom t a b).2.edgesOf b).any _) = _
    rw [setTravelTimeFrom_edgesOf_any]

theorem setTravelTime_getStation_of_fst {a b : Id} {t : UInt32} (h : (net.setTravelTime a b t).1 = false)
    (s : Id) : (net.setTravelTime a b t).2.getStation s = net.getStation s := by
  unfold setTravelTime at h ⊢
  split
  · rfl
  · next hc =>
    rw [if_neg hc] at h
    simp only [Bool.or_eq_false_iff] at h
    exact (setTravelTimeFrom_getStation_of_any h.2 s).trans (setTravelTimeFrom_getStation_of_any h.1 s)

theorem joined_comm (a b : Id) : net.joined a b = net.joined b a := Bool.or_comm _ _

theorem joined_setTravelTime (a b : Id) (t : UInt32) (x y : Id) :
    (net.setTravelTime a b t).2.joined x y = net.joined x y := by
  simp only [joined, any_nextStop_of_shape (setTravelTime_shape a b t _)]

theorem TravelTimesUnset.getTravelTime (h : net.TravelTimesUnset) (a b : Id) : net.getTravelTime a b = 0 := by
  by_cases hs : (net.getStation a).isSome ∧ (net.getStation b).isSome
  · rcases getTravelTime_cases hs.1 hs.2 with ⟨e, ⟨he, -⟩ | ⟨he, -⟩, h₁⟩ | ⟨-, h₁⟩
    · exact h₁.trans (h a e he)
    · exact h₁.trans (h b e he)
    · exact h₁
  · unfold TransportNetwork.getTravelTime
    rw [if_pos]
    simpa [Option.isNone_iff_eq_none, Option.isSome_iff_ne_none, or_iff_not_imp_left] using hs

theorem setTravelTime_spec (a b : Id) (t : UInt32) :
    ((net.setTravelTime a b t).1 = true ↔
      (net.getStation a).isSome ∧ (net.getStation b).isSome ∧ ∃ e, net.Between a b e) ∧
    (∀ s, ((net.setTravelTime a b t).2.edgesOf s).map edgeShape = (net.edgesOf s).map edgeShape) ∧
    ((net.setTravelTime a b t).1 = true →
      (net.setTravelTime a b t).2.getTravelTime a b = t ∧
        (net.setTravelTime a b t).2.getTravelTime b a = t) ∧
    (∀ x y, ¬((x = a ∧ y = b) ∨ (x = b ∧ y = a)) →
      (net.setTravelTime a b t).2.getTravelTime x y = net.getTravelTime x y) ∧
    ((net.setTravelTime a b t).1 = false →
      ∀ s, (net.setTravelTime a b t).2.getStation s = net.getStation s) := by
  have hfst : (net.setTravelTime a b t).1 = true ↔
      (net.getStation a).isSome ∧ (net.getStation b).isSome ∧ net.joined a b := by
    rw [setTravelTime_fst]; simp only [Bool.and_eq_true, and_assoc]
  refine ⟨hfst.trans (by rw [joined_iff]), setTravelTime_shape a b t, fun h => ?_,
    fun x y hxy => ?_, setTravelTime_getStation_of_fst⟩
  · obtain ⟨ha, hb, hj⟩ := hfst.1 h
    rw [getTravelTime_setTravelTime, getTravelTime_setTravelTime,
      if_pos ⟨ha, hb, .inl ⟨rfl, rfl⟩, hj⟩, if_pos ⟨ha, hb, .inr ⟨rfl, rfl⟩, joined_comm a b ▸ hj⟩]
    exact ⟨rfl, rfl⟩
  · rw [getTravelTime_setTravelTime, if_neg fun h => hxy h.2.2.1]

/-- Every edge list rewritten by `g`, which may read the station the edge leaves. -/
def mapEdges (net : TransportNetwork) (g : Id → GraphEdge → GraphEdge) : TransportNetwork :=
  { net with stations := net.stations.map fun p => (p.1, { p.2 with edges := p.2.edges.map (g p.1) }) }

theorem mapEdges_mapEdges (g h : Id → GraphEdge → GraphEdge) :
    (net.mapEdges h).mapEdges g = net.mapEdges fun k => g k ∘ h k := by
  simp [mapEdges, Function.comp_def]

theorem modifyStation_eq_mapEdges (x : Id) (g : GraphEdge → GraphEdge) :
    net.modifyStation x (fun n => { n with edges := n.edges.map g }) =
      net.mapEdges fun k e => if k = x then g e else e := by
  simp only [modifyStation, mapEdges, TransportNetwork.mk.injEq, and_true]
  refine List.map_congr_left fun p _ => ?_
  by_cases hp : p.1 = x <;> simp [hp]

theorem setTravelTime_eq_mapEdges (a b : Id) (t : UInt32) :
    (net.setTravelTime a b t).2 =
      if (net.getStation a).isSome ∧ (net.getStation b).isSome then net.mapEdges (retime a b t)
      else net := by
  unfold setTravelTime
  by_cases hab : (net.getStation a).isSome ∧ (net.getStation b).isSome
  · have hg : ¬((net.getStation a).isNone || (net.getStation b).isNone) := by
      simpa [Option.isNone_iff_eq_none, Option.isSome_iff_ne_none] using hab
    rw [if_neg hg, if_pos hab]
    dsimp only [setTravelTimeFrom]
    rw [modifyStation_eq_mapEdges, modifyStation_eq_mapEdges, mapEdges_mapEdges]
    congr 1; funext k e
    by_cases hka : k = a <;> by_cases hkb : k = b
    · subst hka hkb; by_cases h : e.nextStop = k <;> simp [retime, h]
    · subst hka; simp [retime, hkb]
    · subst hkb; simp [retime, hka]
    · simp [retime, hka, hkb]
  · have hg : ((net.getStation a).isNone || (net.getStation b).isNone) = true := by
      simpa [Option.isNone_iff_eq_none, Option.isSome_iff_ne_none, or_iff_not_imp_left] using hab
    simp [hg, hab]

theorem retime_retime_of_same {a b c d : Id} {t u : UInt32} (h : (c = a ∧ d = b) ∨ (c = b ∧ d = a))
    (k : Id) (e : GraphEdge) : retime c d u k (retime a b t k e) = retime c d u k e := by
  by_cases h₁ : (k = a ∧ e.nextStop = b) ∨ (k = b ∧ e.nextStop = a)
  · have h₂ : (k = c ∧ e.nextStop = d) ∨ (k = d ∧ e.nextStop = c) := by
      rcases h with ⟨rfl, rfl⟩ | ⟨rfl, rfl⟩ <;> tauto
    simp [retime, h₁, h₂]
  · rw [show retime a b t k e = e from if_neg h₁]

theorem retime_comm {a b c d : Id} {t u : UInt32} (h : ¬((c = a ∧ d = b) ∨ (c = b ∧ d = a)))
    (k : Id) (e : GraphEdge) :
    retime c d u k (retime a b t k e) = retime a b t k (retime c d u k e) := by
  by_cases h₁ : (k = a ∧ e.nextStop = b) ∨ (k = b ∧ e.nextStop = a) <;>
    by_cases h₂ : (k = c ∧ e.nextStop = d) ∨ (k = d ∧ e.nextStop = c)
  · exfalso
    rcases h₁ with ⟨rfl, h₁⟩ | ⟨rfl, h₁⟩ <;> rcases h₂ with ⟨h₂, h₃⟩ | ⟨h₂, h₃⟩ <;> simp_all
  all_goals simp [retime, h₁, h₂]

theorem setTravelTime_setTravelTime (a b c d : Id) (t u : UInt32) :
    ((net.setTravelTime a b t).2.setTravelTime c d u).1 = (net.setTravelTime c d u).1 ∧
    ((net.setTravelTime a b t).2.setTravelTime c d u).2 =
      if (c = a ∧ d = b) ∨ (c = b ∧ d = a) then (net.setTravelTime c d u).2
      else ((net.setTravelTime c d u).2.setTravelTime a b t).2 := by
  refine ⟨by simp only [setTravelTime_fst, isSome_getStation_setTravelTime, joined_setTravelTime], ?_⟩
  have e₁ := @setTravelTime_eq_mapEdges (net.setTravelTime a b t).2 c d u
  have e₂ := @setTravelTime_eq_mapEdges (net.setTravelTime c d u).2 a b t
  simp only [isSome_getStation_setTravelTime] at e₁ e₂
  rw [e₁, e₂, setTravelTime_eq_mapEdges a b t, setTravelTime_eq_mapEdges c d u]
  by_cases hsame : (c = a ∧ d = b) ∨ (c = b ∧ d = a)
  · have hP : ((net.getStation c).isSome ∧ (net.getStation d).isSome) ↔
        ((net.getStation a).isSome ∧ (net.getStation b).isSome) := by
      rcases hsame with ⟨rfl, rfl⟩ | ⟨rfl, rfl⟩
      · rfl
      · exact and_comm
    rw [if_pos hsame]
    by_cases hab : (net.getStation a).isSome ∧ (net.getStation b).isSome
    · simp only [if_pos hab, if_pos (hP.2 hab), mapEdges_mapEdges]
      congr 1; funext k e; exact retime_retime_of_same hsame k e
    · simp only [if_neg hab, if_neg (mt hP.1 hab)]
  · rw [if_neg hsame]
    by_cases hab : (net.getStation a).isSome ∧ (net.getStation b).isSome <;>
      by_cases hcd : (net.getStation c).isSome ∧ (net.getStation d).isSome <;>
      simp only [hab, hcd, and_self, if_true, if_false, mapEdges_mapEdges]
    congr 1; funext k e; exact retime_comm hsame k e

/-- `SetTravelTime` after an `AddLine` that joins the same two stations: the new edge keeps
travel time 0, and the two directions of `GetTravelTime` disagree. -/
theorem travel_times_diverge_after_late_line :
    let net : TransportNetwork := run {} [.addStation ⟨"A"⟩, .addStation ⟨"B"⟩,
      .addLine ⟨"L1", [⟨"R1", ["A", "B"]⟩]⟩, .setTravelTime "A" "B" 7, .addLine ⟨"L2", [⟨"R2", ["B", "A"]⟩]⟩]
    Reachable net ∧ net.getTravelTime "A" "B" = 7 ∧ net.getTravelTime "B" "A" = 0 :=
  ⟨Reachable.empty.run (by decide), by decide, by decide⟩

theorem travel_times_symmetric_after_topology {mid net : TransportNetwork}
    (hmid : ReachableVia (fun op => ¬op.SetsTravelTime) {} mid)
    (hnet : ReachableVia (fun op => ¬op.AddsLine) mid net) :
    (∀ a b e₁ e₂, net.Between a b e₁ → net.Between a b e₂ → e₁.travelTime = e₂.travelTime) ∧
    (∀ a b, net.getTravelTime a b = net.getTravelTime b a) ∧
    ∀ a b e, net.Between a b e → net.getTravelTime a b = e.travelTime := by
  have hsym := travelTimesSymmetric_of_timed hnet (travelTimesUnset_of_topology hmid).symmetric
  have hc := consistent_of_reachable (hnet.reachable (hmid.reachable .empty))
  refine ⟨hsym, getTravelTime_of_symmetric hsym, fun a b e he => ?_⟩
  have hst : ∀ x y, (e ∈ net.edgesOf x ∧ e.nextStop = y) →
      (net.getStation x).isSome ∧ (net.getStation y).isSome := fun x y ⟨hx, hy⟩ =>
    ⟨isSome_of_mem_edgesOf hx, hy ▸ hc.2.nextStop_isSome hx⟩
  have hab : (net.getStation a).isSome ∧ (net.getStation b).isSome := by
    rcases he with h' | h'
    · exact hst a b h'
    · exact (hst b a h').symm
  rcases getTravelTime_cases hab.1 hab.2 with ⟨f, hf, h₁⟩ | ⟨hn, -⟩
  · rw [h₁]; exact hsym a b f e hf he
  · exact absurd he (hn e)

theorem travel_times_symmetric_after_topology_example :
    let mid := run {} [.addStation ⟨"A"⟩, .addStation ⟨"B"⟩, .addLine ⟨"L1", [⟨"R1", ["A", "B"]⟩]⟩,
      .addLine ⟨"L2", [⟨"R2", ["B", "A"]⟩]⟩]
    let net := run mid [.setTravelTime "A" "B" 7]
    ReachableVia (fun op => ¬op.SetsTravelTime) {} mid ∧
      ReachableVia (fun op => ¬op.AddsLine) mid net ∧ net.getTravelTime "B" "A" = 7 :=
  have hmid := ReachableVia.refl.run (by decide) (by decide)
  have hnet := ReachableVia.refl.run (by decide) (by decide)
  ⟨hmid, hnet, (travel_times_symmetric_after_topology hmid hnet).2.1 "A" "B" ▸ by decide⟩

end TransportNetwork

end NetworkMonitor
