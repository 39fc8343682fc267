import NetworkMonitor.Path.Termination

namespace NetworkMonitor

namespace SearchState

variable (st : SearchState) (net : TransportNetwork) (stationB : Id)

/-- `P` was expanded at distance `v`: each neighbour is recorded within `v` plus the edge's
weight. -/
def Settled (P : PathStop) (v : UInt32) : Prop :=
  ∀ j e, (net.edgesOf P.node)[j]? = some e →
    ∃ v', st.distFromA.lookup (P.next j e) = some v' ∧ v'.toNat ≤ v.toNat + P.weight e

/-- A recorded stop is still in the heap at its distance, is at B, or has been expanded. -/
def Closed (P : PathStop) (v : UInt32) : Prop :=
  (P, v) ∈ st.nodesToVisit ∨ P.node = stationB ∨ st.Settled net P v

/-- The previous stop of `P`: recorded, not at B, one edge before `P`, at most `v` minus that
edge's weight away, and strictly before `P` in distance, then in `rank`. -/
def Linked (rank : PathStop → Nat) (P : PathStop) (v : UInt32) : Prop :=
  ∃ Q vQ j e, st.previousStop.lookup P = some Q ∧ st.distFromA.lookup Q = some vQ ∧
    Q.node ≠ stationB ∧ (net.edgesOf Q.node)[j]? = some e ∧ P = Q.next j e ∧
    vQ.toNat + Q.weight e ≤ v.toNat ∧ (vQ.toNat < v.toNat ∨ rank Q < rank P)

/-- What holds of the search at every turn of the loop, apart from the stop being expanded. -/
structure Core (stationA : Id) (bound : Nat) : Prop where
  source : st.distFromA.lookup ⟨stationA, none⟩ = some 0
  nodup : (st.distFromA.map (·.1)).Nodup
  queued : ∀ x ∈ st.nodesToVisit, ∃ v, st.distFromA.lookup x.1 = some v ∧ v.toNat ≤ x.2.toNat
  linked : ∃ rank, ∀ P v, st.distFromA.lookup P = some v → P ≠ ⟨stationA, none⟩ →
    st.Linked net stationB rank P v
  bounded : ∀ P v, st.distFromA.lookup P = some v → v.toNat ≤ 2 * bound
  queue_bounded : ∀ x ∈ st.nodesToVisit, x.2.toNat ≤ 2 * bound

/-- The invariant of the search loop. -/
structure Inv (stationA : Id) (bound : Nat) extends st.Core net stationB stationA bound : Prop where
  closed : ∀ P v, st.distFromA.lookup P = some v → st.Closed net stationB P v

/-- The invariant of the `for` loop expanding `P` at distance `d`, the edges before index `k`
done. -/
structure Expanding (stationA : Id) (P : PathStop) (d : UInt32) (k : Nat) : Prop where
  core : st.Core net stationB stationA net.edgeCostSum
  self : st.distFromA.lookup P = some d
  closed : ∀ R v, st.distFromA.lookup R = some v → R ≠ P → st.Closed net stationB R v
  done : ∀ i e, i < k → (net.edgesOf P.node)[i]? = some e →
    ∃ v', st.distFromA.lookup (P.next i e) = some v' ∧ v'.toNat ≤ d.toNat + P.weight e

variable {st net stationB} {stationA : Id} {bound : Nat}

theorem frontier (hclosed : ∀ P v, st.distFromA.lookup P = some v → st.Closed net stationB P v)
    {X Q : PathStop} {ptrs : List EdgePtr} {c : Nat} (hw : net.Walk stationB X Q ptrs c) :
    ∀ {vX : UInt32}, st.distFromA.lookup X = some vX →
      (∃ Y vY, (Y, vY) ∈ st.nodesToVisit ∧ vY.toNat ≤ vX.toNat + c) ∨
        ∃ vQ, st.distFromA.lookup Q = some vQ ∧ vQ.toNat ≤ vX.toNat + c := by
  induction hw with
  | nil P => intro vX h; exact .inr ⟨vX, h, by omega⟩
  | @cons X Q ptrs c j e hXB he _ ih =>
    intro vX hX
    rcases hclosed X vX hX with hq | hB | hs
    · exact .inl ⟨X, vX, hq, by omega⟩
    · exact absurd hB hXB
    · obtain ⟨v', hv', hle⟩ := hs j e he
      rcases ih hv' with ⟨Y, vY, hY, hle'⟩ | ⟨vQ, hQ, hle'⟩
      · exact .inl ⟨Y, vY, hY, by omega⟩
      · exact .inr ⟨vQ, hQ, by omega⟩

theorem chain_walk {rank : PathStop → Nat}
    (hlink : ∀ P v, st.distFromA.lookup P = some v → P ≠ ⟨stationA, none⟩ →
      st.Linked net stationB rank P v)
    (P : PathStop) (v : UInt32) (hv : st.distFromA.lookup P = some v) :
    ∃ ptrs c, net.Walk stationB ⟨stationA, none⟩ P ptrs c ∧ c ≤ v.toNat ∧ ptrs.Nodup ∧
      ∀ p ∈ ptrs, ∃ w, st.distFromA.lookup ⟨p.edge.nextStop, some p⟩ = some w ∧
        (w.toNat < v.toNat ∨ (w.toNat = v.toNat ∧ rank ⟨p.edge.nextStop, some p⟩ ≤ rank P)) := by
  by_cases hP : P = ⟨stationA, none⟩
  · subst hP; exact ⟨[], 0, .nil _, Nat.zero_le _, List.nodup_nil, by simp⟩
  · obtain ⟨Q, vQ, j, e, -, hQ, hQB, he, rfl, hle, hlt⟩ := hlink P v hv hP
    obtain ⟨ptrs, c, hw, hc, hnd, hall⟩ := chain_walk hlink Q vQ hQ
    refine ⟨ptrs ++ [⟨Q.node, j, e⟩], c + Q.weight e, hw.snoc hQB he, by omega,
      List.nodup_append.2 ⟨hnd, List.nodup_singleton _, fun p hp hp' => ?_⟩, fun p hp => ?_⟩
    · rw [List.mem_singleton] at hp'
      subst hp'
      obtain ⟨w, hw', hcmp⟩ := hall _ hp
      have hwv : w = v := Option.some.inj (hw'.symm.trans hv)
      subst hwv
      simp only [PathStop.next] at hlt hcmp
      omega
    · rcases List.mem_append.1 hp with hp | hp
      · obtain ⟨w, hw', hcmp⟩ := hall p hp
        exact ⟨w, hw', by omega⟩
      · rw [List.mem_singleton] at hp
        subst hp
        exact .inr ⟨rfl, le_refl _⟩ |> fun h => ⟨v, hv, h⟩
termination_by (v.toNat, rank P)
decreasing_by exact Prod.lex_def.2 (by dsimp only; omega)

theorem Inv.fresh_le (hinv : st.Inv net stationB stationA bound) {P : PathStop} {d : UInt32}
    (hP : st.distFromA.lookup P = some d) (hmin : ∀ x ∈ st.nodesToVisit, d ≤ x.2) :
    d.toNat ≤ net.edgeCostSum := by
  obtain ⟨rank, hlink⟩ := hinv.linked
  obtain ⟨ptrs, c, hw, -, hnd, -⟩ := chain_walk hlink P d hP
  have hS := hw.cost_le_edgeCostSum hnd
  rcases frontier hinv.closed hw hinv.source with ⟨Y, vY, hY, hle⟩ | ⟨vQ, hQ, hle⟩
  · have : d.toNat ≤ vY.toNat := hmin _ hY
    simp only [UInt32.toNat_zero] at hle
    omega
  · rw [hP] at hQ
    cases hQ
    simp only [UInt32.toNat_zero] at hle
    omega

/-- Distances only decrease, and a recorded stop stays recorded. -/
def Improves (st' : SearchState) : Prop :=
  ∀ X w, st.distFromA.lookup X = some w → ∃ w', st'.distFromA.lookup X = some w' ∧ w'.toNat ≤ w.toNat

theorem Settled.mono {st' : SearchState} {P : PathStop} {v : UInt32}
    (h : st.Settled net P v) (himp : st.Improves st') : st'.Settled net P v := fun j e he => by
  obtain ⟨w, hw, hle⟩ := h j e he
  obtain ⟨w', hw', hle'⟩ := himp _ _ hw
  exact ⟨w', hw', by omega⟩

theorem improves_record {P' Q : PathStop} {c : UInt32}
    (hlt : ∀ old, st.distFromA.lookup P' = some old → c < old) : st.Improves (st.record P' Q c) := by
  intro X w hw
  simp only [record_distFromA, lookup_assign]
  split
  · next hX => subst hX; exact ⟨c, rfl, Nat.le_of_lt (hlt w hw)⟩
  · exact ⟨w, hw, le_refl _⟩

variable {P : PathStop} {d : UInt32} {j : Nat} {e : GraphEdge}

theorem next_ne_source : P.next j e ≠ ⟨stationA, none⟩ := by simp [PathStop.next]

theorem Core.record (hcore : st.Core net stationB stationA net.edgeCostSum)
    (hP : st.distFromA.lookup P = some d) (hPB : P.node ≠ stationB)
    (he : (net.edgesOf P.node)[j]? = some e) {c : UInt32} (hc : c.toNat = d.toNat + P.weight e)
    (hcb : c.toNat ≤ 2 * net.edgeCostSum)
    (hlt : ∀ old, st.distFromA.lookup (P.next j e) = some old → c < old) :
    (st.record (P.next j e) P c).Core net stationB stationA net.edgeCostSum := by
  have hne : P.next j e ≠ P := fun h => by
    have := (uint32_lt_iff _ _).1 (hlt d (by rw [h]; exact hP)); omega
  obtain ⟨rank, hlink⟩ := hcore.linked
  refine ⟨?_, nodup_assign hcore.nodup _ _, fun x hx => ?_, ⟨fun X => if X = P.next j e then
    rank P + 1 else rank X, fun X v hv hX0 => ?_⟩, fun X v hv => ?_, fun x hx => ?_⟩
  · simp only [record_distFromA, lookup_assign, if_neg (next_ne_source : P.next j e ≠ ⟨stationA, none⟩).symm]
    exact hcore.source
  · simp only [record_nodesToVisit, List.mem_append, List.mem_singleton] at hx
    simp only [record_distFromA, lookup_assign]
    rcases hx with hx | rfl
    · obtain ⟨v, hv, hle⟩ := hcore.queued x hx
      split
      · next h1 => have := (uint32_lt_iff _ _).1 (hlt v (h1 ▸ hv)); exact ⟨c, rfl, by omega⟩
      · exact ⟨v, hv, hle⟩
    · exact ⟨c, by simp, le_refl _⟩
  · simp only [record_distFromA, lookup_assign] at hv
    split at hv
    · next hX =>
      cases hv
      subst hX
      refine ⟨P, d, j, e, by simp [lookup_assign], by simp [lookup_assign, Ne.symm hne, hP], hPB,
        he, rfl, by omega, .inr ?_⟩
      simp [Ne.symm hne]
    · next hX =>
      obtain ⟨Q, vQ, i, f, hprev, hQ, hQB, hf, rfl, hle, hord⟩ := hlink _ v hv hX0
      by_cases hQP : Q = P.next j e
      · subst hQP
        have := (uint32_lt_iff _ _).1 (hlt vQ hQ)
        exact ⟨P.next j e, c, i, f, by simp [lookup_assign, hX, hprev], by simp [lookup_assign],
          hQB, hf, rfl, by omega, .inl (by omega)⟩
      · exact ⟨Q, vQ, i, f, by simp [lookup_assign, hX, hprev], by simp [lookup_assign, hQP, hQ],
          hQB, hf, rfl, hle, by simpa [hQP, hX] using hord⟩
  · simp only [record_distFromA, lookup_assign] at hv
    split at hv
    · cases hv; exact hcb
    · exact hcore.bounded X v hv
  · simp only [record_nodesToVisit, List.mem_append, List.mem_singleton] at hx
    rcases hx with hx | rfl
    · exact hcore.queue_bounded x hx
    · exact hcb

section expand

variable (hPB : P.node ≠ stationB) (hd : d.toNat ≤ net.edgeCostSum)
  (hS : net.edgeCostSum < 2 ^ 30)
include hPB hd hS

theorem Expanding.relaxEdge {k : Nat} (h : st.Expanding net stationB stationA P d k)
    (he : (net.edgesOf P.node)[k]? = some e) :
    (st.relaxEdge P d k e).Expanding net stationB stationA P d (k + 1) := by
  have hcost := net.edge_cost_le he
  have hw := P.weight_le e
  have hc := P.candidate_toNat d e (by omega)
  rcases relaxEdge_cases P d st k e with ⟨heq, hlt⟩ | ⟨heq, old, hold, hle⟩ <;> rw [heq]
  · have hne : P.next k e ≠ P := fun hn => by
      have := (uint32_lt_iff _ _).1 (hlt d (by rw [hn]; exact h.self)); omega
    have himp := improves_record (Q := P) hlt
    refine ⟨h.core.record h.self hPB he hc (by omega) hlt, ?_, fun R v hv hR => ?_,
      fun i f hi hf => ?_⟩
    · simpa [lookup_assign, Ne.symm hne] using h.self
    · simp only [record_distFromA, lookup_assign] at hv
      split at hv
      · next hRP => cases hv; subst hRP; exact .inl (by simp)
      · rcases h.closed R v hv hR with hq | hB | hs
        · exact .inl (by simp [hq])
        · exact .inr (.inl hB)
        · exact .inr (.inr (hs.mono himp))
    · rcases Nat.lt_succ_iff_lt_or_eq.1 hi with hi | rfl
      · obtain ⟨v', hv', hle'⟩ := h.done i f hi hf
        obtain ⟨w', hw', hle''⟩ := himp _ _ hv'
        exact ⟨w', hw', by omega⟩
      · rw [he] at hf
        cases hf
        exact ⟨if P.changesRoute e then d + e.travelTime + 5 else d + e.travelTime,
          by simp only [record_distFromA, lookup_assign, if_true], by omega⟩
  · refine ⟨h.core, h.self, h.closed, fun i f hi hf => ?_⟩
    rcases Nat.lt_succ_iff_lt_or_eq.1 hi with hi | rfl
    · exact h.done i f hi hf
    · rw [he] at hf
      cases hf
      exact ⟨old, hold, by have := (uint32_le_iff _ _).1 hle; omega⟩

theorem Expanding.relaxFrom : ∀ (edges : List GraphEdge) (k : Nat) (st : SearchState),
    st.Expanding net stationB stationA P d k →
    (∀ i f, edges[i]? = some f → (net.edgesOf P.node)[k + i]? = some f) →
    (st.relaxFrom P d k edges).Expanding net stationB stationA P d (k + edges.length)
  | [], k, st, h, _ => h
  | f :: edges, k, st, h, hedges => by
    have h' := Expanding.relaxEdge hPB hd hS h (by simpa using hedges 0 f (by simp))
    have := Expanding.relaxFrom edges (k + 1) _ h' fun i g hg => by
      simpa [Nat.add_assoc, Nat.add_comm 1 i] using hedges (i + 1) g (by simpa using hg)
    simpa [SearchState.relaxFrom, Nat.add_assoc, Nat.add_comm 1 edges.length] using this

end expand

theorem relaxFrom_eq_self : ∀ (edges : List GraphEdge) (k : Nat) (st : SearchState),
    (∀ i f, edges[i]? = some f → ∃ old, st.distFromA.lookup (P.next (k + i) f) = some old ∧
      old ≤ (if P.changesRoute f then d + f.travelTime + 5 else d + f.travelTime)) →
    st.relaxFrom P d k edges = st
  | [], _, _, _ => rfl
  | f :: edges, k, st, h => by
    have hf : st.relaxEdge P d k f = st := by
      obtain ⟨old, hold, hle⟩ := h 0 f (by simp)
      rcases relaxEdge_cases P d st k f with ⟨-, hlt⟩ | ⟨heq, -⟩
      · have := (uint32_lt_iff _ _).1 (hlt old hold)
        have := (uint32_le_iff _ _).1 hle
        omega
      · exact heq
    simp only [relaxFrom, hf]
    exact relaxFrom_eq_self edges (k + 1) st fun i g hg => by
      simpa [Nat.add_assoc, Nat.add_comm 1 i] using h (i + 1) g (by simpa using hg)

section pop

variable {pre post : List (PathStop × UInt32)}
  (hq : st.nodesToVisit = pre ++ (P, d) :: post)
include hq

theorem Core.pop (hcore : st.Core net stationB stationA net.edgeCostSum) :
    ({ st with nodesToVisit := pre ++ post } : SearchState).Core net stationB stationA
      net.edgeCostSum := by
  have hsub : ∀ x ∈ pre ++ post, x ∈ st.nodesToVisit := fun x hx => by
    rw [hq]; rcases List.mem_append.1 hx with h | h <;> simp [h]
  exact ⟨hcore.source, hcore.nodup, fun x hx => hcore.queued x (hsub x hx), hcore.linked,
    hcore.bounded, fun x hx => hcore.queue_bounded x (hsub x hx)⟩

theorem Closed.pop {R : PathStop} {w : UInt32} (h : st.Closed net stationB R w)
    (hne : (R, w) ≠ (P, d)) :
    ({ st with nodesToVisit := pre ++ post } : SearchState).Closed net stationB R w := by
  rcases h with h | h | h
  · rw [hq] at h
    rcases List.mem_append.1 h with h | h
    · exact .inl (List.mem_append_left _ h)
    · rcases List.mem_cons.1 h with h | h
      · exact absurd h hne
      · exact .inl (List.mem_append_right _ h)
  · exact .inr (.inl h)
  · exact .inr (.inr h)

end pop

section stale

variable {pre post : List (PathStop × UInt32)} {v : UInt32}
  (hmin : ∀ x ∈ st.nodesToVisit, d ≤ x.2) (hv : st.distFromA.lookup P = some v) (hlt : v < d)
include hmin hv hlt

theorem Inv.stale_settled (hinv : st.Inv net stationB stationA bound) :
    P.node = stationB ∨ st.Settled net P v := by
  rcases hinv.closed P v hv with h | h
  · exact absurd (hmin _ h) (UInt32.not_le.2 hlt)
  · exact h

theorem Inv.visit_stale (hinv : st.Inv net stationB stationA net.edgeCostSum)
    (hS : net.edgeCostSum < 2 ^ 30) (hq : st.nodesToVisit = pre ++ (P, d) :: post) :
    net.visit stationB { st with nodesToVisit := pre ++ post } P d =
      { st with nodesToVisit := pre ++ post } := by
  unfold TransportNetwork.visit
  split_ifs with hB
  · rfl
  · have hs := (hinv.stale_settled hmin hv hlt).resolve_left hB
    have hdb : d.toNat ≤ 2 * net.edgeCostSum := hinv.queue_bounded (P, d) (by rw [hq]; simp)
    have hvd := (uint32_lt_iff _ _).1 hlt
    refine relaxFrom_eq_self _ 0 _ fun i f hf => ?_
    obtain ⟨old, hold, hle⟩ := hs i f (by simpa using hf)
    have hcost := net.edge_cost_le (by simpa using hf)
    have hw := P.weight_le f
    have hc := P.candidate_toNat d f (by omega)
    exact ⟨old, by simpa using hold, (uint32_le_iff _ _).2 (by omega)⟩

end stale

theorem Inv.step (hinv : st.Inv net stationB stationA net.edgeCostSum)
    (hS : net.edgeCostSum < 2 ^ 30) {st' : SearchState} (hstep : net.SearchStep stationB st st') :
    st'.Inv net stationB stationA net.edgeCostSum := by
  obtain ⟨pre, post, P, d, hq, hmin⟩ := hstep
  obtain ⟨v, hv, hvd⟩ := hinv.queued (P, d) (by rw [hq]; simp)
  have hcore := hinv.toCore.pop hq
  have hclosed : ∀ R w, st.distFromA.lookup R = some w → (R, w) ≠ (P, d) →
      ({ st with nodesToVisit := pre ++ post } : SearchState).Closed net stationB R w :=
    fun R w hw hne => (hinv.closed R w hw).pop hq hne
  by_cases hfresh : v = d
  · subst hfresh
    unfold TransportNetwork.visit
    split_ifs with hB
    · refine ⟨hcore, fun R w hw => ?_⟩
      by_cases hRw : (R, w) = (P, v)
      · cases hRw; exact .inr (.inl hB)
      · exact hclosed R w hw hRw
    · have hd := hinv.fresh_le hv hmin
      have hexp : ({ st with nodesToVisit := pre ++ post } : SearchState).Expanding net stationB
          stationA P v 0 :=
        ⟨hcore, hv, fun R w hw hR => hclosed R w hw fun h => hR (Prod.mk.inj h).1,
          fun i _ hi => absurd hi (Nat.not_lt_zero i)⟩
      have hall := hexp.relaxFrom hB hd hS (net.edgesOf P.node) 0 _ fun i f hf => by simpa using hf
      refine ⟨hall.core, fun R w hw => ?_⟩
      by_cases hR : R = P
      · subst hR
        rw [hall.self] at hw
        cases hw
        exact .inr (.inr fun j e he => hall.done j e (by simpa using (List.getElem?_eq_some_iff.1 he).1) he)
      · exact hall.closed R w hw hR
  · have hlt : v < d := (uint32_lt_iff _ _).2 (by
      have hvd : v.toNat ≤ d.toNat := hvd
      have : v.toNat ≠ d.toNat := fun h => hfresh (UInt32.toNat.inj h)
      omega)
    rw [hinv.visit_stale hmin hv hlt hS hq]
    refine ⟨hcore, fun R w hw => ?_⟩
    by_cases hR : R = P
    · subst hR
      rw [hv] at hw
      cases hw
      have hs := hinv.stale_settled hmin hv hlt
      exact .inr hs
    · exact hclosed R w hw fun h => hR (Prod.mk.inj h).1

theorem Inv.initial : (initialSearch stationA).Inv net stationB stationA net.edgeCostSum where
  source := by simp [initialSearch]
  nodup := by simp [initialSearch]
  queued := by simp [initialSearch]
  linked := ⟨fun _ => 0, fun P v hv hP => by
    simp only [initialSearch, List.lookup_cons, List.lookup_nil] at hv
    split at hv
    · next h => exact absurd (by simpa using h) hP
    · cases hv⟩
  bounded := by
    intro P v hv
    simp only [initialSearch, List.lookup_cons, List.lookup_nil] at hv
    split at hv
    · cases hv; simp
    · cases hv
  queue_bounded := by simp [initialSearch]
  closed := by
    intro P v hv
    simp only [initialSearch, List.lookup_cons, List.lookup_nil] at hv
    split at hv
    · next h =>
      cases hv
      exact .inl (by simp [initialSearch, (beq_iff_eq.1 h)])
    · cases hv

theorem Inv.reachable (hS : net.edgeCostSum < 2 ^ 30) {st : SearchState}
    (h : Relation.ReflTransGen (net.SearchStep stationB) (initialSearch stationA) st) :
    st.Inv net stationB stationA net.edgeCostSum := by
  induction h with
  | refl => exact Inv.initial
  | tail _ hstep ih => exact ih.step hS hstep

theorem visit_stale_of_run (hS : net.edgeCostSum < 2 ^ 30)
    (hrun : Relation.ReflTransGen (net.SearchStep stationB) (initialSearch stationA) st)
    {pre post : List (PathStop × UInt32)} {P : PathStop} {d v : UInt32}
    (hq : st.nodesToVisit = pre ++ (P, d) :: post) (hmin : ∀ x ∈ st.nodesToVisit, d ≤ x.2)
    (hv : st.distFromA.lookup P = some v) (hlt : v < d) :
    let st' : SearchState := net.visit stationB { st with nodesToVisit := pre ++ post } P d
    st'.distFromA = st.distFromA ∧ st'.previousStop = st.previousStop ∧
      st'.nodesToVisit = pre ++ post := by
  intro st'
  rw [show st' = _ from (Inv.reachable hS hrun).visit_stale hmin hv hlt hS hq]
  exact ⟨rfl, rfl, rfl⟩

/-- Y is reached at 5 on R1 and at 6 on R2; the stop at Z after Y on R2 is recorded at 5 + 1 + 5
when the first is expanded, lowered to 6 + 1 by the second, and its entry at 11 is popped last. -/
theorem visit_stale_of_run_example :
    let net : TransportNetwork := run {} [.addStation ⟨"A"⟩, .addStation ⟨"X"⟩, .addStation ⟨"Y"⟩,
      .addStation ⟨"Z"⟩, .addStation ⟨"B"⟩,
      .addLine ⟨"L1", [⟨"R1", ["A", "Y"]⟩]⟩, .addLine ⟨"L2", [⟨"R2", ["A", "X", "Y", "Z", "B"]⟩]⟩,
      .setTravelTime "A" "Y" 5, .setTravelTime "A" "X" 1, .setTravelTime "X" "Y" 5,
      .setTravelTime "Y" "Z" 1, .setTravelTime "Z" "B" 1]
    let st := net.runSearch "B" 6 (initialSearch "A")
    let Z : PathStop := ⟨"Z", some ⟨"Y", 0, ⟨⟨1, "R2", "L2", ["A", "X", "Y", "Z", "B"]⟩, "Z", 1⟩⟩⟩
    st.nodesToVisit = [(Z, 11)] ∧ st.distFromA.lookup Z = some 7 ∧
      let st' := net.visit "B" { st with nodesToVisit := [] } Z 11
      st'.distFromA = st.distFromA ∧ st'.previousStop = st.previousStop ∧ st'.nodesToVisit = [] := by
  intro net st Z
  have hq : st.nodesToVisit = [] ++ (Z, 11) :: [] := by decide
  have hv : st.distFromA.lookup Z = some 7 := by decide
  have hS : net.edgeCostSum < 2 ^ 30 := by decide
  have hmin : ∀ x ∈ st.nodesToVisit, (11 : UInt32) ≤ x.2 := by rw [hq]; decide
  have h := visit_stale_of_run hS (net.reflTransGen_runSearch 6 _) hq hmin hv (by decide)
  exact ⟨hq, hv, h⟩

end SearchState

end NetworkMonitor
