import NetworkMonitor.Path.Walk

namespace NetworkMonitor

/-- The first entry of least distance in the heap, with the entries before and after it. -/
def minSplit : List (PathStop × UInt32) →
    Option (List (PathStop × UInt32) × (PathStop × UInt32) × List (PathStop × UInt32))
  | [] => none
  | x :: l =>
    match minSplit l with
    | none => some ([], x, [])
    | some (pre, m, post) => if x.2 ≤ m.2 then some ([], x, l) else some (x :: pre, m, post)

theorem minSplit_eq_none {l : List (PathStop × UInt32)} : minSplit l = none ↔ l = [] := by
  cases l with
  | nil => exact ⟨fun _ => rfl, fun _ => rfl⟩
  | cons x l =>
    simp only [minSplit, reduceCtorEq, iff_false]
    split
    · exact Option.some_ne_none _
    · split <;> exact Option.some_ne_none _

theorem minSplit_spec : ∀ {l : List (PathStop × UInt32)} {pre m post},
    minSplit l = some (pre, m, post) → l = pre ++ m :: post ∧ ∀ y ∈ l, m.2 ≤ y.2
  | [], _, _, _, h => nomatch h
  | x :: l, pre, m, post, h => by
    unfold minSplit at h
    split at h
    · next hl =>
      cases h
      rw [minSplit_eq_none.1 hl]
      exact ⟨rfl, by simp [UInt32.le_refl]⟩
    · next pre' m' post' hl =>
      obtain ⟨hl', hmin⟩ := minSplit_spec hl
      split at h <;> cases h
      · next hxm =>
        refine ⟨rfl, fun y hy => ?_⟩
        rcases List.mem_cons.1 hy with rfl | hy
        · exact UInt32.le_refl _
        · exact UInt32.le_trans hxm (hmin y hy)
      · next hxm =>
        refine ⟨by rw [hl']; rfl, fun y hy => ?_⟩
        rcases List.mem_cons.1 hy with rfl | hy
        · exact (UInt32.le_total _ _).resolve_left hxm
        · exact hmin y hy

namespace TransportNetwork

variable (net : TransportNetwork)

/-- Every stop the loop can record besides the start: one per edge of the network. -/
def edgeStops : List PathStop := net.allEdgePtrs.map fun p => ⟨p.edge.nextStop, some p⟩

/-- What the loop uses up: twice the recorded distances of the edge stops (2^32 while
unrecorded), plus the heap's size. -/
def searchPotential (st : SearchState) : Nat :=
  2 * (net.edgeStops.map fun P => ((st.distFromA.lookup P).map UInt32.toNat).getD (2 ^ 32)).sum +
    st.nodesToVisit.length

/-- One turn of the `while` loop releasing the first entry of least distance. -/
def popStep (stationB : Id) (st : SearchState) : Option SearchState :=
  (minSplit st.nodesToVisit).map fun s =>
    net.visit stationB { st with nodesToVisit := s.1 ++ s.2.2 } s.2.1.1 s.2.1.2

/-- The loop for at most `fuel` turns, the heap releasing the first entry of least distance. -/
def runSearch (stationB : Id) : Nat → SearchState → SearchState
  | 0, st => st
  | fuel + 1, st =>
    match net.popStep stationB st with
    | none => st
    | some st' => runSearch stationB fuel st'

variable {net}

theorem mem_edgeStops {P : PathStop} {j : Nat} {e : GraphEdge}
    (he : (net.edgesOf P.node)[j]? = some e) : P.next j e ∈ net.edgeStops :=
  List.mem_map.2 ⟨_, net.mem_allEdgePtrs he, rfl⟩

section edges

variable {s : Id} {f : GraphEdge} {edges : List GraphEdge} {k : Nat}
  (h : ∀ i g, (f :: edges)[i]? = some g → (net.edgesOf s)[k + i]? = some g)
include h

theorem edgesFrom_head : (net.edgesOf s)[k]? = some f := by simpa using h 0 f (by simp)

theorem edgesFrom_tail : ∀ i g, edges[i]? = some g → (net.edgesOf s)[k + 1 + i]? = some g :=
  fun i g hg => by simpa [Nat.add_assoc, Nat.add_comm 1 i] using h (i + 1) g (by simpa using hg)

end edges

theorem searchPotential_relaxEdge (P : PathStop) (d : UInt32) (st : SearchState) {j : Nat}
    {e : GraphEdge} (he : (net.edgesOf P.node)[j]? = some e) :
    net.searchPotential (st.relaxEdge P d j e) ≤ net.searchPotential st := by
  rcases SearchState.relaxEdge_cases P d st j e with ⟨heq, hlt⟩ | ⟨heq, -⟩
  · rw [heq]
    set c := if P.changesRoute e then d + e.travelTime + 5 else d + e.travelTime
    have hfresh : c.toNat < ((st.distFromA.lookup (P.next j e)).map UInt32.toNat).getD (2 ^ 32) := by
      cases h : st.distFromA.lookup (P.next j e) with
      | none => simpa using UInt32.toNat_lt_size c
      | some old => simpa using (uint32_lt_iff _ _).1 (hlt old h)
    have hsum := List.sum_lt_sum (l := net.edgeStops)
      (fun X => (((st.record (P.next j e) P c).distFromA.lookup X).map UInt32.toNat).getD (2 ^ 32))
      (fun X => ((st.distFromA.lookup X).map UInt32.toNat).getD (2 ^ 32))
      (fun X _ => by
        simp only [SearchState.record_distFromA, lookup_assign]
        split
        · next hX => subst hX; exact Nat.le_of_lt hfresh
        · exact le_refl _)
      ⟨P.next j e, mem_edgeStops he, by simpa [lookup_assign] using hfresh⟩
    simp only [searchPotential, SearchState.record_nodesToVisit, List.length_append,
      List.length_singleton]
    omega
  · rw [heq]

theorem searchPotential_relaxFrom (P : PathStop) (d : UInt32) :
    ∀ (edges : List GraphEdge) (k : Nat) (st : SearchState),
    (∀ i f, edges[i]? = some f → (net.edgesOf P.node)[k + i]? = some f) →
    net.searchPotential (st.relaxFrom P d k edges) ≤ net.searchPotential st
  | [], _, _, _ => le_refl _
  | _ :: edges, k, st, h =>
    (searchPotential_relaxFrom P d edges (k + 1) _ (edgesFrom_tail h)).trans
      (searchPotential_relaxEdge P d st (edgesFrom_head h))

theorem searchPotential_step {stationB : Id} {st st' : SearchState}
    (h : net.SearchStep stationB st st') : net.searchPotential st' < net.searchPotential st := by
  obtain ⟨pre, post, P, d, hq, -⟩ := h
  have hpop : net.searchPotential { st with nodesToVisit := pre ++ post } + 1 =
      net.searchPotential st := by
    simp [searchPotential, hq, Nat.add_assoc]
  unfold visit
  split
  · omega
  · have := searchPotential_relaxFrom P d (net.edgesOf P.node) 0
      { st with nodesToVisit := pre ++ post } fun i f hf => by simpa using hf
    omega

theorem acc_searchStep (stationB : Id) (st : SearchState) :
    Acc (fun st' st => net.SearchStep stationB st st') st :=
  Subrelation.accessible searchPotential_step
    (InvImage.accessible net.searchPotential (wellFounded_lt.apply _))

theorem searchStep_of_popStep {stationB : Id} {st st' : SearchState}
    (h : net.popStep stationB st = some st') : net.SearchStep stationB st st' := by
  obtain ⟨⟨pre, ⟨P, d⟩, post⟩, hs, rfl⟩ := Option.map_eq_some'.1 h
  obtain ⟨hq, hmin⟩ := minSplit_spec hs
  exact .pop pre post P d hq hmin

theorem reflTransGen_runSearch {stationB : Id} : ∀ (fuel : Nat) (st : SearchState),
    Relation.ReflTransGen (net.SearchStep stationB) st (net.runSearch stationB fuel st)
  | 0, _ => .refl
  | fuel + 1, st => by
    unfold runSearch
    split
    · exact .refl
    · next st' h => exact .head (searchStep_of_popStep h) (reflTransGen_runSearch fuel st')

theorem popStep_isSome (stationB : Id) {st : SearchState} (h : st.nodesToVisit ≠ []) :
    (net.popStep stationB st).isSome := by
  cases hs : minSplit st.nodesToVisit with
  | none => exact absurd (minSplit_eq_none.1 hs) h
  | some s => simp [popStep, hs]

theorem exists_final (stationB : Id) (st : SearchState) :
    ∃ final, Relation.ReflTransGen (net.SearchStep stationB) st final ∧ final.nodesToVisit = [] := by
  induction acc_searchStep stationB st with
  | intro st _ ih =>
    by_cases hq : st.nodesToVisit = []
    · exact ⟨st, .refl, hq⟩
    · obtain ⟨st', hst'⟩ := Option.isSome_iff_exists.1 (popStep_isSome stationB hq)
      have hstep := searchStep_of_popStep hst'
      obtain ⟨final, hrun, hfinal⟩ := ih _ hstep
      exact ⟨final, .head hstep hrun, hfinal⟩

/-! What a turn of the loop pushes. Each relaxed edge pushes a stop recorded for the first time
or at a strictly smaller distance than before the turn, and the stops ever recorded are the start
and the edge stops: finitely many, on every network. -/

theorem PathStop.index_eq_of_next_eq {P : PathStop} {j k : Nat} {g f : GraphEdge}
    (h : P.next j g = P.next k f) : j = k := by
  simp only [PathStop.next, PathStop.mk.injEq, Option.some.injEq, EdgePtr.mk.injEq] at h
  exact h.2.2.1

section pushes

variable {P : PathStop} {d : UInt32}

theorem lookup_relaxEdge_of_ne {st : SearchState} {j : Nat} {e : GraphEdge} {Q : PathStop}
    (hQ : Q ≠ P.next j e) : (st.relaxEdge P d j e).distFromA.lookup Q = st.distFromA.lookup Q := by
  rcases SearchState.relaxEdge_cases P d st j e with ⟨heq, -⟩ | ⟨heq, -⟩ <;> rw [heq]
  simp [lookup_assign, hQ]

theorem lookup_relaxFrom_of_ne {Q : PathStop} : ∀ (edges : List GraphEdge) (k : Nat) (st : SearchState),
    (∀ j g, k ≤ j → Q ≠ P.next j g) →
    (st.relaxFrom P d k edges).distFromA.lookup Q = st.distFromA.lookup Q
  | [], _, _, _ => rfl
  | f :: edges, k, st, hQ => by
    rw [SearchState.relaxFrom, lookup_relaxFrom_of_ne edges (k + 1) _ fun j g hj => hQ j g (by omega),
      lookup_relaxEdge_of_ne (hQ k f le_rfl)]

theorem relaxFrom_pushes : ∀ (edges : List GraphEdge) (k : Nat) (st : SearchState),
    ∃ pushed, (st.relaxFrom P d k edges).nodesToVisit = st.nodesToVisit ++ pushed ∧
      ∀ x ∈ pushed, (∃ j g, k ≤ j ∧ x.1 = P.next j g) ∧
        (st.relaxFrom P d k edges).distFromA.lookup x.1 = some x.2 ∧
        ∀ old, st.distFromA.lookup x.1 = some old → x.2 < old
  | [], _, st => ⟨[], by simp [SearchState.relaxFrom], by simp⟩
  | f :: edges, k, st => by
    obtain ⟨pushed, hq, hx⟩ := relaxFrom_pushes edges (k + 1) (st.relaxEdge P d k f)
    have hne : ∀ j g, k + 1 ≤ j → P.next j g ≠ P.next k f := fun j g hj h =>
      absurd (PathStop.index_eq_of_next_eq h) (by omega)
    simp only [SearchState.relaxFrom]
    rcases SearchState.relaxEdge_cases P d st k f with ⟨heq, hlt⟩ | ⟨heq, -⟩
    · refine ⟨_ :: pushed, by rw [hq, heq, SearchState.record_nodesToVisit, List.append_assoc]; rfl,
        fun x hxm => ?_⟩
      rcases List.mem_cons.1 hxm with rfl | hxm
      · refine ⟨⟨k, f, le_rfl, rfl⟩, ?_, hlt⟩
        rw [lookup_relaxFrom_of_ne _ _ _ fun j g hj h => hne j g hj h.symm, heq]
        simp [lookup_assign]
      · obtain ⟨⟨j, g, hj, hxj⟩, hfin, hlow⟩ := hx x hxm
        refine ⟨⟨j, g, by omega, hxj⟩, hfin, fun old hold => hlow old ?_⟩
        rwa [lookup_relaxEdge_of_ne (hxj ▸ hne j g hj)]
    · rw [heq] at hq hx ⊢
      refine ⟨pushed, hq, fun x hxm => ?_⟩
      obtain ⟨⟨j, g, hj, hxj⟩, hrest⟩ := hx x hxm
      exact ⟨⟨j, g, by omega, hxj⟩, hrest⟩

theorem recorded_relaxFrom : ∀ (edges : List GraphEdge) (k : Nat) (st : SearchState),
    (∀ i f, edges[i]? = some f → (net.edgesOf P.node)[k + i]? = some f) → ∀ Q,
    ((st.relaxFrom P d k edges).distFromA.lookup Q).isSome →
      (st.distFromA.lookup Q).isSome ∨ Q ∈ net.edgeStops
  | [], _, _, _, _, hQ => .inl hQ
  | f :: edges, k, st, h, Q, hQ => by
    rcases recorded_relaxFrom edges (k + 1) _ (edgesFrom_tail h) Q hQ with hQ | hQ
    · by_cases hQk : Q = P.next k f
      · exact .inr (hQk ▸ mem_edgeStops (edgesFrom_head h))
      · exact .inl (by rwa [lookup_relaxEdge_of_ne hQk] at hQ)
    · exact .inr hQ

end pushes

variable {stationB : Id} {st st' : SearchState}

theorem searchStep_pushes (h : net.SearchStep stationB st st') :
    ∃ pre P d post pushed, st.nodesToVisit = pre ++ (P, d) :: post ∧
      st'.nodesToVisit = pre ++ post ++ pushed ∧
      ∀ x ∈ pushed, st'.distFromA.lookup x.1 = some x.2 ∧
        ∀ old, st.distFromA.lookup x.1 = some old → x.2 < old := by
  obtain ⟨pre, post, P, d, hq, -⟩ := h
  refine ⟨pre, P, d, post, ?_⟩
  unfold visit
  split
  · exact ⟨[], hq, by simp, by simp⟩
  · obtain ⟨pushed, hpush, hx⟩ :=
      relaxFrom_pushes (net.edgesOf P.node) 0 { st with nodesToVisit := pre ++ post }
    exact ⟨pushed, hq, hpush, fun x hxm => (hx x hxm).2⟩

theorem recorded_searchStep (h : net.SearchStep stationB st st') {Q : PathStop}
    (hQ : (st'.distFromA.lookup Q).isSome) : (st.distFromA.lookup Q).isSome ∨ Q ∈ net.edgeStops := by
  obtain ⟨pre, post, P, d, -, -⟩ := h
  unfold visit at hQ
  split at hQ
  · exact .inl hQ
  · exact recorded_relaxFrom _ 0 { st with nodesToVisit := pre ++ post }
      (fun i f hf => by simpa using hf) Q hQ

theorem recorded_of_run {stationA : Id}
    (h : Relation.ReflTransGen (net.SearchStep stationB) (initialSearch stationA) st) {Q : PathStop}
    (hQ : (st.distFromA.lookup Q).isSome) : Q = ⟨stationA, none⟩ ∨ Q ∈ net.edgeStops := by
  induction h generalizing Q with
  | refl =>
    simp only [initialSearch, List.lookup_cons, List.lookup_nil] at hQ
    split at hQ
    · next hQA => exact .inl (beq_iff_eq.1 hQA)
    · cases hQ
  | tail _ hstep ih => exact (recorded_searchStep hstep hQ).elim ih .inr

theorem getFastestTravelRoute_loop_terminates (net : TransportNetwork) (stationA stationB : Id) :
    (∀ st, Relation.ReflTransGen (net.SearchStep stationB) (initialSearch stationA) st →
      ∀ Q, (st.distFromA.lookup Q).isSome → Q = ⟨stationA, none⟩ ∨ Q ∈ net.edgeStops) ∧
    (∀ st st', net.SearchStep stationB st st' →
      net.searchPotential st' < net.searchPotential st ∧
      ∃ pre P d post pushed, st.nodesToVisit = pre ++ (P, d) :: post ∧
        st'.nodesToVisit = pre ++ post ++ pushed ∧
        ∀ x ∈ pushed, st'.distFromA.lookup x.1 = some x.2 ∧
          ∀ old, st.distFromA.lookup x.1 = some old → x.2 < old) ∧
    Acc (fun st' st => net.SearchStep stationB st st') (initialSearch stationA) ∧
    ∃ final, Relation.ReflTransGen (net.SearchStep stationB) (initialSearch stationA) final ∧
      final.nodesToVisit = [] :=
  ⟨fun _ h _ hQ => recorded_of_run h hQ, fun _ _ h => ⟨searchPotential_step h, searchStep_pushes h⟩,
    acc_searchStep stationB _, exists_final stationB _⟩

end TransportNetwork

end NetworkMonitor
