import Mathlib.Logic.Relation
import NetworkMonitor.Network.Types

namespace NetworkMonitor

/-- A `shared_ptr<GraphEdge>`: the station whose `edges` holds it, its index there, and the
edge it points to. -/
structure EdgePtr where
  station : Id
  index : Nat
  edge : GraphEdge
  deriving DecidableEq, Repr

/-- `PathStop`: a station, and the edge taken to reach it (`nullptr` at the start). -/
structure PathStop where
  node : Id
  edge : Option EdgePtr
  deriving DecidableEq, Repr

/-- The maps and the heap of `GetFastestTravelRoute`. -/
structure SearchState where
  distFromA : List (PathStop × UInt32) := []
  previousStop : List (PathStop × PathStop) := []
  nodesToVisit : List (PathStop × UInt32) := []
  deriving DecidableEq, Repr

/-- How the path assembly fails: `previousStop.at(stop)` throws `std::out_of_range`, or
`stop.edge` is null. -/
inductive SearchFault
  | outOfRange
  | nullDereference
  deriving DecidableEq, Repr

namespace PathStop

/-- The stop reached from `P` along the edge `e` at index `j` of `P`'s station. -/
def next (P : PathStop) (j : Nat) (e : GraphEdge) : PathStop := ⟨e.nextStop, some ⟨P.node, j, e⟩⟩

/-- `edgeToCurrStation != nullptr && edgeToCurrStation->route != neighborEdge->route`. -/
def changesRoute (P : PathStop) (e : GraphEdge) : Bool :=
  match P.edge with
  | none => false
  | some p => p.edge.route.addr ≠ e.route.addr

end PathStop

namespace SearchState

/-- `distFromA[neighbor] = d; previousStop[neighbor] = currStop; nodesToVisit.push(...)`. -/
def record (st : SearchState) (neighbor currStop : PathStop) (d : UInt32) : SearchState where
  distFromA := assign st.distFromA neighbor d
  previousStop := assign st.previousStop neighbor currStop
  nodesToVisit := st.nodesToVisit ++ [(neighbor, d)]

@[simp] theorem record_distFromA (st : SearchState) (neighbor currStop : PathStop) (d : UInt32) :
    (st.record neighbor currStop d).distFromA = assign st.distFromA neighbor d := rfl

@[simp] theorem record_previousStop (st : SearchState) (neighbor currStop : PathStop) (d : UInt32) :
    (st.record neighbor currStop d).previousStop = assign st.previousStop neighbor currStop := rfl

@[simp] theorem record_nodesToVisit (st : SearchState) (neighbor currStop : PathStop) (d : UInt32) :
    (st.record neighbor currStop d).nodesToVisit = st.nodesToVisit ++ [(neighbor, d)] := rfl

/-- One turn of the `for` loop over `currStation->edges`, for the edge at index `j`. -/
def relaxEdge (currStop : PathStop) (currentDistFromA : UInt32) (st : SearchState) (j : Nat)
    (neighborEdge : GraphEdge) : SearchState :=
  let neighbor := currStop.next j neighborEdge
  let neighborDistFromA := currentDistFromA + neighborEdge.travelTime
  let neighborDistFromA :=
    if currStop.changesRoute neighborEdge then neighborDistFromA + 5 else neighborDistFromA
  match st.distFromA.lookup neighbor with
  | none => st.record neighbor currStop neighborDistFromA
  | some old => if neighborDistFromA < old then st.record neighbor currStop neighborDistFromA else st

theorem relaxEdge_eq (currStop : PathStop) (d : UInt32) (st : SearchState) (j : Nat)
    (e : GraphEdge) :
    st.relaxEdge currStop d j e =
      let c := if currStop.changesRoute e then d + e.travelTime + 5 else d + e.travelTime
      match st.distFromA.lookup (currStop.next j e) with
      | none => st.record (currStop.next j e) currStop c
      | some old => if c < old then st.record (currStop.next j e) currStop c else st := rfl

theorem relaxEdge_cases (currStop : PathStop) (d : UInt32) (st : SearchState) (j : Nat)
    (e : GraphEdge) :
    let c := if currStop.changesRoute e then d + e.travelTime + 5 else d + e.travelTime
    (st.relaxEdge currStop d j e = st.record (currStop.next j e) currStop c ∧
        ∀ old, st.distFromA.lookup (currStop.next j e) = some old → c < old) ∨
      (st.relaxEdge currStop d j e = st ∧
        ∃ old, st.distFromA.lookup (currStop.next j e) = some old ∧ old ≤ c) := by
  intro c
  rw [relaxEdge_eq]
  cases h : st.distFromA.lookup (currStop.next j e) with
  | none => exact .inl ⟨rfl, fun old hold => by cases hold⟩
  | some old =>
    by_cases hlt : c < old
    · exact .inl ⟨if_pos hlt, fun o ho => by cases ho; exact hlt⟩
    · exact .inr ⟨if_neg hlt, old, rfl, (uint32_le_iff _ _).2 (Nat.le_of_not_lt hlt)⟩

/-- The `for` loop over `currStation->edges`, from the edge at index `j` on. -/
def relaxFrom (currStop : PathStop) (currentDistFromA : UInt32) :
    SearchState → Nat → List GraphEdge → SearchState
  | st, _, [] => st
  | st, j, e :: edges =>
    relaxFrom currStop currentDistFromA (st.relaxEdge currStop currentDistFromA j e) (j + 1) edges

end SearchState

/-- The search's start: `distFromA[{stationA, nullptr}] = 0` and the same entry in the heap. -/
def initialSearch (stationA : Id) : SearchState where
  distFromA := [(⟨stationA, none⟩, 0)]
  nodesToVisit := [(⟨stationA, none⟩, 0)]

namespace TransportNetwork

variable (net : TransportNetwork)

/-- The body of the `while` loop once `(currStop, currentDistFromA)` is popped. -/
def visit (stationB : Id) (st : SearchState) (currStop : PathStop) (currentDistFromA : UInt32) :
    SearchState :=
  if currStop.node = stationB then st
  else st.relaxFrom currStop currentDistFromA 0 (net.edgesOf currStop.node)

/-- One turn of the `while` loop. The heap releases an entry of least distance; which one among
entries of equal distance is left to `std::priority_queue`. -/
inductive SearchStep (stationB : Id) : SearchState → SearchState → Prop
  | pop {st : SearchState} (pre post : List (PathStop × UInt32)) (currStop : PathStop) (d : UInt32) :
      st.nodesToVisit = pre ++ (currStop, d) :: post → (∀ x ∈ st.nodesToVisit, d ≤ x.2) →
      SearchStep stationB st (net.visit stationB { st with nodesToVisit := pre ++ post } currStop d)

end TransportNetwork

/-- The entries of `distFromA` at station B. -/
def SearchState.pathsToB (st : SearchState) (stationB : Id) : List (PathStop × UInt32) :=
  st.distFromA.filter (·.1.node = stationB)

/-- The `while (stop.node != stationA)` loop assembling the steps backwards, given `fuel`
turns; `none` when the fuel runs out. -/
def assemble (previousStop : List (PathStop × PathStop)) (stationA : Id) :
    Nat → PathStop → List TravelRoute.Step → Option (Except SearchFault (List TravelRoute.Step))
  | 0, _, _ => none
  | fuel + 1, stop, steps =>
    if stop.node = stationA then some (.ok steps)
    else
      match previousStop.lookup stop, stop.edge with
      | none, _ => some (.error .outOfRange)
      | some _, none => some (.error .nullDereference)
      | some prevStop, some edge =>
        assemble previousStop stationA fuel prevStop (steps ++
          [⟨prevStop.node, stop.node, edge.edge.route.lineId, edge.edge.route.id, edge.edge.travelTime⟩])

/-- Every result the code after the `while` loop can build from the final maps: over every
fastest entry `std::sort` may leave last. An assembly that never ends has no result. -/
def SearchState.TravelRouteOf (final : SearchState) (stationA stationB : Id)
    (res : Except SearchFault TravelRoute) : Prop :=
  (final.pathsToB stationB = [] ∧ res = .ok ⟨stationA, stationB, 0, []⟩) ∨
    ∃ stop d, (stop, d) ∈ final.pathsToB stationB ∧ (∀ x ∈ final.pathsToB stationB, d ≤ x.2) ∧
      ∃ fuel, (assemble final.previousStop stationA fuel stop []).map
        (·.map fun steps => ⟨stationA, stationB, d, steps.reverse⟩) = some res

namespace TransportNetwork

variable (net : TransportNetwork)

/-- Every result `GetFastestTravelRoute(A, B)` can have, over every order in which the heap
releases entries of equal distance. -/
def FastestTravelRoute (stationA stationB : Id) (res : Except SearchFault TravelRoute) : Prop :=
  if (net.getStation stationA).isNone || (net.getStation stationB).isNone then res = .ok {}
  else if stationA = stationB then
    res = .ok ⟨stationA, stationA, 0, [⟨stationA, stationA, "", "", 0⟩]⟩
  else
    ∃ final, Relation.ReflTransGen (net.SearchStep stationB) (initialSearch stationA) final ∧
      final.nodesToVisit = [] ∧ final.TravelRouteOf stationA stationB res

end TransportNetwork

end NetworkMonitor
