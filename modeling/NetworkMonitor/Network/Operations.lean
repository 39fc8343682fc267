import NetworkMonitor.Network.Types

namespace NetworkMonitor

namespace TransportNetwork

variable (net : TransportNetwork)

def addStation (station : Station) : Bool × TransportNetwork :=
  if (net.getStation station.id).isSome then (false, net)
  else (true, { net with stations := (station.id, ⟨0, []⟩) :: net.stations })

section
variable {net}

theorem getStation_addStation (st : Station) (s : Id) :
    (net.addStation st).2.getStation s =
      if net.getStation st.id = none ∧ s = st.id then some ⟨0, []⟩ else net.getStation s := by
  unfold addStation
  cases hg : net.getStation st.id with
  | some n => simp
  | none =>
    by_cases hs : s = st.id
    · subst hs; simp [getStation, lookup_cons_eq]
    · simp only [Option.isSome_none, Bool.false_eq_true, if_false, hs, and_false]
      simp [getStation, lookup_cons_eq, hs]

theorem edgesOf_addStation (st : Station) (s : Id) :
    (net.addStation st).2.edgesOf s = net.edgesOf s := by
  simp only [edgesOf, getStation_addStation]
  split
  · next h => rw [h.2, h.1]; rfl
  · rfl

end

/-- The loop `for (idx = 0; idx < stops.size() - 1; ++idx)` of `AddRouteToLine`: one edge of
travel time 0 appended at each stop towards the next. (For an empty `stops` the source's
`size() - 1` wraps and the loop reads past the vector; no edge is added here.) -/
def addEdges (route : RouteInternal) : TransportNetwork → List Id → TransportNetwork
  | net, thisStop :: nextStop :: rest =>
    addEdges route (net.modifyStation thisStop fun n => { n with edges := n.edges ++ [⟨route, nextStop, 0⟩] })
      (nextStop :: rest)
  | net, _ => net

def addRouteToLine (route : Route) (line : LineInternal) : Option (TransportNetwork × LineInternal) :=
  if (line.routes.lookup route.id).isSome then none
  else if route.stops.all fun stopId => (net.getStation stopId).isSome then
    let routeInternal : RouteInternal := ⟨net.allocated, route.id, line.id, route.stops⟩
    some ({ addEdges routeInternal net route.stops with allocated := net.allocated + 1 },
      { line with routes := (route.id, routeInternal) :: line.routes })
  else none

def addRoutes : TransportNetwork → LineInternal → List Route → Bool × TransportNetwork × LineInternal
  | net, line, [] => (true, net, line)
  | net, line, route :: routes =>
    match net.addRouteToLine route line with
    | none => (false, net, line)
    | some (net', line') => addRoutes net' line' routes

def addLine (line : Line) : Bool × TransportNetwork :=
  if (net.getLine line.id).isSome then (false, net)
  else
    match net.addRoutes ⟨line.id, []⟩ line.routes with
    | (true, net', lineInternal) => (true, { net' with lines := (line.id, lineInternal) :: net'.lines })
    | (false, net', _) => (false, net')

def recordPassengerEvent (event : PassengerEvent) : Bool × TransportNetwork :=
  match net.getStation event.stationId with
  | none => (false, net)
  | some _ =>
    (true, net.modifyStation event.stationId fun n =>
      match event.type with
      | .In => { n with passengerCount := n.passengerCount + 1 }
      | .Out => { n with passengerCount := n.passengerCount - 1 })

def getPassengerCount (station : Id) : Except String Int :=
  match net.getStation station with
  | none => .error ("Could not find station in the network: " ++ station)
  | some node => .ok node.passengerCount

def getRoutesServingStation (station : Id) : List Id :=
  match net.getStation station with
  | none => []
  | some node =>
    node.edges.map (·.route.id) ++
      net.lines.flatMap fun line => line.2.routes.filterMap fun route =>
        if route.2.stops.getLast? = some station then some route.2.id else none

/-- The lambda of `SetTravelTime`: set every edge `from → to` and report whether there was one. -/
def setTravelTimeFrom (travelTime : UInt32) (fromId toId : Id) : Bool × TransportNetwork :=
  ((net.edgesOf fromId).any (·.nextStop = toId),
    net.modifyStation fromId fun n =>
      { n with edges := n.edges.map fun e => if e.nextStop = toId then { e with travelTime } else e })

def setTravelTime (stationA stationB : Id) (travelTime : UInt32) : Bool × TransportNetwork :=
  if (net.getStation stationA).isNone || (net.getStation stationB).isNone then (false, net)
  else
    let (foundAB, net₁) := net.setTravelTimeFrom travelTime stationA stationB
    let (foundBA, net₂) := net₁.setTravelTimeFrom travelTime stationB stationA
    (foundAB || foundBA, net₂)

def getTravelTime (stationA stationB : Id) : UInt32 :=
  if (net.getStation stationA).isNone || (net.getStation stationB).isNone then 0
  else
    match (net.edgesOf stationA).find? (·.nextStop = stationB) with
    | some edge => edge.travelTime
    | none =>
      match (net.edgesOf stationB).find? (·.nextStop = stationA) with
      | some edge => edge.travelTime
      | none => 0

/-- The walk of `GetTravelTime(line, route, stationA, stationB)` over the route's stops,
with the running `travelTime` and the flag `foundA`. -/
def walkRoute (route : RouteInternal) (stationA stationB : Id) : List Id → UInt32 → Bool → UInt32
  | [], _, _ => 0
  | stop :: stops, travelTime, foundA =>
    let foundA := foundA || decide (stop = stationA)
    if stop = stationB then travelTime
    else if foundA then
      match ((net.getStation stop).bind (·.findEdgeForRoute route)) with
      | none => 0
      | some edge => walkRoute route stationA stationB stops (travelTime + edge.travelTime) true
    else walkRoute route stationA stationB stops travelTime false

def getTravelTimeOnRoute (line route stationA stationB : Id) : UInt32 :=
  match net.getRoute line route with
  | none => 0
  | some routeInternal =>
    if (net.getStation stationA).isNone || (net.getStation stationB).isNone then 0
    else net.walkRoute routeInternal stationA stationB routeInternal.stops 0 false

/-- A line whose second route is rejected leaves the first route's edges on the shared station
nodes, although the line is not registered. -/
theorem addLine_rejected_keeps_edges :
    let net : TransportNetwork := ((({} : TransportNetwork).addStation ⟨"A"⟩).2.addStation ⟨"B"⟩).2
    let unknownStop : Line := ⟨"L", [⟨"R1", ["A", "B"]⟩, ⟨"R2", ["A", "Z"]⟩]⟩
    let repeatedId : Line := ⟨"L", [⟨"R1", ["A", "B"]⟩, ⟨"R1", ["B", "A"]⟩]⟩
    net.edgesOf "A" = [] ∧
    (net.addLine unknownStop).1 = false ∧ (net.addLine unknownStop).2.lines = net.lines ∧
      ((net.addLine unknownStop).2.edgesOf "A").map (·.nextStop) = ["B"] ∧
      (net.addLine unknownStop).2.getRoutesServingStation "A" = ["R1"] ∧
    (net.addLine repeatedId).1 = false ∧ (net.addLine repeatedId).2.lines = net.lines ∧
      ((net.addLine repeatedId).2.edgesOf "A").map (·.nextStop) = ["B"] := by
  decide

end TransportNetwork

end NetworkMonitor
