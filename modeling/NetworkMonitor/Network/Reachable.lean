import NetworkMonitor.Network.Operations

namespace NetworkMonitor

inductive NetworkOp where
  | addStation (station : Station)
  | addLine (line : Line)
  | setTravelTime (stationA stationB : Id) (travelTime : UInt32)
  | recordPassengerEvent (event : PassengerEvent)
deriving DecidableEq, Repr

namespace NetworkOp

def apply : NetworkOp → TransportNetwork → Bool × TransportNetwork
  | addStation station, net => net.addStation station
  | addLine line, net => net.addLine line
  | setTravelTime a b t, net => net.setTravelTime a b t
  | recordPassengerEvent event, net => net.recordPassengerEvent event

end NetworkOp

def run (net : TransportNetwork) (ops : List NetworkOp) : TransportNetwork :=
  ops.foldl (fun net op => (op.apply net).2) net

@[simp] theorem run_nil (net : TransportNetwork) : run net [] = net := rfl

@[simp] theorem run_cons (net : TransportNetwork) (op : NetworkOp) (ops : List NetworkOp) :
    run net (op :: ops) = run (op.apply net).2 ops := rfl

/-- The documented precondition of `AddLine`, as far as the fields it reads go: distinct route
ids, and every route with at least two distinct stops that are stations of the network. -/
def Line.WellFormed (net : TransportNetwork) (line : Line) : Prop :=
  (line.routes.map (·.id)).Nodup ∧
    ∀ route ∈ line.routes, 2 ≤ route.stops.length ∧ route.stops.Nodup ∧
      ∀ s ∈ route.stops, (net.getStation s).isSome

instance (net : TransportNetwork) (line : Line) : Decidable (line.WellFormed net) :=
  inferInstanceAs (Decidable (_ ∧ _))

/-- The lines on which the loop of `AddRouteToLine` stays inside `route.stops`. On a route with no
stops, `stops.size() - 1` wraps and the loop reads past the vector: the source's behaviour is
undefined there, and `addEdges`, which adds no edge, does not follow it. -/
def Line.InBounds (line : Line) : Prop := ∀ route ∈ line.routes, route.stops ≠ []

instance (line : Line) : Decidable line.InBounds := inferInstanceAs (Decidable (∀ _ ∈ _, _))

def NetworkOp.InBounds : NetworkOp → Prop
  | addLine line => line.InBounds
  | _ => True

instance (op : NetworkOp) : Decidable op.InBounds :=
  match op with
  | .addLine line => inferInstanceAs (Decidable line.InBounds)
  | .addStation _ | .setTravelTime .. | .recordPassengerEvent _ => isTrue trivial

def NetworkOp.WellFormed (net : TransportNetwork) : NetworkOp → Prop
  | addLine line => line.WellFormed net
  | _ => True

instance (net : TransportNetwork) (op : NetworkOp) : Decidable (op.WellFormed net) :=
  match op with
  | .addLine line => inferInstanceAs (Decidable (line.WellFormed net))
  | .addStation _ | .setTravelTime .. | .recordPassengerEvent _ => isTrue trivial

/-- Every call of `ops`, run from `net`, meets its precondition in the state it is made in. -/
def WellFormedRun : TransportNetwork → List NetworkOp → Prop
  | _, [] => True
  | net, op :: ops => op.WellFormed net ∧ WellFormedRun (op.apply net).2 ops

instance : (net : TransportNetwork) → (ops : List NetworkOp) → Decidable (WellFormedRun net ops)
  | _, [] => isTrue trivial
  | net, op :: ops =>
    have := instDecidableWellFormedRun (op.apply net).2 ops
    inferInstanceAs (Decidable (_ ∧ _))

/-- The states reachable from the empty network by calls, successful or not, that meet their
documented preconditions. -/
inductive Reachable : TransportNetwork → Prop where
  | empty : Reachable {}
  | step {net : TransportNetwork} (op : NetworkOp) :
      Reachable net → op.WellFormed net → Reachable (op.apply net).2

theorem Reachable.induction {P : TransportNetwork → Prop} (h0 : P {})
    (hstep : ∀ net (op : NetworkOp), P net → op.WellFormed net → P (op.apply net).2)
    {net : TransportNetwork} (h : Reachable net) : P net := by
  induction h with
  | empty => exact h0
  | step op _ hwf ih => exact hstep _ op ih hwf

theorem Reachable.run {net : TransportNetwork} (h : Reachable net) :
    ∀ {ops : List NetworkOp}, WellFormedRun net ops → Reachable (run net ops)
  | [], _ => h
  | op :: _, ⟨hop, hops⟩ => (Reachable.step op h hop).run hops

/-- The states reached from `start` by well-formed calls that `allowed` admits. -/
inductive ReachableVia (allowed : NetworkOp → Prop) (start : TransportNetwork) :
    TransportNetwork → Prop where
  | refl : ReachableVia allowed start start
  | step {net : TransportNetwork} (op : NetworkOp) :
      ReachableVia allowed start net → allowed op → op.WellFormed net →
        ReachableVia allowed start (op.apply net).2

theorem ReachableVia.reachable {allowed : NetworkOp → Prop} {start net : TransportNetwork}
    (h : ReachableVia allowed start net) (hs : Reachable start) : Reachable net := by
  induction h with
  | refl => exact hs
  | step op _ _ hwf ih => exact .step op ih hwf

theorem ReachableVia.run {allowed : NetworkOp → Prop} {start net : TransportNetwork}
    (h : ReachableVia allowed start net) :
    ∀ {ops : List NetworkOp}, WellFormedRun net ops → (∀ op ∈ ops, allowed op) →
      ReachableVia allowed start (run net ops)
  | [], _, _ => h
  | op :: _, ⟨hop, hops⟩, hall =>
    (ReachableVia.step op h (hall op (List.mem_cons_self _ _)) hop).run hops
      (fun op' h' => hall op' (List.mem_cons_of_mem _ h'))

def NetworkOp.SetsTravelTime : NetworkOp → Prop
  | setTravelTime .. => True
  | _ => False

def NetworkOp.AddsLine : NetworkOp → Prop
  | addLine _ => True
  | _ => False

instance (op : NetworkOp) : Decidable op.SetsTravelTime :=
  match op with
  | .setTravelTime .. => isTrue trivial
  | .addStation _ | .addLine _ | .recordPassengerEvent _ => isFalse id

instance (op : NetworkOp) : Decidable op.AddsLine :=
  match op with
  | .addLine _ => isTrue trivial
  | .addStation _ | .setTravelTime .. | .recordPassengerEvent _ => isFalse id

end NetworkMonitor
