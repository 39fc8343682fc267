import Mathlib.Data.List.Basic
import Mathlib.Algebra.Order.Ring.Nat
import Mathlib.Algebra.Order.Ring.Int

namespace NetworkMonitor

abbrev Id := String

structure Station where
  id : Id
deriving DecidableEq, Repr

structure Route where
  id : Id
  stops : List Id
deriving DecidableEq, Repr

structure Line where
  id : Id
  routes : List Route
deriving DecidableEq, Repr

inductive EventType where
  | In
  | Out
deriving DecidableEq, Repr

structure PassengerEvent where
  stationId : Id
  type : EventType
deriving DecidableEq, Repr

structure TravelRoute.Step where
  startStationId : Id := ""
  endStationId : Id := ""
  lineId : Id := ""
  routeId : Id := ""
  travelTime : UInt32 := 0
deriving DecidableEq, Repr

structure TravelRoute where
  startStationId : Id := ""
  endStationId : Id := ""
  totalTravelTime : UInt32 := 0
  steps : List TravelRoute.Step := []
deriving DecidableEq, Repr

/-- A `shared_ptr<RouteInternal>`: `addr` is the allocation it points to, the other fields are
the object's immutable contents (`line->id` read through the pointer as `lineId`). -/
structure RouteInternal where
  addr : Nat
  id : Id
  lineId : Id
  stops : List Id
deriving DecidableEq, Repr

structure GraphEdge where
  route : RouteInternal
  nextStop : Id
  travelTime : UInt32
deriving DecidableEq, Repr

structure GraphNode where
  passengerCount : Int
  edges : List GraphEdge
deriving DecidableEq, Repr

structure LineInternal where
  id : Id
  routes : List (Id × RouteInternal)
deriving DecidableEq, Repr

/-- `stations_` and `lines_` keyed by id; `allocated` counts the `RouteInternal` objects made so
far, so a fresh one gets an address no existing pointer holds. -/
structure TransportNetwork where
  stations : List (Id × GraphNode) := []
  lines : List (Id × LineInternal) := []
  allocated : Nat := 0
deriving DecidableEq, Repr

theorem toNat_add_uint32 (a b : UInt32) : (a + b).toNat = (a.toNat + b.toNat) % 2 ^ 32 := by
  simp [UInt32.toNat, UInt32.add_def]

theorem uint32_le_iff (a b : UInt32) : a ≤ b ↔ a.toNat ≤ b.toNat := Iff.rfl

theorem uint32_lt_iff (a b : UInt32) : a < b ↔ a.toNat < b.toNat := Iff.rfl

theorem uint32_le_antisymm {a b : UInt32} (h₁ : a ≤ b) (h₂ : b ≤ a) : a = b :=
  UInt32.toNat.inj (Nat.le_antisymm h₁ h₂)

@[simp] theorem except_bind_ok {ε α β : Type} (a : α) (f : α → Except ε β) :
    (Except.ok a : Except ε α) >>= f = f a := rfl

theorem except_bind_eq_ok {ε α β : Type} {x : Except ε α} {f : α → Except ε β} {b : β} :
    x >>= f = .ok b ↔ ∃ a, x = .ok a ∧ f a = .ok b := by
  cases x with
  | error e =>
    constructor
    · intro h; cases h
    · rintro ⟨_, h, _⟩; cases h
  | ok a => simp

theorem lookup_cons_eq {κ β : Type} [DecidableEq κ] (k a : κ) (b : β) (l : List (κ × β)) :
    ((k, b) :: l).lookup a = if a = k then some b else l.lookup a := by
  simp only [List.lookup_cons]
  split <;> simp_all

theorem lookup_map_snd {κ β : Type} [DecidableEq κ] (g : κ → β → β) (s : κ) (l : List (κ × β)) :
    (l.map fun p => (p.1, g p.1 p.2)).lookup s = (l.lookup s).map (g s) := by
  induction l with
  | nil => rfl
  | cons p l ih =>
    obtain ⟨k, b⟩ := p
    by_cases h : s = k <;> simp [lookup_cons_eq, h, ih]

theorem mem_of_lookup_eq_some {κ β : Type} [DecidableEq κ] {l : List (κ × β)} {k : κ} {v : β}
    (h : l.lookup k = some v) : (k, v) ∈ l := by
  induction l with
  | nil => simp at h
  | cons p l ih =>
    obtain ⟨k', v'⟩ := p
    rw [lookup_cons_eq] at h
    split at h
    · next hk => cases h; subst hk; exact List.mem_cons_self _ _
    · exact List.mem_cons_of_mem _ (ih h)

theorem lookup_eq_some_of_mem {κ β : Type} [DecidableEq κ] {l : List (κ × β)} {k : κ} {v : β}
    (hnd : (l.map (·.1)).Nodup) (h : (k, v) ∈ l) : l.lookup k = some v := by
  induction l with
  | nil => simp at h
  | cons p l ih =>
    obtain ⟨k', v'⟩ := p
    simp only [List.map_cons, List.nodup_cons, List.mem_map] at hnd
    rw [lookup_cons_eq]
    rcases List.mem_cons.1 h with h | h
    · cases h; simp
    · have hk : k ≠ k' := fun e => hnd.1 ⟨(k, v), h, e⟩
      simp [hk, ih hnd.2 h]

theorem lookup_eq_none_of_not_mem {κ β : Type} [DecidableEq κ] {l : List (κ × β)} {k : κ}
    (h : k ∉ l.map (·.1)) : l.lookup k = none := by
  induction l with
  | nil => rfl
  | cons p l ih =>
    obtain ⟨k', v'⟩ := p
    simp only [List.map_cons, List.mem_cons, not_or] at h
    simp [lookup_cons_eq, h.1, ih h.2]

/-- `map[key] = value` on an `unordered_map` kept as an association list. -/
def assign {κ β : Type} [DecidableEq κ] (l : List (κ × β)) (key : κ) (value : β) : List (κ × β) :=
  if (l.lookup key).isSome then l.map fun p => (p.1, if p.1 = key then value else p.2)
  else (key, value) :: l

theorem lookup_assign {κ β : Type} [DecidableEq κ] (l : List (κ × β)) (key k : κ) (value : β) :
    (assign l key value).lookup k = if k = key then some value else l.lookup k := by
  unfold assign
  split
  · next h =>
    rw [lookup_map_snd (fun k' v => if k' = key then value else v)]
    by_cases hk : k = key
    · subst hk; obtain ⟨v, hv⟩ := Option.isSome_iff_exists.1 h; simp [hv]
    · cases l.lookup k <;> simp [hk]
  · exact lookup_cons_eq _ _ _ _

theorem nodup_assign {κ β : Type} [DecidableEq κ] {l : List (κ × β)} (h : (l.map (·.1)).Nodup)
    (key : κ) (value : β) : ((assign l key value).map (·.1)).Nodup := by
  unfold assign
  split
  · simpa [Function.comp_def] using h
  · next hk =>
    refine List.nodup_cons.2 ⟨fun hm => hk ?_, h⟩
    obtain ⟨p, hp, rfl⟩ := List.mem_map.1 hm
    exact List.lookup_isSome_iff.2 ⟨p, hp, by simp⟩

namespace TransportNetwork

variable (net : TransportNetwork)

def getStation (stationId : Id) : Option GraphNode := net.stations.lookup stationId

def getLine (lineId : Id) : Option LineInternal := net.lines.lookup lineId

def getRoute (lineId routeId : Id) : Option RouteInternal :=
  (net.getLine lineId).bind (·.routes.lookup routeId)

/-- The edge list of the node a stop pointer designates. -/
def edgesOf (stationId : Id) : List GraphEdge := ((net.getStation stationId).map (·.edges)).getD []

def modifyStation (stationId : Id) (f : GraphNode → GraphNode) : TransportNetwork :=
  { net with stations := net.stations.map fun p => (p.1, if p.1 = stationId then f p.2 else p.2) }

variable {net}

theorem getStation_modifyStation (a s : Id) (f : GraphNode → GraphNode) :
    (net.modifyStation a f).getStation s =
      if s = a then (net.getStation s).map f else net.getStation s := by
  simp only [modifyStation, getStation, lookup_map_snd (fun k n => if k = a then f n else n)]
  split <;> simp_all

@[simp] theorem modifyStation_lines (a : Id) (f : GraphNode → GraphNode) :
    (net.modifyStation a f).lines = net.lines := rfl

@[simp] theorem modifyStation_allocated (a : Id) (f : GraphNode → GraphNode) :
    (net.modifyStation a f).allocated = net.allocated := rfl

@[simp] theorem modifyStation_ids (a : Id) (f : GraphNode → GraphNode) :
    (net.modifyStation a f).stations.map (·.1) = net.stations.map (·.1) := by
  simp [modifyStation]

theorem edgesOf_modifyStation (a s : Id) (f : GraphNode → GraphNode) :
    (net.modifyStation a f).edgesOf s =
      if s = a then ((net.getStation s).map fun n => (f n).edges).getD [] else net.edgesOf s := by
  simp only [edgesOf, getStation_modifyStation]
  split <;> simp [Option.map_map, Function.comp_def]

theorem isSome_getStation_modifyStation (a s : Id) (f : GraphNode → GraphNode) :
    ((net.modifyStation a f).getStation s).isSome = (net.getStation s).isSome := by
  rw [getStation_modifyStation]; split <;> simp

end TransportNetwork

namespace GraphNode

def findEdgeForRoute (node : GraphNode) (route : RouteInternal) : Option GraphEdge :=
  node.edges.find? fun edge => edge.route.addr = route.addr

end GraphNode

end NetworkMonitor
