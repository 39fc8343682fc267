import NetworkMonitor.Network.Types

namespace NetworkMonitor

/-- The `nlohmann::json` values that the `TravelRoute` converters write or read. -/
inductive Json where
  | null
  | boolean (b : Bool)
  | numberInteger (i : Int)
  | numberUnsigned (n : Nat)
  | string (s : String)
  | array (elems : List Json)
  | object (fields : List (String × Json))
  deriving Repr

namespace Json

def typeName : Json → String
  | .null => "null"
  | .boolean _ => "boolean"
  | .numberInteger _ | .numberUnsigned _ => "number"
  | .string _ => "string"
  | .array _ => "array"
  | .object _ => "object"

/-- `json::operator[](key) = value`: a null value becomes an object, and an existing key is
overwritten. -/
def set : Json → String → Json → Except String Json
  | .null, key, value => .ok (.object [(key, value)])
  | .object fields, key, value =>
    .ok (.object (if (fields.lookup key).isSome then
      fields.map fun f => (f.1, if f.1 = key then value else f.2) else fields ++ [(key, value)]))
  | j, _, _ => .error ("[json.exception.type_error.305] cannot use operator[] with a string argument with " ++
      j.typeName)

/-- `json::at(key)` (`at` is a Lean keyword). -/
def atKey (key : String) : Json → Except String Json
  | .object fields =>
    match fields.lookup key with
    | some v => .ok v
    | none => .error ("[json.exception.out_of_range.403] key '" ++ key ++ "' not found")
  | j => .error ("[json.exception.type_error.304] cannot use at() with " ++ j.typeName)

/-- `json::get<std::string>()`. -/
def getString : Json → Except String String
  | .string s => .ok s
  | j => .error ("[json.exception.type_error.302] type must be string, but is " ++ j.typeName)

/-- `json::get<unsigned int>()`: the stored number goes through `static_cast<unsigned int>`. -/
def getUInt32 : Json → Except String UInt32
  | .numberUnsigned n => .ok (UInt32.ofNat n)
  | .numberInteger i => .ok (UInt32.ofNat (i % 2 ^ 32).toNat)
  | .boolean b => .ok (if b then 1 else 0)
  | j => .error ("[json.exception.type_error.302] type must be number, but is " ++ j.typeName)

/-- `json::get<std::vector<T>>()`, converting each element with `get`. -/
def getArray {α : Type} (get : Json → Except String α) : Json → Except String (List α)
  | .array elems => elems.mapM get
  | j => .error ("[json.exception.type_error.302] type must be array, but is " ++ j.typeName)

end Json

namespace TravelRoute

/-- `to_json(json&, const TravelRoute::Step&)`. -/
def Step.toJson (src : Step) : Except String Json := do
  let dst ← Json.null.set "start_station_id" (.string src.startStationId)
  let dst ← dst.set "end_station_id" (.string src.endStationId)
  let dst ← dst.set "line_id" (.string src.lineId)
  let dst ← dst.set "route_id" (.string src.routeId)
  dst.set "travel_time" (.numberUnsigned src.travelTime.toNat)

/-- `from_json(const json&, TravelRoute::Step&)`. -/
def Step.fromJson (src : Json) : Except String Step := do
  let startStationId ← (← src.atKey "start_station_id").getString
  let endStationId ← (← src.atKey "end_station_id").getString
  let lineId ← (← src.atKey "line_id").getString
  let routeId ← (← src.atKey "route_id").getString
  let travelTime ← (← src.atKey "travel_time").getUInt32
  return { startStationId, endStationId, lineId, routeId, travelTime }

/-- `to_json(json&, const TravelRoute&)`; `dst["steps"] = src.steps` converts each step. -/
def toJson (src : TravelRoute) : Except String Json := do
  let dst ← Json.null.set "start_station_id" (.string src.startStationId)
  let dst ← dst.set "end_station_id" (.string src.endStationId)
  let dst ← dst.set "total_travel_time" (.numberUnsigned src.totalTravelTime.toNat)
  let steps ← src.steps.mapM Step.toJson
  dst.set "steps" (.array steps)

/-- `from_json(const json&, TravelRoute&)`. -/
def fromJson (src : Json) : Except String TravelRoute := do
  let startStationId ← (← src.atKey "start_station_id").getString
  let endStationId ← (← src.atKey "end_station_id").getString
  let totalTravelTime ← (← src.atKey "total_travel_time").getUInt32
  let steps ← (← src.atKey "steps").getArray Step.fromJson
  return { startStationId, endStationId, totalTravelTime, steps }

theorem getUInt32_numberUnsigned (t : UInt32) : (Json.numberUnsigned t.toNat).getUInt32 = .ok t :=
  congrArg Except.ok <| UInt32.toNat.inj <| by
    simp [UInt32.toNat, UInt32.ofNat, Fin.ofNat, Nat.mod_eq_of_lt t.toNat_lt_size]

theorem Step.toJson_eq (s : Step) : s.toJson = .ok (.object [
    ("start_station_id", .string s.startStationId), ("end_station_id", .string s.endStationId),
    ("line_id", .string s.lineId), ("route_id", .string s.routeId),
    ("travel_time", .numberUnsigned s.travelTime.toNat)]) := by
  rfl

theorem step_fromJson_toJson (s : Step) : ∃ j, s.toJson = .ok j ∧ Step.fromJson j = .ok s :=
  ⟨_, s.toJson_eq, by
    show Step.mk _ _ _ _ <$> (Json.numberUnsigned s.travelTime.toNat).getUInt32 = _
    rw [getUInt32_numberUnsigned]; rfl⟩

theorem steps_fromJson_toJson :
    ∀ steps : List Step, ∃ js, steps.mapM Step.toJson = .ok js ∧ js.mapM Step.fromJson = .ok steps
  | [] => ⟨[], rfl, rfl⟩
  | s :: steps => by
    obtain ⟨j, hj, hs⟩ := step_fromJson_toJson s
    obtain ⟨js, hjs, hsteps⟩ := steps_fromJson_toJson steps
    exact ⟨j :: js, by rw [List.mapM_cons, hj, hjs]; rfl, by rw [List.mapM_cons, hs, hsteps]; rfl⟩

theorem fromJson_toJson (r : TravelRoute) : ∃ j, r.toJson = .ok j ∧ fromJson j = .ok r := by
  obtain ⟨js, hjs, hsteps⟩ := steps_fromJson_toJson r.steps
  refine ⟨_, by rw [toJson, hjs]; rfl, ?_⟩
  show (TravelRoute.mk r.startStationId r.endStationId <$>
    (Json.numberUnsigned r.totalTravelTime.toNat).getUInt32 <*> js.mapM Step.fromJson) = _
  rw [getUInt32_numberUnsigned, hsteps]
  rfl

end TravelRoute

end NetworkMonitor
