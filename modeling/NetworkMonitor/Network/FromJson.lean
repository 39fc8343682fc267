import Mathlib.Data.List.Sort
import NetworkMonitor.Network.Json
import NetworkMonitor.Network.Lines
import NetworkMonitor.Network.TravelTimes
import NetworkMonitor.Network.Passengers

namespace NetworkMonitor

namespace Json

/-- The values a range-for over a `json` visits: an array's elements, an object's values in the
key order of its `std::map`, nothing for null, and any other value once, itself. -/
def items : Json → List Json
  | .null => []
  | .array elems => elems
  | .object fields => (@List.insertionSort _ (fun a b : String × Json => String.le a.1 b.1)
      (fun a b => String.decLE a.1 b.1) fields).map (·.2)
  | j => [j]

end Json

theorem mapM_cons_eq_ok {α β : Type} {f : α → Except String β} {a : α} {as : List α}
    {bs : List β} :
    (a :: as).mapM f = .ok bs ↔ ∃ b bs', f a = .ok b ∧ as.mapM f = .ok bs' ∧ bs = b :: bs' := by
  rw [List.mapM_cons]
  cases f a <;> cases as.mapM f <;> simp [bind, Except.bind, pure, Except.pure, eq_comm]

/-- `ops` run in turn from `net`, with whether every call returned true. -/
def runAll : TransportNetwork → List NetworkOp → Bool × TransportNetwork
  | net, [] => (true, net)
  | net, op :: ops =>
    let rest := runAll (op.apply net).2 ops
    ((op.apply net).1 && rest.1, rest.2)

@[simp] theorem runAll_snd : ∀ (net : TransportNetwork) (ops : List NetworkOp),
    (runAll net ops).2 = run net ops
  | _, [] => rfl
  | net, op :: ops => runAll_snd (op.apply net).2 ops

theorem runAll_append : ∀ (net : TransportNetwork) (ops ops' : List NetworkOp),
    runAll net (ops ++ ops') =
      ((runAll net ops).1 && (runAll (runAll net ops).2 ops').1, (runAll (runAll net ops).2 ops').2)
  | _, [], _ => rfl
  | net, op :: ops, ops' => by
    rw [List.cons_append]
    simp only [runAll, runAll_append _ ops ops', Bool.and_assoc]

theorem runAll_append_eq_true {net net' : TransportNetwork} {ops ops' : List NetworkOp} :
    runAll net (ops ++ ops') = (true, net') ↔
      ∃ mid, runAll net ops = (true, mid) ∧ runAll mid ops' = (true, net') := by
  rw [runAll_append]
  constructor
  · intro h
    simp only [Prod.mk.injEq, Bool.and_eq_true] at h
    exact ⟨_, Prod.ext h.1.1 rfl, Prod.ext h.1.2 h.2⟩
  · rintro ⟨mid, h₁, h₂⟩
    simp [h₁, h₂]

theorem run_append (net : TransportNetwork) (ops ops' : List NetworkOp) :
    run net (ops ++ ops') = run (run net ops) ops' :=
  List.foldl_append _ _ _ _

namespace NetworkOp

/-- The `SetTravelTime` call one travel-time entry asks for. -/
def setTravelTimeOf (entry : Id × Id × UInt32) : NetworkOp :=
  .setTravelTime entry.1 entry.2.1 entry.2.2

@[simp] theorem apply_setTravelTimeOf (entry : Id × Id × UInt32) (net : TransportNetwork) :
    (setTravelTimeOf entry).apply net = net.setTravelTime entry.1 entry.2.1 entry.2.2 := rfl

end NetworkOp

/-- `from_json(const json&, PassengerEvent&)`: any `passenger_event` other than "in" is an Out.
The datetime is read, and can throw; its last character is dropped and the rest handed to
`boost::posix_time::from_iso_extended_string`, whose parse is not modelled. -/
def PassengerEvent.fromJson (src : Json) : Except String PassengerEvent := do
  let stationId ← (← src.atKey "station_id").getString
  let type := if (← (← src.atKey "passenger_event").getString) = "in" then EventType.In else .Out
  let _datetimeZ ← (← src.atKey "datetime").getString
  return ⟨stationId, type⟩

namespace TransportNetwork

/-- `Station{ stationJson.at("station_id").get<std::string>(), stationJson.at("name").get<...>() }`
in `FromJson`: the name is read, and can throw, but no modelled function uses it. -/
def readStation (stationJson : Json) : Except String Station := do
  let id ← (← stationJson.atKey "station_id").getString
  let _name ← (← stationJson.atKey "name").getString
  return ⟨id⟩

/-- The `Route{ ... }` of `FromJson`'s route loop: direction, line and end stations are read in
turn, and can throw, but only the id and the stops are kept. -/
def readRoute (routeJson : Json) : Except String Route := do
  let id ← (← routeJson.atKey "route_id").getString
  let _direction ← (← routeJson.atKey "direction").getString
  let _lineId ← (← routeJson.atKey "line_id").getString
  let _startStationId ← (← routeJson.atKey "start_station_id").getString
  let _endStationId ← (← routeJson.atKey "end_station_id").getString
  let stops ← (← routeJson.atKey "route_stops").getArray Json.getString
  return ⟨id, stops⟩

/-- The `Line{ ... }` of `FromJson` with its routes appended by the route loop. -/
def readLine (lineJson : Json) : Except String Line := do
  let id ← (← lineJson.atKey "line_id").getString
  let _name ← (← lineJson.atKey "name").getString
  let routes ← (← lineJson.atKey "routes").items.mapM readRoute
  return ⟨id, routes⟩

/-- The three arguments of `SetTravelTime` in `FromJson`'s last loop. -/
def readTravelTime (travelTimeJson : Json) : Except String (Id × Id × UInt32) := do
  let stationA ← (← travelTimeJson.atKey "start_station_id").getString
  let stationB ← (← travelTimeJson.atKey "end_station_id").getString
  let travelTime ← (← travelTimeJson.atKey "travel_time").getUInt32
  return (stationA, stationB, travelTime)

/-- The station loop and the line loop of `FromJson`: read each entry, make the call `op` of it,
`ok &= ...`, and throw `message` as soon as `ok` is false. Nothing is undone on a throw. -/
def addEach {α : Type} (read : Json → Except String α) (op : α → NetworkOp) (message : α → String) :
    TransportNetwork → Bool → List Json → Except String Bool × TransportNetwork
  | net, ok, [] => (.ok ok, net)
  | net, ok, entry :: entries =>
    match read entry with
    | .error e => (.error e, net)
    | .ok x =>
      let call := (op x).apply net
      let ok := ok && call.1
      if ok then addEach read op message call.2 ok entries else (.error (message x), call.2)

def addStationsFromJson : TransportNetwork → Bool → List Json → Except String Bool × TransportNetwork :=
  addEach readStation .addStation fun station => "Could not add station " ++ station.id

def addLinesFromJson : TransportNetwork → Bool → List Json → Except String Bool × TransportNetwork :=
  addEach readLine .addLine fun line => "Could not add line " ++ line.id

/-- The travel-time loop of `FromJson`: `ok &= SetTravelTime(...)` for each entry; a false result
does not stop the loop. -/
def setTravelTimesFromJson : TransportNetwork → Bool → List Json → Except String Bool × TransportNetwork
  | net, ok, [] => (.ok ok, net)
  | net, ok, travelTimeJson :: rest =>
    match readTravelTime travelTimeJson with
    | .error e => (.error e, net)
    | .ok (stationA, stationB, travelTime) =>
      let call := net.setTravelTime stationA stationB travelTime
      setTravelTimesFromJson call.2 (ok && call.1) rest

/-- `TransportNetwork::FromJson(src)`: the result is `ok`, or the text of the exception thrown,
with the network as the calls made so far left it. -/
def fromJson (net : TransportNetwork) (src : Json) : Except String Bool × TransportNetwork :=
  let ok := true
  match src.atKey "stations" with
  | .error e => (.error e, net)
  | .ok stations =>
    match net.addStationsFromJson ok stations.items with
    | (.error e, net) => (.error e, net)
    | (.ok ok, net) =>
      match src.atKey "lines" with
      | .error e => (.error e, net)
      | .ok lines =>
        match net.addLinesFromJson ok lines.items with
        | (.error e, net) => (.error e, net)
        | (.ok ok, net) =>
          match src.atKey "travel_times" with
          | .error e => (.error e, net)
          | .ok travelTimes => net.setTravelTimesFromJson ok travelTimes.items

/-- What `FromJson` reads from `src` when every entry reads: the stations, the lines and the
travel-time entries, in order. -/
def readNetwork (src : Json) : Except String (List Station × List Line × List (Id × Id × UInt32)) := do
  let stations ← (← src.atKey "stations").items.mapM readStation
  let lines ← (← src.atKey "lines").items.mapM readLine
  let travelTimes ← (← src.atKey "travel_times").items.mapM readTravelTime
  return (stations, lines, travelTimes)

/-- The calls `FromJson` makes for what it read, in the order it makes them. -/
def loadCalls (stations : List Station) (lines : List Line) (travelTimes : List (Id × Id × UInt32)) :
    List NetworkOp :=
  stations.map .addStation ++ lines.map .addLine ++ travelTimes.map NetworkOp.setTravelTimeOf

section loops

variable {α : Type} {read : Json → Except String α} {op : α → NetworkOp} {message : α → String}

theorem addEach_ok_iff : ∀ {net net' : TransportNetwork} {entries : List Json} {ok : Bool},
    addEach read op message net true entries = (.ok ok, net') ↔
      ∃ xs, entries.mapM read = .ok xs ∧ runAll net (xs.map op) = (true, net') ∧ ok = true
  | net, net', [], ok => by
    simp only [addEach, Prod.mk.injEq, Except.ok.injEq, List.mapM_nil]
    constructor
    · rintro ⟨rfl, rfl⟩; exact ⟨[], rfl, rfl, rfl⟩
    · rintro ⟨xs, hxs, h, rfl⟩
      cases hxs; cases h; exact ⟨rfl, rfl⟩
  | net, net', entry :: entries, ok => by
    simp only [mapM_cons_eq_ok]
    cases hr : read entry with
    | error e => simp [addEach, hr]
    | ok x =>
      cases hc : ((op x).apply net).1
      · simp only [addEach, hr, hc, Bool.and_false, Bool.false_eq_true, if_false]
        refine iff_of_false (by simp) ?_
        rintro ⟨_, ⟨x', xs, hx, -, rfl⟩, h, -⟩
        cases hx
        simp [runAll, hc] at h
      · simp only [addEach, hr, hc, Bool.true_and, if_true, addEach_ok_iff]
        constructor
        · rintro ⟨xs, hxs, h, rfl⟩
          exact ⟨x :: xs, ⟨x, xs, rfl, hxs, rfl⟩, by simp [runAll, hc, h], rfl⟩
        · rintro ⟨_, ⟨x', xs, hx, hxs, rfl⟩, h, rfl⟩
          cases hx
          simp only [List.map_cons, runAll, hc, Bool.true_and] at h
          exact ⟨xs, hxs, Prod.ext (congrArg Prod.fst h) (congrArg Prod.snd h), rfl⟩

theorem addEach_error : ∀ {net net' : TransportNetwork} {entries : List Json} {xs : List α} {e : String},
    addEach read op message net true entries = (.error e, net') → entries.mapM read = .ok xs →
      ∃ pre x post mid, xs = pre ++ x :: post ∧ runAll net (pre.map op) = (true, mid) ∧
        (op x).apply mid = (false, net') ∧ e = message x
  | _, _, [], _, _, h, _ => by simp [addEach] at h
  | net, net', entry :: entries, _, e, h, hxs => by
    obtain ⟨x, xs, hx, hxs', rfl⟩ := mapM_cons_eq_ok.1 hxs
    cases hc : ((op x).apply net).1
    · simp only [addEach, hx, hc, Bool.and_false, Bool.false_eq_true, if_false, Prod.mk.injEq,
        Except.error.injEq] at h
      exact ⟨[], x, xs, net, rfl, rfl, Prod.ext hc h.2, h.1.symm⟩
    · simp only [addEach, hx, hc, Bool.true_and, if_true] at h
      obtain ⟨pre, y, post, mid, rfl, h₁, h₂, rfl⟩ := addEach_error h hxs'
      exact ⟨x :: pre, y, post, mid, rfl, by simp [runAll, hc, h₁], h₂, rfl⟩

end loops

theorem setTravelTimesFromJson_ok_iff : ∀ {net net' : TransportNetwork} {entries : List Json}
    {ok ok' : Bool}, net.setTravelTimesFromJson ok entries = (.ok ok', net') ↔
      ∃ travelTimes set, entries.mapM readTravelTime = .ok travelTimes ∧
        runAll net (travelTimes.map NetworkOp.setTravelTimeOf) = (set, net') ∧ ok' = (ok && set)
  | net, net', [], ok, ok' => by
    simp only [setTravelTimesFromJson, Prod.mk.injEq, Except.ok.injEq, List.mapM_nil]
    constructor
    · rintro ⟨rfl, rfl⟩; exact ⟨[], true, rfl, rfl, by simp⟩
    · rintro ⟨_, _, ⟨⟩, ⟨⟩, rfl⟩; simp
  | net, net', entry :: entries, ok, ok' => by
    simp only [mapM_cons_eq_ok]
    cases hr : readTravelTime entry with
    | error e => simp [setTravelTimesFromJson, hr]
    | ok p =>
      obtain ⟨a, b, t⟩ := p
      simp only [setTravelTimesFromJson, hr, setTravelTimesFromJson_ok_iff]
      constructor
      · rintro ⟨ts, set, hts, h, rfl⟩
        exact ⟨(a, b, t) :: ts, _, ⟨_, ts, rfl, hts, rfl⟩,
          by simp only [List.map_cons, runAll, NetworkOp.apply_setTravelTimeOf, h], Bool.and_assoc _ _ _⟩
      · rintro ⟨_, _, ⟨_, ts, ⟨⟩, hts, rfl⟩, h, rfl⟩
        simp only [List.map_cons, runAll, NetworkOp.apply_setTravelTimeOf, Prod.mk.injEq] at h
        exact ⟨ts, _, hts, Prod.ext rfl h.2, by rw [← h.1, Bool.and_assoc]⟩

theorem readNetwork_eq_ok {src : Json} {stations : List Station} {lines : List Line}
    {travelTimes : List (Id × Id × UInt32)} :
    readNetwork src = .ok (stations, lines, travelTimes) ↔
      ∃ S L T, src.atKey "stations" = .ok S ∧ S.items.mapM readStation = .ok stations ∧
        src.atKey "lines" = .ok L ∧ L.items.mapM readLine = .ok lines ∧
        src.atKey "travel_times" = .ok T ∧ T.items.mapM readTravelTime = .ok travelTimes := by
  simp only [readNetwork, except_bind_eq_ok]
  constructor
  · rintro ⟨S, hS, _, hss, L, hL, _, hls, T, hT, _, hts, ⟨⟩⟩
    exact ⟨S, L, T, hS, hss, hL, hls, hT, hts⟩
  · rintro ⟨S, L, T, hS, hss, hL, hls, hT, hts⟩
    exact ⟨S, hS, _, hss, L, hL, _, hls, T, hT, _, hts, rfl⟩

section travelTimes

/-- The travel time of the last entry of `travelTimes` that names `x` and `y`, in either order. -/
def lastTravelTime (x y : Id) (travelTimes : List (Id × Id × UInt32)) : Option UInt32 :=
  ((travelTimes.filter fun entry => (x = entry.1 ∧ y = entry.2.1) ∨ (x = entry.2.1 ∧ y = entry.1)
    ).getLast?).map (·.2.2)

theorem getD_lastTravelTime_cons (x y : Id) (entry : Id × Id × UInt32)
    (travelTimes : List (Id × Id × UInt32)) (d : UInt32) :
    (lastTravelTime x y (entry :: travelTimes)).getD d = (lastTravelTime x y travelTimes).getD
      (if (x = entry.1 ∧ y = entry.2.1) ∨ (x = entry.2.1 ∧ y = entry.1) then entry.2.2 else d) := by
  unfold lastTravelTime
  by_cases h : (x = entry.1 ∧ y = entry.2.1) ∨ (x = entry.2.1 ∧ y = entry.1)
  · have hd : decide ((x = entry.1 ∧ y = entry.2.1) ∨ (x = entry.2.1 ∧ y = entry.1)) = true :=
      decide_eq_true h
    simp only [List.filter_cons, hd, if_true, if_pos h, List.getLast?_cons]
    cases (List.filter _ travelTimes).getLast? <;> rfl
  · have hd : decide ((x = entry.1 ∧ y = entry.2.1) ∨ (x = entry.2.1 ∧ y = entry.1)) = false :=
      decide_eq_false h
    simp only [List.filter_cons, hd, Bool.false_eq_true, if_false, if_neg h]

theorem isSome_getStation_run_setTravelTimes (travelTimes : List (Id × Id × UInt32))
    (net : TransportNetwork) (s : Id) :
    ((run net (travelTimes.map NetworkOp.setTravelTimeOf)).getStation s).isSome =
      (net.getStation s).isSome := by
  induction travelTimes generalizing net with
  | nil => rfl
  | cons entry travelTimes ih =>
    simp only [List.map_cons, run_cons, NetworkOp.apply_setTravelTimeOf, ih,
      isSome_getStation_setTravelTime]

theorem joined_run_setTravelTimes (travelTimes : List (Id × Id × UInt32)) (net : TransportNetwork)
    (x y : Id) : (run net (travelTimes.map NetworkOp.setTravelTimeOf)).joined x y = net.joined x y := by
  induction travelTimes generalizing net with
  | nil => rfl
  | cons entry travelTimes ih =>
    simp only [List.map_cons, run_cons, NetworkOp.apply_setTravelTimeOf, ih, joined_setTravelTime]

theorem runAll_setTravelTimes_fst (travelTimes : List (Id × Id × UInt32)) (net : TransportNetwork) :
    (runAll net (travelTimes.map NetworkOp.setTravelTimeOf)).1 = travelTimes.all fun entry =>
      (net.getStation entry.1).isSome && (net.getStation entry.2.1).isSome &&
        net.joined entry.1 entry.2.1 := by
  induction travelTimes generalizing net with
  | nil => rfl
  | cons entry travelTimes ih =>
    simp only [List.map_cons, runAll, NetworkOp.apply_setTravelTimeOf, setTravelTime_fst, ih,
      List.all_cons, isSome_getStation_setTravelTime, joined_setTravelTime]

theorem getTravelTime_run_setTravelTimes (travelTimes : List (Id × Id × UInt32))
    (net : TransportNetwork) (x y : Id) :
    (run net (travelTimes.map NetworkOp.setTravelTimeOf)).getTravelTime x y =
      if (net.getStation x).isSome ∧ (net.getStation y).isSome ∧ net.joined x y then
        (lastTravelTime x y travelTimes).getD (net.getTravelTime x y)
      else net.getTravelTime x y := by
  induction travelTimes generalizing net with
  | nil => split <;> rfl
  | cons entry travelTimes ih =>
    obtain ⟨a, b, t⟩ := entry
    simp only [List.map_cons, run_cons, NetworkOp.apply_setTravelTimeOf, ih,
      isSome_getStation_setTravelTime, joined_setTravelTime, getD_lastTravelTime_cons,
      getTravelTime_setTravelTime]
    by_cases hP : (x = a ∧ y = b) ∨ (x = b ∧ y = a)
    · have hs : ((net.getStation a).isSome ∧ (net.getStation b).isSome) ↔
          ((net.getStation x).isSome ∧ (net.getStation y).isSome) := by
        rcases hP with ⟨rfl, rfl⟩ | ⟨rfl, rfl⟩
        · rfl
        · exact and_comm
      by_cases hC : (net.getStation x).isSome ∧ (net.getStation y).isSome ∧ net.joined x y
      · simp only [hC, hP, and_self, if_true, hs.2 ⟨hC.1, hC.2.1⟩]
      · rw [if_neg hC, if_neg hC, if_neg fun h => hC ⟨(hs.1 ⟨h.1, h.2.1⟩).1, (hs.1 ⟨h.1, h.2.1⟩).2,
          h.2.2.2⟩]
    · simp only [hP, false_and, and_false, if_false]

end travelTimes

theorem TravelTimesUnset.run_of_untimed {net : TransportNetwork} (h : net.TravelTimesUnset) :
    ∀ {ops : List NetworkOp}, (∀ op ∈ ops, ¬op.SetsTravelTime) → (run net ops).TravelTimesUnset
  | [], _ => h
  | op :: _, hops => by
    have hop := hops op (List.mem_cons_self _ _)
    rw [run_cons]
    refine TravelTimesUnset.run_of_untimed ?_ fun op' h' => hops op' (List.mem_cons_of_mem _ h')
    cases op with
    | addStation st => exact h.of_edgesOf fun s e he => .inl ((edgesOf_addStation st s) ▸ he)
    | addLine line => exact h.addLine line
    | setTravelTime a b t => exact absurd trivial hop
    | recordPassengerEvent ev =>
      exact h.of_edgesOf fun s e he => .inl ((edgesOf_recordPassengerEvent ev s) ▸ he)

theorem fromJson_ok {net net' : TransportNetwork} {src : Json} {ok : Bool}
    (h : net.fromJson src = (.ok ok, net')) : ∃ stations lines travelTimes mid,
      readNetwork src = .ok (stations, lines, travelTimes) ∧
      runAll net (stations.map .addStation ++ lines.map .addLine) = (true, mid) ∧
      runAll mid (travelTimes.map NetworkOp.setTravelTimeOf) = (ok, net') := by
  unfold fromJson at h
  cases hS : src.atKey "stations" with
  | error e => simp [hS] at h
  | ok S =>
  cases e₁ : net.addStationsFromJson true S.items with
  | mk r₁ n₁ =>
  cases r₁ with
  | error e => simp [hS, e₁] at h
  | ok ok₁ =>
  obtain ⟨ss, hss, h₁, rfl⟩ := addEach_ok_iff.1 e₁
  cases hL : src.atKey "lines" with
  | error e => simp [hS, e₁, hL] at h
  | ok L =>
  cases e₂ : n₁.addLinesFromJson true L.items with
  | mk r₂ mid =>
  cases r₂ with
  | error e => simp [hS, e₁, hL, e₂] at h
  | ok ok₂ =>
  obtain ⟨ls, hls, h₂, rfl⟩ := addEach_ok_iff.1 e₂
  cases hT : src.atKey "travel_times" with
  | error e => simp [hS, e₁, hL, e₂, hT] at h
  | ok T =>
  simp only [hS, e₁, hL, e₂, hT] at h
  obtain ⟨ts, set, hts, h₃, rfl⟩ := setTravelTimesFromJson_ok_iff.1 h
  exact ⟨ss, ls, ts, mid, readNetwork_eq_ok.2 ⟨S, L, T, hS, hss, hL, hls, hT, hts⟩,
    runAll_append_eq_true.2 ⟨n₁, h₁, h₂⟩, h₃⟩

theorem fromJson_eq_ok_iff {net net' : TransportNetwork} {src : Json} {ok : Bool} :
    net.fromJson src = (.ok ok, net') ↔ ∃ stations lines travelTimes mid,
      readNetwork src = .ok (stations, lines, travelTimes) ∧
      runAll net (stations.map .addStation ++ lines.map .addLine) = (true, mid) ∧
      runAll mid (travelTimes.map NetworkOp.setTravelTimeOf) = (ok, net') := by
  refine ⟨fromJson_ok, ?_⟩
  rintro ⟨ss, ls, ts, mid, hread, htop, hset⟩
  obtain ⟨S, L, T, hS, hss, hL, hls, hT, hts⟩ := readNetwork_eq_ok.1 hread
  obtain ⟨n₁, h₁, h₂⟩ := runAll_append_eq_true.1 htop
  have e₁ : net.addStationsFromJson true S.items = (.ok true, n₁) := addEach_ok_iff.2 ⟨ss, hss, h₁, rfl⟩
  have e₂ : n₁.addLinesFromJson true L.items = (.ok true, mid) := addEach_ok_iff.2 ⟨ls, hls, h₂, rfl⟩
  have e₃ : mid.setTravelTimesFromJson true T.items = (.ok ok, net') :=
    setTravelTimesFromJson_ok_iff.2 ⟨ts, ok, hts, hset, (Bool.true_and ok).symm⟩
  simp only [fromJson, hS, e₁, hL, e₂, hT, e₃]

theorem fromJson_eq_run {net net' : TransportNetwork} {src : Json} {ok : Bool}
    {stations : List Station} {lines : List Line} {travelTimes : List (Id × Id × UInt32)}
    (hread : readNetwork src = .ok (stations, lines, travelTimes))
    (h : net.fromJson src = (.ok ok, net')) : net' = run net (loadCalls stations lines travelTimes) := by
  obtain ⟨ss, ls, ts, mid, hread', htop, hset⟩ := fromJson_ok h
  obtain ⟨rfl, rfl, rfl⟩ : ss = stations ∧ ls = lines ∧ ts = travelTimes := by
    simpa using hread'.symm.trans hread
  rw [loadCalls, run_append, ← runAll_snd net, htop, ← runAll_snd, hset]

theorem fromJson_loops {net net' : TransportNetwork} {src : Json} {ok : Bool}
    {stations : List Station} {lines : List Line} {travelTimes : List (Id × Id × UInt32)}
    (hread : readNetwork src = .ok (stations, lines, travelTimes))
    (h : net.fromJson src = (.ok ok, net')) : ∃ n₁ mid,
      runAll net (stations.map .addStation) = (true, n₁) ∧ runAll n₁ (lines.map .addLine) = (true, mid) ∧
      net' = run mid (travelTimes.map NetworkOp.setTravelTimeOf) := by
  obtain ⟨ss, ls, ts, mid, hread', htop, hset⟩ := fromJson_ok h
  obtain ⟨rfl, rfl, rfl⟩ : ss = stations ∧ ls = lines ∧ ts = travelTimes := by
    simpa using hread'.symm.trans hread
  obtain ⟨n₁, h₁, h₂⟩ := runAll_append_eq_true.1 htop
  exact ⟨n₁, mid, h₁, h₂, by rw [← runAll_snd, hset]⟩

theorem fromJson_error {net net' : TransportNetwork} {src : Json} {e : String}
    {stations : List Station} {lines : List Line} {travelTimes : List (Id × Id × UInt32)}
    (hread : readNetwork src = .ok (stations, lines, travelTimes))
    (h : net.fromJson src = (.error e, net')) :
    ∃ pre op post mid, stations.map .addStation ++ lines.map .addLine = pre ++ op :: post ∧
      runAll net pre = (true, mid) ∧ op.apply mid = (false, net') ∧
      ((∃ station, op = .addStation station ∧ e = "Could not add station " ++ station.id) ∨
        ∃ line, op = .addLine line ∧ e = "Could not add line " ++ line.id) := by
  obtain ⟨S, L, T, hS, hss, hL, hls, hT, hts⟩ := readNetwork_eq_ok.1 hread
  unfold fromJson at h
  cases e₁ : net.addStationsFromJson true S.items with
  | mk r₁ n₁ =>
  cases r₁ with
  | error e' =>
    simp only [hS, e₁, Prod.mk.injEq, Except.error.injEq] at h
    obtain ⟨rfl, rfl⟩ := h
    obtain ⟨pre, station, post, mid, rfl, h₁, h₂, rfl⟩ := addEach_error e₁ hss
    exact ⟨pre.map .addStation, .addStation station, post.map .addStation ++ lines.map .addLine, mid,
      by simp, h₁, h₂, .inl ⟨station, rfl, rfl⟩⟩
  | ok ok₁ =>
  obtain ⟨ss, hss', h₁, rfl⟩ := addEach_ok_iff.1 e₁
  cases hss.symm.trans hss'
  cases e₂ : n₁.addLinesFromJson true L.items with
  | mk r₂ n₂ =>
  cases r₂ with
  | error e' =>
    simp only [hS, e₁, hL, e₂, Prod.mk.injEq, Except.error.injEq] at h
    obtain ⟨rfl, rfl⟩ := h
    obtain ⟨pre, line, post, mid, rfl, h₂, h₃, rfl⟩ := addEach_error e₂ hls
    exact ⟨stations.map .addStation ++ pre.map .addLine, .addLine line, post.map .addLine, mid,
      by simp, runAll_append_eq_true.2 ⟨n₁, h₁, h₂⟩, h₃, .inr ⟨line, rfl, rfl⟩⟩
  | ok ok₂ =>
  obtain ⟨-, -, -, rfl⟩ := addEach_ok_iff.1 e₂
  have e₃ : n₂.setTravelTimesFromJson true T.items =
      (.ok (true && (runAll n₂ (travelTimes.map NetworkOp.setTravelTimeOf)).1),
        (runAll n₂ (travelTimes.map NetworkOp.setTravelTimeOf)).2) :=
    setTravelTimesFromJson_ok_iff.2 ⟨travelTimes, _, hts, rfl, rfl⟩
  simp only [hS, e₁, hL, e₂, hT, e₃] at h
  cases h

/-- A network file: the stations `stationIds`, a line L1 whose route R1 runs from A to B, and the
travel time 5 given for B, A. -/
def sampleNetworkFile (stationIds : List Id) : Json :=
  .object [
    ("stations", .array (stationIds.map fun id =>
      .object [("station_id", .string id), ("name", .string id)])),
    ("lines", .array [.object [("line_id", .string "L1"), ("name", .string "Line 1"),
      ("routes", .array [.object [("route_id", .string "R1"), ("direction", .string "outbound"),
        ("line_id", .string "L1"), ("start_station_id", .string "A"), ("end_station_id", .string "B"),
        ("route_stops", .array [.string "A", .string "B"])]])]]),
    ("travel_times", .array [.object [("start_station_id", .string "B"),
      ("end_station_id", .string "A"), ("travel_time", .numberUnsigned 5)]])]

/-- A file listing station A twice: the second `AddStation` is refused and throws, and the first
A stays in the network. -/
theorem fromJson_error_example :
    let src := sampleNetworkFile ["A", "A"]
    let stations : List Station := [⟨"A"⟩, ⟨"A"⟩]
    let lines : List Line := [⟨"L1", [⟨"R1", ["A", "B"]⟩]⟩]
    let net' := (({} : TransportNetwork).addStation ⟨"A"⟩).2
    readNetwork src = .ok (stations, lines, [("B", "A", 5)]) ∧
      ({} : TransportNetwork).fromJson src = (.error "Could not add station A", net') ∧
      ∃ pre op post mid, stations.map .addStation ++ lines.map .addLine = pre ++ op :: post ∧
        runAll {} pre = (true, mid) ∧ op.apply mid = (false, net') ∧
        ((∃ station, op = .addStation station ∧
            "Could not add station A" = "Could not add station " ++ station.id) ∨
          ∃ line, op = .addLine line ∧ "Could not add station A" = "Could not add line " ++ line.id) := by
  intro src stations lines net'
  have hread : readNetwork src = .ok (stations, lines, [("B", "A", 5)]) := rfl
  have h : ({} : TransportNetwork).fromJson src = (.error "Could not add station A", net') := rfl
  exact ⟨hread, h, fromJson_error hread h⟩

theorem fromJson_travel_times {src : Json} {ok : Bool} {net : TransportNetwork}
    (h : ({} : TransportNetwork).fromJson src = (.ok ok, net)) :
    ∃ stations lines travelTimes, readNetwork src = .ok (stations, lines, travelTimes) ∧
      (ok = true ↔ ∀ entry ∈ travelTimes, (net.getStation entry.1).isSome ∧
        (net.getStation entry.2.1).isSome ∧ net.joined entry.1 entry.2.1) ∧
      ∀ x y, net.getTravelTime x y =
        if (net.getStation x).isSome ∧ (net.getStation y).isSome ∧ net.joined x y then
          (lastTravelTime x y travelTimes).getD 0
        else 0 := by
  obtain ⟨ss, ls, ts, mid, hread, htop, hset⟩ := fromJson_ok h
  have hunset : mid.TravelTimesUnset := by
    have hmid : mid = run {} (ss.map .addStation ++ ls.map .addLine) := by rw [← runAll_snd, htop]
    refine hmid ▸ TravelTimesUnset.run_of_untimed (fun s e he => by simp [edgesOf, getStation] at he) ?_
    simp only [List.mem_append, List.mem_map]
    rintro _ (⟨_, _, rfl⟩ | ⟨_, _, rfl⟩) <;> exact id
  obtain ⟨rfl, rfl⟩ : ok = (runAll mid (ts.map NetworkOp.setTravelTimeOf)).1 ∧
      net = run mid (ts.map NetworkOp.setTravelTimeOf) := by rw [← runAll_snd, hset]; exact ⟨rfl, rfl⟩
  refine ⟨ss, ls, ts, hread, ?_, fun x y => ?_⟩
  · simp only [runAll_setTravelTimes_fst, isSome_getStation_run_setTravelTimes,
      joined_run_setTravelTimes, List.all_eq_true, Bool.and_eq_true, and_assoc]
  · simp only [getTravelTime_run_setTravelTimes, isSome_getStation_run_setTravelTimes,
      joined_run_setTravelTimes, hunset.getTravelTime]

theorem fromJson_travel_times_example :
    let net := (({} : TransportNetwork).fromJson (sampleNetworkFile ["A", "B"])).2
    ({} : TransportNetwork).fromJson (sampleNetworkFile ["A", "B"]) = (.ok true, net) ∧
      net.getTravelTime "A" "B" = 5 := by
  intro net
  have h : ({} : TransportNetwork).fromJson (sampleNetworkFile ["A", "B"]) = (.ok true, net) :=
    Prod.ext rfl rfl
  obtain ⟨_, _, travelTimes, hread, -, htt⟩ := fromJson_travel_times h
  have hr : readNetwork (sampleNetworkFile ["A", "B"]) =
      .ok ([⟨"A"⟩, ⟨"B"⟩], [⟨"L1", [⟨"R1", ["A", "B"]⟩]⟩], [("B", "A", 5)]) := rfl
  cases hread.symm.trans hr
  exact ⟨h, by rw [htt]; decide⟩

theorem fromJson_reachable {net net' : TransportNetwork} {src : Json} {ok : Bool}
    {stations : List Station} {lines : List Line} {travelTimes : List (Id × Id × UInt32)}
    (hnet : Reachable net) (hread : readNetwork src = .ok (stations, lines, travelTimes))
    (hwf : WellFormedRun net (loadCalls stations lines travelTimes))
    (h : net.fromJson src = (.ok ok, net')) : Reachable net' := by
  rw [fromJson_eq_run hread h]
  exact hnet.run hwf

theorem fromJson_reachable_example :
    Reachable (({} : TransportNetwork).fromJson (sampleNetworkFile ["A", "B"])).2 := by
  have hread : readNetwork (sampleNetworkFile ["A", "B"]) =
      .ok ([⟨"A"⟩, ⟨"B"⟩], [⟨"L1", [⟨"R1", ["A", "B"]⟩]⟩], [("B", "A", 5)]) := rfl
  have h : ({} : TransportNetwork).fromJson (sampleNetworkFile ["A", "B"]) =
      (.ok true, (({} : TransportNetwork).fromJson (sampleNetworkFile ["A", "B"])).2) :=
    Prod.ext rfl rfl
  exact fromJson_reachable .empty hread (by decide) h

theorem isSome_getStation_apply {s : Id} (op : NetworkOp) {net : TransportNetwork}
    (h : (net.getStation s).isSome) : ((op.apply net).2.getStation s).isSome := by
  cases op with
  | addStation st =>
    show ((net.addStation st).2.getStation s).isSome
    rw [getStation_addStation]
    split
    · rfl
    · exact h
  | addLine line => exact (isSome_getStation_addLine line s).trans h
  | setTravelTime a b t => exact (isSome_getStation_setTravelTime a b t s).trans h
  | recordPassengerEvent ev => exact (isSome_getStation_recordPassengerEvent ev s).trans h

theorem isSome_getStation_run {s : Id} : ∀ (ops : List NetworkOp) {net : TransportNetwork},
    (net.getStation s).isSome → ((run net ops).getStation s).isSome
  | [], _, h => h
  | op :: ops, _, h => isSome_getStation_run ops (isSome_getStation_apply op h)

theorem isSome_getStation_addStation_self (net : TransportNetwork) (st : Station) :
    ((net.addStation st).2.getStation st.id).isSome := by
  rw [getStation_addStation]
  split
  · rfl
  · next h => simpa [Option.isSome_iff_ne_none] using h

theorem fromJson_twice {net net' : TransportNetwork} {src : Json} {ok : Bool} {station : Station}
    {stations : List Station} {lines : List Line} {travelTimes : List (Id × Id × UInt32)}
    (hread : readNetwork src = .ok (station :: stations, lines, travelTimes))
    (h : net.fromJson src = (.ok ok, net')) :
    net'.fromJson src = (.error ("Could not add station " ++ station.id), net') := by
  have hst : (net'.getStation station.id).isSome := by
    rw [fromJson_eq_run hread h, loadCalls, List.map_cons, List.cons_append, List.cons_append, run_cons]
    exact isSome_getStation_run _ (isSome_getStation_addStation_self net station)
  obtain ⟨S, -, -, hS, hss, -⟩ := readNetwork_eq_ok.1 hread
  obtain ⟨j, js, hitems⟩ : ∃ j js, S.items = j :: js := by
    cases hi : S.items with
    | nil => rw [hi] at hss; cases hss
    | cons j js => exact ⟨j, js, rfl⟩
  rw [hitems] at hss
  obtain ⟨_, _, hj, -, ⟨⟩⟩ := mapM_cons_eq_ok.1 hss
  have hadd : net'.addStation station = (false, net') := by simp [addStation, hst]
  simp only [fromJson, hS, hitems, addStationsFromJson, addEach, hj, NetworkOp.apply, hadd,
    Bool.and_false, Bool.false_eq_true, if_false]

theorem fromJson_twice_example :
    let net' := (({} : TransportNetwork).fromJson (sampleNetworkFile ["A", "B"])).2
    net'.fromJson (sampleNetworkFile ["A", "B"]) = (.error ("Could not add station " ++ "A"), net') := by
  intro net'
  have hread : readNetwork (sampleNetworkFile ["A", "B"]) =
      .ok ([⟨"A"⟩, ⟨"B"⟩], [⟨"L1", [⟨"R1", ["A", "B"]⟩]⟩], [("B", "A", 5)]) := rfl
  have h : ({} : TransportNetwork).fromJson (sampleNetworkFile ["A", "B"]) = (.ok true, net') :=
    Prod.ext rfl rfl
  exact fromJson_twice hread h

theorem fromJson_passenger_counts {net net' : TransportNetwork} {src : Json} {ok : Bool}
    {stations : List Station} {lines : List Line} {travelTimes : List (Id × Id × UInt32)}
    (hread : readNetwork src = .ok (stations, lines, travelTimes))
    (h : net.fromJson src = (.ok ok, net')) (S : Id) :
    net'.getPassengerCount S = match net.countOf S with
      | some c => .ok c
      | none => if S ∈ stations.map (·.id) then .ok 0
        else .error ("Could not find station in the network: " ++ S) := by
  have hev : ∀ ev, NetworkOp.recordPassengerEvent ev ∉ loadCalls stations lines travelTimes := by
    simp [loadCalls, NetworkOp.setTravelTimeOf]
  have htally : tally S (loadCalls stations lines travelTimes) = 0 := by
    simp [tally, List.count_eq_zero_of_not_mem (hev _)]
  have hadd := tallyAfterAdd_of_eventsAfterAdd S (loadCalls stations lines travelTimes)
    fun pre ev post hs _ _ => (hev ev (hs ▸ List.mem_append_right pre (List.mem_cons_self _ _))).elim
  have hmem : NetworkOp.addStation ⟨S⟩ ∈ loadCalls stations lines travelTimes ↔
      S ∈ stations.map (·.id) := by
    simp only [loadCalls, NetworkOp.setTravelTimeOf, List.mem_append, List.mem_map,
      NetworkOp.addStation.injEq, reduceCtorEq, and_false, exists_false, or_false]
    exact ⟨fun ⟨a, ha, he⟩ => ⟨a, ha, he ▸ rfl⟩, fun ⟨⟨_⟩, ha, he⟩ => ⟨_, ha, he ▸ rfl⟩⟩
  rw [getPassengerCount_eq, fromJson_eq_run hread h, countOf_run, htally, hadd, htally]
  cases net.countOf S with
  | some c => simp
  | none => by_cases hm : S ∈ stations.map (·.id) <;> simp [hmem, hm]

theorem fromJson_passenger_counts_example :
    let net' := (({} : TransportNetwork).fromJson (sampleNetworkFile ["A", "B"])).2
    ∀ S, net'.getPassengerCount S = match ({} : TransportNetwork).countOf S with
      | some c => .ok c
      | none => if S ∈ ([⟨"A"⟩, ⟨"B"⟩] : List Station).map (·.id) then .ok 0
        else .error ("Could not find station in the network: " ++ S) := by
  intro net'
  have hread : readNetwork (sampleNetworkFile ["A", "B"]) =
      .ok ([⟨"A"⟩, ⟨"B"⟩], [⟨"L1", [⟨"R1", ["A", "B"]⟩]⟩], [("B", "A", 5)]) := rfl
  have h : ({} : TransportNetwork).fromJson (sampleNetworkFile ["A", "B"]) = (.ok true, net') :=
    Prod.ext rfl rfl
  exact fromJson_passenger_counts hread h

theorem setTravelTime_frame (net : TransportNetwork) (a b : Id) (t : UInt32) :
    (net.setTravelTime a b t).2.lines = net.lines ∧
      (net.setTravelTime a b t).2.stations.map (·.1) = net.stations.map (·.1) := by
  unfold setTravelTime setTravelTimeFrom; split <;> simp

theorem run_setTravelTimes_frame : ∀ (travelTimes : List (Id × Id × UInt32)) (net : TransportNetwork),
    (run net (travelTimes.map NetworkOp.setTravelTimeOf)).lines = net.lines ∧
      (run net (travelTimes.map NetworkOp.setTravelTimeOf)).stations.map (·.1) = net.stations.map (·.1)
  | [], _ => ⟨rfl, rfl⟩
  | entry :: travelTimes, net => by
    rw [List.map_cons, run_cons, NetworkOp.apply_setTravelTimeOf]
    obtain ⟨h₁, h₂⟩ := run_setTravelTimes_frame travelTimes (net.setTravelTime entry.1 entry.2.1 entry.2.2).2
    obtain ⟨e₁, e₂⟩ := setTravelTime_frame net entry.1 entry.2.1 entry.2.2
    exact ⟨h₁.trans e₁, h₂.trans e₂⟩

theorem runAll_addStations : ∀ {stations : List Station} {net net' : TransportNetwork},
    runAll net (stations.map .addStation) = (true, net') →
      net'.stations.map (·.1) = (stations.map (·.id)).reverse ++ net.stations.map (·.1) ∧
        net'.lines = net.lines
  | [], _, _, h => by cases h; exact ⟨rfl, rfl⟩
  | st :: stations, net, net', h => by
    simp only [List.map_cons, runAll, NetworkOp.apply, Prod.mk.injEq, Bool.and_eq_true] at h
    obtain ⟨hids, hl⟩ := runAll_addStations (Prod.ext h.1.2 h.2)
    have e : (net.addStation st).2 = { net with stations := (st.id, ⟨0, []⟩) :: net.stations } := by
      have hadd := h.1.1
      unfold addStation at hadd ⊢
      by_cases hs : (net.getStation st.id).isSome
      · rw [if_pos hs] at hadd; cases hadd
      · rw [if_neg hs]
    rw [e] at hids hl
    exact ⟨by simp [hids], hl⟩

theorem runAll_addLines_contents : ∀ {lines : List Line} {net net' : TransportNetwork},
    runAll net (lines.map .addLine) = (true, net') →
      net'.stations.map (·.1) = net.stations.map (·.1) ∧
        net'.routes.map RouteInternal.entry =
          (lines.flatMap Line.entries).reverse ++ net.routes.map RouteInternal.entry
  | [], _, _, h => by cases h; exact ⟨rfl, rfl⟩
  | line :: lines, net, net', h => by
    simp only [List.map_cons, runAll, NetworkOp.apply, Prod.mk.injEq, Bool.and_eq_true] at h
    obtain ⟨hids, hr⟩ := runAll_addLines_contents (Prod.ext h.1.2 h.2)
    refine ⟨hids.trans (addLine_ids line), ?_⟩
    rw [hr, addLine_entries h.1.1, List.flatMap_cons, List.reverse_append, List.append_assoc]

theorem getRoute_run_setTravelTimes (L R : Id) (travelTimes : List (Id × Id × UInt32))
    (net : TransportNetwork) :
    (run net (travelTimes.map NetworkOp.setTravelTimeOf)).getRoute L R = net.getRoute L R := by
  simp only [getRoute, getLine, (run_setTravelTimes_frame travelTimes net).1]

theorem getLine_runAll_addLines {L : Id} : ∀ {lines : List Line} {net net' : TransportNetwork},
    runAll net (lines.map .addLine) = (true, net') → (net.getLine L).isSome →
      net'.getLine L = net.getLine L
  | [], _, _, h, _ => by cases h; rfl
  | line :: lines, net, net', h, hL => by
    simp only [List.map_cons, runAll, NetworkOp.apply, Prod.mk.injEq, Bool.and_eq_true] at h
    have hne : L ≠ line.id := by
      rintro rfl
      rw [Option.isNone_iff_eq_none.1 (isNone_getLine_of_addLine h.1.1)] at hL
      cases hL
    have e := @getLine_addLine_of_ne net line L hne
    rw [getLine_runAll_addLines (Prod.ext h.1.2 h.2) (e ▸ hL), e]

theorem getRoute_runAll_addLines : ∀ {lines : List Line} {net net' : TransportNetwork},
    runAll net (lines.map .addLine) = (true, net') → ∀ line ∈ lines, ∀ route ∈ line.routes,
      ∃ ri, net'.getRoute line.id route.id = some ri ∧
        ri.id = route.id ∧ ri.lineId = line.id ∧ ri.stops = route.stops
  | [], _, _, _ => fun _ h => nomatch h
  | line :: lines, net, net', h => by
    simp only [List.map_cons, runAll, NetworkOp.apply, Prod.mk.injEq, Bool.and_eq_true] at h
    rintro l (_ | ⟨_, hl⟩) route hr
    · obtain ⟨ri, hri, hid⟩ := getRoute_addLine_self h.1.1 hr
      obtain ⟨li, hli, -⟩ := Option.bind_eq_some.1 hri
      have hkeep := getLine_runAll_addLines (L := line.id) (Prod.ext h.1.2 h.2) (by rw [hli]; rfl)
      exact ⟨ri, by rw [getRoute, hkeep]; exact hri, hid⟩
    · exact getRoute_runAll_addLines (Prod.ext h.1.2 h.2) l hl route hr

theorem fromJson_routes {net net' : TransportNetwork} {src : Json} {ok : Bool}
    {stations : List Station} {lines : List Line} {travelTimes : List (Id × Id × UInt32)}
    (hread : readNetwork src = .ok (stations, lines, travelTimes))
    (h : net.fromJson src = (.ok ok, net')) :
    ∀ line ∈ lines, ∀ route ∈ line.routes, ∃ ri, net'.getRoute line.id route.id = some ri ∧
      ri.id = route.id ∧ ri.lineId = line.id ∧ ri.stops = route.stops := by
  obtain ⟨n₁, mid, -, h₂, rfl⟩ := fromJson_loops hread h
  intro line hl route hr
  rw [getRoute_run_setTravelTimes]
  exact getRoute_runAll_addLines h₂ line hl route hr

theorem fromJson_routes_example :
    let net' := (({} : TransportNetwork).fromJson (sampleNetworkFile ["A", "B"])).2
    ∀ line ∈ ([⟨"L1", [⟨"R1", ["A", "B"]⟩]⟩] : List Line), ∀ route ∈ line.routes,
      ∃ ri, net'.getRoute line.id route.id = some ri ∧
        ri.id = route.id ∧ ri.lineId = line.id ∧ ri.stops = route.stops := by
  intro net'
  have hread : readNetwork (sampleNetworkFile ["A", "B"]) =
      .ok ([⟨"A"⟩, ⟨"B"⟩], [⟨"L1", [⟨"R1", ["A", "B"]⟩]⟩], [("B", "A", 5)]) := rfl
  have h : ({} : TransportNetwork).fromJson (sampleNetworkFile ["A", "B"]) = (.ok true, net') :=
    Prod.ext rfl rfl
  exact fromJson_routes hread h

theorem fromJson_contents {net net' : TransportNetwork} {src : Json} {ok : Bool}
    {stations : List Station} {lines : List Line} {travelTimes : List (Id × Id × UInt32)}
    (hread : readNetwork src = .ok (stations, lines, travelTimes))
    (h : net.fromJson src = (.ok ok, net')) :
    (net'.stations.map (·.1)).Perm (stations.map (·.id) ++ net.stations.map (·.1)) ∧
      (net'.routes.map RouteInternal.entry).Perm
        (lines.flatMap Line.entries ++ net.routes.map RouteInternal.entry) := by
  obtain ⟨n₁, mid, h₁, h₂, rfl⟩ := fromJson_loops hread h
  obtain ⟨hs₁, hl₁⟩ := runAll_addStations h₁
  obtain ⟨hs₂, hr₂⟩ := runAll_addLines_contents h₂
  obtain ⟨hl₃, hs₃⟩ := run_setTravelTimes_frame travelTimes mid
  have hr : (run mid (travelTimes.map NetworkOp.setTravelTimeOf)).routes = mid.routes := by
    simp only [routes, hl₃]
  have hr₁ : n₁.routes = net.routes := by simp only [routes, hl₁]
  rw [hs₃, hs₂, hs₁, hr, hr₂, hr₁]
  exact ⟨(List.reverse_perm _).append_right _, (List.reverse_perm _).append_right _⟩

theorem fromJson_contents_example :
    let net' := (({} : TransportNetwork).fromJson (sampleNetworkFile ["A", "B"])).2
    (net'.stations.map (·.1)).Perm ["A", "B"] ∧
      (net'.routes.map RouteInternal.entry).Perm [("L1", "R1", ["A", "B"])] := by
  intro net'
  have hread : readNetwork (sampleNetworkFile ["A", "B"]) =
      .ok ([⟨"A"⟩, ⟨"B"⟩], [⟨"L1", [⟨"R1", ["A", "B"]⟩]⟩], [("B", "A", 5)]) := rfl
  have h : ({} : TransportNetwork).fromJson (sampleNetworkFile ["A", "B"]) = (.ok true, net') :=
    Prod.ext rfl rfl
  exact fromJson_contents hread h

end TransportNetwork

end NetworkMonitor
