import Mathlib.Data.Multiset.Basic
import NetworkMonitor.Network.FromJson

namespace NetworkMonitor

/-- What the registry part of `TransportNetwork` is for: the stations and the lines it knows, and
each registered route as its line's id, its id and its stops. The maps of the source have no
order, so neither has the catalogue. -/
structure Catalogue where
  stations : Multiset Id := 0
  lines : Multiset Id := 0
  routes : Multiset (Id × Id × List Id) := 0
  deriving DecidableEq

namespace Catalogue

/-- What a call returns, as far as the catalogue can tell: `SetTravelTime` asks for an edge, which
the catalogue does not keep. -/
def accepts (c : Catalogue) : NetworkOp → Option Bool
  | .addStation st => some (decide (st.id ∉ c.stations))
  | .addLine line => some (decide (line.id ∉ c.lines ∧ (line.routes.map (·.id)).Nodup ∧
      ∀ r ∈ line.routes, ∀ s ∈ r.stops, s ∈ c.stations))
  | .setTravelTime .. => none
  | .recordPassengerEvent ev => some (decide (ev.stationId ∈ c.stations))

def apply (c : Catalogue) : NetworkOp → Catalogue
  | .addStation st => if st.id ∈ c.stations then c else { c with stations := st.id ::ₘ c.stations }
  | .addLine line => if c.accepts (.addLine line) = some true then
      { c with lines := line.id ::ₘ c.lines, routes := ↑line.entries + c.routes } else c
  | .setTravelTime .. | .recordPassengerEvent _ => c

def run (c : Catalogue) (ops : List NetworkOp) : Catalogue := ops.foldl apply c

@[simp] theorem run_nil (c : Catalogue) : c.run [] = c := rfl

@[simp] theorem run_cons (c : Catalogue) (op : NetworkOp) (ops : List NetworkOp) :
    c.run (op :: ops) = (c.apply op).run ops := rfl

end Catalogue

theorem isSome_lookup_iff {κ β : Type} [DecidableEq κ] {l : List (κ × β)} {k : κ} :
    (l.lookup k).isSome ↔ k ∈ l.map (·.1) := by
  induction l with
  | nil => simp
  | cons p l ih =>
    rw [← Prod.mk.eta (p := p), lookup_cons_eq]
    by_cases h : k = p.1 <;> simp [h, ih]

namespace TransportNetwork

/-- The catalogue a network keeps. -/
def catalogue (net : TransportNetwork) : Catalogue :=
  ⟨net.stations.map (·.1), net.lines.map (·.1), net.routes.map RouteInternal.entry⟩

variable {net : TransportNetwork}

theorem isSome_getStation_iff {s : Id} : (net.getStation s).isSome ↔ s ∈ net.catalogue.stations :=
  isSome_lookup_iff.trans Multiset.mem_coe.symm

theorem isNone_getLine_iff {L : Id} : (net.getLine L).isNone ↔ L ∉ net.catalogue.lines := by
  rw [Option.isNone_iff_eq_none, ← Option.not_isSome_iff_eq_none]
  exact not_congr (isSome_lookup_iff.trans Multiset.mem_coe.symm)

theorem catalogue_eq_of_frame {net' : TransportNetwork} (hl : net'.lines = net.lines)
    (hs : net'.stations.map (·.1) = net.stations.map (·.1)) : net'.catalogue = net.catalogue := by
  simp only [catalogue, routes, hl, hs]

theorem catalogue_addStation (st : Station) :
    (net.addStation st).2.catalogue = net.catalogue.apply (.addStation st) ∧
      (net.addStation st).1 = decide (st.id ∉ net.catalogue.stations) := by
  unfold addStation
  simp only [Catalogue.apply, ← isSome_getStation_iff]
  split_ifs with h
  · exact ⟨rfl, by simp [h]⟩
  · exact ⟨by simp [catalogue, routes], by simp [h]⟩

theorem catalogue_addLine (line : Line) :
    (net.addLine line).2.catalogue = net.catalogue.apply (.addLine line) ∧
      some (net.addLine line).1 = net.catalogue.accepts (.addLine line) := by
  have hacc : some (net.addLine line).1 = net.catalogue.accepts (.addLine line) := by
    simp only [Catalogue.accepts, Option.some.injEq, ← isNone_getLine_iff, ← isSome_getStation_iff]
    exact Bool.eq_iff_iff.2 ((addLine_fst_iff line).trans (by simp))
  have hl := @addLine_lines net line
  refine ⟨?_, hacc⟩
  simp only [Catalogue.apply, ← hacc, Option.some.injEq]
  split_ifs with h
  · rw [if_pos h] at hl
    simp only [catalogue, addLine_ids, hl, addLine_entries h, ← Multiset.coe_add,
      Multiset.coe_reverse, Multiset.cons_coe]
  · rw [if_neg h] at hl
    exact catalogue_eq_of_frame (addLine_lines_of_false (Bool.eq_false_iff.2 h)) (addLine_ids line)

theorem catalogue_recordPassengerEvent (ev : PassengerEvent) :
    (net.recordPassengerEvent ev).2.catalogue = net.catalogue ∧
      (net.recordPassengerEvent ev).1 = decide (ev.stationId ∈ net.catalogue.stations) := by
  have hs := @isSome_getStation_iff net ev.stationId
  unfold recordPassengerEvent
  split <;> next h =>
    rw [h] at hs
    first
    | exact ⟨rfl, (decide_eq_false fun hm => Bool.false_ne_true (hs.2 hm)).symm⟩
    | exact ⟨catalogue_eq_of_frame rfl (modifyStation_ids _ _), (decide_eq_true (hs.1 rfl)).symm⟩

theorem catalogue_apply (op : NetworkOp) :
    (op.apply net).2.catalogue = net.catalogue.apply op ∧
      ∀ b, net.catalogue.accepts op = some b → (op.apply net).1 = b := by
  cases op with
  | addStation st =>
    obtain ⟨h₁, h₂⟩ := @catalogue_addStation net st
    exact ⟨h₁, fun b hb => h₂.trans (Option.some.inj hb)⟩
  | addLine line =>
    obtain ⟨h₁, h₂⟩ := @catalogue_addLine net line
    exact ⟨h₁, fun b hb => Option.some.inj (h₂.trans hb)⟩
  | setTravelTime a b t =>
    obtain ⟨hl, hs⟩ := setTravelTime_frame net a b t
    exact ⟨catalogue_eq_of_frame hl hs, fun _ hb => nomatch hb⟩
  | recordPassengerEvent ev =>
    obtain ⟨h₁, h₂⟩ := @catalogue_recordPassengerEvent net ev
    exact ⟨h₁, fun b hb => h₂.trans (Option.some.inj hb)⟩

theorem catalogue_run (net : TransportNetwork) (ops : List NetworkOp) (_ : ∀ op ∈ ops, op.InBounds) :
    (run net ops).catalogue = net.catalogue.run ops ∧
      ∀ pre op post b, ops = pre ++ op :: post → (net.catalogue.run pre).accepts op = some b →
        (op.apply (run net pre)).1 = b := by
  have hrun : ∀ (ops : List NetworkOp) (net : TransportNetwork),
      (run net ops).catalogue = net.catalogue.run ops := by
    intro ops
    induction ops with
    | nil => exact fun _ => rfl
    | cons op ops ih => exact fun net => (ih _).trans (by rw [(catalogue_apply op).1]; rfl)
  refine ⟨hrun ops net, fun pre op post b _ hb => (catalogue_apply op).2 b ?_⟩
  rwa [hrun]

theorem catalogue_run_example :
    let ops : List NetworkOp := [.addStation ⟨"A"⟩, .addStation ⟨"B"⟩,
      .addLine ⟨"L", [⟨"R", ["A", "B"]⟩]⟩, .addStation ⟨"A"⟩]
    (∀ op ∈ ops, op.InBounds) ∧ (run {} ops).catalogue = ({} : TransportNetwork).catalogue.run ops := by
  intro ops
  have hb : ∀ op ∈ ops, op.InBounds := by decide
  exact ⟨hb, (catalogue_run {} ops hb).1⟩

end TransportNetwork

end NetworkMonitor
