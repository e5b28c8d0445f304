import Mathlib.Algebra.Group.Nat.Defs
import Mathlib.Data.List.Nodup
import Switchboard.Client

/-!
# Fresh ids

A source of ids counts up and wraps around.  So what it gives out are its first
id and the ones that follow, and it comes back to an id only after 2⁶⁴ of them,
wherever it started.
-/

namespace Switchboard

namespace Allocator

/-- The source behind so many ids. -/
def skip (allocator : Allocator) (count : Nat) : Allocator :=
  ⟨allocator.next + Int64.ofNat count⟩

@[simp]
theorem skip_zero (allocator : Allocator) : allocator.skip 0 = allocator := by
  simp [skip]

theorem skip_skip (allocator : Allocator) (first second : Nat) :
    (allocator.skip first).skip second = allocator.skip (first + second) := by
  simp [skip, Int64.ofNat_add, Int64.add_assoc]

theorem take_eq (allocator : Allocator) :
    allocator.take = (allocator.next, allocator.skip 1) := rfl

theorem takeMany_add (allocator : Allocator) (first second : Nat) :
    allocator.takeMany (first + second) =
      allocator.takeMany first ++ (allocator.skip first).takeMany second := by
  induction first generalizing allocator with
  | zero => simp [takeMany]
  | succ first induction =>
      have onward := induction (allocator.skip 1)
      rw [skip_skip, Nat.add_comm 1 first] at onward
      rw [Nat.succ_add]
      simp only [takeMany, take_eq, onward, List.cons_append]

private theorem takeMany_eq_map (allocator : Allocator) (count : Nat) :
    allocator.takeMany count =
      (List.range count).map fun place =>
        allocator.next + Int64.ofNat place := by
  induction count with
  | zero => rfl
  | succ count induction =>
      rw [takeMany_add, induction, List.range_succ, List.map_append]
      rfl

/-- No id comes twice among the first 2⁶⁴. -/
theorem nodup_takeMany (allocator : Allocator) {count : Nat}
    (few : count ≤ 2 ^ 64) : (allocator.takeMany count).Nodup := by
  rw [takeMany_eq_map]
  apply List.Nodup.map_on _ List.nodup_range
  intro place below other otherBelow same
  have offsets : Int64.ofNat place = Int64.ofNat other :=
    (Int64.add_right_inj _).mp same
  have words : (Int64.ofNat place).toBitVec.toNat =
      (Int64.ofNat other).toBitVec.toNat := by
    rw [offsets]
  have inside : place < 2 ^ 64 :=
    Nat.lt_of_lt_of_le (List.mem_range.mp below) few
  have otherInside : other < 2 ^ 64 :=
    Nat.lt_of_lt_of_le (List.mem_range.mp otherBelow) few
  rw [Int64.toBitVec_ofNat', Int64.toBitVec_ofNat', BitVec.toNat_ofNat,
    BitVec.toNat_ofNat, Nat.mod_eq_of_lt inside,
    Nat.mod_eq_of_lt otherInside] at words
  exact words

end Allocator

/-- What a client is asked for. -/
inductive Order where
  | call (method : String) (params : Option Json.Value)
  | subscription (interest : Interest) (callsign event : String)

namespace Order

/-- The client makes the request, and nobody else takes an id meanwhile. -/
def draft (order : Order) (client : Client) : Request × Client :=
  match order with
  | .call method params => client.call method params
  | .subscription interest callsign event =>
      client.subscription interest callsign event

/-- How many ids an order takes. -/
def width : Order → Nat
  | .call _ _ => 1
  | .subscription _ _ _ => 2

/-- The request for an order, once it has all of its ids. -/
def request? : Order → List RequestId → Option Request
  | .call method params, [id] =>
      some { id := id, method := method, params := params }
  | .subscription interest callsign event, [id, eventId] =>
      some (.subscription interest id callsign event eventId)
  | _, _ => none

/-- A request is the one for an order with certain ids: that of the request
itself and, for a subscription, that of the event. -/
inductive Fills : Order → List RequestId → Request → Prop where
  | call (method : String) (params : Option Json.Value) (id : RequestId) :
      Fills (.call method params) [id]
        { id := id, method := method, params := params }
  | subscription (interest : Interest) (callsign event : String)
      (id eventId : RequestId) :
      Fills (.subscription interest callsign event) [id, eventId]
        (.subscription interest id callsign event eventId)

theorem fills_of_request? {order : Order} {ids : List RequestId}
    {request : Request} (made : order.request? ids = some request) :
    order.Fills ids request := by
  unfold request? at made
  split at made
  · cases made
    exact .call _ _ _
  · cases made
    exact .subscription _ _ _ _ _
  · cases made

theorem Fills.head {order : Order} {ids : List RequestId} {request : Request}
    (fills : order.Fills ids request) : ids.head? = some request.id := by
  cases fills with
  | call => rfl
  | subscription => rfl

end Order

end Switchboard
