import Mathlib.Data.Fintype.Card
import Switchboard.Proofs.Correlator.Invariant

/-!
# The tallies are those of the map

Two tallies are kept beside the map, counted up and down as records come, go
and change their state.  In every session that a run reaches they are the
numbers of pending and of completed records in the map, and no record is ever
counted out of a tally that is zero.

Tallies are words of 64 bits.  They would fall short only of a map that holds
a record for every one of the 2^64 ids, whose size no word could tell either.
-/

namespace Switchboard

namespace Records

theorem put_of_find? {id : RequestId} {record : Record} {records : Records}
    (found : find? id records = some record) :
    put id record records = records := by
  induction records with
  | nil => cases found
  | cons entry rest induction =>
      obtain ⟨other, held⟩ := entry
      rw [find?_cons] at found
      by_cases same : id = other
      · rw [if_pos same] at found
        cases found
        rw [put, if_pos same, same]
      · rw [if_neg same] at found
        rw [put, if_neg same, induction found]

theorem erase_of_not_mem {id : RequestId} {records : Records}
    (absent : id ∉ records.map Prod.fst) : erase id records = records := by
  apply List.filter_eq_self.mpr
  intro entry member
  have different : entry.1 ≠ id := fun equal =>
    absent (List.mem_map.mpr ⟨entry, member, equal⟩)
  simpa using different

theorem erase_of_find?_eq_none {id : RequestId} {records : Records}
    (absent : find? id records = none) : erase id records = records := by
  apply erase_of_not_mem
  intro member
  obtain ⟨entry, inside, equal⟩ := List.mem_map.mp member
  have unequal := List.lookup_eq_none_iff.mp absent entry inside
  simp [equal] at unequal

theorem countIn_cons (state : RequestState) (id : RequestId)
    (record : Record) (records : Records) :
    countIn state ((id, record) :: records) =
      countIn state records + [record.state].count state := by
  simp only [countIn, List.countP_cons, List.count_singleton,
    decide_eq_true_eq, beq_iff_eq]

theorem countIn_put (state : RequestState) (id : RequestId)
    (record : Record) {records : Records} (keyed : Keyed records) :
    countIn state (put id record records) =
      countIn state (erase id records) + [record.state].count state := by
  induction records with
  | nil => exact countIn_cons state id record []
  | cons entry rest induction =>
      obtain ⟨other, held⟩ := entry
      have keys : other ∉ rest.map Prod.fst ∧ Keyed rest := by
        simpa only [Keyed, List.map_cons, List.nodup_cons] using keyed
      by_cases same : id = other
      · subst same
        have gone : erase id ((id, held) :: rest) = rest := by
          simpa [erase] using erase_of_not_mem keys.1
        rw [gone, put, if_pos rfl, countIn_cons]
      · have apart : other ≠ id := fun equal => same equal.symm
        have kept :
            erase id ((other, held) :: rest) =
              (other, held) :: erase id rest := by
          simp [erase, apart]
        rw [kept, put, if_neg same, countIn_cons, countIn_cons,
          induction keys.2]
        omega

theorem countIn_of_find? (state : RequestState) {id : RequestId}
    {record : Record} {records : Records} (keyed : Keyed records)
    (found : find? id records = some record) :
    countIn state records =
      countIn state (erase id records) + [record.state].count state := by
  rw [← countIn_put state id record keyed, put_of_find? found]

theorem countIn_filter_add (state : RequestState)
    (keep : RequestId × Record → Bool) (records : Records) :
    countIn state (records.filter keep) +
        countIn state (records.filter fun entry => !keep entry) =
      countIn state records :=
  (List.countP_eq_countP_filter_add records _ keep).symm

theorem countIn_eq_count (state : RequestState) (records : Records) :
    countIn state records =
      (records.map fun entry => entry.2.state).count state := by
  simp only [countIn, List.count, List.countP_map]
  congr 1

theorem length_eq_countIn (records : Records) :
    records.length =
      countIn .pending records + countIn .completed records +
        countIn .timedOut records + countIn .cancelled records := by
  induction records with
  | nil => rfl
  | cons entry rest induction =>
      simp only [countIn] at induction
      cases state : entry.2.state <;>
        simp [countIn, state, induction] <;> omega

/-- There are no more records than ids. -/
theorem Keyed.length_le {records : Records} (keyed : Keyed records) :
    records.length ≤ UInt64.size := by
  have words :
      ((records.map Prod.fst).map fun id => id.toBitVec.toFin).Nodup :=
    keyed.map fun _ _ equal =>
      Int64.toBitVec_inj.mp (BitVec.toFin_inj.mp equal)
  simpa using words.length_le_card

theorem countIn_le_length (state : RequestState) (records : Records) :
    countIn state records ≤ records.length :=
  List.countP_le_length

end Records

namespace Correlator

/-- The tally that is kept of a state. -/
def tally? (correlator : Correlator) : RequestState → Option UInt64
  | .pending => some correlator.pending
  | .completed => some correlator.completed
  | .timedOut => none
  | .cancelled => none

/-- Counts records out of their states, one after the other. -/
def countOut (correlator : Correlator)
    (states : List RequestState) : Correlator :=
  states.foldl tallyOut correlator

/-- Counts records into their states, one after the other. -/
def countInto (correlator : Correlator)
    (states : List RequestState) : Correlator :=
  states.foldl tallyIn correlator

private theorem tally?_tallyOut (correlator : Correlator)
    (left state : RequestState) :
    (correlator.tallyOut left).tally? state =
      (correlator.tally? state).map fun tally =>
        tally - if left = state then 1 else 0 := by
  cases left <;> cases state <;> simp [tallyOut, tally?]

private theorem tally?_tallyIn (correlator : Correlator)
    (entered state : RequestState) :
    (correlator.tallyIn entered).tally? state =
      (correlator.tally? state).map fun tally =>
        tally + if entered = state then 1 else 0 := by
  cases entered <;> cases state <;> simp [tallyIn, tally?]

theorem tally?_countOut (correlator : Correlator)
    (states : List RequestState) (state : RequestState) :
    (correlator.countOut states).tally? state =
      (correlator.tally? state).map fun tally =>
        tally - UInt64.ofNat (states.count state) := by
  induction states generalizing correlator with
  | nil => cases state <;> simp [countOut, tally?]
  | cons left rest induction =>
      have later := induction (correlator.tallyOut left)
      simp only [countOut] at later
      simp only [countOut, List.foldl_cons, later, tally?_tallyOut,
        Option.map_map]
      congr 1
      funext tally
      by_cases same : left = state
      · simp [same, UInt64.ofNat_add]
        grind
      · simp [same, List.count_cons_of_ne]

theorem tally?_countInto (correlator : Correlator)
    (states : List RequestState) (state : RequestState) :
    (correlator.countInto states).tally? state =
      (correlator.tally? state).map fun tally =>
        tally + UInt64.ofNat (states.count state) := by
  induction states generalizing correlator with
  | nil => cases state <;> simp [countInto, tally?]
  | cons entered rest induction =>
      have later := induction (correlator.tallyIn entered)
      simp only [countInto] at later
      simp only [countInto, List.foldl_cons, later, tally?_tallyIn,
        Option.map_map]
      congr 1
      funext tally
      by_cases same : entered = state
      · simp [same, UInt64.ofNat_add]
        grind
      · simp [same, List.count_cons_of_ne]

/-- The tallies are the numbers of records in the map, as far as words of 64
bits can hold them. -/
def Counted (correlator : Correlator) : Prop :=
  ∀ {state : RequestState} {tally : UInt64},
    correlator.tally? state = some tally →
      tally = UInt64.ofNat (Records.countIn state correlator.records)

/-- An operation takes records out of some states and into others, and counts
every one of them. -/
structure Recounts (before : Correlator) (outs ins : List RequestState)
    (after : Correlator) : Prop where
  tally : ∀ state,
    after.tally? state = ((before.countOut outs).countInto ins).tally? state
  held : ∀ state,
    Records.countIn state after.records + outs.count state =
      Records.countIn state before.records + ins.count state
  present : ∀ state, outs.count state ≤ Records.countIn state before.records

namespace Recounts

variable {before after : Correlator} {outs ins : List RequestState}

theorem counted (recounts : Recounts before outs ins after)
    (counted : before.Counted) : after.Counted := by
  intro state tally kept
  rw [recounts.tally, tally?_countInto, tally?_countOut,
    Option.map_map] at kept
  obtain ⟨old, oldKept, equal⟩ := Option.map_eq_some_iff.mp kept
  have held := congrArg UInt64.ofNat (recounts.held state)
  simp only [UInt64.ofNat_add] at held
  rw [← equal, counted oldKept, Function.comp_apply]
  grind

theorem tally_ne_zero (recounts : Recounts before outs ins after)
    (counted : before.Counted) (room : before.count < UInt64.size)
    {earlier later : List RequestState} {state : RequestState}
    (split : outs = earlier ++ state :: later) :
    (before.countOut earlier).tally? state ≠ some 0 := by
  intro zero
  rw [tally?_countOut] at zero
  obtain ⟨tally, kept, equal⟩ := Option.map_eq_some_iff.mp zero
  have more : earlier.count state < Records.countIn state before.records := by
    have present := recounts.present state
    rw [split, List.count_append, List.count_cons_self] at present
    omega
  have bound := Records.countIn_le_length state before.records
  have left := UInt64.ofNat_sub (Nat.le_of_lt more)
  rw [← counted kept, equal] at left
  have small := congrArg UInt64.toNat left
  simp only [UInt64.toNat_ofNat', count, UInt64.size] at small room
  simp at small
  omega

end Recounts

/-- The state in which the first correlator holds the record of an id and the
second one does not. -/
def stateLost (first second : Correlator) (id : RequestId) :
    List RequestState :=
  if first.state? id = second.state? id then
    []
  else
    (first.state? id).toList

theorem stateLost_of_ne {first second : Correlator} {id : RequestId}
    {state : RequestState} (held : first.state? id = some state)
    (moved : second.state? id ≠ some state) :
    first.stateLost second id = [state] := by
  rw [stateLost, if_neg (held ▸ moved.symm), held]
  rfl

theorem stateLost_of_none {first second : Correlator} {id : RequestId}
    (absent : first.state? id = none) :
    first.stateLost second id = [] := by
  simp [stateLost, absent]

private theorem recounts_of_put {id : RequestId} {before after : Correlator}
    {record changed : Record} (keyed : Records.Keyed before.records)
    (found : Records.find? id before.records = some record)
    (put : after.records = Records.put id changed before.records)
    (moved : changed.state ≠ record.state)
    (tally : ∀ state, after.tally? state =
      ((before.countOut [record.state]).countInto
        [changed.state]).tally? state) :
    Recounts before (before.stateLost after id) (after.stateLost before id)
      after := by
  have origin : before.state? id = some record.state := by
    simp [state?, found]
  have target : after.state? id = some changed.state := by
    simp [state?, put, Records.find?_put_self]
  rw [stateLost_of_ne origin (by simpa [target] using moved),
    stateLost_of_ne target (by simpa [origin] using moved.symm)]
  refine ⟨tally, ?_, ?_⟩
  · intro state
    rw [put, Records.countIn_put state id changed keyed,
      Records.countIn_of_find? state keyed found]
    omega
  · intro state
    rw [Records.countIn_of_find? state keyed found]
    exact Nat.le_add_left _ _

private theorem recounts_of_erase {id : RequestId} {before after : Correlator}
    {record : Record} (keyed : Records.Keyed before.records)
    (found : Records.find? id before.records = some record)
    (erase : after.records = Records.erase id before.records)
    (tally : ∀ state,
      after.tally? state = (before.countOut [record.state]).tally? state) :
    Recounts before (before.stateLost after id) (after.stateLost before id)
      after := by
  have origin : before.state? id = some record.state := by
    simp [state?, found]
  have target : after.state? id = none := by
    simp [state?, erase, Records.find?_erase_self]
  rw [stateLost_of_ne origin (by simp [target]), stateLost_of_none target]
  refine ⟨tally, ?_, ?_⟩
  · intro state
    rw [erase, Records.countIn_of_find? state keyed found]
    rfl
  · intro state
    rw [Records.countIn_of_find? state keyed found]
    exact Nat.le_add_left _ _

theorem Touches.recounts {id : RequestId} {before after : Correlator}
    {ruling : Option Ruling} (touches : Touches id before ruling after)
    (keyed : Records.Keyed before.records) :
    Recounts before (before.stateLost after id) (after.stateLost before id)
      after := by
  cases touches with
  | unchanged =>
      simp only [stateLost, if_pos]
      exact ⟨fun _ => rfl, fun _ => rfl, fun _ => Nat.zero_le _⟩
  | registered now opened absent =>
      have origin : before.state? id = none := by simp [state?, absent]
      rw [stateLost_of_none origin, stateLost_of_ne
        (by simp [state?, store, Records.find?_put_self]; rfl)
        (by simp [origin])]
      refine ⟨?_, ?_, fun _ => Nat.zero_le _⟩
      · intro state
        cases state <;> rfl
      · intro state
        have put := Records.countIn_put state id
          (.fresh id now before.cells.issued) keyed
        rw [Records.erase_of_find?_eq_none absent] at put
        exact put
  | fulfilled record payload found pending =>
      refine recounts_of_put keyed found rfl (by simp [pending]) ?_
      intro state
      rw [pending]
      cases state <;> rfl
  | cancelled record found pending =>
      refine recounts_of_erase keyed found rfl ?_
      intro state
      rw [pending]
      cases state <;> rfl
  | timedOut record found pending =>
      refine recounts_of_put keyed found rfl (by simp [pending]) ?_
      intro state
      rw [pending]
      cases state <;> rfl
  | collected record found completed =>
      refine recounts_of_erase keyed found rfl ?_
      intro state
      rw [completed]
      cases state <;> rfl

/-- The states of the records that a sweep removes. -/
def sweptStates (correlator : Correlator) (now : Instant) :
    List RequestState :=
  (correlator.records.filter fun entry => !correlator.keeps now entry.2).map
    fun entry => entry.2.state

private theorem tally?_foldl_tallyOut (correlator : Correlator)
    (entries : Records) (state : RequestState) :
    (entries.foldl (fun counted entry => counted.tallyOut entry.2.state)
        correlator).tally? state =
      (correlator.countOut
        (entries.map fun entry => entry.2.state)).tally? state := by
  rw [countOut, List.foldl_map]

theorem sweep_recounts (correlator : Correlator) (now : Instant) :
    Recounts correlator (correlator.sweptStates now) []
      (correlator.sweep now).after := by
  have swept := fun state => Records.countIn_filter_add state
    (fun entry => correlator.keeps now entry.2) correlator.records
  refine ⟨?_, ?_, ?_⟩
  · intro state
    have counted := tally?_foldl_tallyOut correlator
      (correlator.records.filter fun entry => !correlator.keeps now entry.2)
      state
    cases state <;> exact counted
  · intro state
    rw [sweptStates, ← Records.countIn_eq_count]
    exact swept state
  · intro state
    rw [sweptStates, ← Records.countIn_eq_count, ← swept state]
    exact Nat.le_add_left _ _

theorem dropCompleted_counted {correlator : Correlator}
    (counted : correlator.Counted) :
    correlator.dropCompleted.after.Counted := by
  intro state tally kept
  cases state with
  | pending =>
      have held :
          Records.countIn .pending correlator.dropCompleted.after.records =
            Records.countIn .pending correlator.records := by
        simp only [dropCompleted, Records.countIn, List.countP_filter]
        apply List.countP_congr
        intro entry _
        simp +contextual
      rw [held]
      exact counted kept
  | completed =>
      have none :
          Records.countIn .completed correlator.dropCompleted.after.records =
            0 := by
        simp [dropCompleted, Records.countIn, List.countP_filter]
      rw [none]
      cases kept
      rfl
  | timedOut => cases kept
  | cancelled => cases kept

theorem shutDown_counted (correlator : Correlator) :
    correlator.shutDown.after.Counted := by
  intro state tally kept
  cases state <;> cases kept <;> rfl

end Correlator

namespace Session

/-- The states out of which a step counts records, in their order.  Dropping
the completed records and shutting down set tallies to zero and count none
out. -/
def countedOut (session : Session) (action : Action) : List RequestState :=
  let after := (session.act action).after.correlator
  match action.id? with
  | some id => session.correlator.stateLost after id
  | none =>
      match action with
      | .sweep time => session.correlator.sweptStates time
      | _ => []

/-- The states into which a step counts records. -/
def countedInto (session : Session) (action : Action) : List RequestState :=
  let after := (session.act action).after.correlator
  match action.id? with
  | some id => after.stateLost session.correlator id
  | none => []

/-- Whether a step sets tallies to zero. -/
def Action.resets : Action → Bool
  | .dropCompleted => true
  | .shutDown => true
  | _ => false

theorem counted_start (defaultTimeout maxRecordAge : Nat) :
    (start defaultTimeout maxRecordAge).correlator.Counted := by
  intro state tally kept
  cases state <;> cases kept <;> rfl

theorem act_recounts {session : Session} (sound : session.Sound)
    {action : Action} (counts : action.resets = false) :
    session.correlator.Recounts (session.countedOut action)
      (session.countedInto action)
      (session.act action).after.correlator := by
  cases about : action.id? with
  | some id =>
      simp only [countedOut, countedInto, about]
      exact (act_touches sound about).recounts sound.correlator.keyed
  | none =>
      have unchanged : Correlator.Recounts session.correlator [] []
          session.correlator :=
        ⟨fun _ => rfl, fun _ => rfl, fun _ => Nat.zero_le _⟩
      cases action with
      | sweep time => exact session.correlator.sweep_recounts time
      | advance millis => exact unchanged
      | ring => exact unchanged
      | dropCompleted => cases counts
      | shutDown => cases counts
      | _ => cases about

theorem act_counted {session : Session} (sound : session.Sound)
    (counted : session.correlator.Counted) (action : Action) :
    (session.act action).after.correlator.Counted := by
  cases counts : action.resets with
  | false => exact (act_recounts sound counts).counted counted
  | true =>
      cases action with
      | dropCompleted => exact Correlator.dropCompleted_counted counted
      | shutDown => exact session.correlator.shutDown_counted
      | _ => cases counts

theorem run_counted {session : Session} (sound : session.Sound)
    (counted : session.correlator.Counted) (actions : List Action) :
    (session.run actions).correlator.Counted := by
  induction actions generalizing session with
  | nil => exact counted
  | cons action rest induction =>
      exact induction (act_sound sound action)
        (act_counted sound counted action)

/-- In every session that a run reaches the tallies are the numbers of pending
and of completed records in the map, and a next step counts no record out of a
tally that is zero. -/
theorem tallies_equal_map (defaultTimeout maxRecordAge : Nat)
    (actions : List Action) :
    let session := (start defaultTimeout maxRecordAge).run actions
    let correlator := session.correlator
    let held := fun state => Records.countIn state correlator.records
    correlator.pending = UInt64.ofNat (held .pending) ∧
    correlator.completed = UInt64.ofNat (held .completed) ∧
    correlator.count ≤ UInt64.size ∧
    (correlator.count ≠ UInt64.size →
      correlator.pending.toNat = held .pending ∧
      correlator.completed.toNat = held .completed ∧
      correlator.count -
          (correlator.pending.toNat + correlator.completed.toNat) =
        held .timedOut ∧
      ∀ action,
        (action.resets = false →
          ∀ state,
            (session.act action).after.correlator.tally? state =
              ((correlator.countOut (session.countedOut action)).countInto
                (session.countedInto action)).tally? state) ∧
        ∀ earlier state later,
          session.countedOut action = earlier ++ state :: later →
            (correlator.countOut earlier).tally? state ≠ some 0) := by
  intro session correlator held
  have begunSound := sound_start defaultTimeout maxRecordAge
  have sound : session.Sound := run_sound begunSound actions
  have counted : correlator.Counted :=
    run_counted begunSound (counted_start _ _) actions
  have pending : correlator.pending = UInt64.ofNat (held .pending) :=
    counted rfl
  have completed : correlator.completed = UInt64.ofNat (held .completed) :=
    counted rfl
  have bound : correlator.count ≤ UInt64.size := sound.correlator.keyed.length_le
  refine ⟨pending, completed, bound, ?_⟩
  intro notFull
  have room : correlator.count < UInt64.size := Nat.lt_of_le_of_ne bound notFull
  have exact : ∀ state, (UInt64.ofNat (held state)).toNat = held state := by
    intro state
    have fewer := Records.countIn_le_length state correlator.records
    exact Nat.mod_eq_of_lt (Nat.lt_of_le_of_lt fewer room)
  have uncancelled : held .cancelled = 0 := by
    apply List.countP_eq_zero.mpr
    intro entry member
    have recordSound := sound.correlator.records
      (Records.find?_of_mem sound.correlator.keyed member)
    simpa using recordSound.uncancelled
  have total := Records.length_eq_countIn correlator.records
  rw [pending, completed, exact, exact]
  refine ⟨rfl, rfl, ?_, ?_⟩
  · simp only [held, Correlator.count] at uncancelled ⊢
    omega
  · intro action
    refine ⟨fun counts => (act_recounts sound counts).tally, ?_⟩
    intro earlier state later split
    cases counts : action.resets with
    | false => exact (act_recounts sound counts).tally_ne_zero counted room split
    | true =>
        cases action with
        | dropCompleted => simp [countedOut, Action.id?] at split
        | shutDown => simp [countedOut, Action.id?] at split
        | _ => cases counts

/-- One record in each state, all swept for their age. -/
theorem tallies_of_three_records :
    let session := (start 5000 300000).run
      [.openHandle 1, .openHandle 2, .complete 1 "reply", .wait 3 10,
        .advance 20, .ring, .poll 3 0]
    let correlator := session.correlator
    let held := fun state => Records.countIn state correlator.records
    session.countedOut (.sweep 400000) =
        [.completed] ++ .pending :: [.timedOut] ∧
      correlator.pending.toNat = held .pending ∧
      correlator.completed.toNat = held .completed ∧
      (correlator.countOut [.completed]).tally? .pending ≠ some 0 ∧
      (session.act (.sweep 400000)).after.correlator.tally? .pending =
        ((correlator.countOut
          (session.countedOut (.sweep 400000))).countInto []).tally?
            .pending := by
  intro session correlator held
  have swept : session.countedOut (.sweep 400000) =
      [.completed] ++ .pending :: [.timedOut] := by
    decide
  obtain ⟨pending, completed, _, next⟩ :=
    (tallies_equal_map 5000 300000
      [.openHandle 1, .openHandle 2, .complete 1 "reply", .wait 3 10,
        .advance 20, .ring, .poll 3 0]).2.2.2 (by decide)
  obtain ⟨behind, above⟩ := next (.sweep 400000)
  exact ⟨swept, pending, completed, above _ _ _ swept, behind rfl .pending⟩

end Session

end Switchboard
