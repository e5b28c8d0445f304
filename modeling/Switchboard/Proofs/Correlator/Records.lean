import Mathlib.Data.List.Basic
import Mathlib.Data.Option.Basic
import Switchboard.Correlator.Record

/-!
# Laws of records and their cells

In a list that holds each id once, looking up an id and being a member are the
same, and a filter acts on the record of each id by itself.  Letting the
waiters of records go settles exactly the cells of those records that were not
settled before.
-/

namespace Switchboard

namespace Cells

@[simp]
theorem issued_settle (cells : Cells) (cell : CellId)
    (settlement : Settlement) :
    (cells.settle cell settlement).issued = cells.issued := by
  unfold settle
  split <;> rfl

theorem settlement?_settle (cells : Cells) (cell : CellId)
    (settlement : Settlement) :
    (cells.settle cell settlement).settlement? cell =
      some ((cells.settlement? cell).getD settlement) := by
  cases known : cells.settlement? cell with
  | none =>
      exact settlement?_settle_self cells cell settlement
        (by simp [isSettled, known])
  | some held =>
      have isSettled : cells.isSettled cell = true := by
        simp [Cells.isSettled, known]
      rw [settle_of_isSettled cells cell settlement isSettled]
      exact known

/-- Cells that came to be from others: none was taken back, and none that was
settled has changed. -/
structure Grows (before after : Cells) : Prop where
  issued : before.issued ≤ after.issued
  settled : ∀ {cell : CellId} {settlement : Settlement},
    before.settlement? cell = some settlement →
      after.settlement? cell = some settlement

namespace Grows

theorem refl (cells : Cells) : Grows cells cells :=
  ⟨Nat.le_refl _, fun settled => settled⟩

theorem trans {first second third : Cells} (before : Grows first second)
    (after : Grows second third) : Grows first third :=
  ⟨Nat.le_trans before.issued after.issued,
    fun settled => after.settled (before.settled settled)⟩

theorem issue (cells : Cells) : Grows cells cells.issue.2 :=
  ⟨Nat.le_succ _, fun settled => settled⟩

theorem settle (cells : Cells) (cell : CellId) (settlement : Settlement) :
    Grows cells (cells.settle cell settlement) := by
  refine ⟨by simp, ?_⟩
  intro other held settled
  by_cases same : other = cell
  · subst other
    have isSettled : cells.isSettled cell = true := by
      simp [Cells.isSettled, settled]
    rw [settle_of_isSettled cells cell settlement isSettled]
    exact settled
  · rw [settlement?_settle_of_ne cells same settlement]
    exact settled

end Grows

end Cells

namespace Records

/-- Each id is held once. -/
def Keyed (records : Records) : Prop :=
  (records.map Prod.fst).Nodup

theorem mem_of_find? {id : RequestId} {record : Record} {records : Records}
    (found : find? id records = some record) : (id, record) ∈ records := by
  induction records with
  | nil => cases found
  | cons entry rest induction =>
      obtain ⟨other, held⟩ := entry
      rw [find?_cons] at found
      by_cases same : id = other
      · rw [if_pos same] at found
        cases found
        rw [same]
        exact List.mem_cons_self
      · rw [if_neg same] at found
        exact List.mem_cons_of_mem _ (induction found)

theorem find?_of_mem {id : RequestId} {record : Record} {records : Records}
    (keyed : Keyed records) (member : (id, record) ∈ records) :
    find? id records = some record := by
  induction records with
  | nil => cases member
  | cons entry rest induction =>
      obtain ⟨other, held⟩ := entry
      have keys : other ∉ rest.map Prod.fst ∧ Keyed rest := by
        simpa only [Keyed, List.map_cons, List.nodup_cons] using keyed
      rw [find?_cons]
      rcases List.mem_cons.mp member with head | tail
      · cases head
        rw [if_pos rfl]
      · have different : id ≠ other := by
          intro same
          subst same
          exact keys.1 (List.mem_map.mpr ⟨_, tail, rfl⟩)
        rw [if_neg different]
        exact induction keys.2 tail

theorem find?_eq_some_iff {id : RequestId} {record : Record}
    {records : Records} (keyed : Keyed records) :
    find? id records = some record ↔ (id, record) ∈ records :=
  ⟨mem_of_find?, find?_of_mem keyed⟩

theorem Keyed.filter {records : Records} (keyed : Keyed records)
    (keep : RequestId × Record → Bool) : Keyed (records.filter keep) :=
  List.Nodup.sublist (List.Sublist.map _ List.filter_sublist) keyed

theorem Keyed.erase {records : Records} (keyed : Keyed records)
    (id : RequestId) : Keyed (erase id records) :=
  keyed.filter _

theorem mem_keys_put {id other : RequestId} {record : Record}
    {records : Records} :
    other ∈ (put id record records).map Prod.fst ↔
      other = id ∨ other ∈ records.map Prod.fst := by
  induction records with
  | nil => simp [put]
  | cons entry rest induction =>
      obtain ⟨next, held⟩ := entry
      by_cases same : id = next
      · subst same
        simp [put]
      · rw [put, if_neg same]
        simp only [List.map_cons, List.mem_cons, induction]
        tauto

theorem Keyed.put {records : Records} (keyed : Keyed records)
    (id : RequestId) (record : Record) : Keyed (put id record records) := by
  induction records with
  | nil => simp [Keyed, Records.put]
  | cons entry rest induction =>
      obtain ⟨next, held⟩ := entry
      have keys : next ∉ rest.map Prod.fst ∧ Keyed rest := by
        simpa only [Keyed, List.map_cons, List.nodup_cons] using keyed
      by_cases same : id = next
      · subst same
        simpa [Records.put, Keyed] using keyed
      · rw [Records.put, if_neg same]
        simp only [Keyed, List.map_cons, List.nodup_cons]
        refine ⟨?_, induction keys.2⟩
        intro member
        rcases mem_keys_put.mp member with equal | other
        · exact same equal.symm
        · exact keys.1 other

theorem find?_filter {records : Records} (keyed : Keyed records)
    (keep : RequestId × Record → Bool) (id : RequestId) :
    find? id (records.filter keep) =
      (find? id records).filter fun record => keep (id, record) := by
  apply Option.ext
  intro record
  rw [find?_eq_some_iff (keyed.filter keep), List.mem_filter,
    ← find?_eq_some_iff keyed, Option.filter_eq_some_iff]

@[simp]
theorem issued_release (reason : Settlement) (cells : Cells)
    (records : Records) :
    (release reason cells records).2.issued = cells.issued := by
  induction records generalizing cells with
  | nil => rfl
  | cons entry rest induction =>
      unfold release
      split
      · exact induction cells
      · simpa using induction (cells.settle entry.2.cell reason)

theorem grows_release (reason : Settlement) (cells : Cells)
    (records : Records) :
    cells.Grows (release reason cells records).2 := by
  induction records generalizing cells with
  | nil => exact .refl cells
  | cons entry rest induction =>
      unfold release
      split
      · exact induction cells
      · exact (Cells.Grows.settle cells entry.2.cell reason).trans
          (induction _)

theorem release_of_isSettled (reason : Settlement) (cells : Cells)
    {records : Records}
    (settled : ∀ entry ∈ records, cells.isSettled entry.2.cell = true) :
    (release reason cells records).2 = cells := by
  induction records with
  | nil => rfl
  | cons entry rest induction =>
      rw [release, if_pos (settled entry List.mem_cons_self)]
      exact induction fun other member =>
        settled other (List.mem_cons_of_mem _ member)

theorem settlement?_release_of_apart (reason : Settlement) (cells : Cells)
    {records : Records} {cell : CellId}
    (apart : ∀ entry ∈ records, entry.2.cell ≠ cell) :
    (release reason cells records).2.settlement? cell =
      cells.settlement? cell := by
  induction records generalizing cells with
  | nil => rfl
  | cons entry rest induction =>
      have headApart : cell ≠ entry.2.cell :=
        (apart entry List.mem_cons_self).symm
      have restApart : ∀ other ∈ rest, other.2.cell ≠ cell :=
        fun other member => apart other (List.mem_cons_of_mem _ member)
      unfold release
      split
      · exact induction cells restApart
      · exact (induction _ restApart).trans
          (Cells.settlement?_settle_of_ne cells headApart reason)

/-- Letting records go settles every cell of theirs that was not settled. -/
theorem settlement?_release_of_mem (reason : Settlement) (cells : Cells)
    {records : Records} {cell : CellId}
    (unsettled : cells.settlement? cell = none)
    {entry : RequestId × Record} (member : entry ∈ records)
    (owned : entry.2.cell = cell) :
    (release reason cells records).2.settlement? cell = some reason := by
  induction records generalizing cells with
  | nil => cases member
  | cons head rest induction =>
      by_cases same : head.2.cell = cell
      · have headUnsettled : cells.isSettled head.2.cell = false := by
          simp [Cells.isSettled, same, unsettled]
        have headSettled :
            (cells.settle head.2.cell reason).settlement? cell =
              some reason := by
          rw [← same]
          exact Cells.settlement?_settle_self cells _ reason headUnsettled
        rw [release, if_neg (by simp [headUnsettled])]
        exact (grows_release reason _ rest).settled headSettled
      · have inRest : entry ∈ rest := by
          rcases List.mem_cons.mp member with equal | later
          · exact (same (equal ▸ owned)).elim
          · exact later
        unfold release
        split
        · exact induction cells unsettled inRest
        · refine induction _ ?_ inRest
          rw [Cells.settlement?_settle_of_ne cells (Ne.symm same) reason]
          exact unsettled

/-- Letting records go leaves a cell as it is, or settles it for the first
time. -/
theorem settlement?_release_cases (reason : Settlement) (cells : Cells)
    (records : Records) (cell : CellId) :
    (release reason cells records).2.settlement? cell =
        cells.settlement? cell ∨
      cells.settlement? cell = none ∧
        (release reason cells records).2.settlement? cell =
          some reason := by
  by_cases owned : ∃ entry ∈ records, entry.2.cell = cell
  · obtain ⟨entry, member, equal⟩ := owned
    cases settled : cells.settlement? cell with
    | some settlement =>
        exact .inl ((grows_release reason cells records).settled settled)
    | none =>
        exact .inr
          ⟨rfl, settlement?_release_of_mem reason cells settled member equal⟩
  · refine .inl (settlement?_release_of_apart reason cells ?_)
    intro entry member equal
    exact owned ⟨entry, member, equal⟩

end Records

end Switchboard
