import Switchboard.Proofs.Json.Grammar

/-!
# Gathering members

An object holds for each name the last member that its text gives the name.
Members that come in the order of their names are held as they come.
-/

namespace Switchboard.Json.Members

/-- The value of the last member of a name. -/
def last? (name : String) : List (String × Value) → Option Value
  | [] => none
  | (other, value) :: rest =>
      (last? name rest).or (if other = name then some value else none)

theorem find?_gather (name : String) (held : Members)
    (written : List (String × Value)) :
    find? name (held.gather written) =
      (last? name written).or (find? name held) := by
  induction written generalizing held with
  | nil => rfl
  | cons member rest induction =>
      obtain ⟨other, value⟩ := member
      have step : held.gather ((other, value) :: rest) =
          (held.insert other value).gather rest := rfl
      rw [step, induction, last?, Option.or_assoc]
      by_cases same : other = name
      · subst same
        rw [find?_insert_self, if_pos rfl, Option.some_or]
      · rw [find?_insert_of_ne (Ne.symm same), if_neg same, Option.none_or]

/-- An object holds the last member of each name. -/
theorem find?_gather_nil (name : String) (written : List (String × Value)) :
    find? name (gather [] written) = last? name written := by
  rw [find?_gather]
  exact Option.or_none

theorem last?_append (name : String) (first second : List (String × Value)) :
    last? name (first ++ second) =
      (last? name second).or (last? name first) := by
  induction first with
  | nil => exact Option.or_none.symm
  | cons member rest induction =>
      obtain ⟨other, value⟩ := member
      rw [List.cons_append, last?, last?, induction, Option.or_assoc]

theorem mem_of_last? {name : String} {value : Value}
    {written : List (String × Value)}
    (last : last? name written = some value) : (name, value) ∈ written := by
  induction written with
  | nil => cases last
  | cons member rest induction =>
      obtain ⟨other, held⟩ := member
      rw [last?] at last
      cases later : last? name rest with
      | some found =>
          rw [later, Option.some_or] at last
          cases last
          exact List.mem_cons_of_mem _ (induction later)
      | none =>
          rw [later, Option.none_or] at last
          split at last
          · next same =>
              cases last
              rw [same]
              exact List.mem_cons_self
          · cases last

/-- Members in the order of their names, each name once. -/
def Sorted (members : List (String × Value)) : Prop :=
  (members.map Prod.fst).Pairwise (· < ·)

private theorem insert_of_last {held : Members} {name : String} (value : Value)
    (greatest : ∀ member ∈ held, member.1 < name) :
    held.insert name value = held ++ [(name, value)] := by
  induction held with
  | nil => rfl
  | cons member rest induction =>
      obtain ⟨other, found⟩ := member
      have less : other < name := greatest _ List.mem_cons_self
      have apart : name ≠ other := (String.ne_of_lt less).symm
      have behind : ¬name < other := String.lt_asymm less
      rw [insert, if_neg apart, if_neg behind,
        induction fun member inside =>
          greatest member (List.mem_cons_of_mem _ inside),
        List.cons_append]

theorem gather_of_sorted {held written : List (String × Value)}
    (sorted : Sorted (held ++ written)) :
    gather held written = held ++ written := by
  induction written generalizing held with
  | nil => exact (List.append_nil held).symm
  | cons member rest induction =>
      have step : gather held (member :: rest) =
          gather (insert member.1 member.2 held) rest := rfl
      have greatest : ∀ other ∈ held, other.1 < member.1 := by
        intro other inside
        rw [Sorted, List.map_append, List.pairwise_append] at sorted
        apply sorted.2.2 other.1 (List.mem_map_of_mem inside)
        exact List.mem_cons_self
      rw [step, insert_of_last member.2 greatest, induction]
      · simp
      · simpa using sorted

/-! ## What is gathered -/

theorem mem_insert {name : String} {value : Value} {members : Members}
    {member : String × Value} (inside : member ∈ members.insert name value) :
    member = (name, value) ∨ member ∈ members := by
  induction members with
  | nil => exact .inl (List.mem_singleton.mp inside)
  | cons next rest induction =>
      obtain ⟨other, held⟩ := next
      rw [insert] at inside
      split at inside
      · rcases List.mem_cons.mp inside with new | later
        · exact .inl new
        · exact .inr (List.mem_cons_of_mem _ later)
      · split at inside
        · exact List.mem_cons.mp inside
        · rcases List.mem_cons.mp inside with first | later
          · exact .inr (first ▸ List.mem_cons_self)
          · rcases induction later with new | old
            · exact .inl new
            · exact .inr (List.mem_cons_of_mem _ old)

theorem mem_gather {held written : List (String × Value)}
    {member : String × Value} (inside : member ∈ gather held written) :
    member ∈ held ∨ member ∈ written := by
  induction written generalizing held with
  | nil => exact .inl inside
  | cons next rest induction =>
      rcases induction inside with early | late
      · rcases mem_insert early with new | old
        · exact .inr (new ▸ List.mem_cons_self)
        · exact .inl old
      · exact .inr (List.mem_cons_of_mem _ late)

theorem Sorted.nil : Sorted [] :=
  List.Pairwise.nil

theorem Sorted.nodup {members : List (String × Value)}
    (sorted : Sorted members) : (members.map Prod.fst).Nodup :=
  sorted.imp String.ne_of_lt

private theorem Sorted.insert {members : Members} (sorted : Sorted members)
    (name : String) (value : Value) :
    Sorted (members.insert name value) := by
  induction members with
  | nil => exact List.pairwise_singleton _ _
  | cons next rest induction =>
      obtain ⟨other, held⟩ := next
      obtain ⟨least, ordered⟩ := List.pairwise_cons.mp sorted
      rw [Members.insert]
      split
      case isTrue same =>
          subst same
          exact sorted
      case isFalse apart =>
          split
          case isTrue less =>
              apply List.pairwise_cons.mpr
              refine ⟨?_, sorted⟩
              intro later member
              rcases List.mem_cons.mp member with rfl | inside
              · exact less
              · exact String.lt_trans less (least later inside)
          case isFalse behind =>
              apply List.pairwise_cons.mpr
              refine ⟨?_, induction ordered⟩
              intro later member
              obtain ⟨kept, inside, rfl⟩ := List.mem_map.mp member
              rcases mem_insert inside with rfl | old
              · apply String.not_le.mp
                intro reached
                exact apart
                  (String.le_antisymm reached (String.not_lt.mp behind))
              · exact least _ (List.mem_map_of_mem old)

/-- An object holds its members in the order of their names. -/
theorem sorted_gather {held : List (String × Value)} (sorted : Sorted held)
    (written : List (String × Value)) : Sorted (gather held written) := by
  induction written generalizing held with
  | nil => exact sorted
  | cons member rest induction =>
      exact induction (sorted.insert member.1 member.2)

private theorem last?_eq_find? {members : List (String × Value)}
    (distinct : (members.map Prod.fst).Nodup) (name : String) :
    last? name members = find? name members := by
  induction members with
  | nil => rfl
  | cons member rest induction =>
      obtain ⟨other, value⟩ := member
      obtain ⟨apart, distinct⟩ := List.nodup_cons.mp distinct
      by_cases same : other = name
      · subst same
        have absent : last? other rest = none := by
          apply Option.eq_none_iff_forall_ne_some.mpr
          intro held found
          have inside : other ∈ rest.map Prod.fst :=
            List.mem_map_of_mem (mem_of_last? found)
          exact apart inside
        rw [last?, find?, absent, if_pos rfl, if_pos rfl, Option.none_or]
      · rw [last?, find?, induction distinct, if_neg same,
          if_neg (Ne.symm same), Option.or_none]

/-- An object holds last what its text gives last. -/
theorem last?_gather (name : String) (written : List (String × Value)) :
    last? name (gather [] written) = last? name written := by
  rw [last?_eq_find? (sorted_gather .nil written).nodup, find?_gather_nil]

end Switchboard.Json.Members
