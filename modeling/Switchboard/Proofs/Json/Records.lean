import Switchboard.Json.Shape
import Switchboard.Proofs.Json.Skimming

/-!
# Records are read from their members

A record is read from an object in one pass: each member that it has a field
for changes it, and each other one is passed over.  So the record is what its
members make of it one after the other, if no name stands twice.
-/

namespace Switchboard.Json

variable {σ : Type}

/-- A field makes this change of a record when it reads a text. -/
def Field.Makes (field : Field σ) (change : σ → σ) (written : List Char) :
    Prop :=
  ∀ {blanks rest : List Char}, Blank blanks → Stops rest →
    field.read (blanks ++ (written ++ rest)) = .ok (change, rest)

/-- What a text has to be for the member of a name to have this effect on a
record: its field reads it so, or it has no field and does nothing. -/
inductive Affects (fields : List (Field σ)) (effect : σ → String × Value → σ)
    (name : String) (written : List Char) (value : Value) : Prop where
  | known (field : Field σ) :
      fields.find? (·.name = name) = some field →
      field.Makes (effect · (name, value)) written →
      Affects fields effect name written value
  | unknown :
      fields.find? (·.name = name) = none →
      Passes written →
      (∀ record, effect record (name, value) = record) →
      Affects fields effect name written value

namespace Shape

variable {fields : List (Field σ)} {effect : σ → String × Value → σ}

private theorem readMember_complete {written rest : List Char}
    {member : String × Value}
    (spelled : Member (Affects fields effect member.1) written member)
    (stops : Stops rest) (record : σ) {seen : List String}
    (fresh : member.1 ∉ seen) :
    ∃ more after, written = '"' :: more ∧ after ⊆ member.1 :: seen ∧
      readMember fields record seen (more ++ rest) =
        .ok ((effect record member, after), rest) := by
  obtain ⟨quotes, before, behind, affects⟩ := spelled
  rename_i name letters inner others spelling value
  have quoted := readQuoted_complete quotes []
    (inner ++ ':' :: (others ++ (spelling ++ rest)))
  have colon := readColon_complete before (others ++ (spelling ++ rest))
  rw [List.reverse_nil, List.nil_append] at quoted
  cases affects with
  | known field found makes =>
      refine ⟨_, _ :: seen, rfl, List.Subset.refl _, ?_⟩
      simp only [List.append_assoc, List.cons_append]
      simp only [readMember, quoted, found, fresh, colon, makes behind stops,
        bind, Except.bind, pure, Except.pure, if_false]
  | unknown absent passes same =>
      refine ⟨_, seen, rfl, List.subset_cons_self _ _, ?_⟩
      simp only [List.append_assoc, List.cons_append]
      simp only [readMember, quoted, absent, colon, passes.skip behind stops,
        bind, Except.bind, pure, Except.pure, same]

private theorem readMembers_opening {first : Bool} {opening : List Char}
    (opens : Opening first opening) (calls : Nat) (record : σ)
    (seen : List String) (rest : List Char) :
    readMembers fields (calls + 1) record seen first
        (opening ++ '"' :: rest) = (do
      let ((record, seen), left) ← readMember fields record seen rest
      readMembers fields calls record seen false left) := by
  have solid : skipSpaces ('"' :: rest) = '"' :: rest :=
    skipSpaces_cons (by decide) rest
  cases opens with
  | first blank =>
      rw [readMembers, skipSpaces_append blank, solid]
      rfl
  | later before behind =>
      rw [List.append_assoc, List.cons_append, readMembers,
        skipSpaces_append before, skipSpaces_cons (by decide)]
      simp [skipSpaces_append behind, solid, bind, Except.bind, pure,
        Except.pure]

private theorem readMembers_complete {first : Bool} {inside : List Char}
    {members : List (String × Value)}
    (row : Parts
      (fun written member =>
        Member (Affects fields effect member.1) written member)
      first inside members)
    (distinct : (members.map Prod.fst).Nodup) {calls : Nat} {record : σ}
    {seen : List String} (fresh : ∀ member ∈ members, member.1 ∉ seen)
    {rest : List Char}
    (enough : (inside ++ '\x7d' :: rest).length ≤ calls) :
    readMembers fields calls record seen first (inside ++ '\x7d' :: rest) =
      .ok (members.foldl effect record, rest) := by
  induction row generalizing calls record seen with
  | nil blank =>
      simp only [List.length_append, List.length_cons] at enough
      obtain ⟨calls, rfl⟩ : ∃ fewer, calls = fewer + 1 :=
        ⟨calls - 1, by omega⟩
      rw [readMembers, skipSpaces_append blank, skipSpaces_cons (by decide)]
      rfl
  | @cons first opening written inside member members opens spelled others
      induction =>
      obtain ⟨apart, distinct⟩ := List.nodup_cons.mp distinct
      have stops : Stops (inside ++ '\x7d' :: rest) :=
        others.stops (.inr (.inr (.inr rfl)))
      obtain ⟨more, after, rfl, few, front⟩ := readMember_complete spelled
        stops record (fresh member List.mem_cons_self)
      simp only [List.length_append, List.length_cons] at enough
      obtain ⟨calls, rfl⟩ : ∃ fewer, calls = fewer + 1 :=
        ⟨calls - 1, by omega⟩
      simp only [List.append_assoc, List.cons_append]
      rw [readMembers_opening opens, front]
      apply induction distinct
      · intro other inside again
        rcases List.mem_cons.mp (few again) with same | old
        · exact apart (same ▸ List.mem_map_of_mem inside)
        · exact fresh other (List.mem_cons_of_mem _ inside) old
      · simp only [List.length_append, List.length_cons]
        omega

/-- A record is read from the compact text of an object. -/
theorem parse_compact {shape : Shape σ} {members : List (String × Value)}
    (affects : ∀ member ∈ members,
      Affects shape.fields effect member.1 member.2.render member.2)
    (distinct : (members.map Prod.fst).Nodup) :
    shape.parse (Value.object members).compact =
      .ok (members.foldl effect shape.start) := by
  have row : Parts
      (fun written member =>
        Member (Affects shape.fields effect member.1) written member)
      true (renderMembers members) members := by
    rw [renderMembers_eq]
    apply (parts_intercalate renderMember _).1
    intro member inside
    exact member_render member.1 (affects member inside)
  have reads : ∀ calls, (renderMembers members ++ ['\x7d']).length ≤ calls →
      readMembers shape.fields calls shape.start [] true
          (renderMembers members ++ ['\x7d']) =
        .ok (members.foldl effect shape.start, []) := by
    intro calls enough
    exact readMembers_complete row distinct
      (fun _ _ => List.not_mem_nil) enough
  apply readDocument_eq_ok.mpr
  refine ⟨[], ?_, .nil⟩
  rw [Value.compact, String.toList_ofList, Value.render, read,
    skipSpaces_cons (by decide)]
  exact reads _ (Nat.le_succ _)

end Shape

end Switchboard.Json
