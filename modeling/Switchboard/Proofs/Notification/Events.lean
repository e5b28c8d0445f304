import Switchboard.Notification.Event

/-!
# Names with something around them

The groups of events are tried in an order, so a name belongs to the first
group that has a pattern in it.  No pattern has a dot, so a name with a dot has
the patterns of its two sides and no others.  No casting pattern overlaps with a
casting or lifecycle pattern, so what stands around such a pattern brings in a
casting pattern only if it holds one by itself.
-/

namespace Switchboard.Category

/-- The place of a group in the order in which groups are tried. -/
def rank : Category → Nat
  | .dial .hide => 0
  | .dial .launch => 1
  | .dial .resume => 2
  | .dial .stop => 3
  | .dial .state => 4
  | .lifecycle => 5
  | .stateChange => 6
  | .unrecognised => 7

/-- The one of two groups that is tried first. -/
def earlier (first second : Category) : Category :=
  if first.rank ≤ second.rank then first else second

theorem rank_le (group : Category) : group.rank ≤ 7 := by
  rcases group with (_ | _ | _ | _ | _) | _ | _ | _ <;> decide

theorem rank_inj {first second : Category}
    (same : first.rank = second.rank) : first = second := by
  rcases first with (_ | _ | _ | _ | _) | _ | _ | _ <;>
    rcases second with (_ | _ | _ | _ | _) | _ | _ | _ <;>
      first
      | rfl
      | cases same

theorem rank_earlier_le_iff {first second : Category} {place : Nat} :
    (first.earlier second).rank ≤ place ↔
      first.rank ≤ place ∨ second.rank ≤ place := by
  unfold earlier
  split <;> omega

theorem earlier_of_unrecognised (group : Category) :
    earlier .unrecognised group = group := by
  rcases group with (_ | _ | _ | _ | _) | _ | _ | _ <;> rfl

theorem eq_of_rank_le_iff {first second : Category}
    (same : ∀ place < 7, first.rank ≤ place ↔ second.rank ≤ place) :
    first = second := by
  apply rank_inj
  have firstLast := first.rank_le
  have secondLast := second.rank_le
  rcases Nat.lt_trichotomy first.rank second.rank with less | equal | greater
  · have found := (same first.rank (by omega)).mp (Nat.le_refl _)
    omega
  · exact equal
  · have found := (same second.rank (by omega)).mpr (Nat.le_refl _)
    omega

/-- All patterns with their groups, in the order in which they are tried. -/
def patterns : List (String × Category) :=
  dialPatterns.map (fun entry => (entry.1, .dial entry.2)) ++
    lifecyclePatterns.map (fun pattern => (pattern, .lifecycle)) ++
      [(stateChangePattern, .stateChange)]

/-- A name has a pattern in it. -/
def Has (name pattern : String) : Prop :=
  pattern.toList <:+: name.toList

instance (name pattern : String) : Decidable (Has name pattern) :=
  decidable_of_iff _ Text.occursIn_iff

theorem mem_dialPatterns {entry : String × Category}
    (member : entry ∈ patterns) (first : entry.2.rank < 5) :
    ∃ event, (entry.1, event) ∈ dialPatterns := by
  rcases List.mem_append.mp member with others | last
  · rcases List.mem_append.mp others with casting | lifecycle
    · obtain ⟨⟨pattern, event⟩, among, rfl⟩ := List.mem_map.mp casting
      exact ⟨event, among⟩
    · obtain ⟨pattern, -, rfl⟩ := List.mem_map.mp lifecycle
      exact absurd first (Nat.lt_irrefl 5)
  · obtain rfl := List.mem_singleton.mp last
    exact absurd first (by decide)

/-! ## The first pattern decides -/

/-- The group of the first entry that is chosen. -/
def firstOf (chosen : String → Bool) (entries : List (String × Category)) :
    Category :=
  ((entries.find? fun entry => chosen entry.1).map Prod.snd).getD
    .unrecognised

theorem firstOf_cons (chosen : String → Bool) (entry : String × Category)
    (entries : List (String × Category)) :
    firstOf chosen (entry :: entries) =
      if chosen entry.1 then entry.2 else firstOf chosen entries := by
  unfold firstOf
  rw [List.find?_cons]
  cases chosen entry.1 <;> rfl

private theorem firstOf_append (chosen : String → Bool)
    (first second : List (String × Category)) :
    firstOf chosen (first ++ second) =
      match first.find? fun entry => chosen entry.1 with
      | some entry => entry.2
      | none => firstOf chosen second := by
  unfold firstOf
  rw [List.find?_append]
  cases first.find? fun entry => chosen entry.1 <;> rfl

private theorem rank_firstOf_le_iff {chosen : String → Bool}
    {entries : List (String × Category)} {place : Nat} (inside : place < 7)
    (ordered : entries.Pairwise fun first second =>
      first.2.rank ≤ second.2.rank) :
    (firstOf chosen entries).rank ≤ place ↔
      ∃ entry ∈ entries, entry.2.rank ≤ place ∧ chosen entry.1 = true := by
  induction ordered with
  | nil =>
      constructor
      · intro reached
        exact absurd (Nat.lt_of_lt_of_le inside reached) (Nat.lt_irrefl _)
      · rintro ⟨entry, member, -⟩
        cases member
  | @cons entry entries least _ induction =>
      rw [firstOf_cons]
      cases taken : chosen entry.1 with
      | true =>
          rw [if_pos rfl]
          constructor
          · intro reached
            exact ⟨entry, List.mem_cons_self, reached, taken⟩
          · rintro ⟨other, member, reached, -⟩
            rcases List.mem_cons.mp member with rfl | later
            · exact reached
            · exact Nat.le_trans (least other later) reached
      | false =>
          rw [if_neg Bool.false_ne_true, induction]
          constructor
          · rintro ⟨other, member, found⟩
            exact ⟨other, List.mem_cons_of_mem _ member, found⟩
          · rintro ⟨other, member, reached, chosen⟩
            rcases List.mem_cons.mp member with rfl | later
            · rw [taken] at chosen
              cases chosen
            · exact ⟨other, later, reached, chosen⟩

/-- A name belongs to the group of the first pattern that it has. -/
theorem ofName_eq_firstOf (name : String) :
    ofName name =
      firstOf (fun pattern => Text.occursIn pattern.toList name.toList)
        patterns := by
  unfold ofName patterns
  rw [List.append_assoc, firstOf_append, List.find?_map]
  dsimp only [Function.comp_def]
  cases dialPatterns.find? fun entry =>
      Text.occursIn entry.1.toList name.toList with
  | some entry => rfl
  | none =>
      rw [Option.map_none, firstOf_append, List.find?_map,
        ← List.isSome_find?]
      dsimp only [Function.comp_def]
      cases lifecyclePatterns.find? fun pattern =>
          Text.occursIn pattern.toList name.toList with
      | some pattern => rfl
      | none =>
          rw [Option.map_none, firstOf_cons]
          rfl

theorem rank_ofName_le_iff {name : String} {place : Nat}
    (inside : place < 7) :
    (ofName name).rank ≤ place ↔
      ∃ entry ∈ patterns, entry.2.rank ≤ place ∧ Has name entry.1 := by
  have ordered : patterns.Pairwise fun first second =>
      first.2.rank ≤ second.2.rank := by decide
  rw [ofName_eq_firstOf, rank_firstOf_le_iff inside ordered]
  simp only [Text.occursIn_iff, Has]

/-! ## Dots -/

private theorem infix_around_dot {pattern before behind : List Char}
    (dotless : '.' ∉ pattern) :
    pattern <:+: before ++ '.' :: behind ↔
      pattern <:+: before ∨ pattern <:+: behind := by
  have starts : ∀ {front : List Char}, '.' ∉ front → front ≠ [] →
      ¬front <+: '.' :: behind := by
    intro front apart some starts
    cases front with
    | nil => exact some rfl
    | cons letter front =>
        obtain rfl : letter = '.' := (List.cons_prefix_cons.mp starts).1
        exact apart List.mem_cons_self
  rw [List.infix_append_iff_ne_nil, List.infix_cons_iff]
  constructor
  · rintro (left | (front | right) | ⟨front, back, -, some, rfl, -, reaches⟩)
    · exact .inl left
    · cases pattern with
      | nil => exact .inl List.nil_infix
      | cons letter pattern =>
          exact absurd front (starts dotless (List.cons_ne_nil _ _))
    · exact .inr right
    · apply absurd reaches
      apply starts _ some
      intro dot
      exact dotless (List.mem_append_right _ dot)
  · rintro (left | right)
    · exact .inl left
    · exact .inr (.inl (.inr right))

private theorem has_dotted {pattern : String} {group : Category}
    (member : (pattern, group) ∈ patterns) (before behind : String) :
    Has (before ++ "." ++ behind) pattern ↔
      Has before pattern ∨ Has behind pattern := by
  have dotless : ∀ entry ∈ patterns, '.' ∉ entry.1.toList := by
    decide +kernel
  have split : (before ++ "." ++ behind).toList =
      before.toList ++ '.' :: behind.toList := by simp
  rw [Has, split, infix_around_dot (dotless _ member)]
  rfl

theorem ofName_dotted (before behind : String) :
    ofName (before ++ "." ++ behind) =
      (ofName before).earlier (ofName behind) := by
  apply eq_of_rank_le_iff
  intro place inside
  rw [rank_earlier_le_iff]
  simp only [rank_ofName_le_iff inside]
  constructor
  · rintro ⟨entry, member, reached, found⟩
    rcases (has_dotted member before behind).mp found with left | right
    · exact .inl ⟨entry, member, reached, left⟩
    · exact .inr ⟨entry, member, reached, right⟩
  · rintro (⟨entry, member, reached, left⟩ | ⟨entry, member, reached, right⟩)
    · refine ⟨entry, member, reached, ?_⟩
      exact (has_dotted member before behind).mpr (.inl left)
    · refine ⟨entry, member, reached, ?_⟩
      exact (has_dotted member before behind).mpr (.inr right)

/-! ## Seams -/

/-- Wherever the pattern is cut in two, its parts do not fit the ends of the
word: neither part is one of them or, for the part behind, holds the word. -/
def Apart (word pattern : List Char) : Prop :=
  ∀ place ∈ List.range pattern.length, place ≠ 0 →
    ¬pattern.drop place <+: word ∧ ¬word <+: pattern.drop place ∧
      ¬pattern.take place <:+ word

instance (word pattern : List Char) : Decidable (Apart word pattern) :=
  inferInstanceAs (Decidable (∀ place ∈ List.range pattern.length, _))

private theorem Apart.cut {word pattern front back : List Char}
    (apart : Apart word pattern) (cut : pattern = front ++ back)
    (some : front ≠ []) (rest : back ≠ []) :
    ¬back <+: word ∧ ¬word <+: back ∧ ¬front <:+ word := by
  have taken := apart front.length
  rw [cut, List.drop_left, List.take_left] at taken
  apply taken
  · rw [List.mem_range, List.length_append]
    have positive := List.length_pos_iff.mpr rest
    omega
  · intro zero
    exact some (List.length_eq_zero_iff.mp zero)

/-- A pattern that is apart from a word does not come about at the seams. -/
theorem Apart.infix_embedded {word pattern : List Char}
    (apart : Apart word pattern) {before behind : List Char}
    (found : pattern <:+: before ++ (word ++ behind)) :
    pattern <:+: before ∨ pattern <:+: word ∨ pattern <:+: behind := by
  rcases List.infix_append_iff_ne_nil.mp found with
    left | right | ⟨front, back, some, rest, cut, -, reaches⟩
  · exact .inl left
  · rcases List.infix_append_iff_ne_nil.mp right with
      inner | last | ⟨front, back, some, rest, cut, ends, -⟩
    · exact .inr (.inl inner)
    · exact .inr (.inr last)
    · exact absurd ends (apart.cut cut some rest).2.2
  · obtain ⟨short, long, -⟩ := apart.cut cut some rest
    rcases List.prefix_or_prefix_of_prefix reaches
        (List.prefix_append word behind) with within | beyond
    · exact absurd within short
    · exact absurd beyond long

theorem apart_of_patterns :
    ∀ entry ∈ patterns, entry.2.rank ≤ 5 →
      ∀ casting ∈ patterns, casting.2.rank < 5 →
        Apart entry.1.toList casting.1.toList := by
  decide +kernel

theorem ofName_of_pattern {pattern : String} {group : Category}
    (member : (pattern, group) ∈ patterns) : ofName pattern = group := by
  have named : ∀ entry ∈ patterns, ofName entry.1 = entry.2 := by
    decide +kernel
  exact named (pattern, group) member

/-- A casting or lifecycle pattern decides about a name that it stands in, if
nothing around it holds a casting pattern. -/
theorem ofName_embedded {pattern : String} {group : Category}
    (member : (pattern, group) ∈ patterns) (urgent : group.rank ≤ 5)
    {before behind : String}
    (plain : ∀ casting ∈ patterns, casting.2.rank < 5 →
      ¬Has before casting.1 ∧ ¬Has behind casting.1) :
    ofName (before ++ pattern ++ behind) = group := by
  have own := ofName_of_pattern member
  have split : (before ++ pattern ++ behind).toList =
      before.toList ++ (pattern.toList ++ behind.toList) := by simp
  rw [← own]
  apply eq_of_rank_le_iff
  intro place inside
  rw [rank_ofName_le_iff inside, rank_ofName_le_iff inside]
  constructor
  · rintro ⟨other, among, reached, found⟩
    by_cases first : other.2.rank < 5
    · rw [Has, split] at found
      obtain ⟨noneBefore, noneBehind⟩ := plain other among first
      have apart :=
        apart_of_patterns (pattern, group) member urgent other among first
      rcases apart.infix_embedded found with left | inner | right
      · exact absurd left noneBefore
      · exact ⟨other, among, reached, inner⟩
      · exact absurd right noneBehind
    · -- The pattern itself is tried no later than this one.
      refine ⟨(pattern, group), member, ?_, List.infix_refl _⟩
      dsimp only
      omega
  · rintro ⟨other, among, reached, found⟩
    refine ⟨other, among, reached, ?_⟩
    rw [Has, split]
    apply List.IsInfix.trans found
    apply List.infix_append'

/-- A name with a dot belongs to the group of one of its sides, the one tried
first.  A pattern decides the group of a name whatever stands around it, unless
a casting pattern stands there. -/
theorem surroundings_do_not_change_groups :
    (∀ before behind : String,
      ofName (before ++ "." ++ behind) =
        (ofName before).earlier (ofName behind)) ∧
      (∀ before behind : String, ofName before = .unrecognised →
        ofName (before ++ "." ++ behind) = ofName behind) ∧
      ∀ before behind : String,
        (∀ casting ∈ dialPatterns,
          ¬Has before casting.1 ∧ ¬Has behind casting.1) →
        (∀ casting ∈ dialPatterns,
          ofName casting.1 = .dial casting.2 ∧
            ofName (before ++ casting.1 ++ behind) = .dial casting.2) ∧
        ∀ pattern ∈ lifecyclePatterns,
          ofName pattern = .lifecycle ∧
            ofName (before ++ pattern ++ behind) = .lifecycle := by
  refine ⟨ofName_dotted, ?_, ?_⟩
  · intro before behind unknown
    rw [ofName_dotted, unknown, earlier_of_unrecognised]
  · intro before behind plain
    have plainPatterns : ∀ casting ∈ patterns, casting.2.rank < 5 →
        ¬Has before casting.1 ∧ ¬Has behind casting.1 := by
      intro casting member first
      obtain ⟨event, among⟩ := mem_dialPatterns member first
      exact plain (casting.1, event) among
    constructor
    · rintro ⟨word, event⟩ among
      have member : (word, .dial event) ∈ patterns := by
        apply List.mem_append_left
        apply List.mem_append_left
        exact List.mem_map_of_mem among
      have urgent : (Category.dial event).rank ≤ 5 := by
        cases event <;> decide
      have embedded := ofName_embedded member urgent plainPatterns
      exact ⟨ofName_of_pattern member, embedded⟩
    · intro word among
      have member : (word, .lifecycle) ∈ patterns := by
        apply List.mem_append_left
        apply List.mem_append_right
        exact List.mem_map_of_mem among
      have embedded := ofName_embedded member (Nat.le_refl 5) plainPatterns
      exact ⟨ofName_of_pattern member, embedded⟩

/-- A lifecycle pattern between the two halves of a casting pattern, and one
with a service and its version in front. -/
theorem lifecycle_pattern_between_halves :
    (∀ casting ∈ dialPatterns,
      ¬Has "onApplicationLaunch" casting.1 ∧ ¬Has "Request" casting.1) ∧
      ofName ("onApplicationLaunch" ++ "onLaunched" ++ "Request") =
        .lifecycle ∧
      ofName "org.rdk.RDKShell.1" = .unrecognised ∧
      ofName ("org.rdk.RDKShell.1" ++ "." ++ "onSuspended") =
        ofName "onSuspended" := by
  obtain ⟨-, dotted, embedded⟩ := surroundings_do_not_change_groups
  have plain : ∀ casting ∈ dialPatterns,
      ¬Has "onApplicationLaunch" casting.1 ∧ ¬Has "Request" casting.1 := by
    decide +kernel
  have unknown : ofName "org.rdk.RDKShell.1" = .unrecognised := by
    decide +kernel
  have lifecycle := (embedded _ _ plain).2 "onLaunched" (by decide +kernel)
  exact ⟨plain, lifecycle.2, unknown, dotted _ _ unknown⟩

end Switchboard.Category
