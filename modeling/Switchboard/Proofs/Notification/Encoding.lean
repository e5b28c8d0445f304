import Switchboard.Proofs.Notification.Casting

/-!
# Casting parameters survive their text

Writing leaves out what is absent, and reading takes what is missing, and what
is `null`, for absent.  As every text that is there is written as a text, the
two conventions never meet: casting parameters are read back from their text,
alone and as the parameters of any notification.
-/

namespace Switchboard

open Json (Blank Parts Member Spells Plain)
open Json.Members (last? gather)

/-- The frame is one object, with other members and blanks wherever they may
stand.  Its last `method` is the name, and it has a member `params`, whose value
is written letter by letter as this text. -/
def Frame.Places (raw name params : String) : Prop :=
  ∃ before inside behind written value,
    raw.toList = before ++ ('\x7b' :: (inside ++ '\x7d' :: behind)) ∧
      Blank before ∧ Blank behind ∧
        Parts
          (fun text member =>
            Member
              (fun spelling value => Spells 126 spelling value ∧
                (member.1 = "params" → spelling = params.toList))
              text member)
          true inside written ∧
        last? "method" written = some (.text name) ∧
        last? "params" written = some value

theorem Frame.tells_of_places {raw name params : String}
    (places : Places raw name params) :
    ∃ value, Spells 126 params.toList value ∧
      Tells raw name value.members? := by
  obtain ⟨before, inside, behind, written, value, split, leading, trailing,
    row, named, last⟩ := places
  refine ⟨value, ?_, written, ⟨before, inside, behind, split, leading,
    trailing, ?_⟩, named, ?_⟩
  · obtain ⟨text, spelled⟩ := row.spelled (Json.Members.mem_of_last? last)
    obtain ⟨spelling, spells, same⟩ := spelled.spelled
    exact same rfl ▸ spells
  · exact row.imp fun spelled => spelled.imp And.left
  · rw [last]
    rfl

namespace DialParams

variable {members : Json.Members}

/-! ## Members -/

theorem stands_text (text : Option String) :
    Stands (text.map Json.Value.text) text := by
  cases text with
  | none => exact .absent
  | some content => exact .text

theorem Stands.unique {found : Option Json.Value}
    {first second : Option String} (stands : Stands found first)
    (again : Stands found second) : first = second := by
  cases stands <;> cases again <;> rfl

theorem Fill.unique {first second : DialParams} (fill : Fill members first)
    (again : Fill members second) : first = second := by
  obtain ⟨name, stands, named⟩ := fill.appName
  obtain ⟨otherName, others, otherNamed⟩ := again.appName
  obtain ⟨id, bears, numbered⟩ := fill.appId
  obtain ⟨otherId, otherBears, otherNumbered⟩ := again.appId
  have appName : first.appName = second.appName := by
    rw [named, otherNamed, stands.unique others]
  have appId : first.appId = second.appId := by
    rw [numbered, otherNumbered, bears.unique otherBears]
  have payload := fill.payload.unique again.payload
  have query := fill.query.unique again.query
  have addDataUrl := fill.addDataUrl.unique again.addDataUrl
  cases first
  cases second
  simp_all

/-- Only the last member of each name matters. -/
theorem Fill.congr {others : Json.Members} {params : DialParams}
    (same : ∀ name, last? name members = last? name others)
    (fill : Fill members params) : Fill others params := by
  obtain ⟨appName, appId, payload, query, addDataUrl⟩ := fill
  simp only [same] at appName appId payload query addDataUrl
  exact ⟨appName, appId, payload, query, addDataUrl⟩

private theorem last?_optional (name other : String) (text : Option String) :
    last? name
        (text.toList.map fun content => (other, Json.Value.text content)) =
      if other = name then text.map .text else none := by
  cases text <;> simp [last?]

/-- The members that parameters are written as tell these parameters. -/
theorem fill_toMembers (params : DialParams) :
    Fill params.toMembers params := by
  constructor
  all_goals
    simp only [toMembers, Json.Members.last?_append, last?_optional, last?,
      String.reduceEq, if_true, if_false, Option.none_or, Option.or_none]
  · exact ⟨_, .text, rfl⟩
  · exact ⟨_, .text, rfl⟩
  · exact stands_text params.payload
  · exact stands_text params.query
  · exact stands_text params.addDataUrl

theorem ofMembers_toMembers (params : DialParams) :
    ofMembers params.toMembers = params :=
  (fill_ofMembers _).unique (fill_toMembers params)

/-- The object that the text of parameters spells tells them too. -/
theorem ofMembers_gather (params : DialParams) :
    ofMembers (gather [] params.toMembers) = params := by
  have fill := fill_ofMembers (gather [] params.toMembers)
  exact (fill.congr (Json.Members.last?_gather · _)).unique
    (fill_toMembers params)

theorem plain_toMembers (params : DialParams) (room : Nat) :
    ∀ member ∈ params.toMembers, Plain room member.2 := by
  intro member inside
  simp only [toMembers, List.mem_append, List.mem_cons, List.mem_map,
    List.not_mem_nil, or_false] at inside
  rcases inside with (((rfl | rfl) | ⟨_, -, rfl⟩) | ⟨_, -, rfl⟩) | ⟨_, -, rfl⟩
  all_goals exact .text

private theorem nodup_toMembers (params : DialParams) :
    (params.toMembers.map Prod.fst).Nodup := by
  have few : (params.toMembers.map Prod.fst).Sublist memberNames := by
    obtain ⟨appName, appId, payload, query, addDataUrl⟩ := params
    cases payload <;> cases query <;> cases addDataUrl <;>
      simp [toMembers, memberNames]
  exact few.nodup (by decide)

/-! ## Texts -/

theorem parse_encode (params : DialParams) :
    parse params.encode = .ok params := by
  rw [encode, parse_compact (params.plain_toMembers 126)
    params.nodup_toMembers, ofMembers_toMembers]

theorem encode_inj {first second : DialParams}
    (same : first.encode = second.encode) : first = second := by
  have read := parse_encode first
  rw [same, parse_encode] at read
  exact (Except.ok.inj read).symm

theorem spells_encode (params : DialParams) :
    Spells 126 params.encode.toList
      (.object (gather [] params.toMembers)) := by
  rw [encode, Json.Value.compact, String.toList_ofList]
  apply Json.spells_object
  intro member inside
  exact (params.plain_toMembers 125 member inside).spells

private theorem spells_unique {written : List Char} {first second : Json.Value}
    (spelled : Spells 126 written first)
    (again : Spells 126 written second) : first = second := by
  have stops : Json.Stops [] := trivial
  have read := readInner_complete spelled .nil stops
  rw [readInner_complete again .nil stops] at read
  cases read
  rfl

end DialParams

namespace Notification

private theorem dialParams_of_places {raw name : String} {params : DialParams}
    (places : Frame.Places raw name params.encode) :
    ∃ notification, parse raw = .ok notification ∧
      notification.name = name ∧ notification.dialParams = some params := by
  obtain ⟨value, spelled, tells⟩ := Frame.tells_of_places places
  obtain rfl := DialParams.spells_unique spelled params.spells_encode
  refine ⟨_, Frame.parse_of_tells tells, rfl, ?_⟩
  simp [dialParams_eq, Json.Value.members?, DialParams.ofMembers_gather]

private theorem places_frame {others : List (String × Json.Value)}
    (plain : ∀ other ∈ others, Plain 126 other.2)
    (apart : ∀ other ∈ others, other.1 ≠ "params") (name : String)
    (params : DialParams) :
    Frame.Places (frame others name params.encode) name params.encode := by
  let told := Json.Value.object (gather [] params.toMembers)
  -- The members of the text stand in the order of the parameters, and those of
  -- the object that it spells in the order of their names.
  let form := fun (member : String × Json.Value) =>
    (member.1, if member.1 = "params" then told else member.2)
  let members : List (String × Json.Value) :=
    others ++ [("method", .text name), ("params", .object params.toMembers)]
  have unchanged : ∀ {member}, member.1 ≠ "params" → form member = member := by
    intro member other
    simp [form, other]
  have same : members.map form =
      others ++ [("method", .text name), ("params", told)] := by
    have kept : others.map form = others.map id :=
      List.map_congr_left fun other inside => unchanged (apart other inside)
    simp [members, form, kept]
  have spelled : ∀ member ∈ members,
      Member
        (fun spelling value => Spells 126 spelling value ∧
          ((form member).1 = "params" → spelling = params.encode.toList))
        (Json.renderMember member) (form member) := by
    intro member inside
    rcases List.mem_append.mp inside with other | own
    · have different := apart member other
      rw [unchanged different]
      apply Json.member_render member.1
      exact ⟨(plain member other).spells, fun is => absurd is different⟩
    · simp only [List.mem_cons, List.not_mem_nil, or_false] at own
      rcases own with rfl | rfl
      · have different : "method" ≠ "params" := by decide
        exact Json.member_render "method"
          ⟨Plain.text.spells, fun is => absurd is different⟩
      · have text : (Json.Value.object params.toMembers).render =
            params.encode.toList := by
          rw [DialParams.encode, Json.Value.compact, String.toList_ofList]
        apply Json.member_render "params"
        exact ⟨text ▸ params.spells_encode, fun _ => text⟩
  rw [DialParams.encode, frame_eq]
  refine ⟨[], Json.renderMembers members, [], members.map form, told, ?_, .nil,
    .nil, ?_, ?_, ?_⟩
  · simp [Json.Value.compact, Json.Value.render, members]
  · apply Parts.map
    rw [Json.renderMembers_eq]
    exact (Json.parts_intercalate Json.renderMember spelled).1
  · rw [same, Json.Members.last?_append]
    rfl
  · rw [same, Json.Members.last?_append]
    rfl

/-- Casting parameters are read back from their text, where it stands alone and
where it is placed in a frame.  Different parameters have different texts. -/
theorem casting_parameters_survive (params : DialParams) :
    DialParams.parse params.encode = .ok params ∧
      (∀ {raw name : String}, Frame.Places raw name params.encode →
        ∃ notification, parse raw = .ok notification ∧
          notification.name = name ∧
          notification.dialParams = some params) ∧
      (∀ {others : List (String × Json.Value)},
        (∀ other ∈ others, Plain 126 other.2) →
        (∀ other ∈ others, other.1 ≠ "params") →
          ∀ name, Frame.Places (frame others name params.encode) name
            params.encode) ∧
      ∀ other : DialParams, other.encode = params.encode → other = params := by
  refine ⟨params.parse_encode, dialParams_of_places, ?_, ?_⟩
  · intro others plain apart name
    exact places_frame plain apart name params
  · intro other same
    exact DialParams.encode_inj same

/-- Parameters that look like other ones: no text, the word for none, a number,
and a text with quotes in it. -/
theorem lookalike_parameters_survive :
    let params : DialParams :=
      { appName := "null", appId := "\"7\"", payload := some ""
        query := some "null", addDataUrl := some "-1.5e3" }
    let raw :=
      "\x7b\"jsonrpc\":\"2.0\",\"method\":\"onApplicationStopRequest\"," ++
        "\"params\":\x7b\"applicationName\":\"null\"," ++
        "\"applicationId\":\"\\\"7\\\"\",\"strPayLoad\":\"\"," ++
        "\"strQuery\":\"null\",\"strAddDataUrl\":\"-1.5e3\"\x7d\x7d"
    DialParams.parse params.encode = .ok params ∧
      (∃ notification, parse raw = .ok notification ∧
        notification.name = "onApplicationStopRequest" ∧
        notification.dialParams = some params) ∧
      { params with payload := none }.encode ≠ params.encode := by
  intro params raw
  obtain ⟨read, placed, written, told⟩ := casting_parameters_survive params
  refine ⟨read, ?_, ?_⟩
  · have plain : ∀ other ∈ [("jsonrpc", Json.Value.text "2.0")],
        Plain 126 other.2 := by
      intro other inside
      rw [List.mem_singleton.mp inside]
      exact .text
    have places := written plain (by decide) "onApplicationStopRequest"
    have same : frame [("jsonrpc", .text "2.0")] "onApplicationStopRequest"
        params.encode = raw := by decide +kernel
    rw [same] at places
    exact placed places
  · intro same
    exact absurd (told _ same) (by decide)

end Notification

end Switchboard
