import Workload.Proofs.Task.Document

/-!
# Task definitions in envelopes

A document that is not an envelope is read alike alone and inside an envelope, whatever else the
envelope holds. In both cases the same decoder is applied to the same value, since the value is
read from its text in the same way wherever it stands. Only the depth to which arrays and objects
may be nested is one less inside, as the envelope is one more object.
-/

namespace Workload

/-! ## Members that are read -/

namespace Json

theorem rereadMembers_eq_mapItems (members : List (String × Value)) :
    rereadMembers members = Table.mapItems (fun _ value => value.reread) members := by
  induction members with
  | nil => rfl
  | cons member rest hypothesis =>
      rcases member with ⟨key, value⟩
      rw [rereadMembers, hypothesis]
      rfl

theorem keys_rereadMembers (members : List (String × Value)) :
    Table.keys (rereadMembers members) = Table.keys members := by
  rw [rereadMembers_eq_mapItems, Table.keys_mapItems]

theorem find?_ofList_eq_none_iff {key : String} {members : List (String × Value)} :
    Table.find? key (Table.ofList members) = none ↔ key ∉ Table.keys members := by
  rw [Table.find?_ofList, Table.find?_eq_none_iff, Table.keys, List.map_reverse,
    List.mem_reverse, Table.keys]

theorem member?_reread_eq_none {depth : Nat} {value : Value} {key : String}
    (within : value.Within depth) (absent : value.member? key = none) :
    value.reread.member? key = none := by
  cases within with
  | null => rfl
  | bool value => rfl
  | number representable =>
      rcases exists_reread_eq representable with ⟨again, reread, _⟩
      rw [Value.reread, reread]
      rfl
  | string text => rfl
  | array all => rfl
  | object all =>
      simp only [Value.member?, Value.reread, Value.ofMembers] at absent ⊢
      rwa [find?_ofList_eq_none_iff, keys_rereadMembers, ← Table.find?_eq_none_iff]

theorem member?_reread_of_last {before after : List (String × Value)} {key : String}
    (last : key ∉ Table.keys after) (value : Value) :
    (Value.object (before ++ (key, value) :: after)).reread.member? key = some value.reread := by
  have members : rereadMembers (before ++ (key, value) :: after) =
      rereadMembers before ++ (key, value.reread) :: rereadMembers after := by
    simp [rereadMembers_eq_mapItems, Table.mapItems]
  simp only [Value.reread, members, Value.ofMembers, Value.member?]
  apply Table.find?_ofList_of_last
  rwa [keys_rereadMembers]

end Json

namespace Task.Definition

open Json

variable {document value : Value}

theorem ofDocument_of_bare (bare : document.member? "taskDefinition" = none) :
    ofDocument document = decode document := by
  simp [ofDocument, bare]

theorem ofDocument_of_envelope (inside : document.member? "taskDefinition" = some value) :
    ofDocument document = decode value := by
  cases document with
  | object members =>
      simp only [Value.member?] at inside
      simp only [ofDocument, decodeEnvelope, Value.member?, memberAs?, inside]
      cases decode value <;> rfl
  | null | bool | number | string | array => cases inside

theorem ofText_congr {first second : Value} (firstWithin : first.Within maxDepth)
    (secondWithin : second.Within maxDepth)
    (same : ofDocument first.reread = ofDocument second.reread) :
    ofText first.text = ofText second.text := by
  simp only [ofText, Value.text, String.toList_ofList, Value.parse_chars firstWithin,
    Value.parse_chars secondWithin, same]

/-- What is not an envelope is read alike alone and in an envelope. -/
theorem envelope_is_read_as_its_member {before after : List (String × Value)}
    (within : value.Within 126) (bare : value.member? "taskDefinition" = none)
    (others : ∀ member ∈ before ++ after, member.1 ≠ "taskDefinition" ∧ member.2.Within 126) :
    ofText (Value.object (before ++ ("taskDefinition", value) :: after)).text =
      ofText value.text := by
  have last : "taskDefinition" ∉ Table.keys after := by
    intro again
    rcases List.mem_map.mp again with ⟨member, inside, key⟩
    exact (others member (List.mem_append_right _ inside)).1 key
  have envelope :
      (Value.object (before ++ ("taskDefinition", value) :: after)).Within maxDepth := by
    apply Value.Within.object
    intro member inside
    rcases List.mem_append.mp inside with early | late
    · exact (others member (List.mem_append_left _ early)).2
    · rcases List.mem_cons.mp late with rfl | late
      · exact within
      · exact (others member (List.mem_append_right _ late)).2
  apply ofText_congr envelope (within.mono (by decide))
  rw [ofDocument_of_envelope (member?_reread_of_last last value),
    ofDocument_of_bare (member?_reread_eq_none within bare)]

/-- Arrays that are nested so deep, around `null`. -/
def nested : Nat → Value
  | 0 => .null
  | depth + 1 => .array [nested depth]

theorem within_nested (depth : Nat) : (nested depth).Within depth := by
  induction depth with
  | zero => exact .null
  | succ depth hypothesis =>
      apply Value.Within.array
      simpa using hypothesis

/-- At the greatest depth that is allowed, and with other members on both sides. -/
theorem envelope_of_nested_is_read_as_nested :
    ofText (Value.object
        ([("failures", nested 126)] ++ ("taskDefinition", nested 126) :: [("tags", .null)])).text =
      ofText (nested 126).text := by
  apply envelope_is_read_as_its_member (within_nested 126) rfl
  simp [within_nested 126, Value.Within.null]

/-- One level more can be read alone, but not in an envelope. -/
example :
    (Value.parse (nested 127).chars).toOption.isSome ∧
      (Value.parse (Value.object [("taskDefinition", nested 127)]).chars).toOption.isNone := by
  decide +kernel

end Task.Definition

end Workload
