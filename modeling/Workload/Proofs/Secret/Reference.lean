import Workload.Proofs.Text.Split
import Workload.Secret.Reference

/-!
# Which references are ARNs

Each of the first five sections of an ARN ends at the first colon after it, and all that is left is
the resource. So the sections are what stands between the colons, whatever they are, and a text with
fewer than five colons is no ARN. Only the service section of an ARN decides about its store; what
is no ARN is the name of a parameter.
-/

namespace Workload.Secret

open Text

variable {text : String} {arn : Arn}

/-- The text of an ARN: the first four sections after the tag are without colons. -/
structure Arn.Spells (arn : Arn) (text : String) : Prop where
  joined : text = "arn:" ++ (arn.partition ++ ":") ++ (arn.service ++ ":") ++ (arn.region ++ ":") ++
    (arn.account ++ ":") ++ arn.resource
  partition : ':' ∉ arn.partition.toList
  service : ':' ∉ arn.service.toList
  region : ':' ∉ arn.region.toList
  account : ':' ∉ arn.account.toList

namespace Arn

theorem guard_tag_iff {tag : String} {done : Unit} :
    guard (tag = "arn") = some done ↔ tag = "arn" := by
  change (if tag = "arn" then some () else none) = some done ↔ _
  simp

theorem spells_of_parse? (read : parse? text = some arn) : arn.Spells text := by
  -- One cut for each section; what the last of them leaves is the resource, colons and all.
  rcases Option.bind_eq_some_iff.mp read with ⟨⟨tag, _⟩, tagCut, read⟩
  rcases Option.bind_eq_some_iff.mp read with ⟨_, tagged, read⟩
  rcases Option.bind_eq_some_iff.mp read with ⟨⟨partition, _⟩, partitionCut, read⟩
  rcases Option.bind_eq_some_iff.mp read with ⟨⟨service, _⟩, serviceCut, read⟩
  rcases Option.bind_eq_some_iff.mp read with ⟨⟨region, _⟩, regionCut, read⟩
  rcases Option.bind_eq_some_iff.mp read with ⟨⟨account, resource⟩, accountCut, read⟩
  cases read
  rcases splitFirst_eq_some_iff.mp tagCut with ⟨rfl, _⟩
  rcases guard_tag_iff.mp tagged with rfl
  rcases splitFirst_eq_some_iff.mp partitionCut with ⟨rfl, partitionFree⟩
  rcases splitFirst_eq_some_iff.mp serviceCut with ⟨rfl, serviceFree⟩
  rcases splitFirst_eq_some_iff.mp regionCut with ⟨rfl, regionFree⟩
  rcases splitFirst_eq_some_iff.mp accountCut with ⟨rfl, accountFree⟩
  refine ⟨?_, partitionFree, serviceFree, regionFree, accountFree⟩
  simp only [String.append_assoc]
  rfl

theorem parse?_of_spells (spells : arn.Spells text) : parse? text = some arn := by
  have cut {piece : String} (rest : String) (free : ':' ∉ piece.toList) :
      splitFirst ':' (piece ++ ":" ++ rest) = some (piece, rest) :=
    splitFirst_eq_some_iff.mpr ⟨rfl, free⟩
  have joined : text = "arn" ++ ":" ++ (arn.partition ++ ":" ++ (arn.service ++ ":" ++
      (arn.region ++ ":" ++ (arn.account ++ ":" ++ arn.resource)))) := by
    rw [spells.joined]
    simp only [String.append_assoc]
    rfl
  rw [joined]
  refine Option.bind_eq_some_iff.mpr ⟨_, cut _ (by decide), ?_⟩
  refine Option.bind_eq_some_iff.mpr ⟨(), guard_tag_iff.mpr rfl, ?_⟩
  refine Option.bind_eq_some_iff.mpr ⟨_, cut _ spells.partition, ?_⟩
  refine Option.bind_eq_some_iff.mpr ⟨_, cut _ spells.service, ?_⟩
  refine Option.bind_eq_some_iff.mpr ⟨_, cut _ spells.region, ?_⟩
  exact Option.bind_eq_some_iff.mpr ⟨_, cut _ spells.account, rfl⟩

theorem parse?_eq_some_iff : parse? text = some arn ↔ arn.Spells text :=
  ⟨spells_of_parse?, parse?_of_spells⟩

theorem Spells.unique {other : Arn} (spells : arn.Spells text) (also : other.Spells text) :
    other = arn := by
  have read := parse?_eq_some_iff.mpr spells
  rw [parse?_eq_some_iff.mpr also] at read
  exact Option.some.inj read

/-- What is said of some sections of a text is said of the sections that are known. -/
theorem Spells.exists_iff {holds : Arn → Prop} (spells : arn.Spells text) :
    (∃ other : Arn, other.Spells text ∧ holds other) ↔ holds arn := by
  constructor
  · rintro ⟨other, also, held⟩
    rwa [← spells.unique also]
  · intro held
    exact ⟨arn, spells, held⟩

theorem Spells.text_eq (spells : arn.Spells text) : arn.text = text := by
  rw [spells.joined, ← String.toList_inj]
  simp [Arn.text]

theorem parse?_eq_none_iff : parse? text = none ↔ ∀ arn : Arn, ¬ arn.Spells text := by
  rw [Option.eq_none_iff_forall_ne_some]
  exact forall_congr' fun arn => not_congr parse?_eq_some_iff

theorem unspelled_or_spelled (text : String) :
    (∀ arn : Arn, ¬ arn.Spells text) ∨ ∃ arn : Arn, arn.Spells text := by
  cases read : parse? text with
  | none => exact .inl (parse?_eq_none_iff.mp read)
  | some arn => exact .inr ⟨arn, parse?_eq_some_iff.mp read⟩

end Arn

/-- The service of an ARN is one of the two that have a store, or the ARN is refused. -/
theorem storeOf_of_spells (spells : arn.Spells text) :
    (arn.service = "ssm" ∧ storeOf text = .ok .parameters) ∨
      (arn.service = "secretsmanager" ∧ storeOf text = .ok .vault) ∨
      ((arn.service ≠ "ssm" ∧ arn.service ≠ "secretsmanager") ∧
        storeOf text = .error (.unsupportedStore text)) := by
  rw [storeOf, Arn.parse?_eq_some_iff.mpr spells]
  by_cases parameters : arn.service = "ssm"
  · simp [parameters]
  · by_cases vault : arn.service = "secretsmanager"
    · simp [vault]
    · simp [parameters, vault]

theorem storeOf_of_name (name : ∀ arn : Arn, ¬ arn.Spells text) :
    storeOf text = .ok .parameters := by
  rw [storeOf, Arn.parse?_eq_none_iff.mpr name]

/--
A text is read as an ARN exactly if it has the five colons of one. Its sections are then the only
ones and put the text together again. A text that is no ARN goes to the parameter store, and an ARN
to the store that its service names, or to none.
-/
theorem references_classified_by_service :
    (∀ text, (∃ arn, Arn.parse? text = some arn) ↔ ∃ arn : Arn, arn.Spells text) ∧
    (∀ text arn, Arn.parse? text = some arn → arn.Spells text ∧
      (∀ other : Arn, other.Spells text → other = arn) ∧
      ":".intercalate ["arn", arn.partition, arn.service, arn.region, arn.account, arn.resource] =
        text) ∧
    (∀ text, storeOf text = .ok .parameters ↔
      (∀ arn : Arn, ¬ arn.Spells text) ∨ ∃ arn : Arn, arn.Spells text ∧ arn.service = "ssm") ∧
    (∀ text, storeOf text = .ok .vault ↔
      ∃ arn : Arn, arn.Spells text ∧ arn.service = "secretsmanager") ∧
    ∀ text fault, storeOf text = .error fault ↔
      fault = .unsupportedStore text ∧
        ∃ arn : Arn, arn.Spells text ∧ arn.service ≠ "ssm" ∧ arn.service ≠ "secretsmanager" := by
  refine ⟨?_, ?_, ?_, ?_, ?_⟩
  · intro text
    exact exists_congr fun arn => Arn.parse?_eq_some_iff
  · intro text arn read
    have spells := Arn.parse?_eq_some_iff.mp read
    exact ⟨spells, fun other also => spells.unique also, spells.text_eq⟩
  · intro text
    rcases Arn.unspelled_or_spelled text with name | ⟨arn, spells⟩
    · simp [storeOf_of_name name, name]
    · rw [spells.exists_iff, or_iff_right fun name => name arn spells]
      rcases storeOf_of_spells spells with ⟨service, stored⟩ | ⟨service, stored⟩ | ⟨service, stored⟩
      all_goals simp [service, stored]
  · intro text
    rcases Arn.unspelled_or_spelled text with name | ⟨arn, spells⟩
    · simp [storeOf_of_name name, name]
    · rw [spells.exists_iff]
      rcases storeOf_of_spells spells with ⟨service, stored⟩ | ⟨service, stored⟩ | ⟨service, stored⟩
      all_goals simp [service, stored]
  · intro text fault
    rcases Arn.unspelled_or_spelled text with name | ⟨arn, spells⟩
    · simp [storeOf_of_name name, name]
    · rw [spells.exists_iff]
      rcases storeOf_of_spells spells with ⟨service, stored⟩ | ⟨service, stored⟩ | ⟨service, stored⟩
      all_goals simp [service, stored, eq_comm]

/-- The resource keeps its colons, and the service is the third section whatever the resource says. -/
theorem vault_reference_keeps_its_colons :
    ∃ arn : Arn, Arn.parse? "arn:aws:secretsmanager:us-west-2:1:secret:ssm:a::" = some arn ∧
      arn.Spells "arn:aws:secretsmanager:us-west-2:1:secret:ssm:a::" ∧
      arn.resource = "secret:ssm:a::" ∧
      ":".intercalate ["arn", arn.partition, arn.service, arn.region, arn.account, arn.resource] =
        "arn:aws:secretsmanager:us-west-2:1:secret:ssm:a::" := by
  have read : Arn.parse? "arn:aws:secretsmanager:us-west-2:1:secret:ssm:a::" =
    some ⟨"aws", "secretsmanager", "us-west-2", "1", "secret:ssm:a::"⟩ := rfl
  rcases references_classified_by_service.2.1 _ _ read with ⟨spells, _, joined⟩
  exact ⟨_, read, spells, rfl, joined⟩

/-- An ARN that lacks one section is taken for the name of a parameter. -/
example : storeOf "arn:aws:secretsmanager:us-west-2:secret" = .ok .parameters := rfl

end Workload.Secret
