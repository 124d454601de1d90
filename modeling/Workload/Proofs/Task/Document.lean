import Workload.Proofs.Json.RoundTrip
import Workload.Proofs.Task.Names

/-!
# Task definitions are read as they were written

Every record is decoded from the members that it was encoded as, so that a definition comes back
with all its containers in order, unless its check refuses it. The check refuses a definition
without containers, and otherwise the first container that has no name or the name of an earlier
one.
-/

namespace Workload

/-! ## Values that are read as they are -/

namespace Json

theorem reread_natural {value : Nat} (fits : value ≤ maxNatural) :
    (Number.natural value).reread = .number (.natural value) := by
  have read := readScalar_natural fits .nothing
  rw [List.append_nil] at read
  simp [Number.reread, Number.text, Text.decimal, read]

theorem rereadElements_eq_map (elements : List Value) :
    rereadElements elements = elements.map Value.reread := by
  induction elements with
  | nil => rfl
  | cons value rest hypothesis => rw [rereadElements, hypothesis, List.map_cons]

/-- A list is decoded element by element. -/
theorem asList_reread {Item : Type} {encode : Item → Value}
    {decode : Value → Except DataError Item}
    (decoded : ∀ item, decode (encode item).reread = .ok item) (items : List Item) :
    Value.asList decode (Value.array (items.map encode)).reread = .ok items := by
  simp only [Value.reread, rereadElements_eq_map, Value.asList]
  induction items with
  | nil => rfl
  | cons item rest hypothesis =>
      simp only [List.map_cons, List.mapM_cons, decoded, hypothesis]
      rfl

theorem asString_string (text : String) : (Value.string text).asString = .ok text :=
  rfl

/-- Of the members of one key the last is decoded. -/
theorem memberAs?_ofList {Item : Type} {members : List (String × Value)} {key : String}
    {value : Value} {item : Item} {decode : Value → Except DataError Item}
    (last : Table.find? key members.reverse = some value) (decoded : decode value = .ok item) :
    memberAs? (Table.ofList members) key decode = .ok (some item) := by
  simp only [memberAs?, Table.find?_ofList, last, decoded]
  rfl

end Json

namespace Task

open Json

/-! ## Records -/

theorem decode_encodePort (port : Option UInt16) :
    Value.asOptional Value.asPort (encodePort port).reread = .ok port := by
  cases port with
  | none => rfl
  | some port =>
      have small : port.toNat < UInt16.size := port.toNat_lt
      have fits : port.toNat ≤ maxNatural := Nat.le_trans (Nat.le_of_lt small) (by decide)
      simp only [encodePort, Value.reread, reread_natural fits, Value.asOptional, Value.asPort,
        if_pos small]
      rw [Nat.toUInt16, UInt16.ofNat_toNat]
      rfl

theorem PortMapping.decode_encode (mapping : PortMapping) :
    PortMapping.decode mapping.encode.reread = .ok mapping := by
  simp only [PortMapping.encode, Value.reread, rereadMembers, Value.ofMembers, PortMapping.decode]
  rw [memberAs?_ofList rfl (decode_encodePort _), memberAs?_ofList rfl (decode_encodePort _)]
  rfl

theorem Variable.decode_encode (plain : Variable) :
    Variable.decode plain.encode.reread = .ok plain := by
  simp only [Variable.encode, Value.reread, rereadMembers, Value.ofMembers, Variable.decode]
  rw [memberAs?_ofList rfl (asString_string _), memberAs?_ofList rfl (asString_string _)]
  rfl

theorem Secret.decode_encode (secret : Secret) :
    Secret.decode secret.encode.reread = .ok secret := by
  simp only [Secret.encode, Value.reread, rereadMembers, Value.ofMembers, Secret.decode]
  rw [memberAs?_ofList rfl (asString_string _), memberAs?_ofList rfl (asString_string _)]
  rfl

theorem Container.decode_encode (container : Container) :
    Container.decode container.encode.reread = .ok container := by
  have ports := asList_reread PortMapping.decode_encode container.ports
  have environment := asList_reread Variable.decode_encode container.environment
  have secrets := asList_reread Secret.decode_encode container.secrets
  simp only [Container.encode, Value.reread, rereadMembers, Value.ofMembers, Container.decode]
    at ports environment secrets ⊢
  rw [memberAs?_ofList rfl environment, memberAs?_ofList rfl (asString_string _),
    memberAs?_ofList rfl (asString_string _), memberAs?_ofList rfl ports,
    memberAs?_ofList rfl secrets]
  rfl

/-- The text of a definition is an unwrapped document, which is decoded as the definition. -/
theorem Definition.ofDocument_encode (definition : Definition) :
    Definition.ofDocument definition.encode.reread = .ok definition := by
  have containers := asList_reread Container.decode_encode definition.containers
  simp only [Definition.encode, Value.reread, rereadMembers, Value.ofMembers,
    Definition.ofDocument] at containers ⊢
  rw [if_neg]
  · simp only [Definition.decode]
    rw [memberAs?_ofList rfl containers]
    rfl
  · simp only [Value.member?, Table.find?_ofList]
    exact Bool.false_ne_true

/-! ## Texts -/

theorem PortMapping.within_encode (mapping : PortMapping) : mapping.encode.Within 1 := by
  have port : ∀ port : Option UInt16, (encodePort port).Within 0 := by
    intro port
    cases port with
    | none => exact .null
    | some port => exact .number (Nat.le_trans (Nat.le_of_lt port.toNat_lt) (by decide))
  apply Value.Within.object
  simp [port]

theorem Variable.within_encode (plain : Variable) : plain.encode.Within 1 := by
  apply Value.Within.object
  simp [Value.Within.string]

theorem Secret.within_encode (secret : Secret) : secret.encode.Within 1 := by
  apply Value.Within.object
  simp [Value.Within.string]

theorem within_array_map {Item : Type} {encode : Item → Value} {depth : Nat}
    (each : ∀ item, (encode item).Within depth) (items : List Item) :
    (Value.array (items.map encode)).Within (depth + 1) := by
  apply Value.Within.array
  simp [each]

theorem Container.within_encode (container : Container) : container.encode.Within 3 := by
  apply Value.Within.object
  simp [Value.Within.string, within_array_map PortMapping.within_encode,
    within_array_map Variable.within_encode, within_array_map Secret.within_encode]

theorem Definition.within_encode (definition : Definition) : definition.encode.Within 5 := by
  apply Value.Within.object
  simp [within_array_map Container.within_encode]

/-- A document is read from its text, decoded, and checked. -/
theorem Definition.ofText_text {value : Value} {definition : Definition}
    (within : value.Within maxDepth)
    (decoded : Definition.ofDocument value.reread = .ok definition) :
    Definition.ofText value.text = do
      definition.check
      return definition := by
  simp only [Definition.ofText, Value.text, String.toList_ofList, Value.parse_chars within, decoded]

/-! ## The first fault -/

/-- There are containers, and their names are distinct and not empty. -/
structure Definition.IsValid (definition : Definition) : Prop where
  some : definition.containers ≠ []
  named : "" ∉ definition.names
  distinct : definition.names.Nodup

/-- What is wrong with a list of container names, up to the first name that is wrong. -/
inductive FirstFault : List String → InputError → Prop where
  | none : FirstFault [] noContainers
  | nameless {before after : List String} (named : "" ∉ before) (distinct : before.Nodup) :
      FirstFault (before ++ "" :: after) namelessContainer
  | duplicate {before after : List String} {name : String} (named : "" ∉ before)
      (distinct : before.Nodup) (known : name ∈ before) :
      FirstFault (before ++ name :: after) (duplicateContainer name)

theorem FirstFault.exists_validation {names : List String} {fault : InputError}
    (first : FirstFault names fault) : ∃ message, fault = .validation message := by
  cases first <;> exact ⟨_, rfl⟩

section Check

variable {seen names : List String} {name : String} {fault : InputError}

/-- The name is refused, when these were seen before. -/
def Refused (seen : List String) (name : String) (fault : InputError) : Prop :=
  name = "" ∧ fault = namelessContainer ∨
    name ≠ "" ∧ name ∈ seen ∧ fault = duplicateContainer name

theorem checkNames_cons_eq_error_iff :
    checkNames seen (name :: names) = .error fault ↔
      Refused seen name fault ∨
        (name ≠ "" ∧ name ∉ seen) ∧ checkNames (name :: seen) names = .error fault := by
  simp only [checkNames, Refused]
  split
  · rename_i empty
    simp [empty, eq_comm]
  · rename_i named
    split
    · rename_i known
      simp [named, known, eq_comm]
    · rename_i fresh
      simp [named, fresh]

/-- The check fails at one name, after all before it have passed. -/
theorem checkNames_eq_error_iff :
    checkNames seen names = .error fault ↔
      ∃ before name after, names = before ++ name :: after ∧
        checkNames seen before = .ok () ∧ Refused (before.reverse ++ seen) name fault := by
  -- A name that passes is seen by those after it, so what was seen before grows with the names.
  induction names generalizing seen with
  | nil =>
      constructor
      · intro failed
        cases failed
      · rintro ⟨before, name, after, split, _⟩
        cases before <;> cases split
  | cons name rest hypothesis =>
      rw [checkNames_cons_eq_error_iff]
      constructor
      · rintro (refused | ⟨fine, failed⟩)
        · exact ⟨[], name, rest, rfl, rfl, refused⟩
        · rcases hypothesis.mp failed with ⟨before, other, after, rfl, passed, refused⟩
          refine ⟨name :: before, other, after, rfl, ?_, ?_⟩
          · exact checkNames_cons_eq_ok_iff.mpr ⟨fine, passed⟩
          · rwa [List.reverse_cons, List.append_assoc]
      · rintro ⟨before, other, after, split, passed, refused⟩
        rcases List.cons_eq_append_iff.mp split with ⟨rfl, here⟩ | ⟨earlier, rfl, rfl⟩
        · cases here
          exact Or.inl refused
        · rcases checkNames_cons_eq_ok_iff.mp passed with ⟨fine, passed⟩
          rw [List.reverse_cons, List.append_assoc] at refused
          exact Or.inr ⟨fine, hypothesis.mpr ⟨earlier, other, after, rfl, passed, refused⟩⟩

theorem firstFault_iff :
    FirstFault names fault ↔
      names = [] ∧ fault = noContainers ∨ checkNames [] names = .error fault := by
  constructor
  · intro first
    cases first with
    | none => exact Or.inl ⟨rfl, rfl⟩
    | nameless named distinct =>
        have passed := checkNames_eq_ok_iff.mpr ⟨distinct, named, fun _ _ => List.not_mem_nil⟩
        exact Or.inr (checkNames_eq_error_iff.mpr ⟨_, _, _, rfl, passed, Or.inl ⟨rfl, rfl⟩⟩)
    | duplicate named distinct known =>
        have passed := checkNames_eq_ok_iff.mpr ⟨distinct, named, fun _ _ => List.not_mem_nil⟩
        have apart := ne_of_mem_of_not_mem known named
        exact Or.inr (checkNames_eq_error_iff.mpr
          ⟨_, _, _, rfl, passed, Or.inr ⟨apart, by simpa using known, rfl⟩⟩)
  · rintro (⟨rfl, rfl⟩ | failed)
    · exact .none
    · rcases checkNames_eq_error_iff.mp failed with ⟨before, name, after, rfl, passed, refused⟩
      rcases checkNames_eq_ok_iff.mp passed with ⟨distinct, named, _⟩
      rcases refused with ⟨rfl, rfl⟩ | ⟨_, known, rfl⟩
      · exact .nameless named distinct
      · exact .duplicate named distinct (by simpa using known)

end Check

namespace Definition

variable {definition : Definition} {fault : InputError}

theorem check_eq_ok_iff_isValid : definition.check = .ok () ↔ definition.IsValid := by
  rw [check_eq_ok_iff]
  constructor
  · rintro ⟨some, distinct, named⟩
    exact ⟨some, named, distinct⟩
  · rintro ⟨some, named, distinct⟩
    exact ⟨some, distinct, named⟩

theorem check_eq_error_iff :
    definition.check = .error fault ↔ FirstFault definition.names fault := by
  rw [firstFault_iff]
  rcases definition with ⟨containers⟩
  cases containers with
  | nil => simp [check, names, checkNames, eq_comm]
  | cons container rest => simp [check, names]

theorem bind_check_eq_ok_iff {again : Definition} :
    (do definition.check; return definition) = Except.ok again ↔
      again = definition ∧ definition.IsValid := by
  rw [← check_eq_ok_iff_isValid]
  cases definition.check with
  | error fault => simp [bind, Except.bind]
  | ok passed => simp [bind, Except.bind, pure, Except.pure, eq_comm]

theorem bind_check_eq_error_iff :
    (do definition.check; return definition) = Except.error fault ↔
      FirstFault definition.names fault := by
  rw [← check_eq_error_iff]
  cases definition.check with
  | error fault => simp [bind, Except.bind]
  | ok passed => simp [bind, Except.bind, pure, Except.pure]

/-- The text of a definition is read as the definition, or refused for the first fault. -/
theorem written_is_read_or_refused (definition : Definition) :
    (∀ again, ofText definition.encode.text = .ok again ↔
      again = definition ∧ definition.IsValid) ∧
    (∀ fault, ofText definition.encode.text = .error fault ↔
      FirstFault definition.names fault) ∧
    ∀ fault, FirstFault definition.names fault → ∃ message, fault = .validation message := by
  have shallow : definition.encode.Within maxDepth := definition.within_encode.mono (by decide)
  have read := ofText_text shallow definition.ofDocument_encode
  refine ⟨?_, ?_, ?_⟩
  · intro again
    rw [read, bind_check_eq_ok_iff]
  · intro fault
    rw [read, bind_check_eq_error_iff]
  · intro fault first
    exact first.exists_validation

end Definition

end Task

end Workload
