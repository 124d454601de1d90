import Workload.Environment.Override
import Workload.Proofs.Text.Split

/-!
# Overrides are read as they are written

The first equals sign of a text ends the target and the first colon of the target ends the container.
So a key may hold colons if a container stands before it, and a value may hold both. An override can
be written in this form if its names are not cut too early; then what is read back is the override
itself, and nothing else is read.
-/

namespace Workload.Environment

open Text

variable {text target value : String} {override : Override}

/-- What stands before the first equals sign of an override: a name of a variable or, with a colon
between them, of a container and of one of its variables. -/
inductive IsTarget : String → Prop where
  | everywhere {key : String} (named : key ≠ "") (whole : ':' ∉ key.toList) : IsTarget key
  | within {container key : String} (placed : container ≠ "") (whole : ':' ∉ container.toList)
      (named : key ≠ "") : IsTarget (container ++ ":" ++ key)

namespace Override

/-- An override whose names are not mistaken for others when it is written. -/
inductive IsWritable : Override → Prop where
  | everywhere {key value : String} (named : key ≠ "") (free : '=' ∉ key.toList)
      (whole : ':' ∉ key.toList) : IsWritable ⟨none, key, value⟩
  | within {container key value : String} (named : key ≠ "") (free : '=' ∉ key.toList)
      (placed : container ≠ "") (whole : ':' ∉ container.toList)
      (unassigned : '=' ∉ container.toList) : IsWritable ⟨some container, key, value⟩

theorem IsWritable.isTarget (writable : override.IsWritable) :
    IsTarget override.target ∧ '=' ∉ override.target.toList := by
  cases writable with
  | everywhere named free whole => exact ⟨.everywhere named whole, free⟩
  | within named free placed whole unassigned =>
      refine ⟨.within placed whole named, ?_⟩
      simp only [target, String.toList_append, List.mem_append, not_or]
      exact ⟨⟨unassigned, by decide⟩, free⟩

theorem IsWritable.key_free (writable : override.IsWritable) : '=' ∉ override.key.toList := by
  cases writable with
  | everywhere _ free _ => exact free
  | within _ free _ _ _ => exact free

/-- Every target is that of an override that can be written. -/
theorem exists_writable (isTarget : IsTarget target) (free : '=' ∉ target.toList)
    (value : String) :
    ∃ override : Override,
      override.IsWritable ∧ override.target = target ∧ override.value = value := by
  cases isTarget with
  | everywhere named whole => exact ⟨⟨none, target, value⟩, .everywhere named free whole, rfl, rfl⟩
  | @within container key placed whole named =>
      simp only [String.toList_append, List.mem_append, not_or] at free
      exact ⟨⟨some container, key, value⟩, .within named free.2 placed whole free.1.1, rfl, rfl⟩

theorem parse_text (writable : override.IsWritable) :
    parse (override.target ++ "=" ++ override.value) = .ok override := by
  have assigned : splitFirst '=' (override.target ++ "=" ++ override.value) =
      some (override.target, override.value) :=
    splitFirst_eq_some_iff.mpr ⟨rfl, writable.isTarget.2⟩
  rw [parse, assigned]
  cases writable with
  | @everywhere key value named free whole =>
      have uncut : splitFirst ':' key = none := splitFirst_eq_none_iff.mpr whole
      simp only [target, uncut]
      exact if_neg named
  | @within container key value named free placed whole unassigned =>
      have cut : splitFirst ':' (container ++ ":" ++ key) = some (container, key) :=
        splitFirst_eq_some_iff.mpr ⟨rfl, whole⟩
      simp only [target, cut, if_neg placed, if_neg named]

theorem text_of_parse (read : parse text = .ok override) :
    override.IsWritable ∧ text = override.target ++ "=" ++ override.value := by
  rw [parse] at read
  split at read
  · cases read
  · rename_i written value assigned
    rcases splitFirst_eq_some_iff.mp assigned with ⟨rfl, free⟩
    split at read
    · rename_i container key cut
      rcases splitFirst_eq_some_iff.mp cut with ⟨rfl, whole⟩
      -- Neither the container nor the key holds an equals sign, since the target holds none.
      simp only [String.toList_append, List.mem_append, not_or] at free
      split at read
      · cases read
      · rename_i placed
        split at read
        · cases read
        · rename_i named
          cases read
          exact ⟨.within named free.2 placed whole free.1.1, rfl⟩
    · rename_i uncut
      split at read
      · cases read
      · rename_i named
        cases read
        exact ⟨.everywhere named free (splitFirst_eq_none_iff.mp uncut), rfl⟩

end Override

/--
A text is read as an override if it has an equals sign and a target stands before the first one. What
is read can be written and is written as that text, and what can be written is read back.
-/
theorem overrides_read_as_written :
    (∀ text, (∃ override, Override.parse text = .ok override) ↔
      ∃ target value, text = target ++ "=" ++ value ∧ '=' ∉ target.toList ∧ IsTarget target) ∧
    (∀ text override, Override.parse text = .ok override →
      override.IsWritable ∧ override.target ++ "=" ++ override.value = text) ∧
    ∀ override : Override, override.IsWritable →
      Override.parse (override.target ++ "=" ++ override.value) = .ok override := by
  refine ⟨?_, ?_, fun override => Override.parse_text⟩
  · intro text
    constructor
    · rintro ⟨override, read⟩
      rcases Override.text_of_parse read with ⟨writable, written⟩
      exact ⟨_, _, written, writable.isTarget.2, writable.isTarget.1⟩
    · rintro ⟨target, value, rfl, free, isTarget⟩
      rcases Override.exists_writable isTarget free value with ⟨override, writable, rfl, rfl⟩
      exact ⟨override, Override.parse_text writable⟩
  · intro text override read
    rcases Override.text_of_parse read with ⟨writable, written⟩
    exact ⟨writable, written.symm⟩

/-- Behind the name of a container a key may hold colons, and a value both separators. -/
theorem scoped_key_keeps_its_colon :
    Override.parse "web:jdbc:url=a=b:c" = .ok ⟨some "web", "jdbc:url", "a=b:c"⟩ ∧
      (⟨some "web", "jdbc:url", "a=b:c"⟩ : Override).IsWritable ∧
      Override.parse ("web:jdbc:url" ++ "=" ++ "a=b:c") =
        .ok ⟨some "web", "jdbc:url", "a=b:c"⟩ := by
  have read : Override.parse "web:jdbc:url=a=b:c" = .ok ⟨some "web", "jdbc:url", "a=b:c"⟩ := rfl
  have writable := (overrides_read_as_written.2.1 _ _ read).1
  exact ⟨read, writable, overrides_read_as_written.2.2 _ writable⟩

end Workload.Environment
