import Workload.Text.Split

/-!
# Where a text is cut

A cut at the first separator is known by what it leaves: the two parts with the separator between
them are the text, and the first part is without a separator. Such parts exist exactly if the text
holds the separator at all, and they are unique.
-/

namespace Workload.Text

theorem splitFirstChars_eq_some_iff {separator : Char} {text before after : List Char} :
    splitFirstChars separator text = some (before, after) ↔
      text = before ++ separator :: after ∧ separator ∉ before := by
  constructor
  · exact splitFirstChars_eq
  · rintro ⟨rfl, fresh⟩
    exact splitFirstChars_append after fresh

theorem splitFirstChars_eq_none_iff {separator : Char} {text : List Char} :
    splitFirstChars separator text = none ↔ separator ∉ text := by
  induction text with
  | nil => simp [splitFirstChars]
  | cons char rest hypothesis =>
      rw [splitFirstChars]
      split
      · rename_i same
        simp [same]
      · rename_i apart
        simp [hypothesis, Ne.symm apart]

theorem splitFirst_eq_some_iff {separator : Char} {text before after : String} :
    splitFirst separator text = some (before, after) ↔
      text = before ++ String.singleton separator ++ after ∧ separator ∉ before.toList := by
  have cut : splitFirst separator text = some (before, after) ↔
      splitFirstChars separator text.toList = some (before.toList, after.toList) := by
    rw [splitFirst, Option.map_eq_some_iff]
    constructor
    · rintro ⟨⟨left, right⟩, inner, same⟩
      cases same
      simpa using inner
    · intro inner
      exact ⟨_, inner, by simp⟩
  rw [cut, splitFirstChars_eq_some_iff]
  apply and_congr_left
  intro _
  rw [← String.toList_inj]
  simp

theorem splitFirst_eq_none_iff {separator : Char} {text : String} :
    splitFirst separator text = none ↔ separator ∉ text.toList := by
  rw [splitFirst, Option.map_eq_none_iff, splitFirstChars_eq_none_iff]

end Workload.Text
