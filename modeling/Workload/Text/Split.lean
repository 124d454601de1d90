/-!
# Splitting at a separator

`splitFirst` cuts a text at the first occurrence of a separator and says if there is none;
`splitAll` cuts at every occurrence.
-/

namespace Workload.Text

/-- What stands before and after the first occurrence of a separator. -/
def splitFirstChars (separator : Char) : List Char → Option (List Char × List Char)
  | [] => none
  | char :: rest =>
      if char = separator then some ([], rest)
      else (splitFirstChars separator rest).map fun (before, after) => (char :: before, after)

/-- What stands before and after the first occurrence of a separator. -/
def splitFirst (separator : Char) (text : String) : Option (String × String) :=
  (splitFirstChars separator text.toList).map fun (before, after) =>
    (String.ofList before, String.ofList after)

/-- The pieces between the characters that satisfy `isSeparator`; never empty. -/
def splitAllChars (isSeparator : Char → Bool) : List Char → List (List Char)
  | [] => [[]]
  | char :: rest =>
      if isSeparator char then [] :: splitAllChars isSeparator rest
      else
        match splitAllChars isSeparator rest with
        | [] => [[char]]
        | piece :: pieces => (char :: piece) :: pieces

/-- The pieces between the characters that satisfy `isSeparator`; never empty. -/
def splitAll (isSeparator : Char → Bool) (text : String) : List String :=
  (splitAllChars isSeparator text.toList).map String.ofList

/-- A successful cut puts the text together again around the separator. -/
theorem splitFirstChars_eq {separator : Char} {text before after : List Char}
    (cut : splitFirstChars separator text = some (before, after)) :
    text = before ++ separator :: after ∧ separator ∉ before := by
  induction text generalizing before with
  | nil => simp [splitFirstChars] at cut
  | cons char rest hypothesis =>
      rw [splitFirstChars] at cut
      split at cut
      · simp_all
      · obtain ⟨⟨left, right⟩, inner, same⟩ := Option.map_eq_some_iff.1 cut
        simp only [Prod.mk.injEq] at same
        obtain ⟨rfl, rfl⟩ := same
        obtain ⟨joined, fresh⟩ := hypothesis inner
        refine ⟨by rw [joined]; rfl, ?_⟩
        simp only [List.mem_cons, not_or]
        exact ⟨fun equal => by simp_all, fresh⟩

/-- A text is cut where the separator first occurs. -/
theorem splitFirstChars_append {separator : Char} {before : List Char} (after : List Char)
    (fresh : separator ∉ before) :
    splitFirstChars separator (before ++ separator :: after) = some (before, after) := by
  induction before with
  | nil => simp [splitFirstChars]
  | cons char rest hypothesis =>
      simp only [List.mem_cons, not_or] at fresh
      rw [List.cons_append, splitFirstChars, if_neg (fun equal => fresh.1 equal.symm),
        hypothesis fresh.2]
      rfl

end Workload.Text
