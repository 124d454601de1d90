import Workload.Proofs.Text.Digits
import Workload.Text.Quoted
import Workload.Text.Split

/-!
# Quoted text delimits itself

Between quotes a character is written as itself, as an escape of two characters, or as its code
point between braces. The first character tells which of the three it is, and each says where it
ends, so that no written character is the beginning of another one and none begins with a quote. So a
quoted text can be read off whatever follows it.
-/

namespace Workload.Text

variable {char : Char} {first second after later : List Char}

/-- The character that a backslash and a mark stand for. -/
def shortEscape? : Char → Option Char
  | '"' => some '"'
  | '\\' => some '\\'
  | 'n' => some '\n'
  | 'r' => some '\r'
  | 't' => some '\t'
  | '0' => some '\x00'
  | _ => none

theorem quotedChar_cases (char : Char) :
    (quotedChar char = [char] ∧ char ≠ '"' ∧ char ≠ '\\') ∨
      (∃ mark, shortEscape? mark = some char ∧ quotedChar char = ['\\', mark]) ∨
      quotedChar char = ['\\', 'u', '\x7b'] ++ hexDigits char.toNat ++ ['\x7d'] := by
  unfold quotedChar
  split
  · exact .inr (.inl ⟨'"', rfl, rfl⟩)
  · exact .inr (.inl ⟨'\\', rfl, rfl⟩)
  · exact .inr (.inl ⟨'n', rfl, rfl⟩)
  · exact .inr (.inl ⟨'r', rfl, rfl⟩)
  · exact .inr (.inl ⟨'t', rfl, rfl⟩)
  · exact .inr (.inl ⟨'0', rfl, rfl⟩)
  · rename_i noQuote noBackslash _ _ _ _
    split
    · exact .inl ⟨rfl, noQuote, noBackslash⟩
    · exact .inr (.inr rfl)

theorem brace_not_mem_hexDigits (number : Nat) : '\x7d' ∉ hexDigits number := by
  intro member
  rcases exists_digitChar_of_mem_toDigits (by decide) member with ⟨digit, same⟩
  exact Nat.digitChar_ne '\x7d' (by decide) same.symm

theorem hexDigits_append_inj {number other : Nat}
    (same : hexDigits number ++ '\x7d' :: after = hexDigits other ++ '\x7d' :: later) :
    number = other ∧ after = later := by
  have cut := congrArg (splitFirstChars '\x7d') same
  rw [splitFirstChars_append _ (brace_not_mem_hexDigits number),
    splitFirstChars_append _ (brace_not_mem_hexDigits other)] at cut
  simp only [Option.some.injEq, Prod.mk.injEq] at cut
  exact ⟨toDigits_injective (by decide) (by decide) cut.1, cut.2⟩

theorem shortEscape?_ne_u {mark : Char} (marked : shortEscape? mark = some char) : mark ≠ 'u' := by
  rintro rfl
  cases marked

/-- A written character can be told from what follows it. -/
theorem quotedChar_append_inj {other : Char}
    (same : quotedChar char ++ after = quotedChar other ++ later) :
    char = other ∧ after = later := by
  rcases quotedChar_cases char with ⟨plain, _, slash⟩ | ⟨mark, marked, short⟩ | long <;>
    rcases quotedChar_cases other with ⟨plain', _, slash'⟩ | ⟨mark', marked', short'⟩ | long'
  · simpa [plain, plain'] using same
  · simp [plain, short', slash] at same
  · simp [plain, long', slash] at same
  · simp [short, plain', Ne.symm slash'] at same
  · simp only [short, short', List.cons_append, List.nil_append, List.cons.injEq, true_and] at same
    rcases same with ⟨rfl, rest⟩
    exact ⟨Option.some.inj (marked.symm.trans marked'), rest⟩
  · simp [short, long', shortEscape?_ne_u marked] at same
  · simp [long, plain', Ne.symm slash'] at same
  · simp [long, short', Ne.symm (shortEscape?_ne_u marked')] at same
  · simp only [long, long', List.append_assoc, List.append_cancel_left_eq] at same
    have parts := hexDigits_append_inj same
    exact ⟨Char.toNat_inj.mp parts.1, parts.2⟩

theorem quotedChar_append_ne_quote (char : Char) (after later : List Char) :
    quotedChar char ++ after ≠ '"' :: later := by
  rcases quotedChar_cases char with ⟨plain, quote, _⟩ | ⟨mark, _, short⟩ | long
  · simp [plain, quote]
  · simp [short]
  · simp [long]

/-- A quoted text ends at the first quote that is no part of a written character. -/
theorem quotedChars_append_inj
    (same : quotedChars first ++ '"' :: after = quotedChars second ++ '"' :: later) :
    first = second ∧ after = later := by
  induction first generalizing second with
  | nil =>
      cases second with
      | nil => simpa [quotedChars] using same
      | cons char second =>
          simp only [quotedChars, List.flatMap_nil, List.nil_append, List.flatMap_cons,
            List.append_assoc] at same
          exact absurd same.symm (quotedChar_append_ne_quote char _ _)
  | cons char first hypothesis =>
      cases second with
      | nil =>
          simp only [quotedChars, List.flatMap_nil, List.nil_append, List.flatMap_cons,
            List.append_assoc] at same
          exact absurd same (quotedChar_append_ne_quote char _ _)
      | cons other second =>
          simp only [quotedChars, List.flatMap_cons, List.append_assoc] at same
          rcases quotedChar_append_inj same with ⟨rfl, rest⟩
          rcases hypothesis rest with ⟨rfl, rfl⟩
          exact ⟨rfl, rfl⟩

/-- A quoted text can be told from what follows it. -/
theorem quoted_append_inj {text other after later : String}
    (same : quoted text ++ after = quoted other ++ later) : text = other ∧ after = later := by
  have chars := congrArg String.toList same
  simp only [quoted, String.toList_append, String.toList_ofList, List.cons_append,
    List.append_assoc, List.cons.injEq, true_and, List.nil_append] at chars
  have parts := quotedChars_append_inj chars
  exact ⟨String.toList_inj.mp parts.1, String.toList_inj.mp parts.2⟩

end Workload.Text
