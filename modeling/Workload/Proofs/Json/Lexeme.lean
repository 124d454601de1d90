import Workload.Json.Lexeme
import Workload.Json.Writer
import Workload.Proofs.Text.Digits

/-!
# Strings and integers are read back

A string is read back one character at a time, since what is written for a character is neither the
closing quote nor the beginning of what is written for another one. An integer is read up to the
first character that is no digit, so that it depends on what follows.
-/

namespace Workload.Json

/-! ## What follows a value -/

/-- The text is over, or goes on with a comma or with a bracket that is closed. -/
inductive Ends : List Char → Prop where
  | nothing : Ends []
  | comma (rest : List Char) : Ends (',' :: rest)
  | bracket (rest : List Char) : Ends (']' :: rest)
  | brace (rest : List Char) : Ends ('\x7d' :: rest)

/-- The text does not go on with a digit. -/
def NoDigit (text : List Char) : Prop :=
  ∀ char ∈ text.head?, char.isDigit = false

theorem Ends.noDigit {more : List Char} (ends : Ends more) : NoDigit more := by
  cases ends <;> simp [NoDigit]

/-! ## Strings -/

theorem readEscape_control {char : Char} (control : char.toNat < 0x20) (more : List Char) :
    readEscape ('u' :: '0' :: '0' :: hexDigit (char.toNat / 16) :: hexDigit (char.toNat % 16) ::
      more) = .ok (char, more) := by
  have digits : ∀ number < 32,
      hexValue4? '0' '0' (hexDigit (number / 16)) (hexDigit (number % 16)) = some number := by
    decide
  have value := digits char.toNat control
  have low : ¬ 0xDC00 ≤ char.toNat := by omega
  have high : ¬ 0xD800 ≤ char.toNat := by omega
  simp [readEscape, readUnicodeEscape, readHex4, value, bind, Except.bind, low, high, pure,
    Except.pure]

/-- What is written for a character is read as this character. -/
theorem readStringBody_writtenChar (bound : Nat) (char : Char) (more : List Char) :
    readStringBody (bound + 1) (writtenChar char ++ more) =
      (readStringBody bound more).map fun read => (char :: read.1, read.2) := by
  unfold writtenChar
  split
  case h_8 other quote backslash _ _ _ _ _ =>
    split
    · rename_i control
      simp only [List.cons_append, List.nil_append, readStringBody, readEscape_control control]
      rfl
    · rename_i plain
      simp only [List.cons_append, List.nil_append, readStringBody, if_neg plain]
      rfl
  all_goals rfl

theorem readStringBody_written {bound : Nat} {chars : List Char} (enough : chars.length < bound)
    (more : List Char) :
    readStringBody bound (chars.flatMap writtenChar ++ '"' :: more) = .ok (chars, more) := by
  induction chars generalizing bound with
  | nil =>
      cases bound with
      | zero => cases enough
      | succ bound => rfl
  | cons char rest hypothesis =>
      cases bound with
      | zero => cases enough
      | succ bound =>
          rw [List.flatMap_cons, List.append_assoc, readStringBody_writtenChar,
            hypothesis (Nat.lt_of_succ_lt_succ enough)]
          rfl

theorem length_le_flatMap_writtenChar (chars : List Char) :
    chars.length ≤ (chars.flatMap writtenChar).length := by
  induction chars with
  | nil => exact Nat.le_refl _
  | cons char rest hypothesis =>
      have written : 0 < (writtenChar char).length := by
        unfold writtenChar
        repeat' split
        all_goals exact Nat.zero_lt_succ _
      simp only [List.length_cons, List.flatMap_cons, List.length_append]
      omega

theorem readString_written (text : String) (more : List Char) :
    readString (text.toList.flatMap writtenChar ++ '"' :: more) = .ok (text, more) := by
  have written := length_le_flatMap_writtenChar text.toList
  have enough :
      text.toList.length < (text.toList.flatMap writtenChar ++ '"' :: more).length + 1 := by
    simp only [List.length_append]
    omega
  simp only [readString, readStringBody_written enough, bind, Except.bind, pure, Except.pure,
    String.ofList_toList]

/-! ## Integers -/

theorem readInteger_append {positive : Bool} {significand : Nat} {digits more : List Char}
    (all : ∀ char ∈ digits, char.isDigit)
    (fits : Nat.ofDigitChars 10 digits significand ≤ maxNatural) (stops : NoDigit more) :
    readInteger positive significand (digits ++ more) =
      readAfterInteger positive (Nat.ofDigitChars 10 digits significand) more := by
  induction digits generalizing significand with
  | nil =>
      cases more with
      | nil => rfl
      | cons char rest => simp [readInteger, stops char rfl]
  | cons digit digits hypothesis =>
      rw [List.forall_mem_cons] at all
      rw [Nat.ofDigitChars_cons, Nat.mul_comm 10] at fits ⊢
      have small : ¬ maxNatural < significand * 10 + Text.digitValue digit :=
        Nat.not_lt.mpr (Nat.le_trans (Text.le_ofDigitChars digits _) fits)
      rw [List.cons_append, readInteger, if_pos all.1, if_neg small]
      exact hypothesis all.2 fits

theorem readNumber_append {positive : Bool} {digits more : List Char}
    (leading : Text.Leading digits) (fits : Nat.ofDigitChars 10 digits 0 ≤ maxNatural)
    (stops : NoDigit more) :
    readNumber positive (digits ++ more) =
      readAfterInteger positive (Nat.ofDigitChars 10 digits 0) more := by
  rcases leading with ⟨all, first, digits, rfl, nonzero⟩
  rw [List.forall_mem_cons] at all
  rw [Nat.ofDigitChars_cons, Nat.mul_zero, Nat.zero_add] at fits ⊢
  simp only [List.cons_append, readNumber, if_neg nonzero, if_pos all.1]
  exact readInteger_append all.2 fits stops

theorem readNumber_zero {positive : Bool} {more : List Char} (stops : NoDigit more) :
    readNumber positive ('0' :: more) = readAfterInteger positive 0 more := by
  cases more with
  | nil => rfl
  | cons char rest => simp [readNumber, stops char rfl]

theorem readNumber_toDigits {positive : Bool} {number : Nat} {more : List Char}
    (fits : number ≤ maxNatural) (stops : NoDigit more) :
    readNumber positive (Nat.toDigits 10 number ++ more) =
      readAfterInteger positive number more := by
  rcases Nat.eq_zero_or_pos number with rfl | nonzero
  · exact readNumber_zero stops
  · have read : readNumber positive (Nat.toDigits 10 number ++ more) =
        readAfterInteger positive (Nat.ofDigitChars 10 (Nat.toDigits 10 number) 0) more :=
      readNumber_append (Text.leading_toDigits nonzero) (by simpa using fits) stops
    rw [read, Nat.ofDigitChars_ten_toDigits]

end Workload.Json
