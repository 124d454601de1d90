import Workload.Text.Utf8

/-!
# Where bytes can be decoded apart

A byte that continues no character begins one, or is an invalid part by itself. So what stands before
it is decoded without it: a character that is cut short there is an invalid part, just as it is at
the end of all bytes. A newline character is only read from a newline byte.
-/

namespace Workload.Text

variable {first second byte : UInt8} {rest before after : List UInt8}

theorem isContinuation_of_secondOfThree (follows : secondOfThree first second) :
    isContinuation second := by
  simp only [secondOfThree, isContinuation, Bool.and_eq_true, decide_eq_true_eq] at *
  grind

theorem isContinuation_of_secondOfFour (follows : secondOfFour first second) :
    isContinuation second := by
  simp only [secondOfFour, isContinuation, Bool.and_eq_true, decide_eq_true_eq] at *
  grind

/-- What a character is read from ends before a byte that continues none. -/
theorem decodeNext_append (first : UInt8) (before after : List UInt8)
    (apart : isContinuation byte = false) :
    decodeNext first (before ++ byte :: after) =
      ((decodeNext first before).1, (decodeNext first before).2 ++ byte :: after) := by
  have notSecondOfThree : secondOfThree first byte = false := by
    rw [Bool.eq_false_iff]
    intro follows
    simp [isContinuation_of_secondOfThree follows] at apart
  have notSecondOfFour : secondOfFour first byte = false := by
    rw [Bool.eq_false_iff]
    intro follows
    simp [isContinuation_of_secondOfFour follows] at apart
  simp only [decodeNext]
  -- The first byte says how many bytes are looked at.
  split
  · rfl
  split
  · cases before with
    | nil => simp [apart]
    | cons second rest =>
        simp only [List.cons_append]
        split <;> rfl
  split
  · rcases before with _ | ⟨second, _ | ⟨third, rest⟩⟩
    · simp [notSecondOfThree]
    · simp only [List.cons_append, List.nil_append, apart]
      split <;> rfl
    · simp only [List.cons_append]
      split
      · split <;> rfl
      · rfl
  split
  · rcases before with _ | ⟨second, _ | ⟨third, _ | ⟨fourth, rest⟩⟩⟩
    · simp [notSecondOfFour]
    · simp only [List.cons_append, List.nil_append, apart]
      split <;> rfl
    · simp only [List.cons_append, List.nil_append, apart]
      split
      · split <;> rfl
      · rfl
    · simp only [List.cons_append]
      split
      · split
        · split <;> rfl
        · rfl
      · rfl
  · rfl

theorem decodeLossyChars_cons (first : UInt8) (rest : List UInt8) :
    decodeLossyChars (first :: rest) =
      (decodeNext first rest).1.getD replacement :: decodeLossyChars (decodeNext first rest).2 := by
  rw [decodeLossyChars]

/-- Bytes are decoded apart before a byte that continues no character. -/
theorem decodeLossyChars_append (before after : List UInt8) (apart : isContinuation byte = false) :
    decodeLossyChars (before ++ byte :: after) =
      decodeLossyChars before ++ decodeLossyChars (byte :: after) := by
  induction before using decodeLossyChars.induct with
  | case1 => simp [decodeLossyChars]
  | case2 first rest hypothesis =>
      simp only [List.cons_append, decodeLossyChars_cons first, decodeNext_append first rest after
        apart, hypothesis]

theorem le_withContinuation {bits : Nat} (positive : 0 < bits) (byte : UInt8) :
    0x40 ≤ withContinuation bits byte := by
  unfold withContinuation
  omega

/-- The second byte is of use where the first, the least of its kind, carries nothing. -/
theorem withContinuation_pos (least : UInt8) (begins : least ≤ first)
    (used : first = least → 0x80 < second) :
    0 < withContinuation (first.toNat - least.toNat) second := by
  have low : least.toNat ≤ first.toNat := begins
  unfold withContinuation
  by_cases same : first = least
  · have more : 0x80 < second.toNat := used same
    omega
  · have above : first.toNat ≠ least.toNat := fun equal => same (UInt8.toNat_inj.mp equal)
    omega

theorem lt_of_secondOfThree (follows : secondOfThree first second) (least : first = 0xE0) :
    0x80 < second := by
  rw [secondOfThree, if_pos least, Bool.and_eq_true, decide_eq_true_eq] at follows
  exact UInt8.lt_of_lt_of_le (by decide) follows.1

theorem lt_of_secondOfFour (follows : secondOfFour first second) (least : first = 0xF0) :
    0x80 < second := by
  rw [secondOfFour, if_pos least, Bool.and_eq_true, decide_eq_true_eq] at follows
  exact UInt8.lt_of_lt_of_le (by decide) follows.1

/-- What is read is a single byte, a character of several bytes, or invalid. -/
theorem decodeNext_cases (first : UInt8) (rest : List UInt8) :
    (decodeNext first rest).1 = some (Char.ofNat first.toNat) ∨
      (∃ bits byte, 0 < bits ∧
        (decodeNext first rest).1 = some (Char.ofNat (withContinuation bits byte))) ∨
      (decodeNext first rest).1 = none := by
  unfold decodeNext
  split
  · exact .inl rfl
  right
  split
  · rename_i two
    rw [Bool.and_eq_true, decide_eq_true_eq] at two
    have low : 0xC2 ≤ first.toNat := two.1
    split
    · split
      · exact .inl ⟨_, _, by omega, rfl⟩
      · exact .inr rfl
    · exact .inr rfl
  split
  · rename_i three
    rw [Bool.and_eq_true, decide_eq_true_eq] at three
    split
    · split
      · rename_i follows
        have bits := withContinuation_pos 0xE0 three.1 (lt_of_secondOfThree follows)
        split
        · split
          · exact .inl ⟨_, _, bits, rfl⟩
          · exact .inr rfl
        · exact .inr rfl
      · exact .inr rfl
    · exact .inr rfl
  split
  · rename_i four
    rw [Bool.and_eq_true, decide_eq_true_eq] at four
    split
    · split
      · rename_i follows
        have bits := withContinuation_pos 0xF0 four.1 (lt_of_secondOfFour follows)
        split
        · split
          · split
            · split
              · have more := le_withContinuation bits
                exact .inl ⟨_, _, Nat.lt_of_lt_of_le (by decide) (more _), rfl⟩
              · exact .inr rfl
            · exact .inr rfl
          · exact .inr rfl
        · exact .inr rfl
      · exact .inr rfl
    · exact .inr rfl
  · exact .inr rfl

theorem ofNat_ne_newline {code : Nat} (other : code ≠ 0x0A) : Char.ofNat code ≠ '\n' := by
  intro same
  by_cases valid : code.isValidChar
  · rw [Char.ofNat, dif_pos valid] at same
    exact other (congrArg Char.toNat same)
  · rw [Char.ofNat, dif_neg valid] at same
    exact absurd same (by decide)

/-- Only a newline byte is read as a newline. -/
theorem decodeNext_ne_newline (other : first ≠ 0x0A) (rest : List UInt8) :
    (decodeNext first rest).1 ≠ some '\n' := by
  rcases decodeNext_cases first rest with single | ⟨bits, byte, positive, several⟩ | invalid
  · have code : first.toNat ≠ 0x0A := fun same => other (UInt8.toNat_inj.mp same)
    simpa [single] using ofNat_ne_newline code
  · have large := le_withContinuation positive byte
    simpa [several] using ofNat_ne_newline (by omega)
  · simp [invalid]

theorem decodeNext_suffix (first : UInt8) (rest : List UInt8) :
    (decodeNext first rest).2 <:+ rest := by
  unfold decodeNext
  repeat' split
  all_goals simp [List.suffix_cons_iff]

/-- Bytes without a newline byte are read as a text without a newline. -/
theorem newline_not_mem_decodeLossyChars {bytes : List UInt8} (none : 0x0A ∉ bytes) :
    '\n' ∉ decodeLossyChars bytes := by
  induction bytes using decodeLossyChars.induct with
  | case1 => simp [decodeLossyChars]
  | case2 first rest hypothesis =>
      rw [List.mem_cons, not_or] at none
      rw [decodeLossyChars_cons, List.mem_cons, not_or]
      constructor
      · intro same
        apply decodeNext_ne_newline (Ne.symm none.1) rest
        cases read : (decodeNext first rest).1 with
        | none => simp [read, replacement] at same
        | some char => simpa [read] using same.symm
      · apply hypothesis
        intro later
        exact none.2 ((decodeNext_suffix first rest).mem later)

end Workload.Text
