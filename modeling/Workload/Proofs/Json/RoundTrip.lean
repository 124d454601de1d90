import Workload.Json.Reader
import Workload.Proofs.Json.Float
import Workload.Proofs.Table

/-!
# What is written is read

The text of a value is read, whatever closing bracket or comma follows it, as long as its arrays and
objects are not nested deeper than is allowed. It is read as the same value, with two exceptions: a
double may become another one, and the members of an object are put in order.
-/

namespace Workload.Json

/-! ## Values that can be held -/

/-- The number fits 64 bits, or it is a finite double. -/
def Number.IsRepresentable : Number → Prop
  | .natural value => value ≤ maxNatural
  | .negative magnitude => 0 < magnitude ∧ magnitude ≤ 0x8000000000000000
  | .float bits => Decimal.isFinite bits

/-- The numbers of a value can be held, and its arrays and objects are nested at most so deep. -/
inductive Value.Within : Nat → Value → Prop where
  | null {depth : Nat} : Within depth .null
  | bool {depth : Nat} (value : Bool) : Within depth (.bool value)
  | number {depth : Nat} {number : Number} (representable : number.IsRepresentable) :
      Within depth (.number number)
  | string {depth : Nat} (text : String) : Within depth (.string text)
  | array {depth : Nat} {elements : List Value} (all : ∀ value ∈ elements, Within depth value) :
      Within (depth + 1) (.array elements)
  | object {depth : Nat} {members : List (String × Value)}
      (all : ∀ member ∈ members, Within depth member.2) : Within (depth + 1) (.object members)

theorem Value.Within.mono {depth larger : Nat} {value : Value} (within : value.Within depth)
    (deeper : depth ≤ larger) : value.Within larger := by
  induction within generalizing larger with
  | null => exact .null
  | bool value => exact .bool value
  | number representable => exact .number representable
  | string text => exact .string text
  | array all hypothesis =>
      cases larger with
      | zero => omega
      | succ larger =>
          exact .array fun value member => hypothesis value member (Nat.le_of_succ_le_succ deeper)
  | object all hypothesis =>
      cases larger with
      | zero => omega
      | succ larger =>
          exact .object fun value member => hypothesis value member (Nat.le_of_succ_le_succ deeper)

/-! ## What is read -/

/-- What the text of a number is read as. -/
def Number.reread (number : Number) : Value :=
  match readScalar number.text.toList with
  | .ok (value, _) => value
  | .error _ => .number number

mutual

/-- What the text of a value is read as. -/
def Value.reread : Value → Value
  | .null => .null
  | .bool value => .bool value
  | .number number => number.reread
  | .string text => .string text
  | .array elements => .array (rereadElements elements)
  | .object members => .ofMembers (rereadMembers members)

/-- What the texts of the elements of an array are read as. -/
def rereadElements : List Value → List Value
  | [] => []
  | value :: rest => value.reread :: rereadElements rest

/-- What the texts of the members of an object are read as. -/
def rereadMembers : List (String × Value) → List (String × Value)
  | [] => []
  | (key, value) :: rest => (key, value.reread) :: rereadMembers rest

end

/-! ## Scalars -/

/-- The text begins neither with a blank nor with a closing bracket. -/
def Starts (text : List Char) : Prop :=
  ∃ first rest, text = first :: rest ∧ isJsonBlank first = false ∧ first ≠ ']'

theorem Starts.append {text : List Char} (starts : Starts text) (more : List Char) :
    Starts (text ++ more) := by
  rcases starts with ⟨first, rest, rfl, dark, apart⟩
  exact ⟨first, rest ++ more, rfl, dark, apart⟩

theorem skipBlanks_cons {first : Char} (dark : isJsonBlank first = false) (rest : List Char) :
    skipBlanks (first :: rest) = first :: rest := by
  simp [skipBlanks, dark]

theorem Starts.skipBlanks_eq {text : List Char} (starts : Starts text) :
    skipBlanks text = text := by
  rcases starts with ⟨first, rest, rfl, dark, _⟩
  exact skipBlanks_cons dark rest

/-- A text that is read as a scalar begins with one. -/
theorem starts_of_readScalar {text : List Char} {result : Value × List Char}
    (read : readScalar text = .ok result) :
    Starts text ∧ text.head? ≠ some '[' ∧ text.head? ≠ some '\x7b' := by
  cases text with
  | nil => cases read
  | cons first rest =>
      have dark : isJsonBlank first = false := by
        rw [← Bool.not_eq_true]
        intro blank
        simp only [isJsonBlank, Bool.or_eq_true, decide_eq_true_eq] at blank
        rcases blank with ((rfl | rfl) | rfl) | rfl <;> cases read
      refine ⟨⟨first, rest, rfl, dark, ?_⟩, ?_, ?_⟩
      · rintro rfl
        cases read
      · intro bracket
        cases bracket
        cases read
      · intro brace
        cases brace
        cases read

theorem readValue_of_readScalar {text : List Char} {result : Value × List Char}
    (read : readScalar text = .ok result) (depth : Nat) : readValue depth text = .ok result := by
  rcases starts_of_readScalar read with ⟨starts, bracket, brace⟩
  cases depth <;>
  · rw [readValue.eq_def]
    simp only [starts.skipBlanks_eq]
    split <;> simp_all

theorem readScalar_of_readNumber {text more : List Char} {number : Number}
    (read : readNumber true text = .ok (number, more)) :
    readScalar text = .ok (.number number, more) := by
  cases text with
  | nil => cases read
  | cons first rest =>
      have isDigit : first.isDigit := by
        by_contra other
        have nonzero : first ≠ '0' := by
          rintro rfl
          exact other rfl
        simp only [readNumber, if_neg nonzero, if_neg other] at read
        cases read
      unfold readScalar
      dsimp only
      split
      -- The first five cases are those of other values, which do not begin with a digit.
      case h_6 =>
        rw [if_pos isDigit, read]
        rfl
      all_goals cases isDigit

theorem readScalar_minus {text more : List Char} {number : Number}
    (read : readNumber false text = .ok (number, more)) :
    readScalar ('-' :: text) = .ok (.number number, more) := by
  simp only [readScalar, read]
  rfl

theorem readScalar_natural {value : Nat} (fits : value ≤ maxNatural) {more : List Char}
    (ends : Ends more) :
    readScalar (Text.decimalDigits value ++ more) = .ok (.number (.natural value), more) := by
  apply readScalar_of_readNumber
  rw [Text.decimalDigits, readNumber_toDigits fits ends.noDigit]
  cases ends <;> rfl

/-- The text of a number that can be held is read. -/
theorem exists_readScalar_text {number : Number} (representable : number.IsRepresentable) :
    ∃ again, ∀ more, Ends more →
      readScalar (number.text.toList ++ more) = .ok (.number again, more) := by
  cases number with
  | natural value =>
      refine ⟨.natural value, ?_⟩
      intro more ends
      simpa [Number.text, Text.decimal] using readScalar_natural representable ends
  | negative magnitude =>
      refine ⟨integerNumber false magnitude, ?_⟩
      intro more ends
      have fits : magnitude ≤ maxNatural := Nat.le_trans representable.2 (by decide)
      have read : readNumber false (Text.decimalDigits magnitude ++ more) =
          .ok (integerNumber false magnitude, more) := by
        rw [Text.decimalDigits, readNumber_toDigits fits ends.noDigit]
        cases ends <;> rfl
      simpa [Number.text, Text.decimal] using readScalar_minus read
  | float bits =>
      have finite := Decimal.isFinite_ofBits representable
      cases negative : Decimal.isNegative bits with
      | false =>
          rcases exists_readNumber_chars true finite with ⟨again, read⟩
          refine ⟨again, ?_⟩
          intro more ends
          have text : (Number.float bits).text.toList = (Decimal.Binary.ofBits bits).chars := by
            simp [Number.text, Decimal.floatText, negative]
          rw [text]
          exact readScalar_of_readNumber (read more ends)
      | true =>
          rcases exists_readNumber_chars false finite with ⟨again, read⟩
          refine ⟨again, ?_⟩
          intro more ends
          have text : (Number.float bits).text.toList =
              '-' :: (Decimal.Binary.ofBits bits).chars := by
            simp [Number.text, Decimal.floatText, negative]
          rw [text]
          exact readScalar_minus (read more ends)

theorem exists_reread_eq {number : Number} (representable : number.IsRepresentable) :
    ∃ again, number.reread = .number again ∧ ∀ more, Ends more →
      readScalar (number.text.toList ++ more) = .ok (.number again, more) := by
  rcases exists_readScalar_text representable with ⟨again, read⟩
  have alone := read [] .nothing
  rw [List.append_nil] at alone
  refine ⟨again, ?_, read⟩
  rw [Number.reread, alone]

theorem readScalar_text {number : Number} (representable : number.IsRepresentable)
    {more : List Char} (ends : Ends more) :
    readScalar (number.text.toList ++ more) = .ok (number.reread, more) := by
  rcases exists_reread_eq representable with ⟨again, reread, read⟩
  rw [reread, read more ends]

/-! ## Arrays and objects -/

theorem starts_chars {depth : Nat} {value : Value} (within : value.Within depth) :
    Starts value.chars := by
  cases within with
  | null => exact ⟨_, _, rfl, rfl, by decide⟩
  | bool value => cases value <;> exact ⟨_, _, rfl, rfl, by decide⟩
  | number representable =>
      have read := readScalar_text representable .nothing
      rw [List.append_nil] at read
      exact (starts_of_readScalar read).1
  | string text => exact ⟨_, _, rfl, rfl, by decide⟩
  | array all => exact ⟨_, _, rfl, rfl, by decide⟩
  | object all => exact ⟨_, _, rfl, rfl, by decide⟩

section Sequences

variable {read : List Char → Except SyntaxError (Value × List Char)}

/-- The reader reads the text of the value, whatever may follow it. -/
def Rereads (read : List Char → Except SyntaxError (Value × List Char)) (value : Value) : Prop :=
  Starts value.chars ∧
    ∀ more, Ends more → read (value.chars ++ more) = .ok (value.reread, more)

theorem Starts.elementsChars {value : Value} (starts : Starts value.chars) (rest : List Value)
    (more : List Char) : Starts (elementsChars (value :: rest) ++ more) := by
  cases rest with
  | nil => exact starts.append more
  | cons next rest =>
      rw [Json.elementsChars, List.append_assoc]
      exact starts.append _

theorem length_le_elementsChars {elements : List Value}
    (all : ∀ value ∈ elements, Rereads read value) :
    elements.length ≤ (elementsChars elements).length := by
  induction elements with
  | nil => exact Nat.le_refl _
  | cons value rest hypothesis =>
      rw [List.forall_mem_cons] at all
      rcases all.1.1 with ⟨first, others, chars, _⟩
      cases rest with
      | nil => simp [elementsChars, chars]
      | cons next rest =>
          have onward := hypothesis all.2
          simp only [elementsChars, chars, List.length_append, List.length_cons] at onward ⊢
          omega

theorem readElements_chars {elements : List Value} (some : elements ≠ [])
    (all : ∀ value ∈ elements, Rereads read value) {bound : Nat} (enough : elements.length ≤ bound)
    (more : List Char) :
    readElements read bound (elementsChars elements ++ ']' :: more) =
      .ok (rereadElements elements, more) := by
  induction elements generalizing bound with
  | nil => exact absurd rfl some
  | cons value rest hypothesis =>
      rw [List.forall_mem_cons] at all
      cases bound with
      | zero => cases enough
      | succ bound =>
          cases rest with
          | nil =>
              simp only [elementsChars, readElements, all.1.2 _ (.bracket more), bind, Except.bind]
              rfl
          | cons next rest =>
              have onward := hypothesis (by simp) all.2 (Nat.le_of_succ_le_succ enough)
              -- An element is no closing bracket, so that the comma before it is in order.
              have starts := (all.2 next (by simp)).1.elementsChars rest (']' :: more)
              have same := starts.skipBlanks_eq
              rcases starts with ⟨first, others, text, _, apart⟩
              rw [text] at onward same
              simp only [elementsChars, List.append_assoc, List.cons_append, readElements,
                all.1.2 _ (.comma _), bind, Except.bind,
                skipBlanks_cons (rfl : isJsonBlank ',' = false), text, same]
              split
              · rename_i nothing
                cases nothing
              · rename_i close
                cases close
                exact absurd rfl apart
              · rw [onward]
                rfl

theorem readArray_chars {elements : List Value} (all : ∀ value ∈ elements, Rereads read value)
    (more : List Char) :
    readArray read (elementsChars elements ++ ']' :: more) =
      .ok (rereadElements elements, more) := by
  cases elements with
  | nil => rfl
  | cons value rest =>
      have enough := length_le_elementsChars all
      have onward : readElements read
          ((elementsChars (value :: rest) ++ ']' :: more).length + 1)
          (elementsChars (value :: rest) ++ ']' :: more) = .ok (rereadElements _, more) :=
        readElements_chars (by simp) all (by rw [List.length_append]; omega) more
      have starts := (all value (by simp)).1.elementsChars rest (']' :: more)
      have same := starts.skipBlanks_eq
      rcases starts with ⟨first, others, text, _, apart⟩
      rw [text] at onward same ⊢
      simp only [readArray, same]
      split
      · rename_i nothing
        cases nothing
      · rename_i close
        cases close
        exact absurd rfl apart
      · exact onward

theorem exists_membersChars_eq (key : String) (value : Value) (rest : List (String × Value)) :
    ∃ tail, membersChars ((key, value) :: rest) = '"' :: tail := by
  cases rest with
  | nil => exact ⟨_, rfl⟩
  | cons next rest => exact ⟨_, rfl⟩

theorem length_le_membersChars (members : List (String × Value)) :
    members.length ≤ (membersChars members).length := by
  induction members with
  | nil => exact Nat.le_refl _
  | cons member rest hypothesis =>
      rcases member with ⟨key, value⟩
      cases rest with
      | nil => simp [membersChars, writtenString]
      | cons next rest =>
          simp only [membersChars, writtenString, List.length_append, List.length_cons]
            at hypothesis ⊢
          omega

theorem readColon_written (text : List Char) : readColon (':' :: text) = .ok text :=
  rfl

theorem readMembers_last (bound : Nat) (key : String) {value : Value}
    (rereads : Rereads read value) (more : List Char) :
    readMembers read (bound + 1) (writtenString key ++ ':' :: value.chars ++ '\x7d' :: more) =
      .ok ([(key, value.reread)], more) := by
  simp only [writtenString, List.cons_append, List.append_assoc, List.nil_append, readMembers,
    readString_written, readColon_written, rereads.2 _ (.brace more), bind, Except.bind]
  rfl

theorem readMembers_comma (bound : Nat) (key : String) {value : Value}
    (rereads : Rereads read value) (next : List Char) :
    readMembers read (bound + 1) (writtenString key ++ ':' :: value.chars ++ ',' :: '"' :: next) =
      (readMembers read bound ('"' :: next)).map fun result =>
        ((key, value.reread) :: result.1, result.2) := by
  simp only [writtenString, List.cons_append, List.append_assoc, List.nil_append, readMembers,
    readString_written, readColon_written, rereads.2 _ (.comma _), bind, Except.bind]
  rfl

theorem readMembers_chars {members : List (String × Value)} (some : members ≠ [])
    (all : ∀ member ∈ members, Rereads read member.2) {bound : Nat}
    (enough : members.length ≤ bound) (more : List Char) :
    readMembers read bound (membersChars members ++ '\x7d' :: more) =
      .ok (rereadMembers members, more) := by
  induction members generalizing bound with
  | nil => exact absurd rfl some
  | cons member rest hypothesis =>
      rcases member with ⟨key, value⟩
      rw [List.forall_mem_cons] at all
      cases bound with
      | zero => cases enough
      | succ bound =>
          cases rest with
          | nil => exact readMembers_last bound key all.1 more
          | cons next rest =>
              have onward := hypothesis (by simp) all.2 (Nat.le_of_succ_le_succ enough)
              rcases exists_membersChars_eq next.1 next.2 rest with ⟨tail, chars⟩
              rw [chars, List.cons_append] at onward
              have first := readMembers_comma bound key all.1 (tail ++ '\x7d' :: more)
              rw [onward] at first
              simp only [membersChars, chars, List.append_assoc, List.cons_append]
                at first ⊢
              exact first

theorem readObject_chars {members : List (String × Value)}
    (all : ∀ member ∈ members, Rereads read member.2) (more : List Char) :
    readObject read (membersChars members ++ '\x7d' :: more) =
      .ok (rereadMembers members, more) := by
  cases members with
  | nil => rfl
  | cons member rest =>
      have enough := length_le_membersChars (member :: rest)
      have onward : readMembers read ((membersChars (member :: rest) ++ '\x7d' :: more).length + 1)
          (membersChars (member :: rest) ++ '\x7d' :: more) = .ok (rereadMembers _, more) :=
        readMembers_chars (by simp) all (by rw [List.length_append]; omega) more
      rcases exists_membersChars_eq member.1 member.2 rest with ⟨tail, chars⟩
      rw [chars] at onward ⊢
      exact onward

end Sequences

/-! ## Values -/

theorem Value.Within.rereads {depth : Nat} {value : Value} (within : value.Within depth) :
    Rereads (readValue depth) value := by
  refine ⟨starts_chars within, ?_⟩
  -- What follows a value is not fixed, since inside an array it is the text of the other elements.
  induction within with
  | null => exact fun more _ => readValue_of_readScalar rfl _
  | bool value => cases value <;> exact fun more _ => readValue_of_readScalar rfl _
  | number representable =>
      exact fun more ends => readValue_of_readScalar (readScalar_text representable ends) _
  | string text =>
      intro more _
      apply readValue_of_readScalar
      simp only [Value.chars, writtenString, List.cons_append, List.append_assoc, List.nil_append,
        readScalar, readString_written]
      rfl
  | array all hypothesis =>
      intro more _
      have elements := readArray_chars
        (fun value member => ⟨starts_chars (all value member), hypothesis value member⟩) more
      simp only [Value.chars, List.cons_append, List.append_assoc, List.nil_append, readValue,
        skipBlanks_cons (rfl : isJsonBlank '[' = false), elements]
      rfl
  | object all hypothesis =>
      intro more _
      have members := readObject_chars
        (fun member inside => ⟨starts_chars (all member inside), hypothesis member inside⟩) more
      simp only [Value.chars, List.cons_append, List.append_assoc, List.nil_append, readValue,
        skipBlanks_cons (rfl : isJsonBlank '\x7b' = false), members]
      rfl

/-- A value that is not nested too deep is read from its text. -/
theorem Value.parse_chars {value : Value} (within : value.Within maxDepth) :
    Value.parse value.chars = .ok value.reread := by
  have read := within.rereads.2 [] .nothing
  rw [List.append_nil] at read
  simp only [Value.parse, read, bind, Except.bind]
  rfl

end Workload.Json
