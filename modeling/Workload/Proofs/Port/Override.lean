import Workload.Port.Override
import Workload.Proofs.Text.Numeral
import Workload.Proofs.Text.Split

/-!
# Which texts are port overrides

The first colon of an override parts it into two halves, so that a further colon falls into the host
half and makes it no numeral. Each half has to be a numeral of a port among blanks. Of a text that
is refused the first thing wrong is blamed, in the order in which it is read.
-/

namespace Workload.Port

open Text

/-- What stands before and after the first colon of a text. -/
structure Halves (text : String) (containerHalf hostHalf : List Char) : Prop where
  joined : text.toList = containerHalf ++ ':' :: hostHalf
  first : ':' ∉ containerHalf

/-- The half of an override that stands for a port. -/
structure IsPort (half : List Char) (number : Nat) : Prop where
  spelled : ∃ numeral, Padded half numeral ∧ Numeral numeral number
  positive : 1 ≤ number
  bounded : number ≤ 65535

/-- What is wrong first with a text that is no port override. -/
inductive Refusal (text : String) : String → Prop where
  | colon (missing : ':' ∉ text.toList) : Refusal text "expected containerPort:hostPort"
  | container {containerHalf hostHalf : List Char} (halves : Halves text containerHalf hostHalf)
      (wrong : ∀ number, ¬ IsPort containerHalf number) : Refusal text "invalid container port"
  | host {containerHalf hostHalf : List Char} {container : Nat}
      (halves : Halves text containerHalf hostHalf) (right : IsPort containerHalf container)
      (wrong : ∀ number, ¬ IsPort hostHalf number) : Refusal text "invalid host port"

variable {text : String} {half containerHalf hostHalf : List Char} {number : Nat} {port : UInt16}

theorem splitFirstChars_eq_iff_halves :
    splitFirstChars ':' text.toList = some (containerHalf, hostHalf) ↔
      Halves text containerHalf hostHalf := by
  rw [splitFirstChars_eq_some_iff]
  constructor
  · rintro ⟨joined, first⟩
    exact ⟨joined, first⟩
  · rintro ⟨joined, first⟩
    exact ⟨joined, first⟩

/-! ## One half -/

theorem toNat_toUInt16 (bounded : number ≤ 65535) : number.toUInt16.toNat = number :=
  UInt16.toNat_ofNat_of_lt' (Nat.lt_succ_of_le bounded)

theorem IsPort.exists_toNat (isPort : IsPort half number) :
    ∃ port : UInt16, port.toNat = number :=
  ⟨number.toUInt16, toNat_toUInt16 isPort.bounded⟩

theorem readPort?_eq_some_iff : readPort? half = some port ↔ IsPort half port.toNat := by
  constructor
  · intro read
    rw [readPort?] at read
    split at read
    · cases read
    · rename_i number nonzero found
      cases read
      rcases readNumeral?_trimChars_eq_some_iff.mp found with ⟨spelled, bounded⟩
      rw [toNat_toUInt16 bounded]
      exact ⟨spelled, Nat.pos_of_ne_zero nonzero, bounded⟩
    · cases read
  · rintro ⟨spelled, positive, bounded⟩
    have found : readNumeral? 65535 (trimChars half) = some port.toNat :=
      readNumeral?_trimChars_eq_some_iff.mpr ⟨spelled, bounded⟩
    rw [readPort?, found]
    split
    · rename_i zero
      rw [Option.some.inj zero] at positive
      exact absurd positive (by decide)
    · rename_i number _ same
      cases same
      simp
    · rename_i none
      cases none

theorem readPort?_eq_none_iff : readPort? half = none ↔ ∀ number, ¬ IsPort half number := by
  rw [Option.eq_none_iff_forall_ne_some]
  constructor
  · intro unread number isPort
    rcases isPort.exists_toNat with ⟨port, rfl⟩
    exact unread port (readPort?_eq_some_iff.mpr isPort)
  · intro wrong port read
    exact wrong _ (readPort?_eq_some_iff.mp read)

theorem isPort_decimalDigits (nonzero : port ≠ 0) :
    IsPort (decimalDigits port.toNat) port.toNat := by
  refine ⟨⟨_, ⟨[], [], by simp⟩, numeral_decimalDigits _⟩, ?_, Nat.le_of_lt_succ port.toNat_lt⟩
  apply Nat.pos_of_ne_zero
  intro zero
  exact nonzero (UInt16.toNat_inj.mp zero)

/-! ## The whole text -/

theorem exists_halves (colon : ':' ∈ text.toList) :
    ∃ containerHalf hostHalf, Halves text containerHalf hostHalf := by
  cases cut : splitFirstChars ':' text.toList with
  | none => exact absurd colon (splitFirstChars_eq_none_iff.mp cut)
  | some halves => exact ⟨halves.1, halves.2, splitFirstChars_eq_iff_halves.mp cut⟩

/-- Either something is wrong with a text or both of its halves stand for ports. -/
theorem refused_or_ports (text : String) :
    (∃ reason, Refusal text reason) ∨
      ∃ containerHalf hostHalf container host, Halves text containerHalf hostHalf ∧
        IsPort containerHalf container ∧ IsPort hostHalf host := by
  by_cases colon : ':' ∈ text.toList
  · rcases exists_halves colon with ⟨containerHalf, hostHalf, halves⟩
    by_cases containerRight : ∃ number, IsPort containerHalf number
    · rcases containerRight with ⟨container, isContainer⟩
      by_cases hostRight : ∃ number, IsPort hostHalf number
      · rcases hostRight with ⟨host, isHost⟩
        exact .inr ⟨_, _, container, host, halves, isContainer, isHost⟩
      · exact .inl ⟨_, .host halves isContainer (not_exists.mp hostRight)⟩
    · exact .inl ⟨_, .container halves (not_exists.mp containerRight)⟩
  · exact .inl ⟨_, .colon colon⟩

namespace Override

theorem parse_of_ports {override : Override} (halves : Halves text containerHalf hostHalf)
    (isContainer : IsPort containerHalf override.container.toNat)
    (isHost : IsPort hostHalf override.host.toNat) : parse text = .ok override := by
  simp only [parse, splitFirstChars_eq_iff_halves.mpr halves,
    readPort?_eq_some_iff.mpr isContainer, readPort?_eq_some_iff.mpr isHost]

theorem exists_parse_of_ports {container host : Nat}
    (halves : Halves text containerHalf hostHalf) (isContainer : IsPort containerHalf container)
    (isHost : IsPort hostHalf host) :
    ∃ override, parse text = .ok override ∧
      override.container.toNat = container ∧ override.host.toNat = host := by
  rcases isContainer.exists_toNat with ⟨container, rfl⟩
  rcases isHost.exists_toNat with ⟨host, rfl⟩
  exact ⟨⟨container, host⟩, parse_of_ports halves isContainer isHost, rfl, rfl⟩

theorem parse_of_refusal {reason : String} (refusal : Refusal text reason) :
    parse text = .error (.portOverride text reason) := by
  cases refusal with
  | colon missing => simp only [parse, splitFirstChars_eq_none_iff.mpr missing]
  | container halves wrong =>
      simp only [parse, splitFirstChars_eq_iff_halves.mpr halves, readPort?_eq_none_iff.mpr wrong]
  | host halves right wrong =>
      rcases right.exists_toNat with ⟨container, rfl⟩
      simp only [parse, splitFirstChars_eq_iff_halves.mpr halves,
        readPort?_eq_some_iff.mpr right, readPort?_eq_none_iff.mpr wrong]

theorem halves_text (override : Override) :
    Halves override.text (decimalDigits override.container.toNat)
      (decimalDigits override.host.toNat) := by
  constructor
  · simp [text, decimal]
  · exact colon_not_mem_decimalDigits _

end Override

/--
A text is read as a port override exactly if both halves stand for ports, which the override then
holds. What is refused is refused for the first thing that is wrong with it. The text of an override
between two ports is read back.
-/
theorem port_overrides_read_exactly :
    (∀ text, (∃ override, Override.parse text = .ok override) ↔
      ∃ containerHalf hostHalf container host, Halves text containerHalf hostHalf ∧
        IsPort containerHalf container ∧ IsPort hostHalf host) ∧
    (∀ text override, Override.parse text = .ok override →
      ∀ containerHalf hostHalf container host, Halves text containerHalf hostHalf →
        IsPort containerHalf container → IsPort hostHalf host →
          override.container.toNat = container ∧ override.host.toNat = host) ∧
    (∀ text fault, Override.parse text = .error fault ↔
      ∃ reason, Refusal text reason ∧ fault = .portOverride text reason) ∧
    ∀ override : Override, override.container ≠ 0 → override.host ≠ 0 →
      Override.parse override.text = .ok override := by
  refine ⟨?_, ?_, ?_, ?_⟩
  · intro text
    constructor
    · rintro ⟨override, read⟩
      rcases refused_or_ports text with ⟨reason, refusal⟩ | ports
      · rw [Override.parse_of_refusal refusal] at read
        cases read
      · exact ports
    · rintro ⟨_, _, _, _, halves, isContainer, isHost⟩
      rcases Override.exists_parse_of_ports halves isContainer isHost with ⟨override, read, _⟩
      exact ⟨override, read⟩
  · intro text override read _ _ container host halves isContainer isHost
    rcases Override.exists_parse_of_ports halves isContainer isHost with ⟨_, same, numbers⟩
    rw [read] at same
    cases same
    exact numbers
  · intro text fault
    constructor
    · intro failed
      rcases refused_or_ports text with
        ⟨reason, refusal⟩ | ⟨_, _, _, _, halves, isContainer, isHost⟩
      · rw [Override.parse_of_refusal refusal] at failed
        cases failed
        exact ⟨reason, refusal, rfl⟩
      · rcases Override.exists_parse_of_ports halves isContainer isHost with ⟨_, read, _⟩
        rw [read] at failed
        cases failed
    · rintro ⟨reason, refusal, rfl⟩
      exact Override.parse_of_refusal refusal
  · intro override container host
    exact Override.parse_of_ports override.halves_text (isPort_decimalDigits container)
      (isPort_decimalDigits host)

/-- Blanks, a sign and leading zeros are no part of the ports that are read. -/
theorem padded_ports_read :
    Override.parse "\u2003+00080\t: 65535 " = .ok ⟨80, 65535⟩ ∧
      Halves "\u2003+00080\t: 65535 " "\u2003+00080\t".toList " 65535 ".toList ∧
      IsPort "\u2003+00080\t".toList 80 ∧ IsPort " 65535 ".toList 65535 ∧
      (80 : UInt16).toNat = 80 ∧ (65535 : UInt16).toNat = 65535 ∧
      Override.parse (Override.text ⟨80, 65535⟩) = .ok ⟨80, 65535⟩ := by
  have read : Override.parse "\u2003+00080\t: 65535 " = .ok ⟨80, 65535⟩ := rfl
  have halves : Halves "\u2003+00080\t: 65535 " "\u2003+00080\t".toList " 65535 ".toList :=
    ⟨by decide, by decide⟩
  have isContainer : IsPort "\u2003+00080\t".toList 80 := by
    refine ⟨⟨"+00080".toList, ⟨['\u2003'], ['\t'], rfl, ?_, ?_⟩, .signed (by decide) ?_⟩,
      by decide, by decide⟩
    all_goals exact List.all_eq_true.mp rfl
  have isHost : IsPort " 65535 ".toList 65535 := by
    refine ⟨⟨"65535".toList, ⟨[' '], [' '], rfl, ?_, ?_⟩, .plain (by decide) ?_⟩,
      by decide, by decide⟩
    all_goals exact List.all_eq_true.mp rfl
  have numbers :=
    port_overrides_read_exactly.2.1 _ _ read _ _ _ _ halves isContainer isHost
  exact ⟨read, halves, isContainer, isHost, numbers.1, numbers.2,
    port_overrides_read_exactly.2.2.2 ⟨80, 65535⟩ (by decide) (by decide)⟩

/-- Of two wrong halves the container half is blamed, and a second colon is one of the host half. -/
example :
    Override.parse "65536:0" =
        .error (.portOverride "65536:0" "invalid container port") ∧
      Override.parse "80:90:1" = .error (.portOverride "80:90:1" "invalid host port") :=
  ⟨rfl, rfl⟩

end Workload.Port
