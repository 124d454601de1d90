import Mathlib.Algebra.Ring.Nat
import Mathlib.Data.List.DropRight
import Workload.Engine.Client
import Workload.Proofs.Text.Utf8

/-!
# The output of a container is shown as it was written

A stream is a row of segments, each with a newline byte after it, and a tail without one. The reader
shows one line for each segment and one for a tail that is not empty, wherever the stream is cut into
pieces. Each line is decoded for itself, and yet the lines are those of the whole text: a newline
byte ends whatever character was begun before it.
-/

namespace Workload.Text

/-- The stream is the segments, each with a newline byte after it, and then the tail. -/
inductive Segmented : List UInt8 → List (List UInt8) → List UInt8 → Prop where
  | tail {tail : List UInt8} (unended : newlineByte ∉ tail) : Segmented tail [] tail
  | segment {segment stream tail : List UInt8} {segments : List (List UInt8)}
      (unended : newlineByte ∉ segment) (after : Segmented stream segments tail) :
      Segmented (segment ++ newlineByte :: stream) (segment :: segments) tail

/-- The segments that are shown: a tail counts if it holds something. -/
def shownSegments (segments : List (List UInt8)) (tail : List UInt8) : List (List UInt8) :=
  segments ++ if tail.isEmpty then [] else [tail]

variable {stream tail bytes : List UInt8} {segments : List (List UInt8)} {line text : List Char}

theorem exists_segmented (stream : List UInt8) :
    ∃ segments tail, Segmented stream segments tail := by
  induction stream with
  | nil => exact ⟨[], [], .tail (by simp)⟩
  | cons byte rest hypothesis =>
      rcases hypothesis with ⟨segments, tail, segmented⟩
      by_cases ends : byte = newlineByte
      · subst byte
        exact ⟨[] :: segments, tail, .segment (List.not_mem_nil) segmented⟩
      · cases segmented with
        | tail unended =>
            refine ⟨[], byte :: rest, .tail ?_⟩
            simpa [Ne.symm ends] using unended
        | @segment segment _ _ segments unended after =>
            have longer : newlineByte ∉ byte :: segment := by simpa [Ne.symm ends] using unended
            exact ⟨(byte :: segment) :: segments, tail, .segment longer after⟩

/-! ## Reading -/

namespace LineReader

theorem takePiece_of_not_mem (reader : LineReader) (unended : newlineByte ∉ bytes) :
    reader.takePiece bytes = { reader with pending := reader.pending ++ bytes } := by
  induction bytes generalizing reader with
  | nil => simp [takePiece]
  | cons byte rest hypothesis =>
      rw [List.mem_cons, not_or] at unended
      have first : reader.takeByte byte = { reader with pending := reader.pending ++ [byte] } := by
        rw [takeByte, if_neg (Ne.symm unended.1)]
      have onward := hypothesis (reader.takeByte byte) unended.2
      rw [first] at onward
      rw [takePiece, List.foldl_cons, first]
      simpa [takePiece] using onward

theorem takePiece_segment (reader : LineReader) (unended : newlineByte ∉ bytes)
    (stream : List UInt8) :
    reader.takePiece (bytes ++ newlineByte :: stream) =
      takePiece
        { shown := reader.shown ++ [lineText (reader.pending ++ bytes ++ [newlineByte])] } stream := by
  have first := takePiece_of_not_mem reader unended
  rw [takePiece] at first
  simp [takePiece, first, takeByte]

/-- All pieces together are read as one. -/
theorem foldl_takePiece (reader : LineReader) (pieces : List (List UInt8)) :
    pieces.foldl takePiece reader = reader.takePiece pieces.flatten := by
  rw [takePiece, List.foldl_flatten]
  rfl

end LineReader

namespace Segmented

theorem takePiece (segmented : Segmented stream segments tail) (shown : List String) :
    LineReader.takePiece { shown } stream =
      { shown := shown ++ segments.map fun segment => lineText (segment ++ [newlineByte])
        pending := tail } := by
  induction segmented generalizing shown with
  | tail unended => simp [LineReader.takePiece_of_not_mem _ unended]
  | segment unended after hypothesis =>
      rw [LineReader.takePiece_segment _ unended, hypothesis]
      simp

end Segmented

/-! ## Decoding line by line -/

theorem decodeLossyChars_newline (rest : List UInt8) :
    decodeLossyChars (newlineByte :: rest) = '\n' :: decodeLossyChars rest := by
  rw [decodeLossyChars_cons]
  rfl

/-- Where a newline byte stands, the text before it is complete. -/
theorem decodeLossyChars_segment (segment rest : List UInt8) :
    decodeLossyChars (segment ++ newlineByte :: rest) =
      decodeLossyChars segment ++ '\n' :: decodeLossyChars rest := by
  rw [decodeLossyChars_append segment rest (by decide), decodeLossyChars_newline]

/-- A text without the carriage returns at its end. -/
def withoutReturns (text : List Char) : List Char :=
  text.rdropWhile (· = '\r')

theorem trimLineEnd_newline (text : List Char) : trimLineEnd (text ++ ['\n']) = trimLineEnd text :=
  List.rdropWhile_concat_pos isLineEnd text '\n' rfl

theorem dropWhile_isLineEnd (single : '\n' ∉ text) :
    text.dropWhile isLineEnd = text.dropWhile (· = '\r') := by
  induction text with
  | nil => rfl
  | cons char rest hypothesis =>
      rw [List.mem_cons, not_or] at single
      have same : isLineEnd char = decide (char = '\r') := by
        simp [isLineEnd, Ne.symm single.1]
      rw [List.dropWhile_cons, List.dropWhile_cons, same, hypothesis single.2]

theorem trimLineEnd_of_not_mem (single : '\n' ∉ text) : trimLineEnd text = withoutReturns text := by
  rw [trimLineEnd, dropWhile_isLineEnd (by simpa using single)]
  rfl

/-- The newline after a segment does not show. -/
theorem lineText_newline (bytes : List UInt8) :
    lineText (bytes ++ [newlineByte]) = lineText bytes := by
  rw [lineText, decodeLossyChars_segment, lineText]
  simp [decodeLossyChars, trimLineEnd_newline]

theorem lineText_of_not_mem (unended : newlineByte ∉ bytes) :
    lineText bytes = String.ofList (withoutReturns (decodeLossyChars bytes)) := by
  rw [lineText, trimLineEnd_of_not_mem (newline_not_mem_decodeLossyChars unended)]

theorem textLines_segment (single : '\n' ∉ line) (rest : List Char) :
    textLines (line ++ '\n' :: rest) = line :: textLines rest := by
  induction line with
  | nil => simp [textLines]
  | cons char line hypothesis =>
      rw [List.mem_cons, not_or] at single
      rw [List.cons_append, textLines, if_neg (Ne.symm single.1), hypothesis single.2]

theorem textLines_tail (single : '\n' ∉ line) :
    textLines line = if line.isEmpty then [] else [line] := by
  induction line with
  | nil => rfl
  | cons char line hypothesis =>
      rw [List.mem_cons, not_or] at single
      rw [textLines, if_neg (Ne.symm single.1), hypothesis single.2]
      cases line <;> simp

theorem isEmpty_decodeLossyChars (bytes : List UInt8) :
    (decodeLossyChars bytes).isEmpty = bytes.isEmpty := by
  cases bytes <;> simp [decodeLossyChars]

namespace Segmented

/-- The lines of the whole text are the decoded segments. -/
theorem textLines (segmented : Segmented stream segments tail) :
    textLines (decodeLossyChars stream) =
      (shownSegments segments tail).map decodeLossyChars := by
  induction segmented with
  | tail unended =>
      rw [textLines_tail (newline_not_mem_decodeLossyChars unended), isEmpty_decodeLossyChars]
      simp only [shownSegments, List.nil_append]
      split <;> rfl
  | segment unended after hypothesis =>
      rw [decodeLossyChars_segment, textLines_segment (newline_not_mem_decodeLossyChars unended),
        hypothesis]
      rfl

theorem not_mem_of_shown (segmented : Segmented stream segments tail) {segment : List UInt8}
    (shown : segment ∈ shownSegments segments tail) : newlineByte ∉ segment := by
  induction segmented with
  | tail unended =>
      simp only [shownSegments, List.nil_append] at shown
      split at shown
      · simp at shown
      · rwa [List.mem_singleton.mp shown]
  | segment unended after hypothesis =>
      rcases List.mem_cons.mp shown with rfl | later
      · exact unended
      · exact hypothesis later

theorem shownLines {pieces : List (List UInt8)}
    (segmented : Segmented pieces.flatten segments tail) :
    shownLines pieces = (shownSegments segments tail).map lineText := by
  have read := segmented.takePiece []
  rw [Text.shownLines, LineReader.foldl_takePiece, read, LineReader.finish, shownSegments]
  simp only [lineText_newline, List.nil_append]
  split <;> simp

end Segmented

/-! ## What is kept -/

theorem count_withoutReturns {char : Char} (other : char ≠ '\r') (text : List Char) :
    (withoutReturns text).count char = text.count char := by
  have returns : (text.reverse.takeWhile (· = '\r')).count char = 0 := by
    rw [List.count_eq_zero]
    intro member
    exact other (by simpa using List.mem_takeWhile_imp member)
  have split := congrArg (List.count char)
    (List.takeWhile_append_dropWhile (p := (· = '\r')) (l := text.reverse))
  rw [List.count_append, returns, Nat.zero_add, List.count_reverse] at split
  rw [withoutReturns, List.rdropWhile, List.count_reverse, split]

theorem sum_count_textLines {char : Char} (other : char ≠ '\n') (text : List Char) :
    ((textLines text).map (List.count char)).sum = text.count char := by
  induction text with
  | nil => rfl
  | cons first rest hypothesis =>
      rw [textLines, List.count_cons, ← hypothesis]
      split
      · rename_i newline
        simp [newline, Ne.symm other]
      · cases textLines rest with
        | nil => simp [List.count_cons]
        | cons line lines =>
            simp [List.count_cons]
            omega

/--
Of a stream one line is shown for each segment that ends with a newline and one for a tail that holds
something, each behind the label of the container and however the stream is cut into pieces. What is
shown are the lines of the whole text, decoded at once, without the carriage returns at their ends;
in particular no replacement character is added or lost.
-/
theorem output_shown_as_written (specification : Container.Specification)
    (pieces : List (List UInt8)) :
    (∃ segments tail, Segmented pieces.flatten segments tail ∧
      (shownLines pieces).map (Container.linePrefix specification.label ++ ·) =
        (shownSegments segments tail).map fun segment =>
          Container.linePrefix specification.label ++ lineText segment) ∧
    (shownLines pieces).map (Container.linePrefix specification.label ++ ·) =
      Engine.labelledLines specification pieces.flatten ∧
    (shownLines pieces =
      (textLines (decodeLossyChars pieces.flatten)).map fun line =>
        String.ofList (withoutReturns line)) ∧
    ((shownLines pieces).map fun line => line.toList.count replacement).sum =
      (decodeLossyChars pieces.flatten).count replacement := by
  rcases exists_segmented pieces.flatten with ⟨segments, tail, segmented⟩
  have whole : shownLines pieces =
      (textLines (decodeLossyChars pieces.flatten)).map fun line =>
        String.ofList (withoutReturns line) := by
    rw [segmented.shownLines, segmented.textLines, List.map_map]
    apply List.map_congr_left
    intro segment shown
    exact lineText_of_not_mem (segmented.not_mem_of_shown shown)
  refine ⟨⟨segments, tail, segmented, ?_⟩, ?_, whole, ?_⟩
  · rw [segmented.shownLines, List.map_map]
    rfl
  · have again : Segmented [pieces.flatten].flatten segments tail := by simpa using segmented
    rw [Engine.labelledLines, segmented.shownLines, again.shownLines]
  · rw [whole, List.map_map, ← sum_count_textLines (by decide) (decodeLossyChars pieces.flatten)]
    congr 2
    funext line
    simp [count_withoutReturns (show replacement ≠ '\r' by decide)]

/-- A character that is cut short by a newline or by the end of the stream is replaced once. -/
example :
    shownLines [[0xE2], [0x82, 0x0D, 0x0A, 0x41], [0x0D, 0x0D, 0x0A, 0xE2, 0x82]] =
      ["\ufffd", "A", "\ufffd"] := by cbv

end Workload.Text
