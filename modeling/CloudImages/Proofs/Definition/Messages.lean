import CloudImages.Proofs.Definition.Drafts
import CloudImages.Proofs.Json.Printable
import CloudImages.Proofs.Text.Lines

set_option autoImplicit false

/-! # The message for a rejected definition

The message for a rejected definition ends in a line of its own for the definition. The cause in
front of it may quote a text of the user as it is, line feeds and all; but the definition is written
as a document and so has none. Its line is always the last one, and from it the definition can be
read again (`Image.lastLine_of_rejected`). -/

namespace CloudImages

open Json

/-- The lines of a message are those of the cause, and then the definition. -/
theorem ImageError.lines_message {error : ImageError}
    (oneLine : '\n' ∉ error.definition.toList) :
    Text.lines error.message
      = Text.lines ("failed to parse image definition: " ++ error.cause.message)
        ++ [error.definition] := by
  have joined : Text.lines error.message
      = Text.lines ("failed to parse image definition: " ++ error.cause.message)
        ++ Text.lines error.definition := Text.lines_append _ _
  rw [joined, Text.lines_of_notMem oneLine]

namespace Image

variable {definition : Value} {pools : Option (List PoolAssignment)} {error : ImageError}

theorem definition_of_rejected (rejected : ofDefinition definition pools = .error error) :
    error.definition = definition.render := by
  unfold ofDefinition at rejected
  split at rejected
  · exact absurd rejected (by simp)
  · cases rejected
    rfl

/-- What is rejected is found again in the message: the definition stands there as it is written,
without any control character, and behind the last line feed there is nothing else. If the
definition is one that can be read from a text, it is read from that line. -/
theorem lastLine_of_rejected (rejected : ofDefinition definition pools = .error error) :
    error.definition = definition.render ∧
    (∀ c ∈ error.definition.toList, 0x20 ≤ c.toNat) ∧
    error.message = "failed to parse image definition: " ++ error.cause.message ++ "\n"
      ++ error.definition ∧
    (Text.lines error.message).getLast? = some error.definition ∧
    (definition.Writable depthLimit → Value.parse error.definition = .ok definition) := by
  have written := definition_of_rejected rejected
  have printable : Printable error.definition.toList := by
    rw [written]
    exact definition.printable_render
  refine ⟨written, printable, rfl, ?_, ?_⟩
  · rw [ImageError.lines_message printable.lineFeed_notMem, List.getLast?_concat]
  · intro writable
    rw [written, Value.parse_render writable]

/-- A draft with a reserved environment entry of two lines. -/
def twoLines : Draft where
  env := ["DOCKER_CLOUD_A=1\nDOCKER_CLOUD_B=2"]

theorem lastLine_of_rejected_twoLines : ∃ error, ofDefinition twoLines.toValue none = .error error ∧
    error.cause.message
      = "variable starts with reserved prefix: DOCKER_CLOUD_A=1\nDOCKER_CLOUD_B=2" ∧
    (Text.lines error.message).length = 3 ∧
    (Text.lines error.message).getLast? = some twoLines.toValue.render ∧
    Value.parse error.definition = .ok twoLines.toValue := by
  have rejected : ofDefinition twoLines.toValue none = .error
      ⟨twoLines.toValue.render, .reservedEnv "DOCKER_CLOUD_A=1\nDOCKER_CLOUD_B=2"⟩ := rfl
  obtain ⟨-, printable, -, last, read⟩ := lastLine_of_rejected rejected
  refine ⟨_, rejected, rfl, ?_, last, read (twoLines.writable_toValue.mono (by decide))⟩
  rw [ImageError.lines_message (Printable.lineFeed_notMem printable), List.length_append]
  decide

end Image

end CloudImages
