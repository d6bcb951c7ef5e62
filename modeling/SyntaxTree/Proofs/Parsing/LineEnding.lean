import SyntaxTree.Proofs.Parsing.Seam
import SyntaxTree.Proofs.Scan.LineEnding

/-!
# Parsing with either line ending

Octets are parsed the same whether their lines end with a newline or with a
carriage return and a newline: tokens, errors and ill-formed octets stand on the
same lines and in the same columns.
-/

namespace SyntaxTree
namespace TokenLines

open Source Text

theorem found_segments_insertBefore
    {choose : Reading → Option β}
    (ignored : choose .trivia = none)
    (octets : List UInt8) :
    Segment.found choose (segments (insertBefore 0x0d 0x0a octets)) =
      Segment.found choose (segments octets) := by
  unfold segments
  rw [decode_insertBefore, DecodedText.withReturns, List.toList_toArray]
  exact Segment.found_scanFrom_insertBefore ignored .start _

/-- Reports on octets stay the same with a carriage return before every
newline. -/
theorem decodingDiagnostics_insertBefore (octets : List UInt8) :
    decodingDiagnostics (insertBefore 0x0d 0x0a octets) = decodingDiagnostics octets := by
  unfold decodingDiagnostics
  rw [decode_insertBefore]
  rfl

/-- With a carriage return before every newline, octets have the same tokens
and errors at the same lines and columns, the same tree and the same
diagnostics in the same order. -/
theorem parseOctets_insertReturns (octets : List UInt8) :
    tokens (Segment.scan (decode (insertBefore 0x0d 0x0a octets)).characters.toList) =
        tokens (Segment.scan (decode octets).characters.toList) ∧
      errors (Segment.scan (decode (insertBefore 0x0d 0x0a octets)).characters.toList) =
        errors (Segment.scan (decode octets).characters.toList) ∧
      (parseOctets (insertBefore 0x0d 0x0a octets)).value = (parseOctets octets).value := by
  have sameTokens :
      tokens (segments (insertBefore 0x0d 0x0a octets)) = tokens (segments octets) :=
    found_segments_insertBefore rfl octets
  have sameErrors :
      errors (segments (insertBefore 0x0d 0x0a octets)) = errors (segments octets) :=
    found_segments_insertBefore rfl octets
  refine ⟨sameTokens, sameErrors, ?_⟩
  rw [parseOctets_value, parseOctets_value, sameTokens, decodingDiagnostics_insertBefore,
    scanningDiagnostics, sameErrors, scanningDiagnostics]

end TokenLines
end SyntaxTree
