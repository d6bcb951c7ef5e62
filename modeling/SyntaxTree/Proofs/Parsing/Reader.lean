import SyntaxTree.Proofs.Parsing.Decoding

/-!
# Ways into the parser

A text, its octets and any chunks in which these octets arrive are parsed alike.
Chunks may be cut inside a character, be empty or be interrupted, as octets are
decoded only when all of them are there.
-/

namespace SyntaxTree

open Log
open String (utf8EncodeChar)

namespace Chunk

/-- The octets that arrive with a chunk. -/
def content : Chunk → List UInt8
  | .octets content => content
  | .interrupted => []
  | .failed _ => []

/-- Chunks that can all be read. -/
def Unfailing (chunks : List Chunk) : Prop :=
  ∀ message, .failed message ∉ chunks

/-- Reading chunks joins what arrives until one of them fails. -/
theorem readAll_append
    {chunks : List Chunk}
    (unfailing : Unfailing chunks)
    (following : List Chunk) :
    readAll (chunks ++ following) =
      (readAll following).map (chunks.flatMap content ++ ·) := by
  induction chunks with
  | nil =>
      rw [List.nil_append]
      cases readAll following <;> rfl
  | cons chunk chunks inductionHypothesis =>
      have rest := inductionHypothesis fun message member =>
        unfailing message (List.mem_cons_of_mem chunk member)
      cases chunk with
      | octets content =>
          rw [List.cons_append, readAll, rest]
          cases readAll following with
          | error message => rfl
          | ok octets => simp [Except.map, Chunk.content]
      | interrupted =>
          rw [List.cons_append, readAll, rest]
          rfl
      | failed message => exact absurd List.mem_cons_self (unfailing message)

end Chunk

namespace TokenLines

open Text.Utf8 hiding decode

theorem pieceDiagnostics_characters (before : List UInt8) (characters : List Char) :
    pieceDiagnostics before (characters.map .character) = [] := by
  induction characters generalizing before with
  | nil => rfl
  | cons character characters inductionHypothesis => exact inductionHypothesis _

/-- A text is parsed like its encoding. -/
theorem parseOctets_toUTF8 (source : String) :
    parseOctets source.toUTF8.data.toList = parseSource source := by
  have same : (source.toList.map Piece.character).map pieceText = source.toList := by
    rw [List.map_map]
    exact List.map_id _
  rw [toList_toUTF8, (parseOctets_of_cut (cut_characters source.toList)).2.2,
    pieceDiagnostics_characters, same]
  rfl

/-- Chunks that can be read are parsed like the octets that they bring, and like a
text if these octets are its encoding.  A chunk that cannot be read stops the parser,
whatever was read before and would follow. -/
theorem parser_eq_parseOctets
    (source : String)
    {chunks : List Chunk}
    (unfailing : Chunk.Unfailing chunks) :
    parseOctets source.toUTF8.data.toList = parseSource source ∧
      parser chunks =
        ⟨.ok (parseOctets (chunks.flatMap Chunk.content)).value,
          (parseOctets (chunks.flatMap Chunk.content)).events⟩ ∧
      (chunks.flatMap Chunk.content = source.toUTF8.data.toList →
        parser chunks = ⟨.ok (parseSource source).value, (parseSource source).events⟩) ∧
      ∀ message following,
        parser (chunks ++ .failed message :: following) = ⟨.error (.unreadable message), []⟩ := by
  have read : Chunk.readAll chunks = .ok (chunks.flatMap Chunk.content) := by
    have appended := Chunk.readAll_append unfailing []
    rw [List.append_nil] at appended
    rw [appended, Chunk.readAll, Except.map, List.append_nil]
  have joined : parser chunks =
      ⟨.ok (parseOctets (chunks.flatMap Chunk.content)).value,
        (parseOctets (chunks.flatMap Chunk.content)).events⟩ := by
    rw [parser, read]
  refine ⟨parseOctets_toUTF8 source, joined, fun encoded => ?text, fun message following => ?failed⟩
  case text => rw [joined, encoded, parseOctets_toUTF8]
  case failed =>
    rw [parser, Chunk.readAll_append unfailing]
    rfl

/-- Both octets of one character arrive apart. -/
theorem parser_eq_parseOctets_cutInside :
    let chunks : List Chunk := [.octets [0x61, 0xc3], .interrupted, .octets [], .octets [0xa9]]
    Chunk.Unfailing chunks ∧
      chunks.flatMap Chunk.content = "aé".toUTF8.data.toList ∧
      parser chunks = ⟨.ok (parseSource "aé").value, (parseSource "aé").events⟩ ∧
      parser (chunks ++ [.failed "gone", .octets [0x62]]) = ⟨.error (.unreadable "gone"), []⟩ := by
  intro chunks
  have unfailing : Chunk.Unfailing chunks := by simp [Chunk.Unfailing, chunks]
  have encoded : chunks.flatMap Chunk.content = "aé".toUTF8.data.toList := by decide
  obtain ⟨-, -, text, failed⟩ := parser_eq_parseOctets "aé" unfailing
  exact ⟨unfailing, encoded, text encoded, failed "gone" [.octets [0x62]]⟩

end TokenLines
end SyntaxTree
