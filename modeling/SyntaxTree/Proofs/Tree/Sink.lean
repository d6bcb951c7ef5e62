import SyntaxTree.Tree.Dump

/-!
# Writing to a sink

A sink takes octets as long as there is room.  Writing in pieces comes to the same
as writing everything at once, whether the sink has room for all pieces or not.
-/

namespace SyntaxTree
namespace Sink

/-! ## Octets -/

/-- Whether a sink takes some octets completely. -/
def HasRoom (sink : Sink) (octets : ByteArray) : Prop :=
  ∀ limit ∈ sink.limit, octets.size ≤ limit - sink.stored.size

theorem hasRoom_iff
    {sink : Sink}
    {octets : ByteArray}
    {limit : Nat}
    (isLimit : sink.limit = some limit) :
    sink.HasRoom octets ↔ octets.size ≤ limit - sink.stored.size := by
  simp [HasRoom, isLimit]

theorem hasRoom_of_unlimited
    {sink : Sink}
    (unlimited : sink.limit = none)
    (octets : ByteArray) :
    sink.HasRoom octets := by
  simp [HasRoom, unlimited]

theorem write_of_hasRoom
    {sink : Sink}
    {octets : ByteArray}
    (hasRoom : sink.HasRoom octets) :
    sink.write octets = ({ sink with stored := sink.stored ++ octets }, .ok ()) := by
  unfold write
  split
  · rfl
  · rename_i limit isLimit
    exact if_pos (hasRoom limit isLimit)

theorem write_of_tooLong
    {sink : Sink}
    {octets : ByteArray}
    {limit : Nat}
    (isLimit : sink.limit = some limit)
    (tooLong : limit - sink.stored.size < octets.size) :
    sink.write octets =
      ({ sink with stored := sink.stored ++ octets.extract 0 (limit - sink.stored.size) },
        .error .full) := by
  rw [write, isLimit]
  exact if_neg (Nat.not_le.mpr tooLong)

/-- The front of two pieces is the front of the first one, and of the second one as
far as the first one leaves room. -/
theorem extract_append_room (first second : ByteArray) (room : Nat) :
    (first ++ second).extract 0 room =
      first.extract 0 room ++ second.extract 0 (room - first.size) := by
  rw [ByteArray.extract_append, Nat.zero_sub]

theorem extract_of_size_le
    {octets : ByteArray}
    {room : Nat}
    (fits : octets.size ≤ room) :
    octets.extract 0 room = octets := by
  rw [← Nat.max_eq_left fits, ByteArray.extract_zero_max_size]

/-- Octets may be written in pieces: a failure of the first piece is that of the
whole, and the second piece finds the room that the first one left. -/
theorem write_append (sink : Sink) (first second : ByteArray) :
    sink.write (first ++ second) =
      match sink.write first with
      | (sink, .ok ()) => sink.write second
      | (sink, .error cause) => (sink, .error cause) := by
  obtain ⟨stored, limit, flushFails⟩ := sink
  cases limit with
  | none => simp [write, ByteArray.append_assoc]
  | some limit =>
      have sizes : (first ++ second).size = first.size + second.size := ByteArray.size_append
      have room : limit - (stored ++ first).size = limit - stored.size - first.size := by
        rw [ByteArray.size_append, Nat.sub_add_eq]
      by_cases firstFits : first.size ≤ limit - stored.size
      · have hasRoom : HasRoom ⟨stored, some limit, flushFails⟩ first :=
          (hasRoom_iff rfl).mpr firstFits
        rw [write_of_hasRoom hasRoom]
        dsimp only
        by_cases secondFits : second.size ≤ limit - stored.size - first.size
        · have bothFit : (first ++ second).size ≤ limit - stored.size := by omega
          rw [← room] at secondFits
          rw [write_of_hasRoom ((hasRoom_iff rfl).mpr bothFit),
            write_of_hasRoom ((hasRoom_iff rfl).mpr secondFits), ByteArray.append_assoc]
        · have tooLong : limit - stored.size < (first ++ second).size := by omega
          rw [← room, Nat.not_le] at secondFits
          rw [write_of_tooLong rfl tooLong, write_of_tooLong rfl secondFits]
          dsimp only
          rw [room, extract_append_room, extract_of_size_le firstFits, ByteArray.append_assoc]
      · have tooLong : limit - stored.size < (first ++ second).size := by omega
        have noneLeft : limit - stored.size - first.size = 0 := by omega
        rw [write_of_tooLong rfl tooLong, write_of_tooLong rfl (Nat.not_le.mp firstFits)]
        dsimp only
        rw [extract_append_room, noneLeft, ByteArray.extract_same, ByteArray.append_empty]

/-! ## Texts -/

/-- The sink with some more text in it. -/
def append (sink : Sink) (text : String) : Sink :=
  { sink with stored := sink.stored ++ text.toUTF8 }

/-- Writes a text; a sink that is full fails the dump. -/
def writeText (sink : Sink) (text : String) : Sink × Except TreeError Unit :=
  match sink.write text.toUTF8 with
  | (sink, .ok ()) => (sink, .ok ())
  | (sink, .error cause) => (sink, .error (.write cause))

theorem writeText_of_hasRoom
    {sink : Sink}
    {text : String}
    (hasRoom : sink.HasRoom text.toUTF8) :
    sink.writeText text = (sink.append text, .ok ()) := by
  rw [writeText, write_of_hasRoom hasRoom]
  rfl

theorem writeText_of_tooLong
    {sink : Sink}
    {text : String}
    {limit : Nat}
    (isLimit : sink.limit = some limit)
    (tooLong : limit - sink.stored.size < text.toUTF8.size) :
    sink.writeText text =
      ({ sink with stored := sink.stored ++ text.toUTF8.extract 0 (limit - sink.stored.size) },
        .error (.write .full)) := by
  rw [writeText, write_of_tooLong isLimit tooLong]

/-- The empty text fits into every sink, also into a full one. -/
@[simp] theorem writeText_empty (sink : Sink) : sink.writeText "" = (sink, .ok ()) := by
  have hasRoom : sink.HasRoom "".toUTF8 := fun limit _ => Nat.zero_le _
  rw [writeText_of_hasRoom hasRoom]
  simp [append]

/-- A text may be written in pieces. -/
theorem writeText_append (sink : Sink) (first second : String) :
    sink.writeText (first ++ second) =
      match sink.writeText first with
      | (sink, .ok ()) => sink.writeText second
      | (sink, .error error) => (sink, .error error) := by
  simp only [writeText, String.toUTF8_eq_toByteArray, String.toByteArray_append, write_append]
  rcases sink.write first.toByteArray with ⟨written, failure | taken⟩ <;> rfl

end Sink
end SyntaxTree
