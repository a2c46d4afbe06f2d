import Udp2raw.Connection.Effects

/-!
# What a message says

Each field of a message is read back from its bytes, and the byte behind the first sixteen
tells the two formats apart: a bare message has its mark there and a safer one its type.
-/
namespace Udp2raw

/-- An identifier at the start of a string. -/
theorem idAt_encode (number : UInt32) (rest : Bytes) :
    idAt (BigEndian.encode 4 number.toNat ++ rest) 0 = number := by
  have front : (BigEndian.encode 4 number.toNat ++ rest).take 4 =
      BigEndian.encode 4 number.toNat := by
    rw [List.take_append_of_le_length (by simp), List.take_of_length_le (by simp)]
  rw [idAt, List.drop_zero, front, BigEndian.decode_encode_of_lt number.toNat_lt,
    UInt32.ofNat_toNat]

/-- An identifier behind other bytes. -/
theorem idAt_append (front rest : Bytes) (offset : Nat) :
    idAt (front ++ rest) (front.length + offset) = idAt rest offset := by
  rw [idAt, idAt, List.drop_length_add_append]

/-- An identifier in the first bytes of a string. -/
theorem idAt_take (data : Bytes) {offset length : Nat} (inside : offset + 4 ≤ length) :
    idAt (data.take length) offset = idAt data offset := by
  rw [idAt, idAt, List.drop_take, List.take_take, Nat.min_eq_left (by omega)]

/-- The three numbers of a handshake are read back. -/
theorem idAt_numbersToChar (id1 id2 id3 : UInt32) :
    idAt (numbersToChar id1 id2 id3) 0 = id1 ∧ idAt (numbersToChar id1 id2 id3) 4 = id2 ∧
      idAt (numbersToChar id1 id2 id3) 8 = id3 := by
  have second := idAt_append (BigEndian.encode 4 id1.toNat)
    (BigEndian.encode 4 id2.toNat ++ BigEndian.encode 4 id3.toNat) 0
  have third := idAt_append (BigEndian.encode 4 id1.toNat ++ BigEndian.encode 4 id2.toNat)
    (BigEndian.encode 4 id3.toNat ++ []) 0
  rw [idAt_encode] at second third
  simp only [List.length_append, BigEndian.encode_length, List.append_nil,
    List.append_assoc] at second third
  refine ⟨?_, ?_, ?_⟩
  · rw [numbersToChar, List.append_assoc]
    exact idAt_encode _ _
  · rw [numbersToChar, List.append_assoc]
    exact second
  · rw [numbersToChar, List.append_assoc]
    exact third

/-- A bare message carries its mark and its data. -/
theorem bareContent_iff (iv padding : UInt64) (sent data : Bytes) :
    BareContent (bareMessage iv padding sent) data ↔ data = sent := by
  have front : (memoryBytes iv ++ memoryBytes padding).length = 16 := by simp [memoryBytes]
  have behind : (bareMessage iv padding sent).drop 17 = sent := by
    rw [bareMessage, show 17 = (memoryBytes iv ++ memoryBytes padding).length + 1 by rw [front],
      List.drop_length_add_append]
    rfl
  constructor
  · intro content
    rw [content.data, behind]
  · rintro rfl
    refine ⟨?_, behind.symm⟩
    rw [bareMessage, List.getElem?_append_right (by omega), front]
    rfl

/-- The header of a safer message. -/
theorem saferMessage_take (myId oppsiteId : UInt32) (seq : UInt64) (type roller : UInt8)
    (data : Bytes) :
    (saferMessage myId oppsiteId seq type roller data).take 16 =
      BigEndian.encode 4 myId.toNat ++ BigEndian.encode 4 oppsiteId.toNat ++
        BigEndian.encode 8 seq.toNat := by
  rw [saferMessage, List.take_append_of_le_length (by simp), List.take_of_length_le (by simp)]

/-- Behind the header of a safer message. -/
theorem saferMessage_drop (myId oppsiteId : UInt32) (seq : UInt64) (type roller : UInt8)
    (data : Bytes) :
    (saferMessage myId oppsiteId seq type roller data).drop 16 = type :: roller :: data := by
  rw [saferMessage, show 16 = (BigEndian.encode 4 myId.toNat ++
    BigEndian.encode 4 oppsiteId.toNat ++ BigEndian.encode 8 seq.toNat).length by simp,
    List.drop_left]

/-- The identifiers of a safer message are read back. -/
theorem idAt_saferMessage (myId oppsiteId : UInt32) (seq : UInt64) (type roller : UInt8)
    (data : Bytes) :
    idAt (saferMessage myId oppsiteId seq type roller data) 0 = myId ∧
      idAt (saferMessage myId oppsiteId seq type roller data) 4 = oppsiteId := by
  have second := idAt_append (BigEndian.encode 4 myId.toNat) (BigEndian.encode 4 oppsiteId.toNat ++
    (BigEndian.encode 8 seq.toNat ++ type :: roller :: data)) 0
  rw [idAt_encode] at second
  simp only [BigEndian.encode_length] at second
  simp only [saferMessage, List.append_assoc]
  exact ⟨idAt_encode _ _, second⟩

/-- The number of a safer message is read back. -/
theorem seq_saferMessage (myId oppsiteId : UInt32) (seq : UInt64) (type roller : UInt8)
    (data : Bytes) :
    UInt64.ofNat (BigEndian.decode (((saferMessage myId oppsiteId seq type roller data).take
      16).drop 8)) = seq := by
  rw [saferMessage_take, show 8 = (BigEndian.encode 4 myId.toNat ++
    BigEndian.encode 4 oppsiteId.toNat).length by simp, List.drop_left]
  simp only [List.length_append, BigEndian.encode_length]
  rw [BigEndian.decode_encode_of_lt seq.toNat_lt, UInt64.ofNat_toNat]

/-- The type of a safer message is behind its header. -/
theorem type_saferMessage (myId oppsiteId : UInt32) (seq : UInt64) (type roller : UInt8)
    (data : Bytes) : (saferMessage myId oppsiteId seq type roller data)[16]? = some type := by
  rw [← List.head?_drop, saferMessage_drop]
  rfl

/-- The data of a safer message is at its end. -/
theorem data_saferMessage (myId oppsiteId : UInt32) (seq : UInt64) (type roller : UInt8)
    (data : Bytes) : (saferMessage myId oppsiteId seq type roller data).drop 18 = data := by
  rw [show 18 = 16 + 2 from rfl, ← List.drop_drop, saferMessage_drop]
  rfl

/-- A receiver reads a safer message as its sender wrote it. -/
theorem SaferContent.of_message {myId oppsiteId here there : UInt32} {seq : UInt64}
    {type roller : UInt8} {data : Bytes} {frame : Frame}
    (content : SaferContent (saferMessage myId oppsiteId seq type roller data) here there frame) :
    there = myId ∧ here = oppsiteId ∧ frame = ⟨seq, type, data⟩ := by
  obtain ⟨first, second⟩ := idAt_saferMessage myId oppsiteId seq type roller data
  have sameSeq := content.seq
  have sameType := content.type
  have sameData := content.data
  rw [seq_saferMessage] at sameSeq
  rw [type_saferMessage] at sameType
  rw [data_saferMessage] at sameData
  refine ⟨content.oppsiteId.symm.trans first, content.myId.symm.trans second, ?_⟩
  cases frame
  simp only [Option.some.injEq] at sameSeq sameType sameData
  rw [sameSeq, sameType, sameData]

/-- A bare message is no safer message. -/
theorem saferContent_bareMessage (iv padding : UInt64) (data : Bytes) (here there : UInt32)
    (frame : Frame) : ¬SaferContent (bareMessage iv padding data) here there frame := by
  intro content
  have mark := ((bareContent_iff iv padding data data).mpr rfl).mark
  have type := content.type
  rw [mark] at type
  rcases content.known with known | known <;> rw [known] at type <;> exact absurd type (by decide)

/-- A safer message of a good type is no bare message. -/
theorem bareContent_saferMessage {myId oppsiteId : UInt32} {seq : UInt64} {type roller : UInt8}
    {sent data : Bytes} (known : type = typeHeartbeat ∨ type = typeData) :
    ¬BareContent (saferMessage myId oppsiteId seq type roller sent) data := by
  intro content
  have mark := content.mark
  rw [type_saferMessage] at mark
  rcases known with rfl | rfl <;> exact absurd mark (by decide)

end Udp2raw
