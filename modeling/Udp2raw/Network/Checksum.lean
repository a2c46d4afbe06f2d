import Udp2raw.Data.InternetChecksum
import Udp2raw.Network.Packet

/-!
# Checksums

`csum` and `csum_with_header` give the Internet checksum, also over the pseudo header of version
six, whose length field does not have the standard's layout.
-/
namespace Udp2raw

open OnesComplement (complement complement_stored word wordSum wordSum_append wordSum_le)

variable {v : IpVersion}

/-- The pseudo header of the standard for version six: the length is a number of thirty-two bits in
network order. -/
def standardPseudoHeader (src dst : Ip .ipv6) (nextHeader : UInt8) (length : Nat) : Bytes :=
  src.toList ++ dst.toList ++ BigEndian.encode 4 length ++ [0, 0, 0, nextHeader]

/-- A header of whole words and a segment are summed like one string. -/
theorem csumWithHeader_eq_csum {header : Bytes} (segment : Bytes) (even : header.length % 2 = 0) :
    csumWithHeader header segment = csum (header ++ segment) := by
  rw [csumWithHeader, csum, wordSum_append header segment even]

/-- A string of at most this length cannot overflow two carries. -/
theorem wordSum_bound {data : Bytes} (short : data.length ≤ 131074) :
    wordSum data < 65536 * 65536 := by
  have bound := wordSum_le data
  have words : (data.length + 1) / 2 ≤ 65537 := by omega
  calc
    wordSum data ≤ 65535 * ((data.length + 1) / 2) := bound
    _ ≤ 65535 * 65537 := Nat.mul_le_mul_left _ words
    _ < 65536 * 65536 := by decide

/-- The length of an address. -/
theorem ip_length (ip : Ip v) : ip.toList.length = v.addrLen := ip.length_toList

/-- The length of the pseudo header of version six. -/
theorem pseudoHeader_length (src dst : Ip .ipv6) (nextHeader : UInt8) (length : Nat) :
    (pseudoHeader src dst nextHeader length).length = 40 := by
  simp only [pseudoHeader, List.length_append, BigEndian.encode_length, List.length_cons,
    List.length_nil]
  rw [ip_length src, ip_length dst]
  rfl

/-- The standard's pseudo header is as long. -/
theorem standardPseudoHeader_length (src dst : Ip .ipv6) (nextHeader : UInt8) (length : Nat) :
    (standardPseudoHeader src dst nextHeader length).length = 40 := by
  simp only [standardPseudoHeader, List.length_append, BigEndian.encode_length, List.length_cons,
    List.length_nil]
  rw [ip_length src, ip_length dst]
  rfl

/-- The place of the length word does not matter. -/
theorem wordSum_pseudoHeader (src dst : Ip .ipv6) (nextHeader : UInt8) {length : Nat}
    (fits : length ≤ 65535) (segment : Bytes) :
    wordSum (pseudoHeader src dst nextHeader length ++ segment) =
      wordSum (standardPseudoHeader src dst nextHeader length ++ segment) := by
  have addresses : (src.toList ++ dst.toList).length % 2 = 0 := by
    rw [List.length_append, ip_length, ip_length]
    decide
  have high : length / 256 ^ 3 = 0 := by omega
  have middle : length / 256 ^ 2 = 0 := by omega
  simp only [pseudoHeader, standardPseudoHeader, List.append_assoc]
  rw [← List.append_assoc src.toList, ← List.append_assoc src.toList,
    wordSum_append _ _ addresses, wordSum_append _ _ addresses]
  simp only [BigEndian.encode, high, middle, List.cons_append, List.nil_append, wordSum]
  simp only [UInt8.toNat_ofNat', UInt8.toNat_zero]
  omega

/-- The checksum of a segment under a header of whole words is the one of the two together and the
Internet checksum, the pseudo header of version six counts as the standard's, and a segment that
stores its checksum in a field that was zero checks. The header may be far longer than any pseudo
header. -/
theorem csumWithHeader_exact (header segment : Bytes) (even : header.length % 2 = 0)
    (short : header.length ≤ 65535) (fits : segment.length ≤ 65535) :
    csumWithHeader header segment = csum (header ++ segment) ∧
      word (csumWithHeader header segment) =
        BigEndian.encode 2 (InternetChecksum.checksum (header ++ segment)) ∧
      (∀ src dst nextHeader,
        word (csumWithHeader (pseudoHeader src dst nextHeader segment.length) segment) =
          BigEndian.encode 2 (InternetChecksum.checksum
            (standardPseudoHeader src dst nextHeader segment.length ++ segment))) ∧
      ∀ before after, before.length % 2 = 0 → segment = before ++ word 0 ++ after →
        csumWithHeader header (before ++ word (csumWithHeader header segment) ++ after) = 0 := by
  have joined := csumWithHeader_eq_csum segment even
  refine ⟨joined, ?_, fun src dst nextHeader => ?_, fun before after place zero => ?_⟩
  · have whole : (header ++ segment).length ≤ 131074 := by
      rw [List.length_append]
      omega
    rw [joined, csum, InternetChecksum.word_complement (wordSum_bound whole)]
  · have words : (pseudoHeader src dst nextHeader segment.length).length % 2 = 0 := by
      rw [pseudoHeader_length]
    have whole : (standardPseudoHeader src dst nextHeader segment.length ++ segment).length ≤
        131074 := by
      rw [List.length_append, standardPseudoHeader_length]
      omega
    rw [csumWithHeader_eq_csum segment words, csum,
      wordSum_pseudoHeader src dst nextHeader fits segment,
      InternetChecksum.word_complement (wordSum_bound whole)]
  · have bound : wordSum header + wordSum (before ++ word 0 ++ after) + 65536 < 65536 * 65536 := by
      have first := wordSum_le header
      have second := wordSum_le segment
      rw [← zero]
      omega
    have stored := complement_stored (wordSum header) before after place bound
    rw [csumWithHeader, csumWithHeader, zero]
    exact stored

/-- A segment of odd length under a pseudo header stores its checksum and checks. -/
theorem csumWithHeader_exact_odd :
    csumWithHeader [10, 0, 0, 1, 10, 0, 0, 2, 0, 6, 0, 7]
      ([0xff, 0xfe] ++ word (csumWithHeader [10, 0, 0, 1, 10, 0, 0, 2, 0, 6, 0, 7]
        ([0xff, 0xfe] ++ word 0 ++ [1, 2, 3])) ++ [1, 2, 3]) = 0 :=
  (csumWithHeader_exact [10, 0, 0, 1, 10, 0, 0, 2, 0, 6, 0, 7] ([0xff, 0xfe] ++ word 0 ++ [1, 2, 3])
    (by decide) (by decide) (by decide)).2.2.2 [0xff, 0xfe] [1, 2, 3] (by decide) rfl

end Udp2raw
