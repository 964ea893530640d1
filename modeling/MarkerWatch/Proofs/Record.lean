import Mathlib.Algebra.Group.Int.Defs
import Mathlib.Algebra.Group.Nat.Defs
import MarkerWatch.Record.Decoder

/-!
# The format of records

A packet is a record together with its name, as the two stand in a buffer.  Every buffer splits in
exactly one way into packets and a rest that does not start with a packet, and decoding yields the
records of the packets and then, unless the rest is empty, one fault that says what is wrong with
the rest.

The two directions are `front_bytes_append` and `exists_packet_of_front`: the front of a buffer is a
record exactly when the buffer starts with a packet of that record.
-/

namespace MarkerWatch

/-- A record with its name, the length of which is bounded. -/
structure Packet where
  watch : BitVec 32
  mask : BitVec 32
  cookie : BitVec 32
  name : List UInt8
  bounded : name.length ≤ Record.longestName

namespace Packet

/-- The bytes of a packet: a header of four little-endian words, and the name. -/
def bytes (packet : Packet) : List UInt8 :=
  Record.wordBytes packet.watch.toNat ++ Record.wordBytes packet.mask.toNat ++
    Record.wordBytes packet.cookie.toNat ++ Record.wordBytes packet.name.length ++ packet.name

/-- The record of a packet. -/
def record (packet : Packet) : Record :=
  ⟨⟨packet.watch.toInt⟩, ⟨packet.mask⟩, packet.cookie, packet.name.length⟩

/-- A buffer consists of packets and a rest that does not start with a packet. -/
structure Splits (buffer : List UInt8) (packets : List Packet) (rest : List UInt8) : Prop where
  joined : buffer = packets.flatMap bytes ++ rest
  exhausted : ∀ (packet : Packet) (tail : List UInt8), rest ≠ packet.bytes ++ tail

/-- What is wrong with a rest that does not start with a packet, unless it is empty. -/
def fault? (rest : List UInt8) : Option RecordFault :=
  if rest.isEmpty then none
  else if rest.length < Record.headerLength then some (.truncatedHeader rest.length)
  else if Record.longestName < Record.word (rest.drop 12) then
    some (.oversizedName (Record.word (rest.drop 12)))
  else
    some (.truncatedName (rest.length - Record.headerLength) (Record.word (rest.drop 12)))

/-- What packets and a rest are decoded to. -/
def items (packets : List Packet) (rest : List UInt8) : List (Except RecordFault Record) :=
  packets.map (.ok ·.record) ++ (fault? rest).toList.map .error

end Packet

/-! ## Words -/

namespace Record

@[simp]
theorem length_wordBytes (number : Nat) : (wordBytes number).length = 4 :=
  rfl

theorem word_wordBytes_append
    {number : Nat}
    (bounded : number < 2 ^ 32)
    (tail : List UInt8) :
    word (wordBytes number ++ tail) = number := by
  simp only [wordBytes, List.cons_append, word, UInt8.toNat_ofNat']
  omega

theorem wordBytes_word (a b c d : UInt8) (tail : List UInt8) :
    wordBytes (word (a :: b :: c :: d :: tail)) = [a, b, c, d] := by
  have boundA := a.toNat_lt
  have boundB := b.toNat_lt
  have boundC := c.toNat_lt
  have boundD := d.toNat_lt
  simp only [wordBytes, word, List.cons.injEq, and_true]
  refine ⟨?_, ?_, ?_, ?_⟩ <;>
    · apply UInt8.toNat_inj.mp
      rw [UInt8.toNat_ofNat']
      omega

theorem word_lt (bytes : List UInt8) : word bytes < 2 ^ 32 := by
  match bytes with
  | a :: b :: c :: d :: tail =>
      have boundA := a.toNat_lt
      have boundB := b.toNat_lt
      have boundC := c.toNat_lt
      have boundD := d.toNat_lt
      simp only [word]
      omega
  | [] | [_] | [_, _] | [_, _, _] => simp [word]

/-- The first four bytes of a buffer are those of their number. -/
theorem wordBytes_word_append_drop
    (bytes : List UInt8)
    (enough : 4 ≤ bytes.length) :
    wordBytes (word bytes) ++ bytes.drop 4 = bytes := by
  match bytes with
  | a :: b :: c :: d :: tail =>
      rw [wordBytes_word]
      rfl
  | [] | [_] | [_, _] | [_, _, _] => simp at enough

/-- The words of a header can be read off the bytes of a packet. -/
theorem word_drop_bytes
    (packet : Packet) (tail : List UInt8) :
    word (packet.bytes ++ tail) = packet.watch.toNat ∧
      word ((packet.bytes ++ tail).drop 4) = packet.mask.toNat ∧
      word ((packet.bytes ++ tail).drop 8) = packet.cookie.toNat ∧
      word ((packet.bytes ++ tail).drop 12) = packet.name.length := by
  have lengthBound : packet.name.length < 2 ^ 32 :=
    Nat.lt_of_le_of_lt packet.bounded (by decide)
  simp only [Packet.bytes, List.append_assoc]
  refine ⟨?_, ?_, ?_, ?_⟩
  · exact word_wordBytes_append packet.watch.isLt _
  · exact word_wordBytes_append packet.mask.isLt _
  · exact word_wordBytes_append packet.cookie.isLt _
  · exact word_wordBytes_append lengthBound _

end Record

namespace Packet

theorem length_bytes (packet : Packet) :
    packet.bytes.length = Record.headerLength + packet.name.length := by
  simp [bytes, Record.headerLength]
  omega

theorem bytes_ne_nil (packet : Packet) : packet.bytes ≠ [] := by
  intro empty
  have length := packet.length_bytes
  rw [empty, Record.headerLength, List.length_nil] at length
  omega

@[simp]
theorem length_record (packet : Packet) : packet.record.length = packet.bytes.length := by
  rw [length_bytes]
  rfl

/-- Packets at the front of one buffer are the same packet. -/
theorem eq_of_bytes_append_eq
    {left right : Packet} {leftTail rightTail : List UInt8}
    (equal : left.bytes ++ leftTail = right.bytes ++ rightTail) :
    left = right ∧ leftTail = rightTail := by
  obtain ⟨leftWatch, leftMask, leftCookie, leftLength⟩ := Record.word_drop_bytes left leftTail
  obtain ⟨rightWatch, rightMask, rightCookie, rightLength⟩ := Record.word_drop_bytes right rightTail
  rw [equal] at leftWatch leftMask leftCookie leftLength
  have sameWatch : left.watch = right.watch :=
    BitVec.eq_of_toNat_eq (leftWatch.symm.trans rightWatch)
  have sameMask : left.mask = right.mask :=
    BitVec.eq_of_toNat_eq (leftMask.symm.trans rightMask)
  have sameCookie : left.cookie = right.cookie :=
    BitVec.eq_of_toNat_eq (leftCookie.symm.trans rightCookie)
  have sameSize : left.name.length = right.name.length :=
    leftLength.symm.trans rightLength
  have sameLength : left.bytes.length = right.bytes.length := by
    rw [length_bytes, length_bytes, sameSize]
  obtain ⟨sameBytes, sameTail⟩ := List.append_inj equal sameLength
  have sameName : left.name = right.name := by
    simpa [bytes, sameWatch, sameMask, sameCookie, sameSize] using sameBytes
  refine ⟨?_, sameTail⟩
  cases left
  cases right
  simp_all

end Packet

/-! ## The front of a buffer -/

namespace Record

theorem front_bytes_append
    (packet : Packet) (tail : List UInt8) :
    front (packet.bytes ++ tail) = .ok packet.record := by
  obtain ⟨watch, mask, cookie, length⟩ := word_drop_bytes packet tail
  have size := packet.length_bytes
  have headed : ¬ (packet.bytes ++ tail).length < headerLength := by
    rw [List.length_append]
    omega
  have whole : ¬ (packet.bytes ++ tail).length < headerLength + packet.name.length := by
    rw [List.length_append]
    omega
  rw [front, if_neg headed]
  simp only [watch, mask, cookie, length]
  rw [if_neg (Nat.not_lt.mpr packet.bounded), if_neg whole]
  simp [Packet.record, Mask.ofNat]

/-- A buffer with a record at its front starts with a packet of that record, as the four words of
the header and the name come off one after another. -/
theorem exists_packet_of_front
    {buffer : List UInt8} {record : Record}
    (found : front buffer = .ok record) :
    ∃ (packet : Packet) (tail : List UInt8),
      buffer = packet.bytes ++ tail ∧ packet.record = record := by
  rw [front] at found
  split at found
  · contradiction
  rename_i headed
  rw [headerLength, Nat.not_lt] at headed
  dsimp only at found
  split at found
  · contradiction
  rename_i bounded
  split at found
  · contradiction
  rename_i whole
  let nameLength := word (buffer.drop 12)
  have nameFits : nameLength ≤ (buffer.drop 16).length := by
    rw [List.length_drop]
    simp only [headerLength] at whole
    omega
  have nameSize : ((buffer.drop 16).take nameLength).length = nameLength := by
    rw [List.length_take]
    exact Nat.min_eq_left nameFits
  let packet : Packet :=
    { watch := BitVec.ofNat 32 (word buffer)
      mask := BitVec.ofNat 32 (word (buffer.drop 4))
      cookie := BitVec.ofNat 32 (word (buffer.drop 8))
      name := (buffer.drop 16).take nameLength
      bounded := by
        rw [nameSize]
        exact Nat.not_lt.mp bounded }
  refine ⟨packet, (buffer.drop 16).drop nameLength, ?_, ?_⟩
  · have first := wordBytes_word_append_drop buffer (by omega)
    have second := wordBytes_word_append_drop (buffer.drop 4) (by simp; omega)
    have third := wordBytes_word_append_drop (buffer.drop 8) (by simp; omega)
    have fourth := wordBytes_word_append_drop (buffer.drop 12) (by simp; omega)
    rw [List.drop_drop] at second third fourth
    have name := List.take_append_drop nameLength (buffer.drop 16)
    simp only [Packet.bytes, packet, nameSize, BitVec.toNat_ofNat, List.append_assoc,
      Nat.mod_eq_of_lt (word_lt _)]
    rw [name, fourth, third, second, first]
  · have equal := Except.ok.inj found
    rw [← equal]
    simp [packet, Packet.record, Mask.ofNat, nameSize, nameLength]

/-- A buffer that does not start with a packet has a fault at its front, unless it is empty. -/
theorem fault?_of_front
    {buffer : List UInt8} {fault : RecordFault}
    (nonempty : buffer ≠ [])
    (found : front buffer = .error fault) :
    Packet.fault? buffer = some fault := by
  have notEmpty : buffer.isEmpty = false := by simpa using nonempty
  rw [front] at found
  rw [Packet.fault?, notEmpty, if_neg Bool.false_ne_true]
  split at found
  · rename_i short
    rw [if_pos short, Except.error.inj found]
  rename_i headed
  rw [if_neg headed]
  dsimp only at found
  split at found
  · rename_i oversized
    rw [if_pos oversized, Except.error.inj found]
  rename_i bounded
  rw [if_neg bounded]
  split at found
  · rw [Except.error.inj found]
  · contradiction

/-! ## Whole buffers -/

theorem decode_of_front_ok
    {buffer : List UInt8} {record : Record}
    (nonempty : buffer ≠ [])
    (found : front buffer = .ok record) :
    decode buffer = .ok record :: decode (buffer.drop record.length) := by
  cases buffer with
  | nil => contradiction
  | cons byte rest =>
      have positive : record.length = record.length - 1 + 1 := by
        simp only [length, headerLength]
        omega
      rw [decode, decodeFrom, found]
      dsimp only
      rw [decodeFrom_eq, positive, List.drop_succ_cons]
      simp

theorem decode_of_front_error
    {buffer : List UInt8} {fault : RecordFault}
    (nonempty : buffer ≠ [])
    (found : front buffer = .error fault) :
    decode buffer = [.error fault] := by
  cases buffer with
  | nil => contradiction
  | cons byte rest => rw [decode, decodeFrom, found]

theorem decode_bytes_append
    (packet : Packet) (tail : List UInt8) :
    decode (packet.bytes ++ tail) = .ok packet.record :: decode tail := by
  have nonempty : packet.bytes ++ tail ≠ [] :=
    List.append_ne_nil_of_left_ne_nil packet.bytes_ne_nil tail
  rw [decode_of_front_ok nonempty (front_bytes_append packet tail), Packet.length_record,
    List.drop_left]

end Record

namespace Packet

/-- Decoding yields the records of the packets and then what is wrong with the rest. -/
theorem Splits.decode_eq
    {buffer : List UInt8} {packets : List Packet} {rest : List UInt8}
    (splits : Splits buffer packets rest) :
    Record.decode buffer = items packets rest := by
  obtain ⟨rfl, exhausted⟩ := splits
  induction packets with
  | nil =>
      change Record.decode rest = (fault? rest).toList.map .error
      by_cases empty : rest = []
      · rw [empty]
        rfl
      · cases found : Record.front rest with
        | ok record =>
            obtain ⟨packet, tail, equal, -⟩ := Record.exists_packet_of_front found
            exact absurd equal (exhausted packet tail)
        | error fault =>
            rw [Record.decode_of_front_error empty found, Record.fault?_of_front empty found]
            rfl
  | cons packet packets ih =>
      rw [List.flatMap_cons, List.append_assoc, Record.decode_bytes_append, ih]
      rfl

theorem Splits.cons
    {buffer : List UInt8} {packets : List Packet} {rest : List UInt8}
    (splits : Splits buffer packets rest)
    (packet : Packet) :
    Splits (packet.bytes ++ buffer) (packet :: packets) rest where
  joined := by
    rw [List.flatMap_cons, List.append_assoc, ← splits.joined]
  exhausted := splits.exhausted

/-- Every buffer splits, since each packet takes bytes off it. -/
theorem exists_splits (buffer : List UInt8) :
    ∃ packets rest, Splits buffer packets rest := by
  induction sized : buffer.length using Nat.strongRecOn generalizing buffer with
  | _ size ih =>
      by_cases starts : ∃ (packet : Packet) (tail : List UInt8), buffer = packet.bytes ++ tail
      · obtain ⟨packet, tail, rfl⟩ := starts
        have shorter : tail.length < size := by
          have packetSize := packet.length_bytes
          simp only [Record.headerLength] at packetSize
          rw [List.length_append] at sized
          omega
        obtain ⟨packets, rest, splits⟩ := ih tail.length shorter tail rfl
        exact ⟨packet :: packets, rest, splits.cons packet⟩
      · refine ⟨[], buffer, rfl, ?_⟩
        intro packet tail equal
        exact starts ⟨packet, tail, equal⟩

theorem Splits.unique
    {buffer : List UInt8} {packets packets' : List Packet} {rest rest' : List UInt8}
    (splits : Splits buffer packets rest)
    (splits' : Splits buffer packets' rest') :
    packets' = packets ∧ rest' = rest := by
  obtain ⟨rfl, exhausted⟩ := splits
  obtain ⟨joined', exhausted'⟩ := splits'
  induction packets generalizing packets' with
  | nil =>
      cases packets' with
      | nil => exact ⟨rfl, joined'.symm⟩
      | cons packet packets' =>
          rw [List.flatMap_cons, List.append_assoc] at joined'
          exact absurd joined' (exhausted packet _)
  | cons packet packets ih =>
      rw [List.flatMap_cons, List.append_assoc] at joined'
      cases packets' with
      | nil => exact absurd joined'.symm (exhausted' packet _)
      | cons packet' packets' =>
          rw [List.flatMap_cons, List.append_assoc] at joined'
          obtain ⟨samePacket, sameTail⟩ := eq_of_bytes_append_eq joined'
          obtain ⟨samePackets, sameRest⟩ := ih sameTail
          exact ⟨by rw [samePacket, samePackets], sameRest⟩

theorem splits_flatMap (packets : List Packet) :
    Splits (packets.flatMap bytes) packets [] where
  joined := (List.append_nil _).symm
  exhausted := by
    intro packet tail equal
    exact packet.bytes_ne_nil (List.append_eq_nil_iff.mp equal.symm).1

end Packet

/-! ## Decoders -/

namespace RecordDecoder

theorem word?_of_le
    {bytes : List UInt8} (place : Nat)
    (enough : place + 4 ≤ bytes.length) :
    word? bytes place = some (Record.word (bytes.drop place)) := by
  have first : place < bytes.length := by omega
  have second : place + 1 < bytes.length := by omega
  have third : place + 2 < bytes.length := by omega
  have fourth : place + 3 < bytes.length := by omega
  rw [word?, List.getElem?_eq_getElem first, List.getElem?_eq_getElem second,
    List.getElem?_eq_getElem third, List.getElem?_eq_getElem fourth,
    List.drop_eq_getElem_cons first, List.drop_eq_getElem_cons second,
    List.drop_eq_getElem_cons third, List.drop_eq_getElem_cons fourth]
  rfl

/-- What stands at the place of a decoder is the front of the bytes from there on. -/
theorem decodeNext?_eq
    {decoder : RecordDecoder}
    (within : decoder.offset ≤ decoder.buffer.length) :
    decoder.decodeNext? =
      some (Record.front (decoder.buffer.drop decoder.offset),
        match Record.front (decoder.buffer.drop decoder.offset) with
        | .ok record => { decoder with offset := decoder.offset + record.length }
        | .error _ => decoder) := by
  simp only [decodeNext?, rest?, if_pos within, Option.bind_eq_bind, Option.bind_some,
    Record.front]
  split
  · rfl
  · rename_i headed
    simp only [Record.headerLength, Nat.not_lt] at headed
    rw [word?_of_le 0 (by omega), word?_of_le 4 (by omega),
      word?_of_le 8 (by omega), word?_of_le 12 (by omega)]
    simp only [Option.bind_some, List.drop_zero]
    split
    · rfl
    · split <;> rfl

/-- A decoder answers with the items of the bytes that are left, and with nothing after them. -/
theorem answers?_eq
    (count : Nat) {decoder : RecordDecoder}
    (within : decoder.offset ≤ decoder.buffer.length) :
    decoder.answers? count =
      some ((List.range count).map fun place =>
        (Record.decode (decoder.buffer.drop decoder.offset))[place]?) := by
  induction count generalizing decoder with
  | zero => rfl
  | succ count ih =>
      rw [answers?, next?, List.range_succ_eq_map]
      by_cases ended : decoder.buffer.length ≤ decoder.offset
      · have nothing : decoder.buffer.drop decoder.offset = [] := List.drop_eq_nil_of_le ended
        rw [if_pos ended]
        dsimp only
        rw [ih within, nothing, List.map_cons, List.map_map]
        rfl
      · have nonempty : decoder.buffer.drop decoder.offset ≠ [] := by
          rw [ne_eq, List.drop_eq_nil_iff]
          exact ended
        rw [if_neg ended, decodeNext?_eq within]
        cases found : Record.front (decoder.buffer.drop decoder.offset) with
        | ok record =>
            obtain ⟨packet, tail, equal, rfl⟩ := Record.exists_packet_of_front found
            have stillWithin : ({ decoder with
                offset := decoder.offset + packet.record.length } : RecordDecoder).offset ≤
                  decoder.buffer.length := by
              dsimp only
              have size := congrArg List.length equal
              rw [List.length_drop, List.length_append] at size
              rw [Packet.length_record]
              omega
            rw [Record.decode_of_front_ok nonempty found, List.drop_drop]
            dsimp only
            rw [ih stillWithin, List.map_cons, List.map_map]
            rfl
        | error fault =>
            rw [Record.decode_of_front_error nonempty found]
            have atEnd : ({ decoder with offset := decoder.buffer.length } : RecordDecoder).offset ≤
                decoder.buffer.length := Nat.le_refl _
            dsimp only
            rw [ih atEnd]
            dsimp only
            rw [List.drop_length, List.map_cons, List.map_map]
            rfl

/--
A buffer splits in exactly one way into packets and a rest that does not start with a packet.

A decoder of the buffer stays within it however often it is asked.  It yields the records of the
packets in order, then one fault if the rest is not empty, and nothing from there on.  In particular
the packets that were written into a buffer are the records that are read from it.
-/
theorem yields_split (buffer : List UInt8) :
    ∃ packets rest,
      Packet.Splits buffer packets rest ∧
        (∀ packets' rest', Packet.Splits buffer packets' rest' →
          packets' = packets ∧ rest' = rest) ∧
        Record.decode buffer = Packet.items packets rest ∧
        (∀ count,
          (start buffer).answers? count =
            some ((List.range count).map fun place => (Packet.items packets rest)[place]?)) ∧
        (∀ written : List Packet, buffer = written.flatMap Packet.bytes →
          Packet.items packets rest = written.map (.ok ·.record)) := by
  obtain ⟨packets, rest, splits⟩ := Packet.exists_splits buffer
  refine ⟨packets, rest, splits, fun _ _ => splits.unique, splits.decode_eq, ?_, ?_⟩
  · intro count
    rw [answers?_eq count (Nat.zero_le _), ← splits.decode_eq]
    rfl
  · rintro written rfl
    obtain ⟨rfl, rfl⟩ := splits.unique (Packet.splits_flatMap written)
    simp [Packet.items, Packet.fault?]

end RecordDecoder

end MarkerWatch
