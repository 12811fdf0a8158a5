import KeyPath.Path.Basic
import KeyPath.Wire.LittleEndian

/-!
# Byte code

A segment is the four bytes of its word, and a path is the number of its segments in two bytes and
then the segments; the kind of keys is not written, and a path that is read has public keys.  The
code tells its own length: reading takes bytes from the front and leaves the rest.  Writing reports
how many bytes it wrote, counted from the parts.
-/

namespace KeyPath

namespace Wire

inductive WireFault where
  /-- The bytes ended too early. -/
  | short
  /-- A path has more segments than two bytes can count. -/
  | tooManyItems (count : Nat)
  /-- Bytes were left over. -/
  | leftover
deriving DecidableEq, Repr

/-- The number of the first `count` bytes, and the bytes after them. -/
def readNumber (count : Nat) (bytes : List UInt8) : Except WireFault (Nat × List UInt8) :=
  let front := bytes.take count
  if front.length < count then .error .short else .ok (ofLittleEndian front, bytes.drop count)

/-- Demands that reading leaves no bytes. -/
def whole {α : Type} (read : Except WireFault (α × List UInt8)) : Except WireFault α :=
  match read with
  | .ok (a, []) => .ok a
  | .ok (_, _ :: _) => .error .leftover
  | .error fault => .error fault

/-- What was written, and how many bytes the writer says it is. -/
structure Written where
  bytes : List UInt8
  count : Nat
deriving DecidableEq, Repr

namespace Written

def append (a b : Written) : Written := ⟨a.bytes ++ b.bytes, a.count + b.count⟩

/-- The parts one after the other. -/
def concat (parts : List Written) : Written := parts.foldr append ⟨[], 0⟩

end Written

def writeNumber (count n : Nat) : Written := ⟨littleEndian count n, count⟩

theorem readNumber_append {front : List UInt8} {count : Nat} (h : front.length = count)
    (rest : List UInt8) : readNumber count (front ++ rest) = .ok (ofLittleEndian front, rest) := by
  subst h
  simp [readNumber]

theorem readNumber_of_short {count : Nat} {bytes : List UInt8} (h : bytes.length < count) :
    readNumber count bytes = .error .short := by
  have : min count bytes.length < count := by omega
  simp [readNumber, this]

end Wire

open Wire

namespace Segment

def encode (s : Segment) : List UInt8 := littleEndian 4 s.word.toNat

def write (s : Segment) : Written := writeNumber 4 s.word.toNat

def decode (bytes : List UInt8) : Except WireFault (Segment × List UInt8) :=
  match readNumber 4 bytes with
  | .ok (n, rest) => .ok (⟨UInt32.ofNat n⟩, rest)
  | .error fault => .error fault

/-- Reads `count` segments, after those in `read`, which has the nearest first. -/
def decodeOnto (read : List Segment) :
    Nat → List UInt8 → Except WireFault (List Segment × List UInt8)
  | 0, bytes => .ok (read.reverse, bytes)
  | count + 1, bytes =>
    match decode bytes with
    | .ok (s, rest) => decodeOnto (s :: read) count rest
    | .error fault => .error fault

@[simp] theorem length_encode (s : Segment) : s.encode.length = 4 := length_littleEndian ..

theorem length_flatMap_encode (segments : List Segment) :
    (segments.flatMap encode).length = 4 * segments.length := by
  induction segments with
  | nil => rfl
  | cons s segments ih => simp [ih, Nat.mul_succ, Nat.add_comm]

theorem concat_write (segments : List Segment) :
    Written.concat (segments.map write) =
      ⟨segments.flatMap encode, 4 * segments.length⟩ := by
  induction segments with
  | nil => rfl
  | cons s segments ih =>
    have front : Written.concat ((s :: segments).map write) =
        s.write.append (Written.concat (segments.map write)) := rfl
    rw [front, ih, List.flatMap_cons, List.length_cons, Nat.mul_succ, Nat.add_comm]
    rfl

theorem decode_encode (s : Segment) (rest : List UInt8) :
    decode (s.encode ++ rest) = .ok (s, rest) := by
  have fits : s.word.toNat < capacity 4 := s.word.toNat_lt
  rw [decode, readNumber_append s.length_encode, encode, ofLittleEndian_littleEndian fits]
  simp

theorem decodeOnto_encode (read segments : List Segment) (rest : List UInt8) :
    decodeOnto read segments.length (segments.flatMap encode ++ rest) =
      .ok (read.reverse ++ segments, rest) := by
  induction segments generalizing read with
  | nil => simp [decodeOnto]
  | cons s segments ih =>
    rw [List.flatMap_cons, List.append_assoc, List.length_cons, decodeOnto, decode_encode]
    simp [ih]

end Segment

namespace Path

/-- The largest number of segments that can be written. -/
def maxItems : Nat := 65535

def encode (p : Path) : Except WireFault (List UInt8) :=
  if p.length ≤ maxItems then
    .ok (littleEndian 2 p.length ++ p.segments.flatMap Segment.encode)
  else .error (.tooManyItems p.length)

/-- Writes a path and reports the number of bytes. -/
def write (p : Path) : Except WireFault Written :=
  if p.length ≤ maxItems then
    .ok ((writeNumber 2 p.length).append (.concat (p.segments.map Segment.write)))
  else .error (.tooManyItems p.length)

def decode (bytes : List UInt8) : Except WireFault (Path × List UInt8) :=
  match readNumber 2 bytes with
  | .ok (count, rest) =>
    match Segment.decodeOnto [] count rest with
    | .ok (segments, rest) => .ok (ofSegments segments, rest)
    | .error fault => .error fault
  | .error fault => .error fault

/-- The count that is reported is the number of bytes that were written. -/
theorem write_eq (p : Path) : p.write = p.encode.map fun bytes => ⟨bytes, bytes.length⟩ := by
  unfold write encode
  split
  · rw [Segment.concat_write]
    simp only [Except.map, Written.append, writeNumber, List.length_append, length_littleEndian,
      Segment.length_flatMap_encode]
  · rfl

/-- What is written is read back with public keys, and the bytes after it are left. -/
theorem decode_encode {p : Path} {bytes : List UInt8} (h : p.encode = .ok bytes)
    (rest : List UInt8) : decode (bytes ++ rest) = .ok (ofSegments p.segments, rest) := by
  unfold encode at h
  split at h
  · next fits =>
    cases h
    have small : p.length < capacity 2 := Nat.lt_of_le_of_lt fits (by decide)
    rw [decode, List.append_assoc, readNumber_append (length_littleEndian ..),
      ofLittleEndian_littleEndian small]
    simp only [length, Segment.decodeOnto_encode]
    rfl
  · cases h

end Path

end KeyPath
