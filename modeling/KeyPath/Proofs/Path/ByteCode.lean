import KeyPath.Wire.Forms

/-!
# The byte code of paths is exact

Reading takes from the front of some bytes exactly what writing a path puts there, so the bytes
tell where the path ends and no path is written in two ways.  Reading fails only when the bytes
end before the count that they begin with is reached; writing fails only when a path has more
segments than the count can tell.
-/

namespace KeyPath

namespace Wire

variable {count n : Nat} {bytes rest : List UInt8} {fault : WireFault}

theorem readNumber_eq_ok_iff :
    readNumber count bytes = .ok (n, rest) ↔
      n < capacity count ∧ bytes = littleEndian count n ++ rest := by
  constructor
  · intro read
    by_cases enough : bytes.length < count
    · rw [readNumber_of_short enough] at read
      cases read
    · have size : (bytes.take count).length = count := by
        rw [List.length_take]
        omega
      rw [← List.take_append_drop count bytes, readNumber_append size] at read
      obtain ⟨rfl, rfl⟩ := Prod.mk.inj (Except.ok.inj read)
      have bound := ofLittleEndian_lt (bytes.take count)
      have front := littleEndian_ofLittleEndian (bytes.take count)
      rw [size] at bound front
      exact ⟨bound, by rw [front, List.take_append_drop]⟩
  · rintro ⟨bound, rfl⟩
    rw [readNumber_append (length_littleEndian count n), ofLittleEndian_littleEndian bound]

theorem readNumber_eq_error_iff :
    readNumber count bytes = .error fault ↔ fault = .short ∧ bytes.length < count := by
  by_cases enough : bytes.length < count
  · rw [readNumber_of_short enough]
    simp [enough, eq_comm]
  · have size : (bytes.take count).length = count := by
      rw [List.length_take]
      omega
    rw [← List.take_append_drop count bytes, readNumber_append size, List.take_append_drop]
    simp [enough]

end Wire

open Wire

namespace Segment

variable {count : Nat} {bytes rest : List UInt8} {fault : WireFault}

theorem decode_eq_ok_iff {s : Segment} :
    decode bytes = .ok (s, rest) ↔ bytes = s.encode ++ rest := by
  constructor
  · intro read
    unfold decode at read
    cases front : readNumber 4 bytes with
    | error fault =>
      rw [front] at read
      cases read
    | ok out =>
      obtain ⟨n, later⟩ := out
      rw [front] at read
      obtain ⟨bound, rfl⟩ := readNumber_eq_ok_iff.mp front
      obtain ⟨rfl, rfl⟩ := Prod.mk.inj (Except.ok.inj read)
      have whole : (UInt32.ofNat n).toNat = n := UInt32.toNat_ofNat_of_lt' bound
      rw [encode, whole]
  · rintro rfl
    exact decode_encode s rest

theorem decode_eq_error_iff :
    decode bytes = .error fault ↔ fault = .short ∧ bytes.length < 4 := by
  rw [← readNumber_eq_error_iff, decode]
  cases readNumber 4 bytes <;> simp

/-- Segments that were read, after those that had been read before. -/
theorem decodeOnto_eq_ok_iff {read segments : List Segment} :
    decodeOnto read count bytes = .ok (segments, rest) ↔
      ∃ new, segments = read.reverse ++ new ∧ new.length = count ∧
        bytes = new.flatMap encode ++ rest := by
  constructor
  · intro done
    induction count generalizing read bytes with
    | zero =>
      obtain ⟨rfl, rfl⟩ := Prod.mk.inj (Except.ok.inj done)
      exact ⟨[], by simp, rfl, rfl⟩
    | succ count ih =>
      rw [decodeOnto] at done
      cases first : decode bytes with
      | error fault =>
        rw [first] at done
        cases done
      | ok out =>
        obtain ⟨s, later⟩ := out
        rw [first] at done
        obtain ⟨new, rfl, rfl, rfl⟩ := ih done
        obtain rfl := decode_eq_ok_iff.mp first
        exact ⟨s :: new, by simp, rfl, by simp⟩
  · rintro ⟨new, rfl, rfl, rfl⟩
    exact decodeOnto_encode read new rest

/-- Reading segments fails only for want of bytes. -/
theorem decodeOnto_eq_error_iff (read : List Segment) :
    decodeOnto read count bytes = .error fault ↔ fault = .short ∧ bytes.length < 4 * count := by
  induction count generalizing read bytes with
  | zero => simp [decodeOnto]
  | succ count ih =>
    rw [decodeOnto]
    cases first : decode bytes with
    | error cause =>
      obtain ⟨rfl, small⟩ := decode_eq_error_iff.mp first
      have less : bytes.length < 4 * (count + 1) := by omega
      simp [less, eq_comm]
    | ok out =>
      obtain ⟨s, later⟩ := out
      have size := congrArg List.length (decode_eq_ok_iff.mp first)
      rw [List.length_append, length_encode] at size
      have less : later.length < 4 * count ↔ bytes.length < 4 * (count + 1) := by omega
      exact (ih (s :: read)).trans (and_congr_right fun _ => less)

end Segment

namespace Path

variable {bytes rest : List UInt8} {fault : WireFault}

/-- The bytes begin with a count of two bytes, and four bytes follow for each that is counted. -/
def HoldsCounted (bytes : List UInt8) : Prop :=
  ∃ low high later, bytes = low :: high :: later ∧
    4 * (low.toNat + 256 * high.toNat) ≤ later.length

theorem encode_eq_ok_iff {p : Path} :
    p.encode = .ok bytes ↔
      p.length ≤ maxItems ∧
        bytes = littleEndian 2 p.length ++ p.segments.flatMap Segment.encode := by
  unfold encode
  split
  · next fits => simp [fits, eq_comm]
  · next fits => simp [fits]

theorem write_eq_ok_iff {p : Path} {written : Written} :
    p.write = .ok written ↔
      p.encode = .ok written.bytes ∧ written.count = written.bytes.length := by
  rw [write_eq]
  cases p.encode with
  | error fault => simp [Except.map]
  | ok bytes =>
    constructor
    · intro eq
      cases eq
      exact ⟨rfl, rfl⟩
    · rintro ⟨eq, count⟩
      cases eq
      obtain ⟨bytes, total⟩ := written
      obtain rfl : total = bytes.length := count
      rfl

theorem length_of_encode_eq_ok {p : Path} (done : p.encode = .ok bytes) :
    bytes.length = 2 + 4 * p.length := by
  rw [(encode_eq_ok_iff.mp done).2, List.length_append, length_littleEndian,
    Segment.length_flatMap_encode, length]

/-- A path is read where its own bytes stand, and nowhere else. -/
theorem decode_eq_ok_iff {p : Path} :
    decode bytes = .ok (p, rest) ↔
      p.kind = .pub ∧ ∃ front, p.encode = .ok front ∧ bytes = front ++ rest := by
  constructor
  · intro read
    unfold decode at read
    cases head : readNumber 2 bytes with
    | error fault =>
      rw [head] at read
      cases read
    | ok out =>
      obtain ⟨count, later⟩ := out
      obtain ⟨bound, rfl⟩ := readNumber_eq_ok_iff.mp head
      simp only [head] at read
      cases items : Segment.decodeOnto [] count later with
      | error fault =>
        rw [items] at read
        cases read
      | ok out =>
        obtain ⟨segments, tail⟩ := out
        rw [items] at read
        obtain ⟨rfl, rfl⟩ := Prod.mk.inj (Except.ok.inj read)
        obtain ⟨new, eq, rfl, rfl⟩ := Segment.decodeOnto_eq_ok_iff.mp items
        rw [List.reverse_nil, List.nil_append] at eq
        subst eq
        have fits : segments.length ≤ maxItems := Nat.le_of_lt_succ bound
        refine ⟨rfl, _, encode_eq_ok_iff.mpr ⟨fits, rfl⟩, ?_⟩
        rw [List.append_assoc]
        rfl
  · rintro ⟨kind, front, written, rfl⟩
    have same : ofSegments p.segments = p := by
      rw [ofSegments, ← kind]
    rw [decode_encode written, same]

theorem decode_eq_error_iff :
    decode bytes = .error fault ↔ fault = .short ∧ ¬ HoldsCounted bytes := by
  unfold decode
  cases head : readNumber 2 bytes with
  | error cause =>
    obtain ⟨rfl, small⟩ := readNumber_eq_error_iff.mp head
    have none : ¬ HoldsCounted bytes := by
      rintro ⟨low, high, later, rfl, -⟩
      simp only [List.length_cons] at small
      omega
    simp [none, eq_comm]
  | ok out =>
    obtain ⟨count, later⟩ := out
    obtain ⟨bound, rfl⟩ := readNumber_eq_ok_iff.mp head
    have holds : HoldsCounted (littleEndian 2 count ++ later) ↔ ¬ later.length < 4 * count := by
      have back := ofLittleEndian_littleEndian bound
      simp only [littleEndian, ofLittleEndian] at back
      constructor
      · rintro ⟨low, high, other, eq, enough⟩
        simp only [littleEndian, List.cons_append, List.nil_append, List.cons.injEq] at eq
        obtain ⟨rfl, rfl, rfl⟩ := eq
        omega
      · intro enough
        exact ⟨_, _, later, rfl, by omega⟩
    rw [holds, Classical.not_not, ← Segment.decodeOnto_eq_error_iff []]
    cases items : Segment.decodeOnto [] count later with
    | ok out => simp [items]
    | error cause => simp [items]

theorem exists_decode_eq_ok_iff :
    (∃ p rest, decode bytes = .ok (p, rest)) ↔ HoldsCounted bytes := by
  constructor
  · rintro ⟨p, rest, read⟩
    apply Classical.byContradiction
    intro none
    rw [decode_eq_error_iff.mpr ⟨rfl, none⟩] at read
    cases read
  · intro holds
    cases read : decode bytes with
    | ok out => exact ⟨out.1, out.2, rfl⟩
    | error fault => exact absurd holds (decode_eq_error_iff.mp read).2

/-- Demanding all bytes complains of the ones that are left, and of nothing else. -/
theorem whole_decode_eq_leftover_iff :
    whole (decode bytes) = .error .leftover ↔
      ∃ p rest, decode bytes = .ok (p, rest) ∧ rest ≠ [] := by
  cases read : decode bytes with
  | error fault =>
    obtain ⟨rfl, -⟩ := decode_eq_error_iff.mp read
    simp [whole]
  | ok out =>
    obtain ⟨p, rest⟩ := out
    cases rest with
    | nil => simp [whole]
    | cons next rest => exact ⟨fun _ => ⟨p, next :: rest, rfl, by simp⟩, fun _ => rfl⟩

/-- The code of a path that is not too long is what the path is read from, whatever stands after
it; and bytes are read exactly when they hold the segments they count, as the path whose code they
begin with. -/
theorem byte_code_exact :
    (∀ p : Path, p.length ≤ 65535 → ∃ bytes,
      p.write = .ok ⟨bytes, bytes.length⟩ ∧ bytes.length = 2 + 4 * p.length ∧
        ∀ rest, decode (bytes ++ rest) = .ok (⟨.pub, p.segments⟩, rest)) ∧
    (∀ p : Path, 65535 < p.length → p.write = .error (.tooManyItems p.length)) ∧
    (∀ bytes, ((∃ p rest, decode bytes = .ok (p, rest)) ↔ HoldsCounted bytes) ∧
      (¬ HoldsCounted bytes → decode bytes = .error .short) ∧
      (∀ p rest, decode bytes = .ok (p, rest) → ∃ consumed,
        bytes = consumed ++ rest ∧ p.write = .ok ⟨consumed, consumed.length⟩) ∧
      (whole (decode bytes) = .error .leftover ↔
        ∃ p rest, decode bytes = .ok (p, rest) ∧ rest ≠ [])) := by
  refine ⟨?_, ?_, ?_⟩
  · intro p fits
    have done : p.encode = .ok (littleEndian 2 p.length ++ p.segments.flatMap Segment.encode) :=
      encode_eq_ok_iff.mpr ⟨fits, rfl⟩
    exact ⟨_, write_eq_ok_iff.mpr ⟨done, rfl⟩, length_of_encode_eq_ok done, decode_encode done⟩
  · intro p long
    have tooLong : ¬ p.length ≤ maxItems := Nat.not_le_of_lt long
    rw [write, if_neg tooLong]
  · intro bytes
    refine ⟨exists_decode_eq_ok_iff, fun none => decode_eq_error_iff.mpr ⟨rfl, none⟩, ?_,
      whole_decode_eq_leftover_iff⟩
    intro p rest read
    obtain ⟨-, consumed, done, split⟩ := decode_eq_ok_iff.mp read
    exact ⟨consumed, split, write_eq_ok_iff.mpr ⟨done, rfl⟩⟩

/-- The greatest word and a byte that is left, and a count that promises more than there is. -/
theorem byte_code_exact_edges :
    (Path.mk .priv [⟨0xFFFFFFFF⟩, ⟨1⟩]).length ≤ 65535 ∧
      (∃ bytes, (Path.mk .priv [⟨0xFFFFFFFF⟩, ⟨1⟩]).write = .ok ⟨bytes, bytes.length⟩ ∧
        decode (bytes ++ [7]) = .ok (⟨.pub, [⟨0xFFFFFFFF⟩, ⟨1⟩]⟩, [7])) ∧
      65535 < (Path.mk .pub (List.replicate 65536 .one)).length ∧
      (Path.mk .pub (List.replicate 65536 .one)).write = .error (.tooManyItems 65536) ∧
      ¬ HoldsCounted [1, 0, 44, 0, 0] ∧ decode [1, 0, 44, 0, 0] = .error .short := by
  have short : (Path.mk .priv [⟨0xFFFFFFFF⟩, ⟨1⟩]).length ≤ 65535 := by decide
  have size : (Path.mk .pub (List.replicate 65536 .one)).length = 65536 :=
    List.length_replicate ..
  have long : 65535 < (Path.mk .pub (List.replicate 65536 .one)).length := by
    rw [size]
    decide
  have refused := byte_code_exact.2.1 _ long
  have ended : ¬ HoldsCounted [1, 0, 44, 0, 0] := by
    rintro ⟨low, high, later, eq, enough⟩
    simp only [List.cons.injEq] at eq
    obtain ⟨rfl, rfl, rfl⟩ := eq
    exact absurd enough (by decide)
  obtain ⟨bytes, written, -, back⟩ := byte_code_exact.1 _ short
  exact ⟨short, ⟨bytes, written, back [7]⟩, long,
    refused.trans (congrArg (fun count => Except.error (WireFault.tooManyItems count)) size), ended,
    (byte_code_exact.2.2 [1, 0, 44, 0, 0]).2.1 ended⟩

end Path

end KeyPath
