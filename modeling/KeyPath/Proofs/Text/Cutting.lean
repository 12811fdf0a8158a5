import KeyPath.Text.Pieces

/-!
# Cutting joined texts

What the pieces of a text are when the text is put together from others, and where each piece
stands.  A text is the pieces before one of its pieces, each with a separator after it, then that
piece, then the pieces after it, each with a separator before it; the bytes of the first part are
the place of the piece.
-/

namespace KeyPath.Text

/-- The texts with a separator after each. -/
def closed (separator : Char) (raws : List (List Char)) : List Char :=
  raws.flatMap fun raw => raw ++ [separator]

/-- The texts with a separator before each. -/
def opened (separator : Char) (raws : List (List Char)) : List Char :=
  raws.flatMap fun raw => separator :: raw

/-- The text `part` stands at byte `position` of a text, between whole characters. -/
structure StandsAt (s part : String) (position : Nat) : Prop where
  starts : (⟨position⟩ : String.Pos.Raw).IsValid s
  ends : (⟨position + part.utf8ByteSize⟩ : String.Pos.Raw).IsValid s
  bytes : s.toByteArray.extract position (position + part.utf8ByteSize) = part.toByteArray

theorem standsAt_append (before part after : String) :
    StandsAt (before ++ part ++ after) part before.utf8ByteSize := by
  constructor
  · rw [String.Pos.Raw.isValid_iff_exists_append]
    exact ⟨before, part ++ after, String.append_assoc, rfl⟩
  · rw [String.Pos.Raw.isValid_iff_exists_append]
    refine ⟨before ++ part, after, rfl, ?_⟩
    apply String.Pos.Raw.ext
    exact String.utf8ByteSize_append.symm
  · have front : (before ++ part ++ after).toByteArray =
        before.toByteArray ++ (part.toByteArray ++ after.toByteArray) := by
      rw [String.append_assoc, String.toByteArray_append, String.toByteArray_append]
    have moved : (before.toByteArray ++ (part.toByteArray ++ after.toByteArray)).extract
        (before.toByteArray.size + 0) (before.toByteArray.size + part.toByteArray.size) =
          (part.toByteArray ++ after.toByteArray).extract 0 part.toByteArray.size :=
      ByteArray.extract_append_size_add
    rw [front, ← String.size_toByteArray, ← String.size_toByteArray]
    exact moved.trans (ByteArray.extract_append_eq_left rfl)

theorem standsAt_of_toList_eq {s : String} {front part back : List Char}
    (eq : s.toList = front ++ (part ++ back)) :
    StandsAt s (String.ofList part) (byteCount front) := by
  have whole : s = String.ofList front ++ String.ofList part ++ String.ofList back := by
    rw [← String.toList_inj, eq]
    simp
  have size : byteCount front = (String.ofList front).utf8ByteSize := by
    rw [← byteCount_toList, String.toList_ofList]
  rw [whole, size]
  exact standsAt_append _ _ _

/-- The same piece when `bytes` more bytes stand before it. -/
def Piece.shift (bytes : Nat) (piece : Piece) : Piece := ⟨piece.start + bytes, piece.raw⟩

@[simp] theorem Piece.token_shift (bytes : Nat) (piece : Piece) :
    (piece.shift bytes).token = piece.token := rfl

@[simp] theorem Piece.position_shift (bytes : Nat) (piece : Piece) :
    (piece.shift bytes).position = piece.position + bytes := by
  simp only [position, shift]
  omega

/-- The same token when `bytes` more bytes stand before it. -/
def shift (bytes : Nat) (placed : List Char × Nat) : List Char × Nat :=
  (placed.1, placed.2 + bytes)

theorem Piece.placed_shift (bytes : Nat) (piece : Piece) :
    (piece.shift bytes).placed = Text.shift bytes piece.placed := by
  rw [placed, token_shift, position_shift]
  rfl

section
variable (separator : Char)

@[simp] theorem closed_nil : closed separator [] = [] := rfl

@[simp] theorem closed_cons (raw : List Char) (raws : List (List Char)) :
    closed separator (raw :: raws) = raw ++ separator :: closed separator raws := by
  simp [closed]

theorem closed_append (raws more : List (List Char)) :
    closed separator (raws ++ more) = closed separator raws ++ closed separator more :=
  List.flatMap_append

@[simp] theorem opened_nil : opened separator [] = [] := rfl

@[simp] theorem opened_cons (raw : List Char) (raws : List (List Char)) :
    opened separator (raw :: raws) = separator :: (raw ++ opened separator raws) := by
  simp [opened]

theorem mem_of_mem_takeWhile {cs : List Char} {raws : List (List Char)} {c : Char}
    (member : c ∈ (cs ++ opened separator raws).takeWhile (· ≠ separator)) : c ∈ cs := by
  induction cs with
  | nil =>
    cases raws with
    | nil => simp at member
    | cons raw raws => simp at member
  | cons d cs ih =>
    rw [List.cons_append, List.takeWhile_cons] at member
    split at member
    · rcases List.mem_cons.mp member with rfl | later
      · exact List.mem_cons_self
      · exact List.mem_cons_of_mem d (ih later)
    · cases member

/-- A separator between two texts is a cut. -/
theorem pieces_append_separator (cs ds : List Char) :
    pieces separator (cs ++ separator :: ds) = pieces separator cs ++ pieces separator ds := by
  induction cs with
  | nil => simp
  | cons c cs ih =>
    by_cases same : c = separator
    · subst same
      rw [List.cons_append, pieces_cons_separator, pieces_cons_separator, ih, List.cons_append]
    · obtain ⟨first, rest, eq⟩ := exists_pieces_eq_cons separator cs
      rw [List.cons_append, pieces_cons_of_ne same, pieces_cons_of_ne same, ih, eq]
      simp

theorem pieces_of_notMem {cs : List Char} (none : separator ∉ cs) :
    pieces separator cs = [cs] := by
  induction cs with
  | nil => rfl
  | cons c cs ih =>
    have different : c ≠ separator := fun same => none (by simp [same])
    have later : separator ∉ cs := fun member => none (List.mem_cons_of_mem c member)
    rw [pieces_cons_of_ne different, ih later, List.modifyHead_cons]

/-- A text without separators goes to the first piece of what follows it. -/
theorem pieces_append_of_notMem {front : List Char} (none : separator ∉ front) (cs : List Char) :
    pieces separator (front ++ cs) = (pieces separator cs).modifyHead (front ++ ·) := by
  obtain ⟨first, rest, eq⟩ := exists_pieces_eq_cons separator cs
  induction front with
  | nil => rw [List.nil_append, eq]; rfl
  | cons c front ih =>
    have different : c ≠ separator := fun same => none (by simp [same])
    have later : separator ∉ front := fun member => none (List.mem_cons_of_mem c member)
    rw [List.cons_append, pieces_cons_of_ne different, ih later, eq]
    rfl

theorem pieces_closed_append {raws : List (List Char)} (none : ∀ raw ∈ raws, separator ∉ raw)
    (cs : List Char) :
    pieces separator (closed separator raws ++ cs) = raws ++ pieces separator cs := by
  induction raws with
  | nil => rfl
  | cons raw raws ih =>
    have later : ∀ other ∈ raws, separator ∉ other := fun other member =>
      none other (List.mem_cons_of_mem raw member)
    rw [closed_cons, List.append_assoc, List.cons_append, pieces_append_separator,
      pieces_of_notMem separator (none raw List.mem_cons_self), ih later]
    rfl

theorem pieces_append_opened {raw : List Char} {raws : List (List Char)}
    (first : separator ∉ raw) (none : ∀ other ∈ raws, separator ∉ other) :
    pieces separator (raw ++ opened separator raws) = raw :: raws := by
  induction raws generalizing raw with
  | nil => rw [opened_nil, List.append_nil, pieces_of_notMem separator first]
  | cons next raws ih =>
    have later : ∀ other ∈ raws, separator ∉ other := fun other member =>
      none other (List.mem_cons_of_mem next member)
    rw [opened_cons, pieces_append_separator, pieces_of_notMem separator first,
      ih (none next List.mem_cons_self) later]
    rfl

theorem intercalate_cons (raw : List Char) (raws : List (List Char)) :
    List.intercalate [separator] (raw :: raws) = raw ++ opened separator raws := by
  induction raws generalizing raw with
  | nil => simp
  | cons next raws ih => rw [List.intercalate_cons_cons, ih, opened_cons]; simp

theorem intercalate_append_cons (before : List (List Char)) (raw : List Char)
    (after : List (List Char)) :
    List.intercalate [separator] (before ++ raw :: after) =
      closed separator before ++ (raw ++ opened separator after) := by
  induction before with
  | nil => exact intercalate_cons separator raw after
  | cons first before ih =>
    obtain ⟨next, rest, eq⟩ : ∃ next rest, before ++ raw :: after = next :: rest := by
      cases before <;> simp
    rw [List.cons_append, eq, List.intercalate_cons_cons, ← eq, ih, closed_cons]
    simp

/-- A text around one of its pieces. -/
theorem eq_of_pieces_eq {cs raw : List Char} {before after : List (List Char)}
    (eq : pieces separator cs = before ++ raw :: after) :
    cs = closed separator before ++ (raw ++ opened separator after) := by
  rw [← intercalate_append_cons, ← eq, intercalate_pieces]

theorem closed_pieces (cs : List Char) :
    closed separator (pieces separator cs) = cs ++ [separator] := by
  have last : pieces separator (cs ++ [separator]) = pieces separator cs ++ [[]] :=
    pieces_append_separator separator cs []
  have whole := eq_of_pieces_eq separator last
  simpa using whole.symm

/-- A list of pieces begins after the pieces before it and their separators. -/
theorem locate_append (start : Nat) (before after : List (List Char)) :
    locate separator.utf8Size start (before ++ after) =
      locate separator.utf8Size start before ++
        locate separator.utf8Size (start + byteCount (closed separator before)) after := by
  induction before generalizing start with
  | nil => rfl
  | cons raw before ih =>
    have total : start + byteCount raw + separator.utf8Size + byteCount (closed separator before) =
        start + byteCount (closed separator (raw :: before)) := by
      simp only [closed_cons, byteCount_append, byteCount_cons]
      omega
    rw [List.cons_append, locate, ih, total, locate, List.cons_append]

theorem locate_add (gap start bytes : Nat) (raws : List (List Char)) :
    locate gap (start + bytes) raws = (locate gap start raws).map (Piece.shift bytes) := by
  induction raws generalizing start with
  | nil => rfl
  | cons raw raws ih =>
    have moved : start + bytes + byteCount raw + gap = start + byteCount raw + gap + bytes := by
      omega
    rw [locate, moved, ih]
    rfl

theorem map_raw_locate (gap start : Nat) (raws : List (List Char)) :
    (locate gap start raws).map Piece.raw = raws := by
  induction raws generalizing start with
  | nil => rfl
  | cons raw raws ih => rw [locate, List.map_cons, ih]

theorem map_raw_locatedPieces (cs : List Char) :
    (locatedPieces separator cs).map Piece.raw = pieces separator cs :=
  map_raw_locate separator.utf8Size 0 (pieces separator cs)

/-- The pieces of two texts with a separator between them. -/
theorem locatedPieces_append_separator (cs ds : List Char) :
    locatedPieces separator (cs ++ separator :: ds) =
      locatedPieces separator cs ++
        (locate separator.utf8Size separator.utf8Size (pieces separator ds)).map
          (Piece.shift (byteCount cs)) := by
  have start : 0 + byteCount (closed separator (pieces separator cs)) =
      separator.utf8Size + byteCount cs := by
    rw [closed_pieces, byteCount_append, byteCount_cons, byteCount_nil]
    omega
  rw [locatedPieces, pieces_append_separator, locate_append, start, locate_add, locatedPieces]

/-- A located piece stands in the text where it is said to. -/
theorem text_around_piece {cs : List Char} {before after : List Piece} {piece : Piece}
    (eq : locatedPieces separator cs = before ++ piece :: after) :
    cs = closed separator (before.map Piece.raw) ++
        (piece.raw ++ opened separator (after.map Piece.raw)) ∧
      piece.start = byteCount (closed separator (before.map Piece.raw)) := by
  have raws := map_raw_locatedPieces separator cs
  rw [eq, List.map_append, List.map_cons] at raws
  refine ⟨eq_of_pieces_eq separator raws.symm, ?_⟩
  rw [locatedPieces, ← raws, locate_append] at eq
  have lengths : (locate separator.utf8Size 0 (before.map Piece.raw)).length = before.length := by
    rw [← List.length_map Piece.raw, map_raw_locate, List.length_map]
  have heads := (List.append_inj eq lengths).2
  rw [locate, List.cons.injEq] at heads
  rw [← heads.1, Nat.zero_add]

theorem separator_notMem_raw {cs : List Char} {piece : Piece}
    (member : piece ∈ locatedPieces separator cs) : separator ∉ piece.raw := by
  apply separator_notMem_of_mem_pieces
  rw [← map_raw_locatedPieces separator cs]
  exact List.mem_map_of_mem member

/-- The token of a piece stands at the position of the piece, with blanks alone after it up to the
next separator. -/
theorem text_around_token {s : String} {before after : List Piece} {piece : Piece}
    (eq : locatedPieces separator s.toList = before ++ piece :: after) :
    ∃ front back : String, s = front ++ String.ofList piece.token ++ back ∧
      front = String.ofList
        (closed separator (before.map Piece.raw) ++ leadingBlanks piece.raw) ∧
      front.utf8ByteSize = piece.position ∧
      ∀ c ∈ back.toList.takeWhile (· ≠ separator), isBlank c = true := by
  obtain ⟨text, start⟩ := text_around_piece separator eq
  let front := closed separator (before.map Piece.raw) ++ leadingBlanks piece.raw
  let back := trailingBlanks (trimStart piece.raw) ++ opened separator (after.map Piece.raw)
  have whole : s.toList = front ++ piece.token ++ back := calc
    s.toList = closed separator (before.map Piece.raw) ++
        (piece.raw ++ opened separator (after.map Piece.raw)) := text
    _ = closed separator (before.map Piece.raw) ++
        ((leadingBlanks piece.raw ++ (trim piece.raw ++ trailingBlanks (trimStart piece.raw))) ++
          opened separator (after.map Piece.raw)) := by rw [leadingBlanks_append_trim]
    _ = front ++ piece.token ++ back := by simp [front, back, Piece.token]
  refine ⟨String.ofList front, String.ofList back, ?_, rfl, ?_, ?_⟩
  · rw [← String.toList_inj, whole]
    simp
  · rw [← byteCount_toList, String.toList_ofList, byteCount_append, ← start]
    rfl
  · intro c member
    rw [String.toList_ofList] at member
    exact isBlank_of_mem_trailingBlanks (mem_of_mem_takeWhile separator member)

end

end KeyPath.Text
