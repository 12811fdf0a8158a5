import KeyPath.Text.Blank

/-!
# Pieces of a text

A text is cut at every occurrence of a separator into raw pieces, one more than there are
separators.  Joining the pieces with the separator gives the text back.  A piece of a larger text
is kept with the byte at which it begins, counting each character by the length of its UTF-8 form;
its token is what trimming leaves of it, and has a place of its own.
-/

namespace KeyPath.Text

/-- The number of bytes of a text in UTF-8. -/
def byteCount (cs : List Char) : Nat := cs.foldr (fun c n => c.utf8Size + n) 0

/-- The raw texts between the separators, blanks and empty texts included. -/
def pieces (separator : Char) (cs : List Char) : List (List Char) :=
  cs.foldr (fun c rest => if c = separator then [] :: rest else rest.modifyHead (c :: ·)) [[]]

/-- A raw piece and the byte of the whole text at which it begins. -/
structure Piece where
  start : Nat
  raw : List Char
deriving DecidableEq, Repr

namespace Piece

/-- The piece without the blanks around it. -/
def token (piece : Piece) : List Char := trim piece.raw

/-- The byte of the whole text at which the token begins. -/
def position (piece : Piece) : Nat := piece.start + byteCount (leadingBlanks piece.raw)

/-- The token and where it begins. -/
def placed (piece : Piece) : List Char × Nat := (piece.token, piece.position)

end Piece

/-- Gives each piece its first byte, when the first one begins at `start` and neighbours are
`gap` bytes apart. -/
def locate (gap : Nat) : Nat → List (List Char) → List Piece
  | _, [] => []
  | start, raw :: rest => ⟨start, raw⟩ :: locate gap (start + byteCount raw + gap) rest

/-- The pieces of a text with their places in it. -/
def locatedPieces (separator : Char) (cs : List Char) : List Piece :=
  locate separator.utf8Size 0 (pieces separator cs)

@[simp] theorem byteCount_nil : byteCount [] = 0 := rfl

@[simp] theorem byteCount_cons (c : Char) (cs : List Char) :
    byteCount (c :: cs) = c.utf8Size + byteCount cs := rfl

@[simp] theorem byteCount_append (cs ds : List Char) :
    byteCount (cs ++ ds) = byteCount cs + byteCount ds := by
  induction cs with
  | nil => simp
  | cons c cs ih => simp [ih, Nat.add_assoc]

theorem byteCount_trimStart_add (raw : List Char) :
    byteCount (leadingBlanks raw) + byteCount (trimStart raw) = byteCount raw := by
  rw [← byteCount_append, leadingBlanks_append_trimStart]

/-- Counting back from the end over what is left of a text comes to where its leading blanks
end. -/
theorem byteCount_sub_trimStart (raw : List Char) :
    byteCount raw - byteCount (trimStart raw) = byteCount (leadingBlanks raw) := by
  have split := byteCount_trimStart_add raw
  omega

theorem byteCount_toList (s : String) : byteCount s.toList = s.utf8ByteSize := by
  have sized : ∀ cs : List Char, byteCount cs = (String.ofList cs).utf8ByteSize := by
    intro cs
    induction cs with
    | nil => rfl
    | cons c cs ih =>
      have split : String.ofList (c :: cs) = String.singleton c ++ String.ofList cs := by
        rw [← String.toList_inj]
        simp
      rw [byteCount_cons, ih, split, String.utf8ByteSize_append, String.utf8ByteSize_singleton]
  rw [sized, String.ofList_toList]

@[simp] theorem pieces_nil (separator : Char) : pieces separator [] = [[]] := rfl

@[simp] theorem pieces_cons_separator (separator : Char) (cs : List Char) :
    pieces separator (separator :: cs) = [] :: pieces separator cs := by
  simp [pieces]

theorem pieces_cons_of_ne {separator c : Char} (h : c ≠ separator) (cs : List Char) :
    pieces separator (c :: cs) = (pieces separator cs).modifyHead (c :: ·) := by
  simp [pieces, h]

theorem pieces_ne_nil (separator : Char) (cs : List Char) : pieces separator cs ≠ [] := by
  induction cs with
  | nil => simp
  | cons c cs ih =>
    by_cases h : c = separator
    · subst h
      simp
    · rw [pieces_cons_of_ne h]
      cases eq : pieces separator cs with
      | nil => exact absurd eq ih
      | cons head rest => simp

/-- The first piece of `cs` and the pieces after it. -/
theorem exists_pieces_eq_cons (separator : Char) (cs : List Char) :
    ∃ first rest, pieces separator cs = first :: rest := by
  cases eq : pieces separator cs with
  | nil => exact absurd eq (pieces_ne_nil separator cs)
  | cons first rest => exact ⟨first, rest, rfl⟩

theorem length_pieces (separator : Char) (cs : List Char) :
    (pieces separator cs).length = cs.count separator + 1 := by
  induction cs with
  | nil => rfl
  | cons c cs ih =>
    by_cases h : c = separator
    · subst h
      simp [ih]
    · rw [pieces_cons_of_ne h, List.length_modifyHead, ih, List.count_cons_of_ne h]

theorem intercalate_pieces (separator : Char) (cs : List Char) :
    List.intercalate [separator] (pieces separator cs) = cs := by
  induction cs with
  | nil => rfl
  | cons c cs ih =>
    obtain ⟨first, rest, eq⟩ := exists_pieces_eq_cons separator cs
    by_cases h : c = separator
    · subst h
      rw [pieces_cons_separator, eq]
      rw [eq] at ih
      simpa [List.intercalate] using ih
    · rw [pieces_cons_of_ne h, eq]
      rw [eq] at ih
      cases rest with
      | nil => simpa [List.intercalate] using ih
      | cons second rest => simpa [List.intercalate] using ih

theorem separator_notMem_of_mem_pieces {separator : Char} {cs piece : List Char}
    (h : piece ∈ pieces separator cs) : separator ∉ piece := by
  induction cs generalizing piece with
  | nil => simp_all
  | cons c cs ih =>
    obtain ⟨first, rest, eq⟩ := exists_pieces_eq_cons separator cs
    by_cases hc : c = separator
    · subst hc
      rw [pieces_cons_separator] at h
      rcases List.mem_cons.mp h with rfl | tail
      · simp
      · exact ih tail
    · rw [pieces_cons_of_ne hc, eq, List.modifyHead_cons] at h
      rcases List.mem_cons.mp h with rfl | tail
      · have : separator ∉ first := ih (by simp [eq])
        simp [this, Ne.symm hc]
      · exact ih (by simp [eq, tail])

example : pieces '/' "m//4".toList = ["m".toList, [], "4".toList] := by decide
example : (locatedPieces '/' "é/x".toList).map Piece.start = [0, 3] := by decide

end KeyPath.Text
