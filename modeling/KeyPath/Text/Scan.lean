import KeyPath.Text.Pieces

/-!
# Scanning a text for tokens

The tokens of a text get their places in one pass over its raw pieces, which carries along the byte
at which the next piece begins.  The place of a token is counted back from the end of its piece,
which comes to where the leading blanks of the piece end.
-/

namespace KeyPath.Text

/-- The pass between two pieces: the byte at which the next piece begins, and the tokens so far,
each with the byte at which it begins. -/
structure Scan where
  offset : Nat
  tokens : List (List Char × Nat)
deriving DecidableEq, Repr

namespace Scan

def start : Scan := ⟨0, []⟩

/-- Where the token of the next raw piece begins, counted back from the end of the piece. -/
def position (scan : Scan) (raw : List Char) : Nat :=
  scan.offset + byteCount raw - byteCount (trimStart raw)

def next (separator : Char) (scan : Scan) (raw : List Char) : Scan :=
  ⟨scan.offset + byteCount raw + separator.utf8Size,
    scan.tokens ++ [(trim raw, scan.position raw)]⟩

/-- The pass after some raw pieces. -/
def run (separator : Char) (raws : List (List Char)) : Scan := raws.foldl (next separator) start

theorem position_eq (scan : Scan) (raw : List Char) :
    scan.position raw = Piece.position ⟨scan.offset, raw⟩ := by
  have split := byteCount_trimStart_add raw
  simp only [position, Piece.position]
  omega

example : (run '/' (pieces '/' "é/ x".toList)).tokens = [(['é'], 0), (['x'], 4)] := by decide

end Scan

end KeyPath.Text
