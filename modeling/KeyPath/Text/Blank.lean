/-!
# Blanks and trimming

A blank is a character of Unicode's `White_Space` class, which is larger than what the core
library calls white space: it has the no-break spaces and the line and paragraph separators.
Zero-width characters are not blanks.  A text is its leading blanks, its trimmed middle and its
trailing blanks, in this order; that is all trimming does.
-/

namespace KeyPath.Text

/-- Whether a character belongs to Unicode's `White_Space` class. -/
def isBlank (c : Char) : Bool :=
  let n := c.toNat
  (0x9 ≤ n && n ≤ 0xD) || n == 0x20 || n == 0x85 || n == 0xA0 || n == 0x1680 ||
    (0x2000 ≤ n && n ≤ 0x200A) || n == 0x2028 || n == 0x2029 || n == 0x202F || n == 0x205F ||
    n == 0x3000

/-- The blanks a text begins with. -/
def leadingBlanks (cs : List Char) : List Char := cs.takeWhile isBlank

def trimStart (cs : List Char) : List Char := cs.dropWhile isBlank

def trimEnd (cs : List Char) : List Char := (cs.reverse.dropWhile isBlank).reverse

/-- The blanks a text ends with. -/
def trailingBlanks (cs : List Char) : List Char := (cs.reverse.takeWhile isBlank).reverse

def trim (cs : List Char) : List Char := trimEnd (trimStart cs)

theorem leadingBlanks_append_trimStart (cs : List Char) :
    leadingBlanks cs ++ trimStart cs = cs := List.takeWhile_append_dropWhile

theorem trimEnd_append_trailingBlanks (cs : List Char) :
    trimEnd cs ++ trailingBlanks cs = cs := by
  rw [trimEnd, trailingBlanks, ← List.reverse_append, List.takeWhile_append_dropWhile,
    List.reverse_reverse]

theorem leadingBlanks_append_trim (cs : List Char) :
    leadingBlanks cs ++ (trim cs ++ trailingBlanks (trimStart cs)) = cs := by
  rw [trim, trimEnd_append_trailingBlanks, leadingBlanks_append_trimStart]

theorem isBlank_of_mem_leadingBlanks {cs : List Char} {c : Char} (h : c ∈ leadingBlanks cs) :
    isBlank c = true := by
  have all := List.all_takeWhile (p := isBlank) (l := cs)
  exact List.all_eq_true.mp all c h

theorem isBlank_of_mem_trailingBlanks {cs : List Char} {c : Char} (h : c ∈ trailingBlanks cs) :
    isBlank c = true := by
  have all := List.all_takeWhile (p := isBlank) (l := cs.reverse)
  exact List.all_eq_true.mp all c (List.mem_reverse.mp h)

theorem trimStart_of_all {cs : List Char} (h : ∀ c ∈ cs, isBlank c = true) :
    trimStart cs = [] := by
  induction cs with
  | nil => rfl
  | cons c cs ih =>
    rw [trimStart, List.dropWhile_cons_of_pos (h c (by simp))]
    exact ih fun d hd => h d (by simp [hd])

theorem trim_of_all {cs : List Char} (h : ∀ c ∈ cs, isBlank c = true) : trim cs = [] := by
  rw [trim, trimStart_of_all h]
  rfl

example : trim " \u3000a b\u00a0".toList = "a b".toList := by decide
example : trim "\u200ba\ufeff".toList = "\u200ba\ufeff".toList := by decide

end KeyPath.Text
