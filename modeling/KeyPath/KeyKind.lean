import KeyPath.Comparison
import KeyPath.Text.FormatSpec

/-!
# Kinds of keys

Whether a path is followed with private keys in reach or with public keys only.  A path says so by
the letter it begins with.
-/

namespace KeyPath

inductive KeyKind where
  | priv
  | pub
deriving DecidableEq, Repr

namespace KeyKind

def symbol : KeyKind → Char
  | .priv => 'm'
  | .pub => 'M'

def isPrivate : KeyKind → Bool
  | .priv => true
  | .pub => false

def ofFlag (isPrivate : Bool) : KeyKind := if isPrivate then .priv else .pub

def ofSymbol? (c : Char) : Option KeyKind :=
  if c = 'm' then some .priv else if c = 'M' then some .pub else none

/-- The kind that a token of exactly one letter stands for. -/
def ofToken? : List Char → Option KeyKind
  | [c] => ofSymbol? c
  | _ => none

def text (kind : KeyKind) : String := String.singleton kind.symbol

/-- The name of the kind, as it is shown with a value's structure. -/
def name : KeyKind → String
  | .priv => "Private"
  | .pub => "Public"

/-- The kind as a format specification asks for it; a letter is never padded. -/
def render (spec : FormatSpec) (kind : KeyKind) : String :=
  if spec.structural then kind.name else kind.text

/-- Private keys come first. -/
def rank : KeyKind → Nat
  | .priv => 0
  | .pub => 1

def comparison (a b : KeyKind) : Comparison := .byKey a.rank b.rank

@[simp] theorem ofFlag_isPrivate (kind : KeyKind) : ofFlag kind.isPrivate = kind := by
  cases kind <;> rfl

@[simp] theorem isPrivate_ofFlag (flag : Bool) : (ofFlag flag).isPrivate = flag := by
  cases flag <;> rfl

theorem ofSymbol?_eq_some_iff {c : Char} {kind : KeyKind} :
    ofSymbol? c = some kind ↔ c = kind.symbol := by
  unfold ofSymbol?
  by_cases hm : c = 'm'
  · subst hm
    cases kind <;> simp [symbol]
  · by_cases hM : c = 'M'
    · subst hM
      cases kind <;> simp [symbol]
    · cases kind <;> simp [symbol, hm, hM]

theorem ofToken?_eq_some_iff {token : List Char} {kind : KeyKind} :
    ofToken? token = some kind ↔ token = [kind.symbol] := by
  match token with
  | [] => simp [ofToken?]
  | [c] => simp [ofToken?, ofSymbol?_eq_some_iff]
  | _ :: _ :: _ => simp [ofToken?]

end KeyKind

end KeyPath
