import KeyPath.Path.Format

/-!
# Log records

What reading reports besides its result: a text that was refused, with the reason, and a path that
was read.  A computation that reports pairs its value with the records it made, in order.
-/

namespace KeyPath

inductive Record where
  /-- A segment's trimmed token was refused. -/
  | rejectedSegment (token : String) (reason : TokenFault)
  /-- A path's text was refused because of the token that begins at a byte of it. -/
  | rejectedPath (text : String) (position : Nat) (reason : TokenFault)
  | parsed (path : Path)
  | unpacked (path : Path)
deriving DecidableEq, Repr

inductive Level where
  | debug
  | trace
deriving DecidableEq, Repr

namespace Level

def name : Level → String
  | .debug => "DEBUG"
  | .trace => "TRACE"

end Level

namespace Record

/-- Refusals are for debugging; paths that were read are only traced. -/
def level : Record → Level
  | .rejectedSegment .. => .debug
  | .rejectedPath .. => .debug
  | .parsed _ => .trace
  | .unpacked _ => .trace

def message : Record → String
  | .rejectedSegment token reason =>
    "rejected derivation segment `" ++ token ++ "`: " ++ reason.message
  | .rejectedPath text position reason =>
    "rejected derivation path `" ++ text ++ "` at byte " ++ Decimal.text position ++ ": " ++
      reason.message
  | .parsed path => "parsed derivation path " ++ path.text
  | .unpacked path => "deserialized derivation path " ++ path.text

end Record

/-- A value and the records made on the way to it. -/
structure Logged (α : Type) where
  value : α
  records : List Record

namespace Logged

variable {α β : Type}

def bind (x : Logged α) (f : α → Logged β) : Logged β :=
  ⟨(f x.value).value, x.records ++ (f x.value).records⟩

instance : Monad Logged where
  pure a := ⟨a, []⟩
  bind := bind

def emit (record : Record) : Logged Unit := ⟨(), [record]⟩

@[simp] theorem value_pure (a : α) : (pure a : Logged α).value = a := rfl

@[simp] theorem records_pure (a : α) : (pure a : Logged α).records = [] := rfl

@[simp] theorem value_bind (x : Logged α) (f : α → Logged β) :
    (x >>= f).value = (f x.value).value := rfl

@[simp] theorem records_bind (x : Logged α) (f : α → Logged β) :
    (x >>= f).records = x.records ++ (f x.value).records := rfl

@[simp] theorem records_emit (record : Record) : (emit record).records = [record] := rfl

end Logged

end KeyPath
