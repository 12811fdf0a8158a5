import KeyPath.Fault
import KeyPath.Proofs.Json.Spelling

/-!
# Messages of faults

A message gives its fault away.  The token in it may have any characters and nothing marks where it
ends, so it can look like the rest of a message, or like a whole one.  But only the token is free,
and from its end a message is read without a doubt: a reason, of which no two end with the same
character, then the digits of the position, and before them the token.
-/

namespace KeyPath

namespace Decimal

variable {m n : Nat}

theorem text_injective (same : text m = text n) : m = n :=
  digits_injective (String.ofList_injective same)

theorem append_digits_inj {cs ds : List Char} (stops : Json.Stops Char.isDigit cs.reverse)
    (stops' : Json.Stops Char.isDigit ds.reverse) (same : cs ++ digits m = ds ++ digits n) :
    cs = ds ∧ m = n := by
  have digit (n : Nat) : ∀ c ∈ (digits n).reverse, c.isDigit = true := fun c member =>
    isDigit_of_mem_digits (List.mem_reverse.mp member)
  have reversed : (digits m).reverse ++ cs.reverse = (digits n).reverse ++ ds.reverse := by
    rw [← List.reverse_append, same, List.reverse_append]
  have numbers : (digits m).reverse = (digits n).reverse := by
    rw [← Json.takeWhile_append_of_stops (digit m) stops, reversed,
      Json.takeWhile_append_of_stops (digit n) stops']
  rw [numbers, List.append_cancel_left_eq] at reversed
  exact ⟨List.reverse_inj.mp reversed, digits_injective (List.reverse_inj.mp numbers)⟩

/-- A number at the end of a text is told from what stands before it, if that has no digit at its
end. -/
theorem append_text_inj {s t label : String} {c : Char} (last : label.toList.getLast? = some c)
    (other : c.isDigit = false) (same : s ++ label ++ text m = t ++ label ++ text n) :
    s = t ∧ m = n := by
  have stops (s : String) : Json.Stops Char.isDigit (s ++ label).toList.reverse := by
    intro d first
    rw [List.head?_reverse, String.toList_append, List.getLast?_append, last,
      Option.some_or] at first
    rwa [← Option.some.inj first]
  rw [← String.toList_inj, String.toList_append, String.toList_append (s := t ++ label), text, text,
    String.toList_ofList, String.toList_ofList] at same
  obtain ⟨texts, numbers⟩ := append_digits_inj (stops s) (stops t) same
  exact ⟨(String.append_left_inj label).mp (String.toList_inj.mp texts), numbers⟩

end Decimal

namespace TokenFault

variable {a b : TokenFault}

/-- The last character of a reason's message. -/
def final : TokenFault → Char
  | .empty => 'r'
  | .invalidDigits => ')'
  | .indexOverflow => 's'

theorem getLast?_message (a : TokenFault) : a.message.toList.getLast? = some a.final := by
  cases a <;> delta message <;> simp only [String.toList_append, List.getLast?_append] <;> rfl

theorem final_injective (same : a.final = b.final) : a = b := by
  revert same
  cases a <;> cases b <;> decide

/-- The reason at the end of a text is told from what stands before it. -/
theorem append_message_inj {s t : String} (same : s ++ a.message = t ++ b.message) :
    s = t ∧ a = b := by
  have last (s : String) (a : TokenFault) : (s ++ a.message).toList.getLast? = some a.final := by
    rw [String.toList_append, List.getLast?_append, getLast?_message, Option.some_or]
  have ends : a.final = b.final := by rw [← Option.some.injEq, ← last s, same, last t]
  obtain rfl := final_injective ends
  exact ⟨(String.append_left_inj _).mp same, rfl⟩

end TokenFault

namespace Fault

/-- The first character of the messages of a fault's kind. -/
def initial : Fault → Char
  | .invalidIndex _ => 'c'
  | .malformed .. => 'm'
  | .outOfBounds .. => 's'

theorem head?_message (a : Fault) : a.message.toList.head? = some a.initial := by
  cases a <;> delta message <;> simp only [String.toList_append, List.head?_append] <;> rfl

theorem invalidIndex_of_message_eq {i j : UInt32}
    (same : (invalidIndex i).message = (invalidIndex j).message) : i = j := by
  have front := (String.append_left_inj _).mp same
  have number := (String.append_right_inj _).mp front
  exact UInt32.toNat_inj.mp (Decimal.text_injective number)

theorem malformed_of_message_eq {token token' : String} {position position' : Nat}
    {reason reason' : TokenFault}
    (same : (malformed token position reason).message =
      (malformed token' position' reason').message) :
    token = token' ∧ position = position' ∧ reason = reason' := by
  obtain ⟨located, reasons⟩ := TokenFault.append_message_inj same
  have front := (String.append_left_inj _).mp located
  obtain ⟨tokens, positions⟩ := Decimal.append_text_inj (c := ' ') rfl rfl front
  exact ⟨(String.append_right_inj _).mp tokens, positions, reasons⟩

theorem outOfBounds_of_message_eq {index index' len len' : Nat}
    (same : (outOfBounds index len).message = (outOfBounds index' len').message) :
    index = index' ∧ len = len' := by
  have front := (String.append_left_inj _).mp same
  obtain ⟨indexed, lengths⟩ := Decimal.append_text_inj (c := ' ') rfl rfl front
  have indexes := (String.append_right_inj _).mp indexed
  exact ⟨Decimal.text_injective indexes, lengths⟩

/-- Faults with the same message are the same, whatever their tokens are. -/
theorem messages_tell_faults_apart (a b : Fault) : a.message = b.message ↔ a = b := by
  constructor
  · intro same
    have kinds : a.initial = b.initial := by
      rw [← Option.some.injEq, ← head?_message, same, head?_message]
    cases a <;> cases b
    case invalidIndex.invalidIndex i j => rw [invalidIndex_of_message_eq same]
    case malformed.malformed token position reason token' position' reason' =>
      obtain ⟨rfl, rfl, rfl⟩ := malformed_of_message_eq same
      rfl
    case outOfBounds.outOfBounds index len index' len' =>
      obtain ⟨rfl, rfl⟩ := outOfBounds_of_message_eq same
      rfl
    all_goals simp [initial] at kinds
  · rintro rfl
    rfl

end Fault

end KeyPath
