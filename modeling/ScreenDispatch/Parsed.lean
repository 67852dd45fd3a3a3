/-!
The result of one reading step: what was read and the input that is left, which is shorter than
a bound. Readers that go on with what is left come to an end because of it.
-/
set_option autoImplicit false

namespace ScreenDispatch

-- What was read and what is left of the input, fewer than `bound` symbols.
structure Parsed (σ α : Type) (bound : Nat) where
  value : α
  rest : List σ
  shorter : rest.length < bound

namespace Parsed

variable {σ α : Type} {m n : Nat}

theorem length_rest (p : Parsed σ α n) : p.rest.length < n := p.shorter

grind_pattern length_rest => p.rest

theorem length_tail (first : σ) (rest : List σ) : rest.length < (first :: rest).length := Nat.lt_succ_self _

theorem length_tail_two (first second : σ) (rest : List σ) : rest.length < (first :: second :: rest).length :=
  Nat.lt_trans (length_tail second rest) (length_tail first (second :: rest))

def start (symbols : List σ) : Parsed σ Unit (symbols.length + 1) :=
  ⟨(), symbols, Nat.lt_succ_self _⟩

def map {β : Type} (f : α → β) (p : Parsed σ α n) : Parsed σ β n :=
  ⟨f p.value, p.rest, p.shorter⟩

def widen (p : Parsed σ α m) (h : m ≤ n) : Parsed σ α n := ⟨p.value, p.rest, by grind⟩

end Parsed
end ScreenDispatch
