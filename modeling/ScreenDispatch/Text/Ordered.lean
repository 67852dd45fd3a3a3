/-!
Texts as a set: in the order of their characters, each once.
-/
set_option autoImplicit false

namespace ScreenDispatch.Text

def ordered (texts : List String) : List String :=
  texts.eraseDups.mergeSort fun a b => decide (a ≤ b)

theorem mem_ordered (text : String) (texts : List String) :
    text ∈ ordered texts ↔ text ∈ texts := by
  simp [ordered]

end ScreenDispatch.Text
