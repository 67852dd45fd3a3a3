/-!
Expressions in attribute arguments. Every node records what it was read from: the reader
records tokens, and all later stages work on the text between the first token and the last.
-/
set_option autoImplicit false

namespace ScreenDispatch

-- `source` is what the node was read from. A string keeps its escapes undecoded, and
-- `unparsed` stands for text outside this grammar.
inductive Expr (α : Type) where
  | reference (source : α) (name : String)
  | member (source : α) (base : Expr α) (name : String)
  | implicitMember (source : α) (name : String)
  | specialization (source : α) (base : Expr α) (arguments : List α)
  | string (source : α) (value : String)
  | number (source : α)
  | keyword (source : α)
  | dictionary (source : α) (entries : List (Expr α × Expr α))
  | array (source : α) (items : List (Expr α))
  | tuple (source : α) (items : List (Expr α))
  | closure (source : α)
  | functionType (source : α)
  | prefixed (source : α) (keyword : String) (operand : α)
  | unparsed (source : α)
deriving Repr, Inhabited

namespace Expr

variable {α β : Type}

def source : Expr α → α
  | .reference s _ | .member s _ _ | .implicitMember s _ | .specialization s _ _ | .string s _
  | .number s | .keyword s | .dictionary s _ | .array s _ | .tuple s _ | .closure s
  | .functionType s | .prefixed s _ _ | .unparsed s => s

mutual
def map (f : α → β) : Expr α → Expr β
  | .reference s name => .reference (f s) name
  | .member s base name => .member (f s) (base.map f) name
  | .implicitMember s name => .implicitMember (f s) name
  | .specialization s base arguments => .specialization (f s) (base.map f) (arguments.map f)
  | .string s value => .string (f s) value
  | .number s => .number (f s)
  | .keyword s => .keyword (f s)
  | .dictionary s entries => .dictionary (f s) (mapEntries f entries)
  | .array s items => .array (f s) (mapItems f items)
  | .tuple s items => .tuple (f s) (mapItems f items)
  | .closure s => .closure (f s)
  | .functionType s => .functionType (f s)
  | .prefixed s word operand => .prefixed (f s) word (f operand)
  | .unparsed s => .unparsed (f s)

def mapItems (f : α → β) : List (Expr α) → List (Expr β)
  | [] => []
  | e :: rest => e.map f :: mapItems f rest

def mapEntries (f : α → β) : List (Expr α × Expr α) → List (Expr β × Expr β)
  | [] => []
  | (key, value) :: rest => (key.map f, value.map f) :: mapEntries f rest
end

theorem map_items_eq (f : α → β) (items : List (Expr α)) :
    mapItems f items = items.map (map f) := by
  induction items with
  | nil => rfl
  | cons e rest ih => simp [mapItems, ih]

theorem map_entries_eq (f : α → β) (entries : List (Expr α × Expr α)) :
    mapEntries f entries = entries.map fun entry => (entry.1.map f, entry.2.map f) := by
  induction entries with
  | nil => rfl
  | cons entry rest ih =>
    rcases entry with ⟨key, value⟩
    simp [mapEntries, ih]

theorem source_map (f : α → β) (e : Expr α) : (e.map f).source = f e.source := by
  cases e <;> simp [map, source]

end Expr
end ScreenDispatch
