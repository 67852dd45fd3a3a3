/-!
Mappings from the labels of a case to the labels of an initializer. The entries keep the order
in which their keys came first, and a key that comes again takes the new value.
-/
set_option autoImplicit false

namespace ScreenDispatch

structure Mapping where
  entries : List (String × String)
  nodup : (entries.map Prod.fst).Nodup
deriving DecidableEq

namespace Mapping

def empty : Mapping := ⟨[], by simp⟩

instance : Inhabited Mapping := ⟨empty⟩

def keys (m : Mapping) : List String := m.entries.map Prod.fst

def isEmpty (m : Mapping) : Bool := m.entries.isEmpty

def get? (m : Mapping) (key : String) : Option String := m.entries.lookup key

def contains (m : Mapping) (key : String) : Bool := m.keys.contains key

def replace (key value : String) (entries : List (String × String)) : List (String × String) :=
  entries.map fun entry => if entry.1 = key then (key, value) else entry

theorem keys_replace (key value : String) (entries : List (String × String)) :
    (replace key value entries).map Prod.fst = entries.map Prod.fst := by
  simp only [replace, List.map_map]
  apply List.map_congr_left
  intro entry _
  simp only [Function.comp]
  split <;> simp_all

theorem nodup_append (m : Mapping) (key value : String) (h : key ∉ m.keys) :
    ((m.entries ++ [(key, value)]).map Prod.fst).Nodup := by
  rw [List.map_append, List.nodup_append]
  refine ⟨m.nodup, by simp, ?_⟩
  intro a present b added same
  simp only [List.map_cons, List.map_nil, List.mem_singleton] at added
  exact h (by rw [← added, ← same]; exact present)

def insert (m : Mapping) (key value : String) : Mapping :=
  if h : key ∈ m.keys then
    ⟨replace key value m.entries, by rw [keys_replace]; exact m.nodup⟩
  else ⟨m.entries ++ [(key, value)], m.nodup_append key value h⟩

def ofList (entries : List (String × String)) : Mapping :=
  entries.foldl (fun m entry => m.insert entry.1 entry.2) empty

end Mapping
end ScreenDispatch
