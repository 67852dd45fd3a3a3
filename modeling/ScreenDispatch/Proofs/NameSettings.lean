import ScreenDispatch.Proofs.FileRequests

/-!
Settings that have names in them: the shapes that they are read in, and for any other value the place where reading it
stops.
-/
set_option autoImplicit false

namespace ScreenDispatch

inductive EntryNames : RawValue → List String → Prop where
  | name (name : String) : EntryNames (.text name) [name]
  | group (names : List String) : EntryNames (.list (names.map .text)) names

inductive NamesOf : RawValue → List String → Prop where
  | absent : NamesOf .null []
  | entries (items : List RawValue) (groups : List (List String)) (each : List.Forall₂ EntryNames items groups) :
      NamesOf (.list items) groups.flatten

inductive NoEntry : RawValue → ShapeError → Prop where
  | entry (v : RawValue) (noName : ∀ name, v ≠ .text name) (noGroup : ∀ items, v ≠ .list items) :
      NoEntry v ⟨.entry, v.typeName⟩
  | name (names : List String) (v : RawValue) (rest : List RawValue) (noName : ∀ name, v ≠ .text name) :
      NoEntry (.list (names.map .text ++ v :: rest)) ⟨.name, v.typeName⟩

inductive OutOfPlace : RawValue → ShapeError → Prop where
  | value (v : RawValue) (given : v ≠ .null) (noList : ∀ items, v ≠ .list items) : OutOfPlace v ⟨.value, v.typeName⟩
  | within (front : List RawValue) (v : RawValue) (back : List RawValue) (error : ShapeError)
      (good : ∀ x ∈ front, ∃ names, EntryNames x names) (bad : NoEntry v error) :
      OutOfPlace (.list (front ++ v :: back)) error

theorem name_text_ok_iff (v : RawValue) (name : String) : v.nameText = .ok name ↔ v = .text name := by
  cases v <;> simp [RawValue.nameText]

theorem name_text_error_iff (v : RawValue) (error : ShapeError) :
    v.nameText = .error error ↔ (∀ name, v ≠ .text name) ∧ error = ⟨.name, v.typeName⟩ := by
  cases v <;> simp [RawValue.nameText, eq_comm]

theorem texts_of_names (xs : List RawValue) (p : String → Prop) (each : ∀ x ∈ xs, ∃ name, x = .text name ∧ p name) :
    ∃ names : List String, xs = names.map .text ∧ ∀ name ∈ names, p name := by
  induction xs with
  | nil => exact ⟨[], rfl, by simp⟩
  | cons x tail ih =>
      obtain ⟨⟨name, rfl, holds⟩, others⟩ := List.forall_mem_cons.mp each
      obtain ⟨names, rfl, all⟩ := ih others
      exact ⟨name :: names, rfl, List.forall_mem_cons.mpr ⟨holds, all⟩⟩

theorem group_ok_iff (items : List RawValue) (names : List String) :
    items.mapM RawValue.nameText = .ok names ↔ items = names.map .text := by
  simp only [map_m_ok_iff, name_text_ok_iff]
  rw [← List.forall₂_map_right_iff (R := Eq), List.forall₂_eq_eq_eq]

theorem entry_ok_iff (v : RawValue) (names : List String) : v.entryNames = .ok names ↔ EntryNames v names := by
  constructor
  · intro read
    cases v with
    | text name =>
        cases read
        exact .name name
    | list items =>
        obtain rfl := (group_ok_iff items names).mp read
        exact .group names
    | null | bool | int | float | dict => cases read
  · intro entry
    cases entry with
    | name name => rfl
    | group => exact RawValue.map_name_text names

theorem entry_error_iff (v : RawValue) (error : ShapeError) : v.entryNames = .error error ↔ NoEntry v error := by
  constructor
  · intro failed
    cases v with
    | text => cases failed
    | list items =>
        obtain ⟨front, x, rest, rfl, good, bad⟩ := (map_m_error_iff _ items error).mp failed
        obtain ⟨noName, rfl⟩ := (name_text_error_iff x error).mp bad
        obtain ⟨names, rfl, -⟩ := texts_of_names front (fun _ => True) fun y member => by
          obtain ⟨name, read⟩ := good y member
          exact ⟨name, (name_text_ok_iff y name).mp read, trivial⟩
        exact .name names x rest noName
    | null | bool | int | float | dict =>
        cases failed
        exact .entry _ nofun nofun
  · intro wrong
    cases wrong with
    | entry v noName noGroup =>
        cases v with
        | text name => exact absurd rfl (noName name)
        | list items => exact absurd rfl (noGroup items)
        | null | bool | int | float | dict => rfl
    | name names v rest noName =>
        refine (map_m_error_iff _ _ _).mpr ⟨_, v, rest, rfl, ?_, (name_text_error_iff v _).mpr ⟨noName, rfl⟩⟩
        intro x member
        obtain ⟨name, -, rfl⟩ := List.mem_map.mp member
        exact ⟨name, rfl⟩

theorem names_ok_iff (v : RawValue) (names : List String) : v.names = .ok names ↔ NamesOf v names := by
  constructor
  · intro read
    cases v with
    | null =>
        cases read
        exact .absent
    | list items =>
        obtain ⟨groups, entries, same⟩ := bind_ok _ _ _ read
        obtain rfl := Except.ok.inj same
        exact .entries items groups ((map_m_ok _ _ _ entries).imp fun x names => (entry_ok_iff x names).mp)
    | text | bool | int | float | dict => cases read
  · intro shaped
    cases shaped with
    | absent => rfl
    | entries items groups each =>
        have read : items.mapM RawValue.entryNames = .ok groups :=
          (map_m_ok_iff _ items groups).mpr (each.imp fun x names => (entry_ok_iff x names).mpr)
        simp only [RawValue.names, read]
        rfl

theorem names_error_iff (v : RawValue) (error : ShapeError) : v.names = .error error ↔ OutOfPlace v error := by
  constructor
  · intro failed
    cases v with
    | null => cases failed
    | list items =>
        obtain failed | ⟨_, -, never⟩ := (bind_error_iff _ _ _).mp failed
        · obtain ⟨front, x, back, rfl, good, bad⟩ := (map_m_error_iff _ items error).mp failed
          refine .within front x back error (fun y member => ?_) ((entry_error_iff x error).mp bad)
          obtain ⟨names, read⟩ := good y member
          exact ⟨names, (entry_ok_iff y names).mp read⟩
        · cases never
    | text | bool | int | float | dict =>
        cases failed
        exact .value _ nofun nofun
  · intro wrong
    cases wrong with
    | value v given noList =>
        cases v with
        | null => exact absurd rfl given
        | list items => exact absurd rfl (noList items)
        | text | bool | int | float | dict => rfl
    | within front v back error good bad =>
        have failed : (front ++ v :: back).mapM RawValue.entryNames = .error error := by
          refine (map_m_error_iff _ _ _).mpr ⟨front, v, back, rfl, fun x member => ?_, (entry_error_iff v error).mpr bad⟩
          obtain ⟨names, entry⟩ := good x member
          exact ⟨names, (entry_ok_iff x names).mpr entry⟩
        simp only [RawValue.names, failed]
        rfl

inductive NoName (report : String → ConfigError) : RawValue → RequestError → Prop where
  | misspelt (name : String) (wrong : ¬ Text.isIdentifierLine name.toList = true) :
      NoName report (.text name) (.config (report name))
  | noText (v : RawValue) (noName : ∀ name, v ≠ .text name) :
      NoName report v (.breakdown (.misuse ⟨.name, v.typeName⟩))

theorem chosen_name_error_iff (check : String → Except ConfigError String) (report : String → ConfigError)
    (checks : ∀ name, check name = if Text.isIdentifierLine name.toList then .ok name else .error (report name))
    (v : RawValue) (e : RequestError) : chosenName check v = .error e ↔ NoName report v e := by
  constructor
  · intro failed
    cases v with
    | text name =>
        obtain ⟨cause, stopped, rfl⟩ := (map_error_error_iff _ _ e).mp failed
        rw [checks] at stopped
        split at stopped
        · cases stopped
        · cases stopped
          exact .misspelt name ‹_›
    | null | bool | int | float | list | dict =>
        cases failed
        exact .noText _ nofun
  · intro wrong
    cases wrong with
    | misspelt name wrong => simp only [chosenName, checks, if_neg wrong, Except.mapError]
    | noText v noName =>
        cases v with
        | text name => exact absurd rfl (noName name)
        | null | bool | int | float | list | dict => rfl

inductive NoModules (v : RawValue) : RequestError → Prop where
  | noItems (given : v ≠ .null) (single : v.items? = none) : NoModules v (.breakdown (.misuse ⟨.items, v.typeName⟩))
  | name (x : RawValue) (front : List String) (back : List RawValue) (e : RequestError)
      (items : v.items? = some (front.map .text ++ x :: back))
      (good : ∀ name ∈ front, Text.isIdentifierLine name.toList = true) (bad : NoName .invalidImport x e) :
      NoModules v e

theorem chosen_import_error_iff (v : RawValue) (e : RequestError) :
    chosenName checkedImport v = .error e ↔ NoName .invalidImport v e :=
  chosen_name_error_iff checkedImport .invalidImport (fun _ => rfl) v e

theorem chosen_imports_error_iff (v : RawValue) (e : RequestError) : chosenImports v = .error e ↔ NoModules v e := by
  by_cases absent : v = .null
  · subst absent
    refine iff_of_false nofun fun wrong => ?_
    cases wrong with
    | noItems given => exact given rfl
    | name x front back e items => cases items
  rw [chosen_imports_given v absent]
  constructor
  · intro failed
    split at failed
    · cases failed
      exact .noItems absent ‹_›
    · rename_i items found
      obtain ⟨front, x, back, rfl, good, bad⟩ := (map_m_error_iff _ items e).mp failed
      obtain ⟨names, rfl, spelled⟩ := texts_of_names front (fun name => Text.isIdentifierLine name.toList = true)
        fun y member => by
          obtain ⟨name, read⟩ := good y member
          exact ⟨name, (chosen_import_ok_iff y name).mp read⟩
      exact .name x names back e found spelled ((chosen_import_error_iff x e).mp bad)
  · intro wrong
    cases wrong with
    | noItems given single => rw [single]; rfl
    | name x front back e items good bad =>
        rw [items]
        refine (map_m_error_iff _ _ e).mpr ⟨_, x, back, rfl, fun y member => ?_, (chosen_import_error_iff x e).mpr bad⟩
        obtain ⟨name, inside, rfl⟩ := List.mem_map.mp member
        exact ⟨name, (chosen_import_ok_iff _ name).mpr ⟨rfl, good name inside⟩⟩

end ScreenDispatch
