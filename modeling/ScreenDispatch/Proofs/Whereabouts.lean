import ScreenDispatch.FileStore

/-!
Where paths lead. The names of a path tell the place, whatever is there, and on the way only the directories
count.
-/
set_option autoImplicit false

namespace ScreenDispatch

def Spot.place : Spot → Location
  | .node place _ => place
  | .free place => place

namespace Path

def child (dir : Path) (name : String) : Path := ⟨dir.slashes, dir.parts ++ [name]⟩

structure Short (p : Path) : Prop where
  text : p.text.utf8ByteSize ≤ pathLimit
  names : ∀ name ∈ p.parts, name.utf8ByteSize ≤ nameLimit

theorem join_plain (dir : Path) (name : String) (plain : '/' ∉ name.toList) (filled : name ≠ "") (proper : name ≠ ".") :
    dir.join (.ofString name) = dir.child name := by
  have slashes : name.toList.takeWhile (· == '/') = [] := by
    cases letters : name.toList with
    | nil => rfl
    | cons c rest =>
        rw [letters, List.mem_cons, not_or] at plain
        rw [List.takeWhile_cons_of_neg (by simpa using Ne.symm plain.1)]
  have read : ofString name = ⟨0, [name]⟩ := by
    simp [ofString, slashes, keptSlashes, pieces_plain _ plain, filled, proper]
  rw [read]
  rfl

end Path

theorem climb_down (here : Location) (names : List String) (proper : ".." ∉ names) :
    names.foldl climb here = here ++ names := by
  induction names generalizing here with
  | nil => rw [List.foldl_nil, List.append_nil]
  | cons name rest ih =>
      rw [List.mem_cons, not_or] at proper
      rw [List.foldl_cons, climb, if_neg (Ne.symm proper.1), ih _ proper.2, List.append_assoc]
      rfl

namespace FileStore

theorem place_child (s : FileStore) (dir : Path) (name : String) (proper : name ≠ "..") :
    s.place (dir.child name) = s.place dir ++ [name] := by
  rw [place, place, Path.child, List.foldl_append]
  exact if_neg proper

theorem start_of_current (s t : FileStore) (p : Path) (current : t.current = s.current) : t.start p = s.start p := by
  rw [start, start, current]

theorem place_of_current (s t : FileStore) (p : Path) (current : t.current = s.current) : t.place p = s.place p := by
  rw [place, place, start_of_current s t p current]

theorem place_put (s : FileStore) (target : Location) (node : Node) (p : Path) :
    (s.put target node).place p = s.place p := place_of_current s _ p rfl

theorem trail_of_current (s t : FileStore) (p : Path) (current : t.current = s.current) : t.trail p = s.trail p := by
  rw [trail, trail, start_of_current s t p current]

theorem resolve_of_current (s t : FileStore) (p : Path) (current : t.current = s.current) :
    t.resolve p = s.resolve p := by
  rw [resolve, resolve, place_of_current s t p current]

theorem resolve_put (s : FileStore) (target : Location) (node : Node) (p : Path) :
    (s.put target node).resolve p = s.resolve p := resolve_of_current s _ p rfl

theorem place_resolve (s : FileStore) (p : Path) : s.place (s.resolve p) = s.place p := by
  have start : ".." ∉ s.start p := by
    rw [start]
    split
    · exact List.not_mem_nil
    · exact s.proper
  exact climb_down [] _ (climbed_proper _ p.parts start)

theorem resolve_child (s : FileStore) (dir : Path) (name : String) (proper : name ≠ "..") :
    s.resolve (dir.child name) = (s.resolve dir).child name := by
  rw [resolve, place_child s dir name proper]
  rfl

theorem end_in_trail (here : Location) (names : List String) (some : names ≠ []) :
    names.foldl climb here ∈ trailFrom here names := by
  induction names generalizing here with
  | nil => exact absurd rfl some
  | cons name rest ih =>
      rw [trailFrom, List.foldl_cons]
      by_cases last : rest = []
      · rw [last]
        exact List.mem_cons_self
      · exact List.mem_cons_of_mem _ (ih _ last)

theorem trail_prefix (here : Location) (names more : List String) (place : Location)
    (inside : place ∈ trailFrom here names) : place ∈ trailFrom here (names ++ more) := by
  induction names generalizing here with
  | nil => cases inside
  | cons name rest ih =>
      rw [List.cons_append, trailFrom]
      rw [trailFrom] at inside
      rcases List.mem_cons.mp inside with rfl | later
      · exact List.mem_cons_self
      · exact List.mem_cons_of_mem _ (ih _ later)

theorem trail_parent (s : FileStore) (p : Path) (place : Location) (inside : place ∈ s.trail p.parent) :
    place ∈ s.trail p := by
  by_cases none : p.parts = []
  · rw [trail, Path.parent, none] at inside
    cases inside
  · rw [trail, ← List.dropLast_concat_getLast none]
    exact trail_prefix _ _ _ _ inside

def spotAt (s : FileStore) (place : Location) : Spot :=
  match s.node? place with
  | none => .free place
  | some node => .node place node

theorem spot_at_place (s : FileStore) (place : Location) : (s.spotAt place).place = place := by
  unfold spotAt
  split <;> rfl

theorem spot_at_node (s : FileStore) (place other : Location) (node : Node) (found : s.spotAt place = .node other node) :
    s.node? place = some node := by
  rw [spotAt] at found
  split at found
  · cases found
  · rename_i there
    rw [there, (Spot.node.inj found).2]

theorem follow_up (s : FileStore) (here : Location) (name : String) (rest : List String) (parent : name = "..") :
    s.follow here (name :: rest) = s.follow (climb here name) rest := by
  rw [follow.eq_def, climb, if_pos parent]
  exact if_pos parent

theorem follow_into (s : FileStore) (here : Location) (name : String) (rest : List String) (proper : name ≠ "..")
    (short : name.utf8ByteSize ≤ nameLimit) (directory : s.node? (climb here name) = some .directory) :
    s.follow here (name :: rest) = s.follow (climb here name) rest := by
  rw [climb, if_neg proper] at directory ⊢
  rw [follow.eq_def]
  simp only [if_neg proper, if_neg (Nat.not_lt.mpr short), directory]

theorem follow_other (s : FileStore) (here : Location) (name : String) (rest : List String) (spot : Spot)
    (proper : name ≠ "..") (short : name.utf8ByteSize ≤ nameLimit)
    (other : s.node? (climb here name) ≠ some .directory) :
    s.follow here (name :: rest) = .ok spot ↔ rest = [] ∧ spot = s.spotAt (climb here name) := by
  rw [climb, if_neg proper] at other ⊢
  rw [follow.eq_def, spotAt]
  simp only [if_neg proper, if_neg (Nat.not_lt.mpr short)]
  cases found : s.node? (here ++ [name]) with
  | none => cases rest <;> simp [eq_comm]
  | some node =>
      cases node with
      | directory => exact absurd found other
      | file text => cases rest <;> simp [eq_comm]

inductive Step (s : FileStore) (here : Location) (name : String) (rest : List String) (spot : Spot) : Prop where
  | up (parent : name = "..") (onward : s.follow (climb here name) rest = .ok spot)
  | into (proper : name ≠ "..") (short : name.utf8ByteSize ≤ nameLimit)
      (directory : s.node? (climb here name) = some .directory) (onward : s.follow (climb here name) rest = .ok spot)
  | arrived (proper : name ≠ "..") (short : name.utf8ByteSize ≤ nameLimit) (last : rest = [])
      (other : s.node? (climb here name) ≠ some .directory) (found : spot = s.spotAt (climb here name))

theorem follow_steps (s : FileStore) (here : Location) (name : String) (rest : List String) (spot : Spot)
    (ok : s.follow here (name :: rest) = .ok spot) : Step s here name rest spot := by
  by_cases parent : name = ".."
  · exact .up parent (follow_up s here name rest parent ▸ ok)
  · have short : name.utf8ByteSize ≤ nameLimit := by
      refine Nat.not_lt.mp fun long => ?_
      rw [follow.eq_def] at ok
      simp only [if_neg parent, if_pos long, reduceCtorEq] at ok
    by_cases directory : s.node? (climb here name) = some .directory
    · exact .into parent short directory (follow_into s here name rest parent short directory ▸ ok)
    · obtain ⟨last, found⟩ := (follow_other s here name rest spot parent short directory).mp ok
      exact .arrived parent short last directory found

def KeepsDirectories (s t : FileStore) : Prop :=
  ∀ place, s.node? place = some .directory → t.node? place = some .directory

theorem follow_last (s : FileStore) (here : Location) (name : String) (proper : name ≠ "..")
    (short : name.utf8ByteSize ≤ nameLimit) : s.follow here [name] = .ok (s.spotAt (climb here name)) := by
  by_cases directory : s.node? (climb here name) = some .directory
  · rw [follow_into s here name [] proper short directory, spotAt, directory]
    rfl
  · exact (follow_other s here name [] _ proper short directory).mpr ⟨rfl, rfl⟩

theorem follow_kept_directory (s t : FileStore) (kept : KeepsDirectories s t) (here : Location) (names : List String)
    (place : Location) (ok : s.follow here names = .ok (.node place .directory)) :
    t.follow here names = .ok (.node place .directory) := by
  induction names generalizing here with
  | nil => exact ok
  | cons name rest ih =>
      cases follow_steps s here name rest _ ok with
      | up parent onward =>
          rw [follow_up t here name rest parent]
          exact ih _ onward
      | into proper short directory onward =>
          rw [follow_into t here name rest proper short (kept _ directory)]
          exact ih _ onward
      | arrived _ _ _ other found => exact absurd (spot_at_node s _ _ _ found.symm) other

theorem follow_kept_other (s t : FileStore) (kept : KeepsDirectories s t) (here : Location) (names : List String)
    (spot : Spot) (ok : s.follow here names = .ok spot) (other : spot ≠ .node spot.place .directory) :
    t.follow here names = .ok (t.spotAt spot.place) := by
  induction names generalizing here with
  | nil =>
      obtain rfl := Except.ok.inj ok
      exact absurd rfl other
  | cons name rest ih =>
      cases follow_steps s here name rest spot ok with
      | up parent onward =>
          rw [follow_up t here name rest parent]
          exact ih _ onward
      | into proper short directory onward =>
          rw [follow_into t here name rest proper short (kept _ directory)]
          exact ih _ onward
      | arrived proper short last _ found =>
          subst last found
          rw [spot_at_place]
          exact follow_last t here name proper short

-- What is found at the end of a path: a directory, or whatever else stands at the place that the path leads to.
theorem follow_found (s : FileStore) (here : Location) (names : List String) (spot : Spot)
    (ok : s.follow here names = .ok spot) :
    spot.place = names.foldl climb here ∧
      (spot = .node spot.place .directory ∨ (names ≠ [] ∧ spot = s.spotAt spot.place)) := by
  induction names generalizing here with
  | nil =>
      obtain rfl := Except.ok.inj ok
      exact ⟨rfl, .inl rfl⟩
  | cons name rest ih =>
      rw [List.foldl_cons]
      cases follow_steps s here name rest spot ok with
      | up _ onward | into _ _ _ onward =>
          obtain ⟨place, found⟩ := ih _ onward
          exact ⟨place, found.imp_right fun other => ⟨List.cons_ne_nil _ _, other.2⟩⟩
      | arrived _ _ last _ found =>
          subst last found
          rw [spot_at_place]
          exact ⟨rfl, .inr ⟨List.cons_ne_nil _ _, rfl⟩⟩

theorem follow_append (s : FileStore) (here : Location) (names more : List String) (dir : Location)
    (reached : s.follow here names = .ok (.node dir .directory)) :
    s.follow here (names ++ more) = s.follow dir more := by
  induction names generalizing here with
  | nil =>
      obtain rfl := (Spot.node.inj (Except.ok.inj reached)).1
      rfl
  | cons name rest ih =>
      rw [List.cons_append]
      cases follow_steps s here name rest _ reached with
      | up parent onward => rw [follow_up s here name _ parent, ih _ onward]
      | into proper short directory onward => rw [follow_into s here name _ proper short directory, ih _ onward]
      | arrived _ _ _ other found => exact absurd (spot_at_node s _ _ _ found.symm) other

theorem follow_name_iff (s : FileStore) (dir : Location) (name : String) (proper : name ≠ "..") (spot : Spot) :
    s.follow dir [name] = .ok spot ↔ name.utf8ByteSize ≤ nameLimit ∧ spot = s.spotAt (dir ++ [name]) := by
  have down : climb dir name = dir ++ [name] := if_neg proper
  rw [← down]
  constructor
  · intro ok
    cases follow_steps s dir name [] spot ok with
    | up parent => exact absurd parent proper
    | into _ short | arrived _ short =>
        have last := follow_last s dir name proper short
        exact ⟨short, Except.ok.inj (ok.symm.trans last)⟩
  · rintro ⟨short, rfl⟩
    exact follow_last s dir name proper short

theorem spot_ok_iff (s : FileStore) (p : Path) (spot : Spot) :
    s.spot p = .ok spot ↔
      p.holdsNul = false ∧ p.text.utf8ByteSize ≤ pathLimit ∧ s.follow (s.start p) p.parts = .ok spot := by
  rw [FileStore.spot]
  by_cases nul : p.holdsNul = true
  · simp [nul]
  · by_cases long : p.text.utf8ByteSize > pathLimit
    · rw [if_neg nul, if_pos long]
      exact iff_of_false nofun fun all => absurd long (Nat.not_lt.mpr all.2.1)
    · simp only [nul, long, Bool.false_eq_true, if_false, Nat.not_lt.mp long, true_and]
      cases s.follow (s.start p) p.parts <;> simp

theorem spot_found (s : FileStore) (p : Path) (spot : Spot) (ok : s.spot p = .ok spot) :
    spot.place = s.place p ∧
      (spot = .node spot.place .directory ∨ (p.parts ≠ [] ∧ spot = s.spotAt spot.place)) :=
  follow_found s _ _ spot ((spot_ok_iff s p spot).mp ok).2.2

theorem spot_kept_directory (s t : FileStore) (current : t.current = s.current) (kept : KeepsDirectories s t) (p : Path)
    (place : Location) (ok : s.spot p = .ok (.node place .directory)) : t.spot p = .ok (.node place .directory) := by
  obtain ⟨plain, short, followed⟩ := (spot_ok_iff s p _).mp ok
  refine (spot_ok_iff t p _).mpr ⟨plain, short, ?_⟩
  rw [start_of_current s t p current]
  exact follow_kept_directory s t kept _ _ place followed

theorem spot_kept_other (s t : FileStore) (current : t.current = s.current) (kept : KeepsDirectories s t) (p : Path)
    (spot : Spot) (ok : s.spot p = .ok spot) (other : spot ≠ .node spot.place .directory) :
    t.spot p = .ok (t.spotAt (s.place p)) := by
  obtain ⟨plain, short, followed⟩ := (spot_ok_iff s p _).mp ok
  refine (spot_ok_iff t p _).mpr ⟨plain, short, ?_⟩
  rw [start_of_current s t p current, ← (spot_found s p spot ok).1]
  exact follow_kept_other s t kept _ _ spot followed other

theorem follow_short (s : FileStore) (here : Location) (names : List String)
    (short : ∀ name ∈ names, name.utf8ByteSize ≤ nameLimit) : s.follow here names ≠ .error .tooLong := by
  induction names generalizing here with
  | nil => exact nofun
  | cons name rest ih =>
      obtain ⟨fits, others⟩ := List.forall_mem_cons.mp short
      rw [follow.eq_def]
      simp only [if_neg (Nat.not_lt.mpr fits)]
      split
      · exact ih _ others
      · split
        · exact nofun
        · exact nofun
        · exact nofun
        · exact nofun
        · exact ih _ others

theorem spot_too_long (s : FileStore) (p q : Path) (failed : s.spot p = .error (.refused .tooLong q)) :
    q = p ∧ ¬ p.Short := by
  rw [spot] at failed
  split at failed
  · cases failed
  · split at failed
    · rename_i long
      cases failed
      exact ⟨rfl, fun short => Nat.not_lt.mpr short.text long⟩
    · split at failed
      · cases failed
      · rename_i fault stopped
        cases failed
        exact ⟨rfl, fun short => follow_short s _ _ short.names stopped⟩

theorem holds_error (s : FileStore) (p : Path) (e : StoreError) (failed : s.holds p = .error e) :
    e = .refused .tooLong p ∧ ¬ p.Short := by
  rw [holds] at failed
  split at failed
  · cases failed
  · rename_i q found
    obtain ⟨rfl, long⟩ := spot_too_long s p q found
    exact ⟨(Except.error.inj failed).symm, long⟩
  · cases failed

theorem long_name_refused (s : FileStore) (name : String) (noNul : '\x00' ∉ name.toList) (proper : name ≠ "..")
    (long : nameLimit < name.utf8ByteSize) (fits : name.utf8ByteSize ≤ pathLimit) :
    s.holds ⟨0, [name]⟩ = .error (.refused .tooLong ⟨0, [name]⟩) := by
  have text : (⟨0, [name]⟩ : Path).text = name := by simp [Path.text]
  have plain : (⟨0, [name]⟩ : Path).holdsNul = false := by simpa [Path.holdsNul] using noNul
  have stops : s.follow (s.start ⟨0, [name]⟩) [name] = .error .tooLong := by
    rw [follow.eq_def]
    simp only [if_neg proper, if_pos long]
  rw [holds, spot, plain, text, if_neg Bool.false_ne_true, if_neg (Nat.not_lt.mpr fits), stops]

theorem follow_front (s : FileStore) (here : Location) (names : List String) (name : String) (spot : Spot)
    (ok : s.follow here (names ++ [name]) = .ok spot) :
    s.follow here names = .ok (.node (names.foldl climb here) .directory) := by
  induction names generalizing here with
  | nil => rfl
  | cons first rest ih =>
      rw [List.cons_append] at ok
      rw [List.foldl_cons]
      cases follow_steps s here first _ spot ok with
      | up parent onward => rw [follow_up s here first rest parent, ih _ onward]
      | into proper short directory onward => rw [follow_into s here first rest proper short directory, ih _ onward]
      | arrived _ _ last => exact absurd last (List.append_ne_nil_of_right_ne_nil rest (List.cons_ne_nil name []))

-- The names of the path lead to a directory, however long the path is.
def Reaches (s : FileStore) (p : Path) : Prop := s.follow (s.start p) p.parts = .ok (.node (s.place p) .directory)

theorem Reaches.kept {s t : FileStore} {p : Path} (reaches : s.Reaches p) (current : t.current = s.current)
    (kept : KeepsDirectories s t) : t.Reaches p := by
  rw [Reaches, start_of_current s t p current, place_of_current s t p current]
  exact follow_kept_directory s t kept _ _ _ reaches

structure Fits (dir : Path) (name : String) : Prop where
  plain : (dir.child name).holdsNul = false
  path : (dir.child name).text.utf8ByteSize ≤ pathLimit
  name : name.utf8ByteSize ≤ nameLimit

theorem spot_child_iff (s : FileStore) (dir : Path) (name : String) (spot : Spot) (proper : name ≠ "..") :
    s.spot (dir.child name) = .ok spot ↔
      s.Reaches dir ∧ Fits dir name ∧ spot = s.spotAt (s.place dir ++ [name]) := by
  have down (reaches : s.Reaches dir) :
      s.follow (s.start (dir.child name)) (dir.child name).parts = s.follow (s.place dir) [name] :=
    follow_append s _ _ _ _ reaches
  rw [spot_ok_iff]
  constructor
  · rintro ⟨plain, path, followed⟩
    have reaches : s.Reaches dir := follow_front s _ dir.parts name spot followed
    rw [down reaches, follow_name_iff s _ name proper] at followed
    exact ⟨reaches, ⟨plain, path, followed.1⟩, followed.2⟩
  · rintro ⟨reaches, fits, found⟩
    rw [down reaches, follow_name_iff s _ name proper]
    exact ⟨fits.plain, fits.path, fits.name, found⟩

end FileStore
end ScreenDispatch
