import ScreenDispatch.Proofs.Whereabouts

/-!
What making directories and writing a file change. Directories are new along the path alone and only where nothing
was; a file is put where the path leads, unless a directory stands there.
-/
set_option autoImplicit false

namespace ScreenDispatch.FileStore

theorem node_root (s : FileStore) : s.node? [] = some .directory := if_pos rfl

theorem not_root_of_node (s : FileStore) (place : Location) (other : s.node? place ≠ some .directory) : place ≠ [] := by
  rintro rfl
  exact other s.node_root

theorem spot_at_free (s : FileStore) (place other : Location) (found : s.spotAt place = .free other) :
    s.node? place = none := by
  rw [spotAt] at found
  split at found
  · assumption
  · cases found

structure Furnished (places : List Location) (s t : FileStore) : Prop where
  current : t.current = s.current
  changed : ∀ place, t.node? place = s.node? place ∨
    (place ∈ places ∧ s.node? place = none ∧ t.node? place = some .directory)

theorem Furnished.same (places : List Location) (s : FileStore) : Furnished places s s := ⟨rfl, fun _ => .inl rfl⟩

theorem Furnished.then {places : List Location} {s m t : FileStore} (first : Furnished places s m)
    (second : Furnished places m t) : Furnished places s t := by
  refine ⟨second.current.trans first.current, fun place => ?_⟩
  rcases second.changed place with kept | ⟨along, free, made⟩
  · rw [kept]
    exact first.changed place
  · rcases first.changed place with kept | ⟨_, _, earlier⟩
    · exact .inr ⟨along, kept ▸ free, made⟩
    · rw [free] at earlier
      cases earlier

theorem Furnished.widen {places more : List Location} {s t : FileStore} (furnished : Furnished places s t)
    (wider : ∀ place ∈ places, place ∈ more) : Furnished more s t := by
  refine ⟨furnished.current, fun place => (furnished.changed place).imp_right ?_⟩
  rintro ⟨along, rest⟩
  exact ⟨wider place along, rest⟩

theorem Furnished.keeps {places : List Location} {s t : FileStore} (furnished : Furnished places s t) :
    KeepsDirectories s t := by
  intro place directory
  rcases furnished.changed place with kept | ⟨_, free, _⟩
  · rw [kept, directory]
  · rw [directory] at free
    cases free

theorem make_directory_ok (s made : FileStore) (p : Path) (ok : s.makeDirectory p = .ok made) :
    s.spot p = .ok (.free (s.place p)) ∧ p.parts ≠ [] ∧ s.node? (s.place p) = none ∧
      made = s.put (s.place p) .directory := by
  rw [makeDirectory] at ok
  split at ok
  · cases ok
  · cases ok
  · rename_i place found
    obtain ⟨there, directory | ⟨some, standing⟩⟩ := spot_found s p _ found
    · cases directory
    · obtain rfl : place = s.place p := there
      exact ⟨found, some, spot_at_free s _ _ standing.symm, (Except.ok.inj ok).symm⟩

theorem put_free_furnishes (s : FileStore) (place : Location) (places : List Location) (free : s.node? place = none)
    (along : place ∈ places) : Furnished places s (s.put place .directory) := by
  refine ⟨rfl, fun other => ?_⟩
  rw [node_put s place other _ (not_root_of_node s place (by simp [free]))]
  by_cases same : other = place
  · subst same
    exact .inr ⟨along, free, if_pos rfl⟩
  · exact .inl (if_neg same)

theorem make_directory_furnishes (s made : FileStore) (p : Path) (ok : s.makeDirectory p = .ok made) :
    Furnished (s.trail p) s made := by
  obtain ⟨-, some, free, rfl⟩ := make_directory_ok s made p ok
  exact put_free_furnishes s _ _ free (end_in_trail _ _ some)

theorem made_directory_stands (s made : FileStore) (p : Path) (ok : s.makeDirectory p = .ok made) :
    made.spot p = .ok (.node (s.place p) .directory) := by
  have kept := (make_directory_furnishes s made p ok).keeps
  obtain ⟨found, -, free, rfl⟩ := make_directory_ok s made p ok
  have there := node_put s (s.place p) (s.place p) .directory (not_root_of_node s _ (by simp [free]))
  rw [if_pos rfl] at there
  rw [spot_kept_other s (s.put (s.place p) .directory) rfl kept p _ found nofun, spotAt, there]

def Stands (s : FileStore) (p : Path) : Prop := s.spot p = .ok (.node (s.place p) .directory)

theorem stands_iff (s : FileStore) (p : Path) : s.isDirectory p = true ↔ s.Stands p := by
  rw [isDirectory, Stands]
  constructor
  · intro there
    split at there
    · rename_i place found
      obtain rfl : place = s.place p := (spot_found s p _ found).1
      exact found
    · cases there
  · intro there
    rw [there]

theorem Stands.kept {s t : FileStore} {p : Path} (there : s.Stands p) (current : t.current = s.current)
    (kept : KeepsDirectories s t) : t.Stands p := by
  rw [Stands, place_of_current s t p current]
  exact spot_kept_directory s t current kept p _ there

structure Prepared (p : Path) (s : FileStore) (made : FileStore × Except StoreError Unit) : Prop where
  furnished : Furnished (s.trail p) s made.1
  stands : made.2 = .ok () → made.1.Stands p

theorem settle_prepared (s m : FileStore) (p : Path) (e : StoreError) (furnished : Furnished (s.trail p) s m) :
    Prepared p s (m.settle p e) := by
  unfold settle
  split
  · exact ⟨furnished, nofun⟩
  · refine ⟨furnished, fun ok => (stands_iff m p).mp ?_⟩
    by_cases there : m.isDirectory p = true
    · exact there
    · rw [if_neg there] at ok
      cases ok

theorem made_prepared (s m made : FileStore) (p : Path) (furnished : Furnished (s.trail p) s m)
    (ok : m.makeDirectory p = .ok made) : Prepared p s (made, .ok ()) := by
  have last := make_directory_furnishes m made p ok
  refine ⟨furnished.then (trail_of_current s m p furnished.current ▸ last), fun _ => ?_⟩
  rw [Stands, place_of_current m made p last.current]
  exact made_directory_stands m made p ok

theorem make_directories_prepared (s : FileStore) (p : Path) : Prepared p s (s.makeDirectories p) := by
  fun_induction makeDirectories s p with
  | case1 p made ok => exact made_prepared s s made p (.same _ s) ok
  | case2 p => exact ⟨.same _ s, nofun⟩
  | case3 p _ _ _ m e above ih =>
      rw [above] at ih
      exact ⟨ih.furnished.widen (trail_parent s p), nofun⟩
  | case4 p _ _ _ m above made ok ih =>
      rw [above] at ih
      exact made_prepared s m made p (ih.furnished.widen (trail_parent s p)) ok
  | case5 p _ _ _ m above _ _ ih =>
      rw [above] at ih
      exact ⟨ih.furnished.widen (trail_parent s p), nofun⟩
  | case6 p _ _ _ m above e _ _ ih =>
      rw [above] at ih
      exact settle_prepared s m p e (ih.furnished.widen (trail_parent s p))
  | case7 p e => exact settle_prepared s s p e (.same _ s)

theorem make_directories_again (s : FileStore) (p : Path) (there : s.Stands p) :
    s.makeDirectories p = (s, .ok ()) := by
  have taken : s.makeDirectory p = .error (.refused .taken p) := by rw [makeDirectory, there]
  have directory := (stands_iff s p).mpr there
  rw [makeDirectories, taken]
  simp [settle, directory]

theorem write_ok_iff (s written : FileStore) (p : Path) (text : String) :
    s.write p text = .ok written ↔
      ∃ spot, s.spot p = .ok spot ∧ spot ≠ .node spot.place .directory ∧ written = s.put spot.place (.file text) := by
  rw [write]
  cases s.spot p with
  | error e => simp
  | ok spot =>
      cases spot with
      | free place => simp [Spot.place, eq_comm]
      | node place node => cases node <;> simp [Spot.place, eq_comm]

theorem write_ok (s written : FileStore) (p : Path) (text : String) (ok : s.write p text = .ok written) :
    s.node? (s.place p) ≠ some .directory ∧ written = s.put (s.place p) (.file text) := by
  obtain ⟨spot, found, other, same⟩ := (write_ok_iff s written p text).mp ok
  obtain ⟨there, directory | ⟨-, standing⟩⟩ := spot_found s p spot found
  · exact absurd directory other
  · refine ⟨fun directory => other ?_, there ▸ same⟩
    rw [standing, spot_at_place, there, spotAt, directory]

theorem Stands.reaches {s : FileStore} {p : Path} (there : s.Stands p) : s.Reaches p :=
  ((spot_ok_iff s p _).mp there).2.2

theorem write_child_iff (s written : FileStore) (dir : Path) (name text : String) (there : s.Stands dir)
    (proper : name ≠ "..") :
    s.write (dir.child name) text = .ok written ↔
      Fits dir name ∧ s.node? (s.place dir ++ [name]) ≠ some .directory ∧
        written = s.put (s.place dir ++ [name]) (.file text) := by
  constructor
  · intro ok
    obtain ⟨spot, reached, -, -⟩ := (write_ok_iff s written _ text).mp ok
    obtain ⟨-, fits, -⟩ := (spot_child_iff s dir name spot proper).mp reached
    have same := write_ok s written _ text ok
    rw [place_child s dir name proper] at same
    exact ⟨fits, same⟩
  · rintro ⟨fits, other, rfl⟩
    have found := (spot_child_iff s dir name _ proper).mpr ⟨there.reaches, fits, rfl⟩
    refine (write_ok_iff s _ _ text).mpr ⟨_, found, fun directory => other ?_, ?_⟩
    · rw [spot_at_place] at directory
      exact spot_at_node s _ _ _ directory
    · rw [spot_at_place]

theorem read_ok_iff (s : FileStore) (p : Path) (text : String) :
    s.read p = .ok text ↔ s.spot p = .ok (.node (s.place p) (.file text)) := by
  rw [read]
  constructor
  · intro ok
    split at ok
    · cases ok
    · cases ok
    · cases ok
    · rename_i place content found
      obtain rfl := Except.ok.inj ok
      obtain rfl : place = s.place p := (spot_found s p _ found).1
      exact found
  · intro found
    rw [found]

theorem node_of_read (s : FileStore) (p : Path) (text : String) (ok : s.read p = .ok text) :
    s.node? (s.place p) = some (.file text) := by
  obtain ⟨-, directory | ⟨-, standing⟩⟩ := spot_found s p _ ((read_ok_iff s p text).mp ok)
  · cases directory
  · exact spot_at_node s _ _ _ standing.symm

theorem holds_of_read (s : FileStore) (p : Path) (text : String) (ok : s.read p = .ok text) : s.holds p = .ok true := by
  rw [holds, (read_ok_iff s p text).mp ok]

theorem read_kept (s t : FileStore) (current : t.current = s.current) (kept : KeepsDirectories s t) (p : Path)
    (text : String) (ok : s.read p = .ok text) (same : t.node? (s.place p) = s.node? (s.place p)) :
    t.read p = .ok text := by
  have found := (read_ok_iff s p text).mp ok
  rw [read, spot_kept_other s t current kept p _ found nofun, spotAt, same, node_of_read s p text ok]

theorem read_child_iff (s : FileStore) (dir : Path) (name text : String) (proper : name ≠ "..") :
    s.read (dir.child name) = .ok text ↔
      s.Reaches dir ∧ Fits dir name ∧ s.node? (s.place dir ++ [name]) = some (.file text) := by
  rw [read_ok_iff, spot_child_iff s dir name _ proper, place_child s dir name proper]
  refine and_congr_right' (and_congr_right' ⟨fun found => spot_at_node s _ _ _ found.symm, fun found => ?_⟩)
  rw [spotAt, found]

theorem read_back (s written : FileStore) (p : Path) (text found : String) (ok : s.write p text = .ok written)
    (back : written.read (written.resolve p) = .ok found) : found = text := by
  obtain ⟨other, rfl⟩ := write_ok s written p text ok
  have there := node_of_read _ _ found back
  rw [place_resolve, place_put, node_put s _ _ _ (not_root_of_node s _ other), if_pos rfl] at there
  exact (Node.file.inj (Option.some.inj there)).symm

theorem read_written (s written t : FileStore) (p : Path) (text : String) (ok : s.write p text = .ok written)
    (current : t.current = s.current) (kept : KeepsDirectories s t)
    (holds : t.node? (s.place p) = some (.file text)) : t.read p = .ok text := by
  obtain ⟨spot, found, other, -⟩ := (write_ok_iff s written p text).mp ok
  rw [read, spot_kept_other s t current kept p spot found other, spotAt, holds]

end ScreenDispatch.FileStore
