import ScreenDispatch.Proofs.WrittenFiles

/-!
Which extensions can be written, and that neither their order nor their number matters. Once the directory stands,
each file is put at a place of its own, so that the set of extensions tells whether writing succeeds and what
stands where afterwards.
-/
set_option autoImplicit false

namespace ScreenDispatch

open FileStore

variable {settings : FileSettings} {dir : Path}

theorem writable_put_iff (s : FileStore) (e other : Extension) (text : String) (first : Writable settings dir s e) :
    Writable settings dir (s.put (s.place (e.path dir)) (.file text)) other ↔ Writable settings dir s other := by
  have after := node_put s (s.place (e.path dir)) (s.place (other.path dir)) (.file text)
    (not_root_of_node s _ first.other)
  have open_iff : (s.put (s.place (e.path dir)) (.file text)).node? (s.place (other.path dir)) ≠ some .directory ↔
      s.node? (s.place (other.path dir)) ≠ some .directory := by
    rw [after]
    by_cases same : s.place (other.path dir) = s.place (e.path dir)
    · rw [if_pos same, same]
      exact iff_of_true nofun first.other
    · rw [if_neg same]
  obtain ⟨kept, back⟩ := put_file_keeps s _ text first.other
  constructor
  · rintro ⟨content, fits, free, reaches, resolved⟩
    exact ⟨content, fits, open_iff.mp free, reaches.kept rfl back, resolved⟩
  · rintro ⟨content, fits, free, reaches, resolved⟩
    exact ⟨content, fits, open_iff.mpr free, reaches.kept rfl kept, resolved⟩

theorem put_keeps_standing (s : FileStore) (e : Extension) (text : String) (there : s.Stands dir)
    (writable : Writable settings dir s e) : (s.put (s.place (e.path dir)) (.file text)).Stands dir :=
  there.kept rfl (put_file_keeps s _ text writable.other).1

theorem standing_writes_iff (s : FileStore) (exts : List Extension) (there : s.Stands dir)
    (plain : ∀ e ∈ exts, e.Plain) :
    (∃ t files, writeExtensions s dir settings exts = (t, .ok files)) ↔ ∀ e ∈ exts, Writable settings dir s e := by
  induction exts generalizing s with
  | nil => exact iff_of_true ⟨s, [], rfl⟩ nofun
  | cons e rest ih =>
      obtain ⟨first, others⟩ := List.forall_mem_cons.mp plain
      have onward (text : String) (writable : Writable settings dir s e) :=
        ih (s.put (s.place (e.path dir)) (.file text)) (put_keeps_standing s e text there writable) others
      rw [List.forall_mem_cons]
      constructor
      · rintro ⟨t, _, done⟩
        obtain ⟨m, file, more, written, after, -⟩ := (write_extensions_cons_ok s t e rest _).mp done
        obtain ⟨writable, text, content, rfl, -⟩ := (write_standing_iff s m e file there first).mp written
        refine ⟨writable, fun other later => ?_⟩
        exact (writable_put_iff s e other text writable).mp ((onward text writable).mp ⟨t, more, after⟩ other later)
      · rintro ⟨writable, all⟩
        obtain ⟨text, content⟩ := writable.content
        obtain ⟨t, more, after⟩ := (onward text writable).mpr fun other later =>
          (writable_put_iff s e other text writable).mpr (all other later)
        have written := (write_standing_iff s _ e _ there first).mpr ⟨writable, text, content, rfl, rfl⟩
        exact ⟨t, _, (write_extensions_cons_ok s t e rest _).mpr ⟨_, _, more, written, after, rfl⟩⟩

theorem standing_elsewhere (s t : FileStore) (exts : List Extension) (files : List GeneratedFile)
    (there : s.Stands dir) (plain : ∀ e ∈ exts, e.Plain)
    (done : writeExtensions s dir settings exts = (t, .ok files)) (place : Location)
    (apart : ∀ e ∈ exts, place ≠ s.place (e.path dir)) : t.node? place = s.node? place := by
  induction exts generalizing s files with
  | nil => rw [(Prod.mk.inj done).1]
  | cons e rest ih =>
      obtain ⟨first, others⟩ := List.forall_mem_cons.mp plain
      obtain ⟨here, elsewhere⟩ := List.forall_mem_cons.mp apart
      obtain ⟨m, file, more, written, after, -⟩ := (write_extensions_cons_ok s t e rest files).mp done
      obtain ⟨writable, text, -, rfl, -⟩ := (write_standing_iff s m e file there first).mp written
      rw [ih _ more (put_keeps_standing s e text there writable) others after elsewhere,
        node_put s _ _ _ (not_root_of_node s _ writable.other), if_neg here]

theorem write_from_made (s m : FileStore) (exts : List Extension) (some : exts ≠ [])
    (made : s.makeDirectories dir = (m, .ok ())) :
    writeExtensions s dir settings exts = writeExtensions m dir settings exts := by
  cases exts with
  | nil => exact absurd rfl some
  | cons e rest =>
      have again := make_directories_again m dir (made_stands s m made)
      have same : writeExtension s dir settings e = writeExtension m dir settings e := by
        rw [writeExtension, writeExtension, made, again]
      rw [writeExtensions, writeExtensions, same]

theorem made_if_written (s t : FileStore) (exts : List Extension) (files : List GeneratedFile) (some : exts ≠ [])
    (done : writeExtensions s dir settings exts = (t, .ok files)) : ∃ m, s.makeDirectories dir = (m, .ok ()) := by
  cases exts with
  | nil => exact absurd rfl some
  | cons e rest =>
      obtain ⟨m, file, _, written, -⟩ := (write_extensions_cons_ok s t e rest files).mp done
      obtain ⟨n, _, made, -⟩ := (write_extension_ok_iff s m e file).mp written
      exact ⟨n, made⟩

theorem written_elsewhere (s t : FileStore) (exts : List Extension) (files : List GeneratedFile) (some : exts ≠ [])
    (plain : ∀ e ∈ exts, e.Plain) (done : writeExtensions s dir settings exts = (t, .ok files)) (place : Location)
    (apart : ∀ e ∈ exts, place ≠ s.place (e.path dir)) :
    t.node? place = (s.makeDirectories dir).1.node? place := by
  obtain ⟨m, made⟩ := made_if_written s t exts files some done
  have here (p : Path) := place_of_current s m p (made_furnishes s m _ made).current
  rw [write_from_made s m exts some made] at done
  rw [made]
  refine standing_elsewhere m t exts files (made_stands s m made) plain done place fun e member => ?_
  rw [here]
  exact apart e member

theorem fewer_are_written (s t : FileStore) (xs ys : List Extension) (files : List GeneratedFile)
    (plain : ∀ e ∈ xs, e.Plain) (done : writeExtensions s dir settings xs = (t, .ok files))
    (among : ∀ e ∈ ys, e ∈ xs) : ∃ u more, writeExtensions s dir settings ys = (u, .ok more) := by
  by_cases none : ys = []
  · subst none
    exact ⟨s, [], rfl⟩
  · obtain ⟨first, member⟩ := List.exists_mem_of_ne_nil ys none
    have some : xs ≠ [] := List.ne_nil_of_mem (among first member)
    obtain ⟨m, made⟩ := made_if_written s t xs files some done
    have there := made_stands s m made
    rw [write_from_made s m xs some made] at done
    rw [write_from_made s m ys none made]
    have writable := (standing_writes_iff m xs there plain).mp ⟨t, files, done⟩
    exact (standing_writes_iff m ys there fun e member => plain e (among e member)).mpr
      fun e member => writable e (among e member)

theorem order_is_immaterial (s t u : FileStore) (xs ys : List Extension) (files more : List GeneratedFile)
    (plain : ∀ e ∈ xs, e.Plain) (same : ∀ e, e ∈ xs ↔ e ∈ ys)
    (alone : ∀ e ∈ xs, ∀ other ∈ xs, s.place (other.path dir) = s.place (e.path dir) → other = e)
    (first : writeExtensions s dir settings xs = (t, .ok files))
    (second : writeExtensions s dir settings ys = (u, .ok more)) (place : Location) :
    t.node? place = u.node? place := by
  by_cases target : ∃ e ∈ xs, place = s.place (e.path dir)
  · obtain ⟨e, member, rfl⟩ := target
    obtain ⟨text, content, holds, -⟩ := written_holds s t xs files first e member (alone e member)
    obtain ⟨again, rewritten, after, -⟩ := written_holds s u ys more second e ((same e).mp member)
      fun other inside => alone e member other ((same other).mpr inside)
    rw [content] at rewritten
    rw [holds, after, Except.ok.inj rewritten]
  · have apart : ∀ e ∈ xs, place ≠ s.place (e.path dir) := fun e member equal => target ⟨e, member, equal⟩
    have none_iff : xs = [] ↔ ys = [] := by simp only [List.eq_nil_iff_forall_not_mem, same]
    by_cases none : xs = []
    · obtain rfl := none_iff.mp none
      subst none
      rw [← (Prod.mk.inj first).1, ← (Prod.mk.inj second).1]
    · rw [written_elsewhere s t xs files none plain first place apart,
        written_elsewhere s u ys more (mt none_iff.mpr none) (fun e member => plain e ((same e).mpr member)) second place
          fun e member => apart e ((same e).mpr member)]

end ScreenDispatch
