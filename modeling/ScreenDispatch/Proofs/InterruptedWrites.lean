import ScreenDispatch.Proofs.ChangedPlaces

/-!
How far writing gets. The extensions are written in their order up to the first that fails, each over what an earlier
one of its name has left; what was written stays, and apart from these files there are only new directories on the way
to the output directory. The one that fails may have its file already, if it was written and could not be read back.
-/
set_option autoImplicit false

namespace ScreenDispatch

open FileStore

variable {settings : FileSettings} {dir : Path}

def Extension.file (e : Extension) (dir : Path) : Path := dir.child (fileName e.typeName)

def LastNamed (exts : List Extension) (e : Extension) : Prop :=
  ∃ before after, exts = before ++ e :: after ∧ ∀ other ∈ after, other.typeName ≠ e.typeName

def MadeAbove (dir : Path) (s t : FileStore) (place : Location) : Prop :=
  (∃ p, dir.Upward p ∧ place = s.place p) ∧ s.node? place = none ∧ t.node? place = some .directory

def HasLatest (settings : FileSettings) (dir : Path) (exts : List Extension) (t : FileStore) (e : Extension) : Prop :=
  ∃ last text, LastNamed exts last ∧ last.typeName = e.typeName ∧ fileText settings last = .ok text ∧
    t.read (e.file dir) = .ok text

structure HoldsFiles (settings : FileSettings) (dir : Path) (exts : List Extension) (s t : FileStore) : Prop where
  current : t.current = s.current
  latest : ∀ e ∈ exts, HasLatest settings dir exts t e
  elsewhere : ∀ place, (∀ e ∈ exts, place ≠ s.place (e.file dir)) →
    t.node? place = s.node? place ∨ MadeAbove dir s t place

theorem extension_place (s : FileStore) (e : Extension) : s.place (e.file dir) = s.place dir ++ [fileName e.typeName] :=
  place_child s dir _ (file_name_proper _ _ (by decide))

theorem places_apart (s : FileStore) (e other : Extension) (different : other.typeName ≠ e.typeName) :
    s.place (other.file dir) ≠ s.place (e.file dir) := by
  rw [extension_place, extension_place]
  intro same
  exact different (file_name_injective _ _ (List.cons.inj (List.append_cancel_left same)).1)

section Later

variable {exts more : List Extension} {s m t : FileStore}

theorem HoldsFiles.latest_later (holds : HoldsFiles settings dir exts s m) (settled : Settled settings dir more m t)
    (plain : ∀ x ∈ more, x.Plain) (e : Extension) (member : e ∈ exts)
    (unnamed : ∀ x ∈ more, x.typeName ≠ e.typeName) : HasLatest settings dir exts t e := by
  obtain ⟨last, text, lastNamed, named, content, reads⟩ := holds.latest e member
  refine ⟨last, text, lastNamed, named, content, settled.spares _ text reads fun x inside => ?_⟩
  rw [(plain x inside).path dir]
  exact places_apart m e x (unnamed x inside)

theorem HoldsFiles.elsewhere_later (holds : HoldsFiles settings dir exts s m) (settled : Settled settings dir more m t)
    (plain : ∀ x ∈ more, x.Plain) (place : Location) (apart : ∀ x ∈ exts ++ more, place ≠ s.place (x.file dir)) :
    t.node? place = s.node? place ∨ MadeAbove dir s t place := by
  obtain ⟨before, after⟩ := List.forall_mem_append.mp apart
  cases settled.fate place with
  | kept same =>
      rw [MadeAbove, same]
      exact holds.elsewhere place before
  | made along free made =>
      rw [trail_of_current s m dir holds.current] at along
      rcases holds.elsewhere place before with same | ⟨-, -, earlier⟩
      · exact .inr ⟨trail_upward s dir place along, same ▸ free, made⟩
      · rw [free] at earlier
        cases earlier
  | written x _ member target =>
      rw [place_of_current s m _ holds.current, (plain x member).path dir] at target
      exact absurd target (after x member)

theorem HoldsFiles.furnished (holds : HoldsFiles settings dir exts s m) (furnished : Furnished (m.trail dir) m t) :
    HoldsFiles settings dir exts s t := by
  have settled : Settled settings dir [] m t := .of_furnished [] furnished
  refine ⟨settled.current.trans holds.current, fun e member => ?_, fun place apart => ?_⟩
  · exact holds.latest_later settled nofun e member nofun
  · exact holds.elsewhere_later settled nofun place ((List.append_nil exts).symm ▸ apart)

end Later

-- A path that is short as it is written and too long from the root: the file is there and the extension fails.
theorem long_path_unread (s : FileStore) (e : Extension) (text : String) (there : s.Stands dir) (plain : e.Plain)
    (content : fileText settings e = .ok text) (fits : Fits dir (fileName e.typeName))
    (other : s.node? (s.place (e.path dir)) ≠ some .directory) (noNul : (s.resolve (e.path dir)).holdsNul = false)
    (long : pathLimit < (s.resolve (e.path dir)).text.utf8ByteSize) :
    writeExtension s dir settings e = (s.put (s.place (e.path dir)) (.file text),
      .error (.store (.refused .tooLong (s.resolve (e.path dir))))) := by
  have put := (plain.write_iff s _ dir text there).mpr ⟨fits, other, rfl⟩
  have lost (t : FileStore) :
      t.read (s.resolve (e.path dir)) = .error (.refused .tooLong (s.resolve (e.path dir))) := by
    rw [FileStore.read, spot, noNul, if_neg Bool.false_ne_true, if_pos long]
  rw [writeExtension, make_directories_again s dir there]
  simp only [content, put]
  rw [resolve_put, lost]

end ScreenDispatch
