import ScreenDispatch.GeneratedFile
import ScreenDispatch.Proofs.Attempts
import ScreenDispatch.Proofs.StoreChanges

/-!
What stands where after extensions were written. One extension makes directories along the way and puts one file;
a list of extensions does so one after the other, so that each place is as before, a new directory on the way, or
the file of an extension. A file that was put stays also if it cannot be read back.
-/
set_option autoImplicit false

namespace ScreenDispatch

open FileStore

inductive Fate (settings : FileSettings) (dir : Path) (exts : List Extension) (s t : FileStore) (place : Location) :
    Prop where
  | kept (same : t.node? place = s.node? place)
  | made (along : place ∈ s.trail dir) (free : s.node? place = none) (made : t.node? place = some .directory)
  | written (e : Extension) (text : String) (member : e ∈ exts) (target : place = s.place (e.path dir))
      (content : fileText settings e = .ok text) (other : s.node? place ≠ some .directory)
      (holds : t.node? place = some (.file text))

structure Settled (settings : FileSettings) (dir : Path) (exts : List Extension) (s t : FileStore) : Prop where
  current : t.current = s.current
  fate : ∀ place, Fate settings dir exts s t place

variable {settings : FileSettings} {dir : Path}

theorem Settled.of_furnished {s t : FileStore} (exts : List Extension) (furnished : Furnished (s.trail dir) s t) :
    Settled settings dir exts s t := by
  refine ⟨furnished.current, fun place => ?_⟩
  rcases furnished.changed place with same | ⟨along, free, made⟩
  · exact .kept same
  · exact .made along free made

theorem Settled.keeps {exts : List Extension} {s t : FileStore} (settled : Settled settings dir exts s t) :
    KeepsDirectories s t := by
  intro place directory
  cases settled.fate place with
  | kept same => rw [same, directory]
  | made _ free => rw [directory] at free; cases free
  | written _ _ _ _ _ other => exact absurd directory other

theorem Settled.then {xs ys : List Extension} {s m t : FileStore} (first : Settled settings dir xs s m)
    (second : Settled settings dir ys m t) : Settled settings dir (xs ++ ys) s t := by
  refine ⟨second.current.trans first.current, fun place => ?_⟩
  cases second.fate place with
  | kept same =>
      cases first.fate place with
      | kept before => exact .kept (same.trans before)
      | made along free made => exact .made along free (same.trans made)
      | written e text member target content other holds =>
          exact .written e text (List.mem_append_left _ member) target content other (same.trans holds)
  | made along free made =>
      rw [trail_of_current s m dir first.current] at along
      cases first.fate place with
      | kept before => exact .made along (before ▸ free) made
      | made _ _ earlier => rw [free] at earlier; cases earlier
      | written _ _ _ _ _ _ holds => rw [free] at holds; cases holds
  | written e text member target content other holds =>
      rw [place_of_current s m _ first.current] at target
      exact .written e text (List.mem_append_right _ member) target content
        (fun directory => other (first.keeps place directory)) holds

theorem Settled.widen {xs ys : List Extension} {s t : FileStore} (settled : Settled settings dir xs s t)
    (among : ∀ e ∈ xs, e ∈ ys) : Settled settings dir ys s t := by
  refine ⟨settled.current, fun place => ?_⟩
  cases settled.fate place with
  | kept same => exact .kept same
  | made along free made => exact .made along free made
  | written e text member target content other holds =>
      exact .written e text (among e member) target content other holds

theorem Settled.spares {exts : List Extension} {s t : FileStore} (settled : Settled settings dir exts s t) (p : Path)
    (text : String) (ok : s.read p = .ok text) (apart : ∀ e ∈ exts, s.place (e.path dir) ≠ s.place p) :
    t.read p = .ok text := by
  refine read_kept s t settled.current settled.keeps p text ok ?_
  cases settled.fate (s.place p) with
  | kept same => exact same
  | made _ free =>
      rw [node_of_read s p text ok] at free
      cases free
  | written e _ member target => exact absurd target.symm (apart e member)

def Puts (settings : FileSettings) (dir : Path) (e : Extension) (s t : FileStore) : Prop :=
  ∃ m text, s.makeDirectories dir = (m, .ok ()) ∧ fileText settings e = .ok text ∧ m.write (e.path dir) text = .ok t

-- What one extension comes to: an error after directories were made, its file and an error because it cannot be read
-- back, or its file and what is told of it.
inductive Outcome (settings : FileSettings) (dir : Path) (e : Extension) (s : FileStore) :
    FileStore × Except WriteError GeneratedFile → Prop where
  | stopped (m : FileStore) (error : WriteError) (furnished : Furnished (s.trail dir) s m) :
      Outcome settings dir e s (m, .error error)
  | unread (t : FileStore) (error : StoreError) (puts : Puts settings dir e s t)
      (lost : t.read (t.resolve (e.path dir)) = .error error) : Outcome settings dir e s (t, .error (.store error))
  | written (t : FileStore) (text : String) (puts : Puts settings dir e s t) (content : fileText settings e = .ok text)
      (back : t.read (t.resolve (e.path dir)) = .ok text) :
      Outcome settings dir e s (t, .ok ⟨fileName e.typeName, t.resolve (e.path dir), lineCount text, text.utf8ByteSize⟩)

theorem write_extension_outcome (settings : FileSettings) (dir : Path) (s : FileStore) (e : Extension) :
    Outcome settings dir e s (writeExtension s dir settings e) := by
  have prepared := make_directories_prepared s dir
  unfold writeExtension
  split
  · rename_i m error stopped
    rw [stopped] at prepared
    exact .stopped m _ prepared.furnished
  · rename_i m made
    rw [made] at prepared
    split
    · exact .stopped m _ prepared.furnished
    · rename_i text content
      split
      · exact .stopped m _ prepared.furnished
      · rename_i t put
        have puts : Puts settings dir e s t := ⟨m, text, made, content, put⟩
        split
        · rename_i error lost
          exact .unread t error puts lost
        · rename_i found back
          obtain rfl := read_back m t (e.path dir) text found put back
          exact .written t found puts content back

theorem made_furnishes (s m : FileStore) (result : Except StoreError Unit) (made : s.makeDirectories dir = (m, result)) :
    Furnished (s.trail dir) s m := by
  have prepared := make_directories_prepared s dir
  rw [made] at prepared
  exact prepared.furnished

theorem put_settled (m t : FileStore) (e : Extension) (text : String) (content : fileText settings e = .ok text)
    (put : m.write (e.path dir) text = .ok t) : Settled settings dir [e] m t := by
  obtain ⟨other, rfl⟩ := write_ok m t (e.path dir) text put
  refine ⟨rfl, fun place => ?_⟩
  have after := node_put m _ place (.file text) (not_root_of_node m _ other)
  by_cases target : place = m.place (e.path dir)
  · rw [if_pos target] at after
    exact .written e text List.mem_cons_self target content (target ▸ other) after
  · rw [if_neg target] at after
    exact .kept after

theorem Puts.settled {s t : FileStore} {e : Extension} (puts : Puts settings dir e s t) :
    Settled settings dir [e] s t := by
  obtain ⟨m, text, made, content, put⟩ := puts
  exact (Settled.of_furnished [] (made_furnishes s m _ made)).then (put_settled m t e text content put)

theorem Outcome.settled {s : FileStore} {e : Extension} {done : FileStore × Except WriteError GeneratedFile}
    (outcome : Outcome settings dir e s done) : Settled settings dir [e] s done.1 := by
  cases outcome with
  | stopped m error furnished => exact .of_furnished [e] furnished
  | unread t error puts | written t text puts => exact puts.settled

theorem write_extensions_settled (settings : FileSettings) (dir : Path) (s : FileStore) (exts : List Extension) :
    Settled settings dir exts s (writeExtensions s dir settings exts).1 := by
  induction exts generalizing s with
  | nil => exact ⟨rfl, fun _ => .kept rfl⟩
  | cons e rest ih =>
      have first := (write_extension_outcome settings dir s e).settled
      have later := ih (writeExtension s dir settings e).1
      rw [writeExtensions]
      split
      · rename_i m error stopped
        rw [stopped] at first
        exact first.then (.of_furnished rest (.same _ m))
      · rename_i m file written
        rw [written] at first later
        split
        · rename_i t error stopped
          rw [stopped] at later
          exact first.then later
        · rename_i t files done
          rw [done] at later
          exact first.then later

theorem write_extensions_cons_ok (s t : FileStore) (e : Extension) (rest : List Extension) (files : List GeneratedFile) :
    writeExtensions s dir settings (e :: rest) = (t, .ok files) ↔
      ∃ m file more, writeExtension s dir settings e = (m, .ok file) ∧
        writeExtensions m dir settings rest = (t, .ok more) ∧ files = file :: more := by
  rw [writeExtensions]
  constructor
  · intro done
    split at done
    · cases done
    · rename_i m file first
      split at done
      · cases done
      · rename_i t more others
        obtain ⟨rfl, same⟩ := Prod.mk.inj done
        exact ⟨m, file, more, first, others, (Except.ok.inj same).symm⟩
  · rintro ⟨m, file, more, first, others, rfl⟩
    rw [first]
    simp only [others]

theorem write_extensions_append_ok (s t : FileStore) (xs ys : List Extension) (files : List GeneratedFile) :
    writeExtensions s dir settings (xs ++ ys) = (t, .ok files) ↔
      ∃ m front back, writeExtensions s dir settings xs = (m, .ok front) ∧
        writeExtensions m dir settings ys = (t, .ok back) ∧ files = front ++ back := by
  induction xs generalizing s files with
  | nil =>
      constructor
      · intro done
        exact ⟨s, [], files, rfl, done, rfl⟩
      · rintro ⟨m, front, back, first, others, rfl⟩
        obtain ⟨rfl, same⟩ := Prod.mk.inj first
        obtain rfl := Except.ok.inj same
        exact others
  | cons e rest ih =>
      rw [List.cons_append, write_extensions_cons_ok]
      simp only [ih, write_extensions_cons_ok]
      constructor
      · rintro ⟨m, file, _, first, ⟨n, front, back, middle, last, rfl⟩, rfl⟩
        exact ⟨n, file :: front, back, ⟨m, file, front, first, middle, rfl⟩, last, rfl⟩
      · rintro ⟨n, _, back, ⟨m, file, front, first, middle, rfl⟩, last, rfl⟩
        exact ⟨m, file, front ++ back, first, ⟨n, front, back, middle, last, rfl⟩, rfl⟩

theorem write_extension_ok_iff (s t : FileStore) (e : Extension) (file : GeneratedFile) :
    writeExtension s dir settings e = (t, .ok file) ↔
      ∃ m text, s.makeDirectories dir = (m, .ok ()) ∧ fileText settings e = .ok text ∧
        m.write (e.path dir) text = .ok t ∧ t.read (t.resolve (e.path dir)) = .ok text ∧
        file = ⟨fileName e.typeName, t.resolve (e.path dir), lineCount text, text.utf8ByteSize⟩ := by
  constructor
  · intro done
    have outcome := write_extension_outcome settings dir s e
    rw [done] at outcome
    obtain _ | _ | ⟨t, text, ⟨m, _, made, content, put⟩, same, back⟩ := outcome
    obtain rfl := Except.ok.inj (content.symm.trans same)
    exact ⟨m, _, made, content, put, back, rfl⟩
  · rintro ⟨m, text, made, content, put, back, rfl⟩
    rw [writeExtension, made]
    simp only [content, put, back]

def TellsOf (settings : FileSettings) (dir : Path) (s : FileStore) (e : Extension) (file : GeneratedFile) : Prop :=
  ∃ text, fileText settings e = .ok text ∧
    file = ⟨fileName e.typeName, s.resolve (e.path dir), lineCount text, text.utf8ByteSize⟩

theorem tells_of_current (s t : FileStore) (current : t.current = s.current) :
    TellsOf settings dir t = TellsOf settings dir s := by
  funext e file
  rw [TellsOf, TellsOf, resolve_of_current s t _ current]

theorem file_told (s t : FileStore) (e : Extension) (file : GeneratedFile)
    (written : writeExtension s dir settings e = (t, .ok file)) :
    t.current = s.current ∧ Puts settings dir e s t ∧ TellsOf settings dir s e file := by
  obtain ⟨m, text, made, content, put, -, told⟩ := (write_extension_ok_iff s t e file).mp written
  have puts : Puts settings dir e s t := ⟨m, text, made, content, put⟩
  have current := puts.settled.current
  exact ⟨current, puts, text, content, resolve_of_current s t _ current ▸ told⟩

theorem files_told (s t : FileStore) (exts : List Extension) (files : List GeneratedFile)
    (done : writeExtensions s dir settings exts = (t, .ok files)) :
    List.Forall₂ (TellsOf settings dir s) exts files := by
  induction exts generalizing s files with
  | nil =>
      obtain rfl := Except.ok.inj (Prod.mk.inj done).2
      exact .nil
  | cons e rest ih =>
      obtain ⟨m, file, more, written, others, rfl⟩ := (write_extensions_cons_ok s t e rest files).mp done
      obtain ⟨current, -, told⟩ := file_told s m e file written
      exact .cons told (tells_of_current s m current ▸ ih m more others)

inductive PutAll (settings : FileSettings) (dir : Path) : FileStore → List Extension → FileStore → Prop where
  | nil (s : FileStore) : PutAll settings dir s [] s
  | cons {s m t : FileStore} {e : Extension} {rest : List Extension} (puts : Puts settings dir e s m)
      (onward : PutAll settings dir m rest t) : PutAll settings dir s (e :: rest) t

theorem put_all_append_iff (s t : FileStore) (xs ys : List Extension) :
    PutAll settings dir s (xs ++ ys) t ↔ ∃ m, PutAll settings dir s xs m ∧ PutAll settings dir m ys t := by
  constructor
  · intro all
    induction xs generalizing s with
    | nil => exact ⟨s, .nil s, all⟩
    | cons e rest ih =>
        obtain _ | ⟨puts, onward⟩ := all
        obtain ⟨m, front, back⟩ := ih _ onward
        exact ⟨m, .cons puts front, back⟩
  · rintro ⟨m, front, back⟩
    induction front with
    | nil => exact back
    | cons puts _ ih => exact .cons puts (ih back)

theorem PutAll.settled {s t : FileStore} {exts : List Extension} (all : PutAll settings dir s exts t) :
    Settled settings dir exts s t := by
  induction all with
  | nil s => exact ⟨rfl, fun _ => .kept rfl⟩
  | cons puts _ ih => exact puts.settled.then ih

theorem files_put (s t : FileStore) (exts : List Extension) (files : List GeneratedFile)
    (done : writeExtensions s dir settings exts = (t, .ok files)) : PutAll settings dir s exts t := by
  induction exts generalizing s files with
  | nil =>
      rw [← (Prod.mk.inj done).1]
      exact .nil s
  | cons e rest ih =>
      obtain ⟨m, file, more, written, others, -⟩ := (write_extensions_cons_ok s t e rest files).mp done
      exact .cons (file_told s m e file written).2.1 (ih m more others)

theorem all_written_settled (s t : FileStore) (exts : List Extension) (files : List GeneratedFile)
    (done : writeExtensions s dir settings exts = (t, .ok files)) : Settled settings dir exts s t :=
  (files_put s t exts files done).settled

theorem last_put_holds (s t : FileStore) (before after : List Extension) (e : Extension)
    (all : PutAll settings dir s (before ++ e :: after) t)
    (apart : ∀ other ∈ after, s.place (other.path dir) ≠ s.place (e.path dir)) :
    ∃ text, fileText settings e = .ok text ∧ t.node? (s.place (e.path dir)) = some (.file text) ∧
      t.read (e.path dir) = .ok text := by
  obtain ⟨m, front, back⟩ := (put_all_append_iff s t _ _).mp all
  obtain _ | ⟨puts, others⟩ := back
  rename_i n
  obtain ⟨k, text, made, content, put⟩ := puts
  have middle := put_settled k n e text content put
  have last := others.settled
  have here : k.current = s.current := (made_furnishes m k _ made).current.trans front.settled.current
  have places (p : Path) : n.place p = s.place p := place_of_current s n p (middle.current.trans here)
  have holds : n.node? (s.place (e.path dir)) = some (.file text) := by
    obtain ⟨other, rfl⟩ := write_ok k n (e.path dir) text put
    rw [← place_of_current s k _ here, node_put k _ _ _ (not_root_of_node k _ other), if_pos rfl]
  have stays : t.node? (s.place (e.path dir)) = some (.file text) := by
    cases last.fate (s.place (e.path dir)) with
    | kept same => exact same.trans holds
    | made _ free => rw [free] at holds; cases holds
    | written again _ inside target =>
        have same : s.place (again.path dir) = s.place (e.path dir) := by rw [target, places]
        exact absurd same (apart again inside)
  refine ⟨text, content, stays, ?_⟩
  refine read_written k n t _ text put (last.current.trans middle.current) ?_ ?_
  · exact fun place directory => last.keeps place (middle.keeps place directory)
  · rw [place_of_current s k _ here]
    exact stays

theorem last_match {α : Type} (p : α → Prop) (xs : List α) (some : ∃ x ∈ xs, p x) :
    ∃ before x after, xs = before ++ x :: after ∧ p x ∧ ∀ y ∈ after, ¬ p y := by
  induction xs with
  | nil =>
      obtain ⟨x, member, -⟩ := some
      cases member
  | cons first rest ih =>
      by_cases later : ∃ x ∈ rest, p x
      · obtain ⟨before, x, after, rfl, holds, others⟩ := ih later
        exact ⟨first :: before, x, after, rfl, holds, others⟩
      · obtain ⟨x, member, holds⟩ := some
        have others : ∀ y ∈ rest, ¬ p y := fun y inside found => later ⟨y, inside, found⟩
        rcases List.mem_cons.mp member with rfl | inside
        · exact ⟨[], x, rest, rfl, holds, others⟩
        · exact absurd holds (others x inside)

theorem written_holds (s t : FileStore) (exts : List Extension) (files : List GeneratedFile)
    (done : writeExtensions s dir settings exts = (t, .ok files)) (e : Extension) (member : e ∈ exts)
    (alone : ∀ other ∈ exts, s.place (other.path dir) = s.place (e.path dir) → other = e) :
    ∃ text, fileText settings e = .ok text ∧ t.node? (s.place (e.path dir)) = some (.file text) ∧
      t.read (e.path dir) = .ok text := by
  obtain ⟨before, x, after, rfl, rfl, others⟩ := last_match (· = e) exts ⟨e, member, rfl⟩
  refine last_put_holds s t before after x (files_put s t _ files done) fun other inside same => others other inside ?_
  exact alone other (List.mem_append_right before (List.mem_cons_of_mem x inside)) same

theorem made_stands (s m : FileStore) (made : s.makeDirectories dir = (m, .ok ())) : m.Stands dir := by
  have prepared := make_directories_prepared s dir
  rw [made] at prepared
  exact prepared.stands rfl

def Extension.Plain (e : Extension) : Prop := '/' ∉ e.typeName.toList

theorem file_name_last (typeName : String) : (fileName typeName).toList.getLast? = some 't' := by
  rw [fileName, String.toList_append, List.getLast?_append]
  rfl

theorem file_name_proper (typeName other : String) (last : other.toList.getLast? ≠ some 't') :
    fileName typeName ≠ other := by
  rintro rfl
  exact last (file_name_last typeName)

theorem file_name_injective (a b : String) (same : fileName a = fileName b) : a = b := by
  have letters := congrArg String.toList same
  rw [fileName, fileName, String.toList_append, String.toList_append] at letters
  exact String.toList_inj.mp (List.append_cancel_right letters)

theorem Extension.Plain.path {e : Extension} (plain : e.Plain) (dir : Path) :
    e.path dir = dir.child (fileName e.typeName) := by
  refine Path.join_plain dir _ ?_ (file_name_proper _ _ (by decide)) (file_name_proper _ _ (by decide))
  rw [fileName, String.toList_append, List.mem_append, not_or]
  exact ⟨plain, by decide⟩

theorem Extension.Plain.place {e : Extension} (plain : e.Plain) (s : FileStore) (dir : Path) :
    s.place (e.path dir) = s.place dir ++ [fileName e.typeName] := by
  rw [plain.path, place_child s dir _ (file_name_proper _ _ (by decide))]

theorem Extension.Plain.write_iff {e : Extension} (plain : e.Plain) (s t : FileStore) (dir : Path) (text : String)
    (there : s.Stands dir) :
    s.write (e.path dir) text = .ok t ↔
      Fits dir (fileName e.typeName) ∧ s.node? (s.place (e.path dir)) ≠ some .directory ∧
        t = s.put (s.place (e.path dir)) (.file text) := by
  rw [plain.place, plain.path]
  exact write_child_iff s t dir _ text there (file_name_proper _ _ (by decide))

structure Writable (settings : FileSettings) (dir : Path) (s : FileStore) (e : Extension) : Prop where
  content : ∃ text, fileText settings e = .ok text
  fits : Fits dir (fileName e.typeName)
  other : s.node? (s.place (e.path dir)) ≠ some .directory
  reaches : s.Reaches (s.resolve dir)
  resolved : Fits (s.resolve dir) (fileName e.typeName)

theorem put_file_keeps (s : FileStore) (place : Location) (text : String) (other : s.node? place ≠ some .directory) :
    KeepsDirectories s (s.put place (.file text)) ∧ KeepsDirectories (s.put place (.file text)) s := by
  have after (there : Location) := node_put s place there (.file text) (not_root_of_node s _ other)
  refine ⟨fun there directory => ?_, fun there directory => ?_⟩
  · rw [after, if_neg, directory]
    rintro rfl
    exact other directory
  · rw [after] at directory
    split at directory
    · cases directory
    · exact directory

theorem put_read_back_iff (s : FileStore) (e : Extension) (text : String) (plain : e.Plain)
    (other : s.node? (s.place (e.path dir)) ≠ some .directory) :
    (s.put (s.place (e.path dir)) (.file text)).read (s.resolve (e.path dir)) = .ok text ↔
      s.Reaches (s.resolve dir) ∧ Fits (s.resolve dir) (fileName e.typeName) := by
  have proper : fileName e.typeName ≠ ".." := file_name_proper _ _ (by decide)
  obtain ⟨kept, back⟩ := put_file_keeps s _ text other
  have there := node_put s (s.place (e.path dir)) (s.place (e.path dir)) (.file text) (not_root_of_node s _ other)
  rw [if_pos rfl] at there
  have target : (s.put (s.place (e.path dir)) (.file text)).place (s.resolve dir) ++ [fileName e.typeName] =
      s.place (e.path dir) := by
    rw [place_put, place_resolve, plain.place]
  have path : s.resolve (e.path dir) = (s.resolve dir).child (fileName e.typeName) := by
    rw [plain.path, resolve_child s dir _ proper]
  rw [path, read_child_iff _ _ _ _ proper, target]
  constructor
  · rintro ⟨reaches, fits, -⟩
    exact ⟨reaches.kept rfl back, fits⟩
  · rintro ⟨reaches, fits⟩
    exact ⟨reaches.kept rfl kept, fits, there⟩

theorem write_standing_iff (s t : FileStore) (e : Extension) (file : GeneratedFile) (there : s.Stands dir)
    (plain : e.Plain) :
    writeExtension s dir settings e = (t, .ok file) ↔
      Writable settings dir s e ∧ ∃ text, fileText settings e = .ok text ∧
        t = s.put (s.place (e.path dir)) (.file text) ∧
        file = ⟨fileName e.typeName, s.resolve (e.path dir), lineCount text, text.utf8ByteSize⟩ := by
  have child (text : String) := plain.write_iff s t dir text there
  rw [write_extension_ok_iff, make_directories_again s dir there]
  constructor
  · rintro ⟨m, text, made, content, put, back, rfl⟩
    obtain rfl := (Prod.mk.inj made).1
    obtain ⟨fits, other, rfl⟩ := (child text).mp put
    obtain ⟨reaches, resolved⟩ := (put_read_back_iff s e text plain other).mp back
    exact ⟨⟨⟨text, content⟩, fits, other, reaches, resolved⟩, text, content, rfl, rfl⟩
  · rintro ⟨writable, text, content, rfl, rfl⟩
    have put := (child text).mpr ⟨writable.fits, writable.other, rfl⟩
    have back := (put_read_back_iff s e text plain writable.other).mpr ⟨writable.reaches, writable.resolved⟩
    exact ⟨s, text, rfl, content, put, back, rfl⟩

end ScreenDispatch
