import ScreenDispatch.FileStore
import ScreenDispatch.SourceFile

/-!
Writing the generated files, one for each extension and in their order. The directory is made
when the first file needs it, each file is read back by its resolved path, and the files written
before an error stay.
-/
set_option autoImplicit false

namespace ScreenDispatch

structure GeneratedFile where
  name : String
  path : Path
  lines : Nat
  bytes : Nat
deriving DecidableEq, Repr

inductive WriteError where
  | store (error : StoreError)
  | text (error : FileError)
deriving DecidableEq, Repr

def WriteError.message : WriteError → String
  | .store error => error.message
  | .text error => error.message

def Extension.path (dir : Path) (e : Extension) : Path := dir.join (.ofString (fileName e.typeName))

def writeExtension (s : FileStore) (dir : Path) (settings : FileSettings) (e : Extension) :
    FileStore × Except WriteError GeneratedFile :=
  match s.makeDirectories dir with
  | (s, .error error) => (s, .error (.store error))
  | (s, .ok ()) =>
    match fileText settings e with
    | .error error => (s, .error (.text error))
    | .ok text =>
      match s.write (e.path dir) text with
      | .error error => (s, .error (.store error))
      | .ok s =>
        -- The file is there by now, also if it cannot be read.
        match s.read (s.resolve (e.path dir)) with
        | .error error => (s, .error (.store error))
        | .ok found =>
          (s, .ok ⟨fileName e.typeName, s.resolve (e.path dir), lineCount text, found.utf8ByteSize⟩)

def writeExtensions (s : FileStore) (dir : Path) (settings : FileSettings) :
    List Extension → FileStore × Except WriteError (List GeneratedFile)
  | [] => (s, .ok [])
  | e :: rest =>
    match writeExtension s dir settings e with
    | (s, .error error) => (s, .error error)
    | (s, .ok file) =>
      match writeExtensions s dir settings rest with
      | (s, .error error) => (s, .error error)
      | (s, .ok files) => (s, .ok (file :: files))

def totalLines (files : List GeneratedFile) : Nat := files.foldl (fun total file => total + file.lines) 0

end ScreenDispatch
