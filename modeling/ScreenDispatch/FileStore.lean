import ScreenDispatch.Path
import ScreenDispatch.Text.Quoted

/-!
Files and directories as a value. A location is the list of names from the root; the root is a
directory, and a location that is not listed holds nothing. Paths are followed name by name, so
`..` leads out of a directory only if that directory is there. The lengths of names and paths are
limited.

These premises stay outside: there are files and directories only, so no links, and a path resolves
to a place whatever is there; nothing is refused for want of permission or room, and a write is
done whole or not at all; a file is a text in UTF-8; and only the program changes what there is.
-/
set_option autoImplicit false

namespace ScreenDispatch

abbrev Location := List String

inductive Node where
  | directory
  | file (text : String)
deriving DecidableEq, Repr

-- The files and directories, in the order in which they were made, and the working directory,
-- which is a resolved path.
structure FileStore where
  current : Location
  entries : List (Location × Node)
  proper : ".." ∉ current
deriving DecidableEq, Repr

inductive StoreFault where
  | missing | taken | notDirectory | isDirectory | tooLong
deriving DecidableEq, Repr

namespace StoreFault

def number : StoreFault → Nat
  | missing => 2
  | taken => 17
  | notDirectory => 20
  | isDirectory => 21
  | tooLong => 36

def text : StoreFault → String
  | missing => "No such file or directory"
  | taken => "File exists"
  | notDirectory => "Not a directory"
  | isDirectory => "Is a directory"
  | tooLong => "File name too long"

end StoreFault

inductive StoreError where
  | refused (fault : StoreFault) (path : Path)
  | nulByte
deriving DecidableEq, Repr

def StoreError.message : StoreError → String
  | .refused fault path =>
    "[Errno " ++ toString fault.number ++ "] " ++ fault.text ++ ": " ++ Text.quoted path.text
  | .nulByte => "embedded null byte"

def findEntry (place : Location) : List (Location × Node) → Option Node
  | [] => none
  | (other, node) :: rest => if other = place then some node else findEntry place rest

def putEntry (place : Location) (node : Node) : List (Location × Node) → List (Location × Node)
  | [] => [(place, node)]
  | (other, old) :: rest =>
    if other = place then (place, node) :: rest else (other, old) :: putEntry place node rest

theorem find_entry_put (place other : Location) (node : Node) (entries : List (Location × Node)) :
    findEntry other (putEntry place node entries) =
      if other = place then some node else findEntry other entries := by
  induction entries with
  | nil => by_cases h : other = place <;> simp [putEntry, findEntry, h, Ne.symm]
  | cons entry rest ih =>
    rcases entry with ⟨first, old⟩
    by_cases same : first = place
    · subst same
      by_cases h : other = first
      · simp [putEntry, findEntry, h]
      · simp [putEntry, findEntry, h, Ne.symm h]
    · by_cases h : other = place
      · subst h
        simp [putEntry, findEntry, same, ih]
      · simp [putEntry, findEntry, same, ih, h]

-- In bytes.
def nameLimit : Nat := 255

def pathLimit : Nat := 4095

def climb (here : Location) (name : String) : Location :=
  if name = ".." then here.dropLast else here ++ [name]

theorem climb_proper (here : Location) (name : String) (proper : ".." ∉ here) : ".." ∉ climb here name := by
  rw [climb]
  split
  · exact fun inside => proper (List.dropLast_subset here inside)
  · rename_i different
    rw [List.mem_append, List.mem_singleton, not_or]
    exact ⟨proper, Ne.symm different⟩

theorem climbed_proper (here : Location) (names : List String) (proper : ".." ∉ here) :
    ".." ∉ names.foldl climb here := by
  induction names generalizing here with
  | nil => exact proper
  | cons name rest ih => exact ih _ (climb_proper here name proper)

inductive Spot where
  | node (place : Location) (node : Node)
  | free (place : Location)
deriving DecidableEq, Repr

namespace FileStore

def bare (p : Path) : FileStore := ⟨p.parts.foldl climb [], [], climbed_proper [] _ List.not_mem_nil⟩

def node? (s : FileStore) (place : Location) : Option Node :=
  if place = [] then some .directory else findEntry place s.entries

def put (s : FileStore) (place : Location) (node : Node) : FileStore :=
  { s with entries := putEntry place node s.entries }

theorem node_put (s : FileStore) (place other : Location) (node : Node) (h : place ≠ []) :
    (s.put place node).node? other = if other = place then some node else s.node? other := by
  by_cases same : other = place
  · subst same
    simp [node?, put, h, find_entry_put]
  · simp [node?, put, same, find_entry_put]

def follow (s : FileStore) (here : Location) : List String → Except StoreFault Spot
  | [] => .ok (.node here .directory)
  | name :: rest =>
    if name = ".." then follow s here.dropLast rest
    else if name.utf8ByteSize > nameLimit then .error .tooLong
    else
      match s.node? (here ++ [name]), rest with
      | none, [] => .ok (.free (here ++ [name]))
      | none, _ => .error .missing
      | some (.file text), [] => .ok (.node (here ++ [name]) (.file text))
      | some (.file _), _ => .error .notDirectory
      | some .directory, rest => follow s (here ++ [name]) rest

def start (s : FileStore) (p : Path) : Location := if p.isAbsolute then [] else s.current

def trailFrom (here : Location) : List String → List Location
  | [] => []
  | name :: rest => climb here name :: trailFrom (climb here name) rest

def trail (s : FileStore) (p : Path) : List Location := trailFrom (s.start p) p.parts

def place (s : FileStore) (p : Path) : Location := p.parts.foldl climb (s.start p)

def resolve (s : FileStore) (p : Path) : Path := ⟨1, s.place p⟩

def spot (s : FileStore) (p : Path) : Except StoreError Spot :=
  if p.holdsNul then .error .nulByte
  else if p.text.utf8ByteSize > pathLimit then .error (.refused .tooLong p)
  else
    match s.follow (s.start p) p.parts with
    | .ok spot => .ok spot
    | .error fault => .error (.refused fault p)

-- Whether there is anything; only a path that is too long is an error.
def holds (s : FileStore) (p : Path) : Except StoreError Bool :=
  match s.spot p with
  | .ok (.node _ _) => .ok true
  | .error (.refused .tooLong p) => .error (.refused .tooLong p)
  | _ => .ok false

def isDirectory (s : FileStore) (p : Path) : Bool :=
  match s.spot p with
  | .ok (.node _ .directory) => true
  | _ => false

def read (s : FileStore) (p : Path) : Except StoreError String :=
  match s.spot p with
  | .error e => .error e
  | .ok (.free _) => .error (.refused .missing p)
  | .ok (.node _ .directory) => .error (.refused .isDirectory p)
  | .ok (.node _ (.file text)) => .ok text

def write (s : FileStore) (p : Path) (text : String) : Except StoreError FileStore :=
  match s.spot p with
  | .error e => .error e
  | .ok (.node _ .directory) => .error (.refused .isDirectory p)
  | .ok (.node place (.file _)) | .ok (.free place) => .ok (s.put place (.file text))

def makeDirectory (s : FileStore) (p : Path) : Except StoreError FileStore :=
  match s.spot p with
  | .error e => .error e
  | .ok (.node _ _) => .error (.refused .taken p)
  | .ok (.free place) => .ok (s.put place .directory)

def settle (s : FileStore) (p : Path) (e : StoreError) : FileStore × Except StoreError Unit :=
  match e with
  | .nulByte => (s, .error e)
  | .refused _ _ => (s, if s.isDirectory p then .ok () else .error e)

-- Makes a directory, after its parent if that is missing. What was made before an error
-- stays.
def makeDirectories (s : FileStore) (p : Path) : FileStore × Except StoreError Unit :=
  match s.makeDirectory p with
  | .ok made => (made, .ok ())
  | .error (.refused .missing q) =>
    if _ : p.parts = [] then (s, .error (.refused .missing q))
    else
      match makeDirectories s p.parent with
      | (s, .error e) => (s, .error e)
      | (s, .ok ()) =>
        match s.makeDirectory p with
        | .ok made => (made, .ok ())
        | .error (.refused .missing q) => (s, .error (.refused .missing q))
        | .error e => s.settle p e
  | .error e => s.settle p e
termination_by p.parts.length
decreasing_by exact Path.length_parent p ‹_›

def changes (before after : FileStore) : List (Location × Node) :=
  after.entries.filter fun (place, node) => before.node? place != some node

end FileStore
end ScreenDispatch
