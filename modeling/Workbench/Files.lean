import Workbench.Text.Utf8

/-!
# Files

A small file system: files in a working directory, and around it the directories and the empty
device that every system has.  A directory is what the way to a file leads through.  Paths are
taken apart at slashes and followed name by name, and each name before the last has to lead to a
directory.
-/

namespace Workbench

open Text (Bytes)

/-- why a path cannot be used -/
inductive FileError where
  | notFound
  | denied
  | notDirectory
  | isDirectory
  | nameTooLong
  /-- a path cannot hold NUL -/
  | nulByte
  /-- the bytes of the file are no text -/
  | notText
  deriving DecidableEq, Repr

namespace FileError

def reason : FileError → String
  | .notFound => "No such file or directory"
  | .denied => "Permission denied"
  | .notDirectory => "Not a directory"
  | .isDirectory => "Is a directory"
  | .nameTooLong => "File name too long"
  | .nulByte => "file name contained an unexpected NUL byte"
  | .notText => "stream did not contain valid UTF-8"

/-- the number that the system gives to an error, if it is one of the system's -/
def number? : FileError → Option Nat
  | .notFound => some 2
  | .denied => some 13
  | .notDirectory => some 20
  | .isDirectory => some 21
  | .nameTooLong => some 36
  | .nulByte => none
  | .notText => none

def message (e : FileError) : String :=
  match e.number? with
  | some n => e.reason ++ " (os error " ++ toString n ++ ")"
  | none => e.reason

end FileError

/-- what a path leads to -/
inductive Entry where
  | file (content : Bytes)
  /-- a device that reads as an empty file and forgets what is written to it -/
  | sink
  | directory
  deriving DecidableEq, Repr

/-- files by the names that lead to them from the root -/
structure Files where
  /-- the working directory -/
  here : List Text := ["tmp".toList, "work".toList]
  files : List (List Text × Bytes) := []
  deriving DecidableEq, Repr

namespace Files

/-! ## paths -/

/-- the parts of a path between slashes -/
def parts (path : Text) : List Text := path.splitOn '/'

/-- the names of a path: neither the empty part between two slashes nor the dot is one -/
def names (path : Text) : List Text := (parts path).filter fun p => p ≠ [] ∧ p ≠ ['.']

/-- whether a path leads to a directory or nowhere, by its end -/
def wantsDirectory (path : Text) : Bool :=
  match (parts path).getLast? with
  | some p => p == [] || p == ['.']
  | none => false

/-- the place that names lead to from another, whether or not there is anything -/
def resolve (place : List Text) (names : List Text) : List Text :=
  names.foldl (fun p n => if n = ['.', '.'] then p.dropLast else p ++ [n]) place

/-- a file system with one more file, and with the directories on the way to it -/
def put (fs : Files) (path : Text) (content : Bytes) : Files :=
  let start := if path.head? = some '/' then [] else fs.here
  { fs with files := fs.files ++ [(resolve start (names path), content)] }

/-- files in the working directory, by their paths from there -/
def ofList (l : List (String × Bytes)) : Files := l.foldl (fun fs f => fs.put f.1.toList f.2) {}

/-- the directories of the system that are known -/
def systemDirectories : List (List Text) :=
  ["dev", "tmp", "etc", "usr", "bin", "home", "root", "proc", "sys", "var", "opt"].map
    fun d => [d.toList]

/-- the device that is empty -/
def sinkPath : List Text := ["dev".toList, "null".toList]

/-- what is found at a place -/
def entry? (fs : Files) (place : List Text) : Option Entry :=
  match fs.files.lookup place with
  | some content => some (.file content)
  | none =>
    if place = sinkPath then some .sink
    else if (fs.here :: systemDirectories ++ fs.files.map (·.1)).any place.isPrefixOf then
      some .directory
    else none

/-- follows names from a directory -/
def follow (fs : Files) (place : List Text) : List Text → Except FileError (List Text)
  | [] => .ok place
  | name :: rest =>
    if 255 < Text.bytes name then .error .nameTooLong
    else
      let next := if name = ['.', '.'] then place.dropLast else place ++ [name]
      match fs.entry? next with
      | none => .error .notFound
      | some .directory => fs.follow next rest
      | some _ => if rest = [] then .ok next else .error .notDirectory

/-- the place where a path begins, unless it cannot be a path -/
def origin (fs : Files) (path : Text) : Except FileError (List Text) :=
  if path.contains '\x00' then .error .nulByte
  else if path = [] then .error .notFound
  else if 4096 ≤ path.bytes then .error .nameTooLong
  else .ok (if path.head? = some '/' then [] else fs.here)

/-- what a path leads to -/
def find (fs : Files) (path : Text) : Except FileError Entry :=
  match fs.origin path with
  | .error e => .error e
  | .ok start =>
    match fs.follow start (names path) with
    | .error e => .error e
    | .ok place =>
      match fs.entry? place with
      | none => .error .notFound
      | some .directory => .ok .directory
      | some e => if wantsDirectory path then .error .notDirectory else .ok e

/-! ## reading and writing -/

def isPresent (fs : Files) (path : Text) : Bool :=
  match fs.find path with
  | .ok _ => true
  | .error _ => false

/-- the bytes of a file -/
def read (fs : Files) (path : Text) : Except FileError Bytes :=
  match fs.find path with
  | .error e => .error e
  | .ok .directory => .error .isDirectory
  | .ok .sink => .ok []
  | .ok (.file content) => .ok content

/-- the text of a file -/
def readText (fs : Files) (path : Text) : Except FileError Text :=
  match fs.read path with
  | .error e => .error e
  | .ok bytes =>
    match Text.decode? bytes with
    | some t => .ok t
    | none => .error .notText

/-- a file system with bytes at the end of the file at a place, which is created if it is missing -/
def appendAt (fs : Files) (place : List Text) (bytes : Bytes) : Files :=
  match fs.files.lookup place with
  | some _ =>
    { fs with files := fs.files.map fun f => if f.1 = place then (f.1, f.2 ++ bytes) else f }
  | none => { fs with files := fs.files ++ [(place, bytes)] }

/-- a file system with an empty file at a place -/
def clearAt (fs : Files) (place : List Text) : Files :=
  { fs with files := fs.files.filter (·.1 ≠ place) ++ [(place, [])] }

/-- the place of a file that can be written, whether or not it is there; what is written to no
place is forgotten -/
def writable (fs : Files) (path : Text) : Except FileError (Option (List Text)) :=
  let steps := (parts path).filter (· ≠ [])
  match fs.origin path, steps.getLast? with
  | .error e, _ => .error e
  | .ok _, none => .error .isDirectory
  | .ok start, some name =>
    match fs.follow start (steps.dropLast.filter (· ≠ ['.'])) with
    | .error e => .error e
    | .ok parent =>
      if fs.entry? parent ≠ some .directory then .error .notDirectory
      else if wantsDirectory path ∨ name = ['.', '.'] then .error .isDirectory
      else if 255 < Text.bytes name then .error .nameTooLong
      else
        let place := parent ++ [name]
        match fs.entry? place with
        | none => .ok (some place)
        | some (.file _) => .ok (some place)
        | some .sink => .ok none
        | some .directory => .error .isDirectory

/-- writes bytes to the end of a file, which is created if it is missing -/
def append (fs : Files) (path : Text) (bytes : Bytes) : Except FileError Files :=
  (fs.writable path).map fun place =>
    match place with
    | some p => fs.appendAt p bytes
    | none => fs

/-! ## directories -/

/-- a file system with another working directory -/
def enter (fs : Files) (path : Text) : Except FileError Files :=
  match fs.find path, fs.origin path with
  | .ok .directory, .ok start => .ok { fs with here := resolve start (names path) }
  | .ok _, _ => .error .notDirectory
  | .error e, _ => .error e

/-- the names in a directory -/
def namesIn (fs : Files) (place : List Text) : List Text :=
  let places := sinkPath :: fs.here :: systemDirectories ++ fs.files.map (·.1)
  (places.filterMap fun p =>
    if place.isPrefixOf p then (p.drop place.length).head? else none).eraseDups

/-- the files in the working directory, by their paths from there -/
def toList (fs : Files) : List (String × Bytes) :=
  (fs.files.filter fun f => fs.here.isPrefixOf f.1).map fun f =>
    (String.ofList (['/'].intercalate (f.1.drop fs.here.length)), f.2)

end Files

end Workbench
