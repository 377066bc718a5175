import AsmNotebook.Files.Basic
import AsmNotebook.Text.Utf8

namespace AsmNotebook

/-!
A tree of files held in memory, below one directory.  Accesses fail as those of
a file system do, so that work on files can be followed without one.
-/

/-- Files by the names on their path, and the directories that are there. -/
structure FileTree where
  files : List (List String × List UInt8)
  directories : List (List String)
deriving DecidableEq

namespace FileTree

/-- What is at the end of a path. -/
inductive Entry
  | file (contents : List UInt8)
  | directory
deriving DecidableEq

def empty : FileTree where
  files := []
  directories := [[]]

/-- The entry of a resolved path. -/
def entry? (tree : FileTree) (names : List String) : Option Entry :=
  if tree.directories.contains names then
    some .directory
  else
    (tree.files.find? fun file => file.1 == names).map fun file => .file file.2

/-- Pieces of a path between slashes. -/
def pieces : List Char → List (List Char)
  | [] => [[]]
  | c :: rest =>
    if c = '/' then
      [] :: pieces rest
    else
      match pieces rest with
      | [] => [[c]]
      | piece :: more => (c :: piece) :: more

/-- The names on a path, without those that stay where they are. -/
def namesOf (path : String) : List String :=
  ((pieces path.toList).map String.ofList).filter fun name => !(name.isEmpty || name == ".")

/-- Whether a path ends in a slash or in a name that stays, and so asks for a directory. -/
def asksDirectory (path : String) : Bool :=
  match (pieces path.toList).getLast? with
  | some last => last.isEmpty || last == ['.'] || last == ['.', '.']
  | none => false

/-- Follow names from a directory; all but the last of the resolved names are directories. -/
def follow (tree : FileTree) (directory : List String) : List String → Except FileFault (List String)
  | [] => .ok directory
  | [name] =>
    if name = ".." then
      if directory.isEmpty then .error .notFound else .ok directory.dropLast
    else if 255 < name.utf8ByteSize then
      .error (.other "File name too long (os error 36)")
    else
      .ok (directory ++ [name])
  | name :: rest =>
    if name = ".." then
      if directory.isEmpty then .error .notFound else tree.follow directory.dropLast rest
    else
      match tree.entry? (directory ++ [name]) with
      | some .directory => tree.follow (directory ++ [name]) rest
      | some (.file _) => .error .notDirectory
      | none => .error .notFound

/-- The names that a path stands for. -/
def resolve (tree : FileTree) (path : String) : Except FileFault (List String) :=
  if path.toList.any fun c => c.toNat = 0 then
    .error (.other "file name contained an unexpected NUL byte")
  else if path.isEmpty || path.toList.head? == some '/' then
    .error .notFound
  else
    tree.follow [] (namesOf path)

/-- The bytes of a file. -/
def readBytes (tree : FileTree) (path : String) : Except FileFault (List UInt8) :=
  match tree.resolve path with
  | .error fault => .error fault
  | .ok names =>
    match tree.entry? names with
    | none => .error .notFound
    | some .directory => .error .isDirectory
    | some (.file contents) =>
      if asksDirectory path then .error .notDirectory else .ok contents

/-- The text of a file. -/
def read (tree : FileTree) (path : String) : Except FileFault String :=
  match tree.readBytes path with
  | .error fault => .error fault
  | .ok contents =>
    match Text.decode contents with
    | .ok text => .ok text
    | .error _ => .error .notText

def «exists» (tree : FileTree) (path : String) : Bool :=
  match tree.resolve path with
  | .error _ => false
  | .ok names =>
    match tree.entry? names with
    | none => false
    | some .directory => true
    | some (.file _) => !asksDirectory path

/-- Put contents into a file. -/
def put (tree : FileTree) (names : List String) (contents : List UInt8) : FileTree :=
  { tree with files := tree.files.filter (fun file => file.1 != names) ++ [(names, contents)] }

/-- Replace the contents of a file. -/
def write (tree : FileTree) (path text : String) : FileTree × Except FileFault Unit :=
  match tree.resolve path with
  | .error fault => (tree, .error fault)
  | .ok names =>
    match tree.entry? names with
    | some .directory => (tree, .error .isDirectory)
    | some (.file _) =>
      if asksDirectory path then (tree, .error .notDirectory)
      else (tree.put names text.toUTF8.toList, .ok ())
    | none =>
      if asksDirectory path then (tree, .error .isDirectory)
      else (tree.put names text.toUTF8.toList, .ok ())

/-- Make a directory and those it lies in. -/
def makeDirectories (tree : FileTree) (directory : List String) :
    List String → FileTree × Except FileFault Unit
  | [] => (tree, .ok ())
  | name :: rest =>
    if name = ".." then
      tree.makeDirectories directory.dropLast rest
    else
      let names := directory ++ [name]
      match tree.entry? names with
      | some .directory => tree.makeDirectories names rest
      | some (.file _) => (tree, .error (if rest.isEmpty then .exists else .notDirectory))
      | none => { tree with directories := tree.directories ++ [names] }.makeDirectories names rest

/-- Replace the contents of a file, making the directories it lies in. -/
def save (tree : FileTree) (path text : String) : FileTree × Except FileFault Unit :=
  match tree.makeDirectories [] (namesOf path).dropLast with
  | (made, .error fault) => (made, .error fault)
  | (made, .ok ()) => made.write path text

/-- The tree with a file at a path of names. -/
def add (tree : FileTree) (path : String) (contents : List UInt8) : FileTree :=
  let names := namesOf path
  (tree.makeDirectories [] names.dropLast).1.put names contents

end FileTree

end AsmNotebook
