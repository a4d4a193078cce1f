import ChipEight.Files.Path

/-!
# File trees

A working directory with the files and directories in it, as a finite map.  Opening a path walks
its names and stops at the first one that is too long, missing or no directory.  Around the working
directory only the root, the directory of temporary files and the empty device are known.
-/

namespace ChipEight

/-- What stands at a place of the tree. -/
inductive FileEntry where
  | file (bytes : List UInt8)
  | directory

/-- A place below the working directory: the names that lead there. -/
abbrev Place := List (List UInt8)

/-- Entries by their place. -/
structure FileTree where
  entries : List (Place × FileEntry)

namespace FileTree

/-- The greatest number of bytes of one name. -/
def maxNameSize : Nat := 255

/-- The least number of bytes of a whole path that is too long. -/
def maxPathSize : Nat := 4096

/-- Whether a name leads nowhere. -/
def isIdle (name : List UInt8) : Bool :=
  Path.isIdle 0x2e name

/-- The place that a relative path without steps upwards leads to. -/
def place (path : List UInt8) : Place :=
  (Path.names path).filter fun name => !isIdle name

/-- The entry at a place.  The working directory itself, and every place above an entry, is a
directory. -/
def entry? (tree : FileTree) (place : Place) : Option FileEntry :=
  match tree.entries.find? fun entry => entry.1 == place with
  | some entry => some entry.2
  | none =>
      if place.isEmpty || tree.entries.any fun entry => place.isPrefixOf entry.1 then
        some .directory
      else none

/-- Where a walk stands: at a place below the working directory, or at a place below the root that
lies outside it. -/
inductive Position where
  | inside (place : Place)
  | outside (place : Place)
deriving DecidableEq

/-- The name that a string is. -/
def name (string : String) : List UInt8 :=
  string.toUTF8.toList

/-- The directory in which the working directory stands. -/
def parent : Place :=
  [name "tmp"]

/-- What is known of the places outside the working directory. -/
def surroundings : List (Place × FileEntry) :=
  [([], .directory), (parent, .directory), ([name "dev"], .directory),
    ([name "dev", name "null"], .file [])]

/-- What stands at a position. -/
def at? (tree : FileTree) : Position → Option FileEntry
  | .inside place => tree.entry? place
  | .outside place => (surroundings.find? fun entry => entry.1 == place).map Prod.snd

/-- The position one directory up.  Nothing is above the root. -/
def Position.up : Position → Position
  | .inside [] => .outside parent
  | .inside place => .inside place.dropLast
  | .outside place => .outside place.dropLast

/-- The position of a name in a directory. -/
def Position.down (name : List UInt8) : Position → Position
  | .inside place => .inside (place ++ [name])
  | .outside place => .outside (place ++ [name])

/-- Go on by one name. -/
def step (tree : FileTree) (position : Position) (name : List UInt8) :
    Except FileProblem Position :=
  match tree.at? position with
  | some .directory =>
      if isIdle name then .ok position
      else if name == [0x2e, 0x2e] then .ok position.up
      else if maxNameSize < name.length then .error .nameTooLong
      else .ok (position.down name)
  | some (.file _) => .error .notDirectory
  | none => .error .missing

/-- Walk along the names of a path. -/
def walk (tree : FileTree) (position : Position) : Place → Except FileProblem Position
  | [] => .ok position
  | name :: rest =>
      match tree.step position name with
      | .ok next => tree.walk next rest
      | .error problem => .error problem

/-- The position that the names of a path lead to; the last of them need not exist. -/
def follow (tree : FileTree) (path : List UInt8) (names : Place) : Except FileProblem Position :=
  if path.isEmpty then .error .missing
  else if maxPathSize ≤ path.length then .error .nameTooLong
  else tree.walk (if path.head? == some 0x2f then .outside [] else .inside []) names

/-- The position that a path leads to.  What a slash at its end follows is a directory. -/
def resolve (tree : FileTree) (path : List UInt8) : Except FileProblem Position :=
  tree.follow path (Path.names path)

/-- The position of the last name of a path, whether or not slashes follow it. -/
def resolveLast (tree : FileTree) (path : List UInt8) : Except FileProblem Position :=
  tree.follow path ((Path.names path).reverse.dropWhile List.isEmpty).reverse

/-- The bytes of the file that a path leads to. -/
def read (tree : FileTree) (path : Text) : Except FileError (List UInt8) :=
  match Path.bytes path with
  | .error failure => .error failure
  | .ok bytes =>
      match tree.resolve bytes with
      | .error problem => .error (.refused problem path)
      | .ok position =>
          match tree.at? position with
          | some (.file contents) => .ok contents
          | some .directory => .error (.refused .isDirectory path)
          | none => .error (.refused .missing path)

/-- The place of the file that writing to a path creates or replaces.  A path that ends with a slash
names a directory.  Outside the working directory nothing is written. -/
def writable (tree : FileTree) (path : Text) : Except FileError Place :=
  match Path.bytes path with
  | .error failure => .error failure
  | .ok bytes =>
      match tree.resolveLast bytes with
      | .error problem => .error (.refused problem path)
      | .ok position =>
          if bytes.getLast? == some 0x2f then .error (.refused .isDirectory path)
          else
            match tree.at? position, position with
            | some .directory, _ => .error (.refused .isDirectory path)
            | _, .inside place => .ok place
            | _, .outside _ => .error (.refused .missing path)

/-- Put an entry at a place, instead of the one that stands there. -/
def put (tree : FileTree) (place : Place) (entry : FileEntry) : FileTree :=
  ⟨(place, entry) :: tree.entries.filter fun old => !(old.1 == place)⟩

/-- Write a file. -/
def write (tree : FileTree) (path : Text) (bytes : List UInt8) : Except FileError FileTree :=
  (tree.writable path).map fun place => tree.put place (.file bytes)

/-- What stands at the last name of a path. -/
def last? (tree : FileTree) (path : Text) : Except FileError (Position × Option FileEntry) :=
  match Path.bytes path with
  | .error failure => .error failure
  | .ok bytes =>
      match tree.resolveLast bytes with
      | .error problem => .error (.refused problem path)
      | .ok position => .ok (position, tree.at? position)

/-- Make one directory, unless something stands there already. -/
def addDirectory (tree : FileTree) (path : Text) : Except FileError FileTree :=
  match tree.last? path with
  | .error failure => .error failure
  | .ok (_, some _) => .ok tree
  | .ok (.inside place, none) => .ok (tree.put place .directory)
  | .ok (.outside _, none) => .error (.refused .missing path)

/-- Make the directory of a path, and every one above it that is missing.  A directory that exists
stays as it is; a file is in the way. -/
def makeDirectory (tree : FileTree) (path : Text) : Except FileError FileTree :=
  match (Path.above path ++ [path]).foldlM addDirectory tree with
  | .error failure => .error failure
  | .ok made =>
      match made.last? path with
      | .ok (_, some (.file _)) => .error (.refused .taken path)
      | _ => .ok made

end FileTree

end ChipEight
