import SchemaGraph.Keyed

/-!
# Folders of text files

A `Folder` holds text files by their places, and the folders that were created without a file in
them. Paths are followed part by part: a part leads on only from a folder, `.` and nothing between
two slashes stay there, and `..` leads to the folder around it. Reading and writing fail for the
reasons that an operating system gives.

What a change did before it failed stays done: `Change` keeps the folder beside the reason.
-/

namespace SchemaGraph

/-- Why a file cannot be read or written. -/
inductive FileError where
  | notFound
  | alreadyExists
  | notADirectory
  | isADirectory
  | nameTooLong
  /-- Another reason, with its number and its explanation. -/
  | other (code : Nat) (kind explanation : String)
  deriving DecidableEq, Repr

namespace FileError

/-- The number of a reason. -/
def code : FileError → Nat
  | .notFound => 2
  | .alreadyExists => 17
  | .notADirectory => 20
  | .isADirectory => 21
  | .nameTooLong => 36
  | .other code _ _ => code

/-- The word for a reason. -/
def kind : FileError → String
  | .notFound => "NotFound"
  | .alreadyExists => "AlreadyExists"
  | .notADirectory => "NotADirectory"
  | .isADirectory => "IsADirectory"
  | .nameTooLong => "InvalidFilename"
  | .other _ kind _ => kind

/-- The explanation of a reason. -/
def explanation : FileError → String
  | .notFound => "No such file or directory"
  | .alreadyExists => "File exists"
  | .notADirectory => "Not a directory"
  | .isADirectory => "Is a directory"
  | .nameTooLong => "File name too long"
  | .other _ _ explanation => explanation

/-- Whether the reason leaves open that there is something at a path. -/
def leavesOpen : FileError → Bool
  | .notFound | .notADirectory | .nameTooLong => false
  | _ => true

end FileError

/-- Where the names of a place start: at the root, or at the folder so many levels above the working
folder. -/
inductive Start where
  | root
  | above (levels : Nat)
  deriving DecidableEq, Repr

/-- The place of a file or a folder: the names that lead to it from its start. -/
structure Place where
  start : Start
  names : List String
  deriving DecidableEq, Repr

namespace Place

/-- The working folder. -/
def here : Place := ⟨.above 0, []⟩

/-- The folder that holds everything. -/
def root : Place := ⟨.root, []⟩

/-- The place of a name in a folder. -/
def child (place : Place) (name : String) : Place :=
  ⟨place.start, place.names ++ [name]⟩

/-- The folder around a place. The root is around itself. -/
def parent (place : Place) : Place :=
  match place.start, place.names with
  | .root, [] => root
  | .above levels, [] => ⟨.above (levels + 1), []⟩
  | start, names => ⟨start, names.dropLast⟩

/-- Whether a place lies in a folder, however deep. -/
def isIn (place outer : Place) : Bool :=
  place.start = outer.start && outer.names.isPrefixOf place.names && place ≠ outer

/-- The file that is empty whatever is written to it. -/
def nothing : Place := (root.child "dev").child "null"

/-- The folders that exist on every system. -/
def everywhere : List Place := [root.child "dev", root.child "tmp"]

end Place

namespace Path

/-- The greatest number of octets in a path. -/
def maxLength : Nat := 4095

/-- The greatest number of octets in a name. -/
def maxName : Nat := 255

/-- The parts of a path, divided by its slashes. -/
def parts (path : String) : List String :=
  (path.toList.splitOnP (· = '/')).map String.ofList

/-- The parts of a path that lead somewhere else. -/
def names (path : String) : List String :=
  (parts path).filter fun part => part ≠ "" && part ≠ "."

/-- Whether a path starts at the root. -/
def isAbsolute (path : String) : Bool :=
  path.toList.head? = some '/'

/-- The place where a path starts. -/
def start (path : String) : Place :=
  if isAbsolute path then .root else .here

/-- Accept a path unless it is empty or too long. -/
def accept (path : String) : Except FileError Unit :=
  if path.isEmpty then .error .notFound
  else if path.utf8ByteSize > maxLength then .error .nameTooLong
  else .ok ()

/-- Create the folder that names lead to, given in reverse. If that fails because a folder on the
way is missing, create the folders on the way first. -/
def createThrough {m : Type → Type} [Monad m] [MonadExceptOf FileError m]
    (create : List String → String → m Unit) : List String → m Unit
  | [] => pure ()
  | name :: outer =>
      tryCatchThe FileError (create outer.reverse name) fun error =>
        if error = .notFound then do
          createThrough create outer
          create outer.reverse name
        else throwThe FileError error

/-- Create the folders around the file that a path leads to. -/
def createAround {m : Type → Type} [Monad m] [MonadExceptOf FileError m]
    (create : List String → String → m Unit) (path : String) : m Unit :=
  createThrough create (names path).dropLast.reverse

end Path

/-- Text files at their places, and the folders created beside those that hold them. -/
structure Folder where
  files : List (Place × String)
  folders : List Place

/-- A change of a folder, which may fail. -/
abbrev Change := ExceptT FileError (StateM Folder)

namespace Folder

/-- The text of the file at a place. -/
def file? (folder : Folder) (place : Place) : Option String :=
  if place = .nothing then some "" else folder.files.lookup place

/-- Whether a place is a folder: where paths can start, created as one, or with something in it. -/
def isFolder (folder : Folder) (place : Place) : Bool :=
  place.names.isEmpty ||
    (Place.everywhere ++ folder.folders).any (fun known => known = place || known.isIn place) ||
    folder.files.any fun entry => entry.1.isIn place

/-- Whether there is something at a place. -/
def contains (folder : Folder) (place : Place) : Bool :=
  folder.isFolder place || (folder.file? place).isSome

/-- The place of a name in a place, which has to be a folder. -/
def enter (folder : Folder) (place : Place) (name : String) : Except FileError Place :=
  if !folder.isFolder place then .error .notADirectory
  else if name = "" || name = "." then .ok place
  else if name = ".." then .ok place.parent
  else if name.utf8ByteSize > Path.maxName then .error .nameTooLong
  else .ok (place.child name)

/-- Follow one part of a path. -/
def step (folder : Folder) (place : Place) (part : String) : Except FileError Place := do
  let next ← folder.enter place part
  if folder.contains next then .ok next else .error .notFound

/-- Follow the parts of a path. -/
def follow (folder : Folder) (start : Place) (parts : List String) : Except FileError Place :=
  parts.foldlM folder.step start

/-- The place that a path leads to. -/
def place (folder : Folder) (path : String) : Except FileError Place := do
  Path.accept path
  folder.follow (Path.start path) (Path.parts path)

/-- The text of a file. -/
def read (folder : Folder) (path : String) : Except FileError String := do
  let place ← folder.place path
  match folder.file? place with
  | some text => .ok text
  | none => .error .isADirectory

/-- The folder with a file at a place, in place of the one that was there. -/
def put (folder : Folder) (place : Place) (text : String) : Folder :=
  ⟨(place, text) :: folder.files.filter (fun entry => entry.1 ≠ place), folder.folders⟩

/-- A working folder with the given files, each with its path. Of two files with one path the later
one is there. -/
def ofFiles (files : List (String × String)) : Folder :=
  files.foldl (fun folder (path, text) => folder.put ⟨.above 0, Path.names path⟩ text) ⟨[], []⟩

/-- Create a folder unless there is one. -/
def createFolder (start : Place) (outer : List String) (name : String) : Change Unit := do
  let folder ← getThe Folder
  let around ← liftExcept (folder.follow start outer)
  let place ← liftExcept (folder.enter around name)
  if folder.isFolder place then pure ()
  else if (folder.file? place).isSome then throw .alreadyExists
  else set { folder with folders := place :: folder.folders }

/-- The place of the file that a path can be written to. A path that ends in a slash, `.` or `..`
leads to a folder. -/
def target (folder : Folder) (path : String) : Except FileError Place := do
  let parts := Path.parts path
  match (parts.reverse.dropWhile (· = "")) with
  | [] => .error .isADirectory
  | name :: outer =>
      let around ← folder.follow (Path.start path) outer.reverse
      if !folder.isFolder around then .error .notADirectory
      else if name = "." || name = ".." || parts.getLast? = some "" then .error .isADirectory
      else
        let place ← folder.enter around name
        if folder.isFolder place then .error .isADirectory else .ok place

/-- Write a file, and create the folders around it. -/
def writing (path text : String) : Change Unit := do
  liftExcept (Path.accept path)
  Path.createAround (createFolder (Path.start path)) path
  let folder ← getThe Folder
  let place ← liftExcept (folder.target path)
  set (folder.put place text)

/-- Write a file: whether that succeeds, and the folder afterwards. -/
def write (folder : Folder) (path text : String) : Except FileError Unit × Folder :=
  (writing path text).run.run folder

end Folder

end SchemaGraph
