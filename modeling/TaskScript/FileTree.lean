import TaskScript.Device

/-!
# Trees of files

The folders and files that a command finds around it, and where a path leads in them. A path is
followed name by name, and each name but the last has to be that of a folder; a path that goes wrong
in several places fails at the first. Around the files of a tree lies what every system has: its
folders, its devices and its links.
-/

namespace TaskScript

/-- The names on the way from the root to a file or folder, its own name first. -/
abbrev Route := List String

/-- What lies at the end of a route. -/
inductive Entry where
  | folder
  | file (content : ByteArray)
  | device (device : Device)

/-- Files, and the folder to start from. A folder is there for what lies in it. -/
structure FileTree where
  /-- The folder where a path begins that does not begin at the root. -/
  home : Route
  files : List (Route × ByteArray) := []

namespace FileTree

/-! ## What every system has -/

/-- The folder of the running command. -/
def selfFolder : Route := ["self", "proc"]

/-- The folder of the streams of the running command. -/
def streamFolder : Route := "fd" :: selfFolder

/-- The devices, by their routes. -/
def devices : List (Route × Device) :=
  [(["null", "dev"], .null), (["zero", "dev"], .source), (["random", "dev"], .source),
    (["urandom", "dev"], .source), (["full", "dev"], .full), (["tty", "dev"], .terminal),
    ("0" :: streamFolder, .stdin), ("1" :: streamFolder, .stdout), ("2" :: streamFolder, .stderr)]

/-- The folders that are there whatever lies in them. -/
def systemFolders : List Route :=
  [["etc"], ["home"], ["opt"], ["root"], ["run"], ["sys"], ["tmp"], ["usr"], ["var"],
    ["pts", "dev"], ["shm", "dev"], streamFolder]

/-- The links, by their routes, and the routes that they lead to. -/
def links (tree : FileTree) : List (Route × Route) :=
  [(["stdin", "dev"], "0" :: streamFolder), (["stdout", "dev"], "1" :: streamFolder),
    (["stderr", "dev"], "2" :: streamFolder), (["fd", "dev"], streamFolder),
    ("cwd" :: selfFolder, tree.home), ("root" :: selfFolder, [])]

/-- Why no file can be made at a route, if that is so: the system keeps some folders itself. -/
def reserved? (route : Route) : Option FileError :=
  if ["proc"].isSuffixOf route then some .missing
  else if ["sys"].isSuffixOf route then some .denied
  else none

/-- How many bytes a name may have. -/
def nameLimit : Nat := 255

/-- How many bytes a path falls short of. -/
def pathLimit : Nat := 4096

/-! ## Following a path -/

/-- The names of a path, which slashes separate. -/
def namesOf (path : String) : List String := path.splitToList (· = '/')

/-- A tree with some files in the folder where paths begin. No path spells the name of that folder,
since a slash ends a name. -/
def ofFolder (files : List (String × ByteArray)) : FileTree :=
  let home := ["/", "tmp"]
  { home, files := files.map fun (path, content) => ((namesOf path).reverse ++ home, content) }

/-- Is there a folder at the end of the route? -/
def isFolder (tree : FileTree) (route : Route) : Bool :=
  (tree.home :: systemFolders).any (route.isSuffixOf ·)
    || (devices.map (·.1) ++ tree.files.map (·.1)).any fun file =>
      file ≠ route && route.isSuffixOf file

/-- What lies at the end of the route, if anything does. -/
def item? (tree : FileTree) (route : Route) : Option Entry :=
  match devices.lookup route, tree.files.lookup route with
  | some device, _ => some (.device device)
  | none, some content => some (.file content)
  | none, none => if tree.isFolder route then some .folder else none

/-- Where a name leads from a route. The route has to end in a folder; what the name leads to need
not be there. -/
def step (tree : FileTree) (route : Route) (name : String) : Except FileError Route :=
  match tree.item? route with
  | none => .error .missing
  | some (.file _) | some (.device _) => .error .notFolder
  | some .folder =>
    if name = "" || name = "." then .ok route
    else if name = ".." then .ok route.tail
    else if nameLimit < name.utf8ByteSize then .error .nameTooLong
    else .ok ((tree.links.lookup (name :: route)).getD (name :: route))

/-- Where names lead, from where a path begins. -/
def follow (tree : FileTree) (path : String) (names : List String) : Except FileError Route :=
  if path.isEmpty then .error .missing
  else if pathLimit ≤ path.utf8ByteSize then .error .nameTooLong
  else names.foldlM tree.step (if path.startsWith "/" then [] else tree.home)

/-- The names of a path that is to be written. A path that ends in a slash is followed to the folder
that the last name lies in. -/
def targetNames (path : String) : List String :=
  let names := namesOf path
  if path.endsWith "/" then (names.reverse.dropWhile (·.isEmpty)).tail.reverse ++ [""] else names

/-- The route to the file at a path that is to be written. The file need not be there yet. A path
that ends in a slash asks for a folder, whatever its last name. -/
def target (tree : FileTree) (path : String) : Except FileError Route := do
  let route ← tree.follow path (targetNames path)
  if path.endsWith "/" then .error .isFolder else .ok route

/-! ## Reading and writing -/

/-- Where the bytes at a path come from. -/
def origin (tree : FileTree) (path : String) : Except FileError Origin := do
  let route ← tree.follow path (namesOf path)
  match tree.item? route with
  | none => .error .missing
  | some .folder => .error .isFolder
  | some (.file content) => .ok (.bytes content)
  | some (.device device) => device.origin

/-- Reads the file at a path, with what the standard input still holds. Gives what it holds then as
well. -/
def read (tree : FileTree) (path : String) (stdin : ByteArray) :
    Except FileError ByteArray × ByteArray :=
  match tree.origin path with
  | .error error => (.error error, stdin)
  | .ok (.bytes content) => (.ok content, stdin)
  | .ok .stdin => (.ok stdin, .empty)

/-- Where bytes go that are written at a path. -/
def sink (tree : FileTree) (path : String) : Except FileError Sink := do
  let route ← tree.target path
  match tree.item? route with
  | none =>
    match reserved? route with
    | some error => .error error
    | none => .ok .file
  | some .folder => .error .isFolder
  | some (.file _) => .ok .file
  | some (.device device) => device.sink

/-- The tree with the file at a path written anew, if the path leads to a file. -/
def write (tree : FileTree) (path : String) (content : ByteArray) : FileTree :=
  match tree.target path with
  | .error _ => tree
  | .ok route => { tree with files := (route, content) :: tree.files.filter (·.1 ≠ route) }

end FileTree

end TaskScript
