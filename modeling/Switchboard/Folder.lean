import Switchboard.Error
import Switchboard.Path

namespace Switchboard

inductive Place
  | folder
  | file (name : List Char) (slash : Bool)
  | unnamable (slash : Bool)
  | outOfReach (fault : FileFault)

structure Folder where
  files : List (List Char × List Char)

namespace Folder

def empty : Folder := ⟨[]⟩

instance : Inhabited Folder := ⟨empty⟩

def text? (f : Folder) (name : List Char) : Option (List Char) := f.files.lookup name

def edit (f : Folder) (name : List Char) (g : List Char → List Char) : Folder :=
  ⟨(name, g ((f.text? name).getD [])) :: f.files.filter (·.1 != name)⟩

def follow (f : Folder) (up : Nat) : List (List Char) → Place
  | [] => .folder
  | p :: ps =>
    if p.isEmpty || p == Path.here then f.follow up ps
    else if p = Path.above then f.follow (up + 1) ps
    else
      let name := (List.replicate up "../".toList).flatten ++ p
      let last := ps.all (·.isEmpty)
      if Path.pieceLimit < Path.bytes p then
        if last then .unnamable (!ps.isEmpty) else .outOfReach .nameTooLong
      else if last then .file name (!ps.isEmpty)
      else .outOfReach (if (f.text? name).isSome then .notDirectory else .notFound)

def place (f : Folder) (path : List Char) : Place :=
  if path.contains '\x00' then .outOfReach .badName
  else if Path.limit < Path.bytes path then .outOfReach .nameTooLong
  else if Path.isAbsolute path then
    match empty.follow 0 (Path.pieces path) with
    | .file _ false => .outOfReach .notFound
    | place => place
  else f.follow 0 (Path.pieces path)

def target (f : Folder) (path : List Char) : Except FileFault (List Char) :=
  match f.place path with
  | .file name false => .ok name
  | .folder | .file _ true | .unnamable true => .error .isDirectory
  | .unnamable false => .error .nameTooLong
  | .outOfReach fault => .error fault

def read (f : Folder) (path : List Char) : Except FileFault (List Char) :=
  match f.place path with
  | .folder => .error .isDirectory
  | .unnamable _ => .error .nameTooLong
  | .outOfReach fault => .error fault
  | .file name slash =>
    match f.text? name with
    | none => .error .notFound
    | some text => if slash then .error .notDirectory else .ok text

end Folder

end Switchboard
