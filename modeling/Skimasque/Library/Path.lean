import Skimasque.Library.Text

/-! `std::path::Path` on Unix, as text. -/

set_option autoImplicit false

namespace Skimasque.Library.Path

/-- The root or the dot that a path starts with, and the names in it. -/
def components (path : String) : List String :=
  let pieces := Text.split '/' path
  let first := if Text.startsWith path "/" then ["/"] else if pieces.head? = some "." then ["."] else []
  first ++ pieces.filter fun piece => piece != "" && piece != "."

def fileName (path : String) : Option String :=
  (components path).getLast?.filter fun last => !(["/", ".", ".."].contains last)

/-- The file name up to its last dot, unless that dot starts it. -/
def fileStem (path : String) : Option String :=
  (fileName path).map fun name =>
    match Text.rsplitOnce '.' name with
    | some (stem, _) => if Text.isEmpty stem then name else stem
    | none => name

def extension (path : String) : Option String := (fileName path).bind Text.extension

/-- `Path::join` of a relative name. -/
def join (dir name : String) : String :=
  if Text.isEmpty dir || Text.endsWith dir "/" then dir ++ name else dir ++ "/" ++ name

end Skimasque.Library.Path
