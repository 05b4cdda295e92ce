import Apidoc.Contents.Entry
import Apidoc.Data.Value

/-!
# The table of contents as plain data
-/

namespace Apidoc.Entry

mutual

def outlineOne : Entry → Data
  | .mk h es => .object [("id", .str h.id), ("title", .str h.title), ("type", .str h.kind.text),
      ("level", .int h.level), ("file_path", .str h.path), ("line_number", .int h.line),
      ("children", .list (outlines es))]

def outlines : List Entry → List Data
  | [] => []
  | e :: es => outlineOne e :: outlines es

end

def outline (es : List Entry) : Data := .list (outlines es)

end Apidoc.Entry
