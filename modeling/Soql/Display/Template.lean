import Soql.Display.Fill
import Soql.Query.Compile

/-!
This module contains the views of values of every kind, and with them the debug text of templates:
their format, filled with the plain displays of their arguments. Nothing in it is escaped, so it is
for reading only.
-/

namespace Soql
namespace Display

mutual

def view : Value → View
  | .template format arguments =>
    let items := viewAll arguments
    .mk (.template format arguments) (templateText format items)
      (do return templateQuoted format (← items.mapM View.quoted)) items
  | .builder format arguments =>
    let items := viewAll arguments
    let shown : Except Fault String := do
      let texts ← items.mapM View.quoted
      return call "TemplateBuilder" [templateQuoted format texts]
    .uniform (.builder format arguments) shown items
  | .sequence kind values => sequenceView kind values (viewAll values)
  | .cycle kind before =>
    let items := viewAll before
    .uniform (.cycle kind before) (cycleText kind.toSequenceKind items) items
  | .table names values =>
    let items := viewAll values
    let shown : Except Fault String := do
      let texts ← items.mapM View.quoted
      return tableText names texts
    .uniform (.table names values) shown items
  | v => leaf v

def viewAll : List Value → List View
  | [] => []
  | v :: vs => view v :: viewAll vs

end

end Display

namespace Template

def debugText (t : Template) : Except Display.Fault Text :=
  Display.templateText t.format (Display.viewAll t.arguments)

end Template

end Soql
