import Soql.Value
import Soql.Template.Segment

/-!
This module contains the joining of templates. The placeholders of the second template are shifted
behind the arguments of the first, so that every placeholder keeps its argument.
-/

namespace Soql

namespace Template

def merge (current next : Template) : Except Error Template := do
  let head ← renumber current.format 0
  let tail ← renumber next.format current.arguments.length
  return ⟨head ++ tail, current.arguments ++ next.arguments⟩

theorem arguments_merge {current next merged : Template} (h : current.merge next = .ok merged) :
    merged.arguments = current.arguments ++ next.arguments := by
  simp only [merge, bind, Except.bind] at h
  split at h
  . contradiction
  . split at h
    . contradiction
    . cases h
      rfl

end Template

/--
Accumulates templates; adding one gives a new builder and leaves the old one as it is.
-/
structure Builder where
  template : Template

namespace Builder

def empty : Builder :=
  ⟨.empty⟩

def add (b : Builder) (next : Template) : Except Error Builder :=
  (b.template.merge next).map Builder.mk

def build (b : Builder) : Template :=
  b.template

theorem build_add (b : Builder) (next : Template) :
    (b.add next).map build = b.build.merge next := by
  simp only [add, build]
  cases b.template.merge next <;> rfl

end Builder
end Soql
