/-!
# Placeholders

A placeholder marks the place in a statement where a bound value goes: a colon followed by a name.
It is described by its name, its text as it stands in the statement, the offset of that text in
characters, and its rank among the placeholders of the statement.

A description need not come from a scan (`SqlBind.Placeholder.scan`): somebody who knows a
statement may describe its placeholders by hand, with any text and any offset, also a negative one
that counts from the end. Offsets are therefore integers.

## Main definitions

* `Placeholder`: the description.
* `Placeholder.stop`: the offset just past the text.
* `Placeholder.sameSite`: agreement in name and position, which is what makes two descriptions
  equal; rank and text do not enter.
-/

namespace SqlBind

/-- The description of one placeholder of a statement. -/
structure Placeholder where
  name : String
  position : Int
  ordinal : Int
  text : String
  deriving DecidableEq, Repr, Inhabited

namespace Placeholder

/-- The offset just past the text of the placeholder. -/
def stop (p : Placeholder) : Int := p.position + p.text.length

/-- Whether two descriptions are of the same name at the same position. -/
def sameSite (p q : Placeholder) : Bool := p.name = q.name && p.position = q.position

end Placeholder

end SqlBind
