import ClassAtlas.Atlas
import ClassAtlas.Table

/-!
# The summary of an atlas

A line for each class with its kind, its generated name and the number of its
members.
-/

namespace ClassAtlas
namespace Atlas

def kindWord (entry : ClassEntry) : String :=
  if entry.isInterface then "interface" else if entry.isEnum then "enum" else "class"

def summaryRow (item : ClassName × ClassEntry) : List String :=
  [item.1.text, kindWord item.2, item.2.targetType, toString item.2.constructors.length,
    toString item.2.methods.length,
    toString ((item.2.variants.map fun variant => variant.2.length).foldl (· + ·) 0)]

def summary (atlas : Atlas) : Table where
  header := ["Class", "Kind", "TS", "Ctors", "Methods", "Groups"]
  rows := atlas.classes.map summaryRow

end Atlas
end ClassAtlas
