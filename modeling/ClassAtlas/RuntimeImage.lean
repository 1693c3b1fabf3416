import ClassAtlas.Bytes.Word
import ClassAtlas.Text.Split
import ClassAtlas.Text.Utf8

/-!
# Runtime images

A runtime image holds the classes of a platform in one file. After a header come
a table of locations, their attributes, the texts that attributes refer to, and
the contents. The order of bytes in words shows in the number the file starts
with. Only the header must be there: a row of the table that leads out of the
file, or to what makes no sense, is passed over.
-/

namespace ClassAtlas

/-- The classes of an image by their paths, in the order of its table. -/
structure RuntimeImage where
  resources : List (String × ByteArray)

namespace RuntimeImage

def order? (bytes : ByteArray) : Option ByteOrder :=
  match Bytes.slice? bytes 0 4 with
  | none => none
  | some start =>
      if start.toList = [0xCA, 0xFE, 0xDA, 0xDA] then some .mostSignificantFirst
      else if start.toList = [0xDA, 0xDA, 0xFE, 0xCA] then some .leastSignificantFirst
      else none

def version : Nat :=
  0x00010000

structure Layout where
  order : ByteOrder
  tableLength : Nat
  locationsSize : Nat
  stringsSize : Nat

namespace Layout

/-- The table of offsets comes behind one that redirects names, of the same
length. -/
def tableStart (layout : Layout) : Nat :=
  28 + 4 * layout.tableLength

def locationsStart (layout : Layout) : Nat :=
  layout.tableStart + 4 * layout.tableLength

def stringsStart (layout : Layout) : Nat :=
  layout.locationsStart + layout.locationsSize

def contentsStart (layout : Layout) : Nat :=
  layout.stringsStart + layout.stringsSize

end Layout

def layout? (bytes : ByteArray) : Option Layout := do
  let order ← order? bytes
  let word := fun index => order.word? bytes (4 * index) 4
  let layout : Layout := {
    order
    tableLength := ← word 4
    locationsSize := ← word 5
    stringsSize := ← word 6 }
  if (← word 1) = version then some layout else none

/-!
# Locations
-/

abbrev Attributes :=
  List (Nat × Nat)

/-- The attributes from a position up to the one that ends them or the end of the file,
last one first. Those of the greatest kind have no meaning. -/
def attributesAfter? (read : Attributes) (bytes : ByteArray) (position : Nat) :
    Option Attributes :=
  match _found : bytes[position]? with
  | none => some read
  | some head =>
      let kind := head.toNat / 8
      let length := head.toNat % 8 + 1
      if kind = 0 then some read
      else if 8 < kind then none
      else
        match ByteOrder.mostSignificantFirst.word? bytes (position + 1) length with
        | none => none
        | some value => attributesAfter? ((kind, value) :: read) bytes (position + 1 + length)
termination_by bytes.size - position
decreasing_by
  obtain ⟨inside, _⟩ := getElem?_eq_some_iff.mp _found
  omega

namespace Attributes

/-- The value of a kind of attribute; the last one counts, and a missing one is zero. -/
def value (attributes : Attributes) (kind : Nat) : Nat :=
  (attributes.lookup kind).getD 0

/-- The length of the content as it stands in the image, which is stated apart from
its true length when it is compressed. -/
def contentSize (attributes : Attributes) : Nat :=
  if attributes.value 6 = 0 then attributes.value 7 else attributes.value 6

end Attributes

def offsetLimit : Nat :=
  0x100000000

def attributeLimit : Nat :=
  0x10000000000000000

/-- The position at an offset from another one. The sum goes round at a limit, so that
large offsets lead backwards. -/
def positionBelow (limit base offset : Nat) : Nat :=
  (base + offset) % limit

def zeroFrom? (bytes : ByteArray) (position : Nat) : Option Nat :=
  match _found : bytes[position]? with
  | none => none
  | some byte => if byte = 0 then some position else zeroFrom? bytes (position + 1)
termination_by bytes.size - position
decreasing_by
  obtain ⟨inside, _⟩ := getElem?_eq_some_iff.mp _found
  omega

/-- The text at an offset, which a zero byte ends. The one at zero is always empty. -/
def textAt? (layout : Layout) (bytes : ByteArray) (offset : Nat) : Option String :=
  let start := positionBelow attributeLimit layout.stringsStart offset
  if offset = 0 then some ""
  else (zeroFrom? bytes start).map fun stop => Text.ofUtf8 (bytes.extract start stop).toList

/-- A name that starts with a slash names its module first, which is left out. -/
def withoutModule (name : List Char) : List Char :=
  match name with
  | '/' :: rest =>
      match rest.dropWhile (· ≠ '/') with
      | _ :: path => path
      | [] => rest
  | _ => name

def resourceName (parent base extension : String) : String :=
  (if parent.isEmpty then "" else parent ++ "/") ++ base ++
    (if extension.isEmpty then "" else "." ++ extension)

/-- The resource at a row of the table, by its name in the image. The name of its module must
be there, though it is no part of that name. -/
def resource? (layout : Layout) (bytes : ByteArray) (row : Nat) :
    Option (String × ByteArray) := do
  let offset ← layout.order.word? bytes (layout.tableStart + 4 * row) 4
  let location := positionBelow offsetLimit layout.locationsStart offset
  let attributes ← attributesAfter? [] bytes location
  let text := fun kind => textAt? layout bytes (attributes.value kind)
  let _module ← text 1
  let name := resourceName (← text 2) (← text 3) (← text 4)
  let start := positionBelow attributeLimit layout.contentsStart (attributes.value 5)
  let content ← Bytes.slice? bytes start attributes.contentSize
  return (name, content)

def isClass (name : String) : Bool :=
  (Text.beforeEnd? ".class".toList name.toList).isSome

def ofResources (resources : List (String × ByteArray)) : RuntimeImage where
  resources := (resources.map fun resource =>
    (String.ofList (withoutModule resource.1.toList), resource.2)).filter
      fun resource => isClass resource.1

/-- The image that some bytes hold. The table has no more rows than there are bytes. -/
def read? (bytes : ByteArray) : Option RuntimeImage :=
  (layout? bytes).map fun layout =>
    let rows := List.range (min layout.tableLength bytes.size)
    ofResources (rows.filterMap (resource? layout bytes))

end RuntimeImage
end ClassAtlas
