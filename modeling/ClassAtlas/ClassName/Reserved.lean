/-!
# Reserved words

Segments of a path that the target language reserves are escaped by an
underscore. No escaped segment is reserved, so escaping twice is escaping once.
-/

namespace ClassAtlas
namespace ClassName

def reservedWords : List String :=
  ["break", "case", "catch", "class", "const", "continue", "debugger", "default", "delete",
    "do", "else", "enum", "export", "extends", "false", "finally", "for", "function", "if",
    "implements", "import", "in", "instanceof", "interface", "let", "new", "null", "package",
    "private", "protected", "public", "return", "static", "super", "switch", "this", "throw",
    "true", "try", "typeof", "var", "void", "while", "with", "yield"]

def isReserved (segment : List Char) : Bool :=
  reservedWords.contains (String.ofList segment)

def escapeSegment (segment : List Char) : List Char :=
  if isReserved segment then segment ++ ['_'] else segment

end ClassName
end ClassAtlas
