import ClassAtlas.Text.Utf8

/-!
# Texts in archives

A member says whether its name and its comment are in UTF-8. If not, each byte is
a character of code page 437, whose lower half is the basic set.
-/

namespace ClassAtlas
namespace Archive

def upperHalf : Array Char :=
  ("ÇüéâäàåçêëèïîìÄÅÉæÆôöòûùÿÖÜ¢£¥₧ƒáíóúñÑªº¿⌐¬½¼¡«»░▒▓│┤╡╢╖╕╣║╗╝╜╛┐" ++
    "└┴┬├─┼╞╟╚╔╩╦╠═╬╧╨╤╥╙╘╒╓╫╪┘┌█▄▌▐▀αßΓπΣσµτΦΘΩδ∞φε∩≡±≥≤⌠⌡÷≈°∙·√ⁿ²■\u00A0").toList.toArray

def codePageChar (byte : UInt8) : Char :=
  if byte < 128 then Char.ofNat byte.toNat
  else (upperHalf[byte.toNat - 128]?).getD ' '

def codePageText (bytes : List UInt8) : String :=
  String.ofList (bytes.map codePageChar)

def memberText (isUtf8 : Bool) (bytes : List UInt8) : String :=
  if isUtf8 then Text.ofUtf8 bytes else codePageText bytes

end Archive
end ClassAtlas
