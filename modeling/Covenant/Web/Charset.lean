import Covenant.Text.Blank
import Covenant.Text.Utf8

/-!
# Character sets of pages

A page comes as bytes, and its content type may name the character set they
are in. What a page is given as is a text, and its bytes are those of the
text in UTF-8; read in another character set they are another text.

Most sets have one character per byte and agree with ASCII. Two have several
bytes per character and want a mark in front that tells their order, which
UTF-8 never begins with.
-/

namespace Covenant

/-! ## Content types -/

namespace ContentType

/-- The pieces of a content type between semicolons; those in quotes do not
count. `last` is the character before, `isQuoted` whether a quote is open. -/
def pieces (last : Char) (isQuoted : Bool) : List Char → List (List Char)
  | [] => [[]]
  | c :: cs =>
    if c = ';' ∧ !isQuoted then [] :: pieces c false cs
    else
      match pieces c (if c = '"' ∧ last ≠ '\\' then !isQuoted else isQuoted) cs with
      | [] => [[c]]
      | p :: ps => (c :: p) :: ps

/-- A quoted value with its escapes resolved. -/
def unescaped : List Char → List Char
  | '\\' :: c :: cs =>
    if c = '\\' ∨ c = '"' then c :: unescaped cs else '\\' :: unescaped (c :: cs)
  | c :: cs => c :: unescaped cs
  | [] => []

/-- A value without the quotes or angles around it. -/
def unquoted (cs : List Char) : List Char :=
  if 1 < cs.length && cs.head? == some '"' && cs.getLast? == some '"' then
    unescaped (cs.drop 1).dropLast
  else if 1 < cs.length && cs.head? == some '<' && cs.getLast? == some '>' then (cs.drop 1).dropLast
  else cs

/-- The name and the value of a parameter. -/
def parameter (piece : List Char) : List Char × List Char :=
  let name := piece.takeWhile (· != '=')
  (Text.lowerLatin (Text.trim name), unquoted (Text.trim ((piece.drop name.length).drop 1)))

/-- **The character set that a content type names**, in lowercase. -/
def charset? (s : String) : Option (List Char) :=
  (List.lookup "charset".toList ((pieces ' ' false s.toList).map parameter)).map Text.lowerLatin

/-- A quoted name, and a semicolon in quotes. -/
example : charset? "a/b; x=\"; charset=z\"; Charset=\"UTF-8\"" = some "utf-8".toList := by
  decide +kernel

end ContentType

/-! ## Character sets -/

/-- **A character set with one character per byte.** -/
structure ByteCharset where
  /-- Its names. -/
  names : List String
  /-- The first byte that is not the code point of its character. -/
  first : Nat
  /-- The characters of the bytes from there on; a byte without one is none. -/
  table : String

/-- The character sets with one character per byte. -/
def byteCharsets : List ByteCharset := [
  ⟨["646", "ansi_x3_4_1968", "ansi_x3_4_1986", "ascii", "cp367", "csascii", "ibm367",
      "iso646_us", "iso_646_irv_1991", "iso_ir_6", "us", "us_ascii"],
    0x80, ""⟩,
  ⟨["8859", "cp819", "csisolatin1", "ibm819", "iso8859", "iso8859_1", "iso_8859_1",
      "iso_8859_1_1987", "iso_ir_100", "l1", "latin", "latin1", "latin_1"],
    0x100, ""⟩,
  ⟨["csisolatin2", "iso8859_2", "iso_8859_2", "iso_8859_2_1987", "iso_ir_101", "l2",
      "latin2"],
    0xa1, "Ą˘Ł¤ĽŚ§¨ŠŞŤŹ\u00adŽŻ°ą˛ł´ľśˇ¸šşťź˝žżŔÁÂĂÄĹĆÇČÉĘËĚÍÎĎĐŃŇÓÔŐÖ×ŘŮÚŰ"
      ++ "ÜÝŢßŕáâăäĺćçčéęëěíîďđńňóôőö÷řůúűüýţ˙"⟩,
  ⟨["csisolatincyrillic", "cyrillic", "iso8859_5", "iso_8859_5", "iso_8859_5_1988",
      "iso_ir_144"],
    0xa1, "ЁЂЃЄЅІЇЈЉЊЋЌ\u00adЎЏАБВГДЕЖЗИЙКЛМНОПРСТУФХЦЧШЩЪЫЬЭЮЯабвгдежзийкл"
      ++ "мнопрстуфхцчшщъыьэюя№ёђѓєѕіїјљњћќ§ўџ"⟩,
  ⟨["csisolatingreek", "ecma_118", "elot_928", "greek", "greek8", "iso8859_7",
      "iso_8859_7", "iso_8859_7_1987", "iso_ir_126"],
    0xa1, "‘’£€₯¦§¨©ͺ«¬\u00ad\ufffd―°±²³΄΅Ά·ΈΉΊ»Ό½ΎΏΐΑΒΓΔΕΖΗΘΙΚΛΜΝΞΟΠΡ"
      ++ "\ufffdΣΤΥΦΧΨΩΪΫάέήίΰαβγδεζηθικλμνξοπρςστυφχψωϊϋόύώ\ufffd"⟩,
  ⟨["csisolatin5", "iso8859_9", "iso_8859_9", "iso_8859_9_1989", "iso_ir_148", "l5",
      "latin5"],
    0xd0, "ĞÑÒÓÔÕÖ×ØÙÚÛÜİŞßàáâãäåæçèéêëìíîïğñòóôõö÷øùúûüışÿ"⟩,
  ⟨["iso8859_15", "iso_8859_15", "l9", "latin9"],
    0xa4, "€¥Š§š©ª«¬\u00ad®¯°±²³Žµ¶·ž¹º»ŒœŸ¿ÀÁÂÃÄÅÆÇÈÉÊËÌÍÎÏÐÑÒÓÔÕÖ×ØÙÚÛÜÝÞ"
      ++ "ßàáâãäåæçèéêëìíîïðñòóôõö÷øùúûüýþÿ"⟩,
  ⟨["1250", "cp1250", "windows_1250"],
    0x80, "€\ufffd‚\ufffd„…†‡\ufffd‰Š‹ŚŤŽŹ\ufffd‘’“”•–—\ufffd™š›śťžź\u00a0ˇ"
      ++ "˘Ł¤Ą¦§¨©Ş«¬\u00ad®Ż°±˛ł´µ¶·¸ąş»Ľ˝ľżŔÁÂĂÄĹĆÇČÉĘËĚÍÎĎĐŃŇÓÔŐÖ×ŘŮÚŰÜ"
      ++ "ÝŢßŕáâăäĺćçčéęëěíîďđńňóôőö÷řůúűüýţ˙"⟩,
  ⟨["1251", "cp1251", "windows_1251"],
    0x80, "ЂЃ‚ѓ„…†‡€‰Љ‹ЊЌЋЏђ‘’“”•–—\ufffd™љ›њќћџ\u00a0ЎўЈ¤Ґ¦§Ё©Є«¬\u00ad®Ї°"
      ++ "±Ііґµ¶·ё№є»јЅѕїАБВГДЕЖЗИЙКЛМНОПРСТУФХЦЧШЩЪЫЬЭЮЯабвгдежзийклмнопр"
      ++ "стуфхцчшщъыьэюя"⟩,
  ⟨["1252", "cp1252", "windows_1252"],
    0x80, "€\ufffd‚ƒ„…†‡ˆ‰Š‹Œ\ufffdŽ\ufffd\ufffd‘’“”•–—˜™š›œ\ufffdžŸ\u00a0¡"
      ++ "¢£¤¥¦§¨©ª«¬\u00ad®¯°±²³´µ¶·¸¹º»¼½¾¿ÀÁÂÃÄÅÆÇÈÉÊËÌÍÎÏÐÑÒÓÔÕÖ×ØÙÚÛÜ"
      ++ "ÝÞßàáâãäåæçèéêëìíîïðñòóôõö÷øùúûüýþÿ"⟩,
  ⟨["cskoi8r", "koi8_r"],
    0x80, "─│┌┐└┘├┤┬┴┼▀▄█▌▐░▒▓⌠■∙√≈≤≥\u00a0⌡°²·÷═║╒ё╓╔╕╖╗╘╙╚╛╜╝╞╟╠╡Ё╢╣╤╥╦╧╨"
      ++ "╩╪╫╬©юабцдефгхийклмнопярстужвьызшэщчъЮАБЦДЕФГХИЙКЛМНОПЯРСТУЖВЬЫЗ"
      ++ "ШЭЩЧЪ"⟩,
  ⟨["437", "cp437", "cspc8codepage437", "ibm437"],
    0x80, "ÇüéâäàåçêëèïîìÄÅÉæÆôöòûùÿÖÜ¢£¥₧ƒáíóúñÑªº¿⌐¬½¼¡«»░▒▓│┤╡╢╖╕╣║╗╝╜╛┐"
      ++ "└┴┬├─┼╞╟╚╔╩╦╠═╬╧╨╤╥╙╘╒╓╫╪┘┌█▄▌▐▀αßΓπΣσµτΦΘΩδ∞φε∩≡±≥≤⌠⌡÷≈°∙·√ⁿ²■"
      ++ "\u00a0"⟩,
  ⟨["mac_roman", "macintosh", "macroman"],
    0x80, "ÄÅÇÉÑÖÜáàâäãåçéèêëíìîïñóòôöõúùûü†°¢£§•¶ß®©™´¨≠ÆØ∞±≤≥¥µ∂∑∏π∫ªºΩæø"
      ++ "¿¡¬√ƒ≈∆«»…\u00a0ÀÃÕŒœ–—“”‘’÷◊ÿŸ⁄€‹›ﬁﬂ‡·‚„‰ÂÊÁËÈÍÎÏÌÓÔ\uf8ffÒÚÛÙı"
      ++ "ˆ˜¯˘˙˚¸˝˛ˇ"⟩]

/-- What stands in place of a byte without a character. -/
def replacement : Char := Char.ofNat 0xfffd

/-- The text of bytes, one character each. -/
def ByteCharset.decode (set : ByteCharset) (bs : List UInt8) : List Char :=
  let table := set.table.toList
  bs.map fun b =>
    let n := b.toNat
    if n < set.first then Char.ofNat n else table[n - set.first]?.getD replacement

/-- The names of UTF-8 with an optional mark in front. -/
def markedNames : List String := ["utf_8_sig"]

/-- The sets with several bytes per character, and how many there are at
least. -/
def wideNames : List (String × Nat) :=
  [("u16", 2), ("utf16", 2), ("utf_16", 2), ("u32", 4), ("utf32", 4), ("utf_32", 4)]

/-- The sets in which no document in ASCII is one. -/
def foreignNames : List String :=
  ["utf_16_le", "utf_16le", "utf_16_be", "utf_16be", "utf_32_le", "utf_32le", "utf_32_be",
    "utf_32be", "037", "cp037", "ibm037", "500", "cp500", "ibm500", "1140", "cp1140", "ibm1140"]

/-- A name with one underscore in place of what is neither letter nor digit. -/
def charsetName (cs : List Char) : String :=
  let words := (cs.map fun c => if c.isAlphanum then c else '_').splitOn '_'
  "_".intercalate ((words.filter (!·.isEmpty)).map String.ofList)

/-- **The text of a page whose bytes are those of a text**, read in the
character set of a name; an unknown one counts as UTF-8. Without the mark
that a set wants there is none. -/
def readIn? (name : List Char) (s : String) : Option String :=
  let name := charsetName name
  let bytes := s.toList.flatMap String.utf8EncodeChar
  match byteCharsets.find? fun set => set.names.contains name, wideNames.lookup name with
  | some set, _ => some (String.ofList (set.decode bytes))
  | none, some least => if bytes.length < least then some (String.singleton replacement) else none
  | none, none =>
    if foreignNames.contains name then some (String.singleton replacement)
    else if markedNames.contains name && s.toList.head? == some (Char.ofNat 0xfeff) then
      some (String.ofList (s.toList.drop 1))
    else some s

/-- A letter beyond ASCII in three sets. -/
example : readIn? "ascii".toList "é" = some "\ufffd\ufffd" ∧ readIn? "l1".toList "é" = some "Ã©" ∧
    readIn? "windows-1252".toList "ß" = some "ÃŸ" := by decide +kernel

end Covenant
