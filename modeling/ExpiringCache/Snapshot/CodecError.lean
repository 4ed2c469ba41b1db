import ExpiringCache.Disk.IoError
import ExpiringCache.Text.Utf8
/-!
# Codec errors

Why values could not be written as bytes, or read from them.
-/

namespace ExpiringCache

inductive CodecError where
  | io (error : IoError)
  | invalidUtf8 (fault : Utf8.Fault)
  | invalidBool (found : Nat)
  | invalidChar
  | invalidTag (found : Nat)
  | sequenceLengthUnknown
  | sizeLimit
  | untypedDecoding
  | custom (words : String)
deriving DecidableEq

def CodecError.text : CodecError → String
  | io error => "io error: " ++ error.text
  | invalidUtf8 fault => "string is not valid utf8: " ++ fault.text
  | invalidBool found => s!"invalid u8 while decoding bool, expected 0 or 1, found {found}"
  | invalidChar => "char is not valid"
  | invalidTag found => s!"tag for enum is not valid, found {found}"
  | sequenceLengthUnknown =>
    "Bincode can only encode sequences and maps that have a knowable size ahead of time"
  | sizeLimit => "the size limit has been reached"
  | untypedDecoding => "Bincode does not support the serde::Deserializer::deserialize_any method"
  | custom words => words

end ExpiringCache
