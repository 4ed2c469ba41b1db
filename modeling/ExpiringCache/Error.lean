import ExpiringCache.Snapshot.CodecError
/-!
# Errors of a cache

A snapshot cannot be saved because of its file or because of its encoding.
-/

namespace ExpiringCache

inductive CacheError where
  | io (cause : IoError)
  | encoding (cause : CodecError)
deriving DecidableEq

namespace CacheError

def causeText : CacheError → String
  | io cause => cause.text
  | encoding cause => cause.text

def text : CacheError → String
  | io cause => "Snapshot I/O error: " ++ cause.text
  | encoding cause => "Snapshot encoding error: " ++ cause.text

end CacheError

end ExpiringCache
