/-!
# Byte strings

Bodies and files are byte strings. Two of them are equal when they hold the same bytes.
-/

namespace PageCache

instance decidableEqBytes : DecidableEq ByteArray := fun a b =>
  decidable_of_iff (a.data = b.data) (ByteArray.ext_iff).symm

end PageCache
