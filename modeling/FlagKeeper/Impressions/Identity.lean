import FlagKeeper.Digest.Sha256
import FlagKeeper.Model.Impression

/-!
# Which impressions are the same

Two impressions count as the same when their identity bytes have the same digest. The bytes are those of key, feature,
treatment, label, change number and properties, with a colon between them; what is absent counts as empty or zero.
-/

namespace FlagKeeper

/-- The bytes of a text. -/
def utf8Bytes (s : String) : List UInt8 := s.toUTF8.toList

/-- The eight bytes of an integer, the highest first, a negative one by its complement. -/
def signedBytes (n : Int) : List UInt8 := Sha256.bigEndian 8 (n % wordCount).toNat

namespace Impression

/-- The bytes that make up the identity of an impression. -/
def identityBytes (i : Impression) : List UInt8 :=
  utf8Bytes i.keyName ++ 58 :: (utf8Bytes i.featureName ++ 58 :: (utf8Bytes i.treatment ++
    58 :: (utf8Bytes (i.label.getD "") ++ 58 :: (signedBytes (i.changeNumber.getD 0) ++
      58 :: utf8Bytes (i.properties.getD "")))))

/-- The number by which an impression is recognised. -/
def identityHash (i : Impression) : UInt64 := Sha256.leadingWord i.identityBytes

end Impression

end FlagKeeper
