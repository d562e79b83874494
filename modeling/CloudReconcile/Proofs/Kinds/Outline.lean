import CloudReconcile.Kinds.Name
import CloudReconcile.Proofs.Json.Outline

/-!
# Remote objects are read by their outline
-/

namespace CloudReconcile

open Json.Codec (string_byOutline bool_byOutline stringMap_byOutline choice_byOutline)

theorem KeyValue.Remote.record_byOutline : record.ByOutline :=
  .seq (.seq (.seq (.seq (.seq (.seq (.seq (.map (.optional string_byOutline))
    (.optional string_byOutline)) (.optional string_byOutline)) (.optional string_byOutline))
    (.optional bool_byOutline)) (.optional stringMap_byOutline)) (.optional string_byOutline))
    (.optional string_byOutline)

theorem VaultSecret.RemoteAttributes.record_byOutline : record.ByOutline :=
  .seq (.seq (.seq (.seq (.seq (.map (.optional bool_byOutline)) (.optional string_byOutline))
    (.optional string_byOutline)) (.optional string_byOutline)) (.optional string_byOutline))
    (.optional string_byOutline)

theorem VaultSecret.RemoteAttributes.codec_byOutline : codec.ByOutline := record_byOutline.codec _

theorem VaultSecret.Remote.record_byOutline : record.ByOutline :=
  .seq (.seq (.seq (.seq (.seq (.seq (.seq (.map (.optional string_byOutline))
    (.optional string_byOutline)) (.optional string_byOutline))
    (.optional RemoteAttributes.codec_byOutline)) (.optional stringMap_byOutline))
    (.optional string_byOutline)) (.optional string_byOutline)) (.optional bool_byOutline)

theorem ServerConfiguration.Remote.record_byOutline : record.ByOutline :=
  .seq (.seq (.seq (.seq (.seq (.seq (.map (.optional string_byOutline))
    (.optional string_byOutline)) (.optional string_byOutline)) (.optional string_byOutline))
    (.optional string_byOutline)) (.optional string_byOutline)) (.optional string_byOutline)

theorem Bucket.Remote.record_byOutline : record.ByOutline :=
  .seq (.seq (.seq (.seq (.seq (.seq (.seq (.seq (.map (.optional string_byOutline))
    (.optional string_byOutline)) (.optional string_byOutline))
    (.optional (choice_byOutline _ _))) (.optional bool_byOutline))
    (.optional stringMap_byOutline)) (.optional string_byOutline)) (.optional string_byOutline))
    (.optional string_byOutline)

end CloudReconcile
