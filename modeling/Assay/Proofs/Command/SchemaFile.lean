import Assay.Proofs.Command.Failing
import Assay.Proofs.Schema.Document.Sources
import Assay.Proofs.Text

/-!
# Schemas from files

A schema file is read as its text is, in which places are told by bytes as well
(`readSchema_of_utf8Bytes`).
-/

namespace Assay

theorem Text.utf8Bytes_eq_utf8 (text : String) :
  utf8Bytes text = Json.utf8 text.toList
  := by
  have hbytes : text.toUTF8 = ByteArray.mk (Json.utf8 text.toList).toArray := by
    rw [Json.utf8_toArray, String.utf8Encode_toList]
    rfl
  rw [utf8Bytes, hbytes]

namespace Command

/-- A file with the bytes of a text gives the schema that the text stands for, or is malformed for
the fault of the text. -/
theorem readSchema_of_utf8Bytes {files : Files Id} {path text : String}
    (hread : (files.read path).run = .ok (Text.utf8Bytes text)) :
  (readSchema files path).run.run = (Schema.Document.read text.toList).mapError .malformed
  := by
  rw [readSchema_run, hread, Text.utf8Bytes_eq_utf8]
  dsimp only
  rw [Schema.Document.read_utf8]

/-- A file with a tag that is unknown, of two bytes. -/
def unknownTag : FileTree := .directory [("s", .file (Text.utf8Bytes "[\"ÿ\"]"))]

/-- The fault is told to be behind the fifth byte, which is behind the fourth character. -/
theorem readSchema_unknownTag :
  (readSchema unknownTag.files "s").run.run =
    .error (.malformed ⟨.unknownVariant "ÿ" Schema.Document.nodeChoice.tags, some ⟨1, 5⟩,
      [.index 0]⟩)
  := by
  have hread : (unknownTag.files.read "s").run = .ok (Text.utf8Bytes "[\"ÿ\"]") := rfl
  rw [readSchema_of_utf8Bytes hread]
  rfl

end Command

end Assay
