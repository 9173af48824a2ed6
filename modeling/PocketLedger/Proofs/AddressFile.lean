import PocketLedger.AddressBook.Basic
import PocketLedger.Proofs.Json.Records
import PocketLedger.Proofs.Json.Values

/-!
# Address files are read back

An address file holds a list of records. A record has a description that can be any value: it is
read back if it is plain and leaves room for the record and the list around it.
-/

namespace PocketLedger

open Json

/-- Text in UTF-8 is made of its characters. -/
theorem Text.glyphsOfBytes_ofText (text : String) :
    glyphsOfBytes (Bytes.ofText text) = glyphs text.toList := by
  have bytes : ByteArray.mk (Bytes.ofText text).toArray = text.toByteArray := rfl
  have valid : String.fromUTF8? text.toByteArray = some text := by
    rw [String.fromUTF8?, dif_pos text.isValidUTF8]
    rfl
  rw [glyphsOfBytes, bytes, valid]

/-- A record is read back if its definition of an asset is plain. -/
theorem AddressRecord.readsBack {depth : Nat} {record : AddressRecord}
    (plain : record.assetDefinition.Plain depth) : format.ReadsBack (depth + 1) record :=
  Format.readsBack_record
    (.cons (Format.readsBack_text _)
      (.cons (Format.readsBack_text _)
        (.cons (Format.readsBack_text _)
          (.cons (Format.readsBack_text _)
            (.cons (Format.readsBack_text _)
              (.cons plain.readsBack (.cons (Format.readsBack_text _) .nil)))))))
    (by decide) rfl

namespace AddressBook

/-- The records of a file are read back, in their order. -/
theorem ofBytes_written (records : List AddressRecord)
    (plain : ∀ record ∈ records, record.assetDefinition.Plain 125) (origin : Path) :
    ∃ book, ofBytes (Bytes.ofText ((Format.list AddressRecord.format).toText records)) origin =
        .ok book ∧ book.records.toList = records := by
  have readsBack : (Format.list AddressRecord.format).ReadsBack maximalDepth records :=
    Format.readsBack_list fun record mem => AddressRecord.readsBack (plain record mem)
  have decoded := Format.decode_of_finds (readsBack.finds maximalDepth (Nat.le_refl _))
  refine ⟨ofRecords records, ?_, rfl⟩
  rw [ofBytes, Format.ofBytes, Text.glyphsOfBytes_ofText, Format.toText, String.toList_ofList,
    decoded]

/-- A record whose description has numbers at both ends of their range and texts that need
escapes. -/
def sample : AddressRecord where
  address := "a\"b\\"
  privateKey := ""
  publicKeyHash := "\u00e9"
  assetAddress := "\n"
  assetId := "\x01"
  assetDefinition := .object [
    ("", .list [.number (.integer (-9223372036854775808)),
      .number (.integer 18446744073709551615), .null, .list []]),
    ("b", .bool true), ("\u00e9", .object [("\n", .text "\\")])]
  assetDefinitionHash := "c"

/-- A file that has one record twice. -/
theorem ofBytes_written_sample :
    (∀ record ∈ [sample, sample], record.assetDefinition.Plain 125) ∧
      ∃ book, ofBytes (Bytes.ofText ((Format.list AddressRecord.format).toText [sample, sample]))
        ⟨[]⟩ = .ok book ∧ book.records.toList = [sample, sample] := by
  have plain : sample.assetDefinition.Plain 125 := by
    refine .object ?_ (by decide)
    simp only [List.forall_mem_cons]
    refine ⟨.list ?_, .bool, .object ?_ (by decide), nofun⟩
    · simp only [List.forall_mem_cons]
      exact ⟨.integer (by decide) (by decide), .integer (by decide) (by decide), .null,
        .list nofun, nofun⟩
    · simp only [List.forall_mem_cons]
      exact ⟨.text, nofun⟩
  have all : ∀ record ∈ [sample, sample], record.assetDefinition.Plain 125 := by
    simpa using plain
  exact ⟨all, ofBytes_written _ all _⟩

end AddressBook
end PocketLedger
