import PocketLedger.AddressBook.Basic
import PocketLedger.Proofs.FirstAndLast

/-!
# Finding records by address

An address book knows the position of one record for each address. Records are entered in their
order and a later record of an address replaces an earlier one, so every answer comes from the last
record of the address. The positions stay within the records, and an address without a record is
refused by name.
-/

namespace PocketLedger.AddressBook

/-! ## The last record of an address -/

/-- The last of some records that has an address. -/
def IsLastOf (records : List AddressRecord) (address : String) (record : AddressRecord) : Prop :=
  IsLast (fun other => other.address = address) records record

/-! ## Entering records -/

/-- A record takes its address over. -/
theorem positions_concat (records : List AddressRecord) (last : AddressRecord) :
    (ofRecords (records ++ [last])).positions =
      (ofRecords records).positions.insert last.address records.length := by
  simp [ofRecords, List.zipIdx_append]

theorem getElem?_positions_concat (records : List AddressRecord) (last : AddressRecord)
    (address : String) :
    (ofRecords (records ++ [last])).positions[address]? =
      if last.address = address then some records.length
      else (ofRecords records).positions[address]? := by
  simp only [positions_concat, Std.ExtTreeMap.getElem?_insert, Std.LawfulEqCmp.compare_eq_iff_eq]

/-- Every position that is kept is that of a record. -/
theorem lt_of_getElem?_positions {records : List AddressRecord} {address : String}
    {position : Nat} (kept : (ofRecords records).positions[address]? = some position) :
    position < records.length := by
  induction records using List.reverseRecOn with
  | nil => simp [ofRecords] at kept
  | append_singleton records last ih =>
    rw [getElem?_positions_concat] at kept
    rw [List.length_append, List.length_singleton]
    split at kept
    next =>
      obtain rfl := Option.some.inj kept
      omega
    next =>
      have old := ih kept
      omega

/-- An entered record is found, and the positions of the other addresses still lead to the same
records. -/
theorem record_concat (records : List AddressRecord) (last : AddressRecord) (address : String) :
    (ofRecords (records ++ [last])).record address =
      if last.address = address then .ok last else (ofRecords records).record address := by
  have sameRecord : ∀ position, (ofRecords records).positions[address]? = some position →
      (ofRecords (records ++ [last])).records[position]? =
        (ofRecords records).records[position]? := by
    intro position kept
    have bound := lt_of_getElem?_positions kept
    simp [ofRecords, List.getElem?_append_left bound]
  have newRecord : (ofRecords (records ++ [last])).records[records.length]? = some last := by
    simp [ofRecords]
  rw [record, record, getElem?_positions_concat]
  by_cases same : last.address = address
  · rw [if_pos same, if_pos same, Option.bind_some, newRecord]
  · rw [if_neg same, if_neg same, Option.bind_congr sameRecord]

/-- The record of an address is its last one. -/
theorem record_eq_ok_iff (records : List AddressRecord) (address : String)
    (found : AddressRecord) :
    (ofRecords records).record address = .ok found ↔ IsLastOf records address found := by
  induction records using List.reverseRecOn with
  | nil => exact iff_of_false (by simp [ofRecords, record]) not_isLast_nil
  | append_singleton records last ih =>
    rw [record_concat, IsLastOf, isLast_concat_iff]
    split
    next => rw [Except.ok.injEq, eq_comm]
    next => exact ih

/-- An address is refused exactly if no record has it. -/
theorem record_eq_error_iff (records : List AddressRecord) (address : String)
    (error : AddressBookError) :
    (ofRecords records).record address = .error error ↔
      error = .lookup address ∧ ∀ record ∈ records, record.address ≠ address := by
  induction records using List.reverseRecOn with
  | nil => simp [ofRecords, record, eq_comm]
  | append_singleton records last ih =>
    rw [record_concat]
    split
    next same => simp [same]
    next other => simp [ih, or_imp, forall_and, other]

/-! ## Answers -/

/-- A field of the last record of an address is the answer, and the addresses that no record has
are refused by name. -/
structure AnswersFromLast {α : Type} (records : List AddressRecord) (field : AddressRecord → α)
    (answer : String → Except AddressBookError α) : Prop where
  ok_iff : ∀ address value, answer address = .ok value ↔
    ∃ record, IsLastOf records address record ∧ field record = value
  error_iff : ∀ address error, answer address = .error error ↔
    error = .lookup address ∧ ∀ record ∈ records, record.address ≠ address

theorem answersFromLast_record (records : List AddressRecord) :
    AnswersFromLast records id (ofRecords records).record where
  ok_iff address value := by
    rw [record_eq_ok_iff]
    constructor
    · intro isLast
      exact ⟨value, isLast, rfl⟩
    · rintro ⟨_, isLast, rfl⟩
      exact isLast
  error_iff := record_eq_error_iff records

/-- Fields are taken from what the lookup of records answers. -/
theorem answersFromLast_map {α : Type} (records : List AddressRecord) (field : AddressRecord → α) :
    AnswersFromLast records field
      fun address => ((ofRecords records).record address).map field where
  ok_iff address value := by
    simp only [← record_eq_ok_iff]
    cases (ofRecords records).record address <;> simp [Except.map]
  error_iff address error := by
    rw [← record_eq_error_iff]
    cases (ofRecords records).record address <;> simp [Except.map]

/-- An address that some record has is found. -/
theorem exists_record_of_mem {records : List AddressRecord} {known : AddressRecord}
    (mem : known ∈ records) :
    ∃ found, (ofRecords records).record known.address = .ok found := by
  cases answer : (ofRecords records).record known.address with
  | ok found => exact ⟨found, rfl⟩
  | error error => exact absurd rfl (((record_eq_error_iff ..).mp answer).2 known mem)

/-- The address of a position is that of the record there. -/
theorem addressAt_eq_ok_iff (records : List AddressRecord) (position : Nat) (address : String) :
    (ofRecords records).addressAt position = .ok address ↔
      ∃ record, records[position]? = some record ∧ record.address = address := by
  rw [addressAt, show (ofRecords records).records[position]? = records[position]? by
    simp [ofRecords]]
  cases records[position]? <;> simp

/-- Where addresses are not repeated, every record is the last of its address. -/
theorem isLastOf_getElem {records : List AddressRecord}
    (distinct : (records.map AddressRecord.address).Nodup) {position : Nat}
    (inside : position < records.length) :
    IsLastOf records records[position].address records[position] := by
  have split : records =
      records.take position ++ records[position] :: records.drop (position + 1) := by
    rw [← List.drop_eq_getElem_cons inside, List.take_append_drop]
  refine ⟨_, _, split, rfl, ?_⟩
  intro later mem same
  rw [split, List.map_append, List.map_cons] at distinct
  have once := (List.nodup_cons.mp (List.nodup_append.mp distinct).2.1).1
  exact once (same ▸ List.mem_map_of_mem mem)

/-- An address book keeps its records as they are and answers from the last record of each address.
It never looks beyond its records, the addresses of its positions are found, and if no address is
repeated they lead back to the records of these positions. -/
theorem answers_from_last_record (records : List AddressRecord) :
    let book := ofRecords records
    (book.records.toList = records ∧ book.size = records.length) ∧
    (AnswersFromLast records id book.record ∧
      AnswersFromLast records AddressRecord.assetId book.assetId ∧
      AnswersFromLast records AddressRecord.assetAddress book.assetAddress ∧
      AnswersFromLast records AddressRecord.assetDefinition book.assetDefinition ∧
      AnswersFromLast records AddressRecord.assetDefinitionHash book.assetDefinitionHash ∧
      AnswersFromLast records AddressRecord.publicKeyHash book.publicKeyHash ∧
      AnswersFromLast records AddressRecord.privateKey book.privateKey) ∧
    (∀ (address : String) (position : Nat), book.positions[address]? = some position →
      position < book.records.size) ∧
    (∀ position, (∃ address, book.addressAt position = .ok address) ↔ position < book.size) ∧
    (∀ position address, book.addressAt position = .ok address →
      ∃ record, book.record address = .ok record) ∧
    ((records.map AddressRecord.address).Nodup →
      ∀ (position : Nat) (inside : position < records.length),
        (book.addressAt position).bind book.record = .ok records[position]) := by
  intro book
  refine ⟨⟨rfl, rfl⟩, ⟨answersFromLast_record records, answersFromLast_map records _,
    answersFromLast_map records _, answersFromLast_map records _, answersFromLast_map records _,
    answersFromLast_map records _, answersFromLast_map records _⟩, ?_, ?_, ?_, ?_⟩
  · intro address position kept
    exact lt_of_getElem?_positions kept
  · intro position
    simp only [book, addressAt_eq_ok_iff]
    constructor
    · rintro ⟨_, record, found, _⟩
      exact (List.getElem?_eq_some_iff.mp found).1
    · intro inside
      exact ⟨_, records[position], List.getElem?_eq_getElem inside, rfl⟩
  · intro position address found
    obtain ⟨record, atPosition, rfl⟩ := (addressAt_eq_ok_iff ..).mp found
    exact exists_record_of_mem (List.mem_of_getElem? atPosition)
  · intro distinct position inside
    have found : book.addressAt position = .ok records[position].address :=
      (addressAt_eq_ok_iff ..).mpr ⟨_, List.getElem?_eq_getElem inside, rfl⟩
    rw [found]
    exact (record_eq_ok_iff ..).mpr (isLastOf_getElem distinct inside)

/-- A record that is told apart by its asset id. -/
def plainRecord (address assetId : String) : AddressRecord :=
  ⟨address, "", "", "", assetId, .null, ""⟩

/-- Of two records with one address the later one answers, though both positions have it. Without
the repetition each position leads back to its record. -/
theorem answers_from_last_record_of_repeated :
    let repeated := ofRecords [plainRecord "a" "1", plainRecord "b" "2", plainRecord "a" "3"]
    let distinct := ofRecords [plainRecord "a" "1", plainRecord "b" "2"]
    repeated.addressAt 0 = .ok "a" ∧ (∃ record, repeated.record "a" = .ok record) ∧
      repeated.assetId "a" = .ok "3" ∧ repeated.assetId "b" = .ok "2" ∧
      repeated.privateKey "c" = .error (.lookup "c") ∧
      (distinct.addressAt 0).bind distinct.record = .ok (plainRecord "a" "1") := by
  intro repeated distinct
  obtain ⟨_, ⟨_, ids, _, _, _, _, keys⟩, _, _, resolves, _⟩ :=
    answers_from_last_record [plainRecord "a" "1", plainRecord "b" "2", plainRecord "a" "3"]
  obtain ⟨_, _, _, _, _, returns⟩ :=
    answers_from_last_record [plainRecord "a" "1", plainRecord "b" "2"]
  refine ⟨rfl, resolves 0 "a" rfl, (ids.ok_iff "a" "3").mpr ?_, (ids.ok_iff "b" "2").mpr ?_,
    (keys.error_iff "c" _).mpr ⟨rfl, ?_⟩, returns (by decide) 0 (by decide)⟩
  · exact ⟨_, ⟨[plainRecord "a" "1", plainRecord "b" "2"], [], rfl, rfl, nofun⟩, rfl⟩
  · refine ⟨_, ⟨[plainRecord "a" "1"], [plainRecord "a" "3"], rfl, rfl, ?_⟩, rfl⟩
    simp [plainRecord]
  · simp [plainRecord]

end PocketLedger.AddressBook
