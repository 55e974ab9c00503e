import ZkSettle.Crypto.Sanctions
import ZkSettle.Library.Text
import ZkSettle.Service.Publish

/-!
# The published list

From the text of the published list to the tree of sanctioned wallets. The fields are
picked by their shape, a prefix and a length, and read as hexadecimal later; a field with
the shape of a wallet that is not hexadecimal ends the whole update.
-/
namespace ZkSettle.Service.Updater

open Crypto Program Checks

/-! ## Parsing -/

/-- `trim` -/
def trimmed (field : String) : String := String.ofList (Text.trim field.toList)

/-- `trimmed.starts_with("0x") && trimmed.len() == 66` -/
def hasWalletShape (trimmed : String) : Bool :=
  [48, 120].isPrefixOf trimmed.toUTF8.data.toList && trimmed.toUTF8.data.toList.length == 66

/-- The fields of a record that have the shape of a wallet go behind the wallets. -/
def pushWallets (wallets record : List String) : List String :=
  record.foldl (fun wallets field =>
    if hasWalletShape (trimmed field) then wallets ++ [trimmed field] else wallets) wallets

/-- One row of the reader, its fields or the reader's error. -/
def readRecord (wallets : List String) : Except String (List String) →
    Except UpdaterError (List String)
  | .error e => .error (.parse e)
  | .ok record => .ok (pushWallets wallets record)

/-- `records`: the rows that the reader finds in the text. -/
def parseWalletsFromCsv (records : String → List (Except String (List String))) (body : String) :
    Except UpdaterError (List String) :=
  (records body).foldlM readRecord []

theorem pushWallets_eq (wallets record : List String) :
    pushWallets wallets record = wallets ++ (record.map trimmed).filter hasWalletShape := by
  induction record generalizing wallets with
  | nil => simp [pushWallets]
  | cons field rest ih =>
    have later := ih
      (if hasWalletShape (trimmed field) then wallets ++ [trimmed field] else wallets)
    rw [pushWallets] at later ⊢
    rw [List.foldl_cons, later]
    by_cases shape : hasWalletShape (trimmed field) = true <;> simp [shape]

theorem foldlM_readRecord {results : List (Except String (List String))}
    {found wallets : List String} :
    results.foldlM readRecord found = .ok wallets ↔ ∃ rows : List (List String),
      results = rows.map .ok ∧
        wallets = found ++ (rows.flatten.map trimmed).filter hasWalletShape := by
  induction results generalizing found with
  | nil =>
    constructor
    · intro read
      cases read
      exact ⟨[], rfl, by simp⟩
    · rintro ⟨rows, none_read, rfl⟩
      rw [List.map_eq_nil_iff.mp none_read.symm]
      simp [List.foldlM_nil]
  | cons result rest ih =>
    rw [List.foldlM_cons, bind_eq_ok]
    cases result with
    | error e =>
      constructor
      · rintro ⟨_, failed, -⟩
        cases failed
      · rintro ⟨rows, same, -⟩
        cases rows <;> cases same
    | ok record =>
      simp only [readRecord, ih, pushWallets_eq]
      constructor
      · rintro ⟨_, picked, rows, rfl, rfl⟩
        cases picked
        exact ⟨record :: rows, rfl, by simp⟩
      · rintro ⟨rows, same, rfl⟩
        cases rows with
        | nil => cases same
        | cons first rows =>
          rw [List.map_cons, List.cons.injEq] at same
          obtain ⟨first_eq, rest_eq⟩ := same
          cases first_eq
          exact ⟨_, rfl, rows, rest_eq, by simp⟩

/-- The wallets are the fields with the shape of one, in the order of the text, and every
row is without an error. -/
theorem parseWalletsFromCsv_eq_ok {records : String → List (Except String (List String))}
    {body : String} {wallets : List String} :
    parseWalletsFromCsv records body = .ok wallets ↔ ∃ rows : List (List String),
      records body = rows.map .ok ∧
        wallets = (rows.flatten.map trimmed).filter hasWalletShape := by
  simp [parseWalletsFromCsv, foldlM_readRecord]

/-! ## Hexadecimal -/

def isHexDigit (c : UInt8) : Bool :=
  (65 ≤ c && c ≤ 70) || (97 ≤ c && c ≤ 102) || (48 ≤ c && c ≤ 57)

theorem hexVal_eq_ok (c : UInt8) (index : Nat) :
    (∃ value, hexVal c index = .ok value) ↔ isHexDigit c = true := by
  rw [hexVal, isHexDigit]
  split_ifs with upper lower digit <;> simp_all

/-- Bytes in pairs are read as hexadecimal exactly when they all are digits. -/
theorem decodePairs_eq_ok {data : List UInt8} (even : data.length % 2 = 0) (index : Nat) :
    (∃ bytes, decodePairs index data = .ok bytes ∧ 2 * bytes.length = data.length) ↔
      data.all isHexDigit = true := by
  induction index, data using decodePairs.induct with
  | case1 index high low rest ih =>
    have even_rest : rest.length % 2 = 0 := by simp at even; omega
    have later := ih even_rest
    simp only [List.all_cons, Bool.and_eq_true, decodePairs, bind_eq_ok, pure_eq_ok]
    rw [← hexVal_eq_ok high index, ← hexVal_eq_ok low (index + 1), ← later]
    constructor
    · rintro ⟨_, ⟨first, read, second, read', bytes, decoded, rfl⟩, length⟩
      simp only [List.length_cons] at length
      exact ⟨⟨first, read⟩, ⟨second, read'⟩, bytes, decoded, by omega⟩
    · rintro ⟨⟨first, read⟩, ⟨second, read'⟩, bytes, decoded, length⟩
      refine ⟨_, ⟨first, read, second, read', bytes, decoded, rfl⟩, ?_⟩
      simp only [List.length_cons]
      omega
  | case2 data index short =>
    cases data with
    | nil => simp [decodePairs]
    | cons c rest =>
      cases rest with
      | nil => simp at even
      | cons d rest => exact absurd rfl (short c d rest)

/-! ## What is built -/

/-- The bytes behind the prefix are hexadecimal digits. -/
def Hexadecimal (trimmed : String) : Prop :=
  (trimmed.toUTF8.data.toList.drop 2).all isHexDigit = true

/-- A text with the shape of a wallet is read as one exactly when it is hexadecimal. -/
theorem walletToFr_eq_ok {wallet : String} (shape : hasWalletShape wallet = true) :
    (∃ fr, walletToFr wallet = .ok fr) ↔ Hexadecimal wallet := by
  rw [walletToFr, Hexadecimal, decodeWallet]
  rw [hasWalletShape] at shape
  -- only the bytes matter
  generalize wallet.toUTF8.data.toList = bytes at shape ⊢
  simp only [Bool.and_eq_true, List.isPrefixOf_iff_prefix, beq_iff_eq] at shape
  obtain ⟨⟨rest, rfl⟩, length⟩ := shape
  have length : rest.length = 64 := by simpa using length
  have even : rest.length % 2 = 0 := by omega
  have stripped : strip0x ([48, 120] ++ rest) = rest := rfl
  have digits := decodePairs_eq_ok even 0
  rw [stripped, hexDecode, if_neg (by omega)]
  have behind : ([48, 120] ++ rest).drop 2 = rest := rfl
  rw [behind, ← digits]
  cases decoded : decodePairs 0 rest with
  | error e => simp [Except.map, Except.mapError]
  | ok bytes =>
    by_cases full : bytes.length = 32
    · simp [full, length, Except.map, Except.mapError]
    · have short : ¬ 2 * bytes.length = rest.length := by omega
      simp [full, short, Except.map, Except.mapError]

theorem insertWallet_eq_ok {tree next : SparseMerkleTree} {wallet : String} :
    insertWallet tree wallet = .ok next ↔
      ∃ fr, walletToFr wallet = .ok fr ∧ tree.insert fr = next := by
  simp only [insertWallet, bind_eq_ok, pure_eq_ok]

/-- A build reads every wallet and inserts them one after another. -/
theorem foldlM_insertWallet {wallets : List String} {tree built : SparseMerkleTree} :
    wallets.foldlM insertWallet tree = .ok built ↔ ∃ frs : List Fr,
      wallets.map walletToFr = frs.map .ok ∧ frs.foldl SparseMerkleTree.insert tree = built := by
  induction wallets generalizing tree with
  | nil =>
    constructor
    · intro folded
      exact ⟨[], rfl, pure_eq_ok.mp folded⟩
    · rintro ⟨frs, none_read, rfl⟩
      rw [List.map_eq_nil_iff.mp none_read.symm]
      rfl
  | cons wallet rest ih =>
    simp only [List.foldlM_cons, bind_eq_ok, insertWallet_eq_ok, ih]
    constructor
    · rintro ⟨_, ⟨fr, read, rfl⟩, frs, reads, rfl⟩
      exact ⟨fr :: frs, by rw [List.map_cons, List.map_cons, read, reads], rfl⟩
    · rintro ⟨frs, reads, rfl⟩
      cases frs with
      | nil => cases reads
      | cons fr frs =>
        rw [List.map_cons, List.map_cons, List.cons.injEq] at reads
        exact ⟨_, ⟨fr, reads.1, rfl⟩, frs, reads.2, rfl⟩

/-- Inserting other wallets leaves a wallet in the tree. -/
theorem lookup_inserted {frs : List Fr} {fr : Fr} (member : fr ∈ frs) (tree : SparseMerkleTree) :
    (frs.foldl SparseMerkleTree.insert tree).leaves.lookup (walletKey fr) = some 1 := by
  induction frs using List.reverseRecOn with
  | nil => cases member
  | append_singleton frs last ih =>
    rw [List.foldl_append, List.foldl_cons, List.foldl_nil, SparseMerkleTree.insert, ← walletKey]
    by_cases same : walletKey fr = walletKey last
    · rw [same, AList.lookup_insert]
    · rw [AList.lookup_insert_ne same]
      rcases List.mem_append.mp member with earlier | here
      · exact ih earlier
      · exact absurd (congrArg walletKey (List.mem_singleton.mp here)) same

/-- The tree of a list whose wallets are read as these elements, with its root. -/
theorem buildSanctionsTree_eq_ok {wallets : List String} {built : SparseMerkleTree × Bytes32} :
    buildSanctionsTree wallets = .ok built ↔ ∃ frs : List Fr,
      wallets.map walletToFr = frs.map .ok ∧
        (frs.foldl SparseMerkleTree.insert .new,
          frToBytesBe (frs.foldl SparseMerkleTree.insert .new).root) = built := by
  simp only [buildSanctionsTree, bind_eq_ok, pure_eq_ok, foldlM_insertWallet]
  constructor
  · rintro ⟨_, ⟨frs, reads, rfl⟩, rfl⟩
    exact ⟨frs, reads, rfl⟩
  · rintro ⟨frs, reads, rfl⟩
    exact ⟨_, ⟨frs, reads, rfl⟩, rfl⟩

/-- A list is built exactly when each of its wallets is read, and then each is in the tree. -/
theorem buildSanctionsTree_iff {wallets : List String} :
    (∃ tree root, buildSanctionsTree wallets = .ok (tree, root) ∧
      ∀ wallet ∈ wallets, ∃ fr, walletToFr wallet = .ok fr ∧
        tree.leaves.lookup (walletKey fr) = some 1) ↔
      ∀ wallet ∈ wallets, ∃ fr, walletToFr wallet = .ok fr := by
  constructor
  · rintro ⟨tree, root, -, inserted⟩ wallet member
    obtain ⟨fr, read, -⟩ := inserted wallet member
    exact ⟨fr, read⟩
  · intro readable
    obtain ⟨frs, reads⟩ := exists_map_eq_ok.mpr readable
    refine ⟨_, _, buildSanctionsTree_eq_ok.mpr ⟨frs, reads, rfl⟩, fun wallet member => ?_⟩
    -- the wallet is one of those inserted
    have listed : walletToFr wallet ∈ frs.map .ok := reads ▸ List.mem_map_of_mem member
    obtain ⟨fr, present, read⟩ := List.mem_map.mp listed
    exact ⟨fr, read.symm, lookup_inserted present _⟩

/-! ## The pipeline -/

/-- The list that comes out of the text is built, with each of its wallets in the tree. -/
def Accepts (records : String → List (Except String (List String))) (body : String) : Prop :=
  ∀ wallets, parseWalletsFromCsv records body = .ok wallets →
    ∃ tree root, buildSanctionsTree wallets = .ok (tree, root) ∧
      ∀ wallet ∈ wallets, ∃ fr, walletToFr wallet = .ok fr ∧
        tree.leaves.lookup (walletKey fr) = some 1

/-- Every field with the shape of a wallet is hexadecimal, unless a row has an error. -/
def FieldsHexadecimal (records : String → List (Except String (List String))) (body : String) :
    Prop :=
  ∀ rows : List (List String), records body = rows.map .ok →
    ∀ record ∈ rows, ∀ field ∈ record,
      hasWalletShape (trimmed field) = true → Hexadecimal (trimmed field)

theorem Accepts.hexadecimal {records : String → List (Except String (List String))} {body : String}
    (accepts : Accepts records body) : FieldsHexadecimal records body := by
  intro rows read record row field member shape
  obtain ⟨_, _, -, inserted⟩ := accepts _ (parseWalletsFromCsv_eq_ok.mpr ⟨rows, read, rfl⟩)
  have kept : trimmed field ∈ (rows.flatten.map trimmed).filter hasWalletShape := by
    rw [List.mem_filter, List.mem_map]
    exact ⟨⟨field, List.mem_flatten.mpr ⟨record, row, member⟩, rfl⟩, shape⟩
  obtain ⟨fr, read, -⟩ := inserted _ kept
  exact (walletToFr_eq_ok shape).mp ⟨fr, read⟩

/-- The list that is parsed is accepted if and only if its fields are hexadecimal. -/
theorem accepts_iff (records : String → List (Except String (List String))) (body : String) :
    Accepts records body ↔ FieldsHexadecimal records body := by
  constructor
  · exact Accepts.hexadecimal
  · intro hexadecimal wallets parsed
    obtain ⟨rows, read, rfl⟩ := parseWalletsFromCsv_eq_ok.mp parsed
    refine buildSanctionsTree_iff.mpr fun wallet kept => ?_
    obtain ⟨listed, shape⟩ := List.mem_filter.mp kept
    obtain ⟨field, member, rfl⟩ := List.mem_map.mp listed
    obtain ⟨record, row, member⟩ := List.mem_flatten.mp member
    exact (walletToFr_eq_ok shape).mpr (hexadecimal rows read record row field member shape)

namespace Sample

/-- Lines and fields of a text without quotes and carriage returns. -/
def plainRecords (body : String) : List (Except String (List String)) :=
  ((body.toList.splitOn '\n').filter (· ≠ [])).map fun line =>
    .ok ((line.splitOn ',').map String.ofList)

def dead : String := "0x000000000000000000000000000000000000000000000000000000000000dead"

/-- A letter stands where the first digit would be. -/
def odd : String := "0xO00000000000000000000000000000000000000000000000000000000000dead"

def published : String := "id,name,address\n1,Alice," ++ dead ++ "\n2,Bob," ++ odd ++ "\n"

def rows : List (List String) :=
  [["id", "name", "address"], ["1", "Alice", dead], ["2", "Bob", odd]]

theorem read_published : plainRecords published = rows.map .ok := by decide +kernel

theorem odd_shape : hasWalletShape (trimmed odd) = true := by decide +kernel

theorem odd_letter :
    ((trimmed odd).toUTF8.data.toList.drop 2).all isHexDigit = false := by decide +kernel

end Sample

/-- One letter in the place of a digit, and no wallet of the list gets into the tree. -/
theorem not_accepts_published :
    parseWalletsFromCsv Sample.plainRecords Sample.published = .ok [Sample.dead, Sample.odd] ∧
      ¬ Accepts Sample.plainRecords Sample.published := by
  constructor
  · rw [parseWalletsFromCsv_eq_ok]
    exact ⟨Sample.rows, Sample.read_published, by decide +kernel⟩
  · intro accepts
    have hexadecimal := accepts.hexadecimal Sample.rows Sample.read_published
      ["2", "Bob", Sample.odd] (by simp [Sample.rows]) Sample.odd (by simp) Sample.odd_shape
    exact Bool.false_ne_true (Sample.odd_letter.symm.trans hexadecimal)

variable {Proof Address World : Type} {env : External Proof Address World} {config : Config}

/-- A tick on a list that is not accepted sends nothing, so that the old root stays. -/
theorem beginTick_of_not_accepts {records : String → List (Except String (List String))}
    {body : String} (refused : ¬ Accepts records body) (registered rpcFault : Bool)
    (chain : State World) :
    ∃ e, beginTick env config registered rpcFault (parseWalletsFromCsv records body) chain =
      .error e := by
  cases tick : beginTick env config registered rpcFault (parseWalletsFromCsv records body)
    chain with
  | error e => exact ⟨e, rfl⟩
  | ok tx =>
    exfalso
    apply refused
    intro wallets parsed
    simp only [beginTick, parsed, bind_eq_ok] at tick
    obtain ⟨_, same, _, built, -⟩ := tick
    cases same
    -- what is built has read every wallet
    obtain ⟨frs, reads, -⟩ := buildSanctionsTree_eq_ok.mp built
    exact buildSanctionsTree_iff.mpr (exists_map_eq_ok.mp ⟨frs, reads⟩)

end ZkSettle.Service.Updater
