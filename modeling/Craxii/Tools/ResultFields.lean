import Craxii.Domain.HexText
import Craxii.Tools.ExecutionCore

/-!
The fields of a tool result: which of them the store encodes, and how large the stored
document can become.
-/

namespace Craxii

open Utf8Text ExceptRules

variable {fields : List (Text × Text)} {label : Text} {count index value : Nat}

theorem length_decimalText (positive : 0 < count) (below : value < 10 ^ count) :
    (decimalText value).length ≤ count :=
  (Nat.length_toDigits_le_iff (by decide) positive).mpr below

theorem utf8Len_decimalText (positive : 0 < count) (below : value < 10 ^ count) :
    utf8Len (decimalText value) ≤ count := by
  have ascii : utf8Len (decimalText value) = (decimalText value).length :=
    utf8Len_of_all_isDigit decimal_digits
  rw [ascii]
  exact length_decimalText positive below

theorem paddedIndex_digits (index : Nat) : ∀ c ∈ paddedIndex index, c.isDigit = true := by
  intro c found
  rcases List.mem_append.mp found with padding | digit
  · rw [(List.mem_replicate.mp padding).2]
    rfl
  · exact decimal_digits c digit

theorem length_paddedIndex (below : index < 10 ^ 4) : (paddedIndex index).length = 4 := by
  have short := length_decimalText (by decide : 0 < 4) below
  rw [paddedIndex, List.length_append, List.length_replicate]
  omega

theorem paddedIndex_injective {first second : Nat} (same : paddedIndex first = paddedIndex second) :
    first = second := by
  have value (index : Nat) : Nat.ofDigitChars 10 (paddedIndex index) 0 = index := by
    rw [paddedIndex, Nat.ofDigitChars_append, Nat.ofDigitChars_replicate_zero, Nat.mul_zero]
    exact Nat.ofDigitChars_ten_toDigits
  rw [← value first, same, value second]

theorem chunkKey_injective {first second : Text} {firstIndex secondIndex : Nat}
    (aligned : first.length = second.length)
    (same : chunkKey first firstIndex = chunkKey second secondIndex) :
    first = second ∧ firstIndex = secondIndex := by
  obtain ⟨labels, rest⟩ := List.append_inj same aligned
  exact ⟨labels, paddedIndex_injective (List.cons.inj rest).2⟩

theorem utf8Len_chunkKey (below : index < 10 ^ 4) :
    utf8Len (chunkKey label index) = utf8Len label + 5 := by
  have underscore : '_'.utf8Size = 1 := by decide
  rw [chunkKey, utf8Len_append, utf8Len_cons, utf8Len_of_all_isDigit (paddedIndex_digits index),
    length_paddedIndex below, underscore]

theorem lowerReference_chunkKey (named : lowerReference 59 label = true)
    (below : index < 10 ^ 4) : lowerReference 64 (chunkKey label index) = true := by
  cases label with
  | nil => cases named
  | cons first rest =>
    simp only [lowerReference, Bool.and_eq_true, decide_eq_true_eq] at named
    have length := @utf8Len_chunkKey (first :: rest) index below
    have digits : (paddedIndex index).all isLowerReferenceTail = true := by
      rw [List.all_eq_true]
      intro c found
      simp [isLowerReferenceTail, paddedIndex_digits index c found]
    simp only [chunkKey, List.cons_append] at length ⊢
    simp only [lowerReference, Bool.and_eq_true, decide_eq_true_eq, List.all_append, List.all_cons]
    exact ⟨⟨by omega, named.1.2⟩, named.2, rfl, digits⟩

/-! Fields that the store encodes once none of them holds a NUL. -/

def NulFree (text : Text) : Prop :=
  '\x00' ∉ text

instance (text : Text) : Decidable (NulFree text) :=
  inferInstanceAs (Decidable ('\x00' ∉ text))

theorem nulFree_of_all_isDigit {text : Text} (digits : ∀ c ∈ text, c.isDigit = true) :
    NulFree text := fun found => by
  have digit := digits _ found
  cases digit

structure StorableField (field : Text × Text) : Prop where
  key : lowerReference 64 field.1 = true
  nonempty : field.2 ≠ []
  bounded : utf8Len field.2 ≤ 4096

structure StorableFields (fields : List (Text × Text)) : Prop where
  ordered : SortedFields.Ordered fields
  entries : ∀ field ∈ fields, StorableField field

theorem StorableFields.nil : StorableFields [] :=
  ⟨List.Pairwise.nil, by simp⟩

theorem StorableFields.insert (storable : StorableFields fields)
    {key value : Text} (field : StorableField (key, value)) :
    StorableFields (SortedFields.insert key value fields) := by
  refine ⟨storable.ordered.insert key value, ?_⟩
  intro entry found
  rcases SortedFields.mem_insert found with inserted | old
  · exact inserted ▸ field
  · exact storable.entries entry old

theorem keysIncrease_of_ordered (ordered : SortedFields.Ordered fields) :
    Json.keysIncrease (fields.map (·.1)) = true := by
  induction fields with
  | nil => rfl
  | cons first rest ih =>
    obtain ⟨above, restOrdered⟩ := List.pairwise_cons.mp ordered
    cases rest with
    | nil => rfl
    | cons second others =>
      simp only [List.map_cons, Json.keysIncrease, Bool.and_eq_true, decide_eq_true_eq]
      exact ⟨above second List.mem_cons_self, ih restOrdered⟩

theorem StorableField.fieldOk_iff {field : Text × Text} (storable : StorableField field) :
    toolResultFieldOk field = true ↔ NulFree field.2 := by
  have nonempty : field.2.isEmpty = false := by simpa using storable.nonempty
  simp [toolResultFieldOk, isBoundedText, storable.key, nonempty, storable.bounded, NulFree]

theorem encodeToolResult_isOk_iff {evidence : ToolResultEvidence}
    (storable : StorableFields evidence.fields) (summary : isBoundedText evidence.summary 8192 = true) :
    (encodeToolResult evidence).isOk = true ↔
      (∀ field ∈ evidence.fields, NulFree field.2) ∧
        (storedToolResult evidence).byteLen ≤ maxToolResultJsonBytes := by
  have fieldsOk : evidence.fields.all toolResultFieldOk = true ↔
      ∀ field ∈ evidence.fields, NulFree field.2 := by
    rw [List.all_eq_true]
    exact forall₂_congr fun field found => (storable.entries field found).fieldOk_iff
  rw [← fieldsOk]
  simp only [encodeToolResult, keysIncrease_of_ordered storable.ordered, summary, Bool.not_true,
    refuseIf_false, ok_bind]
  cases evidence.fields.all toolResultFieldOk with
  | false => simp [Except.isOk, Except.toBool]
  | true =>
    by_cases fits : (storedToolResult evidence).byteLen ≤ maxToolResultJsonBytes
    · simp [fits, Except.isOk, Except.toBool, pure, Except.pure, Nat.not_lt.mpr fits]
    · simp [fits, Except.isOk, Except.toBool, Nat.not_le.mp fits]

section

variable {label : Text}

variable {fields : List (Text × Text)} {index : Nat} {entry : Text × Text}

theorem insertChunks_storable (named : lowerReference 59 label = true) (pieces : List Text)
    (below : index + pieces.length ≤ 10 ^ 4) (storable : StorableFields fields)
    (bounded : ∀ piece ∈ pieces, piece ≠ [] ∧ utf8Len piece ≤ 4096) :
    StorableFields (insertChunks label index pieces fields) := by
  induction pieces generalizing index fields with
  | nil => exact storable
  | cons piece rest ih =>
    rw [List.length_cons] at below
    obtain ⟨nonempty, within⟩ := bounded piece List.mem_cons_self
    refine ih (by omega) (storable.insert ⟨lowerReference_chunkKey named (by omega), nonempty, within⟩)
      fun other found => bounded other (List.mem_cons_of_mem _ found)

theorem mem_insertChunks (pieces : List Text) (found : entry ∈ insertChunks label index pieces fields) :
    entry.2 ∈ pieces ∨ entry ∈ fields := by
  induction pieces generalizing index fields with
  | nil => exact Or.inr found
  | cons piece rest ih =>
    rcases ih found with later | earlier
    · exact Or.inl (List.mem_cons_of_mem _ later)
    · rcases SortedFields.mem_insert earlier with inserted | old
      · exact Or.inl (inserted ▸ List.mem_cons_self)
      · exact Or.inr old

theorem insertChunks_keeps (pieces : List Text) (found : entry ∈ fields)
    (other : ∀ later, index ≤ later → entry.1 ≠ chunkKey label later) :
    entry ∈ insertChunks label index pieces fields := by
  induction pieces generalizing index fields with
  | nil => exact found
  | cons piece rest ih =>
    exact ih (SortedFields.mem_insert_of_ne found (other index (Nat.le_refl _)))
      fun later below => other later (by omega)

theorem insertChunks_holds (pieces : List Text) {piece : Text} (found : piece ∈ pieces) :
    ∃ place, (chunkKey label place, piece) ∈ insertChunks label index pieces fields := by
  induction pieces generalizing index fields with
  | nil => cases found
  | cons first rest ih =>
    rcases List.mem_cons.mp found with isFirst | later
    · refine ⟨index, insertChunks_keeps rest (isFirst ▸ SortedFields.insert_mem _ _ _) ?_⟩
      intro place above same
      have equal := (chunkKey_injective rfl same).2
      omega
    · exact ih later

end

theorem nulFree_slices (text : Text) :
    (∀ piece ∈ slices projectionChunkBytes text, NulFree piece) ↔ NulFree text := by
  have whole := flatten_slices (by decide : 4 ≤ projectionChunkBytes) text
  constructor
  · intro pieces found
    rw [← whole] at found
    obtain ⟨piece, isPiece, within⟩ := List.mem_flatten.mp found
    exact pieces piece isPiece within
  · intro free piece isPiece found
    exact free (whole ▸ List.mem_flatten.mpr ⟨piece, isPiece, found⟩)

theorem slices_count (text : Text) (count : Nat) (within : utf8Len text ≤ count * 3997) :
    (slices projectionChunkBytes text).length ≤ count + 1 := by
  have counted := length_slices (by decide : 4 ≤ projectionChunkBytes) text
  have room : projectionChunkBytes - 3 = 3997 := rfl
  rw [room] at counted
  omega

def fieldCost (field : Text × Text) : Nat :=
  6 * (utf8Len field.1 + utf8Len field.2) + 9

def fieldsCost (fields : List (Text × Text)) : Nat :=
  (fields.map fieldCost).sum

theorem byteLen_toolResultFields (fields : List (Text × Text)) :
    (toolResultFields fields).byteLen ≤ fieldsCost fields + 2 := by
  have pair (field : Text × Text) :
      (Json.arr [.str field.1, .str field.2]).byteLen + 1 ≤ fieldCost field := by
    have members := Json.byteLen_arr_le [.str field.1, .str field.2]
    have keyLength := Json.byteLen_str_le field.1
    have valueLength := Json.byteLen_str_le field.2
    simp only [List.map_cons, List.map_nil, List.sum_cons, List.sum_nil] at members
    simp only [fieldCost]
    omega
  have costs : ((fields.map fun field => Json.arr [.str field.1, .str field.2]).map
      fun value => value.byteLen + 1).sum ≤ fieldsCost fields := by
    induction fields with
    | nil => exact Nat.le_refl 0
    | cons field rest ih =>
      have first := pair field
      simp only [fieldsCost, List.map_cons, List.sum_cons] at ih ⊢
      omega
  exact Nat.le_trans (Json.byteLen_arr_le _) (Nat.add_le_add_right costs 2)

theorem byteLen_storedToolResult (evidence : ToolResultEvidence) :
    (storedToolResult evidence).byteLen =
      (Json.str evidence.resultKind.asStr).byteLen + (Json.str evidence.summary).byteLen +
        (toolResultFields evidence.fields).byteLen + 49 := by
  have version : (Json.str "version".toList).byteLen = 9 ∧ (Json.natural 1).byteLen = 1 := by decide
  have kind : (Json.str "result_kind".toList).byteLen = 13 := by decide
  have summary : (Json.str "summary".toList).byteLen = 9 := by decide
  have fields : (Json.str "fields".toList).byteLen = 8 := by decide
  simp only [storedToolResult, Json.byteLen_obj, List.map_cons, List.map_nil, List.sum_cons,
    List.sum_nil, Json.utf8Len_printField, version, kind, summary, fields]
  omega

theorem byteLen_storedToolResult_le {evidence : ToolResultEvidence}
    (short : utf8Len evidence.summary ≤ 64) :
    (storedToolResult evidence).byteLen ≤ fieldsCost evidence.fields + 600 := by
  have kind : (Json.str evidence.resultKind.asStr).byteLen ≤ 22 := by
    cases evidence.resultKind <;> decide
  have summary := Json.byteLen_str_le evidence.summary
  have fields := byteLen_toolResultFields evidence.fields
  rw [byteLen_storedToolResult]
  omega

theorem fieldsCost_insert (key value : Text) (fields : List (Text × Text)) :
    fieldsCost (SortedFields.insert key value fields) ≤ fieldCost (key, value) + fieldsCost fields :=
  SortedFields.sum_insert_le fieldCost key value fields

variable {fields : List (Text × Text)} {cost : Nat} {label value : Text}

theorem fieldsCost_insertChunks (label : Text) (pieces : List Text) {index : Nat}
    (below : index + pieces.length ≤ 10 ^ 4) :
    fieldsCost (insertChunks label index pieces fields) ≤
      6 * utf8Len pieces.flatten + pieces.length * (6 * utf8Len label + 39) + fieldsCost fields := by
  induction pieces generalizing index fields with
  | nil => simp [insertChunks]
  | cons piece rest ih =>
    rw [List.length_cons] at below
    have others := @ih (SortedFields.insert (chunkKey label index) piece fields) (index + 1) (by omega)
    have first := fieldsCost_insert (chunkKey label index) piece fields
    have key := @utf8Len_chunkKey label index (by omega)
    simp only [fieldCost, key] at first
    rw [insertChunks, List.flatten_cons, utf8Len_append, List.length_cons, Nat.add_mul, Nat.one_mul]
    omega

theorem shellFieldsFit_iff (kind : ToolResultClass) (summary : Text) (fields : List (Text × Text)) :
    shellFieldsFit kind summary fields = true ↔
      (storedToolResult ⟨kind, summary, fields⟩).byteLen ≤ maxToolResultJsonBytes := by
  have reordered : List.Perm
      [("fields".toList, toolResultFields fields), ("result_kind".toList, Json.str kind.asStr),
        ("summary".toList, .str summary), ("version".toList, .natural 1)]
      [("version".toList, .natural 1), ("result_kind".toList, .str kind.asStr),
        ("summary".toList, .str summary), ("fields".toList, toolResultFields fields)] :=
    (List.reverse_perm _).symm.trans (List.Perm.cons _ (List.Perm.swap _ _ _))
  rw [shellFieldsFit, decide_eq_true_eq, Json.byteLen_obj_perm reordered]
  rfl

/-! Fields without a stream text: storable as they are, at a known cost. -/

structure PlainFields (fields : List (Text × Text)) (cost : Nat) : Prop where
  storable : StorableFields fields
  nulFree : ∀ field ∈ fields, NulFree field.2
  bounded : fieldsCost fields ≤ cost

theorem PlainFields.nil : PlainFields [] 0 :=
  ⟨.nil, by simp, Nat.le_refl 0⟩

theorem PlainFields.insert (plain : PlainFields fields cost)
    (key : Text) (named : lowerReference 64 key = true) (nonempty : value ≠ []) {limit : Nat}
    (within : utf8Len value ≤ limit) (limited : limit ≤ 4096) (free : NulFree value) :
    PlainFields (SortedFields.insert key value fields) (cost + (6 * (utf8Len key + limit) + 9)) := by
  refine ⟨plain.storable.insert ⟨named, nonempty, Nat.le_trans within limited⟩, ?_, ?_⟩
  · intro entry found
    rcases SortedFields.mem_insert found with inserted | old
    · exact inserted ▸ free
    · exact plain.nulFree entry old
  · have inserted := fieldsCost_insert key value fields
    have bounded := plain.bounded
    simp only [fieldCost] at inserted
    omega

theorem PlainFields.insert_decimal
    (plain : PlainFields fields cost) (key : Text) (named : lowerReference 64 key = true) (value : Nat)
    (below : value < 10 ^ 23) :
    PlainFields (SortedFields.insert key (decimalText value) fields)
      (cost + (6 * (utf8Len key + 23) + 9)) :=
  plain.insert key named Nat.toDigits_ne_nil (utf8Len_decimalText (by decide) below) (by decide)
    (nulFree_of_all_isDigit decimal_digits)

theorem hexText_plain {text : Text} (hex : text.all isHexOrHyphen = true) :
    utf8Len text = text.length ∧ NulFree text :=
  ⟨utf8Len_hexText hex, fun found => (isHexOrHyphen_plain (List.all_eq_true.mp hex _ found)).2 rfl⟩

theorem PlainFields.insert_hex
    (plain : PlainFields fields cost) (key : Text) (named : lowerReference 64 key = true)
    (nonempty : 0 < value.length) (short : value.length ≤ 64)
    (hex : value.all isHexOrHyphen = true) :
    PlainFields (SortedFields.insert key value fields) (cost + (6 * (utf8Len key + 64) + 9)) := by
  obtain ⟨length, free⟩ := hexText_plain hex
  exact plain.insert key named (List.length_pos_iff.mp nonempty) (by omega) (by decide) free

def SmallCode (value : Option Int) : Prop :=
  ∀ code, value = some code → ∃ small : Nat, small < 256 ∧ code = small

theorem SmallCode.isI64 {value : Option Int} (small : SmallCode value) : ∀ code ∈ value, IsI64 code := by
  intro code isCode
  obtain ⟨number, below, rfl⟩ := small code isCode
  exact ⟨by omega, by omega⟩

theorem integerText_plain {code : Int} (isI64 : IsI64 code) :
    integerText code ≠ [] ∧ utf8Len (integerText code) ≤ 23 ∧ NulFree (integerText code) := by
  obtain ⟨lower, upper⟩ := isI64
  cases code with
  | ofNat number =>
    have below : number < 10 ^ 23 := by
      have : (number : Int) < 2 ^ 63 := upper
      omega
    exact ⟨Nat.toDigits_ne_nil, utf8Len_decimalText (by decide) below,
      nulFree_of_all_isDigit decimal_digits⟩
  | negSucc number =>
    have below : number + 1 < 10 ^ 22 := by
      rw [Int.negSucc_eq] at lower
      omega
    have digits := utf8Len_decimalText (by decide) below
    refine ⟨List.cons_ne_nil _ _, ?_, ?_⟩
    · have sign : utf8Len (integerText (Int.negSucc number)) = 1 + utf8Len (decimalText (number + 1)) :=
        rfl
      omega
    · intro found
      rcases List.mem_cons.mp found with isSign | isDigit
      · exact absurd isSign (by decide)
      · exact nulFree_of_all_isDigit decimal_digits isDigit

theorem PlainFields.optional
    (plain : PlainFields fields cost) (key : Text) (named : lowerReference 64 key = true)
    {value : Option Int} (codes : ∀ code ∈ value, IsI64 code) :
    PlainFields (optionalField key value fields) (cost + (6 * (utf8Len key + 23) + 9)) := by
  cases value with
  | none => exact ⟨plain.storable, plain.nulFree, Nat.le_trans plain.bounded (Nat.le_add_right _ _)⟩
  | some code =>
    obtain ⟨nonempty, short, free⟩ := integerText_plain (codes code rfl)
    exact plain.insert key named nonempty short (by decide) free

theorem shellFixedFields_plain {result : ExecutionResult} (exit : ∀ code ∈ result.exitCode, IsI64 code)
    (signal : ∀ code ∈ result.terminatingSignal, IsI64 code) :
    PlainFields (shellFixedFields result) 1500 := by
  obtain ⟨length, hex⟩ := digest_hex result.commandSha256
  have plain := (((PlainFields.nil.insert_hex "command_sha256".toList (by decide) (by omega)
    (by omega) hex).insert_decimal "duration_ms".toList (by decide) _
    result.duration.bounded).optional "exit_code".toList (by decide) exit).optional
    "signal".toList (by decide) signal
  exact ⟨plain.storable, plain.nulFree, Nat.le_trans plain.bounded (by decide)⟩

theorem boundedTexts_le (stdout stderr : Text) (budget : Nat) :
    utf8Len (boundedTexts stdout stderr budget).1 ≤ utf8Len stdout ∧
      utf8Len (boundedTexts stdout stderr budget).2 ≤ utf8Len stderr :=
  ⟨utf8Len_truncateUtf8_le _ _, utf8Len_truncateUtf8_le _ _⟩

theorem boundedTexts_zero (stdout stderr : Text) : boundedTexts stdout stderr 0 = ([], []) := by
  simp [boundedTexts, truncateUtf8_zero]

theorem insertProjectionChunks_nulFree (label : Text)
    (free : NulFree value) (others : ∀ field ∈ fields, NulFree field.2) :
    ∀ field ∈ insertProjectionChunks fields label value, NulFree field.2 := by
  intro field found
  rcases mem_insertChunks _ found with piece | old
  · exact (nulFree_slices value).mpr free field.2 piece
  · exact others field old

theorem nulFree_of_insertProjectionChunks
    (all : ∀ field ∈ insertProjectionChunks fields label value, NulFree field.2) : NulFree value := by
  refine (nulFree_slices value).mp fun piece isPiece => ?_
  obtain ⟨place, held⟩ := insertChunks_holds (slices projectionChunkBytes value) isPiece
  exact all _ held

theorem insertProjectionChunks_keeps {other : Text} {entry : Text × Text}
    (aligned : other.length = label.length) (differs : other ≠ label)
    {place : Nat} (keyed : entry.1 = chunkKey other place) (found : entry ∈ fields) :
    entry ∈ insertProjectionChunks fields label value := by
  refine insertChunks_keeps _ found fun later _ same => ?_
  exact differs (chunkKey_injective aligned (keyed ▸ same)).1

section

variable {fixed : List (Text × Text)} {cost : Nat} (plain : PlainFields fixed cost)
  {stdout stderr : Text} (stdoutBound : utf8Len stdout ≤ i64Max) (stderrBound : utf8Len stderr ≤ i64Max)

include plain stdoutBound stderrBound

theorem countedFields_plain (budget : Nat) :
    PlainFields (SortedFields.insert "stdout_projection_omitted_bytes".toList
      (decimalText (utf8Len stdout - utf8Len (boundedTexts stdout stderr budget).1))
      (SortedFields.insert "stderr_projection_omitted_bytes".toList
        (decimalText (utf8Len stderr - utf8Len (boundedTexts stdout stderr budget).2)) fixed))
      (cost + 700) := by
  have wide : i64Max < 10 ^ 23 := by decide
  have counted := (plain.insert_decimal "stderr_projection_omitted_bytes".toList (by decide)
    (utf8Len stderr - utf8Len (boundedTexts stdout stderr budget).2)
    (by omega)).insert_decimal "stdout_projection_omitted_bytes".toList (by decide)
    (utf8Len stdout - utf8Len (boundedTexts stdout stderr budget).1) (by omega)
  have lengths : utf8Len "stderr_projection_omitted_bytes".toList = 31 ∧
      utf8Len "stdout_projection_omitted_bytes".toList = 31 := by decide
  have bounded := counted.bounded
  rw [lengths.1, lengths.2] at bounded
  exact ⟨counted.storable, counted.nulFree, by omega⟩

theorem buildShellFields_fits_zero (cheap : cost ≤ 100000) (kind : ToolResultClass) {summary : Text}
    (short : utf8Len summary ≤ 64) :
    shellFieldsFit kind summary (buildShellFields fixed stdout stderr 0) = true := by
  have counted := (countedFields_plain plain stdoutBound stderrBound 0).bounded
  have empty : slices projectionChunkBytes [] = [] := by simp [slices]
  have document := @byteLen_storedToolResult_le
    ⟨kind, summary, buildShellFields fixed stdout stderr 0⟩ short
  rw [shellFieldsFit_iff]
  simp only [buildShellFields, boundedTexts_zero, insertProjectionChunks, empty, insertChunks] at counted document ⊢
  simp only [maxToolResultJsonBytes]
  omega

end

section

variable {fixed : List (Text × Text)} {cost : Nat} (plain : PlainFields fixed cost)
  {stdout stderr : Text} (stdoutBound : utf8Len stdout ≤ 131072) (stderrBound : utf8Len stderr ≤ 131072)

include plain stdoutBound stderrBound

theorem buildShellFields_storable (budget : Nat) :
    StorableFields (buildShellFields fixed stdout stderr budget) := by
  have counted := countedFields_plain plain (Nat.le_trans stdoutBound (by decide))
    (Nat.le_trans stderrBound (by decide)) budget
  obtain ⟨stdoutWithin, stderrWithin⟩ := boundedTexts_le stdout stderr budget
  have pieces {text : Text} (within : utf8Len text ≤ 131072) :
      1 + (slices projectionChunkBytes text).length ≤ 10 ^ 4 ∧
        ∀ piece ∈ slices projectionChunkBytes text, piece ≠ [] ∧ utf8Len piece ≤ 4096 := by
    have count := slices_count text 33 (by omega)
    refine ⟨by omega, fun piece found => ?_⟩
    obtain ⟨nonempty, short⟩ := slices_bounded (by decide : 4 ≤ projectionChunkBytes) text piece found
    exact ⟨nonempty, Nat.le_trans short (by decide)⟩
  obtain ⟨stderrCount, stderrPieces⟩ := pieces (Nat.le_trans stderrWithin stderrBound)
  obtain ⟨stdoutCount, stdoutPieces⟩ := pieces (Nat.le_trans stdoutWithin stdoutBound)
  exact insertChunks_storable (by decide) _ stdoutCount
    (insertChunks_storable (by decide) _ stderrCount counted.storable stderrPieces) stdoutPieces

theorem buildShellFields_nulFree_iff (budget : Nat) :
    (∀ field ∈ buildShellFields fixed stdout stderr budget, NulFree field.2) ↔
      NulFree (boundedTexts stdout stderr budget).1 ∧ NulFree (boundedTexts stdout stderr budget).2 := by
  have counted := countedFields_plain plain (Nat.le_trans stdoutBound (by decide))
    (Nat.le_trans stderrBound (by decide)) budget
  constructor
  · intro all
    refine ⟨nulFree_of_insertProjectionChunks all, (nulFree_slices _).mp fun piece isPiece => ?_⟩
    obtain ⟨place, held⟩ := insertChunks_holds (slices projectionChunkBytes
      (boundedTexts stdout stderr budget).2) isPiece
    exact all _ (insertProjectionChunks_keeps (by decide) (by decide) rfl held)
  · rintro ⟨stdoutFree, stderrFree⟩
    exact insertProjectionChunks_nulFree _ stdoutFree
      (insertProjectionChunks_nulFree _ stderrFree counted.nulFree)

end

theorem searchBudget_fits {fits : Nat → Bool} {low high : Nat} (fitsLow : fits low = true) :
    fits (searchBudget fits low high) = true := by
  fun_induction searchBudget fits low high with
  | case1 low high _ midpoint fitsMidpoint ih => exact ih fitsMidpoint
  | case2 low high _ midpoint _ ih => exact ih fitsLow
  | case3 => exact fitsLow

theorem boundedBudget_fits {fixed : List (Text × Text)} {stdout stderr : Text} {kind : ToolResultClass}
    {summary : Text}
    (zero : shellFieldsFit kind summary (buildShellFields fixed stdout stderr 0) = true) :
    shellFieldsFit kind summary (buildShellFields fixed stdout stderr
      (boundedBudget fixed stdout stderr kind summary)) = true := by
  unfold boundedBudget
  dsimp only
  split
  · assumption
  · exact @searchBudget_fits
      (fun budget => shellFieldsFit kind summary (buildShellFields fixed stdout stderr budget)) 0
      (utf8Len stdout + utf8Len stderr) zero

section

variable {result : FileReadResult} (small : result.byteLength ≤ hardFileReadMaxBytes)
  (duration : DurationMillis) {projection : Text} {omitted : Nat}
  (omittedWithin : omitted ≤ result.byteLength) (artifactId : Option ArtifactId)

include small omittedWithin

theorem readFixedFields_plain :
    ∃ fields, PlainFields fields 53000 ∧
      readFileFields result duration projection omitted artifactId =
        insertProjectionChunks fields "text".toList projection := by
  obtain ⟨digestLength, digestHex⟩ := digest_hex result.sha256
  have resolvedNonempty : result.resolvedPath.resolvedAbsolutePath ≠ [] := by
    intro empty
    have absolute := result.resolvedPath.absolute
    rw [empty] at absolute
    cases absolute
  simp only [hardFileReadMaxBytes] at small
  have fixed := (((((PlainFields.nil.insert_decimal "byte_length".toList (by decide)
    result.byteLength (by omega)).insert_decimal "duration_ms".toList (by decide) duration.value
    duration.bounded).insert_decimal "projection_omitted_bytes".toList (by decide) omitted
    (by omega)).insert "requested_path".toList (by decide) result.requestedPath.nonempty
    result.requestedPath.bounded (by decide) result.requestedPath.noNul).insert
    "resolved_path".toList (by decide) resolvedNonempty result.resolvedPath.bounded (by decide)
    result.resolvedPath.noNul).insert_hex "sha256".toList (by decide) (by omega) (by omega) digestHex
  cases artifactId with
  | none =>
    exact ⟨_, ⟨fixed.storable, fixed.nulFree, Nat.le_trans fixed.bounded (by decide)⟩, rfl⟩
  | some id =>
    obtain ⟨length, hex⟩ := identity_hex id
    have identified := fixed.insert_hex "artifact_id".toList (by decide)
      (by omega : 0 < id.toText.length) (by omega) hex
    exact ⟨_, ⟨identified.storable, identified.nulFree,
      Nat.le_trans identified.bounded (by decide)⟩, rfl⟩

theorem readFileFields_spec (short : utf8Len projection ≤ readFileProjectionBytes) :
    StorableFields (readFileFields result duration projection omitted artifactId) ∧
      ((∀ field ∈ readFileFields result duration projection omitted artifactId, NulFree field.2) ↔
        NulFree projection) ∧
      fieldsCost (readFileFields result duration projection omitted artifactId) ≤ 260000 := by
  obtain ⟨fields, plain, isRead⟩ :=
    @readFixedFields_plain result small duration projection omitted omittedWithin artifactId
  simp only [readFileProjectionBytes] at short
  have count := slices_count projection 9 (by omega)
  have pieces : ∀ piece ∈ slices projectionChunkBytes projection, piece ≠ [] ∧ utf8Len piece ≤ 4096 := by
    intro piece found
    obtain ⟨nonempty, within⟩ := slices_bounded (by decide : 4 ≤ projectionChunkBytes) projection piece found
    exact ⟨nonempty, Nat.le_trans within (by decide)⟩
  have costs := @fieldsCost_insertChunks fields "text".toList
    (slices projectionChunkBytes projection) 1 (by omega)
  have label : utf8Len "text".toList = 4 := by decide
  rw [flatten_slices (by decide), label] at costs
  have plainCost := plain.bounded
  rw [isRead]
  refine ⟨insertChunks_storable (by decide) _ (by omega) plain.storable pieces, ⟨?_, ?_⟩, ?_⟩
  · exact nulFree_of_insertProjectionChunks
  · intro free
    exact insertProjectionChunks_nulFree _ free plain.nulFree
  · unfold insertProjectionChunks
    omega

end

end Craxii
