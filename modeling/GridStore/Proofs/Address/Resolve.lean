import GridStore.Proofs.Address.Coordinate
import GridStore.Proofs.Number.Rounded

/-!
Blocks at four tokens: which tokens resolve and to what. The plain numbers that a region hands
over are kept as they are while they are exact.
-/

set_option autoImplicit false

namespace GridStore

theorem Span.validated_ok_iff {span result : Span} :
    span.validated = .ok result ↔ span.Addressable ∧ result = span := by
  unfold Span.validated
  by_cases fits : span.Addressable
  · simp [fits, eq_comm]
  · simp [fits]

namespace Address

variable {grid : Grid} {cache final : MetricCache}

def IsCoordinate (value : Number) : Prop := value.isZero = false ∧ isNoSize value = false

theorem resolve_tokens_ok_iff {address : Address} {span : Span} :
    resolveTokens grid address cache = .ok span final ↔
      ∃ row column rows columns cache₁ cache₂ cache₃,
        coordinate grid address.row cache = .ok row cache₁ ∧
        coordinate grid address.column cache₁ = .ok column cache₂ ∧
        coordinate grid (orOne address.rows) cache₂ = .ok rows cache₃ ∧
        coordinate grid (orOne address.columns) cache₃ = .ok columns final ∧
        (IsCoordinate row ∧ IsCoordinate column ∧ IsCoordinate rows ∧ IsCoordinate columns) ∧
        span = ⟨row.toNat, column.toNat, rows.toNat, columns.toNat⟩ ∧ span.Addressable := by
  constructor
  · intro resolves
    obtain ⟨row, cache₁, rowed, resolves⟩ := Action.bind_ok_iff.1 resolves
    obtain ⟨column, cache₂, columned, resolves⟩ := Action.bind_ok_iff.1 resolves
    obtain ⟨rows, cache₃, tall, resolves⟩ := Action.bind_ok_iff.1 resolves
    obtain ⟨columns, cache₄, wide, resolves⟩ := Action.bind_ok_iff.1 resolves
    obtain ⟨noZero, resolves⟩ := Action.guard_ok_iff.1 resolves
    obtain ⟨sizes, resolves⟩ := Action.guard_ok_iff.1 resolves
    obtain ⟨validated, same⟩ := Action.of_except_ok_iff.1 resolves
    obtain ⟨fits, spanned⟩ := Span.validated_ok_iff.1 validated
    simp only [List.any_cons, List.any_nil, Bool.or_false, Bool.not_eq_true,
      Bool.or_eq_false_iff] at noZero sizes
    refine ⟨row, column, rows, columns, cache₁, cache₂, cache₃, rowed, columned, tall, ?_, ?_,
      spanned, spanned ▸ fits⟩
    · rw [same]
      exact wide
    · exact ⟨⟨noZero.1, sizes.1⟩, ⟨noZero.2.1, sizes.2.1⟩, ⟨noZero.2.2.1, sizes.2.2.1⟩,
        noZero.2.2.2, sizes.2.2.2⟩
  · rintro ⟨row, column, rows, columns, cache₁, cache₂, cache₃, rowed, columned, tall, wide,
      ⟨⟨a, b⟩, ⟨c, d⟩, ⟨e, f⟩, g, h⟩, rfl, fits⟩
    unfold resolveTokens
    rw [Action.bind_of_ok rowed, Action.bind_of_ok columned, Action.bind_of_ok tall,
      Action.bind_of_ok wide]
    simp [a, b, c, d, e, f, g, h, Span.validated_ok_iff.2 ⟨fits, rfl⟩]

theorem is_present_of_nat (count : Nat) :
    AddressToken.isPresent (.number (.ofNat count)) = decide (0 < count) := by
  rw [AddressToken.isPresent, Number.is_nan_of_nat]
  cases count with
  | zero => decide +kernel
  | succ count =>
      rw [Number.is_zero_of_nat (Nat.succ_pos count)]
      simp

theorem is_present_iff {count : Nat} :
    AddressToken.isPresent (.number (.ofNat count)) = true ↔ 1 ≤ count := by
  rw [is_present_of_nat, decide_eq_true_iff]
  exact Nat.succ_le_iff.symm

theorem or_one_of_nat {count : Nat} (positive : 0 < count) :
    orOne (.number (.ofNat count)) = .number (.ofNat count) := by
  rw [orOne, if_pos (is_present_iff.2 positive)]

theorem is_coordinate_of_nat {count : Nat} (positive : 0 < count) (small : count ≤ exactBound) :
    IsCoordinate (.ofNat count) :=
  ⟨Number.is_zero_of_nat positive, is_no_size_of_nat small⟩

theorem resolve_number_row {value : Number} {column rows columns : AddressToken}
    (rowPresent : AddressToken.isPresent (.number value) = true)
    (columnPresent : column.isPresent = true) :
    resolve grid ⟨.number value, column, rows, columns⟩ =
      resolveTokens grid ⟨.number value, column, rows, columns⟩ := by
  simp [resolve, resolveParts, rowPresent, columnPresent]

theorem resolve_text_row {content : String} {column rows columns : AddressToken}
    (notJoined : content.toList.contains ',' = false) (notEmpty : content.isEmpty = false)
    (columnPresent : column.isPresent = true) :
    resolve grid ⟨.text content, column, rows, columns⟩ =
      resolveTokens grid ⟨.text content, column, rows, columns⟩ := by
  have rowPresent : AddressToken.isPresent (.text content) = true := by
    simp [AddressToken.isPresent, notEmpty]
  simp only [resolve, notJoined, Bool.false_eq_true, if_false, resolveParts, rowPresent,
    columnPresent, Bool.and_self, if_true]

theorem coordinate_of_nat (count : Nat) :
    coordinate grid (.number (.ofNat count)) cache = .ok (.ofNat count) cache := by
  rw [coordinate_number, Number.trunc_rounded]

theorem exact_sum_addressable {left right : Nat} (leftSmall : left ≤ exactBound)
    (rightSmall : right ≤ exactBound) : left + right ≤ Size.largest := by
  have bound : exactBound + exactBound ≤ Size.largest := by decide
  omega

/-- A size that a block can have and that numbers keep as it is. -/
structure IsKept (size : Nat) : Prop where
  coordinate : IsCoordinate (.ofNat size)
  same : (Number.ofNat size).toNat = size

theorem kept_of_exact {size : Nat} (positive : 1 ≤ size) (small : size ≤ exactBound) :
    IsKept size := ⟨is_coordinate_of_nat positive small, Number.to_nat_of_nat small⟩

theorem resolve_kept_tokens {address : Address} {span : Span} {cache₁ cache₂ cache₃ : MetricCache}
    (rowed : coordinate grid address.row cache = .ok (.ofNat span.row) cache₁)
    (columned : coordinate grid address.column cache₁ = .ok (.ofNat span.column) cache₂)
    (tall : coordinate grid (orOne address.rows) cache₂ = .ok (.ofNat span.rows) cache₃)
    (wide : coordinate grid (orOne address.columns) cache₃ = .ok (.ofNat span.columns) final)
    (row : IsKept span.row) (column : IsKept span.column) (rows : IsKept span.rows)
    (columns : IsKept span.columns) (addressable : span.Addressable) :
    resolveTokens grid address cache = .ok span final := by
  rw [resolve_tokens_ok_iff]
  refine ⟨_, _, _, _, cache₁, cache₂, cache₃, rowed, columned, tall, wide,
    ⟨row.coordinate, column.coordinate, rows.coordinate, columns.coordinate⟩, ?_, addressable⟩
  rw [row.same, column.same, rows.same, columns.same]

theorem resolve_exact_tokens {address : Address} {row column rows columns : Nat}
    {cache₁ cache₂ cache₃ : MetricCache}
    (rowed : coordinate grid address.row cache = .ok (.ofNat row) cache₁)
    (columned : coordinate grid address.column cache₁ = .ok (.ofNat column) cache₂)
    (tall : coordinate grid (orOne address.rows) cache₂ = .ok (.ofNat rows) cache₃)
    (wide : coordinate grid (orOne address.columns) cache₃ = .ok (.ofNat columns) final)
    (rowExact : 1 ≤ row ∧ row ≤ exactBound) (columnExact : 1 ≤ column ∧ column ≤ exactBound)
    (rowsExact : 1 ≤ rows ∧ rows ≤ exactBound) (columnsExact : 1 ≤ columns ∧ columns ≤ exactBound) :
    resolveTokens grid address cache = .ok ⟨row, column, rows, columns⟩ final := by
  have addressable : Span.Addressable ⟨row, column, rows, columns⟩ :=
    ⟨⟨rowExact.1, columnExact.1, rowsExact.1, columnsExact.1⟩,
      exact_sum_addressable rowExact.2 rowsExact.2,
      exact_sum_addressable columnExact.2 columnsExact.2⟩
  exact resolve_kept_tokens rowed columned tall wide (kept_of_exact rowExact.1 rowExact.2)
    (kept_of_exact columnExact.1 columnExact.2) (kept_of_exact rowsExact.1 rowsExact.2)
    (kept_of_exact columnsExact.1 columnsExact.2) addressable

theorem or_one_coordinate {count : Nat} (positive : 1 ≤ count) :
    coordinate grid (orOne (.number (.ofNat count))) cache = .ok (.ofNat count) cache := by
  rw [or_one_of_nat positive, coordinate_of_nat]

/-- A block given by exact numbers resolves to itself and measures nothing. -/
theorem resolve_of_span {span : Span} (rowExact : 1 ≤ span.row ∧ span.row ≤ exactBound)
    (columnExact : 1 ≤ span.column ∧ span.column ≤ exactBound)
    (rowsExact : 1 ≤ span.rows ∧ span.rows ≤ exactBound)
    (columnsExact : 1 ≤ span.columns ∧ span.columns ≤ exactBound) :
    resolve grid (ofSpan span) cache = .ok span cache := by
  rw [ofSpan, ofNumbers, resolve_number_row (is_present_iff.2 rowExact.1)
    (is_present_iff.2 columnExact.1)]
  exact resolve_exact_tokens (coordinate_of_nat span.row) (coordinate_of_nat span.column)
    (or_one_coordinate rowsExact.1) (or_one_coordinate columnsExact.1) rowExact columnExact
    rowsExact columnsExact

end Address

end GridStore
