import GridStore.Proofs.Address.Reread
import GridStore.Proofs.Address.Symbolic

/-!
Addresses of four tokens and the single texts that join them. Main statement: both lead to the same
block or to none, unless a zero stands for a token left out, which only the tokens allow, or what is
no coordinate as a token is one as a part of the text, which only the text allows.
-/

set_option autoImplicit false

namespace GridStore.Address

def found? (grid : Grid) (cache : MetricCache) (address : Address) : Option Span :=
  match resolve grid address cache with
  | .ok span _ => some span
  | .error _ _ => none

def IsPlain (address : Address) : Prop := ∀ token ∈ address.tokens, token.IsPlain

/-- A zero is taken for a column, a height or a width that is left out. -/
def OmitsZero (address : Address) : Prop :=
  address.column.IsZero ∨
    (address.column.isPresent = true ∧ (address.rows.IsZero ∨ address.columns.IsZero))

/-- Something that is no coordinate is one as a part of a text: a decimal with an exponent, or an
infinity alone, which spells the letters of a column. -/
def IsReread (address : Address) : Prop :=
  (address.row = .number (.infinite false) ∧ address.column.isPresent = false) ∨
    (address.column.isPresent = true ∧ ∃ token ∈ address.tokens, token.IsScientific)

def reread (address : Address) : Address where
  row := address.row.reread
  column := address.column.reread
  rows := address.rows.reread
  columns := address.columns.reread

variable {grid : Grid} {cache : MetricCache} {metrics : Metric → Nat} {address : Address}
  {span : Span}

section Direct

theorem found_iff : found? grid cache address = some span ↔
    spanAt grid (cache.known grid) address = .ok span := by
  obtain ⟨final, -, ran⟩ := reads_span grid address cache
  dsimp only at ran
  rw [found?, ran]
  cases spanAt grid (cache.known grid) address with
  | error error => exact iff_of_false nofun nofun
  | ok block =>
      rw [Except.ok.injEq]
      exact Option.some_inj

theorem span_at_parted (grid : Grid) (metrics : Metric → Nat) (address : Address) :
    spanAt grid metrics address = partsAt grid metrics address.parted := by
  obtain ⟨row, column, rows, columns⟩ := address
  unfold spanAt parted
  cases row with
  | text content => cases joined : content.toList.contains ',' <;> simp only [joined] <;> rfl
  | missing => rfl
  | number value => rfl
  | resolver find => rfl

theorem direct_bind_ok_iff {α β : Type} {first : Except Error α} {next : α → Except Error β}
    {result : β} :
    (first >>= next) = .ok result ↔ ∃ value, first = .ok value ∧ next value = .ok result := by
  cases first with
  | error error => exact iff_of_false nofun nofun
  | ok value =>
      constructor
      · exact fun goes => ⟨value, rfl, goes⟩
      · rintro ⟨other, same, goes⟩
        cases same
        exact goes

theorem map_error_ok_iff {α ε : Type} {wrap : ε → Error} {source : Except ε α} {value : α} :
    source.mapError wrap = .ok value ↔ source = .ok value := by
  cases source with
  | error cause => exact iff_of_false nofun nofun
  | ok found =>
      rw [Except.ok.injEq]
      exact Except.ok.injEq found value ▸ Iff.rfl

theorem block_of_ok_iff {signature : String} {row column rows columns : Number} :
    blockOf signature row column rows columns = .ok span ↔
      (IsCoordinate row ∧ IsCoordinate column ∧ IsCoordinate rows ∧ IsCoordinate columns) ∧
        Span.Addressable ⟨row.toNat, column.toNat, rows.toNat, columns.toNat⟩ ∧
        span = ⟨row.toNat, column.toNat, rows.toNat, columns.toNat⟩ := by
  unfold blockOf
  dsimp only
  by_cases zero : [row, column, rows, columns].any Number.isZero = true
  · rw [if_pos zero]
    refine iff_of_false nofun ?_
    rintro ⟨⟨first, second, third, fourth⟩, -⟩
    simp [first.1, second.1, third.1, fourth.1] at zero
  · rw [if_neg zero]
    by_cases size : [row, column, rows, columns].any isNoSize = true
    · rw [if_pos size]
      refine iff_of_false nofun ?_
      rintro ⟨⟨first, second, third, fourth⟩, -⟩
      simp [first.2, second.2, third.2, fourth.2] at size
    · rw [if_neg size, map_error_ok_iff, Span.validated_ok_iff]
      simp only [List.any_cons, List.any_nil, Bool.or_false, Bool.not_eq_true,
        Bool.or_eq_false_iff] at zero size
      have coordinates : IsCoordinate row ∧ IsCoordinate column ∧ IsCoordinate rows ∧
          IsCoordinate columns :=
        ⟨⟨zero.1, size.1⟩, ⟨zero.2.1, size.2.1⟩, ⟨zero.2.2.1, size.2.2.1⟩, zero.2.2.2, size.2.2.2⟩
      exact (and_iff_right coordinates).symm

/-- A block is found at four tokens that are good for coordinates. -/
theorem tokens_at_ok_iff : tokensAt metrics address = .ok span ↔
    ∃ row column rows columns, address.row.IsUsable metrics row ∧
      address.column.IsUsable metrics column ∧ (orOne address.rows).IsUsable metrics rows ∧
      (orOne address.columns).IsUsable metrics columns ∧
      Span.Addressable ⟨row.toNat, column.toNat, rows.toNat, columns.toNat⟩ ∧
      span = ⟨row.toNat, column.toNat, rows.toNat, columns.toNat⟩ := by
  simp only [tokensAt, direct_bind_ok_iff, block_of_ok_iff, AddressToken.IsUsable]
  constructor
  · rintro ⟨row, rowed, column, columned, rows, tall, columns, wide, ⟨first, second, third, fourth⟩,
      found⟩
    exact ⟨row, column, rows, columns, ⟨rowed, first⟩, ⟨columned, second⟩, ⟨tall, third⟩,
      ⟨wide, fourth⟩, found⟩
  · rintro ⟨row, column, rows, columns, ⟨rowed, first⟩, ⟨columned, second⟩, ⟨tall, third⟩,
      ⟨wide, fourth⟩, found⟩
    exact ⟨row, rowed, column, columned, rows, tall, columns, wide, ⟨first, second, third, fourth⟩,
      found⟩

theorem parts_at_present (plain : address.row.IsPlain)
    (rowPresent : address.row.isPresent = true) (columnPresent : address.column.isPresent = true) :
    partsAt grid metrics address = tokensAt metrics address := by
  obtain ⟨row, column, rows, columns⟩ := address
  cases row with
  | missing => cases plain
  | resolver find => cases plain
  | number value => simp only [partsAt, rowPresent, columnPresent, Bool.and_self, if_true]
  | text content => simp only [partsAt, rowPresent, columnPresent, Bool.and_self, if_true]

def Names (metrics : Metric → Nat) (token : AddressToken) (span : Span) : Prop :=
  ∃ content, token = .text content ∧ lenientNumber? content.toList = none ∧
    Span.ofA1 content (metrics .maxRows) (metrics .maxColumns) = .ok span

/-- Without a row or without a column, only a text in the first place leads to a block. -/
theorem parts_at_absent_iff (plain : address.row.IsPlain)
    (absent : ¬(address.row.isPresent && address.column.isPresent) = true) :
    partsAt grid metrics address = .ok span ↔ Names metrics address.row span := by
  obtain ⟨row, column, rows, columns⟩ := address
  unfold Names
  cases row with
  | missing => cases plain
  | resolver find => cases plain
  | number value =>
      simp only [partsAt, if_neg absent]
      exact iff_of_false nofun nofun
  | text content =>
      simp only [partsAt, if_neg absent, AddressToken.text.injEq]
      cases read : lenientNumber? content.toList with
      | some value =>
          rw [Option.isNone_some, if_neg Bool.false_ne_true]
          refine iff_of_false nofun ?_
          rintro ⟨same, rfl, unread, -⟩
          rw [read] at unread
          cases unread
      | none =>
          rw [Option.isNone_none, if_pos rfl, map_error_ok_iff]
          constructor
          · exact fun named => ⟨content, rfl, read, named⟩
          · rintro ⟨same, rfl, -, named⟩
            exact named

theorem present_of_usable {token : AddressToken} {value : Number} (plain : token.IsPlain)
    (usable : token.IsUsable metrics value) : token.isPresent = true := by
  cases token with
  | missing => cases plain
  | resolver find => cases plain
  | number number =>
      cases zero : number.isZero with
      | true => exact absurd usable (AddressToken.zero_number_unusable zero)
      | false =>
          have some : number.isNaN = false := plain
          simp [AddressToken.isPresent, zero, some]
  | text content =>
      rw [AddressToken.isPresent, Bool.not_eq_true', ← Bool.not_eq_true, String.isEmpty_iff]
      rintro rfl
      obtain ⟨number, evaluates, -⟩ := AddressToken.usable_text_iff.1 usable
      have nothing : Expression.evaluate? (filled metrics "".toList) = none := by
        rw [String.toList_empty, filled_nil]
        simp [Expression.evaluate?, Expression.ofCharacters?, ExpressionSymbol.ofCharacters?,
          Expression.readSum?, Expression.readProduct?, Expression.readFactor?]
      rw [nothing] at evaluates
      cases evaluates

/-- With a column, the tokens are resolved one by one. -/
theorem parts_at_iff_tokens (plain : address.row.IsPlain)
    (columnPresent : address.column.isPresent = true) :
    partsAt grid metrics address = .ok span ↔ tokensAt metrics address = .ok span := by
  by_cases rowPresent : address.row.isPresent = true
  · rw [parts_at_present plain rowPresent columnPresent]
  · have absent : ¬(address.row.isPresent && address.column.isPresent) = true := by
      rw [columnPresent, Bool.and_true]
      exact rowPresent
    rw [parts_at_absent_iff plain absent, tokens_at_ok_iff]
    refine iff_of_false ?_ ?_
    · rintro ⟨content, row, unread, -⟩
      rw [row, AddressToken.isPresent, Bool.not_eq_true', Bool.not_eq_false, String.isEmpty_iff]
        at rowPresent
      subst rowPresent
      cases unread
    · rintro ⟨row, column, rows, columns, usable, -⟩
      exact rowPresent (present_of_usable plain usable)

end Direct

section Joined

theorem no_comma_in_display {token : AddressToken} (plain : token.IsPlain) :
    ',' ∉ token.display.toList := by
  cases token with
  | missing => cases plain
  | resolver find => cases plain
  | text content => exact plain
  | number value =>
      cases value with
      | nan => cases plain
      | infinite negative => cases negative <;> decide
      | finite negative magnitude =>
          intro member
          have allowed := Number.display_character negative magnitude ',' member
          revert allowed
          decide

theorem parted_plain (plain : address.IsPlain) : address.parted = address := by
  have row := plain address.row List.mem_cons_self
  unfold parted
  cases first : address.row with
  | missing => rfl
  | number value => rfl
  | resolver find => rfl
  | text content =>
      rw [first] at row
      have noComma : content.toList.contains ',' = false := by
        rw [List.contains_eq_mem, decide_eq_false_iff_not]
        exact row
      dsimp only
      rw [noComma, if_neg Bool.false_ne_true]

theorem parted_display (plain : address.IsPlain) :
    (ofText address.display).parted = address.reread := by
  have noComma : ∀ text ∈ address.tokens.map AddressToken.display, ',' ∉ text.toList := by
    intro text member
    obtain ⟨token, listed, rfl⟩ := List.mem_map.1 member
    exact no_comma_in_display (plain token listed)
  exact parted_intercalate noComma

theorem rereads_of_plain (plain : address.IsPlain) :
    address.row.Rereads address.reread.row ∧ address.column.Rereads address.reread.column ∧
      address.rows.Rereads address.reread.rows ∧ address.columns.Rereads address.reread.columns := by
  simp only [IsPlain, tokens, List.forall_mem_cons] at plain
  exact ⟨AddressToken.rereads_of_plain plain.1, AddressToken.rereads_of_plain plain.2.1,
    AddressToken.rereads_of_plain plain.2.2.1, AddressToken.rereads_of_plain plain.2.2.2.1⟩

theorem plain_of_rereads {token after : AddressToken} (plain : token.IsPlain)
    (rereads : token.Rereads after) : after.IsPlain := by
  cases rereads with
  | same nonzero => exact plain
  | zero zero => exact no_comma_in_display plain
  | infinite negative => exact no_comma_in_display plain
  | numeric read nonzero => exact Number.is_nan_of_chars (decimal_of_lenient read nonzero).1

/-- A height or a width that is not left out is read again as good as it was. -/
theorem usable_extent_iff {token after : AddressToken} {value : Number}
    (rereads : token.Rereads after) (nonzero : ¬token.IsZero) (ordinary : ¬token.IsScientific) :
    (orOne after).IsUsable metrics value ↔ (orOne token).IsUsable metrics value := by
  unfold orOne
  rw [AddressToken.present_reread rereads nonzero]
  split
  · exact AddressToken.usable_reread_iff rereads ordinary
  · exact Iff.rfl

/-- An A1 text stays what it is, and only an infinity becomes one. -/
theorem named_reread_iff {row after : AddressToken} (rereads : row.Rereads after)
    (finite : row ≠ .number (.infinite false)) :
    Names metrics after span ↔ Names metrics row span := by
  cases rereads with
  | same nonzero => exact Iff.rfl
  | @zero number zero =>
      refine iff_of_false ?_ nofun
      rintro ⟨content, same, unread, -⟩
      cases same
      cases number with
      | nan => cases zero
      | infinite negative => cases zero
      | finite negative magnitude =>
          rw [lenient_display] at unread
          cases unread
  | infinite negative =>
      cases negative with
      | false => exact absurd rfl finite
      | true =>
          refine iff_of_false ?_ nofun
          rintro ⟨content, same, -, named⟩
          cases same
          cases named
  | @numeric content number read nonzero =>
      refine iff_of_false nofun ?_
      rintro ⟨other, same, unread, -⟩
      cases same
      rw [read] at unread
      cases unread

theorem parts_at_reread_iff (plain : address.IsPlain) (kept : ¬address.OmitsZero)
    (ordinary : ¬address.IsReread) :
    partsAt grid metrics address.reread = .ok span ↔ partsAt grid metrics address = .ok span := by
  obtain ⟨row, column, rows, columns⟩ := rereads_of_plain plain
  have rowPlain := plain address.row List.mem_cons_self
  have rowAgain := plain_of_rereads rowPlain row
  have columnPresent := AddressToken.present_reread column (mt Or.inl kept)
  by_cases present : address.column.isPresent = true
  · have extents := mt (fun zero => Or.inr ⟨present, zero⟩) kept
    rw [not_or] at extents
    have decimal : ∀ token ∈ address.tokens, ¬token.IsScientific := fun token member scientific =>
      ordinary (Or.inr ⟨present, token, member, scientific⟩)
    simp only [tokens, List.forall_mem_cons] at decimal
    rw [parts_at_iff_tokens rowAgain (columnPresent.trans present),
      parts_at_iff_tokens rowPlain present, tokens_at_ok_iff, tokens_at_ok_iff]
    simp only [AddressToken.usable_reread_iff row decimal.1,
      AddressToken.usable_reread_iff column decimal.2.1,
      usable_extent_iff rows extents.1 decimal.2.2.1,
      usable_extent_iff columns extents.2 decimal.2.2.2.1]
  · have absent : ¬(address.row.isPresent && address.column.isPresent) = true := by
      rw [Bool.and_eq_true]
      exact fun both => present both.2
    have absentAgain : ¬(address.reread.row.isPresent && address.reread.column.isPresent) =
        true := by
      rw [Bool.and_eq_true, columnPresent]
      exact fun both => present both.2
    have finite : address.row ≠ .number (.infinite false) := fun infinite =>
      ordinary (Or.inl ⟨infinite, Bool.eq_false_iff.2 present⟩)
    rw [parts_at_absent_iff rowAgain absentAgain, parts_at_absent_iff rowPlain absent,
      named_reread_iff row finite]

/-- A height or a width of zero stands for one only until it is read again. -/
theorem zero_extent_unusable {token after : AddressToken} {value : Number}
    (rereads : token.Rereads after) (zero : token.IsZero) :
    ¬(orOne after).IsUsable metrics value := by
  rw [orOne, if_pos (AddressToken.present_of_zero zero rereads)]
  exact AddressToken.zero_reread_unusable rereads zero

theorem unresolved_of_zero (plain : address.IsPlain) (zero : address.OmitsZero) :
    partsAt grid metrics address.reread ≠ .ok span := by
  obtain ⟨row, column, rows, columns⟩ := rereads_of_plain plain
  have rowAgain := plain_of_rereads (plain address.row List.mem_cons_self) row
  have columnPresent : address.reread.column.isPresent = true := by
    by_cases columnZero : address.column.IsZero
    · exact AddressToken.present_of_zero columnZero column
    · rw [AddressToken.present_reread column columnZero]
      exact (zero.resolve_left columnZero).1
  rw [Ne, parts_at_iff_tokens rowAgain columnPresent, tokens_at_ok_iff]
  rintro ⟨_, _, _, _, -, columnUsable, rowsUsable, columnsUsable, -⟩
  rcases zero with columnZero | ⟨-, rowsZero | columnsZero⟩
  · exact AddressToken.zero_reread_unusable column columnZero columnUsable
  · exact zero_extent_unusable rows rowsZero rowsUsable
  · exact zero_extent_unusable columns columnsZero columnsUsable

/-- What is read again as a coordinate has been none as a token. -/
theorem unresolved_of_reread (plain : address.IsPlain) (again : address.IsReread) :
    partsAt grid metrics address ≠ .ok span := by
  have rowPlain := plain address.row List.mem_cons_self
  rcases again with ⟨infinite, absent⟩ | ⟨columnPresent, token, member, scientific⟩
  · have neither : ¬(address.row.isPresent && address.column.isPresent) = true := by
      rw [absent, Bool.and_false]
      exact Bool.false_ne_true
    rw [Ne, parts_at_absent_iff rowPlain neither, infinite]
    rintro ⟨content, same, -⟩
    cases same
  · have unusable {value : Number} : ¬token.IsUsable metrics value :=
      AddressToken.scientific_unusable scientific
    have extent : orOne token = token := if_pos (AddressToken.present_of_scientific scientific)
    rw [Ne, parts_at_iff_tokens rowPlain columnPresent, tokens_at_ok_iff]
    rintro ⟨_, _, _, _, rowUsable, columnUsable, rowsUsable, columnsUsable, -⟩
    simp only [tokens, List.mem_cons, List.not_mem_nil, or_false] at member
    rcases member with rfl | rfl | rfl | rfl
    · exact unusable rowUsable
    · exact unusable columnUsable
    · rw [extent] at rowsUsable
      exact unusable rowsUsable
    · rw [extent] at columnsUsable
      exact unusable columnsUsable

theorem found_joined_iff (plain : address.IsPlain) :
    found? grid cache (ofText address.display) = some span ↔
      partsAt grid (cache.known grid) address.reread = .ok span := by
  rw [found_iff, span_at_parted, parted_display plain]

theorem found_apart_iff (plain : address.IsPlain) :
    found? grid cache address = some span ↔ partsAt grid (cache.known grid) address = .ok span := by
  rw [found_iff, span_at_parted, parted_plain plain]

/-- A zero for a token left out fails in the joined text, what is reread fails as tokens, and every
other address leads to the same block in both forms or to none in either. -/
theorem found_in_both_forms (grid : Grid) (cache : MetricCache) (plain : address.IsPlain) :
    (¬address.OmitsZero → ¬address.IsReread →
        found? grid cache (ofText address.display) = found? grid cache address) ∧
      (address.OmitsZero → found? grid cache (ofText address.display) = none) ∧
      (address.IsReread → found? grid cache address = none) := by
  refine ⟨?_, ?_, ?_⟩
  · intro kept ordinary
    apply Option.ext
    intro span
    rw [found_joined_iff plain, found_apart_iff plain, parts_at_reread_iff plain kept ordinary]
  · intro zero
    rw [Option.eq_none_iff_forall_ne_some]
    intro span
    rw [Ne, found_joined_iff plain]
    exact unresolved_of_zero plain zero
  · intro again
    rw [Option.eq_none_iff_forall_ne_some]
    intro span
    rw [Ne, found_apart_iff plain]
    exact unresolved_of_reread plain again

theorem of_numbers_plain (row column rows columns : Nat) :
    (ofNumbers row column rows columns).IsPlain := by
  simp only [IsPlain, tokens, ofNumbers, List.forall_mem_cons]
  exact ⟨Number.is_nan_of_nat row, Number.is_nan_of_nat column, Number.is_nan_of_nat rows,
    Number.is_nan_of_nat columns, List.forall_mem_nil _⟩

/-- A height of zero is a height left out for tokens, and is refused in the text. -/
theorem zero_height_differs :
    (ofNumbers 1 1 0 1).IsPlain ∧ (ofNumbers 1 1 0 1).display = "1,1,0,1" ∧
      found? Sheet.small.grid .empty (ofNumbers 1 1 0 1) = some ⟨1, 1, 1, 1⟩ ∧
      found? Sheet.small.grid .empty (ofText (ofNumbers 1 1 0 1).display) = none := by
  have plain := of_numbers_plain 1 1 0 1
  have zero : (ofNumbers 1 1 0 1).OmitsZero := by
    refine Or.inr ⟨by decide +kernel, Or.inl ?_⟩
    show (Number.ofNat 0).isZero = true
    decide +kernel
  refine ⟨plain, by decide +kernel, by decide +kernel, ?_⟩
  rw [Option.eq_none_iff_forall_ne_some]
  intro span
  rw [Ne, found_joined_iff plain]
  exact unresolved_of_zero plain zero

def mixed : Address := ⟨.text " 2", .number (.ofNat 1), .text "3.0", .text ""⟩

theorem mixed_plain : mixed.IsPlain := by
  simp only [IsPlain, tokens, mixed, List.forall_mem_cons]
  refine ⟨?_, Number.is_nan_of_nat 1, ?_, ?_, List.forall_mem_nil _⟩
  · exact show ',' ∉ " 2".toList by decide
  · exact show ',' ∉ "3.0".toList by decide
  · exact show ',' ∉ "".toList by decide

theorem mixed_keeps_zeros : ¬mixed.OmitsZero := by
  rintro (column | ⟨-, rows | columns⟩)
  · exact absurd column (show ¬(Number.ofNat 1).isZero = true by decide +kernel)
  · cases rows
  · cases columns

theorem mixed_not_reread : ¬mixed.IsReread := by
  rintro (⟨row, -⟩ | ⟨-, token, member, scientific⟩)
  · cases row
  · have decimal {content : String} (small : 'e' ∉ content.toList)
        (capital : 'E' ∉ content.toList) : ¬AddressToken.IsScientific (.text content) := by
      rintro ⟨value, -, -, exponent⟩
      exact exponent.elim small capital
    simp only [tokens, mixed, List.mem_cons, List.not_mem_nil, or_false] at member
    rcases member with rfl | rfl | rfl | rfl
    · exact decimal (by decide) (by decide) scientific
    · cases scientific
    · exact decimal (by decide) (by decide) scientific
    · exact decimal (by decide) (by decide) scientific

theorem mixed_in_both_forms :
    mixed.display = " 2,1,3.0," ∧ mixed.IsPlain ∧ ¬mixed.OmitsZero ∧ ¬mixed.IsReread ∧
      found? Sheet.small.grid .empty (ofText mixed.display) = some ⟨2, 1, 3, 1⟩ ∧
      found? Sheet.small.grid .empty mixed = some ⟨2, 1, 3, 1⟩ := by
  have joined : found? Sheet.small.grid .empty (ofText mixed.display) = some ⟨2, 1, 3, 1⟩ := by
    decide +kernel
  have both := found_in_both_forms Sheet.small.grid .empty mixed_plain
  have same := both.1 mixed_keeps_zeros mixed_not_reread
  exact ⟨by decide +kernel, mixed_plain, mixed_keeps_zeros, mixed_not_reread, joined,
    same.symm.trans joined⟩

end Joined

end GridStore.Address
