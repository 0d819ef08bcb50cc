import Relmap.Proofs.PageCalls

/-! The numbers of pages. A page does not keep the number that was asked for: it finds the number again from the
window, and that is the same number as long as the offset of the window fits in a word. A window that was put together by
hand can have a number that does not fit itself. -/

namespace Relmap

variable {σ α : Type}

namespace Page

/-- Whatever its items, its window and its total are, a page is made without a division by zero. One operation can
overflow, and only for a window of at most one row behind the largest offset; then there is no page. Every other page has
a number from 1 on, and it is the exact one. What the page says about the next one holds for the exact sum. -/
theorem arithmetic_settled (items : List α) (window : Window) (total : Option UInt64) :
    Page.of items window total ≠ .error .zeroDivisor ∧
    (Page.of items window total = .error .overflow ↔ window.offset = 18446744073709551615 ∧ window.limit ≤ 1) ∧
    (¬ (window.offset = 18446744073709551615 ∧ window.limit ≤ 1) →
      ∃ page, Page.of items window total = .ok page ∧
        page.items = items ∧ page.size = window.limit ∧ page.total = total ∧
        1 ≤ page.page.toNat ∧ page.page.toNat = window.offset.toNat / max window.limit.toNat 1 + 1 ∧
        (items.length < UInt64.size → ∀ number ∈ total,
          (page.hasNext = true ↔ window.offset.toNat + items.length < number.toNat))) := by
  by_cases numbered : window.Unnumbered
  · have stopped : Page.of items window total = .error .overflow := by
      rw [Page.of, Window.number_unfit numbered]
      rfl
    rw [stopped]
    refine ⟨by simp, iff_of_true rfl numbered, ?_⟩
    intro absent
    exact absurd numbered absent
  · have fits := Window.numbered_fits numbered
    rw [of_numbered numbered]
    refine ⟨by simp, iff_of_false (by simp) numbered, ?_⟩
    intro _
    refine ⟨_, rfl, rfl, rfl, rfl, ?_, held_fits fits, ?_⟩
    · exact (held_fits fits).symm ▸ Nat.le_add_left 1 _
    · rintro held number ⟨⟩
      exact window.hasNext_total held number

/-- One row less to skip, and the number is the largest word. -/
theorem arithmetic_settled_largest :
    ¬ ((18446744073709551614 : UInt64) = 18446744073709551615 ∧ (0 : UInt64) ≤ 1) ∧
    ∃ page, Page.of ["a"] ⟨0, 18446744073709551614⟩ (some 7) = .ok page ∧
      page.page.toNat = 18446744073709551615 ∧ page.size = 0 ∧ page.hasNext = false := by
  have numbered : ¬ ((18446744073709551614 : UInt64) = 18446744073709551615 ∧ (0 : UInt64) ≤ 1) := by decide
  obtain ⟨-, -, exact⟩ := arithmetic_settled ["a"] ⟨0, 18446744073709551614⟩ (some 7)
  obtain ⟨page, made, -, size, -, -, number, next⟩ := exact numbered
  have last := mt (next (by decide) 7 rfl).mp (by decide)
  exact ⟨numbered, page, made, number, size, Bool.eq_false_iff.mpr last⟩

/-- No word holds the number after the largest, so there is no page. -/
theorem number_overflows :
    Page.of ([] : List Row) ⟨0, 18446744073709551615⟩ none = .error .overflow ∧
    (18446744073709551615 : UInt64).toNat / max (0 : UInt64).toNat 1 + 1 = 18446744073709551616 :=
  ⟨rfl, by decide⟩

end Page

namespace PageRequest

variable {request : PageRequest}

/-- What a page says about its place: the number and the size as they were asked for, but not below 1. The number is
lost exactly where the rows before the page are more than a word can count. What the page says about the next one
holds everywhere, for the number asked for and for the number shown. -/
structure Numbers (request : PageRequest) (page : Page α) : Prop where
  size : page.size.toNat = request.span
  number : page.page.toNat = request.number ↔ (request.number - 1) * request.span ≤ 0xFFFFFFFFFFFFFFFF
  lost : 0xFFFFFFFFFFFFFFFF < (request.number - 1) * request.span → page.page.toNat = 0xFFFFFFFFFFFFFFFF / request.span + 1
  total : page.total.isSome = request.includeTotal
  /-- A list that is held has fewer items than a word can count. -/
  next : page.items.length < UInt64.size → ∀ total ∈ page.total,
    (page.hasNext = true ↔ (request.number - 1) * request.span + page.items.length < total.toNat) ∧
    (page.hasNext = true ↔ (page.page.toNat - 1) * page.size.toNat + page.items.length < total.toNat)

private theorem page_number (request : PageRequest) (items : List α) (total : Option UInt64) :
    (request.shows items total).page.toNat = request.number ↔
      (request.number - 1) * request.span ≤ 0xFFFFFFFFFFFFFFFF := by
  have positive := request.number_positive
  have spanned := request.span_positive
  rw [shows_toNat]
  by_cases fits : (request.number - 1) * request.span ≤ 0xFFFFFFFFFFFFFFFF
  · rw [Nat.min_eq_left fits, Nat.mul_div_cancel _ spanned]
    omega
  · have less : 0xFFFFFFFFFFFFFFFF / request.span < request.number - 1 :=
      (Nat.div_lt_iff_lt_mul spanned).mpr (Nat.lt_of_not_le fits)
    rw [Nat.min_eq_right (Nat.le_of_not_le fits)]
    omega

/-- Where the number is lost, neither the number shown nor the one asked for leaves any of the rows that were counted. -/
theorem hasNext_shown (request : PageRequest) {items : List α} (held : items.length < UInt64.size) {total : UInt64}
    (counted : total.toNat < 0x8000000000000000) :
    (request.shows items (some total)).hasNext = true ↔
      ((request.shows items (some total)).page.toNat - 1) * request.span + items.length < total.toNat := by
  have spanned := request.span_positive
  have bounded := request.span_bounded
  have next := request.hasNext_total held total
  rw [shows_toNat, Nat.add_sub_cancel]
  refine next.trans ?_
  by_cases fits : (request.number - 1) * request.span ≤ 0xFFFFFFFFFFFFFFFF
  · rw [Nat.min_eq_left fits, Nat.mul_div_cancel _ spanned]
  · have divided := Nat.div_add_mod' 0xFFFFFFFFFFFFFFFF request.span
    have rest := Nat.mod_lt 0xFFFFFFFFFFFFFFFF spanned
    rw [Nat.min_eq_right (Nat.le_of_not_le fits)]
    omega

theorem numbers_page (items : List α) (total : Option UInt64) (counted : ∀ number ∈ total, number.toNat < 0x8000000000000000)
    (wanted : total.isSome = request.includeTotal) : request.Numbers (request.shows items total) := by
  constructor
  case size => exact request.limit_toNat
  case number => exact request.page_number items total
  case lost =>
    intro past
    rw [shows_toNat, Nat.min_eq_right (Nat.le_of_lt past)]
  case total => exact wanted
  case next =>
    intro held number member
    cases (Option.mem_def.mp member : total = some number)
    have shown := request.hasNext_shown held (counted number rfl)
    rw [← request.limit_toNat] at shown
    exact ⟨request.hasNext_total held number, shown⟩

end PageRequest

namespace Driver

variable {driver : Driver σ} {table : Table} {selection : Selection} {request : PageRequest} {state : σ}

private theorem count_signed {condition : Option Condition} {number : UInt64}
    (counted : ((driver.count table condition).perform state).1 = .ok number) : number.toNat < 0x8000000000000000 := by
  obtain ⟨clause, _, asked⟩ := Exchange.of_bind_ok counted
  obtain ⟨found, _, told⟩ := Exchange.of_bind_ok asked
  cases told
  have bounded := found.toInt_lt
  rw [UInt64.toNat_ofNat', Nat.mod_eq_of_lt (by omega)]
  omega

theorem pageMapped_numbers {mapper : Mapper α} {page : Page α}
    (fetched : ((driver.pageMapped table mapper selection request).perform state).1 = .ok page) : request.Numbers page := by
  rw [pageMapped_shows] at fetched
  obtain ⟨items, _, rest⟩ := Exchange.of_bind_ok fetched
  cases wanted : request.includeTotal with
  | false =>
    rw [wanted] at rest
    cases rest
    exact PageRequest.numbers_page items none (by simp) wanted.symm
  | true =>
    rw [wanted, if_pos rfl, map_eq_pure_bind] at rest
    obtain ⟨total, told, done⟩ := Exchange.of_bind_ok rest
    obtain ⟨number, counted, same⟩ := Exchange.of_bind_ok told
    cases same
    cases done
    have signed : ∀ total ∈ some number, total.toNat < 0x8000000000000000 := by
      rintro _ ⟨⟩
      exact count_signed counted
    exact PageRequest.numbers_page items (some number) signed wanted.symm

/-- A page shows its size and, as long as a word can count the rows before it, its number, neither below 1. Behind
more rows it shows another number. Whether another page follows is told right in any case. -/
theorem pages_numbered (driver : Driver σ) (table : Table) (mapper : Mapper α) (selection : Selection)
    (request : PageRequest) (state : σ) :
    (∀ page, ((driver.pageMapped table mapper selection request).perform state).1 = .ok page → request.Numbers page) ∧
    ∀ page, ((driver.pageRows table selection request).perform state).1 = .ok page → request.Numbers page :=
  ⟨fun _ fetched => pageMapped_numbers fetched, fun _ fetched => pageMapped_numbers fetched⟩

/-- The last number there is, with as many rows before it as two for each earlier page. -/
theorem pages_numbered_last :
    ∃ page, ((Script.driver.pageMapped ⟨"t", "T", [⟨"id", .integer, false, none, 1, true⟩]⟩ (fun row => row.required "id" .long)
        ⟨none, []⟩ ⟨9223372036854775807, 2, true⟩).perform ⟨[.rows [[.integer 5]], .rows [[.integer 7]]], []⟩).1 = .ok page ∧
      page.items.length < UInt64.size ∧ 7 ∈ page.total ∧
      page.page.toNat = 9223372036854775807 ∧ page.size.toNat = 2 ∧ page.hasNext = false := by
  obtain ⟨numbers, -⟩ := pages_numbered Script.driver ⟨"t", "T", [⟨"id", .integer, false, none, 1, true⟩]⟩
    (fun row => row.required "id" .long) ⟨none, []⟩ ⟨9223372036854775807, 2, true⟩
    ⟨[.rows [[.integer 5]], .rows [[.integer 7]]], []⟩
  refine ⟨_, rfl, by decide, rfl, ?_⟩
  have own := numbers _ rfl
  refine ⟨own.number.mpr (by decide), own.size, ?_⟩
  exact Bool.eq_false_iff.mpr (mt (own.next (by decide) 7 rfl).1.mp (by decide))

/-- The largest page of the largest size shows the number 3. -/
theorem number_saturates :
    ∃ page, ((Script.driver.pageRows ⟨"t", "T", []⟩ ⟨none, []⟩ ⟨9223372036854775807, 9223372036854775807, false⟩).perform
        ⟨[], []⟩).1 = .ok page ∧ page.page.toNat = 3 ∧ max (9223372036854775807 : Int64).toInt 1 = 9223372036854775807 :=
  ⟨_, rfl, by decide, by decide⟩

end Driver

end Relmap
