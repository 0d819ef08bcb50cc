import Relmap.Page

/-! The arithmetic of pages. Products, sums and signed words stop at a largest number, which no row that exists
reaches. The number of a page has no such stop: past the largest word there is none, and a page that is asked for by its
number is never that far. -/

namespace Relmap

theorem saturatingMul_toNat (first second : UInt64) :
    (saturatingMul first second).toNat = min (first.toNat * second.toNat) 0xFFFFFFFFFFFFFFFF := by
  unfold saturatingMul
  by_cases fits : first.toNat * second.toNat < UInt64.size
  · rw [if_pos fits, UInt64.toNat_mul, Nat.mod_eq_of_lt fits]
    exact (Nat.min_eq_left (Nat.le_of_lt_succ fits)).symm
  · rw [if_neg fits]
    exact (Nat.min_eq_right (Nat.le_of_succ_le (Nat.le_of_not_lt fits))).symm

theorem saturatingAdd_toNat (first second : UInt64) :
    (saturatingAdd first second).toNat = min (first.toNat + second.toNat) 0xFFFFFFFFFFFFFFFF := by
  unfold saturatingAdd
  by_cases fits : first.toNat + second.toNat < UInt64.size
  · rw [if_pos fits, UInt64.toNat_add, Nat.mod_eq_of_lt fits]
    exact (Nat.min_eq_left (Nat.le_of_lt_succ fits)).symm
  · rw [if_neg fits]
    exact (Nat.min_eq_right (Nat.le_of_succ_le (Nat.le_of_not_lt fits))).symm

theorem saturatingSigned_toNat (n : UInt64) :
    (saturatingSigned n).toNatClampNeg = min n.toNat 0x7FFFFFFFFFFFFFFF := by
  unfold saturatingSigned
  by_cases fits : n.toNat < 0x8000000000000000
  · rw [if_pos fits, Int64.toNatClampNeg_ofInt_of_le (by omega) (by omega)]
    omega
  · rw [if_neg fits]
    exact (Nat.min_eq_right (Nat.le_of_succ_le (Nat.le_of_not_lt fits))).symm

theorem clampPositive_toNat (n : Int64) : (clampPositive n).toNat = max 1 n.toInt.toNat := by
  have bounded := n.toInt_lt
  unfold clampPositive
  by_cases positive : 1 ≤ n.toInt
  · rw [if_pos positive, UInt64.toNat_ofNat', Nat.mod_eq_of_lt (by omega)]
    omega
  · rw [if_neg positive]
    have negative : n.toInt.toNat = 0 := by omega
    rw [negative]
    rfl

namespace Window

/-- The largest offset with a limit of at most one row. The number of such a page is one past the largest word. -/
def Unnumbered (window : Window) : Prop := window.offset = 18446744073709551615 ∧ window.limit ≤ 1

instance (window : Window) : Decidable window.Unnumbered := inferInstanceAs (Decidable (_ ∧ _))

private theorem divisor_toNat (window : Window) : (max window.limit 1).toNat = max window.limit.toNat 1 := by
  change (if window.limit ≤ 1 then 1 else window.limit).toNat = _
  have few : window.limit ≤ 1 ↔ window.limit.toNat ≤ 1 := UInt64.le_iff_toNat_le
  split
  next small => exact (Nat.max_eq_right (few.mp small)).symm
  next large => exact (Nat.max_eq_left (Nat.le_of_not_le (mt few.mpr large))).symm

private theorem divisor_nonzero (window : Window) : max window.limit 1 ≠ 0 := by
  have positive : 1 ≤ (max window.limit 1).toNat := by
    rw [divisor_toNat]
    exact Nat.le_max_right _ 1
  intro zero
  rw [zero] at positive
  contradiction

private theorem quotient_toNat (window : Window) :
    (window.offset / max window.limit 1).toNat = window.offset.toNat / max window.limit.toNat 1 := by
  rw [UInt64.toNat_div, divisor_toNat]

/-- A divisor of two or more halves the offset at least, so only a divisor of one leaves a quotient that large. -/
theorem unnumbered_iff (window : Window) :
    window.Unnumbered ↔ UInt64.size ≤ window.offset.toNat / max window.limit.toNat 1 + 1 := by
  have bounded : window.offset.toNat < UInt64.size := window.offset.toNat_lt_size
  have largest : window.offset = 18446744073709551615 ↔ window.offset.toNat = UInt64.size - 1 := by
    rw [← UInt64.toNat_inj]
    rfl
  have few : window.limit ≤ 1 ↔ window.limit.toNat ≤ 1 := UInt64.le_iff_toNat_le
  rw [Unnumbered, largest, few]
  by_cases one : window.limit.toNat ≤ 1
  · rw [Nat.max_eq_right one, Nat.div_one]
    omega
  · have halved : window.offset.toNat / max window.limit.toNat 1 ≤ window.offset.toNat / 2 :=
      Nat.div_le_div_left (by omega) (by omega)
    have size : 2 < UInt64.size := by decide
    omega

theorem numbered_fits {window : Window} (numbered : ¬window.Unnumbered) :
    window.offset.toNat / max window.limit.toNat 1 + 1 < UInt64.size :=
  Nat.lt_of_not_le (mt window.unnumbered_iff.mpr numbered)

private theorem number_sum (window : Window) : window.number = checkedAdd (window.offset / max window.limit 1) 1 := by
  have quotient : checkedDiv window.offset (max window.limit 1) = .ok (window.offset / max window.limit 1) :=
    if_neg window.divisor_nonzero
  rw [number, quotient]
  rfl

theorem number_unfit {window : Window} (unnumbered : window.Unnumbered) : window.number = .error .overflow := by
  rw [number_sum, checkedAdd, quotient_toNat]
  exact if_neg (Nat.not_lt.mpr (window.unnumbered_iff.mp unnumbered))

private theorem number_exact {window : Window} (numbered : ¬window.Unnumbered) :
    window.number = .ok (UInt64.ofNat (window.offset.toNat / max window.limit.toNat 1 + 1)) := by
  have sum : window.offset / max window.limit 1 + 1 =
      UInt64.ofNat (window.offset.toNat / max window.limit.toNat 1 + 1) := by
    apply UInt64.toNat_inj.mp
    rw [UInt64.toNat_add, quotient_toNat, UInt64.toNat_ofNat']
    rfl
  rw [number_sum, checkedAdd, quotient_toNat, ← sum]
  exact if_pos (numbered_fits numbered)

end Window

theorem Page.of_numbered {α : Type} {window : Window} (numbered : ¬window.Unnumbered) (items : List α)
    (total : Option UInt64) : Page.of items window total = .ok
      { items, page := UInt64.ofNat (window.offset.toNat / max window.limit.toNat 1 + 1), size := window.limit, total,
        hasNext := window.hasNext (UInt64.ofNat items.length) total } := by
  rw [Page.of, Window.number_exact numbered]
  rfl

namespace PageRequest

def number (request : PageRequest) : Nat := max 1 request.page.toInt.toNat

def span (request : PageRequest) : Nat := max 1 request.size.toInt.toNat

theorem number_positive (request : PageRequest) : 1 ≤ request.number := Nat.le_max_left 1 _

theorem span_positive (request : PageRequest) : 1 ≤ request.span := Nat.le_max_left 1 _

theorem span_bounded (request : PageRequest) : request.span < 0x8000000000000000 := by
  have bounded := request.size.toInt_lt
  unfold span
  omega

theorem limit_toNat (request : PageRequest) : request.window.limit.toNat = request.span :=
  clampPositive_toNat request.size

theorem offset_toNat (request : PageRequest) :
    request.window.offset.toNat = min ((request.number - 1) * request.span) 0xFFFFFFFFFFFFFFFF := by
  have positive : (1 : UInt64) ≤ clampPositive request.page := by
    rw [UInt64.le_iff_toNat_le, clampPositive_toNat]
    exact Nat.le_max_left 1 _
  have before : (clampPositive request.page - 1).toNat = request.number - 1 := by
    rw [UInt64.toNat_sub_of_le _ _ positive, clampPositive_toNat]
    rfl
  have product := saturatingMul_toNat (clampPositive request.page - 1) (clampPositive request.size)
  rw [before, clampPositive_toNat request.size] at product
  exact product

/-- With a size of one the offset is the number of the page before, and a signed word holds that. -/
theorem window_numbered (request : PageRequest) : ¬request.window.Unnumbered := by
  intro ⟨largest, few⟩
  have offset := request.offset_toNat
  have limit := request.limit_toNat
  have bounded := request.page.toInt_lt
  have one : request.span ≤ 1 := limit ▸ UInt64.le_iff_toNat_le.mp few
  have single : request.span = 1 := Nat.le_antisymm one request.span_positive
  rw [largest, single, Nat.mul_one, number] at offset
  change 18446744073709551615 = _ at offset
  omega

end PageRequest

theorem page_end {number span : Nat} (positive : 1 ≤ number) : number * span = (number - 1) * span + span := by
  rw [← Nat.succ_mul, Nat.succ_eq_add_one, Nat.sub_add_cancel positive]

theorem held_fits {length : Nat} (held : length < UInt64.size) : (UInt64.ofNat length).toNat = length := by
  rw [UInt64.toNat_ofNat', Nat.mod_eq_of_lt held]

/-- A signed word can hold the number. -/
theorem counted_fits {length : Nat} (few : length ≤ 0x7FFFFFFFFFFFFFFF) : (UInt64.ofNat length).toNat = length :=
  held_fits (Nat.lt_of_le_of_lt few (by decide))

/-- With a total, another page follows exactly if the items end before it: a sum that stops at the largest word
compares with a word as the exact one does. -/
theorem Window.hasNext_total (window : Window) {fetched : Nat} (held : fetched < UInt64.size) (total : UInt64) :
    window.hasNext (UInt64.ofNat fetched) (some total) = true ↔ window.offset.toNat + fetched < total.toNat := by
  have fits : total.toNat ≤ 0xFFFFFFFFFFFFFFFF := Nat.le_of_lt_succ total.toNat_lt_size
  have sum := saturatingAdd_toNat window.offset (UInt64.ofNat fetched)
  rw [held_fits held] at sum
  simp only [hasNext, decide_eq_true_eq, UInt64.lt_iff_toNat_lt, sum]
  omega

namespace PageRequest

variable {α : Type} {request : PageRequest} {fetched length : Nat}

/-- Nothing is lost either where the arithmetic of words stops short of the rows that were skipped. -/
theorem hasNext_total (request : PageRequest) (held : fetched < UInt64.size) (total : UInt64) :
    request.window.hasNext (UInt64.ofNat fetched) (some total) = true ↔
      (request.number - 1) * request.span + fetched < total.toNat := by
  have fits : total.toNat ≤ 0xFFFFFFFFFFFFFFFF := Nat.le_of_lt_succ total.toNat_lt_size
  rw [request.window.hasNext_total held, request.offset_toNat]
  omega

theorem hasNext_counted (few : length ≤ 0x7FFFFFFFFFFFFFFF)
    (cut : fetched = min request.span (length - (request.number - 1) * request.span)) :
    request.window.hasNext (UInt64.ofNat fetched) (some (UInt64.ofNat length)) = true ↔
      request.number * request.span < length := by
  have held : fetched < UInt64.size := Nat.lt_of_le_of_lt (by omega : fetched ≤ 0x7FFFFFFFFFFFFFFF) (by decide)
  have product : request.number * request.span = (request.number - 1) * request.span + request.span :=
    page_end request.number_positive
  have spanned := request.span_positive
  rw [hasNext_total request held, counted_fits few]
  omega

/-- Without a total, another page is expected exactly behind a full one. -/
theorem hasNext_uncounted (cut : fetched ≤ request.span) :
    request.window.hasNext (UInt64.ofNat fetched) none = true ↔ fetched = request.span := by
  have bounded := request.span_bounded
  have held : (UInt64.ofNat fetched).toNat = fetched := counted_fits (by omega)
  have spanned := request.span_positive
  simp only [Window.hasNext, Bool.and_eq_true, decide_eq_true_eq, beq_iff_eq, ← UInt64.toNat_inj, held,
    request.limit_toNat, gt_iff_lt, UInt64.lt_iff_toNat_lt]
  constructor
  · intro ⟨_, full⟩
    exact full
  · intro full
    exact ⟨spanned, full⟩

/-- The page that answers the request. Its number is found again from the rows before it, of which a word counts only
so many. -/
def shows (request : PageRequest) (items : List α) (total : Option UInt64) : Page α where
  items := items
  page := UInt64.ofNat (min ((request.number - 1) * request.span) 0xFFFFFFFFFFFFFFFF / request.span + 1)
  size := request.window.limit
  total := total
  hasNext := request.window.hasNext (UInt64.ofNat items.length) total

private theorem quotient_shown (request : PageRequest) :
    request.window.offset.toNat / max request.window.limit.toNat 1 =
      min ((request.number - 1) * request.span) 0xFFFFFFFFFFFFFFFF / request.span := by
  rw [request.offset_toNat, request.limit_toNat, Nat.max_eq_left request.span_positive]

theorem page_shows (request : PageRequest) (items : List α) (total : Option UInt64) :
    Page.of items request.window total = .ok (request.shows items total) := by
  rw [Page.of_numbered request.window_numbered, quotient_shown]
  rfl

theorem shows_toNat (request : PageRequest) (items : List α) (total : Option UInt64) :
    (request.shows items total).page.toNat =
      min ((request.number - 1) * request.span) 0xFFFFFFFFFFFFFFFF / request.span + 1 := by
  have fits := Window.numbered_fits request.window_numbered
  rw [quotient_shown] at fits
  exact held_fits fits

end PageRequest

end Relmap
