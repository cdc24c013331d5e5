import Mathlib.Data.List.TakeWhile
import Mathlib.Tactic.Ring
import PinAudit.Report.Timestamp

/-!
# Timestamps read back

A timestamp written by `Timestamp.render` reads back as itself (`Timestamp.parse_render`), for
every timestamp RFC 3339 can write (`Timestamp.Valid`): a year of four digits, a date of the
calendar, a time of day, a fraction below a second and an offset within a day.

Each field is written as digits padded with zeros to its width, and `takeDigits` reads a field
of its width back to its value (`takeDigits_padded`). The fraction of a second is written
without its trailing zeros, which are worth nothing: the digits left, each read at its place
from a tenth of a second down, give the nanoseconds back (`subsecond_fractionText`). The offset
is `Z`, or a sign, the hours and the minutes (`offsetPart_offsetText`).
-/

namespace PinAudit.Timestamp

/-- **A timestamp RFC 3339 can write**: a year of four digits, a date of the calendar, a time
of day without a leap second, a fraction below one second and an offset within a day. -/
structure Valid (t : Timestamp) : Prop where
  year_lt : t.year < 10000
  month_pos : 1 ≤ t.month
  month_le : t.month ≤ 12
  day_pos : 1 ≤ t.day
  day_le : t.day ≤ daysInMonth t.year t.month
  hour_lt : t.hour < 24
  minute_lt : t.minute < 60
  second_lt : t.second < 60
  nanosecond_lt : t.nanosecond < 1000000000
  offset_lt : t.offset.natAbs < 1440

/-! ### Fields of a fixed width -/

/-- `takeDigits` reads `k` digits onto its accumulator as a numeral. -/
theorem takeDigits_append : ∀ {k acc : Nat} {ds : List Char} (rest : List Char),
    ds.length = k → (∀ c ∈ ds, c.isDigit = true) →
    takeDigits k acc (ds ++ rest) = some (Nat.ofDigitChars 10 ds acc, rest)
  | 0, _, [], _, _, _ => rfl
  | k + 1, acc, c :: ds, rest, hk, hds => by
    have hc := hds c List.mem_cons_self
    have hrest := @takeDigits_append k (10 * acc + (c.toNat - '0'.toNat)) ds rest
      (by simpa using hk) fun d hd => hds d (List.mem_cons_of_mem c hd)
    rw [List.cons_append, takeDigits, if_pos hc, hrest, Nat.ofDigitChars_cons]
  | 0, _, _ :: _, _, hk, _ => by simp at hk
  | _ + 1, _, [], _, hk, _ => by simp at hk

theorem padded_toList (width n : Nat) :
    (padded width n).toList =
      List.replicate (width - (Nat.toDigits 10 n).length) '0' ++ Nat.toDigits 10 n := by
  simp [padded, ← String.length_toList]

theorem isDigit_of_mem_padded {width n : Nat} {c : Char} (h : c ∈ (padded width n).toList) :
    c.isDigit = true := by
  rw [padded_toList, List.mem_append, List.mem_replicate] at h
  rcases h with ⟨-, rfl⟩ | h
  · rfl
  · exact Nat.isDigit_of_mem_toDigits (by decide) (by decide) h

/-- A number below `10 ^ width` is written in exactly `width` digits. -/
theorem length_padded {width n : Nat} (hw : 0 < width) (h : n < 10 ^ width) :
    (padded width n).toList.length = width := by
  have hlen := (Nat.length_toDigits_le_iff (by decide) hw).2 h
  rw [padded_toList, List.length_append, List.length_replicate]
  omega

theorem ofDigitChars_padded (width n : Nat) : Nat.ofDigitChars 10 (padded width n).toList 0 = n := by
  rw [padded_toList, Nat.ofDigitChars_append, Nat.ofDigitChars_replicate_zero, Nat.mul_zero,
    Nat.ofDigitChars_ten_toDigits]

/-- **A padded field reads back**: `width` digits, worth the number written. -/
theorem takeDigits_padded {width n : Nat} (hw : 0 < width) (h : n < 10 ^ width)
    (rest : List Char) : takeDigits width 0 ((padded width n).toList ++ rest) = some (n, rest) := by
  rw [takeDigits_append rest (length_padded hw h) fun _ => isDigit_of_mem_padded,
    ofDigitChars_padded]

theorem piece_padded {width n : Nat} (hw : 0 < width) (h : n < 10 ^ width) (name : String)
    (rest : List Char) : piece width name ((padded width n).toList ++ rest) = pure (n, rest) := by
  rw [piece, takeDigits_padded hw h]
  rfl

/-! ### The fraction of a second -/

/-- Fraction digits read from the place `10 ^ k` down are worth their numeral shifted to the
places left unwritten. -/
theorem fraction_append : ∀ (ds : List Char) (k acc : Nat) (rest : List Char),
    ds.length ≤ k + 1 → (∀ c ∈ ds, c.isDigit = true) →
    (∀ c, rest.head? = some c → c.isDigit = false) →
    fraction (10 ^ k) acc (ds ++ rest) =
      (acc + Nat.ofDigitChars 10 ds 0 * 10 ^ (k + 1 - ds.length), rest)
  | [], k, acc, rest, _, _, hrest => by
    cases rest with
    | nil => simp [fraction]
    | cons c cs => simp [fraction, hrest c rfl]
  | d :: ds, k, acc, rest, hlen, hds, hrest => by
    have hd := hds d List.mem_cons_self
    have hds' : ∀ c ∈ ds, c.isDigit = true := fun c hc => hds c (List.mem_cons_of_mem d hc)
    rw [List.cons_append, fraction, if_pos hd]
    cases k with
    | zero =>
      -- a single digit, at the last place
      have hnil : ds = [] := by simpa using hlen
      subst hnil
      cases rest with
      | nil => simp [fraction, Nat.ofDigitChars_cons]
      | cons c cs => simp [fraction, hrest c rfl, Nat.ofDigitChars_cons]
    | succ k =>
      have hplace : 10 ^ (k + 1) / 10 = 10 ^ k := by
        rw [Nat.pow_succ, Nat.mul_div_cancel _ (by decide)]
      have hsplit : 10 ^ (k + 1) = 10 ^ ds.length * 10 ^ (k + 1 - ds.length) := by
        rw [← Nat.pow_add]
        congr 1
        simp at hlen
        omega
      have hval : Nat.ofDigitChars 10 (d :: ds) 0 =
          10 ^ ds.length * (d.toNat - '0'.toNat) + Nat.ofDigitChars 10 ds 0 := by
        rw [Nat.ofDigitChars_cons, Nat.mul_zero, Nat.zero_add,
          @Nat.ofDigitChars_eq_ofDigitChars_zero ds]
      rw [hplace, fraction_append ds k _ rest (by simp at hlen; omega) hds' hrest, hval,
        List.length_cons, show k + 1 + 1 - (ds.length + 1) = k + 1 - ds.length by omega, hsplit]
      congr 1
      ring

/-- A text without its trailing zeros, and the zeros. -/
theorem trimZeros_append (s : String) :
    ∃ z, s.toList = (trimZeros s).toList ++ List.replicate z '0' := by
  refine ⟨(s.toList.reverse.takeWhile (· == '0')).length, ?_⟩
  have hzeros : (s.toList.reverse.takeWhile (· == '0')).reverse =
      List.replicate (s.toList.reverse.takeWhile (· == '0')).length '0' := by
    rw [← List.length_reverse, List.eq_replicate_iff]
    refine ⟨rfl, fun c hc => ?_⟩
    have := List.mem_takeWhile_imp (List.mem_reverse.1 hc)
    simpa using this
  rw [trimZeros, String.toList_ofList, ← hzeros, ← List.reverse_append,
    List.takeWhile_append_dropWhile, List.reverse_reverse]

/-- **The fraction reads back**: the nanoseconds are written without trailing zeros, and a
text that follows without a digit ends the fraction. -/
theorem subsecond_fractionText {ns : Nat} (h : ns < 1000000000) (rest : List Char)
    (hrest : ∀ c, rest.head? = some c → c.isDigit = false) (hdot : rest.head? ≠ some '.') :
    subsecond ((fractionText ns).toList ++ rest) = pure (ns, rest) := by
  by_cases h0 : ns = 0
  · subst h0
    have hfrac : fractionText 0 = "" := rfl
    rw [hfrac, String.toList_empty, List.nil_append]
    cases rest with
    | nil => rfl
    | cons c cs =>
      have hc : c ≠ '.' := fun hc => hdot (by rw [hc]; rfl)
      unfold subsecond
      split
      · rename_i heq
        exact absurd (List.cons.inj heq).1 hc
      · rename_i heq
        exact absurd (List.cons.inj heq).1 hc
      · rfl
  · obtain ⟨z, hz⟩ := trimZeros_append (padded 9 ns)
    have hlen : (padded 9 ns).toList.length = 9 :=
      length_padded (by decide) ((by decide : (10 : Nat) ^ 9 = 1000000000) ▸ h)
    have hdig : ∀ c ∈ (trimZeros (padded 9 ns)).toList, c.isDigit = true := by
      intro c hc
      apply isDigit_of_mem_padded
      rw [hz]
      exact List.mem_append_left _ hc
    have hval : Nat.ofDigitChars 10 (trimZeros (padded 9 ns)).toList 0 * 10 ^ z = ns := by
      have := ofDigitChars_padded 9 ns
      rw [hz, Nat.ofDigitChars_append, Nat.ofDigitChars_replicate_zero] at this
      rw [Nat.mul_comm]
      exact this
    -- the trimmed digits are not empty: all zeros would be worth nothing
    obtain ⟨d, ds, hds⟩ : ∃ d ds, (trimZeros (padded 9 ns)).toList = d :: ds := by
      cases hT : (trimZeros (padded 9 ns)).toList with
      | nil =>
        rw [hT] at hval
        simp at hval
        exact absurd hval.symm h0
      | cons d ds => exact ⟨d, ds, rfl⟩
    have hlenT : (trimZeros (padded 9 ns)).toList.length + z = 9 := by
      have := congrArg List.length hz
      rw [List.length_append, List.length_replicate, hlen] at this
      omega
    have hfrac : (fractionText ns).toList = '.' :: (trimZeros (padded 9 ns)).toList := by
      simp [fractionText, h0]
    rw [hfrac, hds, List.cons_append, List.cons_append, subsecond,
      if_pos (hdig d (by rw [hds]; exact List.mem_cons_self)), ← List.cons_append, ← hds,
      show (100000000 : Nat) = 10 ^ 8 from rfl,
      fraction_append _ 8 0 rest (by omega) hdig hrest, Nat.zero_add,
      show 8 + 1 - (trimZeros (padded 9 ns)).toList.length = z by omega, hval]
    rfl

/-! ### The offset -/

/-- **The offset reads back**: `Z`, or a sign, the hours and the minutes. -/
theorem offsetPart_offsetText {off : Int} (h : off.natAbs < 1440) (rest : List Char) :
    offsetPart ((offsetText off).toList ++ rest) = pure (off, rest) := by
  by_cases h0 : off = 0
  · subst h0
    rfl
  · have hh : off.natAbs / 60 < 10 ^ 2 := by omega
    have hm : off.natAbs % 60 < 10 ^ 2 := by omega
    have htext : (offsetText off).toList = (if off < 0 then '-' else '+') ::
        ((padded 2 (off.natAbs / 60)).toList ++ ':' :: (padded 2 (off.natAbs % 60)).toList) := by
      by_cases hneg : off < 0 <;> simp [offsetText, h0, hneg]
    rw [htext, List.cons_append, offsetPart]
    have hsign : ((if off < 0 then '-' else '+') == 'Z' || (if off < 0 then '-' else '+') == 'z')
        = false := by
      split <;> rfl
    have hsign' : ((if off < 0 then '-' else '+') == '+' || (if off < 0 then '-' else '+') == '-')
        = true := by
      split <;> rfl
    rw [if_neg (by simp [hsign]), if_pos hsign', List.append_assoc, takeDigits_padded (by decide) hh]
    -- the hours of an offset within a day are at most 23, its minutes at most 59
    have h23 : off.natAbs / 60 ≤ 23 := by omega
    have h59 : ¬ off.natAbs % 60 > 59 := by omega
    simp only [List.cons_append, separator, bind, Except.bind, pure, Except.pure, h23, if_true,
      beq_self_eq_true]
    rw [piece_padded (by decide) hm]
    simp only [pure, Except.pure, h59, if_false]
    by_cases hneg : off < 0
    · have : ((off.natAbs / 60 * 60 + off.natAbs % 60 : Nat) : Int) = -off := by omega
      simp [hneg, this]
    · have : ((off.natAbs / 60 * 60 + off.natAbs % 60 : Nat) : Int) = off := by omega
      simp [hneg, this]

/-! ### The whole timestamp -/

theorem render_toList (t : Timestamp) :
    t.render.toList = (padded 4 t.year).toList ++ '-' :: ((padded 2 t.month).toList ++ '-' ::
      ((padded 2 t.day).toList ++ 'T' :: ((padded 2 t.hour).toList ++ ':' ::
      ((padded 2 t.minute).toList ++ ':' :: ((padded 2 t.second).toList ++
      ((fractionText t.nanosecond).toList ++ (offsetText t.offset).toList)))))) := by
  simp [render]

/-- What follows the seconds starts with `Z` or a sign: no digit and no point. -/
theorem head_offsetText (off : Int) :
    ∃ c cs, (offsetText off).toList = c :: cs ∧ c.isDigit = false ∧ c ≠ '.' := by
  by_cases h0 : off = 0
  · exact ⟨'Z', [], by simp [offsetText, h0], rfl, by decide⟩
  · by_cases hneg : off < 0
    · exact ⟨'-', (padded 2 (off.natAbs / 60)).toList ++ ':' :: (padded 2 (off.natAbs % 60)).toList,
        by simp [offsetText, h0, hneg], rfl, by decide⟩
    · exact ⟨'+', (padded 2 (off.natAbs / 60)).toList ++ ':' :: (padded 2 (off.natAbs % 60)).toList,
        by simp [offsetText, h0, hneg], rfl, by decide⟩

theorem dateTimeSeparator_T (cs : List Char) : dateTimeSeparator ('T' :: cs) = pure cs := rfl

/-- **A timestamp reads back as itself**, for every timestamp RFC 3339 can write. -/
theorem parse_render {t : Timestamp} (ht : t.Valid) : parse t.render = .ok t := by
  obtain ⟨c, cs, hoff, hdigit, hdot⟩ := head_offsetText t.offset
  have hsub := subsecond_fractionText ht.nanosecond_lt (offsetText t.offset).toList
    (fun x hx => by rw [hoff] at hx; cases hx; exact hdigit)
    (by rw [hoff]; simpa using hdot)
  have hoffset := offsetPart_offsetText ht.offset_lt []
  rw [List.append_nil] at hoffset
  have hy := piece_padded (by decide) ((by decide : (10 : Nat) ^ 4 = 10000) ▸ ht.year_lt)
  have hmo := piece_padded (by decide) (Nat.lt_of_le_of_lt ht.month_le (by decide) : t.month < 10 ^ 2)
  have hd : t.day < 10 ^ 2 := Nat.lt_of_le_of_lt ht.day_le (by unfold daysInMonth; split <;> (try split) <;> decide)
  have hh : t.hour < 10 ^ 2 := Nat.lt_trans ht.hour_lt (by decide)
  have hmi : t.minute < 10 ^ 2 := Nat.lt_trans ht.minute_lt (by decide)
  have hs : t.second < 10 ^ 2 := Nat.lt_trans ht.second_lt (by decide)
  unfold parse
  rw [render_toList]
  simp only [hy, hmo, piece_padded (by decide) hd, piece_padded (by decide) hh,
    piece_padded (by decide) hmi, piece_padded (by decide) hs, hsub, hoffset, separator,
    dateTimeSeparator_T, bind, Except.bind, pure, Except.pure, beq_self_eq_true, if_true]
  -- every range check passes, and a second below 60 is no leap second
  have hmonth : (t.month == 0) = false := by simpa using Nat.pos_iff_ne_zero.1 ht.month_pos
  have hleap : (t.second == 60) = false := by simpa using Nat.ne_of_lt ht.second_lt
  have h₁ : ¬ t.month < 1 := Nat.not_lt.2 ht.month_pos
  have h₂ : ¬ t.month > 12 := Nat.not_lt.2 ht.month_le
  have h₃ : ¬ t.day < 1 := Nat.not_lt.2 ht.day_pos
  have h₄ : ¬ t.day > daysInMonth t.year t.month := Nat.not_lt.2 ht.day_le
  have h₅ : ¬ t.hour > 23 := by have := ht.hour_lt; omega
  have h₆ : ¬ t.minute > 59 := by have := ht.minute_lt; omega
  have h₇ : ¬ t.second > 59 := by have := ht.second_lt; omega
  simp [hmonth, hleap, h₁, h₂, h₃, h₄, h₅, h₆, h₇]

end PinAudit.Timestamp
