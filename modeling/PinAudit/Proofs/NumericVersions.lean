import Mathlib.Data.List.DropRight
import Mathlib.Tactic.Ring
import PinAudit.Proofs.ItemCut

/-!
# Numeric versions and qualified versions

A version text made of decimal numbers joined by separators (`1.10`, `007-2_0`) orders like the
list of its numbers, compared lexicographically after the shorter list is padded with zeros
(`Version.compare_numbersAndQualifiers`, first part). Three things meet in this. The cut makes
one number item per number, its digits without leading zeros (`items_spells`). Number items
compare by their digit count first and then digit by digit, which is the order of the numbers
themselves (`compareDigits_repr`): a canonical numeral with more digits is larger, and
numerals of one length compare as their digit lists do. Padding with the null item compares a
number as with zero, and the zeros that the end of the text drops are zeros the padding puts
back.

A numeric text followed by `-` and a word of letters orders by the word: two such versions with
the same numbers compare as their folded words do in the qualifier order, and one compares with
the bare numbers as its folded word does with the empty qualifier. The qualifier order is given
here as the claimable order `qualifierOrder`: `alpha`, `beta`, `milestone`, `rc`, `snapshot`,
the empty qualifier and `sp` in that order, then every other word, by its text.

Main statement: `Version.compare_numbersAndQualifiers`.
-/

namespace PinAudit.Version

/-! ### Digit characters -/

theorem toNat_of_isDigit {c : Char} (h : c.isDigit = true) : 48 ≤ c.toNat ∧ c.toNat ≤ 57 := by
  simp only [Char.isDigit, Bool.and_eq_true, decide_eq_true_eq, UInt32.le_iff_toNat_le,
    Char.reduceVal, UInt32.reduceToNat] at h
  exact h

/-- The value of a decimal numeral. -/
def decimalValue (ds : List Char) : Nat := Nat.ofDigitChars 10 ds 0

theorem decimalValue_toDigits (n : Nat) : decimalValue (Nat.toDigits 10 n) = n :=
  Nat.ofDigitChars_ten_toDigits

theorem decimalValue_cons (c : Char) (ds : List Char) :
    decimalValue (c :: ds) = 10 ^ ds.length * (c.toNat - 48) + decimalValue ds := by
  unfold decimalValue
  rw [Nat.ofDigitChars_cons, Nat.ofDigitChars_eq_ofDigitChars_zero]
  simp

/-- A numeral of `k` digits is below `10 ^ k`. -/
theorem decimalValue_lt {ds : List Char} (hds : ∀ c ∈ ds, c.isDigit = true) :
    decimalValue ds < 10 ^ ds.length := by
  induction ds with
  | nil => simp [decimalValue]
  | cons c ds ih =>
    have hc := toNat_of_isDigit (hds c List.mem_cons_self)
    have hrest := ih fun d hd => hds d (List.mem_cons_of_mem c hd)
    rw [decimalValue_cons, List.length_cons, Nat.pow_succ]
    -- the first digit is at most 9, and what follows is below one unit of it
    have hd : c.toNat - 48 ≤ 9 := by omega
    calc 10 ^ ds.length * (c.toNat - 48) + decimalValue ds
        < 10 ^ ds.length * (c.toNat - 48) + 10 ^ ds.length := by omega
      _ = 10 ^ ds.length * (c.toNat - 48 + 1) := by ring
      _ ≤ 10 ^ ds.length * 10 := Nat.mul_le_mul_left _ (by omega)

/-- Two numbers written with a leading digit in base `P`, each below `P` after it, compare by
the leading digit first. -/
theorem mul_add_lt_mul_add_iff {P d₁ d₂ v₁ v₂ : Nat} (h₁ : v₁ < P) (h₂ : v₂ < P) :
    P * d₁ + v₁ < P * d₂ + v₂ ↔ d₁ < d₂ ∨ d₁ = d₂ ∧ v₁ < v₂ := by
  constructor
  · intro h
    rcases Nat.lt_trichotomy d₁ d₂ with hd | rfl | hd
    · exact .inl hd
    · exact .inr ⟨rfl, by omega⟩
    · have : P * (d₂ + 1) ≤ P * d₁ := Nat.mul_le_mul_left P hd
      rw [Nat.mul_succ] at this
      omega
  · rintro (hd | ⟨rfl, hv⟩)
    · have : P * (d₁ + 1) ≤ P * d₂ := Nat.mul_le_mul_left P hd
      rw [Nat.mul_succ] at this
      omega
    · omega

/-- **Numerals of one length compare as their values**: the lexicographic order of the digit
lists is the order of the numbers. -/
theorem digits_lt_iff :
    ∀ {l₁ l₂ : List Char}, (∀ c ∈ l₁, c.isDigit = true) → (∀ c ∈ l₂, c.isDigit = true) →
      l₁.length = l₂.length → (l₁ < l₂ ↔ decimalValue l₁ < decimalValue l₂)
  | [], [], _, _, _ => by simp
  | c₁ :: r₁, c₂ :: r₂, h₁, h₂, hlen => by
    have hc₁ := toNat_of_isDigit (h₁ c₁ List.mem_cons_self)
    have hc₂ := toNat_of_isDigit (h₂ c₂ List.mem_cons_self)
    have hr₁ : ∀ c ∈ r₁, c.isDigit = true := fun c hc => h₁ c (List.mem_cons_of_mem c₁ hc)
    have hr₂ : ∀ c ∈ r₂, c.isDigit = true := fun c hc => h₂ c (List.mem_cons_of_mem c₂ hc)
    have hlen' : r₁.length = r₂.length := by simpa using hlen
    have hlt : c₁ < c₂ ↔ c₁.toNat - 48 < c₂.toNat - 48 := by
      rw [Char.lt_def, UInt32.lt_iff_toNat_lt]
      exact ⟨fun h => by change c₁.toNat < c₂.toNat at h; omega,
        fun h => by change c₁.toNat < c₂.toNat; omega⟩
    have heq : c₁ = c₂ ↔ c₁.toNat - 48 = c₂.toNat - 48 := by
      rw [← Char.toNat_inj]
      omega
    rw [List.cons_lt_cons_iff, decimalValue_cons, decimalValue_cons, hlen',
      mul_add_lt_mul_add_iff (hlen' ▸ decimalValue_lt hr₁) (decimalValue_lt hr₂), hlt, heq,
      digits_lt_iff hr₁ hr₂ hlen']
  | [], _ :: _, _, _, hlen => by simp at hlen
  | _ :: _, [], _, _, hlen => by simp at hlen

/-! ### Canonical numerals -/

theorem isDigit_of_mem_repr {n : Nat} {c : Char} (h : c ∈ Nat.toDigits 10 n) : c.isDigit = true :=
  Nat.isDigit_of_mem_toDigits (by decide) (by decide) h

/-- The numeral of a positive number does not start with a zero. -/
theorem toDigits_ne_zero_cons {n : Nat} (hn : 0 < n) (l : List Char) :
    Nat.toDigits 10 n ≠ '0' :: l := by
  intro h
  have hval : n = decimalValue l := by
    rw [← decimalValue_toDigits n, h, decimalValue_cons]
    simp
  have hl : ∀ c ∈ l, c.isDigit = true := fun c hc => isDigit_of_mem_repr (h ▸ List.mem_cons_of_mem _ hc)
  -- so `n` has no more digits than `l`, one fewer than its numeral has
  have hpos : 0 < l.length := by
    cases l with
    | nil => simp [decimalValue] at hval; omega
    | cons _ _ => simp
  have hshort := (Nat.length_toDigits_le_iff (by decide) hpos).2 (hval ▸ decimalValue_lt hl)
  rw [h, List.length_cons] at hshort
  omega

/-- Two numbers with numerals of one length compare as the numerals do. -/
theorem compare_repr_of_length_eq {a b : Nat} (h : a.repr.length = b.repr.length) :
    Ord.compare a.repr b.repr = Ord.compare a b := by
  have hlt : ∀ {x y : Nat}, x.repr.length = y.repr.length → (x.repr < y.repr ↔ x < y) := by
    intro x y hxy
    change (x.repr.toList < y.repr.toList) ↔ x < y
    have hlen : (Nat.toDigits 10 x).length = (Nat.toDigits 10 y).length := by
      rw [← Nat.toList_repr, ← Nat.toList_repr, String.length_toList, String.length_toList]
      exact hxy
    rw [Nat.toList_repr, Nat.toList_repr,
      digits_lt_iff (fun _ => isDigit_of_mem_repr) (fun _ => isDigit_of_mem_repr) hlen,
      decimalValue_toDigits, decimalValue_toDigits]
  rcases Nat.lt_trichotomy a b with hab | rfl | hab
  · rw [Nat.compare_eq_lt.2 hab]
    exact compareOfLessAndEq_eq_lt.2 ((hlt h).2 hab)
  · simp
  · have hba : Ord.compare b.repr a.repr = .lt := compareOfLessAndEq_eq_lt.2 ((hlt h.symm).2 hab)
    have hswap : Ord.compare a.repr b.repr = (Ord.compare b.repr a.repr).swap :=
      Std.OrientedCmp.eq_swap
    rw [Nat.compare_eq_gt.2 hab, hswap, hba]
    rfl

/-- **Number items compare as the numbers**: by digit count first, then digit by digit. -/
theorem compareDigits_repr (a b : Nat) : compareDigits a.repr b.repr = Ord.compare a b := by
  have hlen : ∀ {x y : Nat}, x.repr.length < y.repr.length → x < y := by
    intro x y hxy
    have hxpos : 0 < x.repr.length := Nat.length_repr_pos
    -- `x` is below `10 ^ k` for its `k` digits, `y` is at least `10 ^ (k' - 1)` for its `k'`
    have hx : x < 10 ^ x.repr.length := (Nat.length_repr_le_iff Nat.length_repr_pos).1 le_rfl
    have hy : ¬ y < 10 ^ (y.repr.length - 1) := fun hy =>
      absurd ((Nat.length_repr_le_iff (by omega)).2 hy) (by omega)
    calc x < 10 ^ x.repr.length := hx
      _ ≤ 10 ^ (y.repr.length - 1) := Nat.pow_le_pow_right (by decide) (by omega)
      _ ≤ y := by omega
  rw [compareDigits]
  rcases Nat.lt_trichotomy a.repr.length b.repr.length with h | h | h
  · rw [Nat.compare_eq_lt.2 h, Nat.compare_eq_lt.2 (hlen h)]
    rfl
  · rw [Nat.compare_eq_eq.2 h, compare_repr_of_length_eq h]
    rfl
  · rw [Nat.compare_eq_gt.2 h, Nat.compare_eq_gt.2 (hlen h)]
    rfl

theorem repr_eq_zero_iff {n : Nat} : n.repr = "0" ↔ n = 0 := by
  constructor
  · intro h
    have hdigits : Nat.toDigits 10 n = ['0'] := by rw [← Nat.toList_repr, h]; rfl
    rw [← decimalValue_toDigits n, hdigits]
    rfl
  · rintro rfl
    rfl

/-! ### Numeric texts -/

/-- A number written in decimal after `zeros` leading zeros. -/
def decimal (zeros n : Nat) : List Char := List.replicate zeros '0' ++ Nat.toDigits 10 n

/-- **A numeric version text**: `Spells ns text` when `text` writes the numbers `ns` in decimal,
each with any number of leading zeros, with one separator (`.`, `-` or `_`) between each two. -/
inductive Spells : List Nat → List Char → Prop
  | one (zeros n : Nat) : Spells [n] (decimal zeros n)
  | cons (zeros n : Nat) {sep : Char} {ns : List Nat} {text : List Char} :
      isSeparator sep = true → Spells ns text → Spells (n :: ns) (decimal zeros n ++ sep :: text)

/-- The item of a number: its numeral, without leading zeros. -/
def numberItem (n : Nat) : Item := .number n.repr

theorem isDigit_of_mem_decimal {zeros n : Nat} {c : Char} (h : c ∈ decimal zeros n) :
    c.isDigit = true := by
  rcases List.mem_append.1 h with h | h
  · rw [List.eq_of_mem_replicate h]
    rfl
  · exact isDigit_of_mem_repr h

theorem isSeparator_eq_false_of_isDigit {c : Char} (h : c.isDigit = true) :
    isSeparator c = false := by
  cases hs : isSeparator c with
  | false => rfl
  | true =>
    simp only [isSeparator, Bool.or_eq_true, beq_iff_eq] at hs
    rcases hs with (rfl | rfl) | rfl <;> simp at h

/-- Leading zeros are dropped: the digits of a number item are the number's numeral. -/
theorem stripZeros_decimal (zeros n : Nat) : stripZeros (decimal zeros n) = n.repr := by
  have hdrop : (decimal zeros n).dropWhile (· == '0') = (Nat.toDigits 10 n).dropWhile (· == '0') :=
    List.dropWhile_append_of_pos fun c hc => by rw [List.eq_of_mem_replicate hc]; rfl
  unfold stripZeros
  rw [hdrop]
  rcases Nat.eq_zero_or_pos n with rfl | hn
  · rfl
  · -- the numeral of a positive number has no leading zero to drop
    obtain ⟨c, l, hcl⟩ := List.exists_cons_of_ne_nil (Nat.toDigits_ne_nil (n := n) (b := 10))
    have hc : c ≠ '0' := fun hc => toDigits_ne_zero_cons hn l (hc ▸ hcl)
    rw [hcl, List.dropWhile_cons_of_neg (by simpa using hc), Nat.repr_eq_ofList_toDigits, hcl]

theorem ofToken_decimal (zeros n : Nat) (beforeDigit : Bool) :
    Item.ofToken (decimal zeros n) beforeDigit = numberItem n := by
  have hdigits : (decimal zeros n).all Char.isDigit = true :=
    List.all_eq_true.2 fun _ hc => isDigit_of_mem_decimal hc
  unfold Item.ofToken
  rw [if_neg (by simp [decimal]), if_pos hdigits, stripZeros_decimal]
  rfl

/-- A list of characters that lowering fixes. -/
theorem map_asciiLowerChar_of_forall {l : List Char} (h : ∀ c ∈ l, Text.asciiLowerChar c = c) :
    l.map Text.asciiLowerChar = l :=
  (List.map_congr_left h).trans (List.map_id l)

/-- Numeric texts have no capitals to lower. -/
theorem map_asciiLowerChar_spells {ns : List Nat} {a : List Char} (h : Spells ns a) :
    a.map Text.asciiLowerChar = a := by
  induction h with
  | one zeros n =>
    exact map_asciiLowerChar_of_forall fun c hc => asciiLowerChar_of_isDigit (isDigit_of_mem_decimal hc)
  | cons zeros n hsep _ ih =>
    rw [List.map_append, List.map_cons, asciiLowerChar_of_isSeparator hsep, ih,
      map_asciiLowerChar_of_forall fun c hc => asciiLowerChar_of_isDigit (isDigit_of_mem_decimal hc)]

/-- The digits of a number make one token. -/
theorem foldl_decimal (zeros n : Nat) (D : List Item) :
    (decimal zeros n).foldl cutStep ([], D) = (decimal zeros n, D) :=
  foldl_cutStep_run (p := true)
    (fun _ hc => ⟨isSeparator_eq_false_of_isDigit (isDigit_of_mem_decimal hc),
      isDigit_of_mem_decimal hc⟩) [] D (by simp)

/-- A number followed by a separator adds its number item. -/
theorem foldl_decimal_sep {sep : Char} (hsep : isSeparator sep = true) (zeros n : Nat)
    (rest : List Char) (D : List Item) :
    (decimal zeros n ++ sep :: rest).foldl cutStep ([], D) =
      rest.foldl cutStep ([], numberItem n :: D) := by
  rw [List.foldl_append, foldl_decimal, List.foldl_cons, cutStep_separator hsep, ofToken_decimal]

/-- **A numeric text followed by a separator** adds one number item per number. -/
theorem foldl_spells_sep {ns : List Nat} {a : List Char} (h : Spells ns a) {sep : Char}
    (hsep : isSeparator sep = true) (rest : List Char) (D : List Item) :
    (a ++ sep :: rest).foldl cutStep ([], D) =
      rest.foldl cutStep ([], (ns.map numberItem).reverse ++ D) := by
  induction h generalizing D with
  | one zeros n =>
    rw [foldl_decimal_sep hsep]
    rfl
  | cons zeros n hsep' _ ih =>
    rw [List.append_assoc, List.cons_append, foldl_decimal_sep hsep', ih]
    simp

/-- **A numeric text at the end** adds one number item per number. -/
theorem cutFinish_foldl_spells {ns : List Nat} {a : List Char} (h : Spells ns a) (D : List Item) :
    cutFinish (a.foldl cutStep ([], D)) = (ns.map numberItem).reverse ++ D := by
  induction h generalizing D with
  | one zeros n =>
    rw [foldl_decimal, cutFinish, if_neg (by simp [decimal]), ofToken_decimal]
    rfl
  | cons zeros n hsep _ ih =>
    rw [foldl_decimal_sep hsep, ih]
    simp

/-- **The items of a numeric text** are its numbers, with the zeros at the end dropped. -/
theorem items_spells {ns : List Nat} {a : List Char} (h : Spells ns a) :
    items (String.ofList a) = dropNullTail (ns.map numberItem) := by
  rw [items_eq_foldl, String.toList_ofList, map_asciiLowerChar_spells h, cutFinish_foldl_spells h,
    List.append_nil, List.reverse_reverse]

/-! ### Lists of number items -/

theorem numberItem_compare (a b : Nat) :
    (numberItem a).compare (numberItem b) = Ord.compare a b :=
  compareDigits_repr a b

/-- Against the padding, a number item compares as its number with zero. -/
theorem numberItem_compareNull (a : Nat) : (numberItem a).compareNull = Ord.compare a 0 := by
  rcases Nat.eq_zero_or_pos a with rfl | ha
  · rfl
  · have hne : a.repr ≠ "0" := fun h => Nat.pos_iff_ne_zero.1 ha (repr_eq_zero_iff.1 h)
    simp [numberItem, Item.compareNull, hne, Nat.compare_eq_gt.2 ha]

theorem numberItem_isNull (a : Nat) : (numberItem a).isNull = (a == 0) := by
  simp [numberItem, Item.isNull, repr_eq_zero_iff]

/-- A list of numbers padded with zeros to length `n`. -/
def padZeros (n : Nat) (xs : List Nat) : List Nat := xs ++ List.replicate (n - xs.length) 0

theorem padZeros_nil_succ (n : Nat) : padZeros (n + 1) [] = 0 :: padZeros n [] := by
  simp [padZeros, List.replicate_succ]

theorem padZeros_cons_succ (n : Nat) (x : Nat) (xs : List Nat) :
    padZeros (n + 1) (x :: xs) = x :: padZeros n xs := by
  simp [padZeros]

/-- **Number items compare as their numbers padded with zeros**: the padding of the version
order is zero to a number. -/
theorem compareItems_numbers (n : Nat) :
    ∀ xs ys : List Nat, xs.length ≤ n → ys.length ≤ n →
      compareItems (xs.map numberItem) (ys.map numberItem) =
        Ord.compare (padZeros n xs) (padZeros n ys) := by
  induction n with
  | zero =>
    intro xs ys hxs hys
    rw [List.length_eq_zero_iff.1 (Nat.le_zero.1 hxs), List.length_eq_zero_iff.1 (Nat.le_zero.1 hys),
      List.map_nil, compareItems]
    rfl
  | succ n ih =>
    -- one number of each padded list at a time; a list that has run out gives zero
    intro xs ys hxs hys
    cases xs with
    | nil =>
      cases ys with
      | nil =>
        rw [padZeros_nil_succ, List.compare_cons_cons, ← ih [] [] (Nat.zero_le _) (Nat.zero_le _),
          List.map_nil, compareItems]
        rfl
      | cons y ys =>
        rw [padZeros_nil_succ, padZeros_cons_succ, List.compare_cons_cons,
          ← ih [] ys (Nat.zero_le _) (by simpa using hys), List.map_nil, List.map_cons, compareItems,
          thenCompare_eq_then, numberItem_compareNull, ← Std.OrientedCmp.eq_swap]
    | cons x xs =>
      cases ys with
      | nil =>
        rw [padZeros_nil_succ, padZeros_cons_succ, List.compare_cons_cons,
          ← ih xs [] (by simpa using hxs) (Nat.zero_le _), List.map_nil, List.map_cons, compareItems,
          thenCompare_eq_then, numberItem_compareNull]
      | cons y ys =>
        rw [padZeros_cons_succ, padZeros_cons_succ, List.compare_cons_cons,
          ← ih xs ys (by simpa using hxs) (by simpa using hys), List.map_cons, List.map_cons,
          compareItems, thenCompare_eq_then, numberItem_compare]

/-! ### Zeros at the end -/

/-- The null items dropped at the end are dropped from the right. -/
theorem dropNullTail_eq_rdropWhile (L : List Item) : dropNullTail L = L.rdropWhile Item.isNull :=
  rfl

/-- The null number items at the end are the zeros at the end. -/
theorem dropNullTail_numbers (xs : List Nat) :
    dropNullTail (xs.map numberItem) = (xs.rdropWhile (· == 0)).map numberItem := by
  have hnull : (Item.isNull ∘ numberItem) = (· == 0) := funext numberItem_isNull
  rw [dropNullTail, ← List.map_reverse, List.dropWhile_map, hnull, ← List.map_reverse]
  rfl

/-- A list of numbers is what `rdropWhile` keeps of it, followed by zeros. -/
theorem eq_rdropWhile_append_zeros (xs : List Nat) :
    ∃ k, xs = xs.rdropWhile (· == 0) ++ List.replicate k 0 := by
  have hzeros : xs.rtakeWhile (· == 0) = List.replicate (xs.rtakeWhile (· == 0)).length 0 :=
    List.eq_replicate_iff.2 ⟨rfl, fun b hb => by simpa using List.mem_rtakeWhile_imp hb⟩
  exact ⟨_, hzeros ▸ List.rdropWhile_append_rtakeWhile.symm⟩

theorem padZeros_append_zeros {n : Nat} (D : List Nat) (k : Nat) (h : D.length + k ≤ n) :
    padZeros n (D ++ List.replicate k 0) = padZeros n D := by
  simp only [padZeros, List.length_append, List.length_replicate, List.append_assoc,
    List.replicate_append_replicate]
  congr 2
  omega

/-- Zeros dropped at the end are put back by the padding. -/
theorem padZeros_rdropWhile {n : Nat} {xs : List Nat} (h : xs.length ≤ n) :
    padZeros n (xs.rdropWhile (· == 0)) = padZeros n xs := by
  obtain ⟨k, hk⟩ := eq_rdropWhile_append_zeros xs
  have hlen : (xs.rdropWhile (· == 0)).length + k ≤ n := by
    have hxs := congrArg List.length hk
    simp only [List.length_append, List.length_replicate] at hxs
    omega
  calc padZeros n (xs.rdropWhile (· == 0))
      = padZeros n (xs.rdropWhile (· == 0) ++ List.replicate k 0) :=
        (padZeros_append_zeros _ k hlen).symm
    _ = padZeros n xs := by rw [← hk]

/-- **Numeric texts compare as their numbers padded with zeros.** -/
theorem compare_spells {xs ys : List Nat} {a b : List Char} (ha : Spells xs a) (hb : Spells ys b) :
    Version.compare ⟨String.ofList a⟩ ⟨String.ofList b⟩ =
      Ord.compare (padZeros (max xs.length ys.length) xs) (padZeros (max xs.length ys.length) ys) := by
  have hxs : (xs.rdropWhile (· == 0)).length ≤ max xs.length ys.length :=
    (List.rdropWhile_prefix _ xs).length_le.trans (Nat.le_max_left _ _)
  have hys : (ys.rdropWhile (· == 0)).length ≤ max xs.length ys.length :=
    (List.rdropWhile_prefix _ ys).length_le.trans (Nat.le_max_right _ _)
  show compareItems (items (String.ofList a)) (items (String.ofList b)) = _
  rw [items_spells ha, items_spells hb, dropNullTail_numbers, dropNullTail_numbers,
    compareItems_numbers _ _ _ hxs hys, padZeros_rdropWhile (Nat.le_max_left _ _),
    padZeros_rdropWhile (Nat.le_max_right _ _)]

/-! ### The qualifier order -/

/-- The qualifiers with a place of their own in the order, lowest first. -/
def namedQualifiers : List String := ["alpha", "beta", "milestone", "rc", "snapshot", "", "sp"]

/-- **The qualifier order**: the named qualifiers by their place in `namedQualifiers`, then
every other qualifier, those by their text. -/
def qualifierOrder (x y : String) : Ordering :=
  match namedQualifiers.idxOf? x, namedQualifiers.idxOf? y with
  | some i, some j => Ord.compare i j
  | some _, none => .lt
  | none, some _ => .gt
  | none, none => Ord.compare x y

/-- The rank of a qualifier is its place among the named qualifiers, or the last class with its
text. -/
theorem qualifierRank_eq (q : String) :
    qualifierRank q =
      match namedQualifiers.idxOf? q with
      | some i => (i, "")
      | none => (7, q) := by
  by_cases hq : q ∈ namedQualifiers
  · simp only [namedQualifiers, List.mem_cons, List.not_mem_nil, or_false] at hq
    rcases hq with rfl | rfl | rfl | rfl | rfl | rfl | rfl <;> rfl
  · rw [List.idxOf?_eq_none_iff.2 hq]
    simp only [namedQualifiers, List.mem_cons, List.not_mem_nil, or_false, not_or] at hq
    simp [qualifierRank, hq]

theorem lt_seven_of_idxOf? {q : String} {i : Nat} (h : namedQualifiers.idxOf? q = some i) :
    i < 7 := by
  obtain ⟨hi, -⟩ := List.idxOf?_eq_some_iff.1 h
  exact hi

/-- **Ranks order qualifiers as the qualifier order does.** -/
theorem compareRank_qualifierRank (x y : String) :
    compareRank (qualifierRank x) (qualifierRank y) = qualifierOrder x y := by
  rw [qualifierRank_eq, qualifierRank_eq, qualifierOrder]
  cases hx : namedQualifiers.idxOf? x with
  | none =>
    cases hy : namedQualifiers.idxOf? y with
    | none => simp [compareRank, thenCompare]
    | some j =>
      have hj := lt_seven_of_idxOf? hy
      simp [compareRank, thenCompare, Nat.compare_eq_gt.2 hj]
  | some i =>
    have hi := lt_seven_of_idxOf? hx
    cases hy : namedQualifiers.idxOf? y with
    | none => simp [compareRank, thenCompare, Nat.compare_eq_lt.2 hi]
    | some j =>
      simp only [compareRank]
      cases Ord.compare i j <;> rfl

/-! ### A word after a numeric text -/

/-- A qualifier word: one or more ASCII letters. -/
def Word (q : String) : Prop := q.toList ≠ [] ∧ ∀ c ∈ q.toList, c.isAlpha = true

/-- A code point below the surrogates is a character of its own. -/
theorem toNat_ofNat_of_lt {n : Nat} (h : n < 0xd800) : (Char.ofNat n).toNat = n := by
  change (dite n.isValidChar (fun h => Char.ofNatAux n h) (fun _ => _)).toNat = n
  rw [dif_pos (Or.inl h)]
  rfl

/-- An ASCII letter is a capital or a small letter. -/
theorem toNat_of_isAlpha {c : Char} (h : c.isAlpha = true) :
    (65 ≤ c.toNat ∧ c.toNat ≤ 90) ∨ (97 ≤ c.toNat ∧ c.toNat ≤ 122) := by
  rcases Bool.or_eq_true_iff.1 h with hu | hl
  · have hu' : c.val ≥ 'A'.val ∧ c.val ≤ 'Z'.val := of_decide_eq_true hu
    simp only [ge_iff_le, UInt32.le_iff_toNat_le, Char.reduceVal, UInt32.reduceToNat] at hu'
    exact .inl hu'
  · have hl' : (decide (c.val ≥ 'a'.val) && decide (c.val ≤ 'z'.val)) = true := hl
    simp only [Bool.and_eq_true, decide_eq_true_eq, ge_iff_le, UInt32.le_iff_toNat_le,
      Char.reduceVal, UInt32.reduceToNat] at hl'
    exact .inr hl'

/-- A lowered letter is a small letter. -/
theorem toNat_asciiLowerChar_of_isAlpha {c : Char} (h : c.isAlpha = true) :
    97 ≤ (Text.asciiLowerChar c).toNat ∧ (Text.asciiLowerChar c).toNat ≤ 122 := by
  have hletter := toNat_of_isAlpha h
  have hval : c.toNat = c.val.toNat := rfl
  by_cases hup : 'A' ≤ c ∧ c ≤ 'Z'
  · -- a capital moves 32 places up, among the small letters
    have hc : 65 ≤ c.val.toNat ∧ c.val.toNat ≤ 90 := by
      simpa only [Char.le_def, UInt32.le_iff_toNat_le, Char.reduceVal, UInt32.reduceToNat] using hup
    rw [Text.asciiLowerChar, if_pos hup, toNat_ofNat_of_lt (by omega)]
    omega
  · have hc : ¬ (65 ≤ c.val.toNat ∧ c.val.toNat ≤ 90) := by
      simpa only [Char.le_def, UInt32.le_iff_toNat_le, Char.reduceVal, UInt32.reduceToNat] using hup
    rw [asciiLowerChar_of_not_upper hup]
    omega

/-- A lowered letter is neither a separator nor a digit. -/
theorem asciiLowerChar_of_isAlpha {c : Char} (h : c.isAlpha = true) :
    isSeparator (Text.asciiLowerChar c) = false ∧ (Text.asciiLowerChar c).isDigit = false := by
  have hr := toNat_asciiLowerChar_of_isAlpha h
  constructor
  · cases hs : isSeparator (Text.asciiLowerChar c) with
    | false => rfl
    | true =>
      simp only [isSeparator, Bool.or_eq_true, beq_iff_eq] at hs
      rcases hs with (hs | hs) | hs <;> rw [hs] at hr <;> simp at hr
  · cases hd : (Text.asciiLowerChar c).isDigit with
    | false => rfl
    | true =>
      have := toNat_of_isDigit hd
      omega

/-- **The items of a numeric text followed by `-` and a word**: the numbers, then the word read
as a qualifier with no digit after it, with the null items at the end dropped. -/
theorem items_spells_word {ns : List Nat} {a : List Char} (h : Spells ns a) {q : String}
    (hq : Word q) :
    items (String.ofList a ++ "-" ++ q) =
      dropNullTail (ns.map numberItem ++ [.qualifier (foldQualifier (Text.asciiLower q) false)]) := by
  have hrun : ∀ c ∈ q.toList.map Text.asciiLowerChar, isSeparator c = false ∧ c.isDigit = false := by
    intro c hc
    obtain ⟨d, hd, rfl⟩ := List.mem_map.1 hc
    exact asciiLowerChar_of_isAlpha (hq.2 d hd)
  -- the word is one token of letters, and its first letter makes it a qualifier
  have hword : Item.ofToken (q.toList.map Text.asciiLowerChar) false =
      .qualifier (foldQualifier (Text.asciiLower q) false) := by
    obtain ⟨c, l, hcl⟩ := List.exists_cons_of_ne_nil hq.1
    have hc := (hrun (Text.asciiLowerChar c) (by simp [hcl])).2
    unfold Item.ofToken
    rw [if_neg (by simp [hcl]), if_neg (by simp [hcl, hc])]
    rfl
  have hdash : ['-'].map Text.asciiLowerChar = ['-'] := by
    rw [List.map_singleton, asciiLowerChar_of_isSeparator (c := '-') rfl]
  rw [items_eq_foldl, String.toList_append, String.toList_append, String.toList_ofList,
    show "-".toList = ['-'] from rfl, List.map_append, List.map_append, map_asciiLowerChar_spells h,
    hdash, List.append_assoc, List.singleton_append, foldl_spells_sep h rfl,
    foldl_cutStep_run hrun [] _ (by simp), List.nil_append, cutFinish, if_neg (by simp [hq.1]), hword]
  simp

/-- What follows the numbers of a qualified numeric text among its items: nothing for the empty
qualifier, else the zeros the numbers end with and the qualifier. -/
def qualifiedTail (Z : List Item) (q : String) : List Item :=
  if q = "" then [] else Z ++ [.qualifier q]

/-- **The items of a numeric text with and without words after it** share their first part. -/
theorem items_spells_split {ns : List Nat} {a : List Char} (h : Spells ns a) :
    ∃ P Z : List Item, (∀ z ∈ Z, z.isNull = true) ∧ items (String.ofList a) = P ++ qualifiedTail Z "" ∧
      ∀ q, Word q → items (String.ofList a ++ "-" ++ q) =
        P ++ qualifiedTail Z (foldQualifier (Text.asciiLower q) false) := by
  refine ⟨dropNullTail (ns.map numberItem), (ns.map numberItem).rtakeWhile Item.isNull,
    fun z hz => List.mem_rtakeWhile_imp hz, ?_, ?_⟩
  · rw [items_spells h, qualifiedTail, if_pos rfl, List.append_nil]
  · intro q hq
    rw [items_spells_word h hq, qualifiedTail]
    split
    · -- the empty qualifier is dropped with the zeros before it
      rename_i hempty
      rw [hempty, List.append_nil, dropNullTail_eq_rdropWhile, List.rdropWhile_concat_pos _ _ _ rfl]
      rfl
    · rename_i hword
      rw [dropNullTail_eq_rdropWhile,
        List.rdropWhile_concat_neg _ _ _ (by simpa [Item.isNull] using hword),
        dropNullTail_eq_rdropWhile, ← List.append_assoc, List.rdropWhile_append_rtakeWhile]

/-- After the same zeros, the qualifier decides. -/
theorem compareItems_qualifiedTail {Z : List Item} (hZ : ∀ z ∈ Z, z.isNull = true)
    (q₁ q₂ : String) :
    compareItems (qualifiedTail Z q₁) (qualifiedTail Z q₂) =
      compareRank (qualifierRank q₁) (qualifierRank q₂) := by
  -- a qualifier after the zeros compares with the padding as with the empty qualifier
  have halone : ∀ q, compareItems (Z ++ [.qualifier q]) [] =
      compareRank (qualifierRank q) (qualifierRank "") := by
    intro q
    rw [compareItems_nulls_append hZ, compareItems, compareItems, thenCompare_eq_then,
      Ordering.then_eq]
    rfl
  unfold qualifiedTail
  by_cases h₁ : q₁ = "" <;> by_cases h₂ : q₂ = ""
  · subst h₁ h₂
    rw [if_pos rfl, compareItems]
    rfl
  · subst h₁
    rw [if_pos rfl, if_neg h₂, compareItems_swap, halone, ← Std.OrientedCmp.eq_swap]
  · subst h₂
    rw [if_neg h₁, if_pos rfl, halone]
  · rw [if_neg h₁, if_neg h₂, compareItems_append_left, compareItems, compareItems,
      thenCompare_eq_then, Ordering.then_eq]
    rfl

/-- **Numeric versions and qualified numeric versions.** Numeric texts compare as their lists of
numbers, lexicographically after the shorter list is padded with zeros. A numeric text followed
by `-` and a word of letters compares with the same text followed by another word as the folded
words do in the qualifier order, and with the bare text as its folded word does with the empty
qualifier. -/
theorem compare_numbersAndQualifiers {xs ys : List Nat} {a b : List Char} (ha : Spells xs a)
    (hb : Spells ys b) {q₁ q₂ : String} (hq₁ : Word q₁) (hq₂ : Word q₂) :
    Version.compare ⟨String.ofList a⟩ ⟨String.ofList b⟩ =
        Ord.compare (padZeros (max xs.length ys.length) xs) (padZeros (max xs.length ys.length) ys) ∧
      Version.compare ⟨String.ofList a ++ "-" ++ q₁⟩ ⟨String.ofList a ++ "-" ++ q₂⟩ =
        qualifierOrder (foldQualifier (Text.asciiLower q₁) false)
          (foldQualifier (Text.asciiLower q₂) false) ∧
      Version.compare ⟨String.ofList a ++ "-" ++ q₁⟩ ⟨String.ofList a⟩ =
        qualifierOrder (foldQualifier (Text.asciiLower q₁) false) "" := by
  obtain ⟨P, Z, hZ, hbare, hword⟩ := items_spells_split ha
  refine ⟨compare_spells ha hb, ?_, ?_⟩
  · show compareItems (items _) (items _) = _
    rw [hword q₁ hq₁, hword q₂ hq₂, compareItems_append_left, compareItems_qualifiedTail hZ,
      compareRank_qualifierRank]
  · show compareItems (items _) (items _) = _
    rw [hword q₁ hq₁, hbare, compareItems_append_left, compareItems_qualifiedTail hZ,
      compareRank_qualifierRank]

/-- `1.010` is above `1_9.0`, since ten is above nine; `1.010-RC` is below `1.010-Final`, which
is `1.010` itself. -/
theorem compare_numbersAndQualifiers_oneTen :
    Spells [1, 10] ['1', '.', '0', '1', '0'] ∧ Spells [1, 9, 0] ['1', '_', '9', '.', '0'] ∧
      Word "RC" ∧ Word "Final" ∧
      (Version.compare ⟨String.ofList ['1', '.', '0', '1', '0']⟩
            ⟨String.ofList ['1', '_', '9', '.', '0']⟩ =
          Ord.compare (padZeros (max [1, 10].length [1, 9, 0].length) [1, 10])
            (padZeros (max [1, 10].length [1, 9, 0].length) [1, 9, 0]) ∧
        Version.compare ⟨String.ofList ['1', '.', '0', '1', '0'] ++ "-" ++ "RC"⟩
            ⟨String.ofList ['1', '.', '0', '1', '0'] ++ "-" ++ "Final"⟩ =
          qualifierOrder (foldQualifier (Text.asciiLower "RC") false)
            (foldQualifier (Text.asciiLower "Final") false) ∧
        Version.compare ⟨String.ofList ['1', '.', '0', '1', '0'] ++ "-" ++ "RC"⟩
            ⟨String.ofList ['1', '.', '0', '1', '0']⟩ =
          qualifierOrder (foldQualifier (Text.asciiLower "RC") false) "") := by
  have ha : Spells [1, 10] ['1', '.', '0', '1', '0'] := Spells.cons 0 1 rfl (Spells.one 1 10)
  have hb : Spells [1, 9, 0] ['1', '_', '9', '.', '0'] :=
    Spells.cons 0 1 rfl (Spells.cons 0 9 rfl (Spells.one 0 0))
  have hrc : Word "RC" := by
    refine ⟨by decide, fun c hc => ?_⟩
    rw [show "RC".toList = ['R', 'C'] from rfl] at hc
    simp only [List.mem_cons, List.not_mem_nil, or_false] at hc
    rcases hc with rfl | rfl <;> rfl
  have hfinal : Word "Final" := by
    refine ⟨by decide, fun c hc => ?_⟩
    rw [show "Final".toList = ['F', 'i', 'n', 'a', 'l'] from rfl] at hc
    simp only [List.mem_cons, List.not_mem_nil, or_false] at hc
    rcases hc with rfl | rfl | rfl | rfl | rfl <;> rfl
  exact ⟨ha, hb, hrc, hfinal, compare_numbersAndQualifiers ha hb hrc hfinal⟩

end PinAudit.Version
