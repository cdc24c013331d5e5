import PinAudit.Proofs.ReadBack
import PinAudit.Proofs.JsonText
import PinAudit.Proofs.NumericVersions

/-!
# Pretty JSON read back

The value reader (`Json.parse`) reads back the pretty text the writer gives (`Value.pretty`):
`Json.parse (v.pretty 0) = .ok v.canonical` for every value whose numbers are integers the
reader keeps as such and whose arrays and objects nest less than the reader allows
(`parse_pretty`). What comes back is the value as a reader holds it, each object sorted by key
with a repeated key keeping its last value (`Value.canonical`).

The pretty layout puts whitespace where the compact one puts none: a line break and an
indentation before every item and member and before the closing bracket, and a blank after each
colon. Every reader of punctuation starts by skipping whitespace, so a blank word before what it
reads changes nothing (`SkipsBlanks`), and the reading lemmas of the compact layout carry over.
Numbers are read up to the first character that cannot go on with them (`NumberEnd`); in the
pretty layout a value is followed by a comma, a line break or the end of the text.
-/

namespace PinAudit.Json

/-! ### Readers that skip a blank word -/

theorem dropWhile_blank {a t : List Char} (ha : Blank a)
    (ht : ∀ y, t.head? = some y → isWs y = false) : (a ++ t).dropWhile isWs = t := by
  induction a with
  | nil =>
    cases t with
    | nil => rfl
    | cons y t => simp [ht y rfl]
  | cons x a ih =>
    rw [List.cons_append, List.dropWhile_cons, if_pos (ha x List.mem_cons_self)]
    exact ih fun c hc => ha c (List.mem_cons_of_mem x hc)

theorem skipWsFrom_blank {a t : List Char} (ha : Blank a)
    (ht : ∀ y, t.head? = some y → isWs y = false) {c : Cursor} (hc : c.rest = a ++ t) :
    (skipWsFrom c.rest c.line c.col).rest = t := by
  rw [skipWsFrom_rest, hc, dropWhile_blank ha ht]

/-- A reader **skips blanks** when, from a cursor whose characters are a blank word and then
a text that does not start with whitespace, it reads as from a cursor at that text. -/
def SkipsBlanks {α : Type} (r : Reader α) : Prop :=
  ∀ (c : Cursor) (a t : List Char), Blank a → (∀ y, t.head? = some y → isWs y = false) →
    c.rest = a ++ t → ∃ c₀ : Cursor, c₀.rest = t ∧ r c = r c₀

theorem SkipsBlanks.skipWs_bind {β : Type} (g : Option Char → Reader β) :
    SkipsBlanks (skipWs >>= g) := by
  intro c a t ha ht hc
  have hrest := skipWsFrom_blank ha ht hc
  refine ⟨skipWsFrom c.rest c.line c.col, hrest, ?_⟩
  rw [Json.skipWs_bind, Json.skipWs_bind]
  -- skipping again from where the first skip stopped stays there
  have hstay : ∀ X : Cursor, X.rest = t → skipWsFrom X.rest X.line X.col = X := by
    intro X hX
    cases ht' : t with
    | nil => obtain ⟨r, l, k⟩ := X; cases hX.trans ht'; rfl
    | cons y t' => exact skipWsFrom_of_head (hX.trans ht') (ht y (by rw [ht']; rfl))
  rw [hstay _ hrest]

theorem SkipsBlanks.bind {α β : Type} {m : Reader α} (hm : SkipsBlanks m) (f : α → Reader β) :
    SkipsBlanks (m >>= f) := by
  intro c a t ha ht hc
  obtain ⟨c₀, hc₀, heq⟩ := hm c a t ha ht hc
  refine ⟨c₀, hc₀, ?_⟩
  show (StateT.bind m f) c = (StateT.bind m f) c₀
  simp only [StateT.bind, heq]

/-- A reader that skips blanks reads a word after a blank word as it reads the word. -/
theorem Reads.blank {α : Type} {r : Reader α} {w : List Char} {x : α} (hr : SkipsBlanks r)
    (h : Reads r w x) (hw : ∀ y, w.head? = some y → isWs y = false) (hne : w ≠ [])
    {a : List Char} (ha : Blank a) : Reads r (a ++ w) x := by
  intro c rest hc
  obtain ⟨y, w', rfl⟩ := List.exists_cons_of_ne_nil hne
  obtain ⟨c₀, hc₀, heq⟩ := hr c a ((y :: w') ++ rest) ha (fun z hz => hw z (by simpa using hz))
    (by rw [hc, List.append_assoc])
  rw [heq]
  exact h c₀ rest hc₀

/-- The same up to a character that is not blank, left unread. -/
theorem ReadsBefore.blank {α : Type} {r : Reader α} {e : Char} {x : α} (hr : SkipsBlanks r)
    (h : ReadsBefore r [] e x) (he : isWs e = false) {a : List Char} (ha : Blank a) :
    ReadsBefore r a e x := by
  intro c rest hc
  obtain ⟨c₀, hc₀, heq⟩ := hr c a (e :: rest) ha (fun z hz => by cases hz; exact he) hc
  rw [heq]
  exact h c₀ rest hc₀

theorem skipsBlanks_nextItem (first : Bool) : SkipsBlanks (nextItem first) :=
  SkipsBlanks.skipWs_bind _

theorem skipsBlanks_nextKey (first : Bool) : SkipsBlanks (nextKey first) := by
  rw [nextKey]
  exact SkipsBlanks.skipWs_bind _

theorem skipsBlanks_valueAt (fuel depth : Nat) : SkipsBlanks (valueAt (fuel + 1) depth) := by
  rw [valueAt]
  exact SkipsBlanks.skipWs_bind _

/-! ### Numbers -/

/-- The text after a number: nothing, or a character that cannot go on with the number. -/
def NumberEnd (rest : List Char) : Prop :=
  ∀ y, rest.head? = some y → y.isDigit = false ∧ y ≠ '.' ∧ y ≠ 'e' ∧ y ≠ 'E'

/-- A reader **reads `w` to its end** as `x` when it does so before any text that cannot go on
with a number. -/
def ReadsEnd {α : Type} (r : Reader α) (w : List Char) (x : α) : Prop :=
  ∀ (c : Cursor) (rest : List Char), NumberEnd rest → c.rest = w ++ rest →
    ∃ c', r c = .ok (x, c') ∧ c'.rest = rest

theorem Reads.readsEnd {α : Type} {r : Reader α} {w : List Char} {x : α} (h : Reads r w x) :
    ReadsEnd r w x :=
  fun c rest _ hc => h c rest hc

theorem maxU64_eq : maxU64 = 18446744073709551615 := by decide

/-- The reader gives up on integer digits exactly when the next one would pass `maxU64`. -/
theorem overflow_iff (s d : Nat) (hd : d < 10) :
    (s ≥ maxU64 / 10 && (s > maxU64 / 10 || d > maxU64 % 10)) = true ↔ maxU64 < s * 10 + d := by
  rw [maxU64_eq]
  simp only [Bool.and_eq_true, decide_eq_true_eq, Bool.or_eq_true]
  omega

theorem le_ofDigitChars (ds : List Char) (s : Nat) : s ≤ Nat.ofDigitChars 10 ds s := by
  rw [Nat.ofDigitChars_eq_ofDigitChars_zero]
  have h : 1 ≤ 10 ^ ds.length := Nat.one_le_pow _ _ (by decide)
  calc s = 1 * s := (Nat.one_mul s).symm
    _ ≤ 10 ^ ds.length * s := Nat.mul_le_mul_right s h
    _ ≤ _ := Nat.le_add_right _ _

theorem digit_lt_ten {x : Char} (hx : x.isDigit = true) : x.toNat - 48 < 10 := by
  simp only [Char.isDigit, Bool.and_eq_true, decide_eq_true_eq] at hx
  have h₁ : x.val.toNat ≤ '9'.val.toNat := UInt32.le_iff_toNat_le.1 hx.2
  have h₉ : '9'.val.toNat = 57 := rfl
  change x.val.toNat - 48 < 10
  omega

/-- Integer digits are read while they come, their value kept below `maxU64`; what follows is
left to `afterInteger`. -/
theorem integerDigits_digits (positive : Bool) {rest : List Char} (hend : NumberEnd rest) :
    ∀ (ds : List Char) (fuel s : Nat) (c : Cursor), (∀ x ∈ ds, x.isDigit = true) →
      ds.length ≤ fuel → Nat.ofDigitChars 10 ds s ≤ maxU64 → c.rest = ds ++ rest →
      ∃ c', c'.rest = rest ∧
        integerDigits positive fuel s c = afterInteger positive (Nat.ofDigitChars 10 ds s) c'
  | [], 0, s, c, _, _, _, hc => ⟨c, hc, rfl⟩
  | [], fuel + 1, s, c, _, _, _, hc => by
    refine ⟨c, hc, ?_⟩
    simp only [integerDigits, peek_bind, Nat.ofDigitChars_nil]
    cases hr : c.rest.head? with
    | none => rfl
    | some y =>
      rw [hc] at hr
      simp only [(hend y hr).1, Bool.false_eq_true, if_false]
  | x :: ds, fuel + 1, s, c, hds, hlen, hval, hc => by
    have hx : x.isDigit = true := hds x List.mem_cons_self
    have hstep : Nat.ofDigitChars 10 (x :: ds) s = Nat.ofDigitChars 10 ds (s * 10 + (x.toNat - 48)) := by
      rw [Nat.ofDigitChars_cons, Nat.mul_comm]
      rfl
    -- every value on the way is below the final one, so the reader never gives up
    have hkeep : ¬ maxU64 < s * 10 + (x.toNat - 48) := by
      have := le_ofDigitChars ds (s * 10 + (x.toNat - 48))
      omega
    have hrest : c.bump.rest = ds ++ rest := by rw [Cursor.bump_rest, hc]; rfl
    obtain ⟨c', hc', heq⟩ := integerDigits_digits positive hend ds fuel (s * 10 + (x.toNat - 48))
      c.bump (fun y hy => hds y (List.mem_cons_of_mem x hy)) (by simpa using hlen)
      (hstep ▸ hval) hrest
    refine ⟨c', hc', ?_⟩
    rw [hstep, ← heq]
    simp only [integerDigits, peek_bind, hc, List.cons_append, List.head?_cons, hx, if_true]
    rw [if_neg (fun h => hkeep ((overflow_iff _ _ (digit_lt_ten hx)).1 h))]
    rfl

theorem afterInteger_nat (s : Nat) {c : Cursor} (hc : NumberEnd c.rest) :
    afterInteger true s c = .ok (.nat s, c) := by
  simp only [afterInteger, peek_bind]
  cases hr : c.rest.head? with
  | none => rfl
  | some y =>
    obtain ⟨-, h₁, h₂, h₃⟩ := hc y hr
    split <;> simp_all

/-- A minus sign and digits give a negative integer while its magnitude fits in 64 bits. -/
theorem afterInteger_neg {s : Nat} (hpos : 0 < s) (hs : s ≤ Nat.pow 2 63) {c : Cursor}
    (hc : NumberEnd c.rest) : afterInteger false s c = .ok (.neg (-(s : Int)), c) := by
  have hsmall : (s == 0 || s > Nat.pow 2 63) = false := by
    simp only [Bool.or_eq_false_iff, beq_eq_false_iff_ne, decide_eq_false_iff_not]
    omega
  simp only [afterInteger, peek_bind]
  cases hr : c.rest.head? with
  | none => simp only [hsmall]; rfl
  | some y =>
    obtain ⟨-, h₁, h₂, h₃⟩ := hc y hr
    split
    all_goals (try simp_all)
    -- only the case of a number that ends here is left
    rw [if_neg (Nat.not_lt.2 hs)]
    rfl

/-- The digits of a number up to `maxU64`, read as such and left to `afterInteger`. -/
theorem number_digits (positive : Bool) {n : Nat} (hn : n ≤ maxU64) {rest : List Char}
    (hend : NumberEnd rest) (c : Cursor) (hc : c.rest = Nat.toDigits 10 n ++ rest) :
    ∃ c', c'.rest = rest ∧ number positive c = afterInteger positive n c' := by
  have hrest : ∀ y ys, c.rest = y :: ys ++ rest → c.bump.rest = ys ++ rest := by
    intro y ys h
    rw [Cursor.bump_rest, h]
    rfl
  rcases Nat.eq_zero_or_pos n with rfl | hpos
  · -- a zero stands alone: a digit after it is an error the end of the number rules out
    have hc0 : c.rest = '0' :: rest := hc
    refine ⟨c.bump, hrest '0' [] hc0, ?_⟩
    simp only [number, peek_bind, hc0, List.head?_cons, beq_self_eq_true, if_true, bump_bind]
    rw [hrest '0' [] hc0, List.nil_append]
    cases hr : rest.head? with
    | none => rfl
    | some y => simp only [(hend y hr).1, Bool.false_eq_true, if_false]
  · obtain ⟨x, ds, hxds⟩ := List.exists_cons_of_ne_nil (Nat.toDigits_ne_nil (n := n) (b := 10))
    have hx : x.isDigit = true := Version.isDigit_of_mem_repr (hxds ▸ List.mem_cons_self)
    have hx0 : x ≠ '0' := fun h => Version.toDigits_ne_zero_cons hpos ds (h ▸ hxds)
    have hval : Nat.ofDigitChars 10 ds (x.toNat - 48) = n := by
      have h := @Nat.ofDigitChars_ten_toDigits n
      rw [hxds, Nat.ofDigitChars_cons] at h
      simpa using h
    have hc' : c.rest = x :: ds ++ rest := by rw [hc, hxds]
    obtain ⟨c', hc'', heq⟩ := integerDigits_digits positive hend ds (c.bump.rest.length + 1)
      (x.toNat - 48) c.bump
      (fun y hy => Version.isDigit_of_mem_repr (hxds ▸ List.mem_cons_of_mem x hy))
      (by rw [hrest x ds hc', List.length_append]; omega) (hval ▸ hn) (hrest x ds hc')
    refine ⟨c', hc'', ?_⟩
    rw [← hval, ← heq]
    simp only [number, peek_bind, hc', List.cons_append, List.head?_cons, beq_iff_eq, hx0,
      if_false, hx, if_true, bump_bind, get_bind]

/-! ### Scalars -/

/-- A number the reader gives back as written: an integer in the range it keeps as one. -/
def Number.Integral : Number → Prop
  | .nat n => n ≤ maxU64
  | .neg i => i < 0 ∧ i.natAbs ≤ Nat.pow 2 63
  | .double _ => False

/-- A value starting with a character other than a bracket is read by `scalar`. -/
theorem valueAt_of_scalar {x : Char} {w : List Char} {v : Value} (h₁ : x ≠ '[') (h₂ : x ≠ '{')
    (hws : isWs x = false) (h : ReadsEnd (scalar x) (x :: w) v) (fuel depth : Nat) :
    ReadsEnd (valueAt (fuel + 1) depth) (x :: w) v := by
  intro c rest hend hc
  obtain ⟨c', hread, hc'⟩ := h c rest hend hc
  refine ⟨c', ?_, hc'⟩
  rw [valueAt, skipWs_bind, skipWsFrom_of_head hc hws, hc, List.cons_append, List.head?_cons]
  generalize ho : (some x : Option Char) = o
  split
  · cases ho
  · cases ho; exact absurd rfl h₁
  · cases ho; exact absurd rfl h₂
  · cases ho; exact hread

theorem scalar_null : ReadsEnd (scalar 'n') ['n', 'u', 'l', 'l'] .null :=
  Reads.readsEnd (Reads.bind (Reads.bump 'n') (Reads.bind (literal_reads _) (Reads.pure _) rfl) rfl)

theorem scalar_true : ReadsEnd (scalar 't') ['t', 'r', 'u', 'e'] (.bool true) :=
  Reads.readsEnd (Reads.bind (Reads.bump 't') (Reads.bind (literal_reads _) (Reads.pure _) rfl) rfl)

theorem scalar_false : ReadsEnd (scalar 'f') ['f', 'a', 'l', 's', 'e'] (.bool false) :=
  Reads.readsEnd (Reads.bind (Reads.bump 'f') (Reads.bind (literal_reads _) (Reads.pure _) rfl) rfl)

theorem scalar_str (s : String) : ReadsEnd (scalar '"') (quote s).toList (.str s) := by
  rw [quote_toList]
  exact Reads.readsEnd (Reads.bind (Reads.bump '"')
    (Reads.bind (string_reads s) (Reads.pure _) (List.append_nil _).symm) rfl)

theorem ne_of_isDigit {x y : Char} (hx : x.isDigit = true) (hy : y.isDigit = false) : x ≠ y := by
  rintro rfl
  simp_all

/-- The digits of a number up to `maxU64`. -/
theorem scalar_nat {n : Nat} (hn : n ≤ maxU64) {x : Char} {ds : List Char}
    (hxds : Nat.toDigits 10 n = x :: ds) : ReadsEnd (scalar x) (x :: ds) (.num (.nat n)) := by
  intro c rest hend hc
  have hx : x.isDigit = true := Version.isDigit_of_mem_repr (hxds ▸ List.mem_cons_self)
  obtain ⟨c', hc', heq⟩ := number_digits true hn hend c (by rw [hc, hxds])
  refine ⟨c', ?_, hc'⟩
  have hscalar : scalar x = (number true >>= fun p => pure (Value.num p.toNumber)) := by
    rw [scalar]
    split
    -- the literal cases are ruled out by the digit
    all_goals first
      | rfl
      | (rintro rfl; simp at hx)
  rw [hscalar, Reader.bind_of_ok (heq.trans (afterInteger_nat n (hc' ▸ hend)))]
  rfl

/-- A minus sign and the digits of a magnitude from 1 to 2^63. -/
theorem scalar_neg {m : Nat} (hpos : 0 < m) (hm : m ≤ Nat.pow 2 63) :
    ReadsEnd (scalar '-') ('-' :: Nat.toDigits 10 m) (.num (.neg (-(m : Int)))) := by
  intro c rest hend hc
  have hm64 : m ≤ maxU64 := by rw [maxU64_eq]; simp only [Nat.pow_eq] at hm; omega
  have hb : c.bump.rest = Nat.toDigits 10 m ++ rest := by rw [Cursor.bump_rest, hc]; rfl
  obtain ⟨c', hc', heq⟩ := number_digits false hm64 hend c.bump hb
  refine ⟨c', ?_, hc'⟩
  show (bump >>= fun _ => number false >>= fun p => pure (Value.num p.toNumber)) c = _
  rw [bump_bind, Reader.bind_of_ok (heq.trans (afterInteger_neg hpos hm (hc' ▸ hend)))]
  rfl

/-! ### Punctuation after blanks -/

theorem ReadsEnd.blank {α : Type} {r : Reader α} {w : List Char} {x : α} (hr : SkipsBlanks r)
    (h : ReadsEnd r w x) (hw : ∀ y, w.head? = some y → isWs y = false) (hne : w ≠ [])
    {a : List Char} (ha : Blank a) : ReadsEnd r (a ++ w) x := by
  intro c rest hend hc
  obtain ⟨y, w', rfl⟩ := List.exists_cons_of_ne_nil hne
  obtain ⟨c₀, hc₀, heq⟩ := hr c a ((y :: w') ++ rest) ha (fun z hz => hw z (by simpa using hz))
    (by rw [hc, List.append_assoc])
  rw [heq]
  exact h c₀ rest hend hc₀

/-- What reads to the end of a number reads up to a character that cannot go on with it. -/
theorem ReadsEnd.before {α : Type} {r : Reader α} {w : List Char} {x : α} (h : ReadsEnd r w x)
    {e : Char} (he : NumberEnd [e]) : ReadsBefore r w e x :=
  fun c rest hc => h c (e :: rest) (fun y hy => he y hy) hc

theorem enterLevel_reads {depth : Nat} (hd : 1 < depth) (o : Char) :
    Reads (enterLevel depth) [o] () := by
  intro c rest hc
  rw [enterLevel, if_neg (Nat.not_le.2 hd)]
  exact Reads.bump o c rest hc

/-- The first item of an array, after blanks, not read. -/
theorem nextItem_first_blank {e : Char} (h₁ : e ≠ ']') (h₂ : e ≠ ',') (hws : isWs e = false)
    {a : List Char} (ha : Blank a) : ReadsBefore (nextItem true) a e true := by
  refine ReadsBefore.blank (skipsBlanks_nextItem true) ?_ hws ha
  intro c rest hc
  refine ⟨c, ?_, hc⟩
  rw [nextItem, skipWs_bind, skipWsFrom_of_head hc hws, hc, List.nil_append, List.head?_cons]
  generalize ho : (some e : Option Char) = o
  split
  · cases ho; exact absurd rfl h₁
  · cases ho; exact absurd rfl h₂
  · rfl
  · cases ho

/-- An item after a comma and blanks, not read. -/
theorem nextItem_comma_blank {e : Char} (h₁ : e ≠ ']') (hws : isWs e = false) {a : List Char}
    (ha : Blank a) : ReadsBefore (nextItem false) (',' :: a) e true := by
  intro c rest hc
  have hb : c.bump.rest = a ++ e :: rest := by rw [Cursor.bump_rest, hc]; rfl
  have hskip := skipWsFrom_blank ha (fun y hy => by cases hy; exact hws) hb
  refine ⟨_, ?_, hskip⟩
  rw [nextItem, skipWs_bind, skipWsFrom_of_head hc rfl, hc]
  simp only [List.cons_append, List.head?_cons, Bool.false_eq_true, if_false, bump_bind]
  rw [skipWs_bind, hskip, List.head?_cons]
  generalize ho : (some e : Option Char) = o
  split
  · cases ho; exact absurd rfl h₁
  · rfl
  · cases ho

/-- The key of the next member after a comma and blanks. -/
theorem nextKey_comma_blank (k : String) {a : List Char} (ha : Blank a) :
    Reads (nextKey false) (',' :: a ++ (quote k).toList) (some k) := by
  intro c rest hc
  have hq : (quote k).toList ++ rest = '"' :: (k.toList.flatMap escapeChar ++ ['"'] ++ rest) := by
    rw [quote_toList]; rfl
  have hb : c.bump.rest = a ++ ((quote k).toList ++ rest) := by
    rw [Cursor.bump_rest, hc]; simp
  have hskip := skipWsFrom_blank ha (fun y hy => by rw [hq] at hy; cases hy; rfl) hb
  rw [hq] at hskip
  rw [nextKey, skipWs_bind, skipWsFrom_of_head hc rfl, hc]
  simp only [List.cons_append, List.head?_cons, Bool.false_eq_true, if_false, bump_bind]
  rw [skipWs_bind, hskip]
  simp only [List.head?_cons, pure_bind, bump_bind]
  exact (Reads.bind (f := fun s => pure (some s)) (string_reads k) (Reads.pure (some k)) rfl)
    _ rest (by rw [Cursor.bump_rest, hskip]; simp)

/-! ### Items and members -/

theorem itemsAt_item {fuel depth : Nat} {first : Bool} {acc : List Value}
    {w w₁ w₂ : List Char} {e e' : Char} {v : Value} {r : List Value}
    (h₁ : ReadsBefore (nextItem first) w e true)
    (h₂ : ReadsBefore (valueAt fuel depth) (e :: w₁) e' v)
    (h₃ : ReadsBefore (itemsAt fuel depth false (v :: acc)) (e' :: w₂) ']' r) {W : List Char}
    (hw : W = w ++ e :: (w₁ ++ e' :: w₂)) : ReadsBefore (itemsAt (fuel + 1) depth first acc) W ']' r := by
  subst hw
  rw [itemsAt]
  exact h₁.bind_before (h₂.bind_before h₃ rfl) rfl

theorem itemsAt_end {fuel depth : Nat} {first : Bool} {acc : List Value} {w : List Char}
    (h : ReadsBefore (nextItem first) w ']' false) :
    ReadsBefore (itemsAt (fuel + 1) depth first acc) w ']' acc.reverse := by
  rw [itemsAt]
  exact h.bind_stay (ReadsBefore.pure _ _)

theorem fieldsAt_member {fuel depth : Nat} {first : Bool} {acc : List (String × Value)}
    {w₀ w₁ w₂ : List Char} {e' : Char} {k : String} {v : Value} {r : List (String × Value)}
    (h₁ : Reads (nextKey first) w₀ (some k)) (h₂ : ReadsBefore (valueAt fuel depth) w₁ e' v)
    (h₃ : ReadsBefore (fieldsAt fuel depth false (Value.insertSorted k v acc)) (e' :: w₂) '}' r)
    {W : List Char} (hw : W = w₀ ++ ':' :: (w₁ ++ e' :: w₂)) :
    ReadsBefore (fieldsAt (fuel + 1) depth first acc) W '}' r := by
  subst hw
  rw [fieldsAt]
  exact h₁.bind_before (Reads.bind_before colon_reads (h₂.bind_before h₃ rfl) rfl) rfl

theorem fieldsAt_end {fuel depth : Nat} {first : Bool} {acc : List (String × Value)}
    {w : List Char} (h : ReadsBefore (nextKey first) w '}' none) :
    ReadsBefore (fieldsAt (fuel + 1) depth first acc) w '}' acc := by
  rw [fieldsAt]
  exact h.bind_stay (ReadsBefore.pure _ _)

theorem nextKey_end_first : ReadsBefore (nextKey true) [] '}' none := by
  intro c rest hc
  refine ⟨c, ?_, hc⟩
  rw [nextKey, skipWs_bind, skipWsFrom_of_head hc rfl, hc]
  rfl

theorem valueAt_arr {fuel depth : Nat} {w : List Char} {items : List Value} (hd : 1 < depth)
    (h : ReadsBefore (itemsAt fuel (depth - 1) true []) w ']' items) :
    Reads (valueAt (fuel + 1) depth) ('[' :: (w ++ [']'])) (.arr items) := by
  intro c rest hc
  rw [valueAt, skipWs_bind, skipWsFrom_of_head hc rfl, hc]
  exact (Reads.bind (enterLevel_reads hd '[')
    (h.bind (Reads.bind (f := fun _ => pure (Value.arr items)) closeArray_reads
      (Reads.pure _) rfl) rfl) rfl) c rest hc

theorem valueAt_obj {fuel depth : Nat} {w : List Char} {fields : List (String × Value)}
    (hd : 1 < depth) (h : ReadsBefore (fieldsAt fuel (depth - 1) true []) w '}' fields) :
    Reads (valueAt (fuel + 1) depth) ('{' :: (w ++ ['}'])) (.obj fields) := by
  intro c rest hc
  rw [valueAt, skipWs_bind, skipWsFrom_of_head hc rfl, hc]
  exact (Reads.bind (enterLevel_reads hd '{')
    (h.bind (Reads.bind (f := fun _ => pure (Value.obj fields)) closeObject_reads
      (Reads.pure _) rfl) rfl) rfl) c rest hc

/-! ### The pretty layout -/

theorem blank_indent (level : Nat) : Blank (indent level).toList := by
  intro c hc
  have hrep : (indent level).toList = List.replicate (2 * level) ' ' := by
    show (String.ofList (List.replicate (2 * level) ' ')).toList = _
    simp
  rw [hrep, List.mem_replicate] at hc
  rw [hc.2]
  rfl

theorem length_indent (level : Nat) : (indent level).toList.length = 2 * level := by
  show (String.ofList (List.replicate (2 * level) ' ')).toList.length = _
  simp

theorem blank_newline {a : List Char} (ha : Blank a) : Blank ('\n' :: a) := by
  intro c hc
  rcases List.mem_cons.1 hc with rfl | hc
  · rfl
  · exact ha c hc

theorem numberEnd_single {e : Char} (h : e.isDigit = false ∧ e ≠ '.' ∧ e ≠ 'e' ∧ e ≠ 'E') :
    NumberEnd [e] := by
  intro y hy
  cases hy
  exact h

theorem isWs_of_isDigit {x : Char} (hx : x.isDigit = true) : isWs x = false := by
  cases hws : isWs x with
  | false => rfl
  | true =>
    simp only [isWs, Bool.or_eq_true, beq_iff_eq] at hws
    rcases hws with ((rfl | rfl) | rfl) | rfl <;> simp at hx

namespace Value

mutual

/-- **A value the reader gives back as written**: every number in it integral. -/
def Integral : Value → Prop
  | .num n => n.Integral
  | .arr vs => ItemsIntegral vs
  | .obj fs => MembersIntegral fs
  | _ => True

/-- Every item integral. -/
def ItemsIntegral : List Value → Prop
  | [] => True
  | v :: vs => v.Integral ∧ ItemsIntegral vs

/-- Every member's value integral. -/
def MembersIntegral : List (String × Value) → Prop
  | [] => True
  | (_, v) :: fs => v.Integral ∧ MembersIntegral fs

end

theorem pretty_null (level : Nat) : (null.pretty level).toList = ['n', 'u', 'l', 'l'] := by
  show ("null" : String).toList = _
  rfl

theorem pretty_true (level : Nat) : ((bool true).pretty level).toList = ['t', 'r', 'u', 'e'] := by
  show ("true" : String).toList = _
  rfl

theorem pretty_false (level : Nat) :
    ((bool false).pretty level).toList = ['f', 'a', 'l', 's', 'e'] := by
  show ("false" : String).toList = _
  rfl

theorem pretty_nat (level n : Nat) : ((num (.nat n)).pretty level).toList = Nat.toDigits 10 n := by
  show (toString n).toList = _
  rw [Nat.toString_eq_repr, Nat.toList_repr]

theorem pretty_neg (level : Nat) {i : Int} (hi : i < 0) :
    ((num (.neg i)).pretty level).toList = '-' :: Nat.toDigits 10 i.natAbs := by
  show (toString i).toList = _
  have hmag : (-i).toNat = i.natAbs := by omega
  rw [Int.toString_eq_repr, Int.repr_eq_if, if_neg (Int.not_le.2 hi), hmag]
  simp [Nat.toList_repr]

theorem pretty_arr_nil (level : Nat) : ((arr []).pretty level).toList = ['[', ']'] := by
  show ("[]" : String).toList = _
  rfl

theorem pretty_obj_nil (level : Nat) : ((obj []).pretty level).toList = ['{', '}'] := by
  show ("\x7b\x7d" : String).toList = _
  rfl

theorem pretty_arr_cons (level : Nat) (x : Value) (xs : List Value) :
    ((arr (x :: xs)).pretty level).toList =
      '[' :: '\n' :: ((prettyItems (level + 1) (x :: xs)).toList ++
        '\n' :: (indent level).toList) ++ [']'] := by
  show ("[\n" ++ prettyItems (level + 1) (x :: xs) ++ "\n" ++ indent level ++ "]").toList = _
  simp

theorem pretty_obj_cons (level : Nat) (m : String × Value) (fs : List (String × Value)) :
    ((obj (m :: fs)).pretty level).toList =
      '{' :: '\n' :: ((prettyFields (level + 1) (m :: fs)).toList ++
        '\n' :: (indent level).toList) ++ ['}'] := by
  show ("\x7b\n" ++ prettyFields (level + 1) (m :: fs) ++ "\n" ++ indent level ++
    "\x7d").toList = _
  simp

theorem prettyItems_single (level : Nat) (x : Value) :
    (prettyItems level [x]).toList = (indent level).toList ++ (x.pretty level).toList := by
  show (indent level ++ x.pretty level).toList = _
  simp

theorem prettyItems_cons_cons (level : Nat) (x y : Value) (ys : List Value) :
    (prettyItems level (x :: y :: ys)).toList = (indent level).toList ++
      (x.pretty level).toList ++ ',' :: '\n' :: (prettyItems level (y :: ys)).toList := by
  show (indent level ++ x.pretty level ++ ",\n" ++ prettyItems level (y :: ys)).toList = _
  simp

theorem prettyFields_single (level : Nat) (k : String) (v : Value) :
    (prettyFields level [(k, v)]).toList =
      (indent level).toList ++ (quote k).toList ++ ':' :: ' ' :: (v.pretty level).toList := by
  show (indent level ++ quote k ++ ": " ++ v.pretty level).toList = _
  simp

theorem prettyFields_cons_cons (level : Nat) (k : String) (v : Value) (m : String × Value)
    (ms : List (String × Value)) :
    (prettyFields level ((k, v) :: m :: ms)).toList =
      (indent level).toList ++ (quote k).toList ++ ':' :: ' ' :: (v.pretty level).toList ++
        ',' :: '\n' :: (prettyFields level (m :: ms)).toList := by
  show (indent level ++ quote k ++ ": " ++ v.pretty level ++ ",\n" ++
    prettyFields level (m :: ms)).toList = _
  simp

/-- The pretty text of a value starts with the character that tells the reader what comes. -/
theorem pretty_head {v : Value} (hv : v.Integral) (level : Nat) :
    ∃ e w, (v.pretty level).toList = e :: w ∧ isWs e = false ∧ e ≠ ']' ∧ e ≠ ',' := by
  match v, hv with
  | .null, _ => exact ⟨'n', _, pretty_null level, rfl, by decide, by decide⟩
  | .bool true, _ => exact ⟨'t', _, pretty_true level, rfl, by decide, by decide⟩
  | .bool false, _ => exact ⟨'f', _, pretty_false level, rfl, by decide, by decide⟩
  | .num (.nat n), _ =>
    obtain ⟨x, ds, hxds⟩ := List.exists_cons_of_ne_nil (Nat.toDigits_ne_nil (n := n) (b := 10))
    have hx : x.isDigit = true := Version.isDigit_of_mem_repr (hxds ▸ List.mem_cons_self)
    exact ⟨x, ds, (pretty_nat level n).trans hxds, isWs_of_isDigit hx,
      ne_of_isDigit hx (by decide), ne_of_isDigit hx (by decide)⟩
  | .num (.neg i), hv => exact ⟨'-', _, pretty_neg level hv.1, rfl, by decide, by decide⟩
  | .str s, _ => exact ⟨'"', _, quote_toList s, rfl, by decide, by decide⟩
  | .arr [], _ => exact ⟨'[', _, pretty_arr_nil level, rfl, by decide, by decide⟩
  | .arr (x :: xs), _ => exact ⟨'[', _, pretty_arr_cons level x xs, rfl, by decide, by decide⟩
  | .obj [], _ => exact ⟨'{', _, pretty_obj_nil level, rfl, by decide, by decide⟩
  | .obj (m :: fs), _ => exact ⟨'{', _, pretty_obj_cons level m fs, rfl, by decide, by decide⟩

/-! ### Reading the pretty text back -/

theorem blank_space : Blank [' '] := by
  intro c hc
  rw [List.mem_singleton] at hc
  rw [hc]
  rfl

/-- Before an item: a comma unless it is the first, then a line break and the indent. -/
theorem nextItem_indent (first : Bool) {e : Char} (h₁ : e ≠ ']') (h₂ : e ≠ ',')
    (hws : isWs e = false) (level : Nat) :
    ReadsBefore (nextItem first) ((if first then [] else [',']) ++ '\n' :: (indent level).toList)
      e true := by
  cases first
  · exact nextItem_comma_blank h₁ hws (blank_newline (blank_indent level))
  · exact nextItem_first_blank h₁ h₂ hws (blank_newline (blank_indent level))

/-- Before a member: a comma unless it is the first, a line break, the indent and the key. -/
theorem nextKey_indent (first : Bool) (k : String) (level : Nat) :
    Reads (nextKey first)
      ((if first then [] else [',']) ++ '\n' :: ((indent level).toList ++ (quote k).toList))
      (some k) := by
  cases first
  · exact nextKey_comma_blank k (blank_newline (blank_indent level))
  · exact Reads.blank (skipsBlanks_nextKey true) (nextKey_first k)
      (fun y hy => by rw [quote_toList] at hy; cases hy; rfl) (by simp [quote_toList])
      (blank_newline (blank_indent level))

/-- A member's value after the blank that follows its colon. -/
theorem ReadsEnd.after_space {fuel depth : Nat} {e : Char} {w : List Char} {x : Value}
    (h : ReadsEnd (valueAt (fuel + 1) depth) (e :: w) x) (hws : isWs e = false) {y : Char}
    (hy : NumberEnd [y]) : ReadsBefore (valueAt (fuel + 1) depth) (' ' :: e :: w) y x :=
  (ReadsEnd.blank (skipsBlanks_valueAt fuel depth) h (fun z hz => by cases hz; exact hws)
    (List.cons_ne_nil e w) blank_space).before hy

mutual

/-- **A value's pretty text reads back** as the value a reader holds for it, given fuel beyond
the text's length and nesting allowed beyond the value's depth. -/
theorem valueAt_pretty : ∀ (v : Value) (fuel depth level : Nat), v.Integral → v.depth < depth →
    (v.pretty level).toList.length < fuel →
    ReadsEnd (valueAt fuel depth) (v.pretty level).toList v.canonical
  | .null, fuel, depth, level, _, _, hlen => by
    obtain ⟨f, rfl⟩ : ∃ f, fuel = f + 1 := ⟨fuel - 1, by omega⟩
    rw [pretty_null]
    exact valueAt_of_scalar (by decide) (by decide) rfl scalar_null f depth
  | .bool true, fuel, depth, level, _, _, hlen => by
    obtain ⟨f, rfl⟩ : ∃ f, fuel = f + 1 := ⟨fuel - 1, by omega⟩
    rw [pretty_true]
    exact valueAt_of_scalar (by decide) (by decide) rfl scalar_true f depth
  | .bool false, fuel, depth, level, _, _, hlen => by
    obtain ⟨f, rfl⟩ : ∃ f, fuel = f + 1 := ⟨fuel - 1, by omega⟩
    rw [pretty_false]
    exact valueAt_of_scalar (by decide) (by decide) rfl scalar_false f depth
  | .num (.nat n), fuel, depth, level, hv, _, hlen => by
    obtain ⟨f, rfl⟩ : ∃ f, fuel = f + 1 := ⟨fuel - 1, by omega⟩
    obtain ⟨x, ds, hxds⟩ := List.exists_cons_of_ne_nil (Nat.toDigits_ne_nil (n := n) (b := 10))
    have hx : x.isDigit = true := Version.isDigit_of_mem_repr (hxds ▸ List.mem_cons_self)
    rw [pretty_nat, hxds]
    exact valueAt_of_scalar (ne_of_isDigit hx (by decide)) (ne_of_isDigit hx (by decide))
      (isWs_of_isDigit hx) (scalar_nat hv hxds) f depth
  | .num (.neg i), fuel, depth, level, hv, _, hlen => by
    obtain ⟨f, rfl⟩ : ∃ f, fuel = f + 1 := ⟨fuel - 1, by omega⟩
    obtain ⟨hneg, hmag⟩ : i < 0 ∧ i.natAbs ≤ Nat.pow 2 63 := hv
    have hread := scalar_neg (m := i.natAbs) (by omega) hmag
    rw [show -((i.natAbs : Nat) : Int) = i by omega] at hread
    rw [pretty_neg level hneg]
    exact valueAt_of_scalar (by decide) (by decide) rfl hread f depth
  | .num (.double _), _, _, _, hv, _, _ => (hv : False).elim
  | .str s, fuel, depth, level, _, _, hlen => by
    obtain ⟨f, rfl⟩ : ∃ f, fuel = f + 1 := ⟨fuel - 1, by omega⟩
    have hread := scalar_str s
    show ReadsEnd _ (quote s).toList _
    rw [quote_toList] at hread ⊢
    exact valueAt_of_scalar (by decide) (by decide) rfl hread f depth
  | .arr [], fuel, depth, level, _, hd, hlen => by
    rw [pretty_arr_nil] at hlen ⊢
    obtain ⟨f, rfl⟩ : ∃ f, fuel = f + 2 := ⟨fuel - 2, by simp at hlen; omega⟩
    have hd' : 1 < depth := hd
    exact Reads.readsEnd (valueAt_arr (w := []) hd' (itemsAt_end (nextItem_end true)))
  | .obj [], fuel, depth, level, _, hd, hlen => by
    rw [pretty_obj_nil] at hlen ⊢
    obtain ⟨f, rfl⟩ : ∃ f, fuel = f + 2 := ⟨fuel - 2, by simp at hlen; omega⟩
    have hd' : 1 < depth := hd
    exact Reads.readsEnd (valueAt_obj (w := []) hd' (fieldsAt_end nextKey_end_first))
  | .arr (x :: xs), fuel, depth, level, hv, hd, hlen => by
    rw [pretty_arr_cons] at hlen ⊢
    obtain ⟨f, rfl⟩ : ∃ f, fuel = f + 1 := ⟨fuel - 1, by omega⟩
    have hd' : itemsDepth (x :: xs) + 1 < depth := hd
    simp only [List.length_cons, List.length_append] at hlen
    -- the items, between the opening bracket and the blanks before the closing one
    have hitems := itemsAt_pretty (x :: xs) f (depth - 1) (level + 1) true []
      (indent level).toList (List.cons_ne_nil x xs) hv (by omega) (Nat.succ_pos level)
      (by omega) (blank_indent level)
    simp only [if_true, List.nil_append, List.reverse_nil] at hitems
    exact Reads.readsEnd (valueAt_arr (by omega) hitems)
  | .obj ((k, v) :: fs), fuel, depth, level, hv, hd, hlen => by
    rw [pretty_obj_cons] at hlen ⊢
    obtain ⟨f, rfl⟩ : ∃ f, fuel = f + 1 := ⟨fuel - 1, by omega⟩
    have hd' : membersDepth ((k, v) :: fs) + 1 < depth := hd
    simp only [List.length_cons, List.length_append] at hlen
    have hfields := fieldsAt_pretty ((k, v) :: fs) f (depth - 1) (level + 1) true []
      (indent level).toList (List.cons_ne_nil _ fs) hv (by omega) (Nat.succ_pos level)
      (by omega) (blank_indent level)
    simp only [if_true, List.nil_append] at hfields
    exact Reads.readsEnd (valueAt_obj (by omega) hfields)

/-- **Items read back**, from the line break before the first, or the comma before it, to the
blanks before the closing bracket. -/
theorem itemsAt_pretty : ∀ (xs : List Value) (fuel depth level : Nat) (first : Bool)
    (acc : List Value) (b : List Char), xs ≠ [] → ItemsIntegral xs → itemsDepth xs < depth →
    0 < level → (prettyItems level xs).toList.length < fuel → Blank b →
    ReadsBefore (itemsAt fuel depth first acc)
      ((if first then [] else [',']) ++ '\n' :: ((prettyItems level xs).toList ++ '\n' :: b))
      ']' (acc.reverse ++ canonicalItems xs)
  | [], _, _, _, _, _, _, hne, _, _, _, _, _ => absurd rfl hne
  | [x], fuel, depth, level, first, acc, b, _, hI, hd, hL, hlen, hb => by
    rw [prettyItems_single] at hlen ⊢
    simp only [List.length_append, length_indent] at hlen
    obtain ⟨f, rfl⟩ : ∃ f, fuel = f + 2 := ⟨fuel - 2, by omega⟩
    have hdx : x.depth < depth := by simp only [itemsDepth] at hd; omega
    obtain ⟨e, w, htext, hws, hne₁, hne₂⟩ := pretty_head hI.1 level
    have h₁ := nextItem_indent first hne₁ hne₂ hws level
    have h₂ : ReadsBefore (valueAt (f + 1) depth) (e :: w) '\n' x.canonical :=
      htext ▸ (valueAt_pretty x (f + 1) depth level hI.1 hdx (by omega)).before
        (numberEnd_single (by decide))
    -- after the last item, only blanks before the closing bracket
    have h₃ : ReadsBefore (itemsAt (f + 1) depth false (x.canonical :: acc)) ('\n' :: b) ']'
        (x.canonical :: acc).reverse :=
      itemsAt_end (ReadsBefore.blank (skipsBlanks_nextItem false) (nextItem_end false) rfl
        (blank_newline hb))
    rw [List.reverse_cons] at h₃
    exact itemsAt_item h₁ h₂ h₃ (by simp [htext])
  | x :: y :: ys, fuel, depth, level, first, acc, b, _, hI, hd, hL, hlen, hb => by
    rw [prettyItems_cons_cons] at hlen ⊢
    simp only [List.length_append, List.length_cons, length_indent] at hlen
    obtain ⟨f, rfl⟩ : ∃ f, fuel = f + 1 := ⟨fuel - 1, by omega⟩
    have hdx : x.depth < depth := by simp only [itemsDepth] at hd; omega
    have hdys : itemsDepth (y :: ys) < depth := by simp only [itemsDepth] at hd ⊢; omega
    obtain ⟨e, w, htext, hws, hne₁, hne₂⟩ := pretty_head hI.1 level
    have h₁ := nextItem_indent first hne₁ hne₂ hws level
    have h₂ : ReadsBefore (valueAt f depth) (e :: w) ',' x.canonical :=
      htext ▸ (valueAt_pretty x f depth level hI.1 hdx (by omega)).before
        (numberEnd_single (by decide))
    have h₃ := itemsAt_pretty (y :: ys) f depth level false (x.canonical :: acc) b
      (List.cons_ne_nil y ys) hI.2 hdys hL (by omega) hb
    simp only [Bool.false_eq_true, if_false, List.reverse_cons, List.append_assoc] at h₃
    exact itemsAt_item h₁ h₂ h₃ (by simp [htext])

/-- **Members read back**, from the line break before the first, or the comma before it, to the
blanks before the closing brace, inserted in turn into the members read before. -/
theorem fieldsAt_pretty : ∀ (fs : List (String × Value)) (fuel depth level : Nat) (first : Bool)
    (acc : List (String × Value)) (b : List Char), fs ≠ [] → MembersIntegral fs →
    membersDepth fs < depth → 0 < level → (prettyFields level fs).toList.length < fuel →
    Blank b →
    ReadsBefore (fieldsAt fuel depth first acc)
      ((if first then [] else [',']) ++ '\n' :: ((prettyFields level fs).toList ++ '\n' :: b))
      '}' (canonicalMembers acc fs)
  | [], _, _, _, _, _, _, hne, _, _, _, _, _ => absurd rfl hne
  | [(k, v)], fuel, depth, level, first, acc, b, _, hI, hd, hL, hlen, hb => by
    rw [prettyFields_single] at hlen ⊢
    simp only [List.length_append, List.length_cons, length_indent] at hlen
    obtain ⟨f, rfl⟩ : ∃ f, fuel = f + 2 := ⟨fuel - 2, by omega⟩
    have hdv : v.depth < depth := by simp only [membersDepth] at hd; omega
    obtain ⟨e, w, htext, hws, -, -⟩ := pretty_head hI.1 level
    have h₁ := nextKey_indent first k level
    -- the value after the colon and its blank
    have h₂ : ReadsBefore (valueAt (f + 1) depth) (' ' :: e :: w) '\n' v.canonical :=
      ReadsEnd.after_space (htext ▸ valueAt_pretty v (f + 1) depth level hI.1 hdv (by omega)) hws
        (numberEnd_single (by decide))
    have h₃ : ReadsBefore (fieldsAt (f + 1) depth false (insertSorted k v.canonical acc))
        ('\n' :: b) '}' (insertSorted k v.canonical acc) :=
      fieldsAt_end (ReadsBefore.blank (skipsBlanks_nextKey false) nextKey_end rfl
        (blank_newline hb))
    exact fieldsAt_member h₁ h₂ h₃ (by simp [htext])
  | (k, v) :: m :: ms, fuel, depth, level, first, acc, b, _, hI, hd, hL, hlen, hb => by
    rw [prettyFields_cons_cons] at hlen ⊢
    simp only [List.length_append, List.length_cons, length_indent] at hlen
    obtain ⟨f, rfl⟩ : ∃ f, fuel = f + 2 := ⟨fuel - 2, by omega⟩
    have hdv : v.depth < depth := by simp only [membersDepth] at hd; omega
    have hdms : membersDepth (m :: ms) < depth := by simp only [membersDepth] at hd ⊢; omega
    obtain ⟨e, w, htext, hws, -, -⟩ := pretty_head hI.1 level
    have h₁ := nextKey_indent first k level
    have h₂ : ReadsBefore (valueAt (f + 1) depth) (' ' :: e :: w) ',' v.canonical :=
      ReadsEnd.after_space (htext ▸ valueAt_pretty v (f + 1) depth level hI.1 hdv (by omega)) hws
        (numberEnd_single (by decide))
    have h₃ := fieldsAt_pretty (m :: ms) (f + 1) depth level false
      (insertSorted k v.canonical acc) b (List.cons_ne_nil m ms) hI.2 hdms hL (by omega) hb
    simp only [Bool.false_eq_true, if_false] at h₃
    exact fieldsAt_member h₁ h₂ h₃ (by simp [htext])

end

end Value

/-- **The value reader reads back the writer's pretty text**: a value whose numbers are
integers the reader keeps as such, and whose arrays and objects nest less deep than the reader
allows, is read back from its pretty text as the value a reader holds for it. -/
theorem parse_pretty {v : Value} (hv : v.Integral) (hd : v.depth < nestingLimit) :
    parse (v.pretty 0) = .ok v.canonical := by
  have hfuel : (v.pretty 0).toList.length <
      4 * ((Cursor.start (v.pretty 0)).rest.length + 2) := by
    show _ < 4 * ((v.pretty 0).toList.length + 2)
    omega
  obtain ⟨c', hread, hc'⟩ := Value.valueAt_pretty v _ nestingLimit 0 hv hd hfuel
    (Cursor.start (v.pretty 0)) [] (fun y hy => by cases hy) (List.append_nil _).symm
  unfold parse
  simp only [StateT.run]
  rw [Reader.bind_of_ok hread, skipWs_bind, hc']
  rfl

end PinAudit.Json
