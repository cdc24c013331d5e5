import PinAudit.Proofs.DocumentText

/-!
# Reading written JSON back

The readers of the library read back what its writer writes. A reader **reads `x` over the
word `w`** (`Json.Reads`) when, from any cursor whose characters start with `w`, it returns `x`
and stops right after the word; a reader that stops before a closing character it leaves for
another reads up to it (`Json.ReadsBefore`). Both compose along `>>=`, so a reader built with
`do` reads the concatenation of its parts' words.

The string case carries the work: every character, once escaped by the writer, reads back as
itself in a string body (`stringBody_escapeChar`), the control characters through their
`\u00XX` escapes included. Whitespace never comes up, since the compact layout writes none.

Main statements: `readString_reads`, `readBool_reads`, `nextKey_first`, `nextKey_next`,
`readItems_first`.
-/

namespace PinAudit

namespace Json

/-! ### Reading over a word -/

/-- The reader `r` **reads `x` over the word `w`**: from any cursor whose characters start
with `w`, it returns `x` and stops just after `w`. -/
def Reads {α : Type} (r : Reader α) (w : List Char) (x : α) : Prop :=
  ∀ c : Cursor, ∀ rest, c.rest = w ++ rest → ∃ c', r c = .ok (x, c') ∧ c'.rest = rest

theorem Reader.bind_of_ok {α β : Type} {x : Reader α} {f : α → Reader β} {c c' : Cursor}
    {a : α}
    (h : x c = .ok (a, c')) : (x >>= f) c = f a c' := by
  show (StateT.bind x f) c = _
  simp only [StateT.bind, h]
  rfl

theorem Reads.bind {α β : Type} {r : Reader α} {f : α → Reader β} {w₁ w₂ w : List Char}
    {a : α} {b : β} (h₁ : Reads r w₁ a) (h₂ : Reads (f a) w₂ b) (hw : w = w₁ ++ w₂) :
    Reads (r >>= f) w b := by
  intro c rest hc
  obtain ⟨c₁, hr, hc₁⟩ := h₁ c (w₂ ++ rest) (by rw [hc, hw, List.append_assoc])
  obtain ⟨c₂, hf, hc₂⟩ := h₂ c₁ rest hc₁
  exact ⟨c₂, by rw [Reader.bind_of_ok hr, hf], hc₂⟩

/-- The reader `r` **reads `x` over the word `w`, up to the character `e`**, which it leaves
unread. -/
def ReadsBefore {α : Type} (r : Reader α) (w : List Char) (e : Char) (x : α) : Prop :=
  ∀ c : Cursor, ∀ rest, c.rest = w ++ e :: rest →
    ∃ c', r c = .ok (x, c') ∧ c'.rest = e :: rest

theorem Reads.bind_before {α β : Type} {r : Reader α} {f : α → Reader β}
    {w₁ w₂ w : List Char}
    {e : Char} {a : α} {b : β} (h₁ : Reads r w₁ a) (h₂ : ReadsBefore (f a) w₂ e b)
    (hw : w = w₁ ++ w₂) : ReadsBefore (r >>= f) w e b := by
  intro c rest hc
  obtain ⟨c₁, hr, hc₁⟩ := h₁ c (w₂ ++ e :: rest) (by rw [hc, hw, List.append_assoc])
  obtain ⟨c₂, hf, hc₂⟩ := h₂ c₁ rest hc₁
  exact ⟨c₂, by rw [Reader.bind_of_ok hr, hf], hc₂⟩

/-- Reading up to a character, then from it. -/
theorem ReadsBefore.bind {α β : Type} {r : Reader α} {f : α → Reader β}
    {w₁ w₂ w : List Char}
    {e : Char} {a : α} {b : β} (h₁ : ReadsBefore r w₁ e a) (h₂ : Reads (f a) (e :: w₂) b)
    (hw : w = w₁ ++ e :: w₂) : Reads (r >>= f) w b := by
  intro c rest hc
  obtain ⟨c₁, hr, hc₁⟩ := h₁ c (w₂ ++ rest) (by rw [hc, hw]; simp)
  obtain ⟨c₂, hf, hc₂⟩ := h₂ c₁ rest (by rw [hc₁]; rfl)
  exact ⟨c₂, by rw [Reader.bind_of_ok hr, hf], hc₂⟩

theorem ReadsBefore.pure {α : Type} (x : α) (e : Char) : ReadsBefore (pure x) [] e x :=
  fun c _ hc => ⟨c, rfl, hc⟩

/-- Reading up to a character, then on from it up to another. -/
theorem ReadsBefore.bind_before {α β : Type} {r : Reader α} {f : α → Reader β}
    {w₁ w₂ w : List Char} {e e' : Char} {a : α} {b : β} (h₁ : ReadsBefore r w₁ e a)
    (h₂ : ReadsBefore (f a) (e :: w₂) e' b) (hw : w = w₁ ++ e :: w₂) :
    ReadsBefore (r >>= f) w e' b := by
  intro c rest hc
  obtain ⟨c₁, hr, hc₁⟩ := h₁ c (w₂ ++ e' :: rest) (by rw [hc, hw]; simp)
  obtain ⟨c₂, hf, hc₂⟩ := h₂ c₁ rest (by rw [hc₁]; rfl)
  exact ⟨c₂, by rw [Reader.bind_of_ok hr, hf], hc₂⟩

/-- Reading up to a character, then nothing more. -/
theorem ReadsBefore.bind_stay {α β : Type} {r : Reader α} {f : α → Reader β} {w : List Char}
    {e : Char} {a : α} {b : β} (h₁ : ReadsBefore r w e a) (h₂ : ReadsBefore (f a) [] e b) :
    ReadsBefore (r >>= f) w e b := by
  intro c rest hc
  obtain ⟨c₁, hr, hc₁⟩ := h₁ c rest hc
  obtain ⟨c₂, hf, hc₂⟩ := h₂ c₁ rest hc₁
  exact ⟨c₂, by rw [Reader.bind_of_ok hr, hf], hc₂⟩

theorem Reads.pure {α : Type} (x : α) : Reads (pure x) [] x :=
  fun c _ hc => ⟨c, rfl, hc⟩

theorem Reads.map {α β : Type} {r : Reader α} {w : List Char} {x : α} (f : α → β)
    (h : Reads r w x) : Reads (f <$> r) w (f x) := by
  intro c rest hc
  obtain ⟨c', hr, hc'⟩ := h c rest hc
  exact ⟨c', Reader.map_ok.2 ⟨x, hr, rfl⟩, hc'⟩

/-- A character read on its own. -/
theorem Reads.bump (y : Char) : Reads bump [y] () :=
  fun c rest hc => ⟨c.bump, rfl, by rw [Cursor.bump_rest, hc]; rfl⟩

/-! ### Escaped strings -/

theorem hexValue_hexDigit : ∀ k < 16, hexValue (hexDigit k) = some k := by decide

theorem utf8Size_hexDigit : ∀ k < 16, (hexDigit k).utf8Size = 1 := by decide

/-- A named escape in a string body: the backslash and the letter `e` read as `y`. -/
theorem stringBody_named {e y : Char}
    (hesc : ∀ {c : Cursor} {t}, c.rest = e :: t → escape c = .ok (y, c.bump))
    {fuel : Nat} {acc : List Char} {c : Cursor} {t : List Char} (h : c.rest = '\\' :: e :: t) :
    stringBody (fuel + 1) acc c = stringBody fuel (y :: acc) c.bump.bump := by
  rw [stringBody, peek_bind, h]
  simp only [List.head?_cons, bump_bind]
  rw [Reader.bind_of_ok (hesc (by rw [Cursor.bump_rest, h, List.tail_cons]))]

theorem escape_quote {c : Cursor} {t : List Char} (hc : c.rest = '"' :: t) :
    escape c = .ok ('"', c.bump) := by
  rw [escape, peek_bind, hc]
  rfl

theorem escape_backslash {c : Cursor} {t : List Char} (hc : c.rest = '\\' :: t) :
    escape c = .ok ('\\', c.bump) := by
  rw [escape, peek_bind, hc]
  rfl

theorem escape_n {c : Cursor} {t : List Char} (hc : c.rest = 'n' :: t) :
    escape c = .ok ('\n', c.bump) := by
  rw [escape, peek_bind, hc]
  rfl

theorem escape_r {c : Cursor} {t : List Char} (hc : c.rest = 'r' :: t) :
    escape c = .ok ('\r', c.bump) := by
  rw [escape, peek_bind, hc]
  rfl

theorem escape_t {c : Cursor} {t : List Char} (hc : c.rest = 't' :: t) :
    escape c = .ok ('\t', c.bump) := by
  rw [escape, peek_bind, hc]
  rfl

theorem escape_b {c : Cursor} {t : List Char} (hc : c.rest = 'b' :: t) :
    escape c = .ok (Char.ofNat 8, c.bump) := by
  rw [escape, peek_bind, hc]
  rfl

theorem escape_f {c : Cursor} {t : List Char} (hc : c.rest = 'f' :: t) :
    escape c = .ok (Char.ofNat 12, c.bump) := by
  rw [escape, peek_bind, hc]
  rfl

/-- Four hex digits of a control character's escape. -/
theorem hex4_control {c : Cursor} {n : Nat} {t : List Char} (hn : n < 0x20)
    (hc : c.rest = '0' :: '0' :: hexDigit (n / 16) :: hexDigit (n % 16) :: t) :
    ∃ c', hex4 c = .ok (n, c') ∧ c'.rest = t := by
  have h₁ := hexValue_hexDigit (n / 16) (by omega)
  have h₂ := hexValue_hexDigit (n % 16) (by omega)
  have s₁ := utf8Size_hexDigit (n / 16) (by omega)
  have s₂ := utf8Size_hexDigit (n % 16) (by omega)
  have h₀ : hexValue '0' = some 0 := by decide
  have hlen :
      byteLength (('0' :: '0' :: hexDigit (n / 16) :: hexDigit (n % 16) :: t).take 4) = 4 := by
    simp [byteLength, s₁, s₂]
    rfl
  refine ⟨⟨t, c.line, c.col + 4⟩, ?_, rfl⟩
  rw [hex4, get_bind, hc]
  simp only [hlen, Nat.lt_irrefl, if_false, h₀, h₁, h₂, set_bind, Reader.pure_apply]
  congr
  omega

/-- A control character's escape, `\u00XX`, reads back as the character. -/
theorem escape_control {x : Char} {c : Cursor} {t : List Char} (hx : x.toNat < 0x20)
    (hc : c.rest = 'u' :: '0' :: '0' :: hexDigit (x.toNat / 16) :: hexDigit (x.toNat % 16) :: t) :
    ∃ c', escape c = .ok (x, c') ∧ c'.rest = t := by
  obtain ⟨c₁, h₁, hc₁⟩ :=
    hex4_control (c := c.bump) hx (by rw [Cursor.bump_rest, hc, List.tail_cons])
  refine ⟨c₁, ?_, hc₁⟩
  rw [escape, peek_bind, hc]
  simp only [List.head?_cons, bump_bind]
  rw [Reader.bind_of_ok h₁]
  have hlo : ¬ 0xDC00 ≤ x.toNat := by omega
  have hbelow : x.toNat < 0xD800 := by omega
  simp [hlo, hbelow, Char.ofNat_toNat]

theorem rest_bump_bump {c : Cursor} {a b : Char} {t : List Char} (h : c.rest = a :: b :: t) :
    c.bump.bump.rest = t := by
  rw [Cursor.bump_rest, Cursor.bump_rest, h]
  rfl

/-- **An escaped character reads back as itself** in a string body. -/
theorem stringBody_escapeChar (x : Char) (fuel : Nat) (acc : List Char) {c : Cursor}
    {t : List Char} (h : c.rest = escapeChar x ++ t) :
    ∃ c', c'.rest = t ∧ stringBody (fuel + 1) acc c = stringBody fuel (x :: acc) c' := by
  unfold escapeChar at h
  split at h
  · rename_i hx
    obtain rfl : x = '"' := by simpa using hx
    exact ⟨_, rest_bump_bump h, stringBody_named escape_quote h⟩
  split at h
  · rename_i hx
    obtain rfl : x = '\\' := by simpa using hx
    exact ⟨_, rest_bump_bump h, stringBody_named escape_backslash h⟩
  split at h
  · rename_i hx
    obtain rfl : x = '\n' := by simpa using hx
    exact ⟨_, rest_bump_bump h, stringBody_named escape_n h⟩
  split at h
  · rename_i hx
    obtain rfl : x = '\r' := by simpa using hx
    exact ⟨_, rest_bump_bump h, stringBody_named escape_r h⟩
  split at h
  · rename_i hx
    obtain rfl : x = '\t' := by simpa using hx
    exact ⟨_, rest_bump_bump h, stringBody_named escape_t h⟩
  split at h
  · rename_i hx
    obtain rfl : x = Char.ofNat 8 := by
      rw [← Char.ofNat_toNat x, (by simpa using hx : x.toNat = 8)]
    exact ⟨_, rest_bump_bump h, stringBody_named escape_b h⟩
  split at h
  · rename_i hx
    obtain rfl : x = Char.ofNat 12 := by
      rw [← Char.ofNat_toNat x, (by simpa using hx : x.toNat = 12)]
    exact ⟨_, rest_bump_bump h, stringBody_named escape_f h⟩
  split at h
  · -- a control character, as four hex digits
    rename_i hx
    obtain ⟨c₁, he, hc₁⟩ := escape_control (c := c.bump) (by simpa using hx)
      (by rw [Cursor.bump_rest, h]; rfl)
    refine ⟨c₁, hc₁, ?_⟩
    rw [stringBody, peek_bind, h]
    simp only [List.cons_append, List.head?_cons, bump_bind]
    rw [Reader.bind_of_ok he]
  · -- any other character stands for itself
    rename_i hq hb _ _ _ _ _ hctl
    refine ⟨c.bump, by rw [Cursor.bump_rest, h]; rfl, ?_⟩
    have hq : x ≠ '"' := by simpa using hq
    have hb : x ≠ '\\' := by simpa using hb
    rw [stringBody, peek_bind, h]
    simp [hctl, bump_bind]

theorem length_le_escaped (cs : List Char) : cs.length ≤ (cs.flatMap escapeChar).length := by
  induction cs with
  | nil => simp
  | cons x cs ih =>
    have : 1 ≤ (escapeChar x).length := by
      unfold escapeChar
      repeat' split
      all_goals simp
    simp only [List.flatMap_cons, List.length_append, List.length_cons]
    omega

/-- **An escaped string body reads back** as the string, up to and with its closing quote. -/
theorem stringBody_escaped : ∀ (cs : List Char) (fuel : Nat) (acc : List Char) (c : Cursor)
    (rest : List Char), cs.length < fuel → c.rest = cs.flatMap escapeChar ++ '"' :: rest →
    ∃ c', stringBody fuel acc c = .ok (String.ofList (acc.reverse ++ cs), c') ∧ c'.rest = rest
  | [], fuel + 1, acc, c, rest, _, h => by
    refine ⟨c.bump, ?_, by rw [Cursor.bump_rest, h]; rfl⟩
    rw [stringBody, peek_bind, h]
    simp
  | x :: cs, fuel + 1, acc, c, rest, hlen, h => by
    rw [List.flatMap_cons, List.append_assoc] at h
    obtain ⟨c₁, hc₁, heq⟩ := stringBody_escapeChar x fuel acc h
    obtain ⟨c₂, h₂, hc₂⟩ := stringBody_escaped cs fuel (x :: acc) c₁ rest
      (by simp only [List.length_cons] at hlen; omega) hc₁
    refine ⟨c₂, ?_, hc₂⟩
    rw [heq, h₂]
    simp

/-- A string after its opening quote. -/
theorem string_reads (s : String) : Reads string (s.toList.flatMap escapeChar ++ ['"']) s := by
  intro c rest hc
  have hlen := length_le_escaped s.toList
  obtain ⟨c', h, hc'⟩ := stringBody_escaped s.toList (c.rest.length + 1) [] c rest
    (by rw [hc]; simp only [List.length_append]; omega) (by rw [hc]; simp)
  exact ⟨c', by simpa [string] using h, hc'⟩

/-- Skipping whitespace before a character that is none stays put. -/
theorem skipWsFrom_of_head {c : Cursor} {y : Char} {t : List Char} (h : c.rest = y :: t)
    (hy : isWs y = false) : skipWsFrom c.rest c.line c.col = c := by
  rw [h, skipWsFrom, if_neg (by simp [hy]), ← h]

theorem readString_reads (s : String) : Reads readString (quote s).toList s := by
  intro c rest hc
  rw [quote_toList, List.cons_append] at hc
  rw [readString, skipWs_bind, skipWsFrom_of_head hc rfl, hc]
  simp only [List.head?_cons, bump_bind]
  exact string_reads s c.bump rest (by rw [Cursor.bump_rest, hc]; simp)

/-! ### Scalars and punctuation -/

theorem literal_reads : ∀ es : List Char, Reads (literal es) es ()
  | [] => Reads.pure ()
  | e :: es => by
    intro c rest hc
    rw [literal, peek_bind, hc]
    simp only [List.cons_append, List.head?_cons, beq_self_eq_true, if_true]
    exact (Reads.bind (Reads.bump e) (literal_reads es) rfl) c rest (by rw [hc]; rfl)

theorem readOptString_reads (s : String) : Reads readOptString (quote s).toList (some s) := by
  intro c rest hc
  have hq := hc
  rw [quote_toList, List.cons_append] at hq
  rw [readOptString, skipWs_bind, skipWsFrom_of_head hq rfl, hq]
  simp only [List.head?_cons]
  exact (Reads.map some (readString_reads s)) c rest hc

theorem readBool_reads (b : Bool) : Reads readBool (if b then "true" else "false").toList b := by
  intro c rest hc
  cases b with
  | true =>
    have hw : c.rest = 't' :: (['r', 'u', 'e'] ++ rest) := by rw [hc]; rfl
    rw [readBool, skipWs_bind, skipWsFrom_of_head hw rfl, hw]
    simp only [List.head?_cons, bump_bind]
    exact (Reads.bind (literal_reads _) (Reads.pure true) rfl) c.bump rest
      (by rw [Cursor.bump_rest, hw]; simp)
  | false =>
    have hw : c.rest = 'f' :: (['a', 'l', 's', 'e'] ++ rest) := by rw [hc]; rfl
    rw [readBool, skipWs_bind, skipWsFrom_of_head hw rfl, hw]
    simp only [List.head?_cons, bump_bind]
    exact (Reads.bind (literal_reads _) (Reads.pure false) rfl) c.bump rest
      (by rw [Cursor.bump_rest, hw]; simp)

theorem colon_reads : Reads colon [':'] () := by
  intro c rest hc
  rw [colon, skipWs_bind, skipWsFrom_of_head hc rfl, hc]
  exact Reads.bump ':' c rest hc

/-- The first key of an object. -/
theorem nextKey_first (k : String) : Reads (nextKey true) (quote k).toList (some k) := by
  intro c rest hc
  have hq := hc
  rw [quote_toList, List.cons_append] at hq
  rw [nextKey, skipWs_bind, skipWsFrom_of_head hq rfl, hq]
  simp only [List.head?_cons, if_true, pure_bind]
  exact (Reads.bind (f := fun s => pure (some s)) (string_reads k) (Reads.pure (some k)) rfl)
    c.bump rest
    (by rw [Cursor.bump_rest, hq]; simp)

/-- A key after a comma. -/
theorem nextKey_next (k : String) : Reads (nextKey false) (',' :: (quote k).toList) (some k) := by
  intro c rest hc
  have hq : c.bump.rest = '"' :: (k.toList.flatMap escapeChar ++ ['"'] ++ rest) := by
    rw [Cursor.bump_rest, hc, quote_toList]
    simp
  rw [nextKey, skipWs_bind, skipWsFrom_of_head hc rfl, hc]
  simp only [List.cons_append, List.head?_cons, Bool.false_eq_true, if_false, bump_bind]
  rw [skipWs_bind, skipWsFrom_of_head hq rfl, hq]
  simp only [List.head?_cons, pure_bind, bump_bind]
  exact (Reads.bind (f := fun s => pure (some s)) (string_reads k) (Reads.pure (some k)) rfl)
    c.bump.bump rest
    (by rw [Cursor.bump_rest, hq]; simp)

theorem closeObject_reads : Reads closeObject ['}'] () := by
  intro c rest hc
  rw [closeObject, skipWs_bind, skipWsFrom_of_head hc rfl, hc]
  exact Reads.bump '}' c rest hc

theorem closeArray_reads : Reads closeArray [']'] () := by
  intro c rest hc
  rw [closeArray, skipWs_bind, skipWsFrom_of_head hc rfl, hc]
  exact Reads.bump ']' c rest hc

/-- The closing brace after the last field, not read. -/
theorem nextKey_end : ReadsBefore (nextKey false) [] '}' none := by
  intro c rest hc
  refine ⟨c, ?_, hc⟩
  rw [nextKey, skipWs_bind, skipWsFrom_of_head hc rfl, hc]
  rfl

/-- The closing bracket of an array, not read. -/
theorem nextItem_end (first : Bool) : ReadsBefore (nextItem first) [] ']' false := by
  intro c rest hc
  refine ⟨c, ?_, hc⟩
  rw [nextItem, skipWs_bind, skipWsFrom_of_head hc rfl, hc]
  rfl

/-- The first item of an array, an object, not read. -/
theorem nextItem_first : ReadsBefore (nextItem true) [] '{' true := by
  intro c rest hc
  refine ⟨c, ?_, hc⟩
  rw [nextItem, skipWs_bind, skipWsFrom_of_head hc rfl, hc]
  rfl

/-- An item after a comma, an object, not read. -/
theorem nextItem_comma : ReadsBefore (nextItem false) [','] '{' true := by
  intro c rest hc
  have hb : c.bump.rest = '{' :: rest := by rw [Cursor.bump_rest, hc]; rfl
  refine ⟨c.bump, ?_, hb⟩
  rw [nextItem, skipWs_bind, skipWsFrom_of_head hc rfl, hc]
  simp only [List.cons_append, List.nil_append, List.head?_cons, Bool.false_eq_true, if_false,
    bump_bind]
  rw [skipWs_bind, skipWsFrom_of_head hb rfl, hb]
  rfl

/-! ### Arrays of objects -/

section Items

variable {α β : Type} {item : Reader α} (word : β → List Char) {f : β → α}

/-- **Array items after the first**, each an object read by `item`, up to the closing bracket. -/
theorem readItems_tail (bs : List β) (hitem : ∀ b ∈ bs, Reads item ('{' :: word b) (f b)) :
    ∀ (fuel : Nat) (acc : List α), bs.length < fuel →
      ReadsBefore (readItems item fuel false acc) (bs.flatMap fun b => ',' :: '{' :: word b) ']'
        (acc.reverse ++ bs.map f) := by
  induction bs with
  | nil =>
    intro fuel acc hlen
    obtain ⟨fuel, rfl⟩ : ∃ k, fuel = k + 1 := ⟨fuel - 1, by simp at hlen; omega⟩
    rw [readItems]
    simpa using (nextItem_end false).bind_stay (ReadsBefore.pure acc.reverse ']')
  | cons b bs ih =>
    intro fuel acc hlen
    obtain ⟨fuel, rfl⟩ : ∃ k, fuel = k + 1 := ⟨fuel - 1, by simp at hlen; omega⟩
    have hrest := ih (fun b' hb' => hitem b' (List.mem_cons_of_mem _ hb')) fuel (f b :: acc)
      (by simp at hlen; omega)
    have hval : acc.reverse ++ (b :: bs).map f = (f b :: acc).reverse ++ bs.map f := by simp
    rw [readItems, hval]
    refine nextItem_comma.bind_before (Reads.bind_before (hitem b List.mem_cons_self) hrest rfl) ?_
    simp

theorem length_le_flatMap_comma (bs : List β) :
    bs.length ≤ (bs.flatMap fun b => ',' :: word b).length := by
  induction bs with
  | nil => simp
  | cons b bs ih =>
    simp only [List.flatMap_cons, List.length_append, List.length_cons]
    omega

/-- An array of objects, read from its first item up to the closing bracket. -/
theorem readItems_first (b : β) (bs : List β)
    (hitem : ∀ b' ∈ b :: bs, Reads item ('{' :: word b') (f b'))
    (fuel : Nat) (hlen : bs.length + 1 < fuel) :
    ReadsBefore (readItems item fuel true [])
      ('{' :: word b ++ bs.flatMap fun b => ',' :: '{' :: word b) ']' ((b :: bs).map f) := by
  obtain ⟨fuel, rfl⟩ : ∃ k, fuel = k + 1 := ⟨fuel - 1, by omega⟩
  have hrest : ReadsBefore (readItems item fuel false [f b])
      (bs.flatMap fun b => ',' :: '{' :: word b) ']' ((b :: bs).map f) := by
    simpa using
      readItems_tail word bs (fun b' hb' => hitem b' (List.mem_cons_of_mem _ hb')) fuel [f b]
      (by omega)
  rw [readItems]
  exact nextItem_first.bind_before (Reads.bind_before (hitem b List.mem_cons_self) hrest rfl)
    (by simp)

/-- An empty array, up to its closing bracket. -/
theorem readItems_none (fuel : Nat) (hfuel : 0 < fuel) :
    ReadsBefore (readItems item fuel true []) [] ']' [] := by
  obtain ⟨fuel, rfl⟩ : ∃ k, fuel = k + 1 := ⟨fuel - 1, by omega⟩
  rw [readItems]
  exact (nextItem_end true).bind_stay (ReadsBefore.pure _ _)

end Items

end Json

end PinAudit
