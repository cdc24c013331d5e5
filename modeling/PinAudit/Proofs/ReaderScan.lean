import PinAudit.Proofs.BracketScan

/-!
# What a successful read goes over

Every reader of JSON text moves its cursor forward. When one succeeds, the characters it went
over are described here in the terms of the bracket scan (`Document.Balanced`): whitespace,
punctuation, literals and numbers are plain characters, a string is a quote and a word that
closes it, and a bracketed value is a balanced word inside a bracket pair. So every value the
readers accept, skipped or kept, is a balanced word, and the scan sees the text's brackets
exactly where the readers do (`Balances`).

Main statements: `skipValue_ok`, `readStruct_ok`, `readItems_ok`, `nextKey_ok`; a value of the
wrong kind is never read (`refuse_ne_ok`).
-/

namespace PinAudit.Json

open Document

/-! ### Runs of readers -/

theorem Reader.bind_ok {α β : Type} {x : Reader α} {f : α → Reader β} {c c'' : Cursor}
    {b : β} : (x >>= f) c = .ok (b, c'') ↔ ∃ a c', x c = .ok (a, c') ∧ f a c' = .ok (b, c'') := by
  show (StateT.bind x f) c = _ ↔ _
  simp only [StateT.bind]
  cases x c with
  | error e => simp [bind, Except.bind]
  | ok p =>
    obtain ⟨a, c'⟩ := p
    simp only [bind, Except.bind]
    constructor
    · intro h
      exact ⟨a, c', rfl, h⟩
    · rintro ⟨_, _, h₁, h₂⟩
      cases h₁
      exact h₂

theorem Reader.map_ok {α β : Type} {x : Reader α} {f : α → β} {c c' : Cursor} {b : β} :
    (f <$> x) c = .ok (b, c') ↔ ∃ a, x c = .ok (a, c') ∧ f a = b := by
  show (StateT.map f x) c = _ ↔ _
  simp only [StateT.map]
  cases x c with
  | error e => simp [bind, Except.bind]
  | ok p =>
    obtain ⟨a, c₁⟩ := p
    simp only [bind, Except.bind, pure, Except.pure, Except.ok.injEq, Prod.mk.injEq]
    constructor
    · rintro ⟨rfl, rfl⟩
      exact ⟨a, ⟨rfl, rfl⟩, rfl⟩
    · rintro ⟨_, ⟨rfl, rfl⟩, rfl⟩
      exact ⟨rfl, rfl⟩

@[simp] theorem Reader.pure_apply {α : Type} (a : α) (c : Cursor) :
    (pure a : Reader α) c = .ok (a, c) := rfl

@[simp] theorem bump_apply (c : Cursor) : bump c = .ok ((), c.bump) := rfl

@[simp] theorem peek_apply (c : Cursor) : peek c = .ok (c.rest.head?, c) := rfl

theorem skipWs_apply (c : Cursor) :
    skipWs c = .ok ((skipWsFrom c.rest c.line c.col).rest.head?, skipWsFrom c.rest c.line c.col) :=
  rfl

@[simp] theorem peek_bind {β : Type} (f : Option Char → Reader β) (c : Cursor) :
    (peek >>= f) c = f c.rest.head? c := rfl

@[simp] theorem bump_bind {β : Type} (f : Unit → Reader β) (c : Cursor) :
    (bump >>= f) c = f () c.bump := rfl

@[simp] theorem get_bind {β : Type} (f : Cursor → Reader β) (c : Cursor) :
    (get >>= f) c = f c c := rfl

@[simp] theorem set_bind {β : Type} (f : PUnit → Reader β) (c c₁ : Cursor) :
    (set c₁ >>= f) c = f () c₁ := rfl

@[simp] theorem throw_apply {α : Type} (e : Error) (c : Cursor) :
    (throw e : Reader α) c = .error e := rfl

theorem skipWs_bind {β : Type} (f : Option Char → Reader β) (c : Cursor) :
    (skipWs >>= f) c =
      f (skipWsFrom c.rest c.line c.col).rest.head? (skipWsFrom c.rest c.line c.col) := rfl

@[simp] theorem failHere_ne_ok {α : Type} (p : Problem) (c c' : Cursor) (x : α) :
    failHere p c ≠ .ok (x, c') := by
  intro h
  cases h

@[simp] theorem failNext_ne_ok {α : Type} (p : Problem) (c c' : Cursor) (x : α) :
    failNext p c ≠ .ok (x, c') := by
  intro h
  cases h

@[simp] theorem failHere_bind_ne_ok {α β : Type} (p : Problem) (f : α → Reader β)
    (c c' : Cursor) (x : β) : (failHere p >>= f) c ≠ .ok (x, c') := by
  intro h
  cases h

@[simp] theorem failNext_bind_ne_ok {α β : Type} (p : Problem) (f : α → Reader β)
    (c c' : Cursor) (x : β) : (failNext p >>= f) c ≠ .ok (x, c') := by
  intro h
  cases h

theorem Cursor.bump_rest (c : Cursor) : c.bump.rest = c.rest.tail := by
  unfold Cursor.bump
  split <;> simp_all

theorem skipWsFrom_rest (cs : List Char) (l k : Nat) :
    (skipWsFrom cs l k).rest = cs.dropWhile isWs := by
  induction cs generalizing l k with
  | nil => rfl
  | cons c cs ih =>
    rw [skipWsFrom]
    by_cases h : isWs c
    · simp [h, ih]
    · simp [h]

/-! ### Words a read goes over -/

/-- The reader went **from `c` to `c'` over a word balanced with height `h`**. -/
def Balances (c c' : Cursor) (h : Nat) : Prop :=
  ∃ w, c.rest = w ++ c'.rest ∧ Balanced w h

/-- The reader went **from `c` to `c'` over a word that closes a string**. -/
def Closes (c c' : Cursor) : Prop :=
  ∃ w, c.rest = w ++ c'.rest ∧ ClosesString w

/-- The reader went **from `c` to `c'` over plain characters**. -/
def Plains (c c' : Cursor) : Prop :=
  ∃ w, c.rest = w ++ c'.rest ∧ ∀ x ∈ w, Plain x

namespace Balances

theorem refl (c : Cursor) : Balances c c 0 := ⟨[], rfl, Balanced.nil⟩

theorem trans {c c' c'' : Cursor} {h h' : Nat} (h₁ : Balances c c' h)
    (h₂ : Balances c' c'' h') : Balances c c'' (max h h') := by
  obtain ⟨w, hw, bw⟩ := h₁
  obtain ⟨w', hw', bw'⟩ := h₂
  exact ⟨w ++ w', by rw [hw, hw', List.append_assoc], bw.append bw'⟩

theorem of_plains {c c' : Cursor} (h : Plains c c') : Balances c c' 0 := by
  obtain ⟨w, hw, hp⟩ := h
  exact ⟨w, hw, Balanced.plains hp⟩

/-- Going on after a word, with a bound on the height of what follows. -/
theorem trans_le {c c₁ c₂ : Cursor} {h₁ h₂ n : Nat} (b₁ : Balances c c₁ h₁)
    (b₂ : Balances c₁ c₂ h₂) (hn : n ≤ h₂) : ∃ h, Balances c c₂ h ∧ n ≤ h :=
  ⟨_, b₁.trans b₂, Nat.le_trans hn (Nat.le_max_right _ _)⟩

/-- A quote, read, and a word that closes the string it opens. -/
theorem string {c c' : Cursor} (hq : c.rest.head? = some '"') (h : Closes c.bump c') :
    Balances c c' 0 := by
  obtain ⟨w, hw, hc⟩ := h
  obtain ⟨t, ht⟩ : ∃ t, c.rest = '"' :: t := by
    cases hr : c.rest with
    | nil => simp [hr] at hq
    | cons x t => simp_all
  rw [Cursor.bump_rest, ht, List.tail_cons] at hw
  exact ⟨'"' :: w, by rw [ht, hw, List.cons_append], Balanced.string hc⟩

/-- An opening bracket, read, a balanced word, and a closing bracket, read. -/
theorem wrap {c c₁ : Cursor} {h : Nat} {o e : Char} (ho : o = '{' ∨ o = '[')
    (he : e = '}' ∨ e = ']') (hopen : c.rest.head? = some o) (hin : Balances c.bump c₁ h)
    (hclose : c₁.rest.head? = some e) (c' : Cursor) (hc' : c'.rest = c₁.rest.tail) :
    Balances c c' (h + 1) := by
  obtain ⟨w, hw, bw⟩ := hin
  obtain ⟨t, ht⟩ : ∃ t, c.rest = o :: t := by
    cases hr : c.rest with
    | nil => simp [hr] at hopen
    | cons x t => simp_all
  obtain ⟨t₁, ht₁⟩ : ∃ t₁, c₁.rest = e :: t₁ := by
    cases hr : c₁.rest with
    | nil => simp [hr] at hclose
    | cons x t => simp_all
  rw [Cursor.bump_rest, ht, List.tail_cons, ht₁] at hw
  rw [ht₁, List.tail_cons] at hc'
  refine ⟨o :: w ++ [e], ?_, bw.wrap ho he⟩
  rw [ht, hw, hc']
  simp

end Balances

namespace Plains

theorem refl (c : Cursor) : Plains c c := ⟨[], rfl, by simp⟩

theorem trans {c c' c'' : Cursor} (h₁ : Plains c c') (h₂ : Plains c' c'') : Plains c c'' := by
  obtain ⟨w, hw, pw⟩ := h₁
  obtain ⟨w', hw', pw'⟩ := h₂
  refine ⟨w ++ w', by rw [hw, hw', List.append_assoc], fun x hx => ?_⟩
  rcases List.mem_append.1 hx with hx | hx
  · exact pw x hx
  · exact pw' x hx

/-- Reading one plain character. -/
theorem bump {c : Cursor} {x : Char} (hx : c.rest.head? = some x) (hp : Plain x) :
    Plains c c.bump := by
  obtain ⟨t, ht⟩ : ∃ t, c.rest = x :: t := by
    cases hr : c.rest with
    | nil => simp [hr] at hx
    | cons y t => simp_all
  exact ⟨[x], by rw [Cursor.bump_rest, ht]; rfl, by simpa using hp⟩

end Plains

theorem plain_of_isWs {c : Char} (h : isWs c = true) : Plain c := by
  simp only [isWs, Bool.or_eq_true, beq_iff_eq] at h
  rcases h with ((rfl | rfl) | rfl) | rfl <;> decide

/-- Skipping whitespace goes over plain characters and stops at the next character. -/
theorem skipWs_ok {c c' : Cursor} {o : Option Char} (h : skipWs c = .ok (o, c')) :
    Plains c c' ∧ o = c'.rest.head? := by
  rw [skipWs_apply] at h
  cases h
  have hws : ∀ x ∈ c.rest.takeWhile isWs, isWs x = true := List.all_eq_true.1 List.all_takeWhile
  refine ⟨⟨c.rest.takeWhile isWs, ?_, fun x hx => plain_of_isWs (hws x hx)⟩, rfl⟩
  rw [skipWsFrom_rest, List.takeWhile_append_dropWhile]

/-! ### Literals and strings -/

theorem literal_ok : ∀ {es : List Char} {c c' : Cursor}, literal es c = .ok ((), c') →
    c.rest = es ++ c'.rest
  | [], c, c', h => by
    simp only [literal, Reader.pure_apply, Except.ok.injEq, Prod.mk.injEq] at h
    rw [h.2]
    rfl
  | e :: es, c, c', h => by
    simp only [literal, peek_bind] at h
    cases hr : c.rest with
    | nil => simp [hr] at h
    | cons x t =>
      simp only [hr, List.head?_cons] at h
      by_cases hxe : x = e
      · subst hxe
        simp only [beq_self_eq_true, if_true, bump_bind] at h
        have := literal_ok h
        rw [Cursor.bump_rest, hr, List.tail_cons] at this
        rw [this]
        rfl
      · simp [hxe] at h

theorem hexValue_ne {x : Char} {v : Nat} (h : hexValue x = some v) : x ≠ '"' ∧ x ≠ '\\' := by
  have hq : hexValue '"' = none := by decide
  have hb : hexValue '\\' = none := by decide
  constructor
  · rintro rfl
    rw [hq] at h
    cases h
  · rintro rfl
    rw [hb] at h
    cases h

theorem hex4_ok {c c' : Cursor} {n : Nat} (h : hex4 c = .ok (n, c')) :
    ∃ w, c.rest = w ++ c'.rest ∧ ∀ x ∈ w, x ≠ '"' ∧ x ≠ '\\' := by
  simp only [hex4, get_bind] at h
  split at h
  · simp at h
  · rcases hr : c.rest with _ | ⟨a, _ | ⟨b, _ | ⟨d, _ | ⟨e, more⟩⟩⟩⟩
    all_goals simp only [hr] at h
    · simp at h
    · simp at h
    · simp at h
    · simp at h
    · cases ha : hexValue a <;> cases hb : hexValue b <;> cases hd : hexValue d <;>
        cases he : hexValue e <;> simp [ha, hb, hd, he] at h
      obtain ⟨-, rfl⟩ := h
      refine ⟨[a, b, d, e], rfl, ?_⟩
      simp only [List.mem_cons, List.not_mem_nil, or_false]
      rintro x (rfl | rfl | rfl | rfl)
      · exact hexValue_ne ha
      · exact hexValue_ne hb
      · exact hexValue_ne hd
      · exact hexValue_ne he


/-- After a `\\u` and its four digits, a string goes on as it was. -/
theorem stays_of_hex4 {c c' : Cursor} {n : Nat} (h : hex4 c = .ok (n, c')) :
    ∃ w, c.rest = w ++ c'.rest ∧ StaysInString w := by
  obtain ⟨w, hw, hx⟩ := hex4_ok h
  exact ⟨w, hw, StaysInString.plains hx⟩

theorem trailSurrogate_ok {c c' : Cursor} {n : Nat} {x : Char}
    (h : trailSurrogate n c = .ok (x, c')) :
    ∃ w, c.rest = w ++ c'.rest ∧ StaysInString w := by
  simp only [trailSurrogate, peek_bind] at h
  cases hr : c.rest with
  | nil => simp [hr] at h
  | cons y t =>
    by_cases hy : y = '\\'
    · subst hy
      simp only [hr, List.head?_cons, bump_bind, peek_bind, Cursor.bump_rest, List.tail_cons] at h
      cases ht : t with
      | nil => simp [ht] at h
      | cons u t' =>
        by_cases hu : u = 'u'
        · subst hu
          simp only [ht, List.head?_cons, bump_bind, Reader.bind_ok] at h
          obtain ⟨n₂, c₁, hhex, h⟩ := h
          split at h
          · simp at h
          simp only [Reader.pure_apply, Except.ok.injEq, Prod.mk.injEq] at h
          obtain ⟨-, rfl⟩ := h
          obtain ⟨w, hw, hs⟩ := stays_of_hex4 hhex
          simp only [Cursor.bump_rest, hr, ht, List.tail_cons] at hw
          exact ⟨'\\' :: 'u' :: w, by rw [hw]; rfl, (StaysInString.escape 'u').append hs⟩
        · simp [ht] at h
    · simp [hr] at h


/-- An escape, after its backslash, stays inside the string. -/
theorem escape_ok {c c' : Cursor} {x : Char} (h : escape c = .ok (x, c')) :
    ∃ w, c.rest = w ++ c'.rest ∧ StaysInString ('\\' :: w) := by
  simp only [escape, peek_bind] at h
  cases hr : c.rest with
  | nil => simp [hr] at h
  | cons y t =>
    simp only [hr, List.head?_cons] at h
    by_cases hu : y = 'u'
    · -- four hex digits, and perhaps a second escape for a trailing surrogate
      subst hu
      simp only [bump_bind, Reader.bind_ok] at h
      obtain ⟨n, c₁, hhex, h⟩ := h
      obtain ⟨w, hw, hs⟩ := stays_of_hex4 hhex
      simp only [Cursor.bump_rest, hr, List.tail_cons] at hw
      have hu : StaysInString ('\\' :: 'u' :: w) := (StaysInString.escape 'u').append hs
      split at h
      · simp at h
      split at h
      · simp only [Reader.pure_apply, Except.ok.injEq, Prod.mk.injEq] at h
        obtain ⟨-, rfl⟩ := h
        exact ⟨'u' :: w, by rw [hw]; rfl, hu⟩
      · obtain ⟨w', hw', hs'⟩ := trailSurrogate_ok h
        exact ⟨'u' :: w ++ w', by rw [hw, hw']; simp, by simpa using hu.append hs'⟩
    · -- every other escape is the one character after the backslash
      by_cases hone : y ∈ ['"', '\\', '/', 'b', 'f', 'n', 'r', 't']
      · have hc' : c' = c.bump := by
          simp only [List.mem_cons, List.not_mem_nil, or_false] at hone
          rcases hone with rfl | rfl | rfl | rfl | rfl | rfl | rfl | rfl <;>
          · simp only [bump_bind, Reader.pure_apply, Except.ok.injEq, Prod.mk.injEq] at h
            exact h.2.symm
        subst hc'
        exact ⟨[y], by rw [Cursor.bump_rest, hr]; rfl, StaysInString.escape y⟩
      · simp only [List.mem_cons, List.not_mem_nil, or_false, not_or] at hone
        obtain ⟨h₁, h₂, h₃, h₄, h₅, h₆, h₇, h₈⟩ := hone
        simp at h

/-- Reading a string body, with fuel enough for the text left, goes over a word that closes
the string. -/
theorem stringBody_ok : ∀ {fuel : Nat} {acc : List Char} {c c' : Cursor} {s : String},
    stringBody fuel acc c = .ok (s, c') → c.rest.length < fuel → Closes c c'
  | 0, _, _, _, _, _, hlen => absurd hlen (Nat.not_lt_zero _)
  | fuel + 1, acc, c, c', s, h, hlen => by
    simp only [stringBody, peek_bind] at h
    cases hr : c.rest with
    | nil => simp [hr] at h
    | cons y t =>
      simp only [hr, List.head?_cons] at h
      rw [hr, List.length_cons] at hlen
      by_cases hq : y = '"'
      · subst hq
        simp only [bump_bind, Reader.pure_apply, Except.ok.injEq, Prod.mk.injEq] at h
        obtain ⟨-, rfl⟩ := h
        exact ⟨['"'], by simp [hr, Cursor.bump_rest], ClosesString.quote⟩
      by_cases hb : y = '\\'
      · subst hb
        simp only [bump_bind, Reader.bind_ok] at h
        obtain ⟨x, c₁, hesc, h⟩ := h
        obtain ⟨w, hw, hs⟩ := escape_ok hesc
        simp only [Cursor.bump_rest, hr, List.tail_cons] at hw
        have hlen₁ : c₁.rest.length < fuel := by
          have := congrArg List.length hw
          simp only [List.length_append] at this
          omega
        obtain ⟨w', hw', hc⟩ := stringBody_ok h hlen₁
        exact ⟨'\\' :: w ++ w', by rw [hr, hw, hw']; simp, ClosesString.of_stays hs hc⟩
      · -- any other character stays in the string; a control character is refused
        simp at h
        split at h
        · simp at h
        simp only [bump_bind] at h
        have hlen₁ : c.bump.rest.length < fuel := by
          rw [Cursor.bump_rest, hr, List.tail_cons]
          omega
        obtain ⟨w', hw', hc⟩ := stringBody_ok h hlen₁
        rw [Cursor.bump_rest, hr, List.tail_cons] at hw'
        exact ⟨y :: w', by rw [hr, hw']; rfl,
          ClosesString.of_stays (StaysInString.plain hq hb) hc⟩

/-- Reading a string after its opening quote goes over a word that closes it. -/
theorem string_ok {c c' : Cursor} {s : String} (h : string c = .ok (s, c')) : Closes c c' := by
  simp only [string, get_bind] at h
  exact stringBody_ok h (Nat.lt_succ_self _)

/-! ### Skipping values -/

theorem Plains.bump_of {c : Cursor} (hx : ∀ x, c.rest.head? = some x → Plain x) :
    Plains c c.bump := by
  cases hr : c.rest with
  | nil => exact ⟨[], by simp [hr, Cursor.bump_rest], by simp⟩
  | cons x t => exact Plains.bump (by simp [hr]) (hx x (by simp [hr]))

theorem plain_of_isDigit {x : Char} (h : x.isDigit = true) : Plain x := by
  refine ⟨?_, ?_, ?_, ?_, ?_⟩ <;> (rintro rfl; revert h; decide)

/-- Skipping a string body, with fuel enough for the text left, goes over a word that closes the
string. -/
theorem skipStringBody_ok : ∀ {fuel : Nat} {c c' : Cursor},
    skipStringBody fuel c = .ok ((), c') → c.rest.length < fuel → Closes c c'
  | 0, _, _, _, hlen => absurd hlen (Nat.not_lt_zero _)
  | fuel + 1, c, c', h, hlen => by
    simp only [skipStringBody, peek_bind] at h
    cases hr : c.rest with
    | nil => simp [hr] at h
    | cons y t =>
      simp only [hr, List.head?_cons] at h
      rw [hr, List.length_cons] at hlen
      by_cases hq : y = '"'
      · subst hq
        simp only [bump_apply, Except.ok.injEq, Prod.mk.injEq] at h
        obtain ⟨-, rfl⟩ := h
        exact ⟨['"'], by simp [hr, Cursor.bump_rest], ClosesString.quote⟩
      by_cases hb : y = '\\'
      · subst hb
        simp only [bump_bind, peek_bind, Cursor.bump_rest, hr, List.tail_cons] at h
        cases ht : t with
        | nil => simp [ht] at h
        | cons z t' =>
          simp only [ht, List.head?_cons] at h
          rw [ht, List.length_cons] at hlen
          -- after the escape letter (and the four digits of `\u`), the body goes on
          by_cases hz : z = 'u'
          · subst hz
            simp only [beq_self_eq_true, if_true, bump_bind, Reader.bind_ok] at h
            obtain ⟨n, c₁, hhex, h⟩ := h
            obtain ⟨w, hw, hs⟩ := stays_of_hex4 hhex
            simp only [Cursor.bump_rest, hr, ht, List.tail_cons] at hw
            have hlen₁ : c₁.rest.length < fuel := by
              have := congrArg List.length hw
              simp only [List.length_append] at this
              omega
            obtain ⟨w', hw', hc⟩ := skipStringBody_ok h hlen₁
            refine ⟨'\\' :: 'u' :: w ++ w', by rw [hr, ht, hw, hw']; simp, ?_⟩
            exact ClosesString.of_stays ((StaysInString.escape 'u').append hs) hc
          · simp only [beq_iff_eq, hz, if_false] at h
            split at h
            · simp only [bump_bind] at h
              have hlen₁ : c.bump.bump.rest.length < fuel := by
                simp only [Cursor.bump_rest, hr, ht, List.tail_cons]
                omega
              obtain ⟨w', hw', hc⟩ := skipStringBody_ok h hlen₁
              simp only [Cursor.bump_rest, hr, ht, List.tail_cons] at hw'
              exact ⟨'\\' :: z :: w', by rw [hr, ht, hw']; rfl,
                ClosesString.of_stays (StaysInString.escape z) hc⟩
            · simp at h
      · -- any other character stays in the string; a control character is refused
        simp at h
        split at h
        · simp at h
        simp only [bump_bind] at h
        have hlen₁ : c.bump.rest.length < fuel := by
          rw [Cursor.bump_rest, hr, List.tail_cons]
          omega
        obtain ⟨w', hw', hc⟩ := skipStringBody_ok h hlen₁
        rw [Cursor.bump_rest, hr, List.tail_cons] at hw'
        exact ⟨y :: w', by rw [hr, hw']; rfl,
          ClosesString.of_stays (StaysInString.plain hq hb) hc⟩

theorem skipString_ok {c c' : Cursor} (h : skipString c = .ok ((), c')) : Closes c c' := by
  simp only [skipString, get_bind] at h
  exact skipStringBody_ok h (Nat.lt_succ_self _)

/-- Skipping digits goes over plain characters. -/
theorem skipDigits_ok : ∀ {fuel : Nat} {c c' : Cursor}, skipDigits fuel c = .ok ((), c') →
    Plains c c'
  | 0, c, c', h => by
    simp only [skipDigits, Reader.pure_apply, Except.ok.injEq, Prod.mk.injEq] at h
    rw [← h.2]
    exact Plains.refl c
  | fuel + 1, c, c', h => by
    simp only [skipDigits, peek_bind] at h
    cases hr : c.rest with
    | nil =>
      simp only [hr, List.head?_nil, Reader.pure_apply, Except.ok.injEq, Prod.mk.injEq] at h
      rw [← h.2]
      exact Plains.refl c
    | cons y t =>
      simp only [hr, List.head?_cons] at h
      split at h
      · rename_i hd
        simp only [bump_bind] at h
        exact (Plains.bump (by simp [hr]) (plain_of_isDigit hd)).trans (skipDigits_ok h)
      · simp only [Reader.pure_apply, Except.ok.injEq, Prod.mk.injEq] at h
        rw [← h.2]
        exact Plains.refl c


/-- A digit, read, and the digits after it. -/
theorem digit_ok {c c' : Cursor} {y : Char} {u : Unit} (hy : c.rest.head? = some y)
    (h : (if y.isDigit then do
          bump
          skipDigits ((← get).rest.length + 1)
        else failNext (.malformed .invalidNumber) : Reader Unit) c = .ok (u, c')) :
    Plains c c' := by
  split at h
  · rename_i hd
    simp only [bump_bind, get_bind] at h
    exact (Plains.bump hy (plain_of_isDigit hd)).trans (skipDigits_ok h)
  · simp at h

/-- At least one digit, read. -/
theorem digits_ok {c c' : Cursor} {u : Unit}
    (h : (match c.rest.head? with
      | some c =>
        if c.isDigit then do
          bump
          skipDigits ((← get).rest.length + 1)
        else failNext (.malformed .invalidNumber)
      | none => failHere (.malformed .invalidNumber) : Reader Unit) c = .ok (u, c')) :
    Plains c c' := by
  cases hr : c.rest with
  | nil => simp [hr] at h
  | cons y t =>
    simp only [hr, List.head?_cons] at h
    exact digit_ok (by simp [hr]) h

/-- Skipping an exponent after its plain first letter goes over plain characters. -/
theorem skipExponent_ok {c c' : Cursor} (hx : ∀ x, c.rest.head? = some x → Plain x)
    (h : skipExponent c = .ok ((), c')) : Plains c c' := by
  simp only [skipExponent, bump_bind, peek_bind] at h
  have h₀ := Plains.bump_of hx
  -- an optional sign, then the digits
  cases hr : c.bump.rest with
  | nil => simp [hr] at h
  | cons y t =>
    by_cases hp : y = '+' ∨ y = '-'
    · have hy : Plain y := by rcases hp with rfl | rfl <;> decide
      have h₁ := h₀.trans (Plains.bump (x := y) (by rw [hr]; rfl) hy)
      rcases hp with rfl | rfl <;>
      · simp only [hr, List.head?_cons, bump_bind, peek_bind] at h
        exact h₁.trans (digits_ok h)
    · simp only [not_or] at hp
      obtain ⟨h₁, h₂⟩ := hp
      simp [hr, h₁, h₂] at h
      exact h₀.trans (digit_ok (by rw [hr]; rfl) h)


/-- An optional exponent after a number's digits. -/
theorem exponentTail_ok {c c' : Cursor} {u : Unit}
    (h : (match c.rest.head? with
      | some 'e' | some 'E' => skipExponent
      | _ => pure () : Reader Unit) c = .ok (u, c')) : Plains c c' := by
  cases hr : c.rest with
  | nil =>
    simp only [hr, List.head?_nil, Reader.pure_apply, Except.ok.injEq, Prod.mk.injEq] at h
    rw [← h.2]
    exact Plains.refl c
  | cons y t =>
    by_cases he : y = 'e' ∨ y = 'E'
    · have hy : ∀ x, c.rest.head? = some x → Plain x := by
        intro x hx
        rw [hr, List.head?_cons, Option.some.injEq] at hx
        subst hx
        rcases he with rfl | rfl <;> decide
      rcases he with rfl | rfl <;>
      · simp only [hr, List.head?_cons] at h
        exact skipExponent_ok hy h
    · simp only [not_or] at he
      obtain ⟨h₁, h₂⟩ := he
      simp [hr, h₁, h₂] at h
      rw [← h]
      exact Plains.refl c

theorem skipFraction_ok {c c' : Cursor} (hx : ∀ x, c.rest.head? = some x → Plain x)
    (h : skipFraction c = .ok ((), c')) : Plains c c' := by
  simp only [skipFraction, bump_bind, peek_bind] at h
  have h₀ := Plains.bump_of hx
  -- the digits, then perhaps an exponent
  cases hr : c.bump.rest with
  | nil => simp [hr] at h
  | cons y t =>
    simp only [hr, List.head?_cons] at h
    split at h
    · simp only [get_bind, Reader.bind_ok, peek_bind] at h
      obtain ⟨u, c₁, hdigits, h⟩ := h
      exact (h₀.trans (skipDigits_ok hdigits)).trans (exponentTail_ok h)
    · simp at h

/-- An optional fraction or exponent after a number's integer digits. -/
theorem numberTail_ok {c c' : Cursor} {u : Unit}
    (h : (match c.rest.head? with
      | some '.' => skipFraction
      | some 'e' | some 'E' => skipExponent
      | _ => pure () : Reader Unit) c = .ok (u, c')) : Plains c c' := by
  cases hr : c.rest with
  | nil =>
    simp only [hr, List.head?_nil, Reader.pure_apply, Except.ok.injEq, Prod.mk.injEq] at h
    rw [← h.2]
    exact Plains.refl c
  | cons y t =>
    by_cases hs : y = '.' ∨ y = 'e' ∨ y = 'E'
    · have hy : ∀ x, c.rest.head? = some x → Plain x := by
        intro x hx
        rw [hr, List.head?_cons, Option.some.injEq] at hx
        subst hx
        rcases hs with rfl | rfl | rfl <;> decide
      rcases hs with rfl | rfl | rfl
      · simp only [hr, List.head?_cons] at h
        exact skipFraction_ok hy h
      all_goals
        simp only [hr, List.head?_cons] at h
        exact skipExponent_ok hy h
    · simp only [not_or] at hs
      obtain ⟨h₁, h₂, h₃⟩ := hs
      simp [hr, h₁, h₂, h₃] at h
      rw [← h]
      exact Plains.refl c

/-- Skipping a number goes over plain characters. -/
theorem skipNumber_ok {c c' : Cursor} (h : skipNumber c = .ok ((), c')) : Plains c c' := by
  simp only [skipNumber, peek_bind] at h
  cases hr : c.rest with
  | nil => simp [hr] at h
  | cons y t =>
    simp only [hr, List.head?_cons] at h
    by_cases h0 : y = '0'
    · -- a single zero, which no digit may follow
      subst h0
      simp only [beq_self_eq_true, if_true, bump_bind, peek_bind] at h
      have h₀ : Plains c c.bump := Plains.bump (x := '0') (by simp [hr]) (by decide)
      cases hr' : c.bump.rest with
      | nil =>
        simp only [hr', List.head?_nil, peek_bind, Reader.pure_apply, Except.ok.injEq,
          Prod.mk.injEq] at h
        rw [← h.2]
        exact h₀
      | cons d t' =>
        simp only [hr', List.head?_cons] at h
        split at h
        · simp at h
        · simp only [peek_bind] at h
          exact h₀.trans (numberTail_ok h)
    · simp only [beq_iff_eq, h0, if_false] at h
      split at h
      · rename_i hd
        simp only [bump_bind, get_bind, Reader.bind_ok, peek_bind] at h
        obtain ⟨u, c₁, hdigits, h⟩ := h
        have h₀ : Plains c c.bump := Plains.bump (by simp [hr]) (plain_of_isDigit hd)
        exact (h₀.trans (skipDigits_ok hdigits)).trans (numberTail_ok h)
      · simp at h


/-- Skipping whitespace goes over plain characters. -/
theorem plains_skipWsFrom (c : Cursor) : Plains c (skipWsFrom c.rest c.line c.col) :=
  (skipWs_ok (skipWs_apply c)).1

/-- A literal after its first letter, all plain, read. -/
theorem Plains.literal {c c' : Cursor} {y : Char} {es : List Char} (hy : c.rest.head? = some y)
    (hp : ∀ x ∈ y :: es, Plain x) (h : literal es c.bump = .ok ((), c')) : Plains c c' := by
  have h₁ := Plains.bump hy (hp y List.mem_cons_self)
  exact h₁.trans ⟨es, literal_ok h, fun x hx => hp x (List.mem_cons_of_mem _ hx)⟩

/-- The colon after a key, read. -/
theorem colon_ok {c c' : Cursor} {u : Unit} (h : colon c = .ok (u, c')) : Plains c c' := by
  simp only [colon, skipWs_bind] at h
  have h₀ := plains_skipWsFrom c
  generalize skipWsFrom c.rest c.line c.col = c₁ at h h₀
  cases hr : c₁.rest with
  | nil => simp [hr] at h
  | cons y t =>
    simp only [hr, List.head?_cons] at h
    by_cases hy : y = ':'
    · subst hy
      simp only [bump_apply, Except.ok.injEq, Prod.mk.injEq] at h
      rw [← h.2]
      exact h₀.trans (Plains.bump (x := ':') (by simp [hr]) (by decide))
    · simp at h

theorem skipKey_ok {c c' : Cursor} (h : skipKey c = .ok ((), c')) : Balances c c' 0 := by
  simp only [skipKey, skipWs_bind] at h
  have h₀ := plains_skipWsFrom c
  generalize skipWsFrom c.rest c.line c.col = c₁ at h h₀
  cases hr : c₁.rest with
  | nil => simp [hr] at h
  | cons y t =>
    simp only [hr, List.head?_cons] at h
    by_cases hy : y = '"'
    · subst hy
      simp only [bump_bind] at h
      rw [Reader.bind_ok] at h
      obtain ⟨u, c₂, hs, h⟩ := h
      have hkey := Balances.string (by simp [hr]) (skipString_ok hs)
      exact ((Balances.of_plains h₀).trans hkey).trans (Balances.of_plains (colon_ok h))
    · simp at h


mutual

/-- **A skipped value is a balanced word.** -/
theorem skipValue_ok : ∀ {fuel : Nat} {c c' : Cursor}, skipValue fuel c = .ok ((), c') →
    ∃ h, Balances c c' h
  | 0, c, c', h => by simp [skipValue] at h
  | fuel + 1, c, c', h => by
    simp only [skipValue, skipWs_bind] at h
    have h₀ := Balances.of_plains (plains_skipWsFrom c)
    generalize skipWsFrom c.rest c.line c.col = c₁ at h h₀
    cases hr : c₁.rest with
    | nil => simp [hr] at h
    | cons y t =>
      have hy : c₁.rest.head? = some y := by simp [hr]
      simp only [hr, List.head?_cons] at h
      -- a bracket: the items up to the matching closing bracket
      by_cases hb : y = '[' ∨ y = '{'
      · have hitems :
            ∃ e, (e = '}' ∨ e = ']') ∧ skipItems fuel e false c₁.bump = .ok ((), c') := by
          rcases hb with rfl | rfl
          · simp only [bump_bind] at h
            exact ⟨']', Or.inr rfl, h⟩
          · simp only [bump_bind] at h
            exact ⟨'}', Or.inl rfl, h⟩
        obtain ⟨e, he, hitems⟩ := hitems
        obtain ⟨hin, c₂, hin₂, hclose, hrest⟩ := skipItems_ok hitems he
        exact ⟨_, h₀.trans (Balances.wrap hb.symm he hy hin₂ hclose c' hrest)⟩
      -- a string: a quote and its body
      by_cases hq : y = '"'
      · subst hq
        simp only [bump_bind] at h
        exact ⟨_, h₀.trans (Balances.string hy (skipString_ok h))⟩
      -- anything else is plain: a literal or a number
      have hplain : Plains c₁ c' := by
        by_cases hn : y = 'n'
        · subst hn
          simp only [bump_bind] at h
          exact Plains.literal hy (by simp [Plain]) h
        by_cases ht : y = 't'
        · subst ht
          simp only [bump_bind] at h
          exact Plains.literal hy (by simp [Plain]) h
        by_cases hf : y = 'f'
        · subst hf
          simp only [bump_bind] at h
          exact Plains.literal hy (by simp [Plain]) h
        by_cases hm : y = '-'
        · subst hm
          simp only [bump_bind] at h
          exact (Plains.bump hy (by decide)).trans (skipNumber_ok h)
        simp only [not_or] at hb
        obtain ⟨hb₁, hb₂⟩ := hb
        -- the patterns above all miss, which `simp` reads off the hypotheses
        simp at h
        split at h
        · exact skipNumber_ok h
        · simp at h
      exact ⟨_, h₀.trans (Balances.of_plains hplain)⟩

/-- Skipped items or fields, up to and with the closing bracket `e`, are a balanced word
followed by that bracket. -/
theorem skipItems_ok : ∀ {fuel : Nat} {e : Char} {more : Bool} {c c' : Cursor},
    skipItems fuel e more c = .ok ((), c') → (e = '}' ∨ e = ']') →
    ∃ h c₁, Balances c c₁ h ∧ c₁.rest.head? = some e ∧ c'.rest = c₁.rest.tail
  | 0, _, _, c, c', h, _ => by simp [skipItems] at h
  | fuel + 1, e, more, c, c', h, he => by
    simp only [skipItems, skipWs_bind] at h
    have h₀ := Balances.of_plains (plains_skipWsFrom c)
    generalize skipWsFrom c.rest c.line c.col = c₁ at h h₀
    cases hr : c₁.rest with
    | nil => simp [hr] at h
    | cons y t =>
      have hy : c₁.rest.head? = some y := by simp [hr]
      simp only [hr, List.head?_cons] at h
      -- after an optional comma: an optional key, a value, and the items after it
      have hchain : ∀ {c₂ : Cursor} {h₂ : Nat}, Balances c c₂ h₂ →
          (if (e == '}') = true then do skipKey; skipValue fuel; skipItems fuel e true
            else do skipValue fuel; skipItems fuel e true : Reader Unit) c₂ = .ok ((), c') →
          ∃ h c₁, Balances c c₁ h ∧ c₁.rest.head? = some e ∧ c'.rest = c₁.rest.tail := by
        intro c₂ h₂ hb₂ h
        have hkey : ∃ c₃, Balances c₂ c₃ 0 ∧
            (do skipValue fuel; skipItems fuel e true : Reader Unit) c₃ = .ok ((), c') := by
          split at h
          · rw [Reader.bind_ok] at h
            obtain ⟨u, c₃, hk, h⟩ := h
            exact ⟨c₃, skipKey_ok hk, h⟩
          · exact ⟨c₂, Balances.refl c₂, h⟩
        obtain ⟨c₃, hb₃, h⟩ := hkey
        rw [Reader.bind_ok] at h
        obtain ⟨u, c₄, hv, h⟩ := h
        obtain ⟨hv, hbv⟩ := skipValue_ok hv
        obtain ⟨hi, c₅, hbi, hclose, hrest⟩ := skipItems_ok h he
        exact ⟨_, c₅, ((hb₂.trans hb₃).trans hbv).trans hbi, hclose, hrest⟩
      split at h
      · -- the closing bracket
        rename_i hye
        simp only [beq_iff_eq] at hye
        subst hye
        simp only [bump_apply, Except.ok.injEq, Prod.mk.injEq] at h
        exact ⟨0, c₁, h₀, hy, by rw [← h.2, Cursor.bump_rest]⟩
      split at h
      · -- a comma, then the next item
        rename_i hcomma
        simp only [Bool.and_eq_true, beq_iff_eq] at hcomma
        simp only [bump_bind] at h
        have hb₁ : Balances c c₁.bump 0 :=
          h₀.trans (Balances.of_plains (Plains.bump hy (by rw [hcomma.1]; decide)))
        exact hchain hb₁ h
      split at h
      · simp at h
      · exact hchain h₀ h

end


/-! ### Punctuation -/

theorem closeObject_ok {c c' : Cursor} (h : closeObject c = .ok ((), c')) :
    ∃ c₁, Plains c c₁ ∧ c₁.rest.head? = some '}' ∧ c'.rest = c₁.rest.tail := by
  simp only [closeObject, skipWs_bind] at h
  have h₀ := plains_skipWsFrom c
  generalize skipWsFrom c.rest c.line c.col = c₁ at h h₀
  cases hr : c₁.rest with
  | nil => simp [hr] at h
  | cons y t =>
    simp only [hr, List.head?_cons] at h
    by_cases hy : y = '}'
    · subst hy
      simp only [bump_apply, Except.ok.injEq, Prod.mk.injEq] at h
      exact ⟨c₁, h₀, by simp [hr], by rw [← h.2, Cursor.bump_rest]⟩
    · by_cases hc : y = ','
      · subst hc
        simp at h
      · simp at h

theorem closeArray_ok {c c' : Cursor} (h : closeArray c = .ok ((), c')) :
    ∃ c₁, Plains c c₁ ∧ c₁.rest.head? = some ']' ∧ c'.rest = c₁.rest.tail := by
  simp only [closeArray, skipWs_bind] at h
  have h₀ := plains_skipWsFrom c
  generalize skipWsFrom c.rest c.line c.col = c₁ at h h₀
  cases hr : c₁.rest with
  | nil => simp [hr] at h
  | cons y t =>
    simp only [hr, List.head?_cons] at h
    by_cases hy : y = ']'
    · subst hy
      simp only [bump_apply, Except.ok.injEq, Prod.mk.injEq] at h
      exact ⟨c₁, h₀, by simp [hr], by rw [← h.2, Cursor.bump_rest]⟩
    · by_cases hc : y = ','
      · subst hc
        simp only [bump_bind, skipWs_bind] at h
        generalize skipWsFrom c₁.bump.rest c₁.bump.line c₁.bump.col = c₂ at h
        cases hr₂ : c₂.rest with
        | nil => simp [hr₂] at h
        | cons z u =>
          simp only [hr₂, List.head?_cons] at h
          by_cases hz : z = ']'
          · subst hz; simp at h
          · simp [hz] at h
      · simp at h

theorem nextItem_ok {c c' : Cursor} {first b : Bool} (h : nextItem first c = .ok (b, c')) :
    Plains c c' := by
  simp only [nextItem, skipWs_bind] at h
  have h₀ := plains_skipWsFrom c
  generalize skipWsFrom c.rest c.line c.col = c₁ at h h₀
  cases hr : c₁.rest with
  | nil => simp [hr] at h
  | cons y t =>
    simp only [hr, List.head?_cons] at h
    by_cases hy : y = ']'
    · subst hy
      simp only [Reader.pure_apply, Except.ok.injEq, Prod.mk.injEq] at h
      rw [← h.2]
      exact h₀
    by_cases hc : y = ','
    · subst hc
      cases first
      · simp only [Bool.false_eq_true, if_false, bump_bind] at h
        rw [skipWs_bind] at h
        have h₁ := h₀.trans (Plains.bump (x := ',') (by simp [hr]) (by decide))
        have h₂ := h₁.trans (plains_skipWsFrom c₁.bump)
        generalize skipWsFrom c₁.bump.rest c₁.bump.line c₁.bump.col = c₂ at h h₂
        cases hr₂ : c₂.rest with
        | nil => simp [hr₂] at h
        | cons z u =>
          simp only [hr₂, List.head?_cons] at h
          by_cases hz : z = ']'
          · subst hz; simp at h
          · simp at h
            rw [← h.2]
            exact h₂
      · simp only [if_true, Reader.pure_apply, Except.ok.injEq, Prod.mk.injEq] at h
        rw [← h.2]
        exact h₀
    · cases first
      · simp at h
      · simp at h
        rw [← h.2]
        exact h₀

/-- The key after what precedes it: read when a quote stands at the cursor. -/
theorem key_ok {c c' : Cursor} {o : Option Char} {k : Option String}
    (ho : o = c.rest.head?)
    (h : (match some o with
      | none => pure none
      | some (some '"') => do bump; let s ← string; pure (some s)
      | some (some '}') => failNext (.malformed .trailingComma)
      | some (some _) => failNext (.malformed .keyMustBeString)
      | some none => failNext (.malformed .eofValue) : Reader (Option String)) c = .ok (k, c')) :
    Balances c c' 0 := by
  cases o with
  | none => simp at h
  | some y =>
    by_cases hq : y = '"'
    · subst hq
      simp only [bump_bind] at h
      rw [Reader.bind_ok] at h
      obtain ⟨s, c₂, hs, h⟩ := h
      simp only [Reader.pure_apply, Except.ok.injEq, Prod.mk.injEq] at h
      rw [← h.2]
      exact Balances.string ho.symm (string_ok hs)
    · by_cases hb : y = '}'
      · subst hb; simp at h
      · simp at h

theorem nextKey_ok {c c' : Cursor} {first : Bool} {k : Option String}
    (h : nextKey first c = .ok (k, c')) : Balances c c' 0 := by
  rw [nextKey, skipWs_bind] at h
  have h₀ := plains_skipWsFrom c
  generalize skipWsFrom c.rest c.line c.col = c₁ at h h₀
  cases hr : c₁.rest with
  | nil => simp [hr] at h
  | cons y t =>
    simp only [hr, List.head?_cons] at h
    by_cases hy : y = '}'
    · subst hy
      simp only [pure_bind, Reader.pure_apply, Except.ok.injEq, Prod.mk.injEq] at h
      rw [← h.2]
      exact Balances.of_plains h₀
    by_cases hc : y = ','
    · subst hc
      cases first
      · simp only [Bool.false_eq_true, if_false, bump_bind, pure_bind] at h
        rw [skipWs_bind] at h
        have h₂ := h₀.trans (Plains.bump (x := ',') (by simp [hr]) (by decide))
        have := (Balances.of_plains (h₂.trans (plains_skipWsFrom c₁.bump))).trans (key_ok rfl h)
        simpa using this
      · simp at h
    · cases first
      · simp at h
      · simp only [if_true, pure_bind] at h
        have := (Balances.of_plains h₀).trans (key_ok (by simp [hr]) h)
        simpa using this

/-! ### Typed values -/

/-- A value of the wrong kind is never read. -/
theorem refuse_ne_ok {α : Type} (e : String) (c c' : Cursor) (x : α) :
    refuse e c ≠ .ok (x, c') := by
  intro h
  rw [refuse, peek_bind] at h
  cases hr : c.rest with
  | nil => simp [hr] at h
  | cons y t =>
    simp only [hr, List.head?_cons] at h
    -- every branch ends in an error, once its character is known
    by_cases hn : y = 'n'
    · subst hn; simp [Reader.bind_ok] at h
    by_cases ht : y = 't'
    · subst ht; simp [Reader.bind_ok] at h
    by_cases hf : y = 'f'
    · subst hf; simp [Reader.bind_ok] at h
    by_cases hm : y = '-'
    · subst hm; simp [Reader.bind_ok] at h
    by_cases hq : y = '"'
    · subst hq; simp [Reader.bind_ok] at h
    by_cases ha : y = '['
    · subst ha; simp at h
    by_cases ho : y = '{'
    · subst ho; simp at h
    simp only at h
    split at h <;> simp [Reader.bind_ok] at h

theorem readString_ok {c c' : Cursor} {s : String} (h : readString c = .ok (s, c')) :
    Balances c c' 0 := by
  rw [readString, skipWs_bind] at h
  have h₀ := plains_skipWsFrom c
  generalize skipWsFrom c.rest c.line c.col = c₁ at h h₀
  cases hr : c₁.rest with
  | nil => simp [hr] at h
  | cons y t =>
    simp only [hr, List.head?_cons] at h
    by_cases hq : y = '"'
    · subst hq
      simp only [bump_bind] at h
      have := (Balances.of_plains h₀).trans (Balances.string (by simp [hr]) (string_ok h))
      simpa using this
    · simp only at h
      exact absurd h (refuse_ne_ok _ _ _ _)

theorem readOptString_ok {c c' : Cursor} {s : Option String}
    (h : readOptString c = .ok (s, c')) : Balances c c' 0 := by
  rw [readOptString, skipWs_bind] at h
  have h₀ := plains_skipWsFrom c
  generalize skipWsFrom c.rest c.line c.col = c₁ at h h₀
  cases hr : c₁.rest with
  | nil =>
    simp only [hr, List.head?_nil] at h
    obtain ⟨_, h, -⟩ := Reader.map_ok.1 h
    have := (Balances.of_plains h₀).trans (readString_ok h)
    simpa using this
  | cons y t =>
    simp only [hr, List.head?_cons] at h
    by_cases hn : y = 'n'
    · subst hn
      simp only [bump_bind] at h
      rw [Reader.bind_ok] at h
      obtain ⟨u, c₂, hl, h⟩ := h
      simp only [Reader.pure_apply, Except.ok.injEq, Prod.mk.injEq] at h
      rw [← h.2]
      exact Balances.of_plains
        (h₀.trans (Plains.literal (y := 'n') (by simp [hr]) (by simp [Plain]) hl))
    · simp [hn] at h
      obtain ⟨_, h, -⟩ := Reader.map_ok.1 h
      have := (Balances.of_plains h₀).trans (readString_ok h)
      simpa using this

theorem readBool_ok {c c' : Cursor} {b : Bool} (h : readBool c = .ok (b, c')) :
    Plains c c' := by
  rw [readBool, skipWs_bind] at h
  have h₀ := plains_skipWsFrom c
  generalize skipWsFrom c.rest c.line c.col = c₁ at h h₀
  cases hr : c₁.rest with
  | nil => simp [hr] at h
  | cons y t =>
    simp only [hr, List.head?_cons] at h
    by_cases ht : y = 't'
    · subst ht
      simp only [bump_bind] at h
      rw [Reader.bind_ok] at h
      obtain ⟨u, c₂, hl, h⟩ := h
      simp only [Reader.pure_apply, Except.ok.injEq, Prod.mk.injEq] at h
      rw [← h.2]
      exact h₀.trans (Plains.literal (y := 't') (by simp [hr]) (by simp [Plain]) hl)
    by_cases hf : y = 'f'
    · subst hf
      simp only [bump_bind] at h
      rw [Reader.bind_ok] at h
      obtain ⟨u, c₂, hl, h⟩ := h
      simp only [Reader.pure_apply, Except.ok.injEq, Prod.mk.injEq] at h
      rw [← h.2]
      exact h₀.trans (Plains.literal (y := 'f') (by simp [hr]) (by simp [Plain]) hl)
    simp at h
    exact absurd h (refuse_ne_ok _ _ _ _)

section Struct

variable {α : Type} {m : α → Nat}

/-- The fields of a struct inside its brackets, read, with the closing bracket. -/
theorem struct_ok {o e : Char} (ho : o = '{' ∨ o = '[') (he : e = '}' ∨ e = ']')
    {form : Reader (Except String α)} {close : Reader Unit}
    (hform : ∀ {c r c'}, form c = .ok (r, c') →
      ∃ h, Balances c c' h ∧ ∀ v, r = .ok v → m v ≤ h)
    (hclose : ∀ {c c'}, close c = .ok ((), c') →
      ∃ c₁, Plains c c₁ ∧ c₁.rest.head? = some e ∧ c'.rest = c₁.rest.tail)
    {c c' : Cursor} {v : α} (hopen : c.rest.head? = some o)
    (h : (do
      match ← form with
      | .ok v => close; pure v
      | .error m => settle e; failHere (.custom m) : Reader α) c.bump = .ok (v, c')) :
    ∃ h, Balances c c' h ∧ m v + 1 ≤ h := by
  rw [Reader.bind_ok] at h
  obtain ⟨r, c₂, hf, h⟩ := h
  obtain ⟨h₁, hb, hm⟩ := hform hf
  cases r with
  | error msg => simp [Reader.bind_ok] at h
  | ok w =>
    simp only at h
    rw [Reader.bind_ok] at h
    obtain ⟨u, c₃, hc, h⟩ := h
    simp only [Reader.pure_apply, Except.ok.injEq, Prod.mk.injEq] at h
    obtain ⟨rfl, rfl⟩ := h
    obtain ⟨c₄, hp, he₄, hc₄⟩ := hclose hc
    have hin : Balances c.bump c₄ h₁ := by
      simpa using hb.trans (Balances.of_plains hp)
    exact ⟨h₁ + 1, hin.wrap ho he hopen he₄ c₃ hc₄, by simpa using hm w rfl⟩

/-- **A struct** read in either form goes over a bracket pair around what its form went over. -/
theorem readStruct_ok {ex : String} {seqForm mapForm : Reader (Except String α)}
    (hseq : ∀ {c r c'}, seqForm c = .ok (r, c') →
      ∃ h, Balances c c' h ∧ ∀ v, r = .ok v → m v ≤ h)
    (hmap : ∀ {c r c'}, mapForm c = .ok (r, c') →
      ∃ h, Balances c c' h ∧ ∀ v, r = .ok v → m v ≤ h)
    {c c' : Cursor} {v : α} (h : readStruct ex seqForm mapForm c = .ok (v, c')) :
    ∃ h, Balances c c' h ∧ m v + 1 ≤ h := by
  rw [readStruct, skipWs_bind] at h
  have h₀ := plains_skipWsFrom c
  generalize skipWsFrom c.rest c.line c.col = c₁ at h h₀
  cases hr : c₁.rest with
  | nil => simp [hr] at h
  | cons y t =>
    simp only [hr, List.head?_cons] at h
    by_cases ha : y = '['
    · subst ha
      simp only [bump_bind] at h
      obtain ⟨h₁, hb, hm⟩ :=
        struct_ok (Or.inr rfl) (Or.inr rfl) hseq closeArray_ok (by simp [hr]) h
      exact ⟨h₁, by simpa using (Balances.of_plains h₀).trans hb, hm⟩
    by_cases ho : y = '{'
    · subst ho
      simp only [bump_bind] at h
      obtain ⟨h₁, hb, hm⟩ :=
        struct_ok (Or.inl rfl) (Or.inl rfl) hmap closeObject_ok (by simp [hr]) h
      exact ⟨h₁, by simpa using (Balances.of_plains h₀).trans hb, hm⟩
    simp at h
    exact absurd h (refuse_ne_ok _ _ _ _)

end Struct

section Items

variable {α : Type} {m : α → Nat} {item : Reader α}

/-- **Array items** read one by one go over words as high as each item's measure. -/
theorem readItems_ok
    (hitem : ∀ {c x c'}, item c = .ok (x, c') → ∃ h, Balances c c' h ∧ m x ≤ h) :
    ∀ {fuel : Nat} {first : Bool} {acc xs : List α} {c c' : Cursor},
      readItems item fuel first acc c = .ok (xs, c') →
      ∃ h, Balances c c' h ∧ ∀ x ∈ xs, x ∈ acc ∨ m x ≤ h
  | 0, _, acc, xs, c, c', h => by
    simp only [readItems, Reader.pure_apply, Except.ok.injEq, Prod.mk.injEq] at h
    obtain ⟨rfl, rfl⟩ := h
    exact ⟨0, Balances.refl c, fun x hx => Or.inl (List.mem_reverse.1 hx)⟩
  | fuel + 1, first, acc, xs, c, c', h => by
    rw [readItems, Reader.bind_ok] at h
    obtain ⟨more, c₁, hn, h⟩ := h
    have h₁ := Balances.of_plains (nextItem_ok hn)
    cases more with
    | false =>
      simp only [Bool.false_eq_true, if_false, Reader.pure_apply, Except.ok.injEq,
        Prod.mk.injEq] at h
      obtain ⟨rfl, rfl⟩ := h
      exact ⟨0, h₁, fun x hx => Or.inl (List.mem_reverse.1 hx)⟩
    | true =>
      simp only [if_true] at h
      rw [Reader.bind_ok] at h
      obtain ⟨v, c₂, hv, h⟩ := h
      obtain ⟨h₂, hb₂, hm₂⟩ := hitem hv
      obtain ⟨h₃, hb₃, hm₃⟩ := readItems_ok hitem h
      refine ⟨max h₂ h₃, by simpa using h₁.trans (hb₂.trans hb₃), fun x hx => ?_⟩
      rcases hm₃ x hx with hx | hx
      · rcases List.mem_cons.1 hx with rfl | hx
        · exact Or.inr (Nat.le_trans hm₂ (Nat.le_max_left _ _))
        · exact Or.inl hx
      · exact Or.inr (Nat.le_trans hx (Nat.le_max_right _ _))

/-- The next field of a struct written as an array. -/
theorem nextField_ok
    (hitem : ∀ {c x c'}, item c = .ok (x, c') → ∃ h, Balances c c' h ∧ m x ≤ h)
    {first : Bool} {c c' : Cursor} {o : Option α} (h : nextField first item c = .ok (o, c')) :
    ∃ h, Balances c c' h ∧ ∀ x, o = some x → m x ≤ h := by
  rw [nextField, Reader.bind_ok] at h
  obtain ⟨more, c₁, hn, h⟩ := h
  have h₁ := Balances.of_plains (nextItem_ok hn)
  cases more with
  | false =>
    simp only [Bool.false_eq_true, if_false, Reader.pure_apply, Except.ok.injEq,
      Prod.mk.injEq] at h
    obtain ⟨rfl, rfl⟩ := h
    exact ⟨0, h₁, by simp⟩
  | true =>
    simp only [if_true] at h
    rw [Reader.bind_ok] at h
    obtain ⟨v, c₂, hv, h⟩ := h
    simp only [Reader.pure_apply, Except.ok.injEq, Prod.mk.injEq] at h
    obtain ⟨rfl, rfl⟩ := h
    obtain ⟨h₂, hb₂, hm₂⟩ := hitem hv
    exact ⟨h₂, by simpa using h₁.trans hb₂, by simpa using hm₂⟩

end Items

end PinAudit.Json
