import PinAudit.Proofs.ReaderScan

/-!
# JSON text and the nesting of its brackets

The grammar of JSON text (RFC 8259), as a relation `Writes` between a text and the value it
writes, and the bracket scan read against it: a text that writes a value is a balanced word as
high as the value is deep (`Writes.balanced`), so the scan stopped at a limit gives the depth
of the value while it is within the limit, and one past the limit otherwise.

`Writes` keeps an object's members as they are written, a repeated key included. A reader holds
the value `Value.canonical` instead: members sorted by key, a repeated key keeping its last
value (`Value.insertSorted`). Without repeated keys the two are equally deep
(`Value.depth_canonical`), while a member hidden by a later one with the same key may nest
deeper than anything in the value read, and the scan still counts its brackets
(`nestingWithin_repeatedKey`).

Which number a numeral stands for, with its rounding to a double, is not spelled out: no depth
reads a number, so a numeral is said to write every number.
-/

namespace PinAudit.Json

open Document

/-! ### The grammar -/

/-- `ws = *( %x20 / %x09 / %x0A / %x0D )` -/
def Blank (w : List Char) : Prop := ∀ c ∈ w, isWs c = true

/-- `unescaped = %x20-21 / %x23-5B / %x5D-10FFFF`: a character a string holds as written. -/
def Unescaped (c : Char) : Prop := 0x20 ≤ c.toNat ∧ c ≠ '"' ∧ c ≠ '\\'

/-- The escapes of one letter after the backslash, and the character each stands for. -/
def shortEscape : Char → Option Char
  | '"' => some '"'
  | '\\' => some '\\'
  | '/' => some '/'
  | 'b' => some (Char.ofNat 8)
  | 'f' => some (Char.ofNat 12)
  | 'n' => some '\n'
  | 'r' => some '\r'
  | 't' => some '\t'
  | _ => none

/-- `4HEXDIG` -/
def HexWord (h : List Char) : Prop := h.length = 4 ∧ ∀ x ∈ h, (hexValue x).isSome

/-- The number hexadecimal digits write. -/
def hexNumber (h : List Char) : Nat := h.foldl (fun n x => 16 * n + (hexValue x).getD 0) 0

/-- `*char`, the body of a string: the characters as written, and the characters they stand
for. A `\u` escape of a UTF-16 surrogate stands for a character only in a pair, a leading
surrogate and then a trailing one. -/
inductive StringChars : List Char → List Char → Prop
  | nil : StringChars [] []
  | plain {c : Char} {w s : List Char} :
      Unescaped c → StringChars w s → StringChars (c :: w) (c :: s)
  | short {e c : Char} {w s : List Char} :
      shortEscape e = some c → StringChars w s → StringChars ('\\' :: e :: w) (c :: s)
  | unicode {h w s : List Char} : HexWord h → (hexNumber h < 0xD800 ∨ 0xDFFF < hexNumber h) →
      StringChars w s → StringChars ('\\' :: 'u' :: h ++ w) (Char.ofNat (hexNumber h) :: s)
  | surrogates {h h' w s : List Char} : HexWord h → HexWord h' →
      0xD800 ≤ hexNumber h → hexNumber h ≤ 0xDBFF → 0xDC00 ≤ hexNumber h' →
      hexNumber h' ≤ 0xDFFF → StringChars w s →
      StringChars ('\\' :: 'u' :: h ++ '\\' :: 'u' :: h' ++ w)
        (Char.ofNat (0x10000 + (hexNumber h - 0xD800) * 0x400 + (hexNumber h' - 0xDC00)) :: s)

/-- `1*DIGIT` -/
def Digits (w : List Char) : Prop := w ≠ [] ∧ ∀ c ∈ w, c.isDigit = true

/-- `int = zero / ( digit1-9 *DIGIT )` -/
def IntegerPart (w : List Char) : Prop := w = ['0'] ∨ (w.head? ≠ some '0' ∧ Digits w)

/-- `[ frac ]`, where `frac = decimal-point 1*DIGIT` -/
def FractionPart (w : List Char) : Prop := w = [] ∨ ∃ ds, w = '.' :: ds ∧ Digits ds

/-- `[ exp ]`, where `exp = e [ minus / plus ] 1*DIGIT` -/
def ExponentPart (w : List Char) : Prop :=
  w = [] ∨ ∃ e sign ds, w = e :: sign ++ ds ∧ (e = 'e' ∨ e = 'E') ∧
    (sign = [] ∨ sign = ['-'] ∨ sign = ['+']) ∧ Digits ds

/-- `number = [ minus ] int [ frac ] [ exp ]` -/
def Numeral (w : List Char) : Prop :=
  ∃ sign i f e, w = sign ++ i ++ f ++ e ∧ (sign = [] ∨ sign = ['-']) ∧ IntegerPart i ∧
    FractionPart f ∧ ExponentPart e

/-- What a stretch of JSON text stands for: a whole value, the items between an array's
brackets, or the members between an object's braces. -/
inductive Piece
  | value
  | items
  | members

/-- **JSON text** (RFC 8259 §2 to §7): the characters write the piece of the value, members
in the order written. -/
inductive Writes : Piece → Value → List Char → Prop
  /-- `null` -/
  | null : Writes .value .null ['n', 'u', 'l', 'l']
  /-- `true` and `false` -/
  | bool (b : Bool) :
      Writes .value (.bool b) (if b then ['t', 'r', 'u', 'e'] else ['f', 'a', 'l', 's', 'e'])
  /-- A numeral, for any number. -/
  | num (n : Number) {w : List Char} : Numeral w → Writes .value (.num n) w
  /-- `string = quotation-mark *char quotation-mark` -/
  | str {w s : List Char} :
      StringChars w s → Writes .value (.str (String.ofList s)) ('"' :: w ++ ['"'])
  /-- `ws` around a value. -/
  | pad {v : Value} {a w b : List Char} :
      Blank a → Writes .value v w → Blank b → Writes .value v (a ++ w ++ b)
  /-- `array = begin-array [ value *( value-separator value ) ] end-array` -/
  | arr {vs : List Value} {w : List Char} :
      Writes .items (.arr vs) w → Writes .value (.arr vs) ('[' :: w ++ [']'])
  /-- `object = begin-object [ member *( value-separator member ) ] end-object` -/
  | obj {fs : List (String × Value)} {w : List Char} :
      Writes .members (.obj fs) w → Writes .value (.obj fs) ('{' :: w ++ ['}'])
  /-- No items: only `ws` between the brackets. -/
  | noItems {a : List Char} : Blank a → Writes .items (.arr []) a
  /-- The last item. -/
  | lastItem {v : Value} {w : List Char} : Writes .value v w → Writes .items (.arr [v]) w
  /-- An item, a comma, and the items after it. -/
  | item {v : Value} {vs : List Value} {w w' : List Char} : Writes .value v w → vs ≠ [] →
      Writes .items (.arr vs) w' → Writes .items (.arr (v :: vs)) (w ++ ',' :: w')
  /-- No members: only `ws` between the braces. -/
  | noMembers {a : List Char} : Blank a → Writes .members (.obj []) a
  /-- `member = string name-separator value`, the last one. -/
  | lastMember {k : String} {v : Value} {kw w : List Char} : Writes .value (.str k) kw →
      Writes .value v w → Writes .members (.obj [(k, v)]) (kw ++ ':' :: w)
  /-- A member, a comma, and the members after it. -/
  | member {k : String} {v : Value} {fs : List (String × Value)} {kw w w' : List Char} :
      Writes .value (.str k) kw → Writes .value v w → fs ≠ [] → Writes .members (.obj fs) w' →
      Writes .members (.obj ((k, v) :: fs)) (kw ++ ':' :: w ++ ',' :: w')

/-! ### Depth -/

namespace Value

mutual

/-- **The depth** of a value: how many arrays and objects nest in it. -/
def depth : Value → Nat
  | .arr vs => itemsDepth vs + 1
  | .obj fs => membersDepth fs + 1
  | _ => 0

/-- The depth of the deepest item. -/
def itemsDepth : List Value → Nat
  | [] => 0
  | v :: vs => max v.depth (itemsDepth vs)

/-- The depth of the deepest member's value. -/
def membersDepth : List (String × Value) → Nat
  | [] => 0
  | (_, v) :: fs => max v.depth (membersDepth fs)

end

end Value

/-- How deep the brackets of a piece nest: the depth of a whole value, and one less for the
inside of an array or an object. -/
def Piece.height : Piece → Value → Nat
  | .value, v => v.depth
  | _, v => v.depth - 1

/-! ### A text is a balanced word -/

theorem Blank.plain {w : List Char} (h : Blank w) : ∀ c ∈ w, Plain c :=
  fun c hc => plain_of_isWs (h c hc)

theorem Digits.plain {w : List Char} (h : Digits w) : ∀ c ∈ w, Plain c :=
  fun c hc => plain_of_isDigit (h.2 c hc)

theorem IntegerPart.plain {w : List Char} (h : IntegerPart w) : ∀ c ∈ w, Plain c := by
  rcases h with rfl | ⟨-, hd⟩
  · simp [Plain]
  · exact hd.plain

theorem FractionPart.plain {w : List Char} (h : FractionPart w) : ∀ c ∈ w, Plain c := by
  rcases h with rfl | ⟨ds, rfl, hd⟩
  · simp
  · intro c hc
    rcases List.mem_cons.1 hc with rfl | hc
    · simp [Plain]
    · exact hd.plain c hc

theorem ExponentPart.plain {w : List Char} (h : ExponentPart w) : ∀ c ∈ w, Plain c := by
  rcases h with rfl | ⟨e, sign, ds, rfl, he, hsign, hd⟩
  · simp
  · intro c hc
    simp only [List.cons_append, List.mem_cons, List.mem_append] at hc
    rcases hc with rfl | hc | hc
    · rcases he with rfl | rfl <;> simp [Plain]
    · rcases hsign with rfl | rfl | rfl <;> simp_all [Plain]
    · exact hd.plain c hc

/-- A numeral is all plain characters: digits, signs, a point and an exponent letter. -/
theorem Numeral.plain {w : List Char} (h : Numeral w) : ∀ c ∈ w, Plain c := by
  obtain ⟨sign, i, f, e, rfl, hsign, hi, hf, he⟩ := h
  intro c hc
  simp only [List.mem_append] at hc
  rcases hc with ((hc | hc) | hc) | hc
  · rcases hsign with rfl | rfl <;> simp_all [Plain]
  · exact hi.plain c hc
  · exact hf.plain c hc
  · exact he.plain c hc

theorem HexWord.stays {h : List Char} (hw : HexWord h) : StaysInString h := by
  refine StaysInString.plains fun x hx => ?_
  obtain ⟨v, hv⟩ := Option.isSome_iff_exists.1 (hw.2 x hx)
  exact hexValue_ne hv

/-- The body of a string stays inside it: the scan skips the character after each backslash,
and the body holds no other quote. -/
theorem StringChars.stays {w s : List Char} (h : StringChars w s) : StaysInString w := by
  induction h with
  | nil => exact StaysInString.nil
  | plain hc _ ih => exact (StaysInString.plain hc.2.1 hc.2.2).append ih
  | short _ _ ih => exact (StaysInString.escape _).append ih
  | unicode hh _ _ ih =>
    have hu := (StaysInString.escape 'u').append hh.stays
    simpa using hu.append ih
  | surrogates hh hh' _ _ _ _ _ ih =>
    have hu := ((StaysInString.escape 'u').append hh.stays).append
      ((StaysInString.escape 'u').append hh'.stays)
    simpa using hu.append ih

/-- **A text is a balanced word as high as its piece is deep**: brackets nest in the text
exactly as arrays and objects nest in the value, and strings hide the brackets they hold. -/
theorem Writes.balanced {p : Piece} {v : Value} {w : List Char} (h : Writes p v w) :
    Balanced w (p.height v) := by
  induction h with
  | null => exact Balanced.plains (by simp [Plain])
  | bool b => cases b <;> exact Balanced.plains (by simp [Plain])
  | num _ hw => exact Balanced.plains hw.plain
  | str hs =>
    rw [List.cons_append]
    exact Balanced.string (ClosesString.of_stays hs.stays ClosesString.quote)
  | pad ha _ hb ih =>
    have hw := ((Balanced.plains ha.plain).append ih).append (Balanced.plains hb.plain)
    simpa [Piece.height] using hw
  | arr _ ih =>
    -- the brackets add the one level that the items' height leaves out
    simpa [Piece.height, Value.depth] using ih.wrap (Or.inr rfl) (Or.inr rfl)
  | obj _ ih => simpa [Piece.height, Value.depth] using ih.wrap (Or.inl rfl) (Or.inl rfl)
  | noItems ha => simpa [Piece.height, Value.depth, Value.itemsDepth] using Balanced.plains ha.plain
  | lastItem _ ih => simpa [Piece.height, Value.depth, Value.itemsDepth] using ih
  | item _ hvs _ ih ih' =>
    have hw := ih.append ((Balanced.plain (c := ',') (by simp [Plain])).append ih')
    simpa [Piece.height, Value.depth, Value.itemsDepth] using hw
  | noMembers ha =>
    simpa [Piece.height, Value.depth, Value.membersDepth] using Balanced.plains ha.plain
  | lastMember _ _ ihk ih =>
    have hw := ihk.append ((Balanced.plain (c := ':') (by simp [Plain])).append ih)
    simpa [Piece.height, Value.depth, Value.membersDepth] using hw
  | member _ _ hfs _ ihk ih ih' =>
    have hw := ihk.append ((Balanced.plain (c := ':') (by simp [Plain])).append
      (ih.append ((Balanced.plain (c := ',') (by simp [Plain])).append ih')))
    simpa [Piece.height, Value.depth, Value.membersDepth] using hw

/-- A text that writes a value nests exactly as deep as the value. -/
theorem Writes.nesting_eq {text : String} {v : Value} (h : Writes .value v text.toList) :
    nesting text = v.depth :=
  Document.nesting_eq h.balanced

/-! ### The value a text stands for -/

namespace Value

mutual

/-- **The value a reader holds** for a value as written: each object's members sorted by key,
a repeated key keeping its last value. -/
def canonical : Value → Value
  | .arr vs => .arr (canonicalItems vs)
  | .obj fs => .obj (canonicalMembers [] fs)
  | v => v

/-- `canonical` on the items of an array. -/
def canonicalItems : List Value → List Value
  | [] => []
  | v :: vs => v.canonical :: canonicalItems vs

/-- Members inserted one after another into the sorted members `acc`. -/
def canonicalMembers (acc : List (String × Value)) :
    List (String × Value) → List (String × Value)
  | [] => acc
  | (k, v) :: fs => canonicalMembers (insertSorted k v.canonical acc) fs

end

mutual

/-- No object of the value repeats a key. -/
def UniqueKeys : Value → Prop
  | .arr vs => ItemsUniqueKeys vs
  | .obj fs => (fs.map Prod.fst).Nodup ∧ MembersUniqueKeys fs
  | _ => True

/-- No object in the items repeats a key. -/
def ItemsUniqueKeys : List Value → Prop
  | [] => True
  | v :: vs => v.UniqueKeys ∧ ItemsUniqueKeys vs

/-- No object in the members' values repeats a key. -/
def MembersUniqueKeys : List (String × Value) → Prop
  | [] => True
  | (_, v) :: fs => v.UniqueKeys ∧ MembersUniqueKeys fs

end

/-- Inserting a member keeps the keys there and adds its own. -/
theorem mem_keys_insertSorted (k : String) (v : Value) (acc : List (String × Value))
    (k' : String) :
    k' ∈ (insertSorted k v acc).map Prod.fst ↔ k' = k ∨ k' ∈ acc.map Prod.fst := by
  induction acc with
  | nil => simp [insertSorted]
  | cons kv acc ih =>
    obtain ⟨j, u⟩ := kv
    simp only [insertSorted]
    split
    · rename_i hkj
      have : k = j := beq_iff_eq.1 hkj
      subst this
      simp
    · split
      · simp
      · simp only [List.map_cons, List.mem_cons, ih]
        exact or_left_comm

/-- Inserting a member replaces at most one value, so the members get no deeper than the
member and the members before. -/
theorem membersDepth_insertSorted_le (k : String) (v : Value) (acc : List (String × Value)) :
    membersDepth (insertSorted k v acc) ≤ max v.depth (membersDepth acc) := by
  induction acc with
  | nil => simp [insertSorted, membersDepth]
  | cons kv acc ih =>
    obtain ⟨j, u⟩ := kv
    simp only [insertSorted]
    split
    · simp only [membersDepth]
      omega
    · split
      · simp only [membersDepth]
        omega
      · simp only [membersDepth]
        omega

/-- Inserting a member under a new key adds its value to the others. -/
theorem membersDepth_insertSorted {k : String} (v : Value) {acc : List (String × Value)}
    (hk : k ∉ acc.map Prod.fst) :
    membersDepth (insertSorted k v acc) = max v.depth (membersDepth acc) := by
  induction acc with
  | nil => simp [insertSorted, membersDepth]
  | cons kv acc ih =>
    obtain ⟨j, u⟩ := kv
    simp only [List.map_cons, List.mem_cons, not_or] at hk
    simp only [insertSorted]
    rw [if_neg (by simpa using hk.1)]
    split
    · simp only [membersDepth]
    · simp only [membersDepth, ih hk.2]
      omega

mutual

/-- **Dropping repeated keys never deepens a value.** -/
theorem depth_canonical_le : ∀ v : Value, v.canonical.depth ≤ v.depth
  | .arr vs => by
    have := itemsDepth_canonicalItems_le vs
    simp only [canonical, depth]
    omega
  | .obj fs => by
    have := membersDepth_canonicalMembers_le [] fs
    simp only [canonical, depth]
    simp only [membersDepth] at this
    omega
  | .null => Nat.le_refl _
  | .bool _ => Nat.le_refl _
  | .num _ => Nat.le_refl _
  | .str _ => Nat.le_refl _

theorem itemsDepth_canonicalItems_le :
    ∀ vs : List Value, itemsDepth (canonicalItems vs) ≤ itemsDepth vs
  | [] => Nat.le_refl _
  | v :: vs => by
    have := depth_canonical_le v
    have := itemsDepth_canonicalItems_le vs
    simp only [canonicalItems, itemsDepth]
    omega

theorem membersDepth_canonicalMembers_le : ∀ (acc fs : List (String × Value)),
    membersDepth (canonicalMembers acc fs) ≤ max (membersDepth acc) (membersDepth fs)
  | acc, [] => by simp [canonicalMembers, membersDepth]
  | acc, (k, v) :: fs => by
    have := membersDepth_canonicalMembers_le (insertSorted k v.canonical acc) fs
    have := membersDepth_insertSorted_le k v.canonical acc
    have := depth_canonical_le v
    simp only [canonicalMembers, membersDepth]
    omega

end

mutual

/-- **Without repeated keys, a value is as deep as the value a reader holds for it.** -/
theorem depth_canonical : ∀ v : Value, v.UniqueKeys → v.canonical.depth = v.depth
  | .arr vs, h => by
    have := itemsDepth_canonicalItems vs h
    simp only [canonical, depth]
    omega
  | .obj fs, h => by
    have := membersDepth_canonicalMembers [] fs h.2 h.1 (by simp)
    simp only [canonical, depth]
    simp only [membersDepth] at this
    omega
  | .null, _ => rfl
  | .bool _, _ => rfl
  | .num _, _ => rfl
  | .str _, _ => rfl

theorem itemsDepth_canonicalItems :
    ∀ vs : List Value, ItemsUniqueKeys vs → itemsDepth (canonicalItems vs) = itemsDepth vs
  | [], _ => rfl
  | v :: vs, h => by
    simp only [canonicalItems, itemsDepth, depth_canonical v h.1,
      itemsDepth_canonicalItems vs h.2]

/-- The members inserted in turn: while no key comes twice, every value counts. -/
theorem membersDepth_canonicalMembers : ∀ (acc fs : List (String × Value)),
    MembersUniqueKeys fs → (fs.map Prod.fst).Nodup →
    (∀ k ∈ fs.map Prod.fst, k ∉ acc.map Prod.fst) →
    membersDepth (canonicalMembers acc fs) = max (membersDepth acc) (membersDepth fs)
  | acc, [], _, _, _ => by simp [canonicalMembers, membersDepth]
  | acc, (k, v) :: fs, h, hnd, hdis => by
    simp only [List.map_cons, List.nodup_cons] at hnd
    have hk : k ∉ acc.map Prod.fst := hdis k List.mem_cons_self
    -- the keys still to come are neither this one nor one inserted before
    have hdis' : ∀ k' ∈ fs.map Prod.fst, k' ∉ (insertSorted k v.canonical acc).map Prod.fst := by
      intro k' hk' hmem
      rcases (mem_keys_insertSorted k v.canonical acc k').1 hmem with rfl | hmem
      · exact hnd.1 hk'
      · exact hdis k' (List.mem_cons_of_mem _ hk') hmem
    have := membersDepth_canonicalMembers (insertSorted k v.canonical acc) fs h.2 hnd.2 hdis'
    simp only [canonicalMembers, membersDepth, this, membersDepth_insertSorted _ hk,
      depth_canonical v h.1]
    omega

end

end Value

/-! ### The scan read against the grammar -/

/-- **The scan stopped at a limit reads the depth of what a text writes.** For a text that
writes a value, the bracket scan stopped at `limit` gives the value's depth when it is at most
`limit`, and `limit + 1` otherwise. When no object repeats a key, the same holds of the value a
reader holds for the text; when one does, that value is no deeper, so the scan never gives less
than its depth up to `limit + 1`: a text the scan keeps within the limit is read as a value
within it. -/
theorem nestingWithin_of_writes {text : String} {v : Value} (h : Writes .value v text.toList)
    (limit : Nat) :
    nestingWithin text limit = (if v.depth ≤ limit then v.depth else limit + 1) ∧
    (v.UniqueKeys → nestingWithin text limit =
      if v.canonical.depth ≤ limit then v.canonical.depth else limit + 1) ∧
    min v.canonical.depth (limit + 1) ≤ nestingWithin text limit := by
  have hscan : nestingWithin text limit = if v.depth ≤ limit then v.depth else limit + 1 := by
    rw [nestingWithin_eq, h.nesting_eq]
  have hle := v.depth_canonical_le
  refine ⟨hscan, fun hu => by rw [hscan, v.depth_canonical hu], ?_⟩
  rw [hscan]
  split <;> omega

/-- The array `["[\"",[0]]` holds a string with a bracket and an escaped quote in it, and an
array one level down: it nests two deep, which the scan stopped at one reads as one past. -/
theorem nestingWithin_of_writes_bracketInString :
    Writes .value (.arr [.str (String.ofList ['[', '"']), .arr [.num (.nat 0)]])
        "[\"[\\\"\",[0]]".toList ∧
      nestingWithin "[\"[\\\"\",[0]]" 1 = 2 ∧ nestingWithin "[\"[\\\"\",[0]]" 2 = 2 := by
  have hzero : Writes .value (.num (.nat 0)) ['0'] :=
    .num _ ⟨[], ['0'], [], [], rfl, .inl rfl, .inl rfl, .inl rfl, .inl rfl⟩
  have hstr : Writes .value (.str (String.ofList ['[', '"'])) ('"' :: ['[', '\\', '"'] ++ ['"']) :=
    .str (.plain ⟨by decide, by decide, by decide⟩ (.short rfl .nil))
  have htext : "[\"[\\\"\",[0]]".toList =
      '[' :: (('"' :: ['[', '\\', '"'] ++ ['"']) ++ ',' :: ('[' :: ['0'] ++ [']'])) ++ [']'] := by
    decide
  have hw : Writes .value (.arr [.str (String.ofList ['[', '"']), .arr [.num (.nat 0)]])
      "[\"[\\\"\",[0]]".toList := by
    rw [htext]
    exact .arr (.item hstr (by simp) (.lastItem (.arr (.lastItem hzero))))
  exact ⟨hw, (nestingWithin_of_writes hw 1).1, (nestingWithin_of_writes hw 2).1⟩

/-- **A repeated key can hide brackets from the value read.** The object
`\x7b"a":[0],"a":0\x7d` writes the key `a` twice, first with an array; a reader keeps the
last value, so the object it holds is one deep, yet the scan counts the hidden array's brackets
and finds the text two deep, past a limit of one. -/
theorem nestingWithin_repeatedKey :
    Writes .value (.obj [("a", .arr [.num (.nat 0)]), ("a", .num (.nat 0))])
        "\x7b\"a\":[0],\"a\":0\x7d".toList ∧
      (Value.obj [("a", .arr [.num (.nat 0)]), ("a", .num (.nat 0))]).canonical =
        .obj [("a", .num (.nat 0))] ∧
      (Value.obj [("a", .num (.nat 0))]).depth = 1 ∧
      nestingWithin "\x7b\"a\":[0],\"a\":0\x7d" 1 = 2 := by
  have hzero : Writes .value (.num (.nat 0)) ['0'] :=
    .num _ ⟨[], ['0'], [], [], rfl, .inl rfl, .inl rfl, .inl rfl, .inl rfl⟩
  have hname : String.ofList ['a'] = "a" := by decide
  have hkey : Writes .value (.str "a") ('"' :: ['a'] ++ ['"']) :=
    hname ▸ .str (.plain ⟨by decide, by decide, by decide⟩ .nil)
  have htext : "\x7b\"a\":[0],\"a\":0\x7d".toList =
      '{' :: (('"' :: ['a'] ++ ['"']) ++ ':' :: ('[' :: ['0'] ++ [']']) ++
        ',' :: (('"' :: ['a'] ++ ['"']) ++ ':' :: ['0'])) ++ ['}'] := by
    decide
  refine ⟨?_, rfl, rfl, by decide⟩
  rw [htext]
  exact .obj (.member hkey (.arr (.lastItem hzero)) (by simp) (.lastMember hkey hzero))

end PinAudit.Json
