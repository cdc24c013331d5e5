import PinAudit.Proofs.ItemCut

/-!
# Tokenizing by index

`cut` reads the lowered characters of a version text as a list. The same cut can be taken by
index over the array of those characters, and this is how a tokenizer over a vector of
characters is written: for `i` from `0` up to and including their number it reads `chars[i]`
unless `i` is the end, reads `chars[i - 1]` as well when a token has started before `i`, and
takes the token `chars[start..i]` when one ends. `tokenRound` is one round of that loop with
each of these reads checked, `none` standing for an index out of range, and `tokenizeAt` the
whole loop followed by the removal of the null items at the end.

`tokenizeAt_eq_some`: no read is ever out of range, for any text, and the loop finds the items
`items` finds. The loop state is tied to the fold of `cutStep` over the characters read so far
by `TokenLoop.Tracks`: the token starts at or before `i`, and the fold holds that token and the
items pushed, last first. One round keeps `Tracks` and is one `cutStep` (`tokenRound_step`); the
round at the end is `cutFinish` (`tokenRound_end`).
-/

namespace PinAudit.Text

/-- The slice `xs[a..b]` of an array, `none` unless `a ≤ b ≤ xs.size`. -/
def indexSlice (xs : Array Char) (a b : Nat) : Option (Array Char) :=
  if a ≤ b ∧ b ≤ xs.size then some (xs.extract a b) else none

theorem indexSlice_toArray {l : List Char} {a b : Nat} (hab : a ≤ b) (hb : b ≤ l.length) :
    indexSlice l.toArray a b = some ((l.take b).drop a).toArray := by
  simp [indexSlice, hab, hb, List.drop_take]

end PinAudit.Text

namespace PinAudit.Version

/-- The state of the tokenizing loop: where the current token starts, and the items pushed so
far, in order. -/
structure TokenLoop where
  start : Nat
  items : Array Item

/-- **One round of the tokenizing loop** at index `i`. Each test is a conjunction evaluated left
to right that stops at its first false part, so `chars[i]` is read only once `i` is known not to
be the end, and `chars[i - 1]` only once `i > start` is known as well. -/
def tokenRound (chars : Array Char) (st : TokenLoop) (i : Nat) : Option TokenLoop := do
  let atEnd := i == chars.size
  let isSep ← if atEnd then pure false else isSeparator <$> chars[i]?
  let isTransition ← if atEnd || i ≤ st.start then pure false else do
    let c ← chars[i]?
    let p ← chars[i - 1]?
    pure (c.isDigit != p.isDigit && !isSep)
  if atEnd || isSep || isTransition then do
    let token ← Text.indexSlice chars st.start i
    let beforeDigit ← if isTransition then Char.isDigit <$> chars[i]? else pure false
    let items :=
      if atEnd && token.isEmpty && !st.items.isEmpty then st.items
      else st.items.push (Item.ofToken token.toList beforeDigit)
    pure ⟨if isSep then i + 1 else i, items⟩
  else pure st

/-- **The tokenizer by index**: the rounds `0, 1, …, chars.size` from an empty state over the
lowered characters, then the null items at the end dropped. -/
def tokenizeAt (text : String) : Option (List Item) := do
  let chars := (text.toList.map Text.asciiLowerChar).toArray
  let st ← (List.range (chars.size + 1)).foldlM (tokenRound chars) ⟨0, #[]⟩
  pure (dropNullTail st.items.toList)

/-- **The loop before round `i` over the characters `l`**: the token starts at or before `i`, and
the fold of `cutStep` over the first `i` characters holds the token `l[start..i]` and the items
pushed so far, last first. -/
structure TokenLoop.Tracks (st : TokenLoop) (l : List Char) (i : Nat) : Prop where
  start_le : st.start ≤ i
  fold_eq : (l.take i).foldl cutStep ([], []) = ((l.take i).drop st.start, st.items.toList.reverse)

theorem take_succ_drop {l : List Char} {i a : Nat} (hi : i < l.length) (ha : a ≤ i) :
    (l.take (i + 1)).drop a = (l.take i).drop a ++ [l[i]] := by
  rw [List.take_add_one, List.getElem?_eq_getElem hi, Option.toList_some,
    List.drop_append_of_le_length (by simp; omega)]

section Rounds

variable {chars : Array Char} {st : TokenLoop} {i : Nat}

/-! ### What one round before the end does -/

/-- A separator ends the token, whether or not one has started. -/
theorem tokenRound_separator (hi : i < chars.size) (hle : st.start ≤ i)
    (hsep : isSeparator chars[i] = true) :
    tokenRound chars st i =
      some ⟨i + 1, st.items.push (Item.ofToken (chars.extract st.start i).toList false)⟩ := by
  have htoken : Text.indexSlice chars st.start i = some (chars.extract st.start i) := by
    simp [Text.indexSlice, hle, Nat.le_of_lt hi]
  rcases Nat.lt_or_ge st.start i with hlt | hge
  · -- a token has started, so `chars[i - 1]` is read too
    simp [tokenRound, Nat.ne_of_lt hi, getElem?_pos chars i hi,
      getElem?_pos chars (i - 1) (by omega), hsep, htoken, Nat.not_le.2 hlt]
  · simp [tokenRound, Nat.ne_of_lt hi, getElem?_pos chars i hi, hsep, htoken, hge]

/-- A switch between digits and other characters ends the token, which is pushed as read before
a digit or not as the new character is one. -/
theorem tokenRound_switch (hi : i < chars.size) (hlt : st.start < i)
    (hsep : isSeparator chars[i] = false) (hswitch : chars[i].isDigit ≠ chars[i - 1].isDigit) :
    tokenRound chars st i = some
      ⟨i, st.items.push (Item.ofToken (chars.extract st.start i).toList chars[i].isDigit)⟩ := by
  have htoken : Text.indexSlice chars st.start i = some (chars.extract st.start i) := by
    simp [Text.indexSlice, Nat.le_of_lt hlt, Nat.le_of_lt hi]
  simp [tokenRound, Nat.ne_of_lt hi, getElem?_pos chars i hi,
    getElem?_pos chars (i - 1) (by omega), hsep, htoken, Nat.not_le.2 hlt, hswitch]

/-- Any other character joins the token, or starts it; the state does not change. -/
theorem tokenRound_extend (hi : i < chars.size) (hsep : isSeparator chars[i] = false)
    (hsame : st.start < i → chars[i].isDigit = chars[i - 1].isDigit) :
    tokenRound chars st i = some st := by
  rcases Nat.lt_or_ge st.start i with hlt | hge
  · simp [tokenRound, Nat.ne_of_lt hi, getElem?_pos chars i hi,
      getElem?_pos chars (i - 1) (by omega), hsep, Nat.not_le.2 hlt, hsame hlt]
  · -- no token has started: `chars[i - 1]` is not read
    simp [tokenRound, Nat.ne_of_lt hi, getElem?_pos chars i hi, hsep, hge]

end Rounds

/-- **One round before the end** reads only within range, and does to the tracked token what
`cutStep` does with the character at `i`. -/
theorem tokenRound_step {l : List Char} {st : TokenLoop} {i : Nat} (hi : i < l.length)
    (h : st.Tracks l i) : ∃ st', tokenRound l.toArray st i = some st' ∧ st'.Tracks l (i + 1) := by
  obtain ⟨hle, hfold⟩ := h
  have hi' : i < l.toArray.size := by simpa using hi
  have htoken : (l.toArray.extract st.start i).toList = (l.take i).drop st.start := by
    simp [List.drop_take]
  have hnext : (l.take (i + 1)).foldl cutStep ([], []) =
      cutStep ((l.take i).drop st.start, st.items.toList.reverse) l[i] := by
    rw [List.take_add_one, List.getElem?_eq_getElem hi, Option.toList_some, List.foldl_append,
      hfold]
    rfl
  by_cases hsep : isSeparator l[i] = true
  · refine ⟨_, tokenRound_separator hi' hle (by simpa using hsep), Nat.le_refl _, ?_⟩
    rw [hnext, cutStep_separator hsep, htoken]
    simp
  · rcases Nat.lt_or_ge st.start i with hlt | hge
    · -- a token has started, and `chars[i - 1]` is its last character
      have hlast : ((l.take i).drop st.start).getLast? = some l[i - 1] := by
        simp [List.getLast?_drop, List.getLast?_take]
        omega
      by_cases hswitch : l[i].isDigit = l[i - 1].isDigit
      · refine ⟨st, tokenRound_extend hi' (by simpa using hsep) (fun _ => by simpa using hswitch),
          Nat.le_succ_of_le hle, ?_⟩
        rw [hnext, take_succ_drop hi hle]
        simp [cutStep, hsep, hlast, hswitch]
      · refine ⟨_, tokenRound_switch hi' hlt (by simpa using hsep) (by simpa using hswitch),
          Nat.le_succ _, ?_⟩
        rw [hnext, take_succ_drop hi (Nat.le_refl i), htoken]
        simp [cutStep, hsep, hlast, Ne.symm hswitch]
    · -- no token has started: the character starts one
      have hstart : st.start = i := Nat.le_antisymm hle hge
      refine ⟨st, tokenRound_extend hi' (by simpa using hsep) (by omega), Nat.le_succ_of_le hle, ?_⟩
      rw [hnext, take_succ_drop hi hle, hstart]
      simp [cutStep, hsep]

/-- **The round at the end** reads nothing but the token, and pushes what `cutFinish` adds. -/
theorem tokenRound_end {l : List Char} {st : TokenLoop} (h : st.Tracks l l.length) :
    ∃ st', tokenRound l.toArray st l.length = some st' ∧
      st'.items.toList.reverse = cutFinish (l.foldl cutStep ([], [])) := by
  obtain ⟨hle, hfold⟩ := h
  rw [List.take_length] at hfold
  have htoken : Text.indexSlice l.toArray st.start l.length = some (l.drop st.start).toArray := by
    simpa using Text.indexSlice_toArray hle (Nat.le_refl _)
  refine ⟨⟨l.length, if (l.drop st.start).isEmpty && !st.items.isEmpty then st.items
      else st.items.push (Item.ofToken (l.drop st.start) false)⟩, ?_, ?_⟩
  · simp [tokenRound, htoken]
  · rw [hfold, cutFinish]
    split <;> simp_all

/-- **The rounds before `i`** read only within range and track the cut. -/
theorem foldlM_tokenRound (l : List Char) (i : Nat) (hi : i ≤ l.length) :
    ∃ st, (List.range i).foldlM (tokenRound l.toArray) ⟨0, #[]⟩ = some st ∧ st.Tracks l i := by
  induction i with
  | zero => exact ⟨⟨0, #[]⟩, rfl, ⟨Nat.le_refl _, by simp⟩⟩
  | succ i ih =>
    obtain ⟨st, hst, htr⟩ := ih (by omega)
    obtain ⟨st', hst', htr'⟩ := tokenRound_step (by omega) htr
    refine ⟨st', ?_, htr'⟩
    rw [List.range_succ, List.foldlM_append, hst]
    simpa using hst'

/-- **Tokenizing by index reads only within range**, whatever the text, and finds the items of
the text. -/
theorem tokenizeAt_eq_some (text : String) : tokenizeAt text = some (items text) := by
  obtain ⟨st, hst, htr⟩ := foldlM_tokenRound (text.toList.map Text.asciiLowerChar) _ (Nat.le_refl _)
  obtain ⟨st', hst', hend⟩ := tokenRound_end htr
  rw [items_eq_foldl, ← hend, List.reverse_reverse]
  simp only [tokenizeAt, List.size_toArray, List.range_succ, List.foldlM_append, hst,
    List.foldlM_cons, List.foldlM_nil, Option.bind_eq_bind, Option.bind_some, hst']
  rfl

end PinAudit.Version
