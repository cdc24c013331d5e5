import PinAudit.Proofs.RangeGrammar
import PinAudit.Proofs.TokenIndices
import PinAudit.Version.Constraint

/-!
# Reading ranges by byte offsets

The readers of this library cut texts as lists of characters. A reader over UTF-8 text cuts them
at byte offsets instead, and a slice `s[a..b]` of such a text is only defined when `a ≤ b` and
both offsets fall on character boundaries, the end of the text being one (`Text.byteSlice`,
`none` elsewhere). A range is read that way by finding the byte offset `close` of the first
closing bracket, taking the interval `rest[..=close]` and going on with `rest[close + 1..]`
(`Range.intervalsAt`); an interval's inside is `text[1..len - 1]` (`Interval.parseAt`).

Nothing at the slicing sites says the offsets are good: `close + 1` is a boundary because the
closing bracket is one byte long, `1` and `len - 1` because both brackets are, and `1 ≤ len - 1`
because the opening bracket is not a closing one, so `close ≥ 1`. Under these facts each slice
cuts the text exactly where the reading over characters does (`Range.intervalsAt_succ_cut`), so
the readings by offsets never reach an undefined slice and read what the readings over
characters read (`Range.parseAt_run`, `Constraint.parseAt_run`, `Constraint.ofResolvedAt_eq`).

Main statement: `Constraint.offsets_in_bounds`, which adds that tokenizing a version by index
never reads out of range either (`Version.tokenizeAt_eq_some`).
-/

namespace PinAudit.Text

/-- **A byte slice** `s[a..b]`: the text between the byte offsets `a` and `b` of the UTF-8
encoding of `s`, when `a ≤ b` and both are character boundaries of `s`; `none` where the slice
is undefined, at an offset past the end or inside a character, or with `a > b`. -/
def byteSlice (s : String) (a b : Nat) : Option String :=
  if h : a ≤ b ∧ (String.Pos.Raw.mk a).IsValid s ∧ (String.Pos.Raw.mk b).IsValid s then
    some (s.extract ⟨⟨a⟩, h.2.1⟩ ⟨⟨b⟩, h.2.2⟩)
  else none

/-- **The slice between the two ends of a middle part** is that part. -/
theorem byteSlice_append (s₁ s₂ s₃ : String) :
    byteSlice (s₁ ++ s₂ ++ s₃) s₁.utf8ByteSize (s₁.utf8ByteSize + s₂.utf8ByteSize) =
      some s₂ := by
  have ha : (String.Pos.Raw.mk s₁.utf8ByteSize).IsValid (s₁ ++ s₂ ++ s₃) :=
    String.Pos.Raw.isValid_iff_exists_append.2 ⟨s₁, s₂ ++ s₃, by simp [String.append_assoc], rfl⟩
  have hb : (String.Pos.Raw.mk (s₁.utf8ByteSize + s₂.utf8ByteSize)).IsValid (s₁ ++ s₂ ++ s₃) :=
    String.Pos.Raw.isValid_iff_exists_append.2
      ⟨s₁ ++ s₂, s₃, rfl, by simp [String.Pos.Raw.ext_iff]⟩
  rw [byteSlice, dif_pos ⟨Nat.le_add_right _ _, ha, hb⟩, Option.some.injEq,
    ← String.toByteArray_inj, String.toByteArray_extract]
  simp only [String.toByteArray_append, ByteArray.append_assoc]
  -- the bytes of `s₂` stand right after those of `s₁`
  have hcut := @ByteArray.extract_append_size_add s₁.toByteArray (s₂.toByteArray ++ s₃.toByteArray)
    0 s₂.toByteArray.size
  rw [Nat.add_zero, ByteArray.extract_append_eq_left rfl] at hcut
  simpa only [String.size_toByteArray] using hcut

end PinAudit.Text

namespace PinAudit.Version

open Text

/-- **One interval read from its text by byte offsets**: the opening bracket is its first
character, the closing one its last, and the inside is the slice `text[1..len - 1]`. -/
def Interval.parseAt (text : String) : ExceptT ParseError Option Interval :=
  match text.toList.head?, text.toList.getLast? with
  | some o, some c => do
    let inner ← (byteSlice text 1 (text.utf8ByteSize - 1) : Option String)
    ExceptT.mk (some (Interval.parse text o inner.toList c))
  | _, _ => throw (.invalid text .emptyRange)

theorem utf8Size_of_isOpening {o : Char} (h : isOpening o = true) : o.utf8Size = 1 := by
  rcases Range.isOpening_cases h with rfl | rfl <;> rfl

theorem utf8Size_of_isClosing {c : Char} (h : isClosing c = true) : c.utf8Size = 1 := by
  simp only [isClosing, Bool.or_eq_true, beq_iff_eq] at h
  rcases h with rfl | rfl <;> rfl

/-- A text holding no closing bracket has none to find. -/
theorem find?_isClosing_eq_none {cs : List Char} (h : ∀ d ∈ cs, isClosing d = false) :
    (String.ofList cs).find? isClosing = none := by
  rw [String.find?_eq_find?_toSlice, Option.map_eq_none_iff, String.Slice.find?_eq_none_iff,
    ← String.contains_eq_contains_toSlice, String.contains_bool_eq]
  simpa using h

/-- **The first closing bracket is found** at the byte offset where the text before it ends. -/
theorem find?_isClosing_eq_some {before after : List Char} {c : Char}
    (hbefore : ∀ d ∈ before, isClosing d = false) (hc : isClosing c = true) :
    ∃ pos, (String.ofList (before ++ c :: after)).find? isClosing = some pos ∧
      pos.offset.byteIdx = (String.ofList before).utf8ByteSize := by
  have hsplit : String.ofList (before ++ c :: after) =
      String.ofList before ++ (String.singleton c ++ String.ofList after) := by
    simp [String.ofList_append]
  have hvalid : (String.ofList before).rawEndPos.IsValid (String.ofList (before ++ c :: after)) :=
    String.Pos.Raw.isValid_iff_exists_append.2 ⟨_, _, hsplit, rfl⟩
  refine ⟨⟨_, hvalid⟩, String.find?_bool_eq_some_iff_splits.2
    ⟨String.ofList before, c, String.ofList after, ⟨hsplit, rfl⟩, hc, by simpa using hbefore⟩, rfl⟩

/-- **An interval between brackets** has its inside sliced out exactly: both brackets are one
byte long, so `1` and `len - 1` are the boundaries around the inside. -/
theorem Interval.parseAt_brackets {text : String} {o c : Char} {inner : List Char}
    (htext : text.toList = o :: inner ++ [c]) (ho : isOpening o = true) (hc : isClosing c = true) :
    (Interval.parseAt text).run = some (Interval.parse text o inner c) := by
  have hsplit : text = String.singleton o ++ String.ofList inner ++ String.singleton c := by
    rw [← String.toList_inj]
    simp [htext]
  have hsize : text.utf8ByteSize - 1 = 1 + (String.ofList inner).utf8ByteSize := by
    rw [hsplit, String.utf8ByteSize_append, String.utf8ByteSize_append,
      String.utf8ByteSize_singleton, String.utf8ByteSize_singleton, utf8Size_of_isOpening ho,
      utf8Size_of_isClosing hc]
    omega
  have hinner : byteSlice text 1 (text.utf8ByteSize - 1) = some (String.ofList inner) := by
    have h := byteSlice_append (String.singleton o) (String.ofList inner) (String.singleton c)
    rw [← hsplit, String.utf8ByteSize_singleton, utf8Size_of_isOpening ho] at h
    rw [hsize, h]
  have hhead : text.toList.head? = some o := by simp [htext]
  have hlast : text.toList.getLast? = some c := by
    rw [htext, List.getLast?_append, List.getLast?_singleton, Option.some_or]
  calc (Interval.parseAt text).run
      = some (Interval.parse text o (String.ofList inner).toList c) := by
        simp only [Interval.parseAt, hhead, hlast, hinner]
        rfl
    _ = some (Interval.parse text o inner c) := by rw [String.toList_ofList]

end PinAudit.Version

namespace PinAudit.Range

open Version Text

/-- **Read intervals by byte offsets** while `rest` opens one: `close` is the byte offset of the
first closing bracket, the interval is the slice `rest[..=close]`, and reading goes on with
`rest[close + 1..]` once its joint is skipped. `fuel` counts the rounds left, as in
`intervalsFrom`. -/
def intervalsAt : Nat → String → ExceptT ParseError Option (List Interval × String)
  | 0, rest => pure ([], rest)
  | fuel + 1, rest =>
    match rest.toList with
    | o :: _ =>
      if isOpening o then
        match rest.find? isClosing with
        | none => throw (.unterminated rest)
        | some close => do
          let cut := close.offset.byteIdx + 1
          let text ← (byteSlice rest 0 cut : Option String)
          let i ← Interval.parseAt text
          let after ← (byteSlice rest cut rest.utf8ByteSize : Option String)
          let (more, left) ← intervalsAt fuel (String.ofList (skipJoint after.toList))
          pure (i :: more, left)
      else pure ([], rest)
    | [] => pure ([], rest)

/-- **Read a range by byte offsets.** The text is trimmed first. -/
def parseAt (text : String) : ExceptT ParseError Option Range := do
  let trimmed := Text.trimChars text.toList
  let t := String.ofList trimmed
  let (intervals, rest) ← intervalsAt (trimmed.length + 1) t
  match intervals with
  | [] => throw (.invalid t .expectedOpening)
  | _ => if rest.isEmpty then pure ⟨t, intervals⟩ else throw (.trailing t rest)

theorem liftSome_bind {α β : Type} (x : α) (f : α → ExceptT ParseError Option β) :
    (do let y ← (some x : Option α); f y : ExceptT ParseError Option β) = f x := rfl

theorem closingFree_of_splitInterval_eq_none {cs : List Char} (h : splitInterval cs = none) :
    ∀ d ∈ cs, isClosing d = false := by
  unfold splitInterval at h
  rw [List.span_eq_takeWhile_dropWhile] at h
  cases hd : cs.dropWhile (fun d => !isClosing d) with
  | nil =>
    intro d hdm
    simpa using List.dropWhile_eq_nil_iff.1 hd d hdm
  | cons c after =>
    rw [hd] at h
    cases h

/-- **One round by byte offsets cuts where the reading over characters cuts**: the interval is
exactly its characters up to its closing bracket, and what follows is the rest. -/
theorem intervalsAt_succ_cut {fuel : Nat} {o c : Char} {inner after : List Char}
    (ho : isOpening o = true) (hinner : Inside inner) (hc : isClosing c = true) :
    intervalsAt (fuel + 1) (String.ofList (o :: inner ++ c :: after)) = (do
      let i ← Interval.parseAt (String.ofList (o :: inner ++ [c]))
      let r ← intervalsAt fuel (String.ofList (skipJoint after))
      pure (i :: r.1, r.2)) := by
  have hbefore : ∀ d ∈ o :: inner, isClosing d = false := by
    intro d hd
    rcases List.mem_cons.1 hd with rfl | hd
    · exact (opening_not_blank ho).2.2
    · exact hinner d hd
  obtain ⟨close, hfind, hclose⟩ := @find?_isClosing_eq_some (o :: inner) after c hbefore hc
  -- the closing bracket is one byte long, so the byte after it ends the interval's text
  have hcut : close.offset.byteIdx + 1 = (String.ofList (o :: inner ++ [c])).utf8ByteSize := by
    rw [hclose, String.ofList_append, String.utf8ByteSize_append, ← String.singleton_eq_ofList,
      String.utf8ByteSize_singleton, utf8Size_of_isClosing hc]
  have hrest : String.ofList (o :: inner ++ c :: after) =
      String.ofList (o :: inner ++ [c]) ++ String.ofList after := by
    rw [← String.ofList_append, List.append_assoc, List.singleton_append]
  have htext : byteSlice (String.ofList (o :: inner ++ c :: after)) 0 (close.offset.byteIdx + 1) =
      some (String.ofList (o :: inner ++ [c])) := by
    have h := byteSlice_append "" (String.ofList (o :: inner ++ [c])) (String.ofList after)
    rwa [String.empty_append, String.utf8ByteSize_empty, Nat.zero_add, ← hrest, ← hcut] at h
  have hafter : byteSlice (String.ofList (o :: inner ++ c :: after)) (close.offset.byteIdx + 1)
      (String.ofList (o :: inner ++ c :: after)).utf8ByteSize = some (String.ofList after) := by
    rw [hcut, hrest, String.utf8ByteSize_append]
    simpa using byteSlice_append (String.ofList (o :: inner ++ [c])) (String.ofList after) ""
  have hhead : (String.ofList (o :: inner ++ c :: after)).toList = o :: (inner ++ c :: after) := by
    simp
  rw [intervalsAt, hhead]
  simp only [ho, if_true, hfind, htext, hafter, liftSome_bind, String.toList_ofList]

/-- **One round over characters**, for whatever the interval reads: the interval is read, then
the rest after its joint. -/
theorem intervalsFrom_succ_cut {fuel : Nat} {o c : Char} {inner after : List Char}
    (ho : isOpening o = true) (hinner : Inside inner) (hc : isClosing c = true) :
    intervalsFrom (fuel + 1) (o :: inner ++ c :: after) =
      Interval.parse (String.ofList (o :: inner ++ [c])) o inner c >>= fun i =>
        (intervalsFrom fuel (skipJoint after)).map fun r => (i :: r.1, r.2) := by
  rw [List.cons_append, intervalsFrom, ← List.cons_append, if_pos ho,
    splitInterval_eq_some (opening_not_blank ho).2.2 hinner hc]
  dsimp only
  cases intervalsFrom fuel (skipJoint after) <;> rfl

/-- **Reading intervals by byte offsets reads what reading them over characters reads**, and
never reaches an undefined slice. By induction on the rounds; in a round that finds a closing
bracket both readings cut at it (`intervalsAt_succ_cut`, `intervalsFrom_succ_cut`). -/
theorem intervalsAt_ofList (fuel : Nat) (rest : List Char) :
    (intervalsAt fuel (String.ofList rest)).run =
      some ((intervalsFrom fuel rest).map fun r => (r.1, String.ofList r.2)) := by
  induction fuel generalizing rest with
  | zero => rfl
  | succ fuel ih =>
    cases rest with
    | nil =>
      simp [intervalsAt, intervalsFrom]
      rfl
    | cons o tail =>
      by_cases ho : isOpening o = true
      · cases hs : splitInterval (o :: tail) with
        | none =>
          -- no closing bracket anywhere: both readings report the interval unterminated
          have hnone := find?_isClosing_eq_none (closingFree_of_splitInterval_eq_none hs)
          simp [intervalsAt, intervalsFrom, ho, hs, hnone]
          rfl
        | some cut =>
          obtain ⟨inner, c, after⟩ := cut
          obtain ⟨hcs, hinner, hc⟩ := eq_of_splitInterval (opening_not_blank ho).2.2 hs
          rw [hcs, intervalsAt_succ_cut ho hinner hc, intervalsFrom_succ_cut ho hinner hc,
            ExceptT.run_bind, Interval.parseAt_brackets String.toList_ofList ho hc]
          cases Interval.parse (String.ofList (o :: inner ++ [c])) o inner c with
          | error e => rfl
          | ok i =>
            simp only [ExceptT.run_bind, ih]
            cases intervalsFrom fuel (skipJoint after) <;> rfl
      · simp [intervalsAt, intervalsFrom, ho, Except.map]

theorem isEmpty_ofList (l : List Char) : (String.ofList l).isEmpty = l.isEmpty := by
  cases l <;> simp [String.isEmpty_iff]

/-- **Reading a range by byte offsets** reaches no undefined slice and reads what `parse`
reads. -/
theorem parseAt_run (text : String) : (parseAt text).run = some (Range.parse text) := by
  unfold parseAt Range.parse
  dsimp only
  rw [ExceptT.run_bind, intervalsAt_ofList]
  cases intervalsFrom ((Text.trimChars text.toList).length + 1) (Text.trimChars text.toList) with
  | error e => rfl
  | ok r =>
    obtain ⟨intervals, left⟩ := r
    cases intervals with
    | nil => rfl
    | cons i is =>
      show (if (String.ofList left).isEmpty then _ else _) = some (if left.isEmpty then _ else _)
      rw [isEmpty_ofList]
      split <;> rfl

end PinAudit.Range

namespace PinAudit.Constraint

open Version

/-- **Strict reading of a constraint by byte offsets**: a range is read by `Range.parseAt`; a
fixed version keeps its text, whose items `Version.tokenizeAt` reads by index. -/
def parseAt (text : String) : ExceptT ParseError Option Constraint :=
  match Text.trimChars text.toList with
  | [] => throw .empty
  | trimmed@(c :: _) =>
    if isOpening c then Constraint.range <$> Range.parseAt (String.ofList trimmed)
    else
      let t := String.ofList trimmed
      if t == "LATEST" then pure (.alias .latest)
      else if t == "RELEASE" then pure (.alias .release)
      else pure (.fixed ⟨t⟩)

/-- **Lenient reading of a constraint by byte offsets**: what the strict reading refuses is kept
as an unrecognized constraint. -/
def ofResolvedAt (text : String) : Option Constraint :=
  (parseAt text).run.map fun
    | .ok c => c
    | .error _ => .unrecognized text

theorem parseAt_run (text : String) : (parseAt text).run = some (Constraint.parse text) := by
  unfold parseAt Constraint.parse
  cases Text.trimChars text.toList with
  | nil => rfl
  | cons c tail =>
    dsimp only
    by_cases hc : isOpening c = true
    · rw [if_pos hc, if_pos hc, ExceptT.run_map, Range.parseAt_run]
      rfl
    · rw [if_neg hc, if_neg hc]
      split
      · rfl
      · split <;> rfl

theorem ofResolvedAt_eq (text : String) :
    ofResolvedAt text = some (Constraint.ofResolved text) := by
  have h := parseAt_run text
  unfold ofResolvedAt ofResolved
  cases hp : Constraint.parse text <;> simp only [h, hp, Option.map_some]

/-- **Reading by offsets stays in bounds.** For every text, multi-byte characters included, the
strict and the lenient reading of a constraint and the reading of a range by byte offsets reach
no slice out of range or inside a character, and tokenizing it as a version reaches no index
out of range; each reads what the reading over characters reads. -/
theorem offsets_in_bounds (text : String) :
    (Constraint.parseAt text).run = some (Constraint.parse text) ∧
      Constraint.ofResolvedAt text = some (Constraint.ofResolved text) ∧
      (Range.parseAt text).run = some (Range.parse text) ∧
      Version.tokenizeAt text = some (Version.items text) :=
  ⟨parseAt_run text, ofResolvedAt_eq text, Range.parseAt_run text, Version.tokenizeAt_eq_some text⟩

end PinAudit.Constraint
