import Mathlib.Data.List.TakeDrop
import Mathlib.Data.List.TakeWhile
import PinAudit.Proofs.PointRange

/-!
# The texts a range is read from

`Range.parse` accepts exactly the texts whose trimmed form is a row of written intervals
`o x c`: `o` an opening and `c` a closing bracket, `x` free of closing brackets, blanks with at
most one comma between two intervals, and blanks and one comma allowed after the last. Inside an
interval one comma parts the lower from the upper side, a blank side is an unbounded end, and
the lower side is not above the upper one; with no comma, `x` is one version between `[` and `]`.

`RangeText` is this grammar together with the intervals each text stands for, and
`parse_eq_ok_iff` says that reading succeeds exactly on the texts whose trimmed form it derives,
with those intervals. Each reader of the text has its own lemmas: `splitInterval` cuts at the
first closer, `skipJoint` removes one joint, and one round of `intervalsFrom` reads one interval
(`intervalsFrom_succ_interval`, and its inverse `intervalsFrom_succ_eq_ok`).
-/

namespace PinAudit.Range

open Version

/-! ### The grammar -/

/-- Characters that are all blank. -/
def AllBlank (cs : List Char) : Prop := ∀ c ∈ cs, Text.isBlank c = true

/-- Characters that may stand inside an interval: no closing bracket. -/
def Inside (cs : List Char) : Prop := ∀ c ∈ cs, isClosing c = false

/-- Characters that do not end in a blank one; a trimmed text is such. -/
def NoTrailingBlank (cs : List Char) : Prop := ∀ c ∈ cs.getLast?, Text.isBlank c = false

/-- **What stands between two intervals**: blanks, with at most one comma among them. -/
inductive Joint : List Char → Prop
  | blanks {b : List Char} : AllBlank b → Joint b
  | comma {b₁ b₂ : List Char} : AllBlank b₁ → AllBlank b₂ → Joint (b₁ ++ ',' :: b₂)

/-- **What may follow the last interval** of a trimmed text: nothing, or blanks and a comma. -/
inductive EndJoint : List Char → Prop
  | nil : EndJoint []
  | comma {b : List Char} : AllBlank b → EndJoint (b ++ [','])

/-- **A written interval** and the interval it stands for. Either one comma parts the inside
into a lower and an upper side, each a bound unless blank, inclusive by `[` and `]`, the lower
side not above the upper one; or the inside has no comma, is not blank, stands between `[` and
`]`, and is both bounds at once. -/
inductive IntervalText : List Char → Interval → Prop
  | sides {o c : Char} {lo hi : List Char} : isOpening o = true → isClosing c = true →
      Inside lo → Inside hi → ',' ∉ lo → ',' ∉ hi →
      (Text.trimChars lo ≠ [] → Text.trimChars hi ≠ [] →
        Version.compare ⟨String.ofList (Text.trimChars lo)⟩
          ⟨String.ofList (Text.trimChars hi)⟩ ≠ .gt) →
      IntervalText (o :: lo ++ ',' :: hi ++ [c])
        ⟨sideBound lo (o == '['), sideBound hi (c == ']')⟩
  | point {x : List Char} : Inside x → ',' ∉ x → Text.trimChars x ≠ [] →
      IntervalText ('[' :: x ++ [']'])
        ⟨some ⟨⟨String.ofList (Text.trimChars x)⟩, true⟩,
          some ⟨⟨String.ofList (Text.trimChars x)⟩, true⟩⟩

/-- **A written range**: written intervals with a joint between each two and an end joint
after the last, and the intervals they stand for, in order. -/
inductive RangeText : List Char → List Interval → Prop
  | last {w e : List Char} {i : Interval} :
      IntervalText w i → EndJoint e → RangeText (w ++ e) [i]
  | cons {w j rest : List Char} {i : Interval} {is : List Interval} :
      IntervalText w i → Joint j → RangeText rest is → RangeText (w ++ j ++ rest) (i :: is)

/-! ### Blanks -/

theorem dropBlank_append {b : List Char} (hb : AllBlank b) (rest : List Char) :
    Text.dropBlank (b ++ rest) = Text.dropBlank rest := by
  induction b with
  | nil => rfl
  | cons c b ih =>
    have hc : Text.isBlank c = true := hb c List.mem_cons_self
    simp only [List.cons_append, Text.dropBlank, hc, if_true]
    exact ih fun d hd => hb d (List.mem_cons_of_mem c hd)

theorem dropBlank_cons_of_not_blank {c : Char} (hc : Text.isBlank c = false) (rest : List Char) :
    Text.dropBlank (c :: rest) = c :: rest := by
  simp [Text.dropBlank, hc]

theorem comma_not_blank : Text.isBlank ',' = false := by decide

/-- Every text is its leading blanks followed by the rest. -/
theorem eq_append_dropBlank (cs : List Char) : ∃ b, AllBlank b ∧ cs = b ++ Text.dropBlank cs := by
  induction cs with
  | nil => exact ⟨[], fun _ h => absurd h List.not_mem_nil, rfl⟩
  | cons c cs ih =>
    by_cases hc : Text.isBlank c = true
    · obtain ⟨b, hb, heq⟩ := ih
      refine ⟨c :: b, ?_, ?_⟩
      · intro d hd
        rcases List.mem_cons.1 hd with rfl | hd
        · exact hc
        · exact hb d hd
      · simp only [Text.dropBlank, hc, if_true, List.cons_append]
        rw [← heq]
    · exact ⟨[], fun _ h => absurd h List.not_mem_nil, by simp [Text.dropBlank, hc]⟩

theorem head?_dropBlank (cs : List Char) : ∀ c ∈ (Text.dropBlank cs).head?, Text.isBlank c = false := by
  intro c hc
  cases h : Text.dropBlank cs with
  | nil => simp [h] at hc
  | cons d ds =>
    rw [h, List.head?_cons, Option.mem_def, Option.some.injEq] at hc
    subst hc
    exact Text.dropBlank_head cs d ds h

theorem noTrailingBlank_trimChars (cs : List Char) : NoTrailingBlank (Text.trimChars cs) := by
  intro c hc
  rw [Text.trimChars, List.getLast?_reverse] at hc
  exact head?_dropBlank _ c hc

theorem NoTrailingBlank.of_append {p s : List Char} (h : NoTrailingBlank (p ++ s)) :
    NoTrailingBlank s := by
  intro c hc
  have hs : s ≠ [] := by
    rintro rfl
    simp at hc
  have hlast : (p ++ s).getLast? = s.getLast? := by
    rw [List.getLast?_append, Option.or_of_isSome (by simpa using hs)]
  exact h c (by rwa [hlast])

/-- Blanks cannot end a text that has no trailing blank. -/
theorem eq_nil_of_allBlank {p b : List Char} (hb : AllBlank b) (h : NoTrailingBlank (p ++ b)) :
    b = [] := by
  refine Classical.byContradiction fun hne => ?_
  have hlast := h.of_append (b.getLast hne) (List.getLast?_eq_some_getLast hne)
  rw [hb _ (List.getLast_mem hne)] at hlast
  exact Bool.noConfusion hlast

theorem isOpening_cases {o : Char} (h : isOpening o = true) : o = '[' ∨ o = '(' := by
  simpa [isOpening] using h

theorem opening_not_blank {o : Char} (h : isOpening o = true) :
    Text.isBlank o = false ∧ o ≠ ',' ∧ isClosing o = false := by
  rcases isOpening_cases h with rfl | rfl <;> decide

/-! ### Joints -/

theorem skipJoint_of_not_comma {cs : List Char} (h : ∀ d ∈ (Text.dropBlank cs).head?, d ≠ ',') :
    skipJoint cs = Text.dropBlank cs := by
  unfold skipJoint
  split
  · rename_i more heq
    exact absurd rfl (h ',' (by rw [heq]; rfl))
  · rfl

theorem skipJoint_of_comma {cs more : List Char} (h : Text.dropBlank cs = ',' :: more) :
    skipJoint cs = Text.dropBlank more := by
  unfold skipJoint
  rw [h]
  rfl

/-- A joint before an interval is skipped up to the interval's opening bracket. -/
theorem skipJoint_joint {j : List Char} (hj : Joint j) {o : Char} (ho : isOpening o = true)
    (tail : List Char) : skipJoint (j ++ o :: tail) = o :: tail := by
  obtain ⟨hblank, hcomma, -⟩ := opening_not_blank ho
  have hstart := dropBlank_cons_of_not_blank hblank tail
  cases hj with
  | blanks hb =>
    rw [skipJoint_of_not_comma, dropBlank_append hb, hstart]
    rw [dropBlank_append hb, hstart]
    rintro d ⟨⟩
    exact hcomma
  | @comma b₁ b₂ hb₁ hb₂ =>
    -- the blanks before the comma go, then the comma, then the blanks after it
    have hc := dropBlank_cons_of_not_blank comma_not_blank (b₂ ++ o :: tail)
    rw [List.append_assoc, List.cons_append,
      skipJoint_of_comma (by rw [dropBlank_append hb₁, hc]), dropBlank_append hb₂, hstart]

theorem skipJoint_endJoint {e : List Char} (he : EndJoint e) : skipJoint e = [] := by
  cases he with
  | nil => rfl
  | comma hb =>
    have hc := dropBlank_cons_of_not_blank comma_not_blank []
    rw [skipJoint_of_comma (by rw [dropBlank_append hb, hc])]
    rfl

/-- What `skipJoint` removes is a joint. -/
theorem joint_skipJoint (cs : List Char) : ∃ j, Joint j ∧ cs = j ++ skipJoint cs := by
  obtain ⟨b, hb, hcs⟩ := eq_append_dropBlank cs
  by_cases hc : ∃ more, Text.dropBlank cs = ',' :: more
  · obtain ⟨more, hmore⟩ := hc
    obtain ⟨b₂, hb₂, hsplit⟩ := eq_append_dropBlank more
    refine ⟨b ++ ',' :: b₂, Joint.comma hb hb₂, ?_⟩
    rw [skipJoint_of_comma hmore, List.append_assoc, List.cons_append, ← hsplit, ← hmore]
    exact hcs
  · refine ⟨b, Joint.blanks hb, ?_⟩
    rw [skipJoint_of_not_comma]
    · exact hcs
    · rintro d hd rfl
      cases h : Text.dropBlank cs with
      | nil => simp [h] at hd
      | cons d ds =>
        rw [h, List.head?_cons, Option.mem_def, Option.some.injEq] at hd
        exact hc ⟨ds, hd ▸ h⟩

/-- A joint with nothing after it, at the end of a trimmed text, is an end joint. -/
theorem endJoint_of_skipJoint {cs : List Char} (h : skipJoint cs = []) (hcs : NoTrailingBlank cs) :
    EndJoint cs := by
  obtain ⟨j, hj, hsplit⟩ := joint_skipJoint cs
  rw [h, List.append_nil] at hsplit
  subst hsplit
  cases hj with
  | blanks hb =>
    rw [eq_nil_of_allBlank hb (p := []) hcs]
    exact EndJoint.nil
  | @comma b₁ b₂ hb₁ hb₂ =>
    have hlast : b₁ ++ ',' :: b₂ = (b₁ ++ [',']) ++ b₂ := by simp
    rw [hlast] at hcs ⊢
    rw [eq_nil_of_allBlank hb₂ hcs, List.append_nil]
    exact EndJoint.comma hb₁

/-! ### Cutting an interval off -/

/-- An interval is cut off at the first closing bracket after its opening one. -/
theorem splitInterval_eq_some {o c : Char} {inner after : List Char} (ho : isClosing o = false)
    (hinner : Inside inner) (hc : isClosing c = true) :
    splitInterval (o :: inner ++ c :: after) = some (inner, c, after) := by
  have hall : ∀ d ∈ o :: inner, (!isClosing d) = true := by
    intro d hd
    rcases List.mem_cons.1 hd with rfl | hd
    · simp [ho]
    · simp [hinner d hd]
  have hc' : ¬(fun d => !isClosing d) c = true := by simp [hc]
  unfold splitInterval
  rw [List.span_eq_takeWhile_dropWhile, List.takeWhile_append_of_pos hall,
    List.dropWhile_append_of_pos hall, List.takeWhile_cons_of_neg (p := fun d => !isClosing d) hc',
    List.dropWhile_cons_of_neg (p := fun d => !isClosing d) hc', List.append_nil]
  rfl

/-- What `splitInterval` cuts off ends at a closing bracket and holds none before it. -/
theorem eq_of_splitInterval {o c : Char} {tail inner after : List Char} (ho : isClosing o = false)
    (h : splitInterval (o :: tail) = some (inner, c, after)) :
    o :: tail = o :: inner ++ c :: after ∧ Inside inner ∧ isClosing c = true := by
  have hsplit := List.takeWhile_append_dropWhile (p := fun d => !isClosing d) (l := o :: tail)
  have hhead := List.head?_dropWhile_not (fun d => !isClosing d) (o :: tail)
  have htake : (o :: tail).takeWhile (fun d => !isClosing d) =
      o :: tail.takeWhile (fun d => !isClosing d) :=
    List.takeWhile_cons_of_pos (by simp [ho])
  unfold splitInterval at h
  rw [List.span_eq_takeWhile_dropWhile] at h
  -- the text parts at its first closer: what comes before is taken, the closer starts the rest
  cases hd : (o :: tail).dropWhile (fun d => !isClosing d) with
  | nil =>
    rw [hd] at h
    cases h
  | cons c' after' =>
    rw [hd] at h hsplit hhead
    simp only [Option.some.injEq, Prod.mk.injEq] at h
    obtain ⟨hinner, rfl, rfl⟩ := h
    rw [htake, List.drop_one, List.tail_cons] at hinner
    subst hinner
    refine ⟨?_, fun d hd => by simpa using List.mem_takeWhile_imp hd, by simpa using hhead⟩
    rw [← hsplit, htake, List.cons_append]

/-! ### One interval -/

theorem not_mem_of_mem_splitOn {α : Type} [BEq α] [LawfulBEq α] {a : α} :
    ∀ {xs l : List α}, l ∈ xs.splitOn a → a ∉ l
  -- a separator starts a new piece; any other character joins the first piece
  | [], l, hl => by
    rw [List.splitOn_nil, List.mem_singleton] at hl
    simp [hl]
  | x :: xs, l, hl => by
    rw [List.splitOn_cons_eq_if_modifyHead] at hl
    obtain ⟨h, t, ht⟩ := List.exists_cons_of_ne_nil (List.splitOn_ne_nil a xs)
    split at hl
    · rcases List.mem_cons.1 hl with rfl | hl
      · simp
      · exact not_mem_of_mem_splitOn hl
    · rename_i hx
      rw [ht, List.modifyHead_cons] at hl
      rcases List.mem_cons.1 hl with rfl | hl
      · have hh : a ∉ h :=
          not_mem_of_mem_splitOn (show h ∈ xs.splitOn a by rw [ht]; exact List.mem_cons_self)
        rintro (_ | ⟨_, hmem⟩)
        · exact hx (beq_self_eq_true a)
        · exact hh hmem
      · exact not_mem_of_mem_splitOn
          (show l ∈ xs.splitOn a by rw [ht]; exact List.mem_cons_of_mem h hl)

theorem splitOn_sides {lo hi : List Char} (hlo : ',' ∉ lo) (hhi : ',' ∉ hi) :
    (lo ++ ',' :: hi).splitOn ',' = [lo, hi] := by
  rw [List.splitOn_append_cons_self_of_not_mem hlo, List.splitOn_eq_singleton hhi]

theorem sideBound_eq_some {side : List Char} {inclusive : Bool} {b : Bound}
    (h : sideBound side inclusive = some b) :
    Text.trimChars side ≠ [] ∧ b = ⟨⟨String.ofList (Text.trimChars side)⟩, inclusive⟩ := by
  unfold sideBound at h
  cases hcs : Text.trimChars side with
  | nil =>
    rw [hcs] at h
    cases h
  | cons d ds =>
    rw [hcs] at h
    cases h
    exact ⟨List.cons_ne_nil d ds, rfl⟩

theorem sideBound_of_ne_nil {side : List Char} (inclusive : Bool) (h : Text.trimChars side ≠ []) :
    sideBound side inclusive = some ⟨⟨String.ofList (Text.trimChars side)⟩, inclusive⟩ := by
  unfold sideBound
  split
  · contradiction
  · rfl

/-- **Reading an inside without a comma**: it succeeds exactly when the brackets are `[` and
`]` and the inside is not blank, and gives the inside as both bounds. -/
theorem parse_point_eq_ok_iff {text : String} {o c : Char} {x : List Char} {i : Interval}
    (hx : ',' ∉ x) :
    Interval.parse text o x c = .ok i ↔
      o = '[' ∧ c = ']' ∧ Text.trimChars x ≠ [] ∧
        i = ⟨some ⟨⟨String.ofList (Text.trimChars x)⟩, true⟩,
          some ⟨⟨String.ofList (Text.trimChars x)⟩, true⟩⟩ := by
  unfold Interval.parse
  rw [List.splitOn_eq_singleton hx]
  dsimp only
  cases hv : Text.trimChars x with
  | nil => simp
  | cons d ds =>
    dsimp only
    by_cases hbr : o = '[' ∧ c = ']'
    · rw [if_pos (by simpa using hbr)]
      simp only [Except.ok.injEq]
      exact ⟨fun h => ⟨hbr.1, hbr.2, List.cons_ne_nil d ds, h.symm⟩, fun h => h.2.2.2.symm⟩
    · rw [if_neg (by simpa using hbr)]
      simp only [reduceCtorEq, false_iff]
      exact fun ⟨ho, hc, _⟩ => hbr ⟨ho, hc⟩

/-- **Reading an inside with one comma**: it gives the bounds of the two sides, and refuses
exactly when both are bounded and the lower one is above the upper one. -/
theorem parse_sides_eq_ok_iff {text : String} {o c : Char} {lo hi : List Char} {i : Interval}
    (hlo : ',' ∉ lo) (hhi : ',' ∉ hi) :
    Interval.parse text o (lo ++ ',' :: hi) c = .ok i ↔
      i = ⟨sideBound lo (o == '['), sideBound hi (c == ']')⟩ ∧
        (Text.trimChars lo ≠ [] → Text.trimChars hi ≠ [] →
          Version.compare ⟨String.ofList (Text.trimChars lo)⟩
            ⟨String.ofList (Text.trimChars hi)⟩ ≠ .gt) := by
  unfold Interval.parse
  rw [splitOn_sides hlo hhi]
  dsimp only
  split
  · -- both sides bounded: their order decides
    rename_i l u hl hu
    obtain ⟨hl₁, rfl⟩ := sideBound_eq_some hl
    obtain ⟨hu₁, rfl⟩ := sideBound_eq_some hu
    by_cases hgt : Version.compare ⟨String.ofList (Text.trimChars lo)⟩
        ⟨String.ofList (Text.trimChars hi)⟩ = .gt
    · rw [if_pos (beq_iff_eq.2 hgt)]
      simp only [reduceCtorEq, false_iff, not_and]
      exact fun _ hord => hord hl₁ hu₁ hgt
    · rw [if_neg (fun h => hgt (beq_iff_eq.1 h))]
      simp only [Except.ok.injEq]
      exact ⟨fun h => ⟨h.symm, fun _ _ => hgt⟩, fun h => h.1.symm⟩
  · -- an unbounded side: nothing to compare
    rename_i hnot
    simp only [Except.ok.injEq]
    refine ⟨fun h => ⟨h.symm, fun hl₁ hu₁ => ?_⟩, fun h => h.1.symm⟩
    exact absurd (sideBound_of_ne_nil _ hu₁) (hnot _ _ (sideBound_of_ne_nil _ hl₁))

theorem Inside.of_sides {lo hi : List Char} (h : Inside (lo ++ ',' :: hi)) :
    Inside lo ∧ Inside hi :=
  ⟨fun d hd => h d (List.mem_append_left _ hd),
    fun d hd => h d (List.mem_append_right _ (List.mem_cons_of_mem _ hd))⟩

theorem IntervalText.parse_eq {w : List Char} {i : Interval} (h : IntervalText w i) :
    ∃ o inner c, w = o :: inner ++ [c] ∧ isOpening o = true ∧ Inside inner ∧
      isClosing c = true ∧ ∀ text, Interval.parse text o inner c = .ok i := by
  cases h with
  | @sides o c lo hi ho hc hlo hhi hlo' hhi' hord =>
    refine ⟨o, lo ++ ',' :: hi, c, by simp, ho, ?_, hc,
      fun _ => (parse_sides_eq_ok_iff hlo' hhi').2 ⟨rfl, hord⟩⟩
    intro d hd
    rcases List.mem_append.1 hd with hd | hd
    · exact hlo d hd
    · rcases List.mem_cons.1 hd with rfl | hd
      · decide
      · exact hhi d hd
  | @point x hx hx' hne =>
    exact ⟨'[', x, ']', rfl, rfl, hx, rfl,
      fun _ => (parse_point_eq_ok_iff hx').2 ⟨rfl, rfl, hne, rfl⟩⟩

/-- Reading the inside of an interval succeeds only on a written interval. -/
theorem intervalText_of_parse {text : String} {o c : Char} {inner : List Char} {i : Interval}
    (ho : isOpening o = true) (hinner : Inside inner) (hc : isClosing c = true)
    (h : Interval.parse text o inner c = .ok i) : IntervalText (o :: inner ++ [c]) i := by
  have hparts : [','].intercalate (inner.splitOn ',') = inner := List.intercalate_splitOn ','
  have hfree := fun l (hl : l ∈ inner.splitOn ',') => not_mem_of_mem_splitOn hl
  -- the pieces between commas decide the shape of the interval
  rcases hs : inner.splitOn ',' with _ | ⟨single, _ | ⟨hi, _ | ⟨more, rest⟩⟩⟩
  · exact absurd hs (List.splitOn_ne_nil _ _)
  · -- no comma: one version between `[` and `]`
    rw [hs, List.intercalate_singleton] at hparts
    subst hparts
    have hx := hfree single (by rw [hs]; exact List.mem_singleton_self single)
    obtain ⟨rfl, rfl, hne, rfl⟩ := (parse_point_eq_ok_iff hx).1 h
    exact IntervalText.point hinner hx hne
  · -- one comma: two sides
    rw [hs] at hparts hfree
    simp only [List.intercalate_cons_cons, List.intercalate_singleton, List.append_assoc,
      List.singleton_append] at hparts
    subst hparts
    have hlo := hfree single (by simp)
    have hhi := hfree hi (by simp)
    obtain ⟨rfl, hord⟩ := (parse_sides_eq_ok_iff hlo hhi).1 h
    have htext : o :: (single ++ ',' :: hi) ++ [c] = o :: single ++ ',' :: hi ++ [c] := by simp
    rw [htext]
    exact IntervalText.sides ho hc hinner.of_sides.1 hinner.of_sides.2 hlo hhi hord
  · -- more commas: refused
    unfold Interval.parse at h
    rw [hs] at h
    cases h

/-! ### Reading intervals one after another -/

theorem intervalsFrom_nil (fuel : Nat) : intervalsFrom fuel [] = .ok ([], []) := by
  cases fuel <;> rfl

/-- **One round of reading**: an interval at the front is read, then its joint is skipped and
the rest read with one round less. -/
theorem intervalsFrom_succ_interval {fuel : Nat} {o c : Char} {inner after : List Char}
    {i : Interval} (ho : isOpening o = true) (hinner : Inside inner) (hc : isClosing c = true)
    (hi : Interval.parse (String.ofList (o :: inner ++ [c])) o inner c = .ok i) :
    intervalsFrom (fuel + 1) (o :: inner ++ c :: after) =
      (intervalsFrom fuel (skipJoint after)).map fun r => (i :: r.1, r.2) := by
  rw [List.cons_append, intervalsFrom, ← List.cons_append, if_pos ho, splitInterval_eq_some (opening_not_blank ho).2.2 hinner hc]
  dsimp only
  rw [hi]
  cases intervalsFrom fuel (skipJoint after) <;> rfl

/-- **What one round of reading can do**: stop before a text that does not open an interval,
or read one interval and go on after its joint. -/
theorem intervalsFrom_succ_eq_ok {fuel : Nat} {cs left : List Char} {is : List Interval}
    (h : intervalsFrom (fuel + 1) cs = .ok (is, left)) :
    (is = [] ∧ left = cs) ∨
      ∃ o inner c after i more, cs = o :: inner ++ c :: after ∧ isOpening o = true ∧
        Inside inner ∧ isClosing c = true ∧
        Interval.parse (String.ofList (o :: inner ++ [c])) o inner c = .ok i ∧
        intervalsFrom fuel (skipJoint after) = .ok (more, left) ∧ is = i :: more := by
  unfold intervalsFrom at h
  split at h
  · rename_i o tail
    split at h
    · rename_i ho
      cases hs : splitInterval (o :: tail) with
      | none =>
        rw [hs] at h
        cases h
      | some cut =>
        obtain ⟨inner, c, after⟩ := cut
        obtain ⟨hcs, hinner, hc⟩ := eq_of_splitInterval (opening_not_blank ho).2.2 hs
        rw [hs] at h
        dsimp only at h
        obtain ⟨i, hi, h⟩ := Except.bind_eq_ok.1 h
        obtain ⟨⟨more, left'⟩, hm, h⟩ := Except.bind_eq_ok.1 h
        cases h
        exact Or.inr ⟨o, inner, c, after, i, more, hcs, ho, hinner, hc, hi, hm, rfl⟩
    · cases h
      exact Or.inl ⟨rfl, rfl⟩
  · cases h
    exact Or.inl ⟨rfl, rfl⟩

/-- Reading that finds no interval and leaves nothing read from an empty text. -/
theorem eq_nil_of_intervalsFrom {fuel : Nat} {cs : List Char}
    (h : intervalsFrom fuel cs = .ok ([], [])) : cs = [] := by
  cases fuel with
  | zero =>
    cases h
    rfl
  | succ fuel =>
    rcases intervalsFrom_succ_eq_ok h with ⟨-, rfl⟩ | ⟨_, _, _, _, _, _, -, -, -, -, -, -, hne⟩
    · rfl
    · cases hne

theorem IntervalText.opening {w : List Char} {i : Interval} (h : IntervalText w i) :
    ∃ o tail, w = o :: tail ∧ isOpening o = true := by
  obtain ⟨o, inner, c, rfl, ho, -⟩ := h.parse_eq
  exact ⟨o, inner ++ [c], rfl, ho⟩

theorem RangeText.opening {cs : List Char} {is : List Interval} (h : RangeText cs is) :
    ∃ o tail, cs = o :: tail ∧ isOpening o = true := by
  cases h with
  | last hw _ | cons hw _ _ =>
    obtain ⟨o, tail, rfl, ho⟩ := hw.opening
    exact ⟨o, _, rfl, ho⟩

theorem RangeText.ne_nil {cs : List Char} {is : List Interval} (h : RangeText cs is) :
    is ≠ [] := by
  cases h <;> exact List.cons_ne_nil _ _

/-- Each interval takes at least one character, so the intervals are no more than the
characters. -/
theorem RangeText.length_le {cs : List Char} {is : List Interval} (h : RangeText cs is) :
    is.length ≤ cs.length := by
  induction h with
  | last hw _ =>
    obtain ⟨o, tail, rfl, -⟩ := hw.opening
    simp
  | cons hw _ _ ih =>
    obtain ⟨o, tail, rfl, -⟩ := hw.opening
    simp only [List.length_cons, List.length_append]
    omega

/-- **Reading a written range** yields its intervals and leaves nothing, given a round for
each interval. -/
theorem RangeText.intervalsFrom {cs : List Char} {is : List Interval} (h : RangeText cs is) :
    ∀ fuel, is.length ≤ fuel → intervalsFrom fuel cs = .ok (is, []) := by
  induction h with
  | @last w e i hw he =>
    intro fuel hfuel
    obtain ⟨n, rfl⟩ : ∃ n, fuel = n + 1 := ⟨fuel - 1, by simp at hfuel; omega⟩
    obtain ⟨o, inner, c, rfl, ho, hinner, hc, hparse⟩ := hw.parse_eq
    have htext : o :: inner ++ [c] ++ e = o :: inner ++ c :: e := by simp
    rw [htext, intervalsFrom_succ_interval ho hinner hc (hparse _), skipJoint_endJoint he,
      intervalsFrom_nil]
    rfl
  | @cons w j rest i is hw hj hrest ih =>
    intro fuel hfuel
    obtain ⟨n, rfl⟩ : ∃ n, fuel = n + 1 := ⟨fuel - 1, by simp at hfuel; omega⟩
    obtain ⟨o, inner, c, rfl, ho, hinner, hc, hparse⟩ := hw.parse_eq
    obtain ⟨o', tail, rfl, ho'⟩ := hrest.opening
    have htext : o :: inner ++ [c] ++ j ++ o' :: tail = o :: inner ++ c :: (j ++ o' :: tail) := by
      simp
    rw [htext, intervalsFrom_succ_interval ho hinner hc (hparse _), skipJoint_joint hj ho',
      ih n (by simp at hfuel; omega)]
    rfl

/-- **Reading that consumes a trimmed text** and finds an interval reads a written range.
The induction is on the rounds; the text left after each joint is still free of trailing
blanks, which is what makes the last joint an end joint. -/
theorem rangeText_of_intervalsFrom :
    ∀ (fuel : Nat) (cs : List Char) (is : List Interval),
      intervalsFrom fuel cs = .ok (is, []) → is ≠ [] → NoTrailingBlank cs → RangeText cs is
  | 0, cs, is, h, hne, _ => by
    cases h
    exact absurd rfl hne
  | fuel + 1, cs, is, h, hne, hcs => by
    rcases intervalsFrom_succ_eq_ok h with ⟨rfl, -⟩ |
      ⟨o, inner, c, after, i, more, rfl, ho, hinner, hc, hi, hrest, rfl⟩
    · exact absurd rfl hne
    have hw : IntervalText (o :: inner ++ [c]) i := intervalText_of_parse ho hinner hc hi
    have htext : o :: inner ++ c :: after = o :: inner ++ [c] ++ after := by simp
    rw [htext] at hcs ⊢
    have hafter : NoTrailingBlank after := hcs.of_append
    cases more with
    | nil =>
      -- the last interval: its joint is all that is left
      have hend := endJoint_of_skipJoint (eq_nil_of_intervalsFrom hrest) hafter
      exact RangeText.last hw hend
    | cons i' more =>
      obtain ⟨j, hj, hsplit⟩ := joint_skipJoint after
      have hskip : NoTrailingBlank (skipJoint after) := by
        rw [hsplit] at hafter
        exact hafter.of_append
      have hmore := rangeText_of_intervalsFrom fuel _ _ hrest (List.cons_ne_nil i' more) hskip
      rw [hsplit, ← List.append_assoc]
      exact RangeText.cons hw hj hmore

/-- A range read from a text keeps the trimmed text. -/
theorem text_of_parse_eq_ok {t : String} {r : Range} (h : Range.parse t = .ok r) :
    r.text = Text.trim t := by
  unfold Range.parse at h
  obtain ⟨⟨is, left⟩, -, h⟩ := Except.bind_eq_ok.1 h
  dsimp only at h
  split at h
  · cases h
  · split at h
    · cases h
      rfl
    · cases h

/-- **Reading a range succeeds exactly on a written range.** `Range.parse t` gives a range
iff the trimmed `t` is a row of written intervals with joints between them and an end joint
after the last; the range is then the trimmed text with the intervals, in order. -/
theorem parse_eq_ok_iff (t : String) (r : Range) :
    Range.parse t = .ok r ↔
      ∃ is, RangeText (Text.trimChars t.toList) is ∧ r = ⟨Text.trim t, is⟩ := by
  constructor
  · intro h
    unfold Range.parse at h
    obtain ⟨⟨is, left⟩, hm, h⟩ := Except.bind_eq_ok.1 h
    dsimp only at h
    split at h
    · cases h
    · rename_i hne
      split at h
      · rename_i hleft
        cases h
        -- nothing is left, so the reading went through the whole trimmed text
        rw [List.isEmpty_iff.1 hleft] at hm
        exact ⟨is, rangeText_of_intervalsFrom _ _ _ hm (fun h => hne h)
          (noTrailingBlank_trimChars _), rfl⟩
      · cases h
  · rintro ⟨is, hrt, rfl⟩
    unfold Range.parse
    dsimp only
    -- one round per character is more than the intervals need
    rw [hrt.intervalsFrom _ (by have := hrt.length_le; omega)]
    obtain ⟨i, is, rfl⟩ := List.exists_cons_of_ne_nil hrt.ne_nil
    rfl

end PinAudit.Range
