import PinAudit.Proofs.VersionOrder

/-!
# Cutting version texts into items

`cut` reads the lowered characters of a version text one at a time, keeping the token read so
far and the items found before it. Here it is taken apart into one step per character
(`cutStep`) and a last step at the end of the text (`cutFinish`), so that a text made of
pieces is cut piece by piece (`cut_eq_foldl`, `List.foldl_append`).

Two facts about pieces carry the rest. A run of characters of one kind (all digits, or all
other characters that are not separators) only grows the current token
(`foldl_cutStep_run`). A separator ends the current token, whatever it is, as an item read
with no digit after it.

From these follows that a version does not change when groups that stand for null items are
appended to its text: a separator followed by nothing, by zeros, or by `ga`, `final` or
`release` in any case (`NullGroup`). The groups add an item for the token they end and null
items after it, and the end of the text drops all of them again
(`Version.compare_append_nullGroups`). The text itself is arbitrary: it may be empty, or end in
a separator, in a letter or in a digit.

Main statement: `Version.compare_append_nullGroups`.
-/

namespace PinAudit.Version

/-! ### The cut as a fold -/

/-- One character of the cut, on the current token and the items found so far (last first). A
separator ends the token; a switch between digits and other characters ends it and starts a new
one; any other character extends it. -/
def cutStep (st : List Char × List Item) (c : Char) : List Char × List Item :=
  if isSeparator c then ([], Item.ofToken st.1 false :: st.2)
  else
    match st.1.getLast? with
    | some last =>
      if last.isDigit != c.isDigit then ([c], Item.ofToken st.1 c.isDigit :: st.2)
      else (st.1 ++ [c], st.2)
    | none => ([c], st.2)

/-- The end of the text: the last token becomes an item, unless it is empty and items were
found before it. -/
def cutFinish (st : List Char × List Item) : List Item :=
  if st.1.isEmpty && !st.2.isEmpty then st.2 else Item.ofToken st.1 false :: st.2

/-- **The cut is a fold** of `cutStep` over the characters, then `cutFinish`. -/
theorem cut_eq_foldl (cs token : List Char) (done : List Item) :
    cut cs token done = cutFinish (cs.foldl cutStep (token, done)) := by
  induction cs generalizing token done with
  | nil => rfl
  | cons c cs ih =>
    rw [cut, List.foldl_cons, cutStep]
    by_cases hsep : isSeparator c
    · simp only [hsep, if_true]
      exact ih _ _
    · simp only [hsep]
      cases token.getLast? with
      | none => exact ih _ _
      | some last =>
        by_cases hswitch : (last.isDigit != c.isDigit) = true
        · simp only [hswitch, if_true]
          exact ih _ _
        · simp only [hswitch]
          exact ih _ _

/-- The items of a text, through the fold. -/
theorem items_eq_foldl (text : String) :
    items text =
      dropNullTail (cutFinish ((text.toList.map Text.asciiLowerChar).foldl cutStep ([], []))).reverse := by
  rw [items, cut_eq_foldl]

/-- A separator ends the current token as an item read with no digit after it. -/
theorem cutStep_separator {c : Char} (hc : isSeparator c = true) (st : List Char × List Item) :
    cutStep st c = ([], Item.ofToken st.1 false :: st.2) := by
  simp [cutStep, hc]

/-- **A run of characters of one kind** that holds no separator only grows the current token,
when the token is empty or of the same kind. -/
theorem foldl_cutStep_run {p : Bool} {w : List Char}
    (hw : ∀ c ∈ w, isSeparator c = false ∧ c.isDigit = p) :
    ∀ (token : List Char) (done : List Item), (∀ c ∈ token.getLast?, c.isDigit = p) →
      w.foldl cutStep (token, done) = (token ++ w, done) := by
  induction w with
  | nil => intro token done _; simp
  | cons c w ih =>
    intro token done htoken
    have hc := hw c List.mem_cons_self
    -- the character joins the token: there is no token yet, or its last character is alike
    have hstep : cutStep (token, done) c = (token ++ [c], done) := by
      cases hl : token.getLast? with
      | none =>
        have hnil : token = [] := List.getLast?_eq_none_iff.1 hl
        simp [cutStep, hc.1, hnil]
      | some last =>
        have hlast : last.isDigit = p := htoken last hl
        simp [cutStep, hc.1, hl, hlast, hc.2]
    have hrest : ∀ d ∈ w, isSeparator d = false ∧ d.isDigit = p :=
      fun d hd => hw d (List.mem_cons_of_mem c hd)
    rw [List.foldl_cons, hstep, ih hrest (token ++ [c]) done (by simp [hc.2])]
    simp

/-! ### Lowering -/

/-- Lowering changes only the ASCII capitals. -/
theorem asciiLowerChar_of_not_upper {c : Char} (h : ¬ ('A' ≤ c ∧ c ≤ 'Z')) :
    Text.asciiLowerChar c = c := by
  simp [Text.asciiLowerChar, h]

theorem asciiLowerChar_of_isDigit {c : Char} (h : c.isDigit = true) :
    Text.asciiLowerChar c = c := by
  apply asciiLowerChar_of_not_upper
  simp only [Char.isDigit, Bool.and_eq_true, decide_eq_true_eq, Char.le_def,
    UInt32.le_iff_toNat_le, Char.reduceVal, UInt32.reduceToNat] at h ⊢
  omega

theorem asciiLowerChar_of_isSeparator {c : Char} (h : isSeparator c = true) :
    Text.asciiLowerChar c = c := by
  simp only [isSeparator, Bool.or_eq_true, beq_iff_eq] at h
  rcases h with (rfl | rfl) | rfl <;> rfl

/-! ### Null items at the end -/

/-- Null items at the end of a list are dropped with the others. -/
theorem dropNullTail_append_of_isNull {L Z : List Item} (hZ : ∀ z ∈ Z, z.isNull = true) :
    dropNullTail (L ++ Z) = dropNullTail L := by
  unfold dropNullTail
  rw [List.reverse_append, List.dropWhile_append_of_pos fun z hz => hZ z (List.mem_reverse.1 hz)]

/-- Ending the current token with a separator gives the items the end of the text gives, and
at most one null item more: the empty token, which the end of the text leaves out. -/
theorem ofToken_cons_eq_append_cutFinish (st : List Char × List Item) :
    ∃ Z : List Item, (∀ z ∈ Z, z.isNull = true) ∧
      Item.ofToken st.1 false :: st.2 = Z ++ cutFinish st := by
  by_cases h : st.1.isEmpty && !st.2.isEmpty
  · have hnil : st.1 = [] := by
      simp only [Bool.and_eq_true, List.isEmpty_iff] at h
      exact h.1
    refine ⟨[Item.ofToken st.1 false], ?_, ?_⟩
    · simp [hnil, Item.ofToken, Item.isNull]
    · simp [cutFinish, h]
  · exact ⟨[], by simp, by simp [cutFinish, h]⟩

/-! ### Null groups -/

/-- The words that fold to the empty qualifier. -/
def releaseWords : List (List Char) :=
  [['g', 'a'], ['f', 'i', 'n', 'a', 'l'], ['r', 'e', 'l', 'e', 'a', 's', 'e']]

/-- **A group that adds only null items** after a version text: a separator followed by
nothing, by a run of zeros, or by `ga`, `final` or `release` in any ASCII case. -/
inductive NullGroup : List Char → Prop
  | bare {sep : Char} : isSeparator sep = true → NullGroup [sep]
  | zeros {sep : Char} (n : Nat) : isSeparator sep = true →
      NullGroup (sep :: List.replicate (n + 1) '0')
  | release {sep : Char} {w : List Char} : isSeparator sep = true →
      w.map Text.asciiLowerChar ∈ releaseWords → NullGroup (sep :: w)

/-- A release word read as a token is the empty qualifier. -/
theorem ofToken_releaseWord {w : List Char} (hw : w ∈ releaseWords) :
    Item.ofToken w false = .qualifier "" := by
  simp only [releaseWords, List.mem_cons, List.not_mem_nil, or_false] at hw
  rcases hw with rfl | rfl | rfl <;> decide

theorem releaseWord_run {w : List Char} (hw : w ∈ releaseWords) :
    ∀ c ∈ w, isSeparator c = false ∧ c.isDigit = false := by
  simp only [releaseWords, List.mem_cons, List.not_mem_nil, or_false] at hw
  rcases hw with rfl | rfl | rfl <;> simp [isSeparator]

/-- **One null group** ends the current token and leaves a token that reads as a null item. -/
theorem foldl_nullGroup {g : List Char} (hg : NullGroup g) (st : List Char × List Item) :
    ∃ C, (Item.ofToken C false).isNull = true ∧
      (g.map Text.asciiLowerChar).foldl cutStep st = (C, Item.ofToken st.1 false :: st.2) := by
  cases hg with
  | bare hsep =>
    refine ⟨[], rfl, ?_⟩
    simp [asciiLowerChar_of_isSeparator hsep, cutStep_separator hsep]
  | zeros n hsep =>
    -- the zeros make one token of digits, read as the number zero
    have hzeros : (List.replicate (n + 1) '0').map Text.asciiLowerChar = List.replicate (n + 1) '0' := by
      simp [List.map_replicate, asciiLowerChar_of_isDigit (c := '0') rfl]
    have hrun := foldl_cutStep_run (p := true) (w := List.replicate (n + 1) '0')
      (fun c hc => by rw [List.eq_of_mem_replicate hc]; exact ⟨rfl, rfl⟩) [] (Item.ofToken st.1 false :: st.2)
      (by simp)
    refine ⟨List.replicate (n + 1) '0', ?_, ?_⟩
    · simp [Item.ofToken, Item.isNull, stripZeros]
    · rw [List.map_cons, asciiLowerChar_of_isSeparator hsep, hzeros, List.foldl_cons,
        cutStep_separator hsep, hrun, List.nil_append]
  | release hsep hw =>
    have hrun := foldl_cutStep_run (releaseWord_run hw) [] (Item.ofToken st.1 false :: st.2)
      (by simp)
    refine ⟨_, by rw [ofToken_releaseWord hw]; rfl, ?_⟩
    rw [List.map_cons, asciiLowerChar_of_isSeparator hsep, List.foldl_cons, cutStep_separator hsep,
      hrun, List.nil_append]

/-- The end of the text after a token that reads as a null item adds at most that item. -/
theorem cutFinish_of_isNull {C : List Char} (hC : (Item.ofToken C false).isNull = true)
    (P : List Item) : ∃ Z : List Item, (∀ z ∈ Z, z.isNull = true) ∧ cutFinish (C, P) = Z ++ P := by
  unfold cutFinish
  split
  · exact ⟨[], by simp, rfl⟩
  · exact ⟨[Item.ofToken C false], by simpa using hC, rfl⟩

/-- **Null groups add only null items**: the end of the text after them gives the items it gives
without them, with null items in front. -/
theorem cutFinish_foldl_nullGroups {gs : List (List Char)} (hgs : ∀ g ∈ gs, NullGroup g)
    (st : List Char × List Item) :
    ∃ Z : List Item, (∀ z ∈ Z, z.isNull = true) ∧
      cutFinish ((gs.flatten.map Text.asciiLowerChar).foldl cutStep st) = Z ++ cutFinish st := by
  induction gs generalizing st with
  | nil => exact ⟨[], by simp, by simp⟩
  | cons g gs ih =>
    -- the first group ends the token of `st` and leaves a null token `C` for the rest to end
    obtain ⟨C, hC, hfold⟩ := foldl_nullGroup (hgs g List.mem_cons_self) st
    obtain ⟨Z, hZ, hrest⟩ := ih (fun g' hg' => hgs g' (List.mem_cons_of_mem g hg'))
      (C, Item.ofToken st.1 false :: st.2)
    obtain ⟨Z₁, hZ₁, hC'⟩ := cutFinish_of_isNull hC (Item.ofToken st.1 false :: st.2)
    obtain ⟨Z₂, hZ₂, hst⟩ := ofToken_cons_eq_append_cutFinish st
    refine ⟨Z ++ Z₁ ++ Z₂, ?_, ?_⟩
    · intro z hz
      simp only [List.mem_append] at hz
      rcases hz with (hz | hz) | hz
      · exact hZ z hz
      · exact hZ₁ z hz
      · exact hZ₂ z hz
    · rw [List.flatten_cons, List.map_append, List.foldl_append, hfold, hrest, hC', hst]
      simp only [List.append_assoc]

/-! ### Versions with null groups appended -/

/-- **Appending null groups does not change a version**: for every text `t` and every suffix
made of groups that are a separator followed by nothing, by zeros, or by `ga`, `final` or
`release` in any case, the version of `t` with the suffix is equal to the version of `t`. -/
theorem compare_append_nullGroups (t : String) {gs : List (List Char)}
    (hgs : ∀ g ∈ gs, NullGroup g) :
    Version.compare ⟨t ++ String.ofList gs.flatten⟩ ⟨t⟩ = .eq := by
  rw [compare_eq_eq_iff]
  show items (t ++ String.ofList gs.flatten) = items t
  rw [items_eq_foldl, items_eq_foldl, String.toList_append, String.toList_ofList, List.map_append,
    List.foldl_append]
  -- the groups put null items in front of what the end of `t` gives, and those come last
  obtain ⟨Z, hZ, hgroups⟩ := cutFinish_foldl_nullGroups hgs
    ((t.toList.map Text.asciiLowerChar).foldl cutStep ([], []))
  rw [hgroups, List.reverse_append,
    dropNullTail_append_of_isNull fun z hz => hZ z (List.mem_reverse.1 hz)]

/-- `1-b` stays `1-b` with a separator, a run of zeros and `Final` appended; the `b` is not
read as `beta`, since no digit follows it directly. -/
theorem compare_append_nullGroups_oneB :
    (∀ g ∈ [['.'], ['-', '0', '0', '0'], ['_', 'F', 'i', 'n', 'a', 'l']], NullGroup g) ∧
      Version.compare
        ⟨"1-b" ++ String.ofList [['.'], ['-', '0', '0', '0'], ['_', 'F', 'i', 'n', 'a', 'l']].flatten⟩
        ⟨"1-b"⟩ = .eq := by
  have hfinal : ['F', 'i', 'n', 'a', 'l'].map Text.asciiLowerChar = ['f', 'i', 'n', 'a', 'l'] := by
    decide
  have hgroups : ∀ g ∈ [['.'], ['-', '0', '0', '0'], ['_', 'F', 'i', 'n', 'a', 'l']],
      NullGroup g := by
    intro g hg
    simp only [List.mem_cons, List.not_mem_nil, or_false] at hg
    rcases hg with rfl | rfl | rfl
    · exact NullGroup.bare rfl
    · exact NullGroup.zeros 2 rfl
    · exact NullGroup.release rfl (by rw [hfinal]; simp [releaseWords])
  exact ⟨hgroups, compare_append_nullGroups "1-b" hgroups⟩

end PinAudit.Version
